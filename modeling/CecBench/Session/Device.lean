import CecBench.Timeline

/-!
# The device under test

The tool never talks to the device itself.  It is handed something that knows when the device has
booted and which features it declares.
-/

namespace CecBench

/-- What is known of the device under test. -/
structure Device where
  /-- How long it takes to boot, in milliseconds. -/
  bootTime : Int := 0
  /-- The features that it declares. -/
  features : List String := []
  deriving Repr

namespace Device

/-- The feature of a device that takes part in the bus. -/
def busFeature : String := "android.hardware.hdmi.cec"

/-- The device declares that it takes part in the bus. -/
def supportsBus (d : Device) : Bool := d.features.contains busFeature

/-- Waits until the device has booted, at most the given time. -/
def awaitBoot {σ ε : Type} [Unfolds σ ε] (d : Device) (timeout : Int) (context : String) :
    Timed σ ε Unit := do
  Timed.sleep (min d.bootTime timeout)
  unless d.bootTime ≤ timeout do throw (.deviceNotReady context timeout)

end Device

end CecBench
