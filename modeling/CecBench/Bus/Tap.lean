import CecBench.Bus.Expectation
import CecBench.Bus.Monitor

/-!
# A monitor on a stream

A tap is a monitor and the stream that it reads.  The monitor has always read all it can.
-/

namespace CecBench

/-- A monitor and its stream. -/
structure Tap where
  /-- The monitor. -/
  monitor : Monitor
  /-- The stream. -/
  stream : Stream

/-- What happens to a stream. -/
structure StreamEvent where
  /-- What it is given. -/
  chunks : List Chunk
  /-- It ends behind that. -/
  ends : Bool

namespace Tap

/-- The tap after the monitor has read all it can. -/
def settle (now : Nat) (tap : Tap) : Tap :=
  let (monitor, stream) := tap.monitor.drain now tap.stream
  { monitor, stream }

/-- The tap after something happened to its stream. -/
def take (now : Nat) (e : StreamEvent) (tap : Tap) : Tap :=
  let stream := tap.stream.push e.chunks
  Tap.settle now { tap with stream := if e.ends then stream.finish else stream }

instance : Unfolds Tap StreamEvent := ⟨take⟩

/-- A computation on a tap. -/
abbrev Act := Timed Tap StreamEvent

/-- Lets something happen to the stream now. -/
def feed (e : StreamEvent) : Act Unit := do
  let now ← Timed.now
  Timed.update (take now e)

/-- Waits until the console is ready, and tells whether it is. -/
def awaitReady (timeout : Int) : Act Bool := do
  Timed.measure timeout
  let _ ← Timed.await (fun tap => tap.monitor.readinessIsKnown) timeout
  return (← Timed.state).monitor.isReady

/-- Tells the monitor to stop, and waits for its end. -/
def close (timeout : Int) : Act Unit := do
  Timed.update fun tap => { tap with monitor := tap.monitor.stop }
  unless (← Timed.state).monitor.hasEnded do
    Timed.measure timeout
    let _ ← Timed.await (fun tap => tap.monitor.hasEnded) timeout

/-- The frames seen. -/
def log (tap : Tap) : BusLog := tap.monitor.log

end Tap

end CecBench
