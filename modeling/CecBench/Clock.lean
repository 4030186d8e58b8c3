import CecBench.Text.FixedPoint

/-!
# Clocks

Time is counted in whole milliseconds, and that does not tell all there is to a clock.

A clock can run on between two looks at it.  Whoever waits for 250 milliseconds then finds a little
more than that between a look before and a look behind, and in tenths of a second this is 0.3.  On a
clock that stands in between it is 0.25 seconds, which is 0.2, for of two tenths that are as near the
even one is taken.  A time that is no binary fraction is nearer to one of them: 150 milliseconds are
0.1, and 350 are 0.3.

A clock can refuse to let a negative time pass, as the clock of a machine does.  A clock that is moved
by hand takes it for no time.
-/

namespace CecBench

/-- A clock, in what whole milliseconds do not tell. -/
structure Clock where
  /-- It runs on between two looks, by less than half a millisecond. -/
  runsOn : Bool := true
  /-- It lets no negative time pass.  Otherwise such a time is none. -/
  refusesNegative : Bool := false
  deriving DecidableEq, Repr

namespace Clock

/-- The clock of a machine. -/
def ofMachine : Clock := { refusesNegative := true }

/-- What is found between two looks that are so many milliseconds apart: a number of seconds, as a
fraction. -/
def between (c : Clock) (ms : Nat) : Nat × Nat :=
  if c.runsOn then (4 * ms + 1, 4000) else Text.binarySeconds ms

/-- The tenths of a second that are shown for it. -/
def tenths (c : Clock) (ms : Nat) : Nat :=
  let (num, den) := c.between ms
  Text.nearest (10 * num) den

/-- What is shown for it, in seconds. -/
def seconds (c : Clock) (ms : Nat) : String := Text.tenths (c.tenths ms)

end Clock

end CecBench
