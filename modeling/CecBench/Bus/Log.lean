import CecBench.Frame.Basic

/-!
# The bus log

The frames seen in one session, in the order in which they came.  The log only grows.  A *cursor* is a
number of frames: what stands in the log from a cursor on came after the cursor was taken.
-/

namespace CecBench

/-- The frames seen, oldest first. -/
structure BusLog where
  /-- The frames. -/
  frames : List Frame := []

namespace BusLog

/-- The number of frames. -/
def size (log : BusLog) : Nat := log.frames.length

/-- The log with one more frame. -/
def append (log : BusLog) (f : Frame) : BusLog := ⟨log.frames ++ [f]⟩

/-- The frames from a cursor on. -/
def since (log : BusLog) (cursor : Nat) : List Frame := log.frames.drop cursor

/-- The frames from a bound on, which counts from the end if it is negative. -/
def snapshot (log : BusLog) (start : Int) : List Frame := slice log.frames start none

/-- The last frames, at most as many as given. -/
def recent (log : BusLog) (count : Nat) : List Frame := log.since (log.size - count)

end BusLog

end CecBench
