import CecBench.Fault

/-!
# Time

Time moves only while something waits.  A timeline has a clock, a state, and an agenda of events that
change the state at known times.  Whoever waits says what for and how long.  Events then happen one by
one, the clock moving to each of them, until the state is as wished or the time is over.  An event that
is due at the very end of the wait still happens.  Events of one time happen in the order in which they
were put on the agenda.

A time that a caller gives can be too long to be measured.  It is then refused, whether or not there
is something to wait for.

`Timed` is the computations that run on a timeline and may end in a fault.  What such a computation did
before a fault stays done.
-/

namespace CecBench

/-- States that events change. -/
class Unfolds (σ : Type) (ε : outParam Type) where
  /-- The state after an event that happens at the given time. -/
  unfold : Nat → ε → σ → σ

/-- The least time that is too long to be measured, in milliseconds.  A time is measured by 53 binary
digits and an exponent.  The greatest number of this kind is `(2 ^ 53 - 1) * 2 ^ 971`, and the limit,
`(2 ^ 54 - 1) * 2 ^ 970`, lies half a unit of its last digit above it. -/
def immeasurableTime : Nat := (Nat.pow 2 54 - 1) * Nat.pow (Nat.pow 2 194) 5

/-- The time, or its amount if it is negative, can be measured. -/
def isMeasurable (duration : Int) : Bool := decide (duration.natAbs < immeasurableTime)

/-- A clock in milliseconds, a state, and the events to come. -/
structure Timeline (σ ε : Type) where
  /-- The time. -/
  now : Nat := 0
  /-- The events to come with their times, the next one first. -/
  agenda : List (Nat × ε) := []
  /-- The state. -/
  state : σ

/-- A computation on a timeline that may end in a fault. -/
abbrev Timed (σ ε : Type) := EStateM Fault (Timeline σ ε)

namespace Timeline

variable {σ ε : Type}

/-- The agenda with one more event, behind the events of the same time. -/
def insert (time : Nat) (e : ε) : List (Nat × ε) → List (Nat × ε)
  | [] => [(time, e)]
  | x :: rest => if x.1 ≤ time then x :: insert time e rest else (time, e) :: x :: rest

/-- The timeline with one more event, a number of milliseconds from now. -/
def schedule (t : Timeline σ ε) (after : Nat) (e : ε) : Timeline σ ε :=
  { t with agenda := insert (t.now + after) e t.agenda }

/-- The timeline with several more events. -/
def scheduleAll (t : Timeline σ ε) (events : List (Nat × ε)) : Timeline σ ε :=
  events.foldl (fun t e => t.schedule e.1 e.2) t

/-- Lets events happen until the state is as wished or nothing more is due by the deadline. -/
def advance [Unfolds σ ε] (wished : σ → Bool) (deadline : Nat) :
    List (Nat × ε) → σ → Bool × Timeline σ ε
  | [], s => (false, ⟨deadline, [], s⟩)
  | (time, e) :: rest, s =>
    if time ≤ deadline then
      let s := Unfolds.unfold time e s
      if wished s then (true, ⟨time, rest, s⟩) else advance wished deadline rest s
    else (false, ⟨deadline, (time, e) :: rest, s⟩)

/-- Waiting takes an event from the agenda or ends at the deadline. -/
theorem advance_progress [Unfolds σ ε] (wished : σ → Bool) (deadline : Nat)
    (agenda : List (Nat × ε)) (s : σ) :
    (advance wished deadline agenda s).2.agenda.length < agenda.length ∨
      ((advance wished deadline agenda s).2.agenda.length ≤ agenda.length ∧
        (advance wished deadline agenda s).2.now = deadline) := by
  induction agenda generalizing s with
  | nil => exact .inr ⟨Nat.le_refl _, rfl⟩
  | cons x rest ih =>
    obtain ⟨time, e⟩ := x
    unfold advance
    split
    · dsimp only
      split
      · exact .inl (Nat.lt_succ_self _)
      · rcases ih (Unfolds.unfold time e s) with h | h
        · exact .inl (Nat.lt_succ_of_lt h)
        · exact .inl (Nat.lt_succ_of_le h.1)
    · exact .inr ⟨Nat.le_refl _, rfl⟩

/-- Waits until the state is as wished, at most the given time, and tells whether it is.  A negative
time counts as none. -/
def wait [Unfolds σ ε] (wished : σ → Bool) (timeout : Int) (t : Timeline σ ε) :
    Bool × Timeline σ ε :=
  if wished t.state then (true, t)
  else advance wished (t.now + timeout.toNat) t.agenda t.state

end Timeline

namespace Timed

variable {σ ε : Type}

/-- The state. -/
def state : Timed σ ε σ := do return (← get).state

/-- The time. -/
def now : Timed σ ε Nat := do return (← get).now

/-- Changes the state. -/
def update (f : σ → σ) : Timed σ ε Unit :=
  modify fun t => { t with state := f t.state }

/-- Puts events on the agenda. -/
def schedule (events : List (Nat × ε)) : Timed σ ε Unit :=
  modify fun t => t.scheduleAll events

/-- Refuses a time that cannot be measured. -/
def measure (duration : Int) : Timed σ ε Unit :=
  if isMeasurable duration then pure () else throw .immeasurable

/-- Waits until the state is as wished, and tells whether it is. -/
def await [Unfolds σ ε] (wished : σ → Bool) (timeout : Int) : Timed σ ε Bool := fun t =>
  let (met, t) := t.wait wished timeout
  .ok met t

/-- Lets time pass. -/
def sleep [Unfolds σ ε] (duration : Int) : Timed σ ε Unit := do
  let _ ← await (fun _ => false) duration

/-- A result, or the fault that stands for its error. -/
def lift {α η : Type} (fault : η → Fault) : Except η α → Timed σ ε α
  | .ok a => pure a
  | .error e => throw (fault e)

end Timed

end CecBench
