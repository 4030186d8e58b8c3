import CecBench.Bus.Log
import CecBench.Timeline

/-!
# Expectations

An expectation is a condition on frames, a cursor, and some words for what is expected.  Waiting for it
looks at the frames of the log from the cursor on, each of them once and in order: first at those that
are there, then at every new one as it comes.  The first frame that satisfies the condition ends the
wait, and so does a condition that fails.  If the time is over first, the report tells what was seen.
With no time at all, only the frames that are there are looked at.

An expectation can be waited for once.
-/

namespace CecBench

/-- A condition on frames that may fail. -/
abbrev FramePredicate := Frame → Except Fault Bool

/-- The condition as a predicate. -/
def FrameTest.predicate (test : FrameTest) : FramePredicate := fun f =>
  (test.holds f).mapError Fault.index

/-- Something expected on the bus. -/
structure Expectation where
  /-- The condition. -/
  accepts : FramePredicate
  /-- The first frame of the log to look at. -/
  cursor : Nat
  /-- What is expected, in words. -/
  description : String
  /-- It was waited for. -/
  isSpent : Bool

namespace Expectation

/-- The words for a condition that nobody described. -/
def usualDescription : String := "predicate"

/-- A new expectation.  The cursor may not be negative. -/
def build (accepts : FramePredicate) (cursor : Int) (description : String) :
    Except Fault Expectation :=
  if cursor < 0 then .error (.cursor cursor)
  else
    let description := if description.isEmpty then usualDescription else description
    .ok { accepts, cursor := cursor.toNat, description, isSpent := false }

/-- The most frames that a report lists. -/
def reportedFrames : Nat := 10

/-! ## Looking at frames -/

/-- The first of the frames that satisfies the condition, unless the condition fails before. -/
def firstAccepted (accepts : FramePredicate) : List Frame → Except Fault (Option Frame)
  | [] => .ok none
  | f :: rest =>
    match accepts f with
    | .error e => .error e
    | .ok true => .ok (some f)
    | .ok false => firstAccepted accepts rest

/-- How looking for a frame ends. -/
inductive Finding
  /-- With a frame. -/
  | found (f : Frame)
  /-- With a fault of the condition. -/
  | failed (e : Fault)
  /-- With the end of the time, after looking at as many frames. -/
  | expired (scanned : Nat)

variable {σ ε : Type} [Unfolds σ ε]

/-- Looks at the frames of the log from a position on until the deadline.  `scanned` counts the frames
looked at before. -/
def seek (log : σ → BusLog) (accepts : FramePredicate) (deadline : Nat) (position scanned : Nat)
    (t : Timeline σ ε) : Finding × Timeline σ ε :=
  let fresh := (log t.state).since position
  match firstAccepted accepts fresh with
  | .error e => (.failed e, t)
  | .ok (some f) => (.found f, t)
  | .ok none =>
    let position := position + fresh.length
    let scanned := scanned + fresh.length
    if _ : t.now < deadline then
      let next := Timeline.advance (fun s => position < (log s).size) deadline t.agenda t.state
      have : next.2.agenda.length < t.agenda.length ∨
          (next.2.agenda.length ≤ t.agenda.length ∧ next.2.now = deadline) :=
        Timeline.advance_progress _ _ _ _
      seek log accepts deadline position scanned next.2
    else (.expired scanned, t)
termination_by (t.agenda.length, deadline - t.now)
decreasing_by
  rcases this with h' | ⟨h', h''⟩
  · exact Prod.Lex.left _ _ h'
  · rcases Nat.lt_or_eq_of_le h' with h' | h'
    · exact Prod.Lex.left _ _ h'
    · refine Prod.lex_def.2 (.inr ⟨h', ?_⟩)
      show deadline - next.2.now < deadline - t.now
      omega

/-! ## Waiting -/

/-- The expectation once it was waited for. -/
def spend (e : Expectation) : Expectation := { e with isSpent := true }

/-- Waits for the expectation in the log of the state. -/
def await (log : σ → BusLog) (e : Expectation) (timeout : Int) (context : String) :
    Timed σ ε Frame := fun t =>
  if e.isSpent then .error (.spent context e.description) t
  else if timeout < 0 then .error (.timeoutRange context timeout) t
  else if !isMeasurable timeout then .error .immeasurable t
  else
    match seek log e.accepts (t.now + timeout.toNat) e.cursor 0 t with
    | (.found f, t') => .ok f t'
    | (.failed fault, t') => .error fault t'
    | (.expired scanned, t') =>
      let report : TimeoutReport := {
        context := context
        timeout := timeout
        description := e.description
        observed := (log t'.state).size - (log t.state).size
        scanned := scanned
        elapsed := t'.now - t.now
        recent := (log t'.state).recent reportedFrames
      }
      .error (.notSeen report) t'

/-- Waits for the expectation, and gives it back spent. -/
def waitFor (log : σ → BusLog) (e : Expectation) (timeout : Int) (context : String)
    (t : Timeline σ ε) : Expectation × EStateM.Result Fault (Timeline σ ε) Frame :=
  (e.spend, e.await log timeout context t)

end Expectation

/-- Waits until the log has more frames than known, and tells how many it has then. -/
def BusLog.awaitMore {σ ε : Type} [Unfolds σ ε] (log : σ → BusLog) (known timeout : Int) :
    Timed σ ε Nat := do
  Timed.measure timeout
  if 0 < timeout then
    let _ ← Timed.await (fun s => known < (log s).size) timeout
  return (log (← Timed.state)).size

/-- A log by itself takes frames as events. -/
instance : Unfolds BusLog Frame := ⟨fun _ f log => log.append f⟩

end CecBench
