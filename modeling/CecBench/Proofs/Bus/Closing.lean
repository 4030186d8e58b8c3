import CecBench.Proofs.Bus.Tap
import CecBench.Proofs.Conduct

/-!
# Closing a monitor

A monitor that is told to stop may be waiting for a line.  It then reads that
line, if one ever comes, and ends.  `WindsDown` says so of a tap whose monitor
was told to stop after it had read some lines: of all that the stream delivers
since then, however much that is, the monitor reads the first line and no other,
and it has ended once there was a line or the stream has closed.  Events keep
this (`WindsDown.take`, `WindsDown.replay`), and closing brings it about
(`Follows.stopped`).

Behind the first close the foreground may do all that it did before, and close
again.  `Step.replays` and `close_elapses` tell what each of these steps lets
happen, so the course that follows a close winds down for good.
-/

namespace CecBench

open Timeline (Elapses replay)
open Timed (behind)

namespace Monitor

theorem stop_of_stopping {m : Monitor} (h : m.isStopping = true) : m.stop = m := by
  rw [Monitor.stop, ← h]

end Monitor

namespace Tap

variable {codec : Codec} {tailSize : Nat} {observer : Option Observer}
  {past news : List (Nat × StreamEvent)} {tap : Tap}

/-! ## The line that is waited for -/

/-- The first line that a stream delivers, if it delivers any. -/
def firstLine (news : List (Nat × StreamEvent)) : List Reading := (readings news).take 1

/-- The stream delivers a line or closes, and so ends a read that waits. -/
def endsRead (news : List (Nat × StreamEvent)) : Bool :=
  isClosed news || !(readings news).isEmpty

theorem endsRead_append (news later : List (Nat × StreamEvent)) :
    endsRead (news ++ later) = (endsRead news || endsRead later) := by
  rw [endsRead, endsRead, endsRead, isClosed_append, readings_append]
  cases isClosed news with
  | true => simp only [Bool.true_or]
  | false => cases readings news <;> simp

theorem firstLine_append (news later : List (Nat × StreamEvent)) :
    firstLine (news ++ later) = if endsRead news then firstLine news else firstLine later := by
  rw [firstLine, firstLine, firstLine, endsRead, readings_append]
  cases isClosed news with
  | true => simp
  | false => cases readings news <;> simp

theorem firstLine_of_single (now : Nat) (e : StreamEvent) :
    firstLine [(now, e)] = ((Monitor.linesOf e.chunks).map (now, ·)).take 1 := by
  rw [firstLine, readings, readings, ite_self, List.append_nil]

theorem endsRead_of_single (now : Nat) (e : StreamEvent) :
    endsRead [(now, e)] = (e.ends || !e.chunks.isEmpty) := by
  rw [endsRead, isClosed_cons, readings, readings, ite_self, List.append_nil, List.isEmpty_map,
    StreamEvent.closes]
  cases e.chunks with
  | nil => simp [Monitor.linesOf, isClosed]
  | cons chunk rest =>
    -- A chunk has text and is a line, or it has none and closes the stream.
    cases hc : chunk.text? <;> simp [Monitor.linesOf, isClosed, hc]

/-! ## Events after the stop -/

/-- The tap with its monitor told to stop. -/
def stopped (tap : Tap) : Tap := { tap with monitor := tap.monitor.stop }

/-- The monitor was told to stop after the past, and since then there were the news. -/
structure WindsDown (codec : Codec) (tailSize : Nat) (observer : Option Observer)
    (past news : List (Nat × StreamEvent)) (tap : Tap) : Prop where
  /-- Unless it had ended, it has read the first line of the news. -/
  knows : Monitor.Knows codec tailSize observer
    (readings past ++ if isClosed past then [] else firstLine news) tap.monitor
  /-- It was told to stop. -/
  stops : tap.monitor.isStopping = true
  /-- It has ended if it had ended before, or if the news end a read that waits. -/
  hasEnded : tap.monitor.hasEnded = (isClosed past || endsRead news)
  /-- Unless it has ended, nothing waits to be read. -/
  idle : tap.monitor.hasEnded = false → tap.stream = {}

/-- A tap that has followed its past winds down once its monitor is told to stop. -/
theorem Follows.stopped (h : Follows codec tailSize observer past tap) :
    WindsDown codec tailSize observer past [] tap.stopped where
  knows := by
    rw [firstLine, readings, List.take_nil, ite_self, List.append_nil]
    exact h.knows.stop
  stops := rfl
  hasEnded := h.hasEnded.trans (Bool.or_false _).symm
  idle := h.idle

theorem WindsDown.take (h : WindsDown codec tailSize observer past news tap) (now : Nat)
    (e : StreamEvent) :
    WindsDown codec tailSize observer past (news ++ [(now, e)]) (tap.take now e) := by
  have hknows := h.knows
  have hended := h.hasEnded
  cases he : tap.monitor.hasEnded with
  | true =>
    have htake := tap.take_of_ended now e he
    rw [he] at hended
    refine ⟨?_, ?_, ?_, fun hf => ?_⟩
    · rw [htake, firstLine_append]
      cases hpast : isClosed past with
      | true =>
        rw [hpast, if_pos rfl] at hknows
        exact hknows
      | false =>
        rw [hpast, Bool.false_or] at hended
        rw [hpast] at hknows
        rw [← hended, if_pos rfl]
        exact hknows
    · rw [htake, h.stops]
    · rw [htake, he, endsRead_append, ← Bool.or_assoc, ← hended, Bool.true_or]
    · rw [htake, he] at hf
      cases hf
  | false =>
    -- Nothing has come since the stop, so the monitor reads the first line that the event brings.
    rw [he] at hended
    obtain ⟨hpast, hnews⟩ := Bool.or_eq_false_iff.mp hended.symm
    have hfirst : firstLine news = [] := by
      rw [endsRead, Bool.or_eq_false_iff] at hnews
      have hnone : readings news = [] := by simpa using hnews.2
      rw [firstLine, hnone, List.take_nil]
    rw [hpast, hfirst, if_neg Bool.false_ne_true, List.append_nil] at hknows
    obtain ⟨hknows', hstops', hended', hidle'⟩ :=
      hknows.readOn_stopping now e.ends e.chunks h.stops he
    rw [take_of_idle now e he (h.idle he)]
    refine ⟨?_, hstops', ?_, fun hf => ?_⟩
    · rw [firstLine_append, hnews, hpast, if_neg Bool.false_ne_true, if_neg Bool.false_ne_true,
        firstLine_of_single]
      exact hknows'
    · rw [endsRead_append, hnews, hpast, Bool.false_or, Bool.false_or, endsRead_of_single]
      exact hended'
    · rw [hidle' hf]
      rw [hended', Bool.or_eq_false_iff] at hf
      rw [hf.1]

theorem WindsDown.replay (h : WindsDown codec tailSize observer past news tap)
    (later : List (Nat × StreamEvent)) :
    WindsDown codec tailSize observer past (news ++ later) (replay later tap) := by
  induction later generalizing news tap with
  | nil => simpa using h
  | cons x later ih =>
    have hrest := ih (h.take x.1 x.2)
    rwa [List.append_assoc] at hrest

/-- Telling a monitor to stop again changes nothing. -/
theorem WindsDown.stopped (h : WindsDown codec tailSize observer past news tap) :
    tap.stopped = tap := by
  rw [Tap.stopped, Monitor.stop_of_stopping h.stops]

/-! ## Closing -/

/-- What is left of closing once the monitor is told to stop. -/
def awaitEnd (timeout : Int) : Act Unit := do
  unless (← Timed.state).monitor.hasEnded do
    Timed.measure timeout
    let _ ← Timed.await (fun tap => tap.monitor.hasEnded) timeout

theorem close_apply (timeout : Int) (t : Timeline Tap StreamEvent) :
    close timeout t = awaitEnd timeout { t with state := t.state.stopped } := rfl

theorem waits_awaitEnd (timeout : Int) : (awaitEnd timeout).Waits := by
  refine Timed.waits_state.bind fun tap => ?_
  split
  · exact Timed.waits_pure ()
  · refine (Timed.waits_measure timeout).bind fun _ => ?_
    exact (Timed.waits_await _ timeout).bind fun _ => Timed.waits_pure ()

/-- Closing tells the monitor to stop, and then time passes. -/
theorem close_elapses (timeout : Int) {t : Timeline Tap StreamEvent} (ho : t.Ordered) :
    ∃ news, Elapses { t with state := t.state.stopped } news (behind (close timeout) t) :=
  waits_awaitEnd timeout _ (ho.withState _)

/-- If the monitor has ended, closing does nothing but tell it to stop. -/
theorem close_of_ended (timeout : Int) {t : Timeline Tap StreamEvent}
    (h : t.state.monitor.hasEnded = true) :
    close timeout t = .ok () { t with state := t.state.stopped } := by
  have hended : t.state.stopped.monitor.hasEnded = true := h
  simp only [close_apply, awaitEnd, Timed.state_bind, hended, if_true]
  rfl

/-! ## The course behind a close -/

/-- The state behind a step is what has happened makes of the state before. -/
theorem Step.replays (step : Step) {t : Timeline Tap StreamEvent} (ho : t.Ordered) :
    (behind step.act t).Ordered ∧
      (behind step.act t).state = replay (step.happens t (behind step.act t)) t.state := by
  have hwaits (hwaits : step.act.Waits) (hhappens : ∀ later, step.happens t later =
      t.agenda.take (t.agenda.length - later.agenda.length)) :
      (behind step.act t).Ordered ∧
        (behind step.act t).state = replay (step.happens t (behind step.act t)) t.state := by
    obtain ⟨later, helapses⟩ := hwaits t ho
    rw [hhappens, ← helapses.past_eq_take]
    exact ⟨helapses.ordered ho, helapses.state⟩
  cases step with
  | feed e => exact ⟨ho.withState _, rfl⟩
  | plan events => exact ⟨ho.scheduleAll events, Timeline.scheduleAll_state t events⟩
  | awaitReady timeout =>
    exact hwaits ((waits_awaitReady timeout).bind fun _ => Timed.waits_pure ()) fun _ => rfl
  | awaitMore known timeout =>
    refine hwaits ?_ fun _ => rfl
    exact (BusLog.waits_awaitMore view known timeout).bind fun _ => Timed.waits_pure ()
  | expect e timeout context =>
    refine hwaits ?_ fun _ => rfl
    exact (Expectation.waits_await view e timeout context).bind fun _ => Timed.waits_pure ()
  | sleep duration => exact hwaits (Timed.waits_sleep duration) fun _ => rfl

/-- What the foreground does with a tap that it may close. -/
inductive LateStep
  /-- One of the steps besides closing. -/
  | plain (s : Step)
  /-- Closes the monitor. -/
  | close (timeout : Int)

def LateStep.act : LateStep → Act Unit
  | .plain s => s.act
  | .close timeout => Tap.close timeout

/-- The events that a step taken at the given time brings. -/
def LateStep.brings (now : Nat) : LateStep → List (Nat × StreamEvent)
  | .plain s => s.brings now
  | .close _ => []

/-- The events that happen during a step, when `later` is the timeline behind it. -/
def LateStep.happens (t later : Timeline Tap StreamEvent) : LateStep → List (Nat × StreamEvent)
  | .plain s => s.happens t later
  | .close _ => t.agenda.take (t.agenda.length - later.agenda.length)

namespace Course

/-- The course after one more step, which may close the monitor. -/
def proceed (c : Course) (step : LateStep) : Course :=
  let later := behind step.act c.timeline
  { timeline := later
    brought := c.brought ++ step.brings c.timeline.now
    past := c.past ++ step.happens c.timeline later }

/-- The course after several more steps. -/
def proceedAll (c : Course) (steps : List LateStep) : Course := steps.foldl proceed c

/-- The monitor was told to stop when the past was `past`, and winds down in what has happened
since. -/
structure Closing (codec : Codec) (tailSize : Nat) (observer : Option Observer)
    (past : List (Nat × StreamEvent)) (c : Course) : Prop where
  /-- The agenda is in order. -/
  ordered : c.timeline.Ordered
  /-- What has happened since is all that the monitor may have read a line of. -/
  winds : ∃ news, c.past = past ++ news ∧
    WindsDown codec tailSize observer past news c.timeline.state

/-- The first close. -/
theorem Faithful.close {c : Course} (h : Faithful codec tailSize observer c) (timeout : Int) :
    Closing codec tailSize observer c.past (c.proceed (.close timeout)) := by
  obtain ⟨news, helapses⟩ := close_elapses timeout h.ordered
  have hpast : (c.proceed (.close timeout)).past = c.past ++ news :=
    congrArg (c.past ++ ·) helapses.past_eq_take.symm
  refine ⟨helapses.ordered (h.ordered.withState _), news, hpast, ?_⟩
  have hwinds := h.follows.stopped.replay news
  rw [List.nil_append, ← helapses.state] at hwinds
  exact hwinds

/-- One step behind a close, which may be another close. -/
theorem Closing.proceed {c : Course} (h : Closing codec tailSize observer past c)
    (step : LateStep) : Closing codec tailSize observer past (c.proceed step) := by
  obtain ⟨ho, news, hpast, hwinds⟩ := h
  cases step with
  | plain s =>
    obtain ⟨ho', hstate⟩ := s.replays ho
    refine ⟨ho', news ++ s.happens c.timeline (behind s.act c.timeline), ?_, ?_⟩
    · exact (congrArg (· ++ _) hpast).trans (List.append_assoc ..)
    · have hreplay := hwinds.replay (s.happens c.timeline (behind s.act c.timeline))
      rw [← hstate] at hreplay
      exact hreplay
  | close timeout =>
    obtain ⟨later, helapses⟩ := close_elapses timeout ho
    have hhappens : LateStep.happens c.timeline (behind (Tap.close timeout) c.timeline)
        (.close timeout) = later := helapses.past_eq_take.symm
    refine ⟨helapses.ordered (ho.withState _), news ++ later, ?_, ?_⟩
    · refine Eq.trans ?_ (List.append_assoc ..)
      exact hpast ▸ congrArg (c.past ++ ·) hhappens
    · have hreplay := hwinds.replay later
      have hstate := helapses.state
      rw [hwinds.stopped] at hstate
      rw [← hstate] at hreplay
      exact hreplay

theorem Closing.proceedAll {c : Course} (h : Closing codec tailSize observer past c)
    (steps : List LateStep) : Closing codec tailSize observer past (c.proceedAll steps) := by
  induction steps generalizing c with
  | nil => exact h
  | cons step steps ih => exact ih (h.proceed step)

/-- Once the monitor has ended, no step changes it, not even another close. -/
theorem Closing.proceed_of_ended {c : Course} (h : Closing codec tailSize observer past c)
    (hended : c.timeline.state.monitor.hasEnded = true) (step : LateStep) :
    (c.proceed step).timeline.state.monitor = c.timeline.state.monitor := by
  obtain ⟨ho, _, _, hwinds⟩ := h
  cases step with
  | plain s =>
    obtain ⟨_, hstate⟩ := s.replays ho
    exact (congrArg Tap.monitor hstate).trans (replay_of_ended hended _)
  | close timeout =>
    have hclose := Timed.behind_of_ok (close_of_ended timeout hended)
    exact congrArg Tap.monitor ((congrArg Timeline.state hclose).trans hwinds.stopped)

theorem Closing.proceedAll_of_ended {c : Course} (h : Closing codec tailSize observer past c)
    (hended : c.timeline.state.monitor.hasEnded = true) (steps : List LateStep) :
    (c.proceedAll steps).timeline.state.monitor = c.timeline.state.monitor := by
  induction steps generalizing c with
  | nil => rfl
  | cons step steps ih =>
    have hstep := h.proceed_of_ended hended step
    exact (ih (h.proceed step) (hstep ▸ hended)).trans hstep

/-! ## At most one more line -/

/-- The monitor has read these lines more, at most one, and has done with them what it does with every
line. -/
structure ReadsAtMostOne (codec : Codec) (observer : Option Observer) (before after : Monitor)
    (read : List Reading) : Prop where
  atMostOne : read.length ≤ 1
  linesRead : after.linesRead = before.linesRead + read.length
  frames : after.log.frames = before.log.frames ++ read.filterMap codec.seen?
  malformed : after.malformed =
    before.malformed + read.countP fun r => codec.isMalformedLine r.2
  reports : after.reports = before.reports ++
    observer.elim [] fun tell => (read.filterMap codec.seen?).map fun f => (f, tell f)

theorem readsAtMostOne_of_knows {before after : Monitor} {old read : List Reading}
    (hbefore : Monitor.Knows codec tailSize observer old before)
    (hafter : Monitor.Knows codec tailSize observer (old ++ read) after) (hone : read.length ≤ 1) :
    ReadsAtMostOne codec observer before after read where
  atMostOne := hone
  linesRead := by rw [hafter.linesRead, hbefore.linesRead, List.length_append]
  frames := by rw [hafter.frames, hbefore.frames, List.filterMap_append]
  malformed := by rw [hafter.malformed, hbefore.malformed, List.countP_append]
  reports := by
    rw [hafter.reports, hbefore.reports, List.filterMap_append]
    cases observer with
    | none => rfl
    | some tell => exact List.map_append

/-- A monitor on any stream is closed after any steps, with any time to wait for its end, and any
steps follow, further closes among them.  Of all that the stream delivers from the close on, the
monitor reads the first line and no other, and nothing if it had ended before.  It has ended once
there was a line or the stream has closed, and then it stays as it is.  If it had ended before, the
close takes no time and changes nothing but that the monitor was told to stop. -/
theorem close_stops (codec : Codec) (tailSize : Nat) (observer : Option Observer) (now : Nat)
    (s : Stream) (steps : List Step) (timeout : Int) (late : List LateStep) :
    let c := (start now { codec, tailSize, observer } s).run steps
    let before := c.timeline.state.monitor
    let closed := (c.proceed (.close timeout)).proceedAll late
    let after := closed.timeline.state.monitor
    (∃ news, closed.past = c.past ++ news ∧
      ReadsAtMostOne codec observer before after (if before.hasEnded then [] else firstLine news) ∧
      after.hasEnded = (before.hasEnded || endsRead news)) ∧
    (after.hasEnded = true →
      ∀ more, (closed.proceedAll more).timeline.state.monitor = after) ∧
    (before.hasEnded = true →
      Tap.close timeout c.timeline =
        .ok () { c.timeline with state := { c.timeline.state with monitor := before.stop } } ∧
      after = before.stop) := by
  intro c before closed after
  have hfaithful : Faithful codec tailSize observer c :=
    (faithful_start codec tailSize observer now s).run steps
  have hfirst := hfaithful.close timeout
  have hclosing : Closing codec tailSize observer c.past closed := hfirst.proceedAll late
  refine ⟨?_, fun hended more => hclosing.proceedAll_of_ended hended more, fun hended => ?_⟩
  · obtain ⟨news, hpast, hwinds⟩ := hclosing.winds
    have hbefore : before.hasEnded = isClosed c.past := hfaithful.follows.hasEnded
    refine ⟨news, hpast, ?_, hbefore ▸ hwinds.hasEnded⟩
    rw [hbefore]
    refine readsAtMostOne_of_knows hfaithful.follows.knows hwinds.knows ?_
    split
    · exact Nat.zero_le 1
    · exact List.length_take_le 1 _
  · have hclose := close_of_ended timeout hended
    refine ⟨hclose, ?_⟩
    have hstopped : (c.proceed (.close timeout)).timeline.state.monitor = before.stop :=
      congrArg (fun t => t.state.monitor) (Timed.behind_of_ok hclose)
    exact (hfirst.proceedAll_of_ended (hstopped ▸ hended) late).trans hstopped

/-- The adapter goes on printing behind the line that was waited for. -/
example :
    let c := (start 0 { codec := .usual, tailSize := 50, observer := none } {}).proceed (.close 10)
    (c.proceedAll [.plain (.feed ⟨[.text "a\n", .text "b\n"], false⟩), .close 10,
      .plain (.feed ⟨[.text "c\n"], false⟩)]).timeline.state.monitor.linesRead = 1 := by
  decide +kernel

end Course

end Tap

end CecBench
