import CecBench.Proofs.Bus.Expectation
import CecBench.Proofs.Bus.Monitor

/-!
# No line is lost

`readings` are the lines that a stream delivers until it closes, each with its
time.  `Tap.Follows` says that a tap is where the events of the past have
brought it: its monitor knows all readings of the past, it has ended if one of
the events closed the stream, and otherwise nothing waits to be read.  Events
keep this (`Follows.take`, `Follows.replay`).

A run is any sequence of steps that the foreground takes besides closing: it
gives something to the stream, plans what the stream will be given, or waits in
one way or another.  `Faithful` adds to `Follows` that the past is in the order
of its times, and that together with the agenda it is what the steps have
brought.  Every step keeps it, whether it ends in a fault or not.  The module
ends in what follows for the monitor: no line is lost, counted twice, out of
order, or taken for what it is not.
-/

namespace CecBench

open Timeline (Elapses replay)

/-! ## What a stream delivers -/

/-- The stream delivers nothing after this: it ends, or a chunk holds no text. -/
def StreamEvent.closes (e : StreamEvent) : Bool :=
  e.ends || e.chunks.any fun chunk => chunk.text?.isNone

/-- The stream has closed. -/
def isClosed (past : List (Nat × StreamEvent)) : Bool := past.any fun x => x.2.closes

/-- The lines that a stream delivers until it closes. -/
def readings : List (Nat × StreamEvent) → List Reading
  | [] => []
  | (now, e) :: rest =>
    (Monitor.linesOf e.chunks).map (now, ·) ++ if e.closes then [] else readings rest

theorem isClosed_cons (x : Nat × StreamEvent) (past : List (Nat × StreamEvent)) :
    isClosed (x :: past) = (x.2.closes || isClosed past) := List.any_cons

theorem isClosed_append (past later : List (Nat × StreamEvent)) :
    isClosed (past ++ later) = (isClosed past || isClosed later) := List.any_append

theorem readings_append (past later : List (Nat × StreamEvent)) :
    readings (past ++ later) = readings past ++ if isClosed past then [] else readings later := by
  induction past with
  | nil => rfl
  | cons x past ih =>
    obtain ⟨now, e⟩ := x
    rw [List.cons_append, readings, readings, ih, isClosed_cons]
    cases e.closes <;> simp

/-- A line is delivered at the time of an event. -/
theorem exists_of_mem_readings {past : List (Nat × StreamEvent)} {r : Reading}
    (hr : r ∈ readings past) : ∃ x ∈ past, x.1 = r.1 := by
  induction past with
  | nil => cases hr
  | cons x past ih =>
    rcases List.mem_append.mp hr with hr | hr
    · obtain ⟨line, _, rfl⟩ := List.mem_map.mp hr
      exact ⟨x, List.mem_cons_self .., rfl⟩
    · split at hr
      · cases hr
      · obtain ⟨y, hy, heq⟩ := ih hr
        exact ⟨y, List.mem_cons_of_mem _ hy, heq⟩

/-- Lines are delivered in the order of their times. -/
theorem readings_sorted {past : List (Nat × StreamEvent)}
    (h : past.Pairwise fun x y => x.1 ≤ y.1) : (readings past).Pairwise fun x y => x.1 ≤ y.1 := by
  induction past with
  | nil => exact List.Pairwise.nil
  | cons x past ih =>
    obtain ⟨hx, hpast⟩ := List.pairwise_cons.mp h
    refine List.pairwise_append.mpr ⟨?_, ?_, ?_⟩
    · refine List.pairwise_map.mpr (List.pairwise_of_forall fun _ _ => Nat.le_refl _)
    · split
      · exact List.Pairwise.nil
      · exact ih hpast
    · intro a ha b hb
      obtain ⟨line, _, rfl⟩ := List.mem_map.mp ha
      split at hb
      · cases hb
      · obtain ⟨y, hy, heq⟩ := exists_of_mem_readings hb
        rw [← heq]
        exact hx y hy

namespace Tap

/-! ## Events -/

/-- The tap is where the events of the past have brought it. -/
structure Follows (codec : Codec) (tailSize : Nat) (observer : Option Observer)
    (past : List (Nat × StreamEvent)) (tap : Tap) : Prop where
  /-- Its monitor has read what was delivered. -/
  knows : Monitor.Knows codec tailSize observer (readings past) tap.monitor
  /-- Nobody has told it to stop. -/
  runs : tap.monitor.isStopping = false
  /-- It has ended if the stream has closed. -/
  hasEnded : tap.monitor.hasEnded = isClosed past
  /-- Unless it has ended, nothing waits to be read. -/
  idle : tap.monitor.hasEnded = false → tap.stream = {}

variable {codec : Codec} {tailSize : Nat} {observer : Option Observer}
  {past : List (Nat × StreamEvent)}

/-- A new monitor that has read nothing yet follows an empty past. -/
theorem follows_start (codec : Codec) (tailSize : Nat) (observer : Option Observer) :
    Follows codec tailSize observer [] ⟨{ codec, tailSize, observer }, {}⟩ where
  knows := .start codec tailSize observer
  runs := rfl
  hasEnded := rfl
  idle := fun _ => rfl

/-- What stands in a stream at first is taken like an event. -/
theorem settle_eq_take (now : Nat) (m : Monitor) (s : Stream) :
    settle now ⟨m, s⟩ = take now ⟨s.pending, s.ended⟩ ⟨m, {}⟩ := by
  obtain ⟨pending, ended⟩ := s
  cases ended <;> rfl

/-- What a stream is given counts for nothing once the monitor has ended. -/
theorem take_of_ended {tap : Tap} (now : Nat) (e : StreamEvent)
    (h : tap.monitor.hasEnded = true) : (tap.take now e).monitor = tap.monitor := by
  simp [Tap.take, settle, Monitor.drain, h]

theorem replay_of_ended {tap : Tap} (h : tap.monitor.hasEnded = true)
    (later : List (Nat × StreamEvent)) : (replay later tap).monitor = tap.monitor := by
  induction later generalizing tap with
  | nil => rfl
  | cons x later ih =>
    have htake := tap.take_of_ended x.1 x.2 h
    have hended : (tap.take x.1 x.2).monitor.hasEnded = true := by rw [htake, h]
    exact (ih hended).trans htake

/-- If nothing waits to be read, the monitor reads what the event brings. -/
theorem take_of_idle {tap : Tap} (now : Nat) (e : StreamEvent)
    (h : tap.monitor.hasEnded = false) (hidle : tap.stream = {}) :
    tap.take now e = ⟨(Monitor.readOn now e.ends e.chunks tap.monitor).1,
      ⟨(Monitor.readOn now e.ends e.chunks tap.monitor).2, e.ends⟩⟩ := by
  cases hends : e.ends <;>
    simp [Tap.take, settle, Monitor.drain, h, hidle, hends, Stream.push, Stream.finish]

theorem Follows.take {tap : Tap} (h : Follows codec tailSize observer past tap) (now : Nat)
    (e : StreamEvent) :
    Follows codec tailSize observer (past ++ [(now, e)]) (tap.take now e) := by
  obtain ⟨hknows, hruns, hended, hidle⟩ := h
  cases he : tap.monitor.hasEnded with
  | true =>
    -- An ended monitor reads no more, and what the stream is given counts for nothing.
    have hclosed : isClosed past = true := by rw [← hended, he]
    have htake := tap.take_of_ended now e he
    refine ⟨?_, ?_, ?_, ?_⟩
    · rw [htake, readings_append, hclosed, if_pos rfl, List.append_nil]
      exact hknows
    · rw [htake, hruns]
    · rw [htake, he, isClosed_append, hclosed, Bool.true_or]
    · rw [htake, he]
      intro hf
      cases hf
  | false =>
    have hopen : isClosed past = false := by rw [← hended, he]
    -- The stream holds nothing but what the event brings, and the monitor reads all of it.
    obtain ⟨hknows', hruns', hended', hidle'⟩ := hknows.readOn now e.ends e.chunks hruns he
    rw [take_of_idle now e he (hidle he)]
    refine ⟨?_, hruns', ?_, ?_⟩
    · rw [readings_append, hopen]
      simpa [readings] using hknows'
    · rw [isClosed_append, hopen, Bool.false_or]
      simpa [isClosed, StreamEvent.closes] using hended'
    · intro hf
      rw [hidle' hf]
      rw [hended', Bool.or_eq_false_iff] at hf
      rw [hf.1]

theorem Follows.replay {tap : Tap} {later : List (Nat × StreamEvent)}
    (h : Follows codec tailSize observer past tap) :
    Follows codec tailSize observer (past ++ later) (replay later tap) := by
  induction later generalizing past tap with
  | nil => simpa using h
  | cons x later ih =>
    have hrest := ih (h.take x.1 x.2)
    rwa [List.append_assoc] at hrest

/-! ## Steps -/

/-- What the foreground does with a tap before it closes the monitor. -/
inductive Step
  /-- Gives something to the stream now. -/
  | feed (e : StreamEvent)
  /-- Plans what the stream will be given. -/
  | plan (events : List (Nat × StreamEvent))
  /-- Waits until the console is ready. -/
  | awaitReady (timeout : Int)
  /-- Waits for more frames than known. -/
  | awaitMore (known timeout : Int)
  /-- Waits for an expectation. -/
  | expect (e : Expectation) (timeout : Int) (context : String)
  /-- Lets time pass. -/
  | sleep (duration : Int)

/-- The step as a computation.  What it answers does not matter here. -/
def Step.act : Step → Act Unit
  | .feed e => Tap.feed e
  | .plan events => Timed.schedule events
  | .awaitReady timeout => do let _ ← Tap.awaitReady timeout
  | .awaitMore known timeout => do let _ ← BusLog.awaitMore Tap.log known timeout
  | .expect e timeout context => do let _ ← e.await Tap.log timeout context
  | .sleep duration => Timed.sleep duration

theorem waits_awaitReady (timeout : Int) : Timed.Waits (Tap.awaitReady timeout) := by
  refine (Timed.waits_measure timeout).bind fun _ => ?_
  refine (Timed.waits_await _ timeout).bind fun _ => ?_
  exact Timed.waits_state.bind fun _ => Timed.waits_pure _

/-- Where a run of steps has come to. -/
structure Course where
  /-- The timeline. -/
  timeline : Timeline Tap StreamEvent
  /-- What the steps have brought, each event with the time at which it is due. -/
  brought : List (Nat × StreamEvent)
  /-- What has happened, oldest first. -/
  past : List (Nat × StreamEvent)

/-- The events that a step taken at the given time brings. -/
def Step.brings (now : Nat) : Step → List (Nat × StreamEvent)
  | .feed e => [(now, e)]
  | .plan events => events.map fun x => (now + x.1, x.2)
  | _ => []

/-- The events that happen during a step, when `later` is the timeline behind it.  All but what is
given to the stream now are taken off the agenda. -/
def Step.happens (t later : Timeline Tap StreamEvent) : Step → List (Nat × StreamEvent)
  | .feed e => [(t.now, e)]
  | .plan _ => []
  | _ => t.agenda.take (t.agenda.length - later.agenda.length)

namespace Course

/-- The course of a monitor that begins to read a stream. -/
def start (now : Nat) (m : Monitor) (s : Stream) : Course where
  timeline := { now, state := settle now ⟨m, s⟩ }
  brought := [(now, ⟨s.pending, s.ended⟩)]
  past := [(now, ⟨s.pending, s.ended⟩)]

/-- The course after one more step, whichever way the step ends. -/
def next (c : Course) (step : Step) : Course :=
  let later := Timed.behind step.act c.timeline
  { timeline := later
    brought := c.brought ++ step.brings c.timeline.now
    past := c.past ++ step.happens c.timeline later }

/-- The course after several more steps. -/
def run (c : Course) (steps : List Step) : Course := steps.foldl next c

/-- The course is that of a tap which has followed all that has come due of what was brought. -/
structure Faithful (codec : Codec) (tailSize : Nat) (observer : Option Observer)
    (c : Course) : Prop where
  /-- The agenda is in order. -/
  ordered : c.timeline.Ordered
  /-- The tap is where the past has brought it. -/
  follows : Follows codec tailSize observer c.past c.timeline.state
  /-- The past is in the order of its times. -/
  sorted : c.past.Pairwise fun x y => x.1 ≤ y.1
  /-- Nothing in it is still to come. -/
  due : ∀ x ∈ c.past, x.1 ≤ c.timeline.now
  /-- Everything brought has happened or is on the agenda. -/
  whole : (c.past ++ c.timeline.agenda).Perm c.brought

theorem faithful_start (codec : Codec) (tailSize : Nat) (observer : Option Observer) (now : Nat)
    (s : Stream) :
    Faithful codec tailSize observer (start now { codec, tailSize, observer } s) where
  ordered := Timeline.ordered_idle _ _
  follows := by
    rw [start, settle_eq_take]
    exact (follows_start codec tailSize observer).take now ⟨s.pending, s.ended⟩
  sorted := List.pairwise_singleton _ _
  due := by
    intro x hx
    rw [List.mem_singleton.mp hx]
    exact Nat.le_refl now
  whole := List.Perm.refl _

namespace Faithful

variable {c : Course}

/-- A passage of time. -/
theorem elapse (h : Faithful codec tailSize observer c) {t : Timeline Tap StreamEvent}
    {later : List (Nat × StreamEvent)} (helapses : Elapses c.timeline later t) :
    Faithful codec tailSize observer ⟨t, c.brought, c.past ++ later⟩ where
  ordered := helapses.ordered h.ordered
  follows := by
    rw [helapses.state]
    exact h.follows.replay
  sorted := by
    obtain ⟨hlater, hfrom⟩ := helapses.past_sorted h.ordered
    refine List.pairwise_append.mpr ⟨h.sorted, hlater, fun x hx y hy => ?_⟩
    exact Nat.le_trans (h.due x hx) (hfrom y hy)
  due := by
    intro x hx
    rcases List.mem_append.mp hx with hx | hx
    · exact Nat.le_trans (h.due x hx) helapses.forward
    · exact helapses.due x hx
  whole := by
    rw [List.append_assoc, ← helapses.agenda]
    exact h.whole

/-- A step that waits is a passage of time. -/
theorem next_of_waits (h : Faithful codec tailSize observer c) {step : Step}
    (hwaits : step.act.Waits) (hbrings : step.brings c.timeline.now = [])
    (hhappens : ∀ later, step.happens c.timeline later =
      c.timeline.agenda.take (c.timeline.agenda.length - later.agenda.length)) :
    Faithful codec tailSize observer (c.next step) := by
  obtain ⟨later, helapses⟩ := hwaits c.timeline h.ordered
  rw [next, hbrings, hhappens, ← helapses.past_eq_take, List.append_nil]
  exact h.elapse helapses

theorem feed (h : Faithful codec tailSize observer c) (e : StreamEvent) :
    Faithful codec tailSize observer
      ⟨{ c.timeline with state := c.timeline.state.take c.timeline.now e },
        c.brought ++ [(c.timeline.now, e)], c.past ++ [(c.timeline.now, e)]⟩ where
  ordered := ⟨h.ordered.sorted, h.ordered.ahead⟩
  follows := h.follows.take c.timeline.now e
  sorted := by
    refine List.pairwise_append.mpr ⟨h.sorted, List.pairwise_singleton _ _, fun x hx y hy => ?_⟩
    rw [List.mem_singleton.mp hy]
    exact h.due x hx
  due := by
    intro x hx
    rcases List.mem_append.mp hx with hx | hx
    · exact h.due x hx
    · rw [List.mem_singleton.mp hx]
  whole := by
    rw [List.append_assoc]
    refine (List.perm_append_comm.append_left c.past).trans ?_
    rw [← List.append_assoc]
    exact h.whole.append_right _

theorem plan (h : Faithful codec tailSize observer c) (events : List (Nat × StreamEvent)) :
    Faithful codec tailSize observer
      ⟨c.timeline.scheduleAll events,
        c.brought ++ events.map fun x => (c.timeline.now + x.1, x.2), c.past⟩ where
  ordered := h.ordered.scheduleAll events
  follows := by
    rw [Timeline.scheduleAll_state]
    exact h.follows
  sorted := h.sorted
  due := by
    rw [Timeline.scheduleAll_now]
    exact h.due
  whole := by
    refine ((Timeline.scheduleAll_perm c.timeline events).append_left c.past).trans ?_
    rw [← List.append_assoc]
    exact h.whole.append_right _

/-- One step, whichever way it ends. -/
theorem next (h : Faithful codec tailSize observer c) (step : Step) :
    Faithful codec tailSize observer (c.next step) := by
  cases step with
  | feed e => exact h.feed e
  | plan events =>
    -- Planning lets nothing happen, and so adds nothing to the past.
    have hpast : c.next (.plan events) = ⟨c.timeline.scheduleAll events,
        c.brought ++ events.map fun x => (c.timeline.now + x.1, x.2), c.past ++ []⟩ := rfl
    rw [hpast, List.append_nil]
    exact h.plan events
  | awaitReady timeout =>
    refine h.next_of_waits ?_ rfl fun _ => rfl
    exact (waits_awaitReady timeout).bind fun _ => Timed.waits_pure ()
  | awaitMore known timeout =>
    refine h.next_of_waits ?_ rfl fun _ => rfl
    exact (BusLog.waits_awaitMore view known timeout).bind fun _ => Timed.waits_pure ()
  | expect e timeout context =>
    refine h.next_of_waits ?_ rfl fun _ => rfl
    exact (Expectation.waits_await view e timeout context).bind fun _ => Timed.waits_pure ()
  | sleep duration => exact h.next_of_waits (Timed.waits_sleep duration) rfl fun _ => rfl

theorem run (h : Faithful codec tailSize observer c) (steps : List Step) :
    Faithful codec tailSize observer (c.run steps) := by
  induction steps generalizing c with
  | nil => exact h
  | cons step steps ih => exact ih (h.next step)

end Faithful

/-! ## Nothing is lost -/

/-- No line of the course is lost, counted twice, out of order, or taken for what it is not. -/
structure LosesNoLine (codec : Codec) (tailSize : Nat) (observer : Option Observer)
    (c : Course) : Prop where
  /-- The monitor knows exactly the lines delivered. -/
  knows : Monitor.Knows codec tailSize observer (readings c.past) c.timeline.state.monitor
  /-- Each frame is stamped, and the stamps never decrease. -/
  stamps : c.timeline.state.log.frames.Pairwise fun f g =>
    ∃ a b : Int, f.observedAt = some a ∧ g.observedAt = some b ∧ a ≤ b
  /-- Each line is a frame, a malformed frame or a diagnostic line. -/
  kinds : c.timeline.state.monitor.linesRead =
    c.timeline.state.log.size + c.timeline.state.monitor.malformed +
      (readings c.past).countP fun r => codec.isDiagnosticLine r.2
  /-- Nothing but the end of the stream ends the monitor. -/
  ended : c.timeline.state.monitor.hasEnded = isClosed c.past
  /-- Until then no line is left to be read. -/
  idle : isClosed c.past = false → c.timeline.state.stream = {}
  /-- The past is all that has come due of what was brought, in the order of its times. -/
  past : (c.past ++ c.timeline.agenda).Perm c.brought ∧
    (c.past ++ c.timeline.agenda).Pairwise (fun x y => x.1 ≤ y.1) ∧
    (∀ x ∈ c.past, x.1 ≤ c.timeline.now) ∧ ∀ x ∈ c.timeline.agenda, c.timeline.now ≤ x.1

theorem Faithful.loses_no_line {c : Course} (h : Faithful codec tailSize observer c) :
    LosesNoLine codec tailSize observer c where
  knows := h.follows.knows
  stamps := by
    rw [Tap.log, h.follows.knows.frames]
    exact codec.stamps_sorted (readings_sorted h.sorted)
  kinds := by
    rw [Tap.log, BusLog.size, h.follows.knows.linesRead, h.follows.knows.frames,
      h.follows.knows.malformed]
    exact codec.length_eq_kinds _
  ended := h.follows.hasEnded
  idle := fun hopen => h.follows.idle (h.follows.hasEnded.trans hopen)
  past := by
    refine ⟨h.whole, ?_, h.due, h.ordered.ahead⟩
    refine List.pairwise_append.mpr ⟨h.sorted, h.ordered.sorted, fun x hx y hy => ?_⟩
    exact Nat.le_trans (h.due x hx) (h.ordered.ahead y hy)

/-- A monitor of any codec, observer and number of kept lines that is in a word loses no line,
whatever stands in the stream at first and whatever steps are taken. -/
theorem run_loses_no_line (codec : Codec) (tailSize : Nat) (observer : Option Observer)
    (now : Nat) (s : Stream) (steps : List Step) (hsize : tailSize < wordLimit) :
    ∃ m, Monitor.build codec tailSize observer = .ok m ∧
      LosesNoLine codec tailSize observer ((start now m s).run steps) := by
  refine ⟨{ codec, tailSize, observer }, ?_, ?_⟩
  · have hword : isWord tailSize = true := by
      simp only [isWord, decide_eq_true_eq, Int.ofNat_eq_natCast]
      omega
    have hneg : ¬ (tailSize : Int) < 0 := by omega
    simp [Monitor.build, hword, hneg]
  · exact ((faithful_start codec tailSize observer now s).run steps).loses_no_line

/-- Two diagnostic lines are kept of three, and an observer that always fails is told of the frame. -/
theorem run_loses_no_line_of_two_kept : 2 < wordLimit ∧
    ∃ m, Monitor.build Codec.usual (2 : Nat) (some fun _ => .error .immeasurable) = .ok m ∧
      LosesNoLine Codec.usual 2 (some fun _ => .error .immeasurable)
        ((start 0 m ⟨[.text "opening\n", .text "waiting for input\n"], false⟩).run
          [.plan [(7, ⟨[.text "TRAFFIC: [ 7] >> 40:04\n", .text "TRAFFIC: [ 7] >> 4\n"], false⟩)],
            .awaitReady 100, .awaitMore 0 100, .feed ⟨[.text "closing\n"], true⟩]) :=
  ⟨by decide, run_loses_no_line Codec.usual 2 _ 0 _ _ (by decide)⟩

end Course

end Tap

end CecBench
