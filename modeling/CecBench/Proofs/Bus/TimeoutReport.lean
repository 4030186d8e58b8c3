import CecBench.Proofs.Bus.Expectation

/-!
# What the report of a timeout says

A condition is asked about frames while a wait lasts, and the order in which it
is asked is part of what a wait does.  To speak of it, the wait is given a
memory: `awaitBy` waits with a condition that may remember what it has seen and
answer by it.  A condition that remembers and answers as another one that does
not leaves the wait as it is (`awaitBy_eq`), so `noting` can put down each
frame that a condition is asked about.

`NotedEnds` tells how looking for a frame ends with that record.  If it expires,
the frames that were put down are those of the last log from the position on.
Each look adds those that are new, and what a look has seen the later log still
has in its place (`since_of_prefix`), also if the position lies beyond the log.

The counts of a report then fit each other and the log (`AddsUp`).
-/

namespace CecBench

open Timeline (Elapses)

variable {σ ε μ : Type} [Unfolds σ ε]

/-- The log later is the log before with what has arrived. -/
theorem LogView.later_frames (v : LogView σ ε) {t t' : Timeline σ ε} {past : List (Nat × ε)}
    (h : Elapses t past t') :
    ∃ arrived, (v.log t'.state).frames = (v.log t.state).frames ++ arrived :=
  ⟨_, h.state ▸ v.frames_replay past t.state⟩

namespace Expectation

/-! ## Conditions with a memory -/

/-- A condition that may remember what it has seen and answer by it. -/
abbrev MindfulPredicate (μ : Type) := Frame → μ → Except Fault Bool × μ

/-- The condition, which puts down every frame that it is asked about. -/
def noting (p : MindfulPredicate μ) : MindfulPredicate (μ × List Frame) := fun f m =>
  ((p f m.1).1, (p f m.1).2, m.2 ++ [f])

/-- A look at some frames. -/
def firstAcceptedBy (p : MindfulPredicate μ) : List Frame → μ → Except Fault (Option Frame) × μ
  | [], m => (.ok none, m)
  | f :: rest, m =>
    match p f m with
    | (.error e, m) => (.error e, m)
    | (.ok true, m) => (.ok (some f), m)
    | (.ok false, m) => firstAcceptedBy p rest m

/-- Waiting takes an event from the agenda or lets time go by. -/
theorem advance_decreases (wished : σ → Bool) {deadline : Nat} {t : Timeline σ ε}
    (h : t.now < deadline) :
    Prod.Lex (· < ·) (· < ·)
      ((Timeline.advance wished deadline t.agenda t.state).2.agenda.length,
        deadline - (Timeline.advance wished deadline t.agenda t.state).2.now)
      (t.agenda.length, deadline - t.now) := by
  rcases Timeline.advance_progress wished deadline t.agenda t.state with hless | ⟨hle, hnow⟩
  · exact Prod.Lex.left _ _ hless
  · rcases Nat.lt_or_eq_of_le hle with hless | heq
    · exact Prod.Lex.left _ _ hless
    · rw [heq, hnow]
      exact Prod.Lex.right _ (by omega)

/-- Looking for a frame until the deadline. -/
def seekBy (log : σ → BusLog) (p : MindfulPredicate μ) (deadline position scanned : Nat) (m : μ)
    (t : Timeline σ ε) : (Finding × Timeline σ ε) × μ :=
  let fresh := (log t.state).since position
  match firstAcceptedBy p fresh m with
  | (.error e, m) => ((.failed e, t), m)
  | (.ok (some f), m) => ((.found f, t), m)
  | (.ok none, m) =>
    let position := position + fresh.length
    let scanned := scanned + fresh.length
    if _ : t.now < deadline then
      seekBy log p deadline position scanned m
        (Timeline.advance (fun s => position < (log s).size) deadline t.agenda t.state).2
    else ((.expired scanned, t), m)
termination_by (t.agenda.length, deadline - t.now)
decreasing_by exact advance_decreases _ ‹_›

/-- What is reported of a wait from `t` to `t'`. -/
def report (log : σ → BusLog) (e : Expectation) (timeout : Int) (context : String) (scanned : Nat)
    (t t' : Timeline σ ε) : TimeoutReport where
  context := context
  timeout := timeout
  description := e.description
  observed := (log t'.state).size - (log t.state).size
  scanned := scanned
  elapsed := t'.now - t.now
  recent := (log t'.state).recent reportedFrames

/-- Waiting for the expectation with a condition that takes the place of its own. -/
def awaitBy (log : σ → BusLog) (p : MindfulPredicate μ) (e : Expectation) (timeout : Int)
    (context : String) (m : μ) (t : Timeline σ ε) :
    EStateM.Result Fault (Timeline σ ε) Frame × μ :=
  if e.isSpent then (.error (.spent context e.description) t, m)
  else if timeout < 0 then (.error (.timeoutRange context timeout) t, m)
  else if !isMeasurable timeout then (.error .immeasurable t, m)
  else
    match seekBy log p (t.now + timeout.toNat) e.cursor 0 m t with
    | ((.found f, t'), m) => (.ok f t', m)
    | ((.failed fault, t'), m) => (.error fault t', m)
    | ((.expired scanned, t'), m) =>
      (.error (.notSeen (e.report log timeout context scanned t t')) t', m)

/-! ## What a memory does not change -/

section Forgetting

variable {p : MindfulPredicate μ} {accepts : FramePredicate}
  (hp : ∀ f m, (p f m).1 = accepts f)
include hp

theorem firstAcceptedBy_eq (frames : List Frame) (m : μ) :
    (firstAcceptedBy p frames m).1 = firstAccepted accepts frames := by
  induction frames generalizing m with
  | nil => rfl
  | cons f rest ih =>
    have hanswer := hp f m
    rw [firstAcceptedBy, firstAccepted, ← hanswer]
    rcases p f m with ⟨answer, m'⟩
    cases answer with
    | error e => rfl
    | ok accepted =>
      cases accepted with
      | true => rfl
      | false => exact ih m'

theorem seekBy_eq (log : σ → BusLog) (deadline position scanned : Nat) (m : μ)
    (t : Timeline σ ε) :
    (seekBy log p deadline position scanned m t).1 =
      seek log accepts deadline position scanned t := by
  fun_induction seekBy log p deadline position scanned m t with
  | case1 position scanned m t fresh e m' hlook =>
    have h := firstAcceptedBy_eq hp fresh m
    rw [hlook] at h
    rw [seek, ← h]
  | case2 position scanned m t fresh f m' hlook =>
    have h := firstAcceptedBy_eq hp fresh m
    rw [hlook] at h
    rw [seek, ← h]
  | case3 position scanned m t fresh m' hlook position' scanned' hnow ih =>
    have h := firstAcceptedBy_eq hp fresh m
    rw [hlook] at h
    rw [seek, ← h, ih]
    simp only [hnow, dif_pos]
    rfl
  | case4 position scanned m t fresh m' hlook scanned' hnow =>
    have h := firstAcceptedBy_eq hp fresh m
    rw [hlook] at h
    rw [seek, ← h]
    simp only [hnow, dif_neg, not_false_iff]
    rfl

end Forgetting

theorem awaitBy_eq {p : MindfulPredicate μ} {e : Expectation}
    (hp : ∀ f m, (p f m).1 = e.accepts f) (log : σ → BusLog) (timeout : Int) (context : String)
    (m : μ) (t : Timeline σ ε) :
    (e.awaitBy log p timeout context m t).1 = e.await log timeout context t := by
  have hseek := seekBy_eq hp log (t.now + timeout.toNat) e.cursor 0 m t
  unfold awaitBy await
  split_ifs
  · rfl
  · rfl
  · rfl
  · simp only
    rw [← hseek]
    rcases seekBy log p (t.now + timeout.toNat) e.cursor 0 m t with ⟨⟨finding, t'⟩, m'⟩
    cases finding <;> rfl

/-! ## What is put down -/

section Noting

variable {v : LogView σ ε} {p : MindfulPredicate μ}

/-- The fault is the condition's answer to the last frame that it was asked about. -/
def Blames (p : MindfulPredicate μ) (e : Fault) (calls : List Frame) : Prop :=
  ∃ f m, calls.getLast? = some f ∧ (p f m).1 = .error e

/-- What a look has put down, once it has passed over all frames or failed. -/
inductive LookNotes (p : MindfulPredicate μ) (frames calls : List Frame) :
    Except Fault (Option Frame) × (μ × List Frame) → Prop
  | passed {m : μ} : LookNotes p frames calls (.ok none, (m, calls ++ frames))
  | found {f : Frame} {memory : μ × List Frame} : LookNotes p frames calls (.ok (some f), memory)
  | failed {e : Fault} {m : μ} {calls' : List Frame} : Blames p e calls' →
    LookNotes p frames calls (.error e, (m, calls'))

theorem look_notes (p : MindfulPredicate μ) (frames calls : List Frame) (m : μ) :
    LookNotes p frames calls (firstAcceptedBy (noting p) frames (m, calls)) := by
  induction frames generalizing m calls with
  | nil =>
    have h : LookNotes p [] calls (.ok none, (m, calls ++ [])) := .passed
    rwa [List.append_nil] at h
  | cons f rest ih =>
    cases hanswer : (p f m).1 with
    | error e =>
      have h : firstAcceptedBy (noting p) (f :: rest) (m, calls) =
          (.error e, ((p f m).2, calls ++ [f])) := by
        simp only [firstAcceptedBy, noting, hanswer]
      rw [h]
      exact .failed ⟨f, m, List.getLast?_concat, hanswer⟩
    | ok accepted =>
      cases accepted with
      | true =>
        have h : firstAcceptedBy (noting p) (f :: rest) (m, calls) =
            (.ok (some f), ((p f m).2, calls ++ [f])) := by
          simp only [firstAcceptedBy, noting, hanswer]
        rw [h]
        exact .found
      | false =>
        have h : firstAcceptedBy (noting p) (f :: rest) (m, calls) =
            firstAcceptedBy (noting p) rest ((p f m).2, calls ++ [f]) := by
          simp only [firstAcceptedBy, noting, hanswer]
        have hrest := ih (calls ++ [f]) (p f m).2
        rw [h]
        generalize firstAcceptedBy (noting p) rest ((p f m).2, calls ++ [f]) = r at hrest
        cases hrest with
        | passed =>
          rw [List.append_assoc]
          exact .passed
        | found => exact .found
        | failed hblames => exact .failed hblames

/-- What a look has seen of a log stands in the later log before what the next look will see. -/
theorem since_of_prefix {log log' : BusLog} (h : log.frames <+: log'.frames) (position : Nat) :
    log.since position ++ log'.since (position + (log.since position).length) =
      log'.since position := by
  obtain ⟨more, h⟩ := h
  have hbehind : log.frames.length ≤ position + (log.frames.length - position) := by omega
  have hover : position + (log.frames.length - position) - log.frames.length =
      position - log.frames.length := by omega
  simp only [BusLog.since, ← h, List.length_drop, List.drop_append]
  rw [List.drop_eq_nil_of_le hbehind, hover, List.nil_append]

/-- How looking for a frame from a position on ends, with what is put down. -/
inductive NotedEnds (v : LogView σ ε) (p : MindfulPredicate μ)
    (deadline position scanned : Nat) (calls : List Frame) (t : Timeline σ ε) :
    (Finding × Timeline σ ε) × (μ × List Frame) → Prop
  | found {f : Frame} {t' : Timeline σ ε} {memory : μ × List Frame} :
    NotedEnds v p deadline position scanned calls t ((.found f, t'), memory)
  | failed {e : Fault} {t' : Timeline σ ε} {m : μ} {calls' : List Frame} : Blames p e calls' →
    NotedEnds v p deadline position scanned calls t ((.failed e, t'), (m, calls'))
  /-- At the deadline, after every frame from the position on was asked about, once and in order. -/
  | expired {past : List (Nat × ε)} {t' : Timeline σ ε} {m : μ} :
    Elapses t past t' → t'.now = deadline →
    NotedEnds v p deadline position scanned calls t
      ((.expired (scanned + ((v.log t'.state).since position).length), t'),
        (m, calls ++ (v.log t'.state).since position))

theorem seekBy_ends (v : LogView σ ε) (p : MindfulPredicate μ) (deadline position scanned : Nat)
    (memory : μ × List Frame) {t : Timeline σ ε} (ho : t.Ordered) (hd : t.now ≤ deadline) :
    NotedEnds v p deadline position scanned memory.2 t
      (seekBy v.log (noting p) deadline position scanned memory t) := by
  revert ho hd
  fun_induction seekBy v.log (noting p) deadline position scanned memory t with
  | case1 position scanned memory t fresh e memory' hlook =>
    intro _ _
    have hnotes := look_notes p fresh memory.2 memory.1
    rw [hlook] at hnotes
    cases hnotes with
    | failed hblames => exact .failed hblames
  | case2 => exact fun _ _ => .found
  | case3 position scanned memory t fresh memory' hlook position' scanned' hnow ih =>
    -- All that the look has seen is put down, and what the later looks put down comes behind it.
    intro ho hd
    have hnotes := look_notes p fresh memory.2 memory.1
    rw [hlook] at hnotes
    obtain ⟨past, hpast, hle⟩ :=
      (wait_ends deadline (size_le_look (v.log t.state) position)).elapses ho hd
    have hends := ih (hpast.ordered ho) hle
    cases hnotes with
    | passed =>
      revert hends
      generalize seekBy v.log (noting p) deadline position' scanned' _ _ = r
      intro hends
      cases hends with
      | found => exact .found
      | failed hblames => exact .failed hblames
      | @expired later t' m hlater hdeadline =>
        obtain ⟨arrived, harrived⟩ := v.later_frames (hpast.trans hlater)
        have hsince := since_of_prefix ⟨arrived, harrived.symm⟩ position
        have hcount : scanned' + ((v.log t'.state).since position').length =
            scanned + ((v.log t'.state).since position).length := by
          rw [← hsince, List.length_append, ← Nat.add_assoc]
        rw [hcount, List.append_assoc, hsince]
        exact .expired (hpast.trans hlater) hdeadline
  | case4 position scanned memory t fresh memory' hlook scanned' hnow =>
    intro ho hd
    have hnotes := look_notes p fresh memory.2 memory.1
    rw [hlook] at hnotes
    cases hnotes with
    | passed => exact .expired (.refl ho) (Nat.le_antisymm hd (Nat.le_of_not_lt hnow))

end Noting

/-! ## Reports -/

/-- The counts of a report fit each other, the log and the frames that the condition was asked
about. -/
structure AddsUp (v : LogView σ ε) (cursor : Nat) (timeout : Int) (t t' : Timeline σ ε)
    (report : TimeoutReport) (calls : List Frame) : Prop where
  /-- The condition was asked about each frame of the last log from the cursor on, once and in
  order, and about no other. -/
  asked : calls = (v.log t'.state).frames.drop cursor
  /-- They were counted. -/
  scanned : report.scanned = (v.log t'.state).size - cursor
  /-- The frames that came while waiting were counted, wherever the cursor is. -/
  observed : ∃ arrived, (v.log t'.state).frames = (v.log t.state).frames ++ arrived ∧
    report.observed = arrived.length
  /-- The whole time was spent. -/
  elapsed : (report.elapsed : Int) = timeout ∧ t'.now = t.now + report.elapsed
  /-- The report ends in the last frames of the log. -/
  recent : report.recent <:+ (v.log t'.state).frames ∧
    report.recent.length = min 10 (v.log t'.state).size

theorem recent_suffix (log : BusLog) (count : Nat) :
    log.recent count <:+ log.frames ∧ (log.recent count).length = min count log.size := by
  refine ⟨List.drop_suffix _ _, ?_⟩
  simp only [BusLog.recent, BusLog.since, List.length_drop, BusLog.size]
  omega

theorem awaitBy_addsUp (v : LogView σ ε) (p : MindfulPredicate μ) (e : Expectation) (timeout : Int)
    (context : String) (m : μ) {t t' : Timeline σ ε} {report : TimeoutReport} (ho : t.Ordered)
    (h : (e.awaitBy v.log (noting p) timeout context (m, []) t).1 = .error (.notSeen report) t') :
    let calls := (e.awaitBy v.log (noting p) timeout context (m, []) t).2.2
    Blames p (.notSeen report) calls ∨ AddsUp v e.cursor timeout t t' report calls := by
  have hends := seekBy_ends v p (t.now + timeout.toNat) e.cursor 0 (m, []) ho (Nat.le_add_right _ _)
  unfold awaitBy at h ⊢
  split_ifs at h ⊢ with hspent hnegative hmeasurable
  · cases h
  · cases h
  · cases h
  · generalize seekBy v.log (noting p) (t.now + timeout.toNat) e.cursor 0 (m, []) t = r at hends h ⊢
    cases hends with
    | found => cases h
    | failed hblames =>
      cases h
      exact .inl hblames
    | @expired past t' m' hpast hdeadline =>
      cases h
      obtain ⟨arrived, harrived⟩ := v.later_frames hpast
      refine .inr ⟨List.nil_append _, ?_, ⟨arrived, harrived, ?_⟩, ⟨?_, ?_⟩, recent_suffix _ _⟩
      · exact (Nat.zero_add _).trans List.length_drop
      · simp only [Expectation.report, BusLog.size, harrived, List.length_append,
          Nat.add_sub_cancel_left]
      · simp only [Expectation.report]
        omega
      · simp only [Expectation.report]
        omega

/-- A wait for an expectation from time `now` on, whatever is going to happen, with a condition that
may remember.  It ends in the same way if each frame is put down that the condition is asked about.
If it ends with the report of a timeout, then either the condition itself has failed with this report
on the last frame that it was asked about, or the report adds up. -/
theorem timeout_report_adds_up (v : LogView σ ε) (e : Expectation) (timeout : Int)
    (context : String) (p : MindfulPredicate μ) (m : μ) (now : Nat) (s : σ)
    (events : List (Nat × ε)) :
    let t : Timeline σ ε := Timeline.scheduleAll ⟨now, [], s⟩ events
    let noted := e.awaitBy v.log (noting p) timeout context (m, []) t
    ((∀ f m, (p f m).1 = e.accepts f) → noted.1 = (e.waitFor v.log timeout context t).2) ∧
    ∀ report t', noted.1 = .error (.notSeen report) t' →
      Blames p (.notSeen report) noted.2.2 ∨
        AddsUp v e.cursor timeout t t' report noted.2.2 := by
  intro t noted
  have ho : t.Ordered := (Timeline.ordered_idle now s).scheduleAll events
  refine ⟨fun hp => ?_, fun report t' h => awaitBy_addsUp v p e timeout context m ho h⟩
  have hnoting : ∀ f m, (noting p f m).1 = e.accepts f := fun f m => hp f m.1
  exact awaitBy_eq hnoting v.log timeout context (m, []) t

/-- The cursor lies beyond the log, so the first of the frames to come is not looked at.  The second
comes at the deadline itself and is. -/
theorem timeout_report_adds_up_beyond_log :
    let poll : Frame := ⟨.playback1, .broadcast, .poll, none⟩
    let events := [(3, poll), (5, poll)]
    let t : Timeline BusLog Frame := Timeline.scheduleAll ⟨0, [], ⟨[poll]⟩⟩ events
    let e : Expectation := ⟨FrameTest.never.predicate, 2, usualDescription, false⟩
    let p : MindfulPredicate Unit := fun f m => (e.accepts f, m)
    ∃ report t', (e.waitFor BusLog.view.log 5 "" t).2 = .error (.notSeen report) t' ∧
      AddsUp BusLog.view 2 5 t t' report
        (e.awaitBy BusLog.view.log (noting p) 5 "" ((), []) t).2.2 ∧
      report.scanned = 1 ∧ report.observed = 2 := by
  intro poll events t e p
  have hseek : seekBy BusLog.view.log (noting p) 5 2 0 ((), []) t =
      ((.expired 1, ⟨5, [], ⟨[poll, poll, poll]⟩⟩), ((), [poll])) := by
    have hfresh : (BusLog.view.log t.state).since 2 = [] := rfl
    rw [seekBy]
    simp only [hfresh, firstAcceptedBy]
    rw [dif_pos (by decide : t.now < 5), seekBy]
    rfl
  have hm : isMeasurable 5 = true := by decide +kernel
  have hnoted : e.awaitBy BusLog.view.log (noting p) 5 "" ((), []) t =
      (.error (.notSeen (e.report BusLog.view.log 5 "" 1 t ⟨5, [], ⟨[poll, poll, poll]⟩⟩))
        ⟨5, [], ⟨[poll, poll, poll]⟩⟩, ((), [poll])) := by
    have hdeadline : t.now + (5 : Int).toNat = 5 := rfl
    simp only [awaitBy, hm, hdeadline, show e.cursor = 2 from rfl, hseek]
    rfl
  obtain ⟨hsame, hreport⟩ := timeout_report_adds_up BusLog.view e 5 "" p () 0 ⟨[poll]⟩ events
  have hend := congrArg Prod.fst hnoted
  refine ⟨_, _, (hsame fun _ _ => rfl).symm.trans hend, ?_, rfl, rfl⟩
  rcases hreport _ _ hend with ⟨f, _, _, hfault⟩ | hadds
  · cases hfault
  · exact hadds

end Expectation

end CecBench
