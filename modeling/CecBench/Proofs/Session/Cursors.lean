import CecBench.Proofs.Session.Checks

/-!
# What a cursor means

The bus log is seen in three ways.  A snapshot tells its frames, a mark tells
how many there are, and a check looks for a frame from a cursor on.  As long as
the session runs they tell of one log, which only grows: whatever is asked in
between and however it ends, no place of the log is given to another frame
(`run_running`).

`Finds` says what a check from a cursor has to answer in terms of the frames of
a snapshot.  An answer that is right in one snapshot is right in every later one
(`Finds.of_prefix`).  The module ends in `snapshots_and_marks_agree`, where the
three are taken at three times of one run.
-/

namespace CecBench

open Timed (behind)
open Rig (Spared)

namespace Session

variable {s : Session} {t : Timeline Rig Happening}

/-! ## As long as the session runs -/

/-- A session that is over stays over. -/
theorem run_terminated (s : Session) (steps : List Step) (h : Sound t)
    (hphase : t.state.holdings.phase = .terminated) :
    (s.run steps t).state.holdings.phase = .terminated := by
  induction steps generalizing t with
  | nil => exact hphase
  | cons step steps ih =>
    obtain ⟨hsound, hmoves⟩ := step.advances s s.startAdapter_spares h
    rw [step.actBy_startAdapter] at hsound hmoves
    refine ih hsound ?_
    rw [hphase] at hmoves
    generalize (behind (step.act s) t).state.holdings.phase = p at hmoves ⊢
    cases hmoves
    rfl

/-- A step behind which the session still runs has spared it. -/
theorem Step.spares_running (s : Session) (step : Step) (h : Runs t)
    (hphase : (behind (step.act s) t).state.holdings.phase = .running) :
    Runs (behind (step.act s) t) ∧ Spared t (behind (step.act s) t) := by
  have hnew : t.state.holdings.phase ≠ .uninitialized := by
    rw [h.phase]
    exact Phase.noConfusion
  have hrefused {context : String} (hact : step.act s = s.begin context) :
      Runs (behind (step.act s) t) ∧ Spared t (behind (step.act s) t) := by
    rw [hact, s.begin_eq_beginBy, Timed.behind_of_error (s.beginBy_refuses _ context hnew)]
    exact ⟨h, .refl _⟩
  have hover (hact : step.act s = s.finish) :
      Runs (behind (step.act s) t) ∧ Spared t (behind (step.act s) t) := by
    have hfinish := s.finish_apply t
    rw [if_neg fun hover => Phase.noConfusion (h.phase.symm.trans hover.1), ← hact] at hfinish
    rw [Timed.behind_of_ok hfinish] at hphase
    cases hphase
  have hinner (hin : step.IsInner) :
      Runs (behind (step.act s) t) ∧ Spared t (behind (step.act s) t) := by
    obtain ⟨ho, hspared⟩ := Step.keeps_of_inner (Q := Spared) s hin t h.sound.ordered
    exact ⟨⟨h.sound.of_spared ho hspared, hphase⟩, hspared⟩
  cases step with
  | begin | enter => exact hrefused rfl
  | finish | leave => exact hover rfl
  | send | sendDraft | checkFrame | checkOpcode | mark | snapshot | monitor | awaitDevice | sleep
    | prompt | plan => exact hinner trivial

/-- A run behind which the session still runs has spared it. -/
theorem run_running (s : Session) (steps : List Step) (h : Runs t)
    (hphase : (s.run steps t).state.holdings.phase = .running) :
    Runs (s.run steps t) ∧ Spared t (s.run steps t) := by
  induction steps generalizing t with
  | nil => exact ⟨h, .refl _⟩
  | cons step steps ih =>
    obtain ⟨hsound, hmoves⟩ := step.advances s s.startAdapter_spares h.sound
    rw [step.actBy_startAdapter] at hsound hmoves
    have hrunning : (behind (step.act s) t).state.holdings.phase = .running := by
      rw [h.phase] at hmoves
      cases hnext : (behind (step.act s) t).state.holdings.phase with
      | running => rfl
      | uninitialized =>
        rw [hnext] at hmoves
        cases hmoves
      | terminated => cases hphase.symm.trans (s.run_terminated steps hsound hnext)
    obtain ⟨hruns, hspared⟩ := step.spares_running s h hrunning
    obtain ⟨hend, hrest⟩ := ih hruns hphase
    exact ⟨hend, hspared.trans hrest⟩

/-! ## Looking at the log -/

theorem runningMonitor_log (s : Session) (action context : String) (h : Runs t) :
    ∃ m, s.runningMonitor action context t = .ok m t ∧ m.log = Rig.log t.state := by
  obtain ⟨reader, hreader⟩ := Option.isSome_iff_exists.mp (h.sound.reads h.phase)
  refine ⟨_, s.runningMonitor_serves _ _ h.phase (h.sound.held.mpr h.phase) hreader, ?_⟩
  rw [Rig.log, hreader]
  rfl

/-- A snapshot tells the frames of the log. -/
theorem snapshot_apply (s : Session) (h : Runs t) :
    s.snapshot t = .ok (Rig.log t.state).frames t := by
  obtain ⟨m, hm, hlog⟩ := s.runningMonitor_log "snapshot the bus log" "" h
  rw [snapshot, Timed.bind_of_ok hm, hlog]
  rfl

/-- A mark tells how many there are. -/
theorem mark_apply (s : Session) (h : Runs t) :
    s.mark t = .ok (Rig.log t.state).frames.length t := by
  obtain ⟨m, hm, hlog⟩ := s.runningMonitor_log "mark the bus log" "" h
  rw [mark, Timed.bind_of_ok hm, hlog]
  rfl

/-! ## Looking for a frame -/

/-- From the cursor on, the first of the frames that satisfies the condition is `f` at place `k`, and
the condition fails on none before it. -/
structure Finds (accepts : FramePredicate) (cursor : Nat) (frames : List Frame) (k : Nat)
    (f : Frame) : Prop where
  /-- The place is not before the cursor. -/
  ahead : cursor ≤ k
  /-- It holds the frame. -/
  place : frames[k]? = some f
  /-- The frame satisfies the condition. -/
  accepted : accepts f = .ok true
  /-- The condition passes over every frame between. -/
  first : ∀ j g, cursor ≤ j → j < k → frames[j]? = some g → accepts g = .ok false

theorem Finds.of_prefix {accepts : FramePredicate} {cursor k : Nat} {frames more : List Frame}
    {f : Frame} (h : Finds accepts cursor frames k f) (hmore : frames <+: more) :
    Finds accepts cursor more k f := by
  obtain ⟨news, rfl⟩ := hmore
  have hsize := (List.getElem?_eq_some_iff.mp h.place).1
  refine ⟨h.ahead, ?_, h.accepted, fun j g hj hjk hg => ?_⟩
  · rw [List.getElem?_append_left hsize]
    exact h.place
  · rw [List.getElem?_append_left (hjk.trans hsize)] at hg
    exact h.first j g hj hjk hg

/-- A check that succeeds answers with what is to be found in the log behind it. -/
theorem Check.finds (s : Session) {c : Check} (h : Runs t) {f : Frame}
    {v : Timeline Rig Happening} (hact : c.act s t = .ok f v) :
    ∃ k, Finds c.accepts c.cursor.toNat (Rig.log v.state).frames k f := by
  have houtcome : outcome (c.act s) t = .ok f := by rw [outcome, hact]
  obtain ⟨_, past, hpast⟩ := c.passes s h
  rw [Timed.behind_of_ok hact] at hpast
  by_cases hsense : c.MakesSense
  · obtain ⟨k, x, hdec, hx, hplace⟩ :=
      Check.outcome_of_sense s hsense h (by rw [houtcome]; exact id)
    rw [Timed.behind_of_ok hact] at hplace
    rw [houtcome] at hx
    obtain ⟨hf, haccepted⟩ : x.2 = f ∧ c.accepts x.2 = .ok true := by
      cases ha : c.accepts x.2 with
      | error e =>
        rw [ha] at hx
        cases hx
      | ok b =>
        rw [ha] at hx
        refine ⟨(Except.ok.inj hx).symm, ?_⟩
        cases b with
        | true => rfl
        | false => exact absurd ha hdec.decisive
    subst hf
    refine ⟨k, hdec.ahead, hplace, haccepted, fun j g hj hjk hg => ?_⟩
    obtain ⟨y, hy, rfl⟩ := Rig.view.history_getElem?_earlier hpast hg
    exact hdec.first j y hj hjk hy
  · obtain ⟨e, he⟩ := Check.outcome_of_nonsense s hsense
    cases (he t h).symm.trans houtcome

/-- A check for a frame that is there already succeeds at once. -/
theorem Check.act_of_logged (s : Session) {c : Check} (hsense : c.MakesSense) (h : Runs t)
    {f : Frame} (hlogged : Expectation.firstAccepted c.accepts
      ((Rig.log t.state).since c.cursor.toNat) = .ok (some f)) : c.act s t = .ok f t := by
  obtain ⟨hcursor, htimeout, hm⟩ := hsense
  obtain ⟨description, context, hact⟩ := c.act_apply s
  rw [hact t h, if_neg (Int.not_lt.mpr hcursor), ← Int.toNat_of_nonneg htimeout,
    Expectation.await_eq _ _ _ _ _ _ _ (by rwa [Int.toNat_of_nonneg htimeout]), Expectation.seek]
  simp only [hlogged]

/-! ## One run -/

/-- A new session is asked for `before`, and then it runs.  Its snapshot and its mark tell of the same
log.  Whatever is asked `between`, the snapshot only has more frames behind these.  A check that is
made then, from the mark, and succeeds answers with a frame that has one place in all snapshots taken
later, whatever is asked `after`: the first place from the mark on whose frame satisfies the
condition. -/
theorem snapshots_and_marks_agree (s : Session) (ho : t.Ordered)
    (hnew : t.state.holdings.phase = .uninitialized)
    (hfree : t.state.holdings.holdsMonitor = false) (before : List Step)
    (hbefore : (s.run before t).state.holdings.phase = .running) :
    let marked := s.run before t
    ∃ frames, s.snapshot marked = .ok frames marked ∧ s.mark marked = .ok frames.length marked ∧
      ∀ between, let later := s.run between marked
        later.state.holdings.phase = .running →
        (∃ more, s.snapshot later = .ok (frames ++ more) later ∧
          s.mark later = .ok (frames ++ more).length later) ∧
        ∀ (c : Check) (f : Frame) (answered : Timeline Rig Happening),
          c.cursor = frames.length → c.act s later = .ok f answered →
          ∃ k, ∀ after, let last := s.run after answered
            last.state.holdings.phase = .running →
            ∃ all, s.snapshot last = .ok all last ∧ Finds c.accepts frames.length all k f := by
  intro marked
  have hmarked : Runs marked := ⟨s.run_sound before (sound_new ho hnew hfree), hbefore⟩
  refine ⟨_, s.snapshot_apply hmarked, s.mark_apply hmarked, fun between => ?_⟩
  intro later hlater
  obtain ⟨hruns, hspared⟩ := s.run_running between hmarked hlater
  obtain ⟨more, hmore⟩ := hspared.log
  refine ⟨⟨more, ?_, ?_⟩, fun c f answered hcursor hact => ?_⟩
  · rw [hmore]
    exact s.snapshot_apply hruns
  · rw [hmore]
    exact s.mark_apply hruns
  · obtain ⟨k, hfinds⟩ := Check.finds s hruns hact
    have hanswered := (c.passes s hruns).1
    rw [Timed.behind_of_ok hact] at hanswered
    rw [hcursor, Int.toNat_natCast] at hfinds
    refine ⟨k, fun after => ?_⟩
    intro last hlast
    obtain ⟨hend, hrest⟩ := s.run_running after hanswered hlast
    exact ⟨_, s.snapshot_apply hend, hfinds.of_prefix hrest.log⟩

/-- Of three frames one comes before the mark, one behind it and one behind the check. -/
theorem snapshots_and_marks_agree_of_three_frames :
    let script : ProgramScript :=
      { opening := [.prints "waiting for input"]
        events := [(100, [.prints "TRAFFIC: [ 100]\t>> 40:36"]),
          (200, [.prints "TRAFFIC: [ 200]\t>> 40:36"]),
          (300, [.prints "TRAFFIC: [ 300]\t>> 40:36"])] }
    let t : Timeline Rig Happening := { state.surroundings.scripts := [script] }
    let marked := usual.run [.begin "", .sleep 150] t
    let later := usual.run [.sleep 100] marked
    let last := usual.run [.sleep 100] later
    let standby := Check.opcode { opcode := .number 0x36 } 1000 (some 1) ""
    let second : Frame := ⟨.playback1, .tv, .message 0x36 ⟨[], by decide⟩, some 200⟩
    usual.mark marked = .ok 1 marked ∧ standby.act usual later = .ok second later ∧
      ∃ all k, usual.snapshot last = .ok all last ∧ Finds standby.accepts 1 all k second := by
  intro script t marked later last standby second
  have hnew : t.state.holdings.phase = .uninitialized := rfl
  have hfree : t.state.holdings.holdsMonitor = false := rfl
  have hsound : Sound t := sound_new (Timeline.ordered_idle 0 _) hnew hfree
  have hmarked : marked.state.holdings.phase = .running := by decide +kernel
  have hlater : later.state.holdings.phase = .running := by decide +kernel
  have hlast : last.state.holdings.phase = .running := by decide +kernel
  have hcount : (outcome usual.mark marked).toOption = some 1 := by decide +kernel
  have hlogged : (Expectation.firstAccepted standby.accepts
      ((Rig.log later.state).since 1)).toOption = some (some second) := by decide +kernel
  have hsense : standby.MakesSense := ⟨by decide, by decide, by decide +kernel⟩
  -- From here on nothing is evaluated.
  clear_value t
  obtain ⟨frames, _, hmark, hbetween⟩ := snapshots_and_marks_agree usual hsound.ordered hnew hfree
    [.begin "", .sleep 150] hmarked
  change usual.mark marked = .ok frames.length marked at hmark
  have hone : frames.length = 1 := by
    rw [outcome, hmark] at hcount
    exact Option.some.inj hcount
  rw [hone] at hmark
  have hruns : Runs later :=
    (usual.run_running [.sleep 100] ⟨usual.run_sound _ hsound, hmarked⟩ hlater).1
  have hact : standby.act usual later = .ok second later := by
    refine Check.act_of_logged usual hsense hruns ?_
    change Expectation.firstAccepted standby.accepts ((Rig.log later.state).since 1) = _
    cases hfirst : Expectation.firstAccepted standby.accepts ((Rig.log later.state).since 1) with
    | error e =>
      rw [hfirst] at hlogged
      cases hlogged
    | ok found =>
      rw [hfirst] at hlogged
      exact congrArg Except.ok (Option.some.inj hlogged)
  obtain ⟨k, hfinds⟩ :=
    (hbetween [.sleep 100] hlater).2 standby second later (by rw [hone]; rfl) hact
  obtain ⟨all, hall, hk⟩ := hfinds [.sleep 100] hlast
  rw [hone] at hk
  exact ⟨hmark, hact, all, k, hall, hk⟩

end Session

end CecBench
