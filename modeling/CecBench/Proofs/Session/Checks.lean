import CecBench.Proofs.Session.Lifecycle

/-!
# Checks do not interfere

A check of a running session lets time pass and does nothing else.  So a list of
checks runs along one history: what the agenda holds fixes which frames come and
in which order, and the checks only decide how much of it has come in the end.

A check that makes sense and does not run out of time ends with the place of the
history that decides it.  There is at most one such place, wherever in the
history the check begins.  Two lists of checks that begin in the same state
therefore agree on every check that is in both and runs out of time in neither
(`checks_do_not_interfere`).
-/

namespace CecBench

open Timed (behind)
open Timeline (Elapses replay)
open Rig (Act)
open Expectation (Decides AwaitEnds)

/-! ## Histories -/

namespace LogView

variable {σ ε : Type} [Unfolds σ ε] (v : LogView σ ε) {t t' : Timeline σ ε}
  {past : List (Nat × ε)}

theorem replay_prefix (past rest : List (Nat × ε)) (s : σ) :
    (v.log (replay past s)).frames <+: (v.log (replay (past ++ rest) s)).frames := by
  rw [Timeline.replay_append, v.frames_replay rest]
  exact List.prefix_append _ _

/-- The log later is the log now with more frames, all of them on the agenda. -/
theorem log_later (h : Elapses t past t') :
    (v.log t.state).frames <+: (v.log t'.state).frames ∧
      (v.log t'.state).frames <+: (v.log (replay t.agenda t.state)).frames := by
  rw [h.state, h.agenda]
  exact ⟨v.replay_prefix [] past t.state, v.replay_prefix past t'.agenda t.state⟩

/-- A place that decides a wait later decides it now. -/
theorem decides_earlier {accepts : FramePredicate} {cursor i : Nat} {x : Nat × Frame}
    (h : Elapses t past t') (hdec : Decides accepts cursor (v.history t') i x) :
    ∃ y, Decides accepts cursor (v.history t) i y ∧ y.2 = x.2 := by
  have hget (j : Nat) : ((v.history t')[j]?).map Prod.snd = ((v.history t)[j]?).map Prod.snd := by
    rw [← List.getElem?_map, ← List.getElem?_map, v.history_frames h]
  obtain ⟨y, hy, heq⟩ := Option.map_eq_some_iff.mp
    ((hget i).symm.trans (congrArg (Option.map Prod.snd) hdec.place))
  refine ⟨y, ⟨hdec.ahead, hy, heq ▸ hdec.decisive, fun j z hj hji hz => ?_⟩, heq⟩
  obtain ⟨w, hw, hwz⟩ := Option.map_eq_some_iff.mp
    ((hget j).trans (congrArg (Option.map Prod.snd) hz))
  exact hwz ▸ hdec.first j w hj hji hw

end LogView

namespace Session

variable {s : Session} {t : Timeline Rig Happening}

/-! ## Checks -/

/-- A check as a caller makes it. -/
inductive Check
  | frame (accepts : FramePredicate) (timeout : Int) (since : Option Int)
      (description context : String)
  | opcode (c : OpcodeCheck) (timeout : Int) (since : Option Int) (context : String)

namespace Check

def act (s : Session) : Check → Act Frame
  | .frame accepts timeout since description context =>
    s.checkFrame accepts timeout since description context
  | .opcode c timeout since context => s.checkOpcode c timeout since context

def accepts : Check → FramePredicate
  | .frame accepts _ _ _ _ => accepts
  | .opcode c _ _ _ => c.test.predicate

def timeout : Check → Int
  | .frame _ timeout _ _ _ | .opcode _ timeout _ _ => timeout

def cursor : Check → Int
  | .frame _ _ since _ _ | .opcode _ _ since _ => since.getD 0

/-- The cursor and the time are such that there is something to wait for. -/
def MakesSense (c : Check) : Prop :=
  0 ≤ c.cursor ∧ 0 ≤ c.timeout ∧ isMeasurable c.timeout = true

theorem act_eq_checkFrame (s : Session) (c : Check) : ∃ since description context,
    c.cursor = since.getD 0 ∧
      c.act s = s.checkFrame c.accepts c.timeout since description context := by
  cases c with
  | frame accepts timeout since description context => exact ⟨since, description, context, rfl, rfl⟩
  | opcode c timeout since context => exact ⟨since, _, _, rfl, rfl⟩

end Check

/-- How a computation ends, without the time. -/
def outcome {α : Type} (work : Act α) (t : Timeline Rig Happening) : Except Fault α :=
  match work t with
  | .ok a _ => .ok a
  | .error e _ => .error e

/-- The check has run out of time. -/
def TimedOut : Except Fault Frame → Prop
  | .error (.notSeen _) => True
  | _ => False

/-- How some checks end, one after the other, and the timeline behind them. -/
def checkAll (s : Session) : List Check → Timeline Rig Happening →
    List (Except Fault Frame) × Timeline Rig Happening
  | [], t => ([], t)
  | c :: rest, t =>
    let later := s.checkAll rest (behind (c.act s) t)
    (outcome (c.act s) t :: later.1, later.2)

/-! ## One check -/

/-- The session runs. -/
structure Runs (t : Timeline Rig Happening) : Prop where
  sound : Sound t
  phase : t.state.holdings.phase = .running

theorem Runs.of_spared {t' : Timeline Rig Happening} (h : Runs t) (ho : t'.Ordered)
    (hspared : Rig.Spared t t') : Runs t' :=
  ⟨h.sound.of_spared ho hspared, hspared.phase.trans h.phase⟩

theorem Check.passes (s : Session) (c : Check) (h : Runs t) :
    Runs (behind (c.act s) t) ∧ ∃ past, Elapses t past (behind (c.act s) t) := by
  obtain ⟨since, description, context, _, hact⟩ := c.act_eq_checkFrame s
  have hwaits := s.checkFrame_waits c.accepts c.timeout since description context
  rw [← hact] at hwaits
  obtain ⟨ho, hspared⟩ := hwaits.keeps (R := Rig.Spared) t h.sound.ordered
  exact ⟨h.of_spared ho hspared, hwaits t h.sound.ordered⟩

/-- A running session makes the check by waiting for an expectation. -/
theorem Check.act_apply (s : Session) (c : Check) :
    ∃ description context : String, ∀ t, Runs t → c.act s t =
      if c.cursor < 0 then .error (.cursor c.cursor) t
      else Expectation.await Rig.log ⟨c.accepts, c.cursor.toNat, description, false⟩ c.timeout
        context t := by
  obtain ⟨since, description, context, hcursor, hact⟩ := c.act_eq_checkFrame s
  refine ⟨if description.isEmpty then Expectation.usualDescription else description,
    s.contextFor "check" context, fun t h => ?_⟩
  obtain ⟨reader, hreader⟩ := Option.isSome_iff_exists.mp (h.sound.reads h.phase)
  rw [hact, hcursor, checkFrame, Timed.bind_of_ok
    (s.runningMonitor_serves _ _ h.phase (h.sound.held.mpr h.phase) hreader), Expectation.build]
  split_ifs <;> rfl

/-- A check that makes no sense is refused with the same fault at any time. -/
theorem Check.outcome_of_nonsense (s : Session) {c : Check} (hc : ¬ c.MakesSense) :
    ∃ e, ∀ t, Runs t → outcome (c.act s) t = .error e := by
  obtain ⟨description, context, hact⟩ := c.act_apply s
  by_cases hcursor : c.cursor < 0
  · refine ⟨.cursor c.cursor, fun t h => ?_⟩
    rw [outcome, hact t h, if_pos hcursor]
  by_cases htimeout : c.timeout < 0
  · refine ⟨.timeoutRange context c.timeout, fun t h => ?_⟩
    simp [outcome, hact t h, hcursor, Expectation.await, htimeout]
  · have hm : isMeasurable c.timeout = false := by
      cases hm : isMeasurable c.timeout with
      | false => rfl
      | true => exact absurd ⟨Int.not_lt.mp hcursor, Int.not_lt.mp htimeout, hm⟩ hc
    refine ⟨.immeasurable, fun t h => ?_⟩
    simp [outcome, hact t h, hcursor, Expectation.await, htimeout, hm]

/-- A check that makes sense runs out of time or ends with the place that decides it. -/
theorem Check.outcome_of_sense (s : Session) {c : Check} (hc : c.MakesSense) (h : Runs t)
    (htime : ¬ TimedOut (outcome (c.act s) t)) :
    ∃ k x, Decides c.accepts c.cursor.toNat (Rig.view.history t) k x ∧
      outcome (c.act s) t = (c.accepts x.2).map (fun _ => x.2) ∧
      (Rig.log (behind (c.act s) t).state).frames[k]? = some x.2 := by
  obtain ⟨hcursor, htimeout, hm⟩ := hc
  obtain ⟨description, context, hact⟩ := c.act_apply s
  have hwait := hact t h
  rw [if_neg (Int.not_lt.mpr hcursor), ← Int.toNat_of_nonneg htimeout] at hwait
  rw [← Int.toNat_of_nonneg htimeout] at hm
  have hends := Expectation.await_ends Rig.view c.accepts c.cursor.toNat c.timeout.toNat description
    context h.sound.ordered hm
  change AwaitEnds _ _ _ _ _ (Expectation.await Rig.log _ _ context t) at hends
  rw [← hwait] at hends
  cases hends with
  | @decided k x hdec _ hend =>
    obtain ⟨t', _, hframe, hresult⟩ := hend
    refine ⟨k, x, hdec, ?_, ?_⟩
    · rw [outcome, hresult]
      cases c.accepts x.2 <;> rfl
    · rw [behind, hresult]
      cases c.accepts x.2 <;> exact hframe
  | expired hresult =>
    rw [outcome, hresult] at htime
    exact absurd trivial htime

/-! ## Many checks -/

/-- Checks let time pass, and each of them is made by a running session on the way. -/
theorem checkAll_passes (s : Session) (checks : List Check) (h : Runs t) :
    (∃ past, Elapses t past (s.checkAll checks t).2) ∧
      ∀ (i : Nat) (c : Check) (o : Except Fault Frame), checks[i]? = some c →
        (s.checkAll checks t).1[i]? = some o →
        ∃ u, Runs u ∧ o = outcome (c.act s) u ∧ (∃ past, Elapses t past u) ∧
          ∃ past, Elapses (behind (c.act s) u) past (s.checkAll checks t).2 := by
  induction checks generalizing t with
  | nil =>
    refine ⟨⟨[], .refl h.sound.ordered⟩, fun i c o hc => ?_⟩
    cases hc
  | cons c checks ih =>
    obtain ⟨hruns, past, hpast⟩ := c.passes s h
    obtain ⟨⟨later, hlater⟩, hall⟩ := ih hruns
    refine ⟨⟨past ++ later, hpast.trans hlater⟩, fun i c' o hc ho => ?_⟩
    cases i with
    | zero =>
      obtain rfl : c = c' := Option.some.inj hc
      obtain rfl : outcome (c.act s) t = o := Option.some.inj ho
      exact ⟨t, h, rfl, ⟨[], .refl h.sound.ordered⟩, later, hlater⟩
    | succ i =>
      obtain ⟨u, hu, heq, ⟨between, hbetween⟩, hrest⟩ := hall i c' o hc ho
      exact ⟨u, hu, heq, ⟨past ++ between, hpast.trans hbetween⟩, hrest⟩

/-- A check among others that makes sense and has not run out of time: the place of the history from
which all of them begin, and its frame in the log behind all of them. -/
theorem checkAll_decided (s : Session) {checks : List Check} {i : Nat} {c : Check}
    {o : Except Fault Frame} (h : Runs t) (hc : checks[i]? = some c)
    (ho : (s.checkAll checks t).1[i]? = some o) (hsense : c.MakesSense) (htime : ¬ TimedOut o) :
    ∃ k x, Decides c.accepts c.cursor.toNat (Rig.view.history t) k x ∧
      o = (c.accepts x.2).map (fun _ => x.2) ∧
      (Rig.log (s.checkAll checks t).2.state).frames[k]? = some x.2 := by
  obtain ⟨u, hu, rfl, ⟨past, hpast⟩, later, hlater⟩ := (s.checkAll_passes checks h).2 i c o hc ho
  obtain ⟨k, x, hdec, houtcome, hframe⟩ := Check.outcome_of_sense s hsense hu htime
  obtain ⟨y, hdec', heq⟩ := Rig.view.decides_earlier hpast hdec
  refine ⟨k, y, hdec', ?_, ?_⟩
  · rw [heq]
    exact houtcome
  · obtain ⟨news, hnews⟩ := (Rig.view.log_later hlater).1
    change (Rig.view.log (behind (c.act s) u).state).frames[k]? = some x.2 at hframe
    have hsize := (List.getElem?_eq_some_iff.mp hframe).1
    show (Rig.view.log (s.checkAll checks t).2.state).frames[k]? = some y.2
    rw [← hnews, List.getElem?_append_left hsize, heq]
    exact hframe

/-- Two lists of checks are made from the same state of a running session, such as the same checks
in two orders.  Each leaves a log that begins with the log before and that the frames to come
continue.  A check that is in both lists and runs out of time in neither ends in both in the same
way: with the frame at one and the same place of both logs or with the fault that the condition ends
in there. -/
theorem checks_do_not_interfere (s : Session) (h : Runs t) (first second : List Check) :
    let produced := (Rig.log (replay t.agenda t.state)).frames
    let log (checks : List Check) := (Rig.log (s.checkAll checks t).2.state).frames
    (∀ checks, (Rig.log t.state).frames <+: log checks ∧ log checks <+: produced) ∧
    ∀ (i j : Nat) (c : Check) (o o' : Except Fault Frame),
      first[i]? = some c → second[j]? = some c →
      (s.checkAll first t).1[i]? = some o → (s.checkAll second t).1[j]? = some o' →
      ¬ TimedOut o → ¬ TimedOut o' →
      o = o' ∧ (c.MakesSense → ∃ k x,
        Decides c.accepts c.cursor.toNat (Rig.view.history t) k x ∧
        o = (c.accepts x.2).map (fun _ => x.2) ∧
        (log first)[k]? = some x.2 ∧ (log second)[k]? = some x.2) := by
  intro produced log
  refine ⟨fun checks => ?_, fun i j c o o' hc hc' ho ho' htime htime' => ?_⟩
  · obtain ⟨past, hpast⟩ := (s.checkAll_passes checks h).1
    exact Rig.view.log_later hpast
  · by_cases hsense : c.MakesSense
    · obtain ⟨k, x, hdec, houtcome, hframe⟩ := s.checkAll_decided h hc ho hsense htime
      obtain ⟨k', x', hdec', houtcome', hframe'⟩ := s.checkAll_decided h hc' ho' hsense htime'
      obtain ⟨rfl, rfl⟩ := hdec.unique hdec'
      exact ⟨houtcome.trans houtcome'.symm, fun _ => ⟨k, x, hdec, houtcome, hframe, hframe'⟩⟩
    · obtain ⟨e, he⟩ := Check.outcome_of_nonsense s hsense
      obtain ⟨u, hu, rfl, _⟩ := (s.checkAll_passes first h).2 i c o hc ho
      obtain ⟨u', hu', rfl, _⟩ := (s.checkAll_passes second h).2 j c o' hc' ho'
      exact ⟨(he u hu).trans (he u' hu').symm, fun hc => absurd hc hsense⟩

/-- The program gets ready and then tells of two frames; each is checked for, in either order. -/
theorem checks_do_not_interfere_of_two_frames :
    let script : ProgramScript :=
      { opening := [.prints "waiting for input"]
        events := [(100, [.prints "TRAFFIC: [ 100]\t>> 40:04"]),
          (200, [.prints "TRAFFIC: [ 200]\t>> 40:36"])] }
    let t := usual.run [.begin ""] { state.surroundings.scripts := [script] }
    let view := Check.opcode { opcode := .number 0x04 } 1000 none ""
    let standby := Check.opcode { opcode := .number 0x36 } 1000 none ""
    Runs t ∧ ∀ o o', (usual.checkAll [view, standby] t).1[0]? = some o →
      (usual.checkAll [standby, view] t).1[1]? = some o' →
      ¬ TimedOut o → ¬ TimedOut o' → o = o' := by
  intro script t view standby
  have h : Runs t :=
    ⟨usual.run_sound _ (sound_new (Timeline.ordered_idle 0 _) rfl rfl), by decide +kernel⟩
  refine ⟨h, fun o o' ho ho' htime htime' => ?_⟩
  exact ((checks_do_not_interfere usual h [view, standby] [standby, view]).2 0 1 view o o' rfl rfl
    ho ho' htime htime').1

end Session

end CecBench
