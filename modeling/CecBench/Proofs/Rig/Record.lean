import CecBench.Proofs.Accord
import CecBench.Proofs.Adapter.Failures

/-!
# The record of calls

The rig keeps a record of what was asked of the surroundings.  Nothing that runs on the rig ever looks
at it.  So a computation that begins with a longer record does the same, ends in the same way, and
adds the same calls to it: the calls of the past ride through untouched.

`preceded past t` is the timeline `t` with more calls in the past, and `Forgetful` holds of the
computations that commute with that.  They are put together as computations are.
-/

namespace CecBench

open Timed (behind Abreast Carried)
open Rig

/-! ## Computations that commute with a change -/

namespace Timed

variable {σ ε α β : Type} {f : Timeline σ ε → Timeline σ ε}

/-- The result with the timeline behind it changed. -/
def alter (f : Timeline σ ε → Timeline σ ε) :
    EStateM.Result Fault (Timeline σ ε) α → EStateM.Result Fault (Timeline σ ε) α
  | .ok a t => .ok a (f t)
  | .error e t => .error e (f t)

/-- The change may come before the computation or behind it. -/
def Commutes (f : Timeline σ ε → Timeline σ ε) (work : Timed σ ε α) : Prop :=
  ∀ t, work (f t) = alter f (work t)

theorem Commutes.behind {work : Timed σ ε α} (h : work.Commutes f) (t : Timeline σ ε) :
    Timed.behind work (f t) = f (Timed.behind work t) := by
  rw [Timed.behind, h t, Timed.behind]
  cases work t <;> rfl

theorem commutes_pure (a : α) : Commutes f (pure a : Timed σ ε α) := fun _ => rfl

theorem commutes_throw (e : Fault) : Commutes f (throw e : Timed σ ε α) := fun _ => rfl

theorem commutes_lift {η : Type} (fault : η → Fault) (x : Except η α) :
    Commutes f (lift fault x : Timed σ ε α) := by
  cases x with
  | ok a => exact commutes_pure a
  | error e => exact commutes_throw _

theorem commutes_measure (duration : Int) : Commutes f (measure duration : Timed σ ε Unit) := by
  unfold measure
  split
  · exact commutes_pure ()
  · exact commutes_throw _

theorem Commutes.bind {work : Timed σ ε α} {next : α → Timed σ ε β} (h : work.Commutes f)
    (h' : ∀ a, (next a).Commutes f) : (work >>= next).Commutes f := by
  intro t
  cases hw : work t with
  | ok a t' =>
    have hw' : work (f t) = .ok a (f t') := by rw [h t, hw, alter]
    rw [bind_of_ok hw, bind_of_ok hw', h' a t']
  | error e t' =>
    have hw' : work (f t) = .error e (f t') := by rw [h t, hw, alter]
    rw [bind_of_error hw, bind_of_error hw', alter]

theorem Commutes.tryCatch {work : Timed σ ε α} {handler : Fault → Timed σ ε α}
    (h : work.Commutes f) (h' : ∀ e, (handler e).Commutes f) :
    (MonadExcept.tryCatch work handler : Timed σ ε α).Commutes f := by
  intro t
  cases hw : work t with
  | ok a t' =>
    have hw' : work (f t) = .ok a (f t') := by rw [h t, hw, alter]
    rw [tryCatch_of_ok hw, tryCatch_of_ok hw', alter]
  | error e t' =>
    have hw' : work (f t) = .error e (f t') := by rw [h t, hw, alter]
    rw [tryCatch_of_error hw, tryCatch_of_error hw', h' e t']

end Timed

namespace Rig

/-! ## More calls in the past -/

variable {α β : Type} {past : List Call} {t u : Timeline Rig Happening}

/-- The rig with more calls before those that were made. -/
def recalling (past : List Call) (r : Rig) : Rig :=
  { r with surroundings.calls := past ++ r.surroundings.calls }

/-- The timeline with more calls before those that were made. -/
def preceded (past : List Call) (t : Timeline Rig Happening) : Timeline Rig Happening :=
  { t with state := recalling past t.state }

/-- Reading does not look at the record. -/
theorem settle_recalling (now : Nat) (r : Rig) :
    (recalling past r).settle now = recalling past (r.settle now) := by
  obtain ⟨surroundings, holdings, reader⟩ := r
  cases reader with
  | none => rfl
  | some reader =>
    cases hp : surroundings.programs[reader.program]? <;>
      simp [settle, recalling, program?, modifyProgram, hp]

/-- The second rig remembers more than the first one, and is the same otherwise. -/
def Recalls (past : List Call) (r s : Rig) : Prop := s = recalling past r

instance : Carried (Recalls past) where
  unfold {r s} now e h := by
    subst h
    exact settle_recalling now (r.modifyProgram e.program (·.actAll e.actions))

theorem abreast_iff : Abreast (Recalls past) t u ↔ u = preceded past t := by
  constructor
  · rintro ⟨hnow, hagenda, hstate⟩
    obtain ⟨now, agenda, state⟩ := u
    cases hnow
    cases hagenda
    cases hstate
    rfl
  · rintro rfl
    exact ⟨rfl, rfl, rfl⟩

/-- The computation does not look at the record. -/
def Forgetful (work : Act α) : Prop := ∀ past, work.Commutes (preceded past)

theorem forgetful_pure (a : α) : Forgetful (pure a) := fun _ => Timed.commutes_pure a

theorem forgetful_throw (e : Fault) : Forgetful (throw e : Act α) := fun _ => Timed.commutes_throw e

theorem forgetful_lift {η : Type} (fault : η → Fault) (x : Except η α) :
    Forgetful (Timed.lift fault x : Act α) := fun _ => Timed.commutes_lift fault x

theorem forgetful_measure (duration : Int) : Forgetful (Timed.measure duration : Act Unit) :=
  fun _ => Timed.commutes_measure duration

theorem Forgetful.bind {work : Act α} {next : α → Act β} (h : Forgetful work)
    (h' : ∀ a, Forgetful (next a)) : Forgetful (work >>= next) :=
  fun past => (h past).bind fun a => h' a past

theorem Forgetful.tryCatch {work : Act α} {handler : Fault → Act α} (h : Forgetful work)
    (h' : ∀ e, Forgetful (handler e)) : Forgetful (MonadExcept.tryCatch work handler) :=
  fun past => (h past).tryCatch fun e => h' e past

/-- What is done with the state does not depend on the record. -/
theorem forgetful_look {next : Rig → Act α}
    (h : ∀ past r, next (recalling past r) = next r) (h' : ∀ r, Forgetful (next r)) :
    Forgetful (Timed.state >>= next) := by
  intro past t
  rw [Timed.state_bind, Timed.state_bind]
  exact (congrFun (h past t.state) _).trans (h' t.state past t)

theorem forgetful_update {f : Rig → Rig}
    (h : ∀ past r, f (recalling past r) = recalling past (f r)) :
    Forgetful (Timed.update f : Act Unit) := by
  intro past t
  show EStateM.Result.ok () { preceded past t with state := f (recalling past t.state) } = _
  rw [h]
  rfl

theorem forgetful_now : Forgetful (Timed.now : Act Nat) := fun _ _ => rfl

theorem inHand_forgetful : Forgetful inHand :=
  forgetful_look (fun _ _ => rfl) fun _ => forgetful_pure _

theorem hold_forgetful (f : Holdings → Holdings) : Forgetful (hold f) :=
  forgetful_update fun _ _ => rfl

theorem forgetful_schedule (events : List (Nat × Happening)) :
    Forgetful (Timed.schedule events : Act Unit) := by
  intro past t
  have h : Abreast (Recalls past) (t.scheduleAll events) ((preceded past t).scheduleAll events) :=
    (abreast_iff.mpr rfl).scheduleAll events
  exact congrArg (EStateM.Result.ok ()) (abreast_iff.mp h)

theorem forgetful_await {wished : Rig → Bool} (h : ∀ past r, wished (recalling past r) = wished r)
    (timeout : Int) : Forgetful (Timed.await wished timeout : Act Bool) := by
  intro past t
  have hsame (r s : Rig) (hs : Recalls past r s) : wished r = wished s := by
    subst hs
    exact (h past r).symm
  obtain ⟨hmet, hwait⟩ := Timed.wait_abreast (t := t) (u := preceded past t) hsame timeout
    (abreast_iff.mpr rfl)
  show EStateM.Result.ok ((preceded past t).wait wished timeout).1
      ((preceded past t).wait wished timeout).2 =
    .ok (t.wait wished timeout).1 (preceded past (t.wait wished timeout).2)
  rw [← hmet, abreast_iff.mp hwait]

theorem forgetful_sleep (duration : Int) : Forgetful (Timed.sleep duration : Act Unit) :=
  (forgetful_await (fun _ _ => rfl) duration).bind fun _ => forgetful_pure ()

theorem note_forgetful (c : Call) : Forgetful (note c) :=
  forgetful_update fun _ _ => by simp [recalling]

theorem touch_forgetful (id : ProgramId) (f : Program → Program) : Forgetful (touch id f) :=
  forgetful_now.bind fun now => forgetful_update fun _ r => settle_recalling now (r.modifyProgram id f)

theorem failIf_forgetful (kind : Option EquipmentKind) (text : String) :
    Forgetful (failIf kind text) := by
  cases kind with
  | none => exact forgetful_pure ()
  | some kind => exact forgetful_throw _

theorem overlooking_forgetful (overlooked : EquipmentKind → Bool) {step : Act Unit}
    (h : Forgetful step) : Forgetful (overlooking overlooked step) := by
  refine h.tryCatch fun e => ?_
  split
  · split
    · exact forgetful_pure ()
    · exact forgetful_throw _
  · exact forgetful_throw _

theorem telling_forgetful (told : EquipmentKind → Bool) (fault : EquipmentError → Fault)
    {step : Act α} (h : Forgetful step) : Forgetful (telling told fault step) := by
  refine h.tryCatch fun e => ?_
  split
  · split <;> exact forgetful_throw _
  · exact forgetful_throw _

theorem prompt_forgetful (actions : List ProgramAction) : Forgetful (prompt actions) := by
  refine forgetful_look (fun _ _ => rfl) fun r => ?_
  split
  · exact forgetful_pure ()
  · exact touch_forgetful _ _

theorem plan_forgetful (events : List (Nat × List ProgramAction)) : Forgetful (plan events) := by
  refine forgetful_look (fun _ _ => rfl) fun r => ?_
  split
  · exact forgetful_pure ()
  · exact forgetful_schedule _

theorem writeTo_forgetful (id : ProgramId) (line : String) : Forgetful (writeTo id line) := by
  refine (note_forgetful _).bind fun _ => forgetful_look (fun _ _ => rfl) fun r => ?_
  split
  · exact forgetful_pure ()
  · exact (failIf_forgetful _ _).bind fun _ => (touch_forgetful _ _).bind fun _ =>
      forgetful_schedule _

theorem countStart_forgetful : Forgetful countStart := by
  refine forgetful_look (fun _ _ => rfl) fun r => Forgetful.bind ?_ fun _ => forgetful_pure _
  exact forgetful_update fun _ _ => rfl

theorem launch_forgetful (script : ProgramScript) : Forgetful (launch script) := by
  refine forgetful_look (fun _ _ => rfl) fun r => Forgetful.bind ?_ fun _ =>
    (forgetful_schedule _).bind fun _ => forgetful_pure _
  exact forgetful_update fun _ _ => rfl

/-! ## Timelines that differ in the record -/

/-- The timeline with no calls in the past. -/
def bare (t : Timeline Rig Happening) : Timeline Rig Happening :=
  { t with state.surroundings.calls := [] }

theorem preceded_bare (t : Timeline Rig Happening) :
    preceded t.state.surroundings.calls (bare t) = t := by
  simp [preceded, recalling, bare]

theorem bare_preceded (past : List Call) (t : Timeline Rig Happening) :
    bare (preceded past t) = bare t := rfl

theorem exitCode_of_bare (h : bare t = bare u) (id : ProgramId) :
    t.state.exitCode id = u.state.exitCode id := by
  have hbare : (bare t).state.exitCode id = (bare u).state.exitCode id := by rw [h]
  exact hbare

namespace Forgetful

variable {work : Act α}

/-- What a computation does is what it does with no calls in the past. -/
theorem apply_eq (h : Forgetful work) (t : Timeline Rig Happening) :
    work t = Timed.alter (preceded t.state.surroundings.calls) (work (bare t)) := by
  rw [← h, preceded_bare]

theorem behind_eq (h : Forgetful work) (t : Timeline Rig Happening) :
    behind work t = preceded t.state.surroundings.calls (behind work (bare t)) := by
  rw [← (h _).behind, preceded_bare]

/-- Calls are only added to the record, and the record has no part in which. -/
theorem makes (h : Forgetful work) (t : Timeline Rig Happening) :
    Makes t (behind work (bare t)).state.surroundings.calls (behind work t) := by
  rw [Makes, h.behind_eq t]
  rfl

/-- Timelines that differ in the record still do so behind the computation. -/
theorem bare_behind (h : Forgetful work) (hsame : bare t = bare u) :
    bare (behind work t) = bare (behind work u) := by
  rw [h.behind_eq t, h.behind_eq u, bare_preceded, bare_preceded, hsame]

end Forgetful

end Rig

end CecBench
