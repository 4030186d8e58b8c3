import CecBench.Proofs.Passage

/-!
# What computations keep

Most of what has to be known of a computation is a relation between the
timelines before and behind it, whichever way it ends.  `Timed.Keeps R` says
that a computation stays within such a relation, and that it leaves the agenda
in order.  A relation is *steady* when it composes and every passage of time
stays within it.  Then whatever only waits keeps it, and what keeps it can be
put together: one after another, or one to take over where another one fails.

`Timed.FailsOnly P` is about the faults instead: if the computation fails, it
is with a fault of this kind.
-/

namespace CecBench

open Timeline (Elapses)

namespace Timed

variable {σ ε α β : Type}

/-! ## Equations -/

theorem bind_of_ok {work : Timed σ ε α} {next : α → Timed σ ε β} {a : α} {t t' : Timeline σ ε}
    (h : work t = .ok a t') : (work >>= next) t = next a t' := by
  simp only [bind, EStateM.bind, h]

theorem bind_of_error {work : Timed σ ε α} {next : α → Timed σ ε β} {e : Fault}
    {t t' : Timeline σ ε} (h : work t = .error e t') : (work >>= next) t = .error e t' := by
  simp only [bind, EStateM.bind, h]

/-- Looking at the state comes down to having it. -/
theorem state_bind (next : σ → Timed σ ε α) (t : Timeline σ ε) :
    (state >>= next) t = next t.state t := rfl

/-- Only what comes out of the first part counts for the rest. -/
theorem bind_congr {work work' : Timed σ ε α} {next : α → Timed σ ε β} {t : Timeline σ ε}
    (h : work t = work' t) : (work >>= next) t = (work' >>= next) t := by
  simp only [bind, EStateM.bind, h]

theorem bind_eq_ok {work : Timed σ ε α} {next : α → Timed σ ε β} {b : β} {t t'' : Timeline σ ε}
    (h : (work >>= next) t = .ok b t'') :
    ∃ a t', work t = .ok a t' ∧ next a t' = .ok b t'' := by
  cases hw : work t with
  | ok a t' => exact ⟨a, t', rfl, (bind_of_ok hw).symm.trans h⟩
  | error e t' =>
    rw [bind_of_error hw] at h
    cases h

theorem lift_eq_ok {η : Type} {fault : η → Fault} {x : Except η α} {a : α} {t t' : Timeline σ ε}
    (h : lift fault x t = .ok a t') : x = .ok a ∧ t = t' := by
  cases x with
  | ok b =>
    cases h
    exact ⟨rfl, rfl⟩
  | error e => cases h

/-- Giving another result does not make a computation fail. -/
theorem error_of_bind_pure {work : Timed σ ε α} {f : α → β} {e : Fault} {t t' : Timeline σ ε}
    (h : (work >>= fun a => pure (f a)) t = .error e t') : work t = .error e t' := by
  cases hw : work t with
  | ok a u =>
    rw [bind_of_ok hw] at h
    cases h
  | error e' u =>
    rw [bind_of_error hw] at h
    cases h
    rfl

theorem tryCatch_of_ok {work : Timed σ ε α} {handler : Fault → Timed σ ε α} {a : α}
    {t t' : Timeline σ ε} (h : work t = .ok a t') : (tryCatch work handler) t = .ok a t' := by
  show EStateM.tryCatch work handler t = _
  delta EStateM.tryCatch
  simp only [h]

theorem tryCatch_of_error {work : Timed σ ε α} {handler : Fault → Timed σ ε α} {e : Fault}
    {t t' : Timeline σ ε} (h : work t = .error e t') :
    (tryCatch work handler) t = handler e t' := by
  show EStateM.tryCatch work handler t = _
  delta EStateM.tryCatch
  simp only [h, EStateM.Backtrackable.restore, EStateM.dummyRestore]

theorem measure_of_measurable {duration : Int} (h : isMeasurable duration = true) :
    (measure duration : Timed σ ε Unit) = pure () := if_pos h

theorem measure_of_immeasurable {duration : Int} (h : isMeasurable duration = false) :
    (measure duration : Timed σ ε Unit) = throw .immeasurable := if_neg (by simp [h])

theorem behind_of_ok {work : Timed σ ε α} {a : α} {t t' : Timeline σ ε} (h : work t = .ok a t') :
    behind work t = t' := by
  rw [behind, h]

theorem behind_of_error {work : Timed σ ε α} {e : Fault} {t t' : Timeline σ ε}
    (h : work t = .error e t') : behind work t = t' := by
  rw [behind, h]

/-- Giving another result leaves the same timeline. -/
theorem behind_bind_pure (work : Timed σ ε α) (f : α → β) (t : Timeline σ ε) :
    behind (work >>= fun a => pure (f a)) t = behind work t := by
  cases hw : work t with
  | ok a t' =>
    rw [behind, bind_of_ok hw, behind_of_ok hw]
    rfl
  | error e t' => rw [behind_of_error (bind_of_error hw), behind_of_error hw]

/-- The computation does not fail. -/
def succeeds (work : Timed σ ε α) (t : Timeline σ ε) : Bool :=
  match work t with
  | .ok _ _ => true
  | .error _ _ => false

theorem ok_of_succeeds {work : Timed σ ε Unit} {t : Timeline σ ε} (h : work.succeeds t = true) :
    work t = .ok () (behind work t) := by
  cases hw : work t with
  | ok _ t' => rw [behind_of_ok hw]
  | error e t' =>
    rw [succeeds, hw] at h
    cases h

/-! ## Faults that can occur -/

/-- Wherever the computation fails, the fault is of this kind. -/
def FailsOnly (P : Fault → Prop) (work : Timed σ ε α) : Prop :=
  ∀ t e t', work t = .error e t' → P e

variable {P : Fault → Prop}

theorem failsOnly_pure (a : α) : FailsOnly P (pure a : Timed σ ε α) := by
  intro t e t' h
  cases h

theorem failsOnly_throw {e : Fault} (he : P e) : FailsOnly P (throw e : Timed σ ε α) := by
  intro t e' t' h
  cases h
  exact he

theorem failsOnly_state : FailsOnly P (state : Timed σ ε σ) := by
  intro t e t' h
  cases h

theorem failsOnly_now : FailsOnly P (now : Timed σ ε Nat) := by
  intro t e t' h
  cases h

theorem failsOnly_update (f : σ → σ) : FailsOnly P (update f : Timed σ ε Unit) := by
  intro t e t' h
  cases h

theorem failsOnly_schedule (events : List (Nat × ε)) :
    FailsOnly P (schedule events : Timed σ ε Unit) := by
  intro t e t' h
  cases h

theorem failsOnly_await [Unfolds σ ε] (wished : σ → Bool) (timeout : Int) :
    FailsOnly P (await wished timeout : Timed σ ε Bool) := by
  intro t e t' h
  cases h

theorem FailsOnly.bind {work : Timed σ ε α} {next : α → Timed σ ε β} (h : work.FailsOnly P)
    (h' : ∀ a, (next a).FailsOnly P) : (work >>= next).FailsOnly P := by
  intro t e t' he
  cases hw : work t with
  | ok a u => exact h' a u e t' ((bind_of_ok hw).symm.trans he)
  | error e' u =>
    rw [bind_of_error hw] at he
    cases he
    exact h t e _ hw

theorem FailsOnly.tryCatch {work : Timed σ ε α} {handler : Fault → Timed σ ε α}
    {Q : Fault → Prop} (h : work.FailsOnly Q) (h' : ∀ e, Q e → (handler e).FailsOnly P) :
    (MonadExcept.tryCatch work handler : Timed σ ε α).FailsOnly P := by
  intro t e t' he
  cases hw : work t with
  | ok a u =>
    rw [tryCatch_of_ok hw] at he
    cases he
  | error e' u => exact h' e' (h t e' u hw) u e t' ((tryCatch_of_error hw).symm.trans he)

/-- What cannot fail succeeds. -/
theorem FailsOnly.succeeds {work : Timed σ ε α} (h : work.FailsOnly fun _ => False)
    (t : Timeline σ ε) : ∃ a, work t = .ok a (behind work t) := by
  cases hw : work t with
  | ok a t' => exact ⟨a, by rw [behind_of_ok hw]⟩
  | error e t' => exact (h t e t' hw).elim

/-! ## Relations that are kept -/

/-- A relation between the timelines before and behind something that may wait. -/
class Steady [Unfolds σ ε] (R : Timeline σ ε → Timeline σ ε → Prop) : Prop where
  elapses {t t' : Timeline σ ε} {past : List (Nat × ε)} : t.Ordered → Elapses t past t' → R t t'
  trans {t t' t'' : Timeline σ ε} : R t t' → R t' t'' → R t t''

/-- On every ordered timeline the computation leaves an ordered one to which the relation leads. -/
def Keeps (R : Timeline σ ε → Timeline σ ε → Prop) (work : Timed σ ε α) : Prop :=
  ∀ t : Timeline σ ε, t.Ordered → (behind work t).Ordered ∧ R t (behind work t)

variable {R : Timeline σ ε → Timeline σ ε → Prop}

theorem keeps_update {f : σ → σ} (h : ∀ t : Timeline σ ε, R t { t with state := f t.state }) :
    Keeps R (update f : Timed σ ε Unit) :=
  fun t ho => ⟨ho.withState _, h t⟩

/-- What is done with the state may depend on it. -/
theorem keeps_look {next : σ → Timed σ ε α}
    (h : ∀ t : Timeline σ ε, t.Ordered →
      (behind (next t.state) t).Ordered ∧ R t (behind (next t.state) t)) :
    Keeps R (state >>= next) := h

theorem Keeps.mono {S : Timeline σ ε → Timeline σ ε → Prop} {work : Timed σ ε α}
    (h : work.Keeps R) (hsub : ∀ {t t'}, R t t' → S t t') : work.Keeps S :=
  fun t ho => ⟨(h t ho).1, hsub (h t ho).2⟩

/-- One computation after another that does not fail, each with a relation of its own. -/
theorem Keeps.after {S T : Timeline σ ε → Timeline σ ε → Prop} {work : Timed σ ε α}
    {next : α → Timed σ ε β} (h : work.Keeps R) (hok : work.FailsOnly fun _ => False)
    (h' : ∀ a, (next a).Keeps S) (hgo : ∀ {t t' t''}, R t t' → S t' t'' → T t t'') :
    (work >>= next).Keeps T := by
  intro t ho
  obtain ⟨ho', hr⟩ := h t ho
  obtain ⟨a, hw⟩ := hok.succeeds t
  have hn : behind (work >>= next) t = behind (next a) (behind work t) := by
    rw [behind, behind, bind_of_ok hw]
  obtain ⟨ho'', hs⟩ := h' a (behind work t) ho'
  rw [hn]
  exact ⟨ho'', hgo hr hs⟩

/-- One computation after another, each with a relation of its own. -/
theorem Keeps.chain {S T : Timeline σ ε → Timeline σ ε → Prop} {work : Timed σ ε α}
    {next : α → Timed σ ε β} (h : work.Keeps R) (h' : ∀ a, (next a).Keeps S)
    (hfail : ∀ {t t'}, R t t' → T t t') (hgo : ∀ {t t' t''}, R t t' → S t' t'' → T t t'') :
    (work >>= next).Keeps T := by
  intro t ho
  obtain ⟨ho', hr⟩ := h t ho
  cases hw : work t with
  | ok a t' =>
    rw [behind_of_ok hw] at ho' hr
    have hn : behind (work >>= next) t = behind (next a) t' := by
      rw [behind, behind, bind_of_ok hw]
    obtain ⟨ho'', hs⟩ := h' a t' ho'
    rw [hn]
    exact ⟨ho'', hgo hr hs⟩
  | error e t' =>
    rw [behind_of_error hw] at ho' hr
    rw [behind_of_error (bind_of_error hw)]
    exact ⟨ho', hfail hr⟩

/-- One computation to take over where another one fails, each with a relation of its own. -/
theorem Keeps.rescue {S T : Timeline σ ε → Timeline σ ε → Prop} {work : Timed σ ε α}
    {handler : Fault → Timed σ ε α} (h : work.Keeps R) (h' : ∀ e, (handler e).Keeps S)
    (hok : ∀ {t t'}, R t t' → T t t') (hgo : ∀ {t t' t''}, R t t' → S t' t'' → T t t'') :
    (MonadExcept.tryCatch work handler : Timed σ ε α).Keeps T := by
  intro t ho
  obtain ⟨ho', hr⟩ := h t ho
  cases hw : work t with
  | ok a t' =>
    rw [behind_of_ok hw] at ho' hr
    rw [behind_of_ok (tryCatch_of_ok hw)]
    exact ⟨ho', hok hr⟩
  | error e t' =>
    rw [behind_of_error hw] at ho' hr
    have hn : behind (MonadExcept.tryCatch work handler) t = behind (handler e) t' := by
      rw [behind, behind, tryCatch_of_error hw]
    obtain ⟨ho'', hs⟩ := h' e t' ho'
    rw [hn]
    exact ⟨ho'', hgo hr hs⟩

variable [Unfolds σ ε] [Steady R]

theorem Waits.keeps {work : Timed σ ε α} (h : work.Waits) : Keeps R work := by
  intro t ho
  obtain ⟨past, hpast⟩ := h t ho
  exact ⟨hpast.ordered ho, Steady.elapses ho hpast⟩

theorem keeps_pure (a : α) : Keeps R (pure a : Timed σ ε α) := (waits_pure a).keeps

theorem keeps_throw (e : Fault) : Keeps R (throw e : Timed σ ε α) :=
  (waits_throw e).keeps

theorem keeps_state : Keeps R (state : Timed σ ε σ) := waits_state.keeps

theorem keeps_now : Keeps R (now : Timed σ ε Nat) :=
  Waits.keeps fun _ ho => ⟨[], .refl ho⟩

theorem keeps_lift {η : Type} (fault : η → Fault) (x : Except η α) :
    Keeps R (lift fault x : Timed σ ε α) := (waits_lift fault x).keeps

theorem Keeps.bind {work : Timed σ ε α} {next : α → Timed σ ε β} (h : work.Keeps R)
    (h' : ∀ a, (next a).Keeps R) : (work >>= next).Keeps R := h.chain h' id Steady.trans

theorem Keeps.tryCatch {work : Timed σ ε α} {handler : Fault → Timed σ ε α}
    (h : work.Keeps R) (h' : ∀ e, (handler e).Keeps R) :
    (MonadExcept.tryCatch work handler : Timed σ ε α).Keeps R := h.rescue h' id Steady.trans

end Timed

end CecBench
