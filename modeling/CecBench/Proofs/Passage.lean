import CecBench.Timeline

/-!
# The passage of time

What a wait can do to a timeline.  A timeline is *ordered* when its agenda is
in the order of its times and nothing on it is overdue.  `Elapses t past t'`
says that from `t` to `t'` the events `past` happen: they are taken off the
front of the agenda, they change the state one after the other, and the clock
comes to rest between the last of them and the first of those left.

`advance_ends` tells the two ways in which a wait ends.  From it come
`advance_elapses` and `wait_elapses`: on an ordered timeline every wait is a
passage of time, whatever is waited for.  Passages compose, and they keep the
timeline ordered.
-/

namespace CecBench

namespace Timeline

variable {σ ε : Type}

/-! ## Ordered timelines -/

/-- The agenda is in the order of its times, and nothing on it is overdue. -/
structure Ordered (t : Timeline σ ε) : Prop where
  /-- An event stands behind those of earlier times. -/
  sorted : t.agenda.Pairwise fun x y => x.1 ≤ y.1
  /-- No event should have happened before now. -/
  ahead : ∀ x ∈ t.agenda, t.now ≤ x.1

/-- With nothing on the agenda, nothing is out of order. -/
theorem ordered_idle (now : Nat) (s : σ) : Ordered (⟨now, [], s⟩ : Timeline σ ε) :=
  ⟨List.Pairwise.nil, fun _ hx => by cases hx⟩

/-- The agenda gains the event and loses none. -/
theorem insert_perm (time : Nat) (e : ε) (agenda : List (Nat × ε)) :
    (insert time e agenda).Perm ((time, e) :: agenda) := by
  induction agenda with
  | nil => exact List.Perm.refl _
  | cons y rest ih =>
    simp only [insert]
    split
    · exact (ih.cons y).trans (List.Perm.swap _ _ _)
    · exact List.Perm.refl _

theorem mem_insert {time : Nat} {e : ε} {x : Nat × ε} {agenda : List (Nat × ε)} :
    x ∈ insert time e agenda ↔ x = (time, e) ∨ x ∈ agenda := by
  rw [(insert_perm time e agenda).mem_iff, List.mem_cons]

theorem insert_sorted (time : Nat) (e : ε) {agenda : List (Nat × ε)}
    (h : agenda.Pairwise fun x y => x.1 ≤ y.1) :
    (insert time e agenda).Pairwise fun x y => x.1 ≤ y.1 := by
  induction agenda with
  | nil => exact List.pairwise_singleton _ _
  | cons y rest ih =>
    obtain ⟨hy, hrest⟩ := List.pairwise_cons.mp h
    simp only [insert]
    split
    · rename_i hle
      refine List.pairwise_cons.mpr ⟨fun x hx => ?_, ih hrest⟩
      rcases mem_insert.mp hx with rfl | hx
      · exact hle
      · exact hy x hx
    · rename_i hlt
      refine List.pairwise_cons.mpr ⟨fun x hx => ?_, h⟩
      show time ≤ x.1
      rcases List.mem_cons.mp hx with rfl | hx
      · omega
      · have := hy x hx
        omega

theorem Ordered.schedule {t : Timeline σ ε} (h : t.Ordered) (after : Nat) (e : ε) :
    (t.schedule after e).Ordered where
  sorted := insert_sorted _ _ h.sorted
  ahead := by
    intro x hx
    rcases mem_insert.mp hx with rfl | hx
    · exact Nat.le_add_right _ _
    · exact h.ahead x hx

/-- Order is a matter of the clock and the agenda. -/
theorem Ordered.withState {t : Timeline σ ε} (h : t.Ordered) (s : σ) :
    ({ t with state := s } : Timeline σ ε).Ordered := ⟨h.sorted, h.ahead⟩

theorem Ordered.scheduleAll {t : Timeline σ ε} (h : t.Ordered) (events : List (Nat × ε)) :
    (t.scheduleAll events).Ordered := by
  induction events generalizing t with
  | nil => exact h
  | cons x rest ih => exact ih (h.schedule x.1 x.2)

theorem scheduleAll_now (t : Timeline σ ε) (events : List (Nat × ε)) :
    (t.scheduleAll events).now = t.now := by
  induction events generalizing t with
  | nil => rfl
  | cons x rest ih => exact ih (t.schedule x.1 x.2)

theorem scheduleAll_state (t : Timeline σ ε) (events : List (Nat × ε)) :
    (t.scheduleAll events).state = t.state := by
  induction events generalizing t with
  | nil => rfl
  | cons x rest ih => exact ih (t.schedule x.1 x.2)

/-- What becomes of the agenda does not depend on the state. -/
theorem scheduleAll_agenda_congr {τ : Type} {t : Timeline σ ε} {u : Timeline τ ε}
    (hnow : t.now = u.now) (hagenda : t.agenda = u.agenda) (events : List (Nat × ε)) :
    (t.scheduleAll events).agenda = (u.scheduleAll events).agenda := by
  induction events generalizing t u with
  | nil => exact hagenda
  | cons x rest ih =>
    refine ih (t := t.schedule x.1 x.2) (u := u.schedule x.1 x.2) hnow ?_
    rw [schedule, schedule, hnow, hagenda]

/-- The agenda gains all the events, at their times from now, and loses none. -/
theorem scheduleAll_perm (t : Timeline σ ε) (events : List (Nat × ε)) :
    (t.scheduleAll events).agenda.Perm
      (t.agenda ++ events.map fun x => (t.now + x.1, x.2)) := by
  induction events generalizing t with
  | nil => simp [scheduleAll]
  | cons x rest ih =>
    have hrest := ih (t.schedule x.1 x.2)
    have hfirst := insert_perm (t.now + x.1) x.2 t.agenda
    rw [List.map_cons]
    exact (hrest.trans (hfirst.append_right _)).trans List.perm_middle.symm

/-! ## Events that happen -/

variable [Unfolds σ ε]

/-- The state after some events, each at its time. -/
def replay (past : List (Nat × ε)) (s : σ) : σ :=
  past.foldl (fun s x => Unfolds.unfold x.1 x.2 s) s

@[simp] theorem replay_nil (s : σ) : replay ([] : List (Nat × ε)) s = s := rfl

@[simp] theorem replay_cons (x : Nat × ε) (past : List (Nat × ε)) (s : σ) :
    replay (x :: past) s = replay past (Unfolds.unfold x.1 x.2 s) := rfl

theorem replay_append (past later : List (Nat × ε)) (s : σ) :
    replay (past ++ later) s = replay later (replay past s) := List.foldl_append

/-- From `t` to `t'` the events `past` happen, and no others. -/
structure Elapses (t : Timeline σ ε) (past : List (Nat × ε)) (t' : Timeline σ ε) : Prop where
  /-- They are taken off the front of the agenda. -/
  agenda : t.agenda = past ++ t'.agenda
  /-- They make the state what it is. -/
  state : t'.state = replay past t.state
  /-- The clock does not go back. -/
  forward : t.now ≤ t'.now
  /-- All of them have come due. -/
  due : ∀ x ∈ past, x.1 ≤ t'.now
  /-- None of those left should have happened before. -/
  ahead : ∀ x ∈ t'.agenda, t'.now ≤ x.1

namespace Elapses

/-- Nothing happens while no time passes. -/
theorem refl {t : Timeline σ ε} (h : t.Ordered) : Elapses t [] t where
  agenda := rfl
  state := rfl
  forward := Nat.le_refl _
  due := fun _ hx => by cases hx
  ahead := h.ahead

theorem trans {t t' t'' : Timeline σ ε} {past later : List (Nat × ε)}
    (h : Elapses t past t') (h' : Elapses t' later t'') : Elapses t (past ++ later) t'' where
  agenda := by rw [h.agenda, h'.agenda, List.append_assoc]
  state := by rw [h'.state, h.state, replay_append]
  forward := Nat.le_trans h.forward h'.forward
  due := by
    intro x hx
    rcases List.mem_append.mp hx with hx | hx
    · exact Nat.le_trans (h.due x hx) h'.forward
    · exact h'.due x hx
  ahead := h'.ahead

/-- Time passes over an ordered timeline without disturbing its order. -/
theorem ordered {t t' : Timeline σ ε} {past : List (Nat × ε)} (h : Elapses t past t')
    (ho : t.Ordered) : t'.Ordered where
  sorted := by
    have hs := ho.sorted
    rw [h.agenda] at hs
    exact (List.pairwise_append.mp hs).2.1
  ahead := h.ahead

/-- The events that happen are those that the agenda has lost. -/
theorem past_eq_take {t t' : Timeline σ ε} {past : List (Nat × ε)} (h : Elapses t past t') :
    past = t.agenda.take (t.agenda.length - t'.agenda.length) := by
  rw [h.agenda, List.length_append, Nat.add_sub_cancel, List.take_left]

/-- What happens is in the order of its times, and none of it lies before the start. -/
theorem past_sorted {t t' : Timeline σ ε} {past : List (Nat × ε)} (h : Elapses t past t')
    (ho : t.Ordered) :
    (past.Pairwise fun x y => x.1 ≤ y.1) ∧ ∀ x ∈ past, t.now ≤ x.1 := by
  have hs := ho.sorted
  have ha := ho.ahead
  rw [h.agenda] at hs ha
  exact ⟨(List.pairwise_append.mp hs).1, fun x hx => ha x (List.mem_append_left _ hx)⟩

end Elapses

/-! ## Waits -/

/-- The two ways in which a wait ends that began without what is wished. -/
inductive WaitEnds (wished : σ → Bool) (deadline : Nat) (agenda : List (Nat × ε)) (s : σ) :
    Bool × Timeline σ ε → Prop
  /-- With the event that brings what is wished, at its time. -/
  | met (past : List (Nat × ε)) {time : Nat} {e : ε} {rest : List (Nat × ε)} :
    agenda = past ++ (time, e) :: rest → time ≤ deadline →
    wished (replay past s) = false → wished (replay (past ++ [(time, e)]) s) = true →
    WaitEnds wished deadline agenda s (true, ⟨time, rest, replay (past ++ [(time, e)]) s⟩)
  /-- With the deadline, when every event left comes later. -/
  | expired (past : List (Nat × ε)) {rest : List (Nat × ε)} :
    agenda = past ++ rest → (∀ x ∈ past, x.1 ≤ deadline) → (∀ x ∈ rest.head?, deadline < x.1) →
    wished (replay past s) = false →
    WaitEnds wished deadline agenda s (false, ⟨deadline, rest, replay past s⟩)

theorem advance_ends (wished : σ → Bool) (deadline : Nat) (agenda : List (Nat × ε)) (s : σ)
    (h : wished s = false) :
    WaitEnds wished deadline agenda s (advance wished deadline agenda s) := by
  induction agenda generalizing s with
  | nil =>
    refine .expired [] rfl ?_ ?_ h
    · intro x hx
      cases hx
    · intro x hx
      cases hx
  | cons x rest ih =>
    obtain ⟨time, e⟩ := x
    simp only [advance]
    split
    · rename_i hle
      split
      · rename_i hmet
        exact .met [] rfl hle h hmet
      · rename_i hnot
        have hends := ih (Unfolds.unfold time e s) (by simpa using hnot)
        generalize advance wished deadline rest (Unfolds.unfold time e s) = r at hends
        cases hends with
        | met past hagenda htime hbefore hafter =>
          exact .met ((time, e) :: past) (by rw [hagenda]; rfl) htime hbefore hafter
        | expired past hagenda hdue hlater hbefore =>
          refine .expired ((time, e) :: past) (by rw [hagenda]; rfl) ?_ hlater hbefore
          intro y hy
          rcases List.mem_cons.mp hy with rfl | hy
          · exact hle
          · exact hdue y hy
    · rename_i hlt
      refine .expired [] rfl ?_ ?_ h
      · intro y hy
        cases hy
      · intro y hy
        cases hy
        exact Nat.lt_of_not_le hlt

/-- In an agenda in order, what the first event is later than, every event is later than. -/
theorem lt_of_head {deadline : Nat} {rest : List (Nat × ε)}
    (hs : rest.Pairwise fun x y => x.1 ≤ y.1) (h : ∀ x ∈ rest.head?, deadline < x.1) :
    ∀ x ∈ rest, deadline < x.1 := by
  cases rest with
  | nil =>
    intro x hx
    cases hx
  | cons y rest =>
    intro x hx
    have hy := h y rfl
    rcases List.mem_cons.mp hx with rfl | hx
    · exact hy
    · exact Nat.lt_of_lt_of_le hy ((List.pairwise_cons.mp hs).1 x hx)

theorem WaitEnds.elapses {wished : σ → Bool} {deadline : Nat} {t : Timeline σ ε}
    {r : Bool × Timeline σ ε} (h : WaitEnds wished deadline t.agenda t.state r) (ho : t.Ordered)
    (hd : t.now ≤ deadline) : ∃ past, Elapses t past r.2 ∧ r.2.now ≤ deadline := by
  have hs := ho.sorted
  have ha := ho.ahead
  cases h with
  | @met past time e rest hagenda htime _ _ =>
    rw [hagenda] at hs ha
    obtain ⟨_, hlater, hcross⟩ := List.pairwise_append.mp hs
    refine ⟨past ++ [(time, e)], ⟨by simp [hagenda], rfl, ?_, ?_, ?_⟩, htime⟩
    · exact ha (time, e) (List.mem_append_right _ (List.mem_cons_self ..))
    · intro x hx
      rcases List.mem_append.mp hx with hx | hx
      · exact hcross x hx (time, e) (List.mem_cons_self ..)
      · cases List.mem_singleton.mp hx
        exact Nat.le_refl _
    · exact (List.pairwise_cons.mp hlater).1
  | @expired past rest hagenda hdue hlater _ =>
    rw [hagenda] at hs
    have hrest := lt_of_head (List.pairwise_append.mp hs).2.1 hlater
    exact ⟨past, ⟨hagenda, rfl, hd, hdue, fun x hx => Nat.le_of_lt (hrest x hx)⟩, Nat.le_refl _⟩

/-- A wait is a passage of time, and it does not go beyond its deadline. -/
theorem wait_elapses (wished : σ → Bool) (timeout : Int) {t : Timeline σ ε} (ho : t.Ordered) :
    ∃ past, Elapses t past (t.wait wished timeout).2 ∧
      (t.wait wished timeout).2.now ≤ t.now + timeout.toNat := by
  cases hw : wished t.state with
  | true =>
    have heq : t.wait wished timeout = (true, t) := by rw [wait, if_pos hw]
    rw [heq]
    exact ⟨[], .refl ho, Nat.le_add_right _ _⟩
  | false =>
    have heq : t.wait wished timeout =
        advance wished (t.now + timeout.toNat) t.agenda t.state := by
      rw [wait, if_neg (by simp [hw])]
    rw [heq]
    exact (advance_ends wished _ t.agenda t.state hw).elapses ho (Nat.le_add_right _ _)

/-- A wait tells whether it has ended with what is wished. -/
theorem wait_tells (wished : σ → Bool) (timeout : Int) (t : Timeline σ ε) :
    (t.wait wished timeout).1 = wished (t.wait wished timeout).2.state := by
  cases hw : wished t.state with
  | true => rw [wait, if_pos hw, hw]
  | false =>
    rw [wait, if_neg (by simp [hw])]
    have hends := advance_ends wished (t.now + timeout.toNat) t.agenda t.state hw
    generalize advance wished (t.now + timeout.toNat) t.agenda t.state = r at hends
    cases hends with
    | met _ _ _ _ hmet => exact hmet.symm
    | expired _ _ _ _ hnot => exact hnot.symm

/-! ## Waits for what lasts -/

section Lasting

variable {wished : σ → Bool}
  (hlasts : ∀ now e s, wished s = true → wished (Unfolds.unfold now e s) = true)
include hlasts

theorem advance_lasts (other : σ → Bool) (deadline : Nat) (agenda : List (Nat × ε)) (s : σ)
    (h : wished s = true) : wished (advance other deadline agenda s).2.state = true := by
  induction agenda generalizing s with
  | nil => exact h
  | cons x rest ih =>
    have hnext := hlasts x.1 x.2 s h
    simp only [advance]
    split
    · split
      · exact hnext
      · exact ih _ hnext
    · exact h

theorem advance_of_lasting (deadline : Nat) (agenda : List (Nat × ε)) (s : σ)
    (h : wished s = false) :
    let lapsed := (advance (fun _ => false) deadline agenda s).2
    (advance wished deadline agenda s).1 = wished lapsed.state ∧
      (wished lapsed.state = false → (advance wished deadline agenda s).2 = lapsed) := by
  induction agenda generalizing s with
  | nil => exact ⟨h.symm, fun _ => rfl⟩
  | cons x rest ih =>
    by_cases hdue : x.1 ≤ deadline
    · cases hnext : wished (Unfolds.unfold x.1 x.2 s) with
      | true =>
        have hthere := advance_lasts hlasts (fun _ => false) deadline rest _ hnext
        simp [advance, hdue, hnext, hthere]
      | false => simpa [advance, hdue, hnext] using ih _ hnext
    · simp [advance, hdue, h]

/-- If what is wished lasts, then waiting for it tells whether it would be there with all the time
gone, and if not, all the time is gone. -/
theorem wait_of_lasting (timeout : Int) (t : Timeline σ ε) :
    let lapsed := (t.wait (fun _ => false) timeout).2
    (t.wait wished timeout).1 = wished lapsed.state ∧
      (wished lapsed.state = false → (t.wait wished timeout).2 = lapsed) := by
  cases hw : wished t.state with
  | true =>
    have hthere : wished (t.wait (fun _ => false) timeout).2.state = true :=
      advance_lasts hlasts _ _ _ _ hw
    simp [wait, hw] at hthere ⊢
    simp [hthere]
  | false => simpa [wait, hw] using advance_of_lasting hlasts _ t.agenda t.state hw

end Lasting

end Timeline

/-! ## Computations -/

namespace Timed

variable {σ ε α : Type}

/-- The timeline behind a computation, whichever way it ends. -/
def behind (work : Timed σ ε α) (t : Timeline σ ε) : Timeline σ ε :=
  match work t with
  | .ok _ t' => t'
  | .error _ t' => t'

/-- On every ordered timeline the computation does nothing but let time pass. -/
def Waits [Unfolds σ ε] (work : Timed σ ε α) : Prop :=
  ∀ t : Timeline σ ε, t.Ordered → ∃ past, Timeline.Elapses t past (behind work t)

variable [Unfolds σ ε]

theorem waits_pure (a : α) : Waits (pure a : Timed σ ε α) :=
  fun _ ho => ⟨[], .refl ho⟩

theorem waits_throw (e : Fault) : Waits (throw e : Timed σ ε α) :=
  fun _ ho => ⟨[], .refl ho⟩

theorem waits_lift {η : Type} (fault : η → Fault) (x : Except η α) :
    Waits (lift fault x : Timed σ ε α) := by
  cases x with
  | ok a => exact waits_pure a
  | error e => exact waits_throw _

theorem waits_state : Waits (state : Timed σ ε σ) :=
  fun _ ho => ⟨[], .refl ho⟩

theorem waits_await (wished : σ → Bool) (timeout : Int) :
    Waits (await wished timeout : Timed σ ε Bool) := by
  intro t ho
  obtain ⟨past, h, _⟩ := Timeline.wait_elapses wished timeout ho
  exact ⟨past, h⟩

theorem waits_measure (duration : Int) : Waits (measure duration : Timed σ ε Unit) := by
  unfold measure
  split
  · exact waits_pure ()
  · exact waits_throw _

theorem Waits.bind {β : Type} {work : Timed σ ε α} {next : α → Timed σ ε β} (h : work.Waits)
    (h' : ∀ a, (next a).Waits) : (work >>= next).Waits := by
  intro t ho
  obtain ⟨past, hpast⟩ := h t ho
  cases hw : work t with
  | ok a t' =>
    have hb : behind work t = t' := by rw [behind, hw]
    have hn : behind (work >>= next) t = behind (next a) t' := by
      simp only [behind, Bind.bind, EStateM.bind, hw]
    rw [hb] at hpast
    obtain ⟨later, hlater⟩ := h' a t' (hpast.ordered ho)
    rw [hn]
    exact ⟨past ++ later, hpast.trans hlater⟩
  | error e t' =>
    have hb : behind work t = t' := by rw [behind, hw]
    have hn : behind (work >>= next) t = t' := by
      simp only [behind, Bind.bind, EStateM.bind, hw]
    rw [hb] at hpast
    rw [hn]
    exact ⟨past, hpast⟩

theorem waits_sleep (duration : Int) : Waits (sleep duration : Timed σ ε Unit) :=
  (waits_await _ duration).bind fun _ => waits_pure ()

/-- A sleep lasts as long as it is meant to. -/
theorem sleep_now (duration : Int) (t : Timeline σ ε) :
    (behind (sleep duration) t).now = t.now + duration.toNat := by
  show (t.wait (fun _ => false) duration).2.now = _
  have hends := Timeline.advance_ends (fun _ => false) (t.now + duration.toNat) t.agenda t.state rfl
  rw [Timeline.wait, if_neg Bool.false_ne_true]
  generalize Timeline.advance _ (t.now + duration.toNat) t.agenda t.state = r at hends
  cases hends with
  | met _ _ _ _ hmet => cases hmet
  | expired => rfl

end Timed

end CecBench
