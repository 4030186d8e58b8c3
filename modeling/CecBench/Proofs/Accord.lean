import CecBench.Bus.Expectation
import CecBench.Proofs.Conduct
import Mathlib.Tactic.SplitIfs

/-!
# Two runs side by side

Two computations accord when from related timelines they end in the same way, on
related timelines again: both succeed with the same result, or both fail, and
then the faults differ at most in why a line did not reach the adapter.
`Timed.Accords` is this relation.  It is put together as computations are.

Two timelines are abreast when they have the same time and the same agenda, and
their states are related.  If events keep the states related, then waits keep
the timelines abreast, and so does waiting for a frame, as long as related
states have the same log.
-/

namespace CecBench

/-- The faults are the same, except for why a line did not reach the adapter. -/
inductive Fault.Resembles : Fault → Fault → Prop
  | refl (e : Fault) : Resembles e e
  | send (context line : String) (cause cause' : SendCause) :
    Resembles (.send ⟨context, line, cause⟩) (.send ⟨context, line, cause'⟩)

namespace Timed

variable {σ ε α β : Type} {R : Timeline σ ε → Timeline σ ε → Prop} {t u : Timeline σ ε}

/-- Both runs succeed with the same result, or both fail, and what they leave is related. -/
inductive Agree (R : Timeline σ ε → Timeline σ ε → Prop) :
    EStateM.Result Fault (Timeline σ ε) α → EStateM.Result Fault (Timeline σ ε) α → Prop
  | ok (a : α) {t u : Timeline σ ε} : R t u → Agree R (.ok a t) (.ok a u)
  | error {e e' : Fault} {t u : Timeline σ ε} :
    e.Resembles e' → R t u → Agree R (.error e t) (.error e' u)

/-- The computations agree on related timelines. -/
def Accords (R : Timeline σ ε → Timeline σ ε → Prop) (work work' : Timed σ ε α) : Prop :=
  ∀ t u, R t u → Agree R (work t) (work' u)

theorem Agree.behind {work work' : Timed σ ε α} (h : Agree R (work t) (work' u)) :
    R (behind work t) (behind work' u) := by
  unfold Timed.behind
  generalize work t = result at h
  generalize work' u = result' at h
  cases h with
  | ok a hr => exact hr
  | error he hr => exact hr

/-- Runs that agree may leave more that is related. -/
theorem Agree.imp {S : Timeline σ ε → Timeline σ ε → Prop} {work work' : Timed σ ε α}
    (h : Agree R (work t) (work' u))
    (himp : R (Timed.behind work t) (Timed.behind work' u) →
      S (Timed.behind work t) (Timed.behind work' u)) : Agree S (work t) (work' u) := by
  have hs := himp h.behind
  unfold Timed.behind at hs
  generalize work t = result at h hs
  generalize work' u = result' at h hs
  cases h with
  | ok a _ => exact .ok a hs
  | error he _ => exact .error he hs

/-- One part after another, where the rest may know how the first part ended. -/
theorem Agree.bind {work work' : Timed σ ε α} {next next' : α → Timed σ ε β}
    (h : Agree R (work t) (work' u))
    (h' : ∀ a t' u', work t = .ok a t' → work' u = .ok a u' → R t' u' →
      Agree R (next a t') (next' a u')) :
    Agree R ((work >>= next) t) ((work' >>= next') u) := by
  cases hw : work t with
  | ok a t' =>
    cases hw' : work' u with
    | ok a' u' =>
      rw [hw, hw'] at h
      cases h with
      | ok _ hr =>
        rw [bind_of_ok hw, bind_of_ok hw']
        exact h' a t' u' hw hw' hr
    | error e' u' =>
      rw [hw, hw'] at h
      cases h
  | error e t' =>
    cases hw' : work' u with
    | ok a' u' =>
      rw [hw, hw'] at h
      cases h
    | error e' u' =>
      rw [hw, hw'] at h
      cases h with
      | error he hr =>
        rw [bind_of_error hw, bind_of_error hw']
        exact .error he hr

theorem Accords.bind {work work' : Timed σ ε α} {next next' : α → Timed σ ε β}
    (h : Accords R work work') (h' : ∀ a, Accords R (next a) (next' a)) :
    Accords R (work >>= next) (work' >>= next') :=
  fun t u hr => (h t u hr).bind fun a t' u' _ _ hr' => h' a t' u' hr'

theorem accords_pure (a : α) : Accords R (pure a) (pure a) := fun _ _ hr => .ok a hr

theorem accords_throw {e e' : Fault} (h : e.Resembles e') :
    Accords R (throw e : Timed σ ε α) (throw e') := fun _ _ hr => .error h hr

theorem accords_lift {η : Type} (fault : η → Fault) (x : Except η α) :
    Accords R (lift fault x) (lift fault x) := by
  cases x with
  | ok a => exact accords_pure a
  | error e => exact accords_throw (.refl _)

theorem accords_measure (duration : Int) :
    Accords R (measure duration : Timed σ ε Unit) (measure duration) := by
  unfold measure
  split
  · exact accords_pure ()
  · exact accords_throw (.refl _)

/-- What is done with the state may depend on it. -/
theorem accords_look {next next' : σ → Timed σ ε α}
    (h : ∀ t u, R t u → Agree R (next t.state t) (next' u.state u)) :
    Accords R (state >>= next) (state >>= next') := h

theorem accords_update {f f' : σ → σ}
    (h : ∀ t u, R t u → R { t with state := f t.state } { u with state := f' u.state }) :
    Accords R (update f : Timed σ ε Unit) (update f') := fun t u hr => .ok () (h t u hr)

/-! ## Abreast -/

/-- The same time, the same agenda, and related states. -/
structure Abreast (A : σ → σ → Prop) (t u : Timeline σ ε) : Prop where
  now : t.now = u.now
  agenda : t.agenda = u.agenda
  state : A t.state u.state

variable {A : σ → σ → Prop}

theorem Abreast.ordered (h : Abreast A t u) (ho : t.Ordered) : u.Ordered :=
  ⟨h.agenda ▸ ho.sorted, fun x hx => h.now ▸ ho.ahead x (h.agenda ▸ hx)⟩

theorem Abreast.withState (h : Abreast A t u) {s s' : σ} (hs : A s s') :
    Abreast A { t with state := s } { u with state := s' } := ⟨h.now, h.agenda, hs⟩

theorem Abreast.scheduleAll (h : Abreast A t u) (events : List (Nat × ε)) :
    Abreast A (t.scheduleAll events) (u.scheduleAll events) where
  now := by rw [Timeline.scheduleAll_now, Timeline.scheduleAll_now, h.now]
  agenda := Timeline.scheduleAll_agenda_congr h.now h.agenda events
  state := by
    rw [Timeline.scheduleAll_state, Timeline.scheduleAll_state]
    exact h.state

theorem accords_now : Accords (Abreast A) (now : Timed σ ε Nat) now := by
  intro t u h
  show Agree _ (.ok t.now t) (.ok u.now u)
  rw [h.now]
  exact .ok _ h

theorem accords_schedule (events : List (Nat × ε)) :
    Accords (Abreast A) (schedule events : Timed σ ε Unit) (schedule events) :=
  fun _ _ h => .ok () (h.scheduleAll events)

/-- Whatever happens keeps the states related. -/
class Carried [Unfolds σ ε] (A : σ → σ → Prop) : Prop where
  unfold {s s' : σ} (now : Nat) (e : ε) : A s s' → A (Unfolds.unfold now e s) (Unfolds.unfold now e s')

variable [Unfolds σ ε] [Carried A] {wished wished' : σ → Bool} {s s' : σ}

theorem advance_abreast (hw : ∀ s s', A s s' → wished s = wished' s') (deadline : Nat)
    (agenda : List (Nat × ε)) (h : A s s') :
    (Timeline.advance wished deadline agenda s).1 =
        (Timeline.advance wished' deadline agenda s').1 ∧
      Abreast A (Timeline.advance wished deadline agenda s).2
        (Timeline.advance wished' deadline agenda s').2 := by
  induction agenda generalizing s s' with
  | nil => exact ⟨rfl, rfl, rfl, h⟩
  | cons x rest ih =>
    obtain ⟨time, e⟩ := x
    have hnext := Carried.unfold time e h
    simp only [Timeline.advance, hw _ _ hnext]
    split
    · split
      · exact ⟨rfl, rfl, rfl, hnext⟩
      · exact ih hnext
    · exact ⟨rfl, rfl, rfl, h⟩

theorem wait_abreast (hw : ∀ s s', A s s' → wished s = wished' s') (timeout : Int)
    (h : Abreast A t u) :
    (t.wait wished timeout).1 = (u.wait wished' timeout).1 ∧
      Abreast A (t.wait wished timeout).2 (u.wait wished' timeout).2 := by
  rw [Timeline.wait, Timeline.wait, hw _ _ h.state, h.now, h.agenda]
  split
  · exact ⟨rfl, h⟩
  · exact advance_abreast hw _ _ h.state

theorem accords_await (hw : ∀ s s', A s s' → wished s = wished' s') (timeout : Int) :
    Accords (Abreast A) (await wished timeout : Timed σ ε Bool) (await wished' timeout) := by
  intro t u h
  obtain ⟨hmet, hwait⟩ := wait_abreast hw timeout h
  show Agree _ (.ok (t.wait wished timeout).1 _) (.ok (u.wait wished' timeout).1 _)
  rw [hmet]
  exact .ok _ hwait

theorem accords_sleep (duration : Int) :
    Accords (Abreast A) (sleep duration : Timed σ ε Unit) (sleep duration) :=
  (accords_await (fun _ _ _ => rfl) _).bind fun _ => accords_pure ()

/-! ## Frames -/

variable {log : σ → BusLog}

theorem seek_abreast (hlog : ∀ s s', A s s' → log s = log s') (accepts : FramePredicate)
    (deadline position scanned : Nat) (t : Timeline σ ε) {u : Timeline σ ε} (h : Abreast A t u) :
    (Expectation.seek log accepts deadline position scanned t).1 =
        (Expectation.seek log accepts deadline position scanned u).1 ∧
      Abreast A (Expectation.seek log accepts deadline position scanned t).2
        (Expectation.seek log accepts deadline position scanned u).2 := by
  fun_induction Expectation.seek log accepts deadline position scanned t generalizing u with
  | case1 position scanned t fresh e =>
    rename_i hfirst
    have hfirst' : Expectation.firstAccepted accepts ((log u.state).since position) = .error e :=
      hlog _ _ h.state ▸ hfirst
    rw [Expectation.seek, hfirst']
    exact ⟨rfl, h⟩
  | case2 position scanned t fresh f =>
    rename_i hfirst
    have hfirst' : Expectation.firstAccepted accepts ((log u.state).since position) = .ok (some f) :=
      hlog _ _ h.state ▸ hfirst
    rw [Expectation.seek, hfirst']
    exact ⟨rfl, h⟩
  | case3 position scanned t fresh hfirst later more htime next hprogress =>
    rename_i ih
    have hfirst' : Expectation.firstAccepted accepts ((log u.state).since position) = .ok none :=
      hlog _ _ h.state ▸ hfirst
    let count := ((log u.state).since position).length
    have hstep : Expectation.seek log accepts deadline position scanned u =
        Expectation.seek log accepts deadline (position + count) (scanned + count)
          (Timeline.advance (fun s => position + count < (log s).size) deadline u.agenda
            u.state).2 := by
      rw [Expectation.seek, hfirst']
      exact dif_pos (h.now ▸ htime)
    have hcount : count = fresh.length := by
      show ((log u.state).since position).length = _
      rw [← hlog _ _ h.state]
    rw [hstep, hcount, ← h.agenda]
    exact ih (advance_abreast (fun s s' hs => by rw [hlog s s' hs]) deadline t.agenda h.state).2
  | case4 position scanned t fresh hfirst more =>
    rename_i htime
    have hfirst' : Expectation.firstAccepted accepts ((log u.state).since position) = .ok none :=
      hlog _ _ h.state ▸ hfirst
    rw [Expectation.seek, hfirst']
    dsimp only
    rw [dif_neg (h.now ▸ htime), ← hlog _ _ h.state]
    exact ⟨rfl, h⟩

/-- Waiting for a frame ends in the same way, and so does its report. -/
theorem accords_expectation (hlog : ∀ s s', A s s' → log s = log s') (x : Expectation)
    (timeout : Int) (context : String) :
    Accords (Abreast A) (x.await log timeout context) (x.await log timeout context) := by
  intro t u h
  obtain ⟨hfinding, hseek⟩ :=
    seek_abreast hlog x.accepts (t.now + timeout.toNat) x.cursor 0 t h
  unfold Expectation.await
  rw [← h.now, ← hlog _ _ h.state]
  generalize Expectation.seek log x.accepts (t.now + timeout.toNat) x.cursor 0 t = found
    at hfinding hseek
  generalize Expectation.seek log x.accepts (t.now + timeout.toNat) x.cursor 0 u = found'
    at hfinding hseek
  obtain ⟨finding, t'⟩ := found
  obtain ⟨finding', u'⟩ := found'
  obtain rfl : finding = finding' := hfinding
  replace hseek : Abreast A t' u' := hseek
  split_ifs
  · exact .error (.refl _) h
  · exact .error (.refl _) h
  · exact .error (.refl _) h
  · cases finding with
    | found f => exact .ok f hseek
    | failed fault => exact .error (.refl _) hseek
    | expired count =>
      dsimp only
      rw [← hlog _ _ hseek.state, ← hseek.now]
      exact .error (.refl _) hseek

end Timed

end CecBench
