import CecBench.Proofs.Bus.History
import Mathlib.Tactic.SplitIfs

/-!
# How a wait for a frame ends

`Expectation.Decides` picks the first place of a history, from the cursor on,
whose frame satisfies the condition or makes it fail.  `SeekEnds` tells the two
ways in which looking for a frame can end: with the place that decides, at the
time of its frame, or at the deadline, after every frame in the log was looked
at and none before the deadline decides.  `seek_ends` proves this of the loop.

The loop looks at the log, waits until the log has outgrown the position that
it has reached, and looks again.  What carries the induction is that from the
position on the history is the same before and after the wait, also when the
position lies beyond the end of the log.

The module ends in the statement about a whole wait, from a new expectation to
the refusal of a second wait.
-/

namespace CecBench

open Timeline (Elapses WaitEnds)

variable {σ ε : Type} [Unfolds σ ε]

namespace LogView

variable (v : LogView σ ε)

/-- Waiting until the log outgrows a size does not change the history from there on. -/
theorem history_drop_wait {deadline k : Nat} {t : Timeline σ ε} {r : Bool × Timeline σ ε}
    (h : WaitEnds (fun s => decide (k < (v.log s).size)) deadline t.agenda t.state r) :
    (v.history r.2).drop k = (v.history t).drop k := by
  cases h with
  | @met past time e rest hagenda _ hbefore _ =>
    have hk : (v.log (Timeline.replay past t.state)).size ≤ k := by simpa using hbefore
    rw [Timeline.replay_append]
    exact (v.history_drop_event t.now time k e rest _ hk).trans
      (v.history_drop_passed hagenda t.now k hk)
  | expired past hagenda _ _ hbefore =>
    exact v.history_drop_passed hagenda deadline k (by simpa using hbefore)

/-- Time passing does not change which frames the history holds. -/
theorem history_frames {t t' : Timeline σ ε} {past : List (Nat × ε)} (h : Elapses t past t') :
    (v.history t').map Prod.snd = (v.history t).map Prod.snd := by
  simp only [history, h.agenda, h.state, arrivals_append, frames_replay, List.map_append,
    List.map_map, List.append_assoc]
  simp [Function.comp_def]

/-- A place in the history that the log reaches later holds the frame of that log. -/
theorem frames_getElem?_later {t t' : Timeline σ ε} {past : List (Nat × ε)} {i : Nat}
    {x : Nat × Frame} (h : Elapses t past t') (hx : (v.history t)[i]? = some x)
    (hi : i < (v.log t'.state).size) : (v.log t'.state).frames[i]? = some x.2 := by
  have hmap := congrArg (·[i]?) (v.history_frames h)
  simp only [List.getElem?_map, hx, Option.map_some, Option.map_eq_some_iff] at hmap
  obtain ⟨y, hy, heq⟩ := hmap
  rw [(v.frames_getElem?_of_history hi hy).1, heq]

/-- A frame of the log later has the same place in the history. -/
theorem history_getElem?_earlier {t t' : Timeline σ ε} {past : List (Nat × ε)} {i : Nat}
    {f : Frame} (h : Elapses t past t') (hf : (v.log t'.state).frames[i]? = some f) :
    ∃ x, (v.history t)[i]? = some x ∧ x.2 = f := by
  have hsize := (List.getElem?_eq_some_iff.mp hf).1
  have hmap : ((v.history t').map Prod.snd)[i]? = some f := by
    rw [history, List.map_append, List.map_map, Function.comp_def, List.map_id',
      List.getElem?_append_left hsize, hf]
  rw [v.history_frames h, List.getElem?_map, Option.map_eq_some_iff] at hmap
  exact hmap

theorem size_le_later {t t' : Timeline σ ε} {past : List (Nat × ε)} (h : Elapses t past t') :
    (v.log t.state).size ≤ (v.log t'.state).size := by
  simp only [BusLog.size, h.state, frames_replay, List.length_append]
  exact Nat.le_add_right _ _

/-- No frame of the history of an ordered timeline is from before now. -/
theorem now_le_of_history {t : Timeline σ ε} (ho : t.Ordered) {i : Nat} {x : Nat × Frame}
    (hx : (v.history t)[i]? = some x) : t.now ≤ x.1 := by
  rcases Nat.lt_or_ge i (v.log t.state).size with hi | hi
  · exact Nat.le_of_eq (v.frames_getElem?_of_history hi hx).2.symm
  · obtain ⟨y, hy, heq⟩ := v.exists_of_mem_arrivals (v.mem_arrivals_of_history hi hx)
    rw [← heq]
    exact ho.ahead y hy

end LogView

/-- Waiting for more frames is a passage of time. -/
theorem BusLog.waits_awaitMore (v : LogView σ ε) (known timeout : Int) :
    Timed.Waits (BusLog.awaitMore v.log known timeout) := by
  refine (Timed.waits_measure timeout).bind fun _ => ?_
  split
  · refine (Timed.waits_await _ timeout).bind fun _ => ?_
    exact Timed.waits_state.bind fun _ => Timed.waits_pure _
  · exact Timed.waits_state.bind fun _ => Timed.waits_pure _

namespace Expectation

/-! ## The place that decides -/

/-- Place `i` of the history, with what `x` tells of it, decides the wait: it is the first one from
the cursor on whose frame satisfies the condition or makes it fail. -/
structure Decides (accepts : FramePredicate) (cursor : Nat) (history : List (Nat × Frame))
    (i : Nat) (x : Nat × Frame) : Prop where
  /-- The place is not before the cursor. -/
  ahead : cursor ≤ i
  /-- It holds this. -/
  place : history[i]? = some x
  /-- The condition does not pass over its frame. -/
  decisive : accepts x.2 ≠ .ok false
  /-- The condition passes over every frame between. -/
  first : ∀ j y, cursor ≤ j → j < i → history[j]? = some y → accepts y.2 = .ok false

namespace Decides

variable {accepts : FramePredicate} {cursor i : Nat} {history : List (Nat × Frame)}
  {x : Nat × Frame}

/-- No two places decide. -/
theorem unique {j : Nat} {y : Nat × Frame} (h : Decides accepts cursor history i x)
    (h' : Decides accepts cursor history j y) : i = j ∧ x = y := by
  have hij : i = j := by
    rcases Nat.lt_trichotomy i j with hlt | heq | hlt
    · exact absurd (h'.first i x h.ahead hlt h.place) h.decisive
    · exact heq
    · exact absurd (h.first j y h'.ahead hlt h'.place) h'.decisive
  subst hij
  exact ⟨rfl, Option.some.inj (h.place.symm.trans h'.place)⟩

/-- What decides depends only on the history from the cursor on. -/
theorem congr {history' : List (Nat × Frame)} (h : Decides accepts cursor history i x)
    (heq : history.drop cursor = history'.drop cursor) :
    Decides accepts cursor history' i x := by
  have hget (j : Nat) (hj : cursor ≤ j) : history[j]? = history'[j]? := by
    have := congrArg (·[j - cursor]?) heq
    simpa [List.getElem?_drop, Nat.add_sub_cancel' hj] using this
  refine ⟨h.ahead, hget i h.ahead ▸ h.place, h.decisive, fun j y hj hji hy => ?_⟩
  exact h.first j y hj hji ((hget j hj).trans hy)

/-- Places that the condition passes over can be put before the cursor or behind it. -/
theorem skip_iff {position : Nat} (hle : cursor ≤ position)
    (hpass : ∀ j y, cursor ≤ j → j < position → history[j]? = some y → accepts y.2 = .ok false) :
    Decides accepts cursor history i x ↔ Decides accepts position history i x := by
  constructor
  · intro h
    have hi : position ≤ i := by
      rcases Nat.lt_or_ge i position with hlt | hge
      · exact absurd (hpass i x h.ahead hlt h.place) h.decisive
      · exact hge
    exact ⟨hi, h.place, h.decisive, fun j y hj => h.first j y (Nat.le_trans hle hj)⟩
  · intro h
    refine ⟨Nat.le_trans hle h.ahead, h.place, h.decisive, fun j y hj hji hy => ?_⟩
    rcases Nat.lt_or_ge j position with hlt | hge
    · exact hpass j y hj hlt hy
    · exact h.first j y hge hji hy

end Decides

/-! ## Looking at frames -/

/-- How looking at a frame ends that the condition does not pass over. -/
def verdict (accepts : FramePredicate) (f : Frame) : Finding :=
  match accepts f with
  | .error e => .failed e
  | .ok _ => .found f

/-- A look at some frames passes over all of them or ends with the first that decides. -/
theorem firstAccepted_cases (accepts : FramePredicate) (frames : List Frame) :
    (firstAccepted accepts frames = .ok none ∧ ∀ f ∈ frames, accepts f = .ok false) ∨
      ∃ before f after, frames = before ++ f :: after ∧ (∀ g ∈ before, accepts g = .ok false) ∧
        accepts f ≠ .ok false ∧
        firstAccepted accepts frames = (accepts f).map fun _ => some f := by
  induction frames with
  | nil => exact Or.inl ⟨rfl, List.forall_mem_nil _⟩
  | cons f rest ih =>
    cases hf : accepts f with
    | error e =>
      refine Or.inr ⟨[], f, rest, rfl, List.forall_mem_nil _, ?_, ?_⟩
      · simp [hf]
      · simp [firstAccepted, hf, Except.map]
    | ok answer =>
      cases answer with
      | true =>
        refine Or.inr ⟨[], f, rest, rfl, List.forall_mem_nil _, ?_, ?_⟩
        · simp [hf]
        · simp [firstAccepted, hf, Except.map]
      | false =>
        have hstep : firstAccepted accepts (f :: rest) = firstAccepted accepts rest := by
          simp [firstAccepted, hf]
        rcases ih with ⟨hnone, hall⟩ | ⟨before, g, after, heq, hbefore, hg, hfirst⟩
        · refine Or.inl ⟨hstep.trans hnone, fun g hg => ?_⟩
          rcases List.mem_cons.mp hg with rfl | hg
          · exact hf
          · exact hall g hg
        · refine Or.inr ⟨f :: before, g, after, by rw [heq]; rfl, fun k hk => ?_, hg,
            hstep.trans hfirst⟩
          rcases List.mem_cons.mp hk with rfl | hk
          · exact hf
          · exact hbefore k hk

/-- A look without a result has passed over all it has seen. -/
theorem pass_of_look {accepts : FramePredicate} {frames : List Frame}
    (h : firstAccepted accepts frames = .ok none) : ∀ f ∈ frames, accepts f = .ok false := by
  rcases firstAccepted_cases accepts frames with ⟨_, hall⟩ | ⟨_, f, _, _, _, _, hfirst⟩
  · exact hall
  · rw [h] at hfirst
    cases ha : accepts f <;> rw [ha] at hfirst <;> cases hfirst

/-- The two ways in which looking for a frame from a position on can end. -/
inductive SeekEnds (v : LogView σ ε) (accepts : FramePredicate) (deadline position scanned : Nat)
    (t : Timeline σ ε) : Finding × Timeline σ ε → Prop
  /-- With the place that decides, once the log has reached it, at the time of its frame. -/
  | decided {i : Nat} {x : Nat × Frame} {t' : Timeline σ ε} :
    Decides accepts position (v.history t) i x → x.1 ≤ deadline → t'.now = x.1 →
    i < (v.log t'.state).size → SeekEnds v accepts deadline position scanned t
      (verdict accepts x.2, t')
  /-- At the deadline, with a log that the condition passes over, when nothing that comes before
  the deadline decides. -/
  | expired {t' : Timeline σ ε} :
    t'.now = deadline →
    (∀ j y, position ≤ j → j < (v.log t'.state).size → (v.history t)[j]? = some y →
      accepts y.2 = .ok false) →
    (∀ i x, Decides accepts position (v.history t) i x →
      (v.log t.state).size ≤ i ∧ deadline ≤ x.1) →
    SeekEnds v accepts deadline position scanned t
      (.expired (scanned + ((v.log t'.state).size - position)), t')

/-! ## The loop -/

/-- The places before the position that a look has reached hold frames that it has passed over. -/
theorem passed_of_look {v : LogView σ ε} {accepts : FramePredicate} {position : Nat}
    {t : Timeline σ ε} (hall : ∀ f ∈ (v.log t.state).since position, accepts f = .ok false)
    {j : Nat} {y : Nat × Frame} (hj : position ≤ j)
    (hlt : j < position + ((v.log t.state).since position).length)
    (hy : (v.history t)[j]? = some y) : accepts y.2 = .ok false := by
  have hsize : j < (v.log t.state).size := by
    simp only [BusLog.since, List.length_drop] at hlt
    simp only [BusLog.size]
    omega
  have hf := (v.frames_getElem?_of_history hsize hy).1
  refine hall y.2 (List.mem_of_getElem? (i := j - position) ?_)
  rw [BusLog.since, List.getElem?_drop, Nat.add_sub_cancel' hj]
  exact hf

/-- A look takes the position to the end of the log, unless it was beyond. -/
theorem size_le_look (log : BusLog) (position : Nat) :
    log.size ≤ position + (log.since position).length := by
  simp only [BusLog.size, BusLog.since, List.length_drop]
  omega

/-- The wait between two looks. -/
theorem wait_ends {v : LogView σ ε} (deadline : Nat) {position : Nat} {t : Timeline σ ε}
    (hp : (v.log t.state).size ≤ position) :
    WaitEnds (fun s => decide (position < (v.log s).size)) deadline t.agenda t.state
      (Timeline.advance (fun s => decide (position < (v.log s).size)) deadline t.agenda t.state) :=
  Timeline.advance_ends _ _ _ _ (by simpa using hp)

/-- Looking for a frame is a passage of time. -/
theorem seek_elapses (v : LogView σ ε) (accepts : FramePredicate)
    (deadline position scanned : Nat) {t : Timeline σ ε} (ho : t.Ordered)
    (hd : t.now ≤ deadline) :
    ∃ past, Elapses t past (seek v.log accepts deadline position scanned t).2 := by
  revert ho hd
  fun_induction seek v.log accepts deadline position scanned t with
  | case1 => exact fun ho _ => ⟨[], .refl ho⟩
  | case2 => exact fun ho _ => ⟨[], .refl ho⟩
  | case3 position scanned t fresh hlook position' scanned' hnow r _ ih =>
    intro ho hd
    obtain ⟨past, hpast, hle⟩ := (wait_ends _ (size_le_look _ _)).elapses ho hd
    obtain ⟨later, hlater⟩ := ih (hpast.ordered ho) hle
    exact ⟨past ++ later, hpast.trans hlater⟩
  | case4 => exact fun ho _ => ⟨[], .refl ho⟩

/-- A look that finds the first frame that decides finds the place that decides. -/
theorem decides_of_look {v : LogView σ ε} {accepts : FramePredicate} {position : Nat}
    {t : Timeline σ ε} {before after : List Frame} {f : Frame}
    (heq : (v.log t.state).since position = before ++ f :: after)
    (hbefore : ∀ g ∈ before, accepts g = .ok false) (hf : accepts f ≠ .ok false) :
    Decides accepts position (v.history t) (position + before.length) (t.now, f) ∧
      position + before.length < (v.log t.state).size := by
  have hget (j : Nat) (g : Frame) (hg : (before ++ f :: after)[j]? = some g) :
      (v.log t.state).frames[position + j]? = some g := by
    rw [← heq, BusLog.since, List.getElem?_drop] at hg
    exact hg
  have hplace := hget before.length f (by simp)
  have hsize := (List.getElem?_eq_some_iff.mp hplace).1
  refine ⟨⟨Nat.le_add_right _ _, ?_, hf, ?_⟩, hsize⟩
  · rw [LogView.history, List.getElem?_append_left (by simpa using hsize), List.getElem?_map,
      hplace]
    rfl
  · intro j y hj hlt hy
    have hjs : j < (v.log t.state).size := Nat.lt_trans hlt hsize
    have hy' := (v.frames_getElem?_of_history hjs hy).1
    have hk : j - position < before.length := by omega
    have hg := hget (j - position) before[j - position] (by
      rw [List.getElem?_append_left hk, List.getElem?_eq_getElem hk])
    rw [Nat.add_sub_cancel' hj, hy'] at hg
    rw [Option.some.inj hg]
    exact hbefore _ (List.getElem_mem hk)

/-- Whatever the loop does between two looks, the outcome is the same as seen from the first. -/
theorem SeekEnds.of_later {v : LogView σ ε} {accepts : FramePredicate}
    {deadline position scanned : Nat} {t u : Timeline σ ε} {past : List (Nat × ε)}
    {r : Finding × Timeline σ ε} (helapses : Elapses t past u)
    (hall : ∀ f ∈ (v.log t.state).since position, accepts f = .ok false)
    (hdrop : (v.history u).drop (position + ((v.log t.state).since position).length) =
      (v.history t).drop (position + ((v.log t.state).since position).length))
    (hlater : ∃ later, Elapses u later r.2)
    (h : SeekEnds v accepts deadline (position + ((v.log t.state).since position).length)
      (scanned + ((v.log t.state).since position).length) u r) :
    SeekEnds v accepts deadline position scanned t r := by
  have hskip {i : Nat} {x : Nat × Frame} :
      Decides accepts position (v.history t) i x ↔
        Decides accepts (position + ((v.log t.state).since position).length) (v.history t) i x :=
    Decides.skip_iff (Nat.le_add_right _ _) fun j y hj hlt hy => passed_of_look hall hj hlt hy
  have hgrown := v.size_le_later helapses
  obtain ⟨later, hlater⟩ := hlater
  have hgrown' := v.size_le_later hlater
  cases h with
  | decided hdec hle hnow hsize => exact .decided (hskip.mpr (hdec.congr hdrop)) hle hnow hsize
  | @expired t' hnow hpass hnone =>
    have hcount : scanned + ((v.log t.state).since position).length +
        ((v.log t'.state).size - (position + ((v.log t.state).since position).length)) =
        scanned + ((v.log t'.state).size - position) := by
      simp only [BusLog.size, BusLog.since, List.length_drop] at hgrown hgrown' ⊢
      omega
    rw [hcount]
    refine .expired hnow ?_ ?_
    · intro j y hj hlt hy
      rcases Nat.lt_or_ge j (position + ((v.log t.state).since position).length) with hj' | hj'
      · exact passed_of_look hall hj hj' hy
      · refine hpass j y hj' hlt ?_
        have := congrArg (·[j - (position + ((v.log t.state).since position).length)]?) hdrop
        simp only [List.getElem?_drop, Nat.add_sub_cancel' hj'] at this
        rw [this, hy]
    · intro i x hdec
      have hi := hnone i x ((hskip.mp hdec).congr hdrop.symm)
      exact ⟨Nat.le_trans hgrown hi.1, hi.2⟩

/-- A look that does not pass over all it sees ends the loop with the place that decides. -/
theorem SeekEnds.of_look {v : LogView σ ε} {accepts : FramePredicate}
    {deadline position scanned : Nat} {t : Timeline σ ε} {finding : Finding}
    (hd : t.now ≤ deadline)
    (hlook : firstAccepted accepts ((v.log t.state).since position) ≠ .ok none)
    (hfinding : ∀ f, firstAccepted accepts ((v.log t.state).since position) =
      (accepts f).map (fun _ => some f) → finding = verdict accepts f) :
    SeekEnds v accepts deadline position scanned t (finding, t) := by
  rcases firstAccepted_cases accepts ((v.log t.state).since position) with
    ⟨hnone, _⟩ | ⟨before, f, after, heq, hbefore, hf, hfirst⟩
  · exact absurd hnone hlook
  · obtain ⟨hdec, hsize⟩ := decides_of_look heq hbefore hf
    rw [hfinding f hfirst]
    exact .decided hdec hd rfl hsize

/-- Looking for a frame until the deadline ends in one of the two ways. -/
theorem seek_ends (v : LogView σ ε) (accepts : FramePredicate)
    (deadline position scanned : Nat) {t : Timeline σ ε} (ho : t.Ordered)
    (hd : t.now ≤ deadline) :
    SeekEnds v accepts deadline position scanned t
      (seek v.log accepts deadline position scanned t) := by
  revert ho hd
  fun_induction seek v.log accepts deadline position scanned t with
  | case1 position scanned t fresh e hlook =>
    intro ho hd
    refine .of_look hd (by simp [fresh, hlook]) fun f hf => ?_
    rw [hlook] at hf
    cases ha : accepts f <;> rw [ha] at hf <;> cases hf
    rw [verdict, ha]
  | case2 position scanned t fresh f hlook =>
    intro ho hd
    refine .of_look hd (by simp [fresh, hlook]) fun g hg => ?_
    rw [hlook] at hg
    cases ha : accepts g <;> rw [ha] at hg <;> cases hg
    rw [verdict, ha]
  | case3 position scanned t fresh hlook position' scanned' hnow r _ ih =>
    -- Nothing that the look has seen decides, so the loop waits and looks again from behind it.
    intro ho hd
    have hwait := wait_ends deadline (size_le_look (v.log t.state) position)
    obtain ⟨past, hpast, hle⟩ := hwait.elapses ho hd
    have ho' := hpast.ordered ho
    exact .of_later hpast (pass_of_look hlook) (v.history_drop_wait hwait)
      (seek_elapses v accepts deadline position' scanned' ho' hle) (ih ho' hle)
  | case4 position scanned t fresh hlook scanned' hnow =>
    -- The time is over.  A place that the log has not reached is later than now.
    intro ho hd
    have hall := pass_of_look hlook
    have heq : t.now = deadline := Nat.le_antisymm hd (Nat.le_of_not_lt hnow)
    have hcount : scanned' = scanned + ((v.log t.state).size - position) :=
      congrArg (scanned + ·) List.length_drop
    rw [hcount]
    refine .expired heq ?_ ?_
    · intro j y hj hlt hy
      exact passed_of_look hall hj (Nat.lt_of_lt_of_le hlt (size_le_look _ _)) hy
    · intro i x hdec
      rcases Nat.lt_or_ge i (v.log t.state).size with hlt | hge
      · exact absurd (passed_of_look hall hdec.ahead
          (Nat.lt_of_lt_of_le hlt (size_le_look _ _)) hdec.place) hdec.decisive
      · exact ⟨hge, heq ▸ v.now_le_of_history ho hdec.place⟩

/-! ## Whole waits -/

/-- What a wait returns is what looking for a frame finds, unless the wait is refused. -/
theorem await_eq (log : σ → BusLog) (accepts : FramePredicate) (cursor timeout : Nat)
    (description context : String) (t : Timeline σ ε) (hm : isMeasurable timeout = true) :
    await log ⟨accepts, cursor, description, false⟩ timeout context t =
      match seek log accepts (t.now + timeout) cursor 0 t with
      | (.found f, t') => .ok f t'
      | (.failed fault, t') => .error fault t'
      | (.expired scanned, t') =>
        .error (.notSeen {
          context := context
          timeout := timeout
          description := description
          observed := (log t'.state).size - (log t.state).size
          scanned := scanned
          elapsed := t'.now - t.now
          recent := (log t'.state).recent reportedFrames }) t' := by
  have hneg : ¬ (timeout : Int) < 0 := by omega
  cases hs : seek log accepts (t.now + timeout) cursor 0 t with
  | mk finding t' =>
    cases finding <;> simp only [await, hm, hneg, hs, Bool.false_eq_true, if_false, Bool.not_true,
      Int.toNat_natCast]

/-- A wait ends with place `i` of the log: with its frame, or with the fault that the condition
ends in there, at the time of the frame or, if it was there before, at once. -/
def EndsAt (v : LogView σ ε) (accepts : FramePredicate) (began : Nat) (i : Nat) (x : Nat × Frame)
    (r : EStateM.Result Fault (Timeline σ ε) Frame) : Prop :=
  ∃ t', t'.now = max began x.1 ∧ (v.log t'.state).frames[i]? = some x.2 ∧
    r = match accepts x.2 with
      | .ok _ => .ok x.2 t'
      | .error fault => .error fault t'

/-- The two ways in which a wait of a measurable time can end. -/
inductive AwaitEnds (v : LogView σ ε) (accepts : FramePredicate) (cursor timeout : Nat)
    (t : Timeline σ ε) (r : EStateM.Result Fault (Timeline σ ε) Frame) : Prop
  /-- With the place that decides. -/
  | decided {i : Nat} {x : Nat × Frame} :
    Decides accepts cursor (v.history t) i x → x.1 ≤ t.now + timeout →
    EndsAt v accepts t.now i x r → AwaitEnds v accepts cursor timeout t r
  /-- With the end of the time, when nothing that comes before it decides. -/
  | expired {report : TimeoutReport} {t' : Timeline σ ε} :
    r = .error (.notSeen report) t' → t'.now = t.now + timeout →
    (∀ f ∈ (v.log t'.state).since cursor, accepts f = .ok false) →
    (∀ i x, Decides accepts cursor (v.history t) i x →
      (v.log t.state).size ≤ i ∧ t.now + timeout ≤ x.1) →
    AwaitEnds v accepts cursor timeout t r

/-- Waiting for an expectation is a passage of time, also when the wait is refused. -/
theorem waits_await (v : LogView σ ε) (e : Expectation) (timeout : Int) (context : String) :
    Timed.Waits (e.await v.log timeout context) := by
  intro t ho
  obtain ⟨past, hpast⟩ := seek_elapses v e.accepts (t.now + timeout.toNat) e.cursor 0 ho
    (Nat.le_add_right _ _)
  unfold Timed.behind await
  split_ifs
  · exact ⟨[], .refl ho⟩
  · exact ⟨[], .refl ho⟩
  · exact ⟨[], .refl ho⟩
  · generalize seek v.log e.accepts (t.now + timeout.toNat) e.cursor 0 t = r at hpast
    obtain ⟨finding, t'⟩ := r
    cases finding <;> exact ⟨past, hpast⟩

/-- On an ordered timeline a new expectation's wait ends in one of the two ways. -/
theorem await_ends (v : LogView σ ε) (accepts : FramePredicate) (cursor timeout : Nat)
    (description context : String) {t : Timeline σ ε} (ho : t.Ordered)
    (hm : isMeasurable timeout = true) :
    AwaitEnds v accepts cursor timeout t
      (await v.log ⟨accepts, cursor, description, false⟩ timeout context t) := by
  have hd : t.now ≤ t.now + timeout := Nat.le_add_right _ _
  obtain ⟨past, hpast⟩ := seek_elapses v accepts (t.now + timeout) cursor 0 ho hd
  have hends := seek_ends v accepts (t.now + timeout) cursor 0 ho hd
  rw [await_eq v.log accepts cursor timeout description context t hm]
  generalize seek v.log accepts (t.now + timeout) cursor 0 t = r at hpast hends
  cases hends with
  | @decided i x t' hdec hle hnow hsize =>
    have hge := v.now_le_of_history ho hdec.place
    refine .decided hdec hle ⟨t', by omega, v.frames_getElem?_later hpast hdec.place hsize, ?_⟩
    rw [verdict]
    cases accepts x.2 <;> rfl
  | @expired t' hnow hpass hnone =>
    refine .expired rfl hnow (fun f hf => ?_) hnone
    obtain ⟨j, hj⟩ := List.mem_iff_getElem?.mp hf
    rw [BusLog.since, List.getElem?_drop] at hj
    have hsize := (List.getElem?_eq_some_iff.mp hj).1
    have hlen := congrArg List.length (v.history_frames hpast)
    have hlt : cursor + j < (v.history t).length := by
      simp only [List.length_map, LogView.history, List.length_append] at hlen ⊢
      omega
    have hplace := List.getElem?_eq_getElem hlt
    have hframe := v.frames_getElem?_later hpast hplace hsize
    rw [hj, Option.some.injEq] at hframe
    rw [hframe]
    exact hpass (cursor + j) _ (Nat.le_add_right _ _) hsize hplace

/-- How a new expectation is waited for from time `now` on, whatever is going to happen.  A place
of the history is *in time* if the log has it already or its frame comes before the deadline.

If a place in time decides, the wait ends with it.  If none does, it ends with the place that
decides, should its frame come at the deadline itself, or it expires at the deadline with a log that
the condition passes over.  A time that cannot be measured is refused at once.  However this wait
ends, the expectation is spent, and a second wait is refused while no time passes. -/
theorem waitFor_ends (v : LogView σ ε) (accepts : FramePredicate) (cursor timeout : Nat)
    (description context : String) (now : Nat) (s : σ) (events : List (Nat × ε)) :
    let t : Timeline σ ε := Timeline.scheduleAll ⟨now, [], s⟩ events
    let inTime (i : Nat) (x : Nat × Frame) : Prop := i < (v.log s).size ∨ x.1 < now + timeout
    let e : Expectation := ⟨accepts, cursor, description, false⟩
    let first := e.waitFor v.log timeout context t
    (isMeasurable timeout = true →
      (∀ i x, Decides accepts cursor (v.history t) i x → inTime i x →
        EndsAt v accepts now i x first.2) ∧
      ((∀ i x, Decides accepts cursor (v.history t) i x → ¬ inTime i x) →
        (∃ i x, Decides accepts cursor (v.history t) i x ∧ x.1 = now + timeout ∧
          EndsAt v accepts now i x first.2) ∨
        ∃ report t', first.2 = .error (.notSeen report) t' ∧ t'.now = now + timeout ∧
          ∀ f ∈ (v.log t'.state).since cursor, accepts f = .ok false)) ∧
    (isMeasurable timeout = false → first.2 = .error .immeasurable t) ∧
    ∀ (timeout' : Int) (context' : String) (t' : Timeline σ ε),
      (first.1.waitFor v.log timeout' context' t').2 =
        .error (.spent context' description) t' := by
  intro t inTime e first
  have ho : t.Ordered := (Timeline.ordered_idle now s).scheduleAll events
  have hnow : t.now = now := Timeline.scheduleAll_now _ events
  have hstate : t.state = s := Timeline.scheduleAll_state _ events
  refine ⟨fun hm => ?_, fun hm => ?_, fun timeout' context' t' => ?_⟩
  · have hends : AwaitEnds v accepts cursor timeout t first.2 :=
      await_ends v accepts cursor timeout description context ho hm
    cases hends with
    | @decided i x hdec hle hend =>
      rw [hnow] at hle hend
      refine ⟨fun j y hdec' _ => ?_, fun hlate => Or.inl ⟨i, x, hdec, ?_, hend⟩⟩
      · obtain ⟨rfl, rfl⟩ := hdec.unique hdec'
        exact hend
      · have : ¬ x.1 < now + timeout := fun h => hlate i x hdec (Or.inr h)
        omega
    | expired hr hnow' hpass hlate =>
      rw [hnow] at hnow'
      refine ⟨fun i x hdec hin => ?_, fun _ => Or.inr ⟨_, _, hr, hnow', hpass⟩⟩
      have hi := hlate i x hdec
      rw [hnow, hstate] at hi
      rcases hin with h | h
      · exact absurd hi.1 (Nat.not_le_of_lt h)
      · exact absurd hi.2 (Nat.not_le_of_lt h)
  · show await v.log e timeout context t = _
    have hneg : ¬ (timeout : Int) < 0 := by omega
    simp [await, e, hm, hneg]
  · show await v.log e.spend timeout' context' t' = _
    simp [await, spend, e]

/-- The frame that decides is in the log, and still a wait for the least time that cannot be measured
does not end with it. -/
theorem waitFor_immeasurable_misses_frame :
    let f : Frame := ⟨.playback1, .broadcast, .poll, none⟩
    let t : Timeline BusLog Frame := { state := ⟨[f]⟩ }
    let e : Expectation := ⟨FrameTest.any.predicate, 0, usualDescription, false⟩
    Decides e.accepts 0 (BusLog.view.history t) 0 (0, f) ∧ 0 < (BusLog.view.log t.state).size ∧
      ¬ EndsAt BusLog.view e.accepts 0 0 (0, f)
        (e.waitFor BusLog.view.log immeasurableTime "" t).2 := by
  intro f t e
  refine ⟨⟨Nat.le_refl 0, rfl, ?_, ?_⟩, Nat.zero_lt_one, ?_⟩
  · intro h
    cases h
  · intro j y _ hj _
    exact absurd hj (Nat.not_lt_zero j)
  · rintro ⟨t', _, _, h⟩
    have hm : isMeasurable immeasurableTime = false := by simp [isMeasurable]
    have hneg : ¬ (immeasurableTime : Int) < 0 := Int.not_lt.mpr (Int.natCast_nonneg _)
    have hrefused : (e.waitFor BusLog.view.log immeasurableTime "" t).2 =
        .error .immeasurable t := by
      show await BusLog.view.log e immeasurableTime "" t = _
      simp only [await, e, hm, hneg, Bool.not_false, if_true, if_false, Bool.false_eq_true]
    rw [hrefused] at h
    cases h

end Expectation

end CecBench
