import CecBench.Proofs.Bus.Predicate
import CecBench.Proofs.Session.Cursors

/-!
# Checks of an opcode

A check of an opcode asks for frames that bear the opcode and the addresses given, and whose operands
are as wanted (`OpcodeCheck.accepts_iff`).  If it asks nothing of the operands it can always be told
whether a frame is one of them, and so the check is for the first frame that bears what is given
(`OpcodeCheck.finds_iff`).  The check ends with that frame if it comes before the time is over
(`checkOpcode_of_timely`).
-/

namespace CecBench

open Rig (Act)

/-- At the place is the first of the frames that is as wanted. -/
structure IsFirst (wanted : Frame → Prop) (frames : List Frame) (k : Nat) (f : Frame) : Prop where
  place : frames[k]? = some f
  suits : wanted f
  first : ∀ j < k, ∀ g, frames[j]? = some g → ¬ wanted g

theorem IsFirst.congr {wanted wanted' : Frame → Prop} {frames : List Frame} {k : Nat} {f : Frame}
    (h : IsFirst wanted frames k f) (hsame : ∀ g, wanted g ↔ wanted' g) :
    IsFirst wanted' frames k f where
  place := h.place
  suits := (hsame f).mp h.suits
  first j hj g hg := fun hwanted => h.first j hj g hg ((hsame g).mpr hwanted)

namespace Session

namespace OpcodeCheck

variable {c : OpcodeCheck} {f : Frame} {k : Nat}

/-- The frame bears the opcode and the addresses that the check asks for. -/
def Wants (c : OpcodeCheck) (f : Frame) : Prop := f.Bears c.opcode c.source c.destination

theorem accepts_iff :
    c.test.predicate f = .ok true ↔ c.Wants f ∧ ∀ test ∈ c.operands, test.IsMet f.operands :=
  FrameTest.predicate_iff

/-- If nothing is asked of the operands, every other frame is passed over. -/
theorem passes_iff (h : c.operands = none) : c.test.predicate f = .ok false ↔ ¬ c.Wants f := by
  by_cases hbears : c.Wants f
  · have hok : c.test.predicate f = .ok true := accepts_iff.mpr ⟨hbears, by simp [h]⟩
    simp [hok, hbears]
  · have hok : c.test.predicate f = .ok false :=
      mapError_eq_ok.mpr (FrameTest.holds_of_not_bears hbears)
    simp [hok, hbears]

theorem finds_iff (h : c.operands = none) {frames : List Frame} :
    Finds c.test.predicate 0 frames k f ↔ IsFirst c.Wants frames k f := by
  constructor
  · intro hfinds
    exact ⟨hfinds.place, (accepts_iff.mp hfinds.accepted).1,
      fun j hj g hg => (passes_iff h).mp (hfinds.first j g (Nat.zero_le j) hj hg)⟩
  · intro hfirst
    exact ⟨Nat.zero_le k, hfirst.place, accepts_iff.mpr ⟨hfirst.suits, by simp [h]⟩,
      fun j g _ hj hg => (passes_iff h).mpr (hfirst.first j hj g hg)⟩

theorem decides_of_isFirst (h : c.operands = none) {history : List (Nat × Frame)} {time : Nat}
    (hplace : history[k]? = some (time, f))
    (hfirst : IsFirst c.Wants (history.map Prod.snd) k f) :
    Expectation.Decides c.test.predicate 0 history k (time, f) where
  ahead := Nat.zero_le k
  place := hplace
  decisive hpass := (passes_iff h).mp hpass hfirst.suits
  first j x _ hj hx := (passes_iff h).mpr
    (hfirst.first j hj x.2 (by rw [List.getElem?_map, hx]; rfl))

end OpcodeCheck

/-- A check ends with the first frame that it wants if that is in the log, or comes before the time is
over. -/
theorem checkOpcode_of_timely (s : Session) {t : Timeline Rig Happening} (h : Runs t)
    {c : OpcodeCheck} (hplain : c.operands = none) {d : Int} (hd : 0 ≤ d)
    (hm : isMeasurable d = true) (context : String) {k time : Nat} {f : Frame}
    (hplace : (Rig.view.history t)[k]? = some (time, f))
    (hfirst : IsFirst c.Wants ((Rig.view.history t).map Prod.snd) k f)
    (hin : k < (Rig.log t.state).size ∨ time < t.now + d.toNat) :
    ∃ u, s.checkOpcode c d none context t = .ok f u := by
  obtain ⟨description, context', hact⟩ := (Check.opcode c d none context).act_apply s
  have hwait := hact t h
  have hcursor : ¬ (Check.opcode c d none context).cursor < 0 := Int.not_lt.mpr (Int.le_refl 0)
  have htimeout : (Check.opcode c d none context).timeout = (d.toNat : Int) :=
    (Int.toNat_of_nonneg hd).symm
  rw [if_neg hcursor, htimeout] at hwait
  rw [← Int.toNat_of_nonneg hd] at hm
  have hends := Expectation.await_ends Rig.view c.test.predicate 0 d.toNat description context'
    h.sound.ordered hm
  have hdecides := OpcodeCheck.decides_of_isFirst hplain hplace hfirst
  cases hends with
  | decided hdec _ hend =>
    obtain ⟨rfl, rfl⟩ := hdec.unique hdecides
    obtain ⟨u, _, _, hresult⟩ := hend
    have haccepted : c.test.predicate f = .ok true :=
      OpcodeCheck.accepts_iff.mpr ⟨hfirst.suits, by simp [hplain]⟩
    rw [haccepted] at hresult
    exact ⟨u, hwait.trans hresult⟩
  | expired _ _ _ hlate =>
    obtain ⟨hsize, hafter⟩ := hlate k _ hdecides
    change (Rig.log t.state).size ≤ k at hsize
    rcases hin with hin | hin
    · exact absurd hsize (Nat.not_le_of_lt hin)
    · exact absurd hafter (Nat.not_le_of_lt hin)

end Session

end CecBench
