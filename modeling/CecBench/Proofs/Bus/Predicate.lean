import CecBench.Bus.Expectation
import CecBench.Proofs.Frame.Draft

/-!
# What conditions ask for

A condition on frames is put in terms of the numbers of a frame, and it is computed.
`FrameTest.holds_iff` says what each kind of condition asks for: an opcode, a sender, a receiver, what
is in the operands.  An index among the operands counts from either end (`StandsAt`).
-/

namespace CecBench

/-! ## Operands -/

/-- The member stands at the index, which counts from the front, or from the back if it is negative. -/
inductive StandsAt {α : Type} (xs : List α) : Int → α → Prop
  | front {k : Nat} {x : α} : xs[k]? = some x → StandsAt xs k x
  | back {k : Nat} {x : α} : 0 < k → k ≤ xs.length → xs[xs.length - k]? = some x →
    StandsAt xs (-k) x

theorem atIndex?_natCast {α : Type} (xs : List α) (k : Nat) : atIndex? xs k = xs[k]? := by
  have hplace : ¬ (k : Int) < 0 := by omega
  simp [atIndex?, hplace]

theorem atIndex?_neg {α : Type} (xs : List α) {k : Nat} (hk : 0 < k) :
    atIndex? xs (-k) = if k ≤ xs.length then xs[xs.length - k]? else none := by
  have hback : -(k : Int) < 0 := by omega
  simp only [atIndex?, if_pos hback, Int.ofNat_eq_natCast]
  by_cases hle : k ≤ xs.length
  · have htoNat : ((xs.length : Int) + -k).toNat = xs.length - k := by omega
    rw [if_neg (by omega), if_pos hle, htoNat]
  · rw [if_pos (by omega), if_neg hle]

theorem atIndex?_eq_some_iff {α : Type} {xs : List α} {i : Int} {x : α} :
    atIndex? xs i = some x ↔ StandsAt xs i x := by
  constructor
  · intro h
    by_cases hi : i < 0
    · obtain ⟨k, rfl⟩ : ∃ k : Nat, i = -k := ⟨i.natAbs, by omega⟩
      have hk : 0 < k := by omega
      rw [atIndex?_neg xs hk] at h
      split at h
      · rename_i hle
        exact .back hk hle h
      · cases h
    · obtain ⟨k, rfl⟩ : ∃ k : Nat, i = k := ⟨i.toNat, by omega⟩
      rw [atIndex?_natCast] at h
      exact .front h
  · intro h
    cases h with
    | front h => rwa [atIndex?_natCast]
    | back hk hle h => rwa [atIndex?_neg xs hk, if_pos hle]

namespace OperandTest

/-- What the condition asks of operand bytes. -/
def IsMet (bytes : List UInt8) : OperandTest → Prop
  | .startsWith start => start <+: bytes
  | .equals other => bytes = other
  | .atLeast count => count ≤ bytes.length
  | .byteAt index value => ∃ b, StandsAt bytes index b ∧ byteNumber b = value

variable {bytes : List UInt8} {test : OperandTest}

theorem holds_iff : test.holds bytes = .ok true ↔ test.IsMet bytes := by
  cases test with
  | startsWith start => simp [holds, IsMet]
  | equals other => simp [holds, IsMet]
  | atLeast count => simp [holds, IsMet]
  | byteAt index value =>
    simp only [holds, IsMet, ← atIndex?_eq_some_iff]
    cases atIndex? bytes index <;> simp [byteNumber]

end OperandTest

/-! ## Frames -/

/-- What a given address asks of the role. -/
theorem meetsAddress_iff {given : Option AddressSpec} {a : LogicalAddress} :
    meetsAddress given a = true ↔ ∀ spec ∈ given, spec.value = Int.ofNat a.code := by
  cases given <;> simp [meetsAddress]

/-- The frame has the opcode, and the sender and the receiver that are given. -/
structure Frame.Bears (f : Frame) (spec : OpcodeSpec) (source destination : Option AddressSpec) :
    Prop where
  opcode : ∃ b, f.opcode? = some b ∧ byteNumber b = spec.value
  source : ∀ a ∈ source, a.value = Int.ofNat f.source.code
  destination : ∀ a ∈ destination, a.value = Int.ofNat f.destination.code

namespace FrameTest

/-- What the condition asks of a frame. -/
def IsMet (f : Frame) : FrameTest → Prop
  | .opcode spec source destination operands =>
    f.Bears spec source destination ∧ ∀ test ∈ operands, test.IsMet f.operands
  | .poll => f.opcode? = none
  | .broadcast => f.destination = .broadcast
  | .any => True
  | .never => False
  | .operandAt index value => ∃ b, StandsAt f.operands index b ∧ byteNumber b = value
  | .equals g => f.opcode? = g.opcode? ∧ f.operands = g.operands

variable {f : Frame} {test : FrameTest} {spec : OpcodeSpec}
  {source destination : Option AddressSpec} {operands : Option OperandTest}

theorem holds_of_bears (h : f.Bears spec source destination) :
    (opcode spec source destination operands).holds f =
      (operands.map (OperandTest.holds f.operands)).getD (.ok true) := by
  obtain ⟨⟨b, hopcode, hb⟩, hsource, hdestination⟩ := h
  have hb' : spec.value = Int.ofNat b.toNat := hb.symm
  simp only [holds, hopcode, hb', meetsAddress_iff.mpr hsource, meetsAddress_iff.mpr hdestination]
  cases operands <;> simp

/-- The operands of a frame with another opcode or address do not matter. -/
theorem holds_of_not_bears (h : ¬ f.Bears spec source destination) :
    (opcode spec source destination operands).holds f = .ok false := by
  unfold holds
  cases hopcode : f.opcode? with
  | none => rfl
  | some b =>
    refine if_pos ?_
    by_contra hcontra
    simp only [Bool.or_eq_true, bne_iff_ne, ne_eq, Bool.not_eq_eq_eq_not, Bool.not_true, not_or,
      not_not, Bool.not_eq_false] at hcontra
    obtain ⟨⟨hb, hsource⟩, hdestination⟩ := hcontra
    exact h ⟨⟨b, hopcode, hb.symm⟩, meetsAddress_iff.mp hsource, meetsAddress_iff.mp hdestination⟩

theorem holds_iff : test.holds f = .ok true ↔ test.IsMet f := by
  cases test with
  | opcode spec source destination operands =>
    by_cases h : f.Bears spec source destination
    · rw [holds_of_bears h, IsMet, and_iff_right h]
      cases operands with
      | none => simp
      | some test => simpa using OperandTest.holds_iff
    · simp [holds_of_not_bears h, IsMet, h]
  | poll => simp [holds, IsMet, Frame.isPoll]
  | broadcast => simp [holds, IsMet, Frame.isBroadcast]
  | any => simp [holds, IsMet]
  | never => simp [holds, IsMet]
  | operandAt index value =>
    have hbyte : (OperandTest.byteAt index value).holds f.operands = .ok true ↔
        (OperandTest.byteAt index value).IsMet f.operands := OperandTest.holds_iff
    exact hbyte
  | equals g => simp [holds, IsMet, Frame.sameMessage_iff, Frame.content_eq_iff]

/-- A frame is accepted exactly if it is as the condition asks. -/
theorem predicate_iff : test.predicate f = .ok true ↔ test.IsMet f := by
  rw [predicate, mapError_eq_ok, holds_iff]

end FrameTest

end CecBench
