import CecBench.Frame.Operands
import Mathlib.Data.List.Induction
import Mathlib.Data.Nat.Digits.Defs

/-!
# Numbers among the operands

Two bounds select operand bytes, and the bytes are a number in the base 256, the first one the
highest digit.  A bound means a place between two bytes (`IsPlace`): it counts from the front, or
from the back if it is negative, and outside of the operands it means the nearer end.  The number
depends on the places alone (`operandNumber_eq`), so two ways to name the same places select the
same number.

The number has as many digits as bytes were selected, and is made of the numbers on both sides of
any place between (`bigEndian_append`).  The physical address in a frame is the number of its first
two operand bytes.
-/

namespace CecBench

/-! ## Places -/

/-- What a bound means in a list of so many members. -/
inductive IsPlace (length : Nat) : Int → Nat → Prop
  /-- Counted from the front. -/
  | front {k : Nat} : k ≤ length → IsPlace length k k
  /-- Beyond the end. -/
  | behind {k : Nat} : length < k → IsPlace length k length
  /-- Counted from the back. -/
  | back {k : Nat} : 0 < k → k ≤ length → IsPlace length (-k) (length - k)
  /-- Before the start. -/
  | before {k : Nat} : length < k → IsPlace length (-k) 0

/-- What a second bound means, which may be missing. -/
inductive IsEnd (length : Nat) : Option Int → Nat → Prop
  | missing : IsEnd length none length
  | given {i : Int} {k : Nat} : IsPlace length i k → IsEnd length (some i) k

section Places

variable {length lo hi k : Nat} {i : Int} {stop : Option Int}

theorem isPlace_clampBound (length : Nat) (i : Int) : IsPlace length i (clampBound length i) := by
  by_cases hi : i < 0
  · obtain ⟨k, rfl⟩ : ∃ k : Nat, i = -k := ⟨i.natAbs, by omega⟩
    have hclamp : clampBound length (-k) = length - k := by
      simp only [clampBound, if_pos hi, Int.ofNat_eq_natCast]
      omega
    rw [hclamp]
    by_cases hk : k ≤ length
    · exact .back (by omega) hk
    · rw [Nat.sub_eq_zero_of_le (by omega)]
      exact .before (by omega)
  · obtain ⟨k, rfl⟩ : ∃ k : Nat, i = k := ⟨i.toNat, by omega⟩
    simp only [clampBound, if_neg hi, Int.toNat_natCast]
    by_cases hk : k ≤ length
    · rw [Nat.min_eq_left hk]
      exact .front hk
    · rw [Nat.min_eq_right (by omega)]
      exact .behind (by omega)

theorem IsPlace.clampBound_eq (h : IsPlace length i k) : clampBound length i = k := by
  cases h <;> simp only [clampBound, Int.ofNat_eq_natCast] <;> split <;> omega

theorem IsPlace.le (h : IsPlace length i k) : k ≤ length := by
  cases h <;> omega

theorem exists_isEnd (length : Nat) (stop : Option Int) : ∃ hi, IsEnd length stop hi := by
  cases stop with
  | none => exact ⟨_, .missing⟩
  | some i => exact ⟨_, .given (isPlace_clampBound length i)⟩

theorem IsEnd.le (h : IsEnd length stop hi) : hi ≤ length := by
  cases h with
  | missing => exact Nat.le_refl _
  | given h => exact h.le

end Places

/-- A slice is what stands between the places that its bounds mean. -/
theorem slice_eq_extract {α : Type} {xs : List α} {start : Int} {stop : Option Int} {lo hi : Nat}
    (hlo : IsPlace xs.length start lo) (hhi : IsEnd xs.length stop hi) :
    slice xs start stop = xs.extract lo hi := by
  have hlast : (stop.map (clampBound xs.length)).getD xs.length = hi := by
    cases hhi with
    | missing => rfl
    | given h => exact h.clampBound_eq
  rw [slice, hlast, hlo.clampBound_eq, List.drop_take, List.extract_eq_take_drop]

namespace Frame

/-! ## Bytes and numbers -/

/-- The number in so many bytes, the highest first. -/
def toBigEndian : Nat → Nat → List UInt8
  | 0, _ => []
  | width + 1, n => toBigEndian width (n / 256) ++ [UInt8.ofNat n]

theorem bigEndian_concat (bytes : List UInt8) (b : UInt8) :
    bigEndian (bytes ++ [b]) = bigEndian bytes * 256 + b.toNat := by
  simp [bigEndian]

/-- The bytes are the digits of their number in the base 256. -/
theorem bigEndian_eq_ofDigits (bytes : List UInt8) :
    bigEndian bytes = Nat.ofDigits 256 (bytes.reverse.map UInt8.toNat) := by
  induction bytes using List.reverseRecOn with
  | nil => rfl
  | append_singleton bytes b ih =>
    rw [bigEndian_concat, ih, List.reverse_append, List.reverse_singleton, List.singleton_append,
      List.map_cons, Nat.ofDigits_cons]
    omega

theorem bigEndian_append (first second : List UInt8) :
    bigEndian (first ++ second) = bigEndian first * 256 ^ second.length + bigEndian second := by
  simp only [bigEndian_eq_ofDigits, List.reverse_append, List.map_append, Nat.ofDigits_append,
    List.length_map, List.length_reverse]
  rw [Nat.add_comm, Nat.mul_comm]

theorem bigEndian_lt (bytes : List UInt8) : bigEndian bytes < 256 ^ bytes.length := by
  have hlt := Nat.ofDigits_lt_base_pow_length (b := 256) (l := bytes.reverse.map UInt8.toNat)
    (by decide) (by
      intro n hn
      obtain ⟨b, _, rfl⟩ := List.mem_map.mp hn
      exact b.toNat_lt)
  rwa [List.length_map, List.length_reverse, ← bigEndian_eq_ofDigits] at hlt

/-- Written in as many bytes as it was read from, a number gives these bytes. -/
theorem toBigEndian_bigEndian (bytes : List UInt8) :
    toBigEndian bytes.length (bigEndian bytes) = bytes := by
  induction bytes using List.reverseRecOn with
  | nil => rfl
  | append_singleton bytes b ih =>
    have hb := b.toNat_lt
    have hdiv : (bigEndian bytes * 256 + b.toNat) / 256 = bigEndian bytes := by omega
    have hlast : UInt8.ofNat (bigEndian bytes * 256 + b.toNat) = b := by
      apply UInt8.toNat_inj.mp
      rw [UInt8.toNat_ofNat']
      omega
    rw [List.length_append, List.length_singleton, toBigEndian, bigEndian_concat, hdiv, hlast, ih]

/-! ## Numbers between places -/

section Numbers

variable {f : Frame} {start : Int} {stop : Option Int} {lo hi : Nat}

theorem length_extract (xs : List UInt8) (h : hi ≤ xs.length) :
    (xs.extract lo hi).length = hi - lo := by
  rw [List.extract_eq_take_drop, List.length_take, List.length_drop]
  omega

theorem extract_append (xs : List UInt8) {mid : Nat} (hlo : lo ≤ mid) (hhi : mid ≤ hi) :
    xs.extract lo hi = xs.extract lo mid ++ xs.extract mid hi := by
  have hcount : hi - lo = (mid - lo) + (hi - mid) := by omega
  have hmid : lo + (mid - lo) = mid := by omega
  simp only [List.extract_eq_take_drop]
  rw [hcount, List.take_add, List.drop_drop, hmid]

/-- The number is that of the bytes between the places, if there are any. -/
theorem operandNumber_eq (hlo : IsPlace f.operands.length start lo)
    (hhi : IsEnd f.operands.length stop hi) :
    f.operandNumber start stop =
      if lo < hi then .ok (bigEndian (f.operands.extract lo hi)) else .error ⟨start, stop, f⟩ := by
  have hcount : (f.operands.extract lo hi).length = hi - lo := length_extract f.operands hhi.le
  rw [operandNumber, slice_eq_extract hlo hhi]
  cases hbytes : f.operands.extract lo hi with
  | nil =>
    rw [hbytes, List.length_nil] at hcount
    rw [if_neg (by omega)]
  | cons b bytes =>
    rw [hbytes, List.length_cons] at hcount
    rw [if_pos (by omega)]

/-- There is no number exactly if no byte is between the places. -/
theorem operandNumber_eq_error_iff (hlo : IsPlace f.operands.length start lo)
    (hhi : IsEnd f.operands.length stop hi) :
    f.operandNumber start stop = .error ⟨start, stop, f⟩ ↔ hi ≤ lo := by
  rw [operandNumber_eq hlo hhi]
  by_cases hlt : lo < hi
  · simp [hlt]
  · simp [hlt]
    omega

/-- Bounds that mean the same places select the same number. -/
theorem operandNumber_congr {start' : Int} {stop' : Option Int}
    (hlo : IsPlace f.operands.length start lo) (hhi : IsEnd f.operands.length stop hi)
    (hlo' : IsPlace f.operands.length start' lo) (hhi' : IsEnd f.operands.length stop' hi) :
    (f.operandNumber start' stop').toOption = (f.operandNumber start stop).toOption := by
  rw [operandNumber_eq hlo hhi, operandNumber_eq hlo' hhi']
  split <;> rfl

theorem operandNumber_of_lt (h : lo < hi) (hhi : hi ≤ f.operands.length) :
    f.operandNumber lo (some hi) = .ok (bigEndian (f.operands.extract lo hi)) := by
  rw [operandNumber_eq (.front (by omega)) (.given (.front hhi)), if_pos h]

/-- A number is made of the numbers on both sides of a place between. -/
theorem operandNumber_splits {mid : Nat} (hlo : lo < mid) (hhi : mid < hi)
    (hlast : hi ≤ f.operands.length) :
    ∃ high low, f.operandNumber lo (some mid) = .ok high ∧
      f.operandNumber mid (some hi) = .ok low ∧
        bigEndian (f.operands.extract lo hi) = high * 256 ^ (hi - mid) + low := by
  refine ⟨_, _, operandNumber_of_lt hlo (by omega), operandNumber_of_lt hhi hlast, ?_⟩
  rw [extract_append f.operands hlo.le hhi.le, bigEndian_append, length_extract f.operands hlast]

/-! ## The address among the operands -/

/-- The address is the number of the first two operand bytes, if there are two. -/
theorem operandAddress_cases (f : Frame) :
    (∃ a, f.operandAddress = .ok a ∧ 2 ≤ f.operands.length ∧
        f.operandNumber 0 (some 2) = .ok a.value) ∨
      f.operandAddress = .error (.tooShort f.operands.length) ∧ f.operands.length < 2 := by
  have hnumber (htwo : 2 ≤ f.operands.length) :
      f.operandNumber 0 (some 2) = .ok (bigEndian (f.operands.extract 0 2)) :=
    operandNumber_of_lt (by decide) htwo
  rw [operandAddress]
  match hbytes : f.operands with
  | [] => exact Or.inr ⟨rfl, by decide⟩
  | [b] => exact Or.inr ⟨rfl, by simp⟩
  | high :: low :: rest =>
    have htwo : 2 ≤ f.operands.length := by simp [hbytes]
    refine Or.inl ⟨_, rfl, by simp, (hnumber htwo).trans ?_⟩
    simp [bigEndian, List.extract_eq_take_drop, hbytes]

/-- What the operand bytes between two bounds are as a number.  Any two bounds mean places, and
there is a number exactly if a byte is between them.  Its digits in the base 256 are the bytes, the
first one the highest, and it is made of the numbers on both sides of any place between.  Bounds that
mean the same places select the same bytes and the same number.  The physical address is the number
of the first two bytes, and there is one exactly if there are two. -/
theorem operandNumber_composes (f : Frame) (start : Int) (stop : Option Int) :
    ∃ lo hi, IsPlace f.operands.length start lo ∧ IsEnd f.operands.length stop hi ∧
    (f.operandNumber start stop = .error ⟨start, stop, f⟩ ↔ hi ≤ lo) ∧
    (lo < hi → ∃ v, f.operandNumber start stop = .ok v ∧
      v = Nat.ofDigits 256 ((f.operands.extract lo hi).reverse.map UInt8.toNat) ∧
      v < 256 ^ (hi - lo) ∧ toBigEndian (hi - lo) v = f.operands.extract lo hi ∧
      ∀ mid, lo < mid → mid < hi → ∃ high low,
        f.operandNumber lo (some mid) = .ok high ∧ f.operandNumber mid (some hi) = .ok low ∧
          v = high * 256 ^ (hi - mid) + low) ∧
    (∀ start' stop', IsPlace f.operands.length start' lo → IsEnd f.operands.length stop' hi →
      slice f.operands start' stop' = slice f.operands start stop ∧
        (f.operandNumber start' stop').toOption = (f.operandNumber start stop).toOption) ∧
    (2 ≤ f.operands.length →
      ∃ a, f.operandAddress = .ok a ∧ f.operandNumber 0 (some 2) = .ok a.value) ∧
    (f.operandAddress = .error (.tooShort f.operands.length) ↔ f.operands.length < 2) := by
  obtain ⟨lo, hlo⟩ : ∃ lo, IsPlace f.operands.length start lo := ⟨_, isPlace_clampBound _ _⟩
  obtain ⟨hi, hhi⟩ := exists_isEnd f.operands.length stop
  refine ⟨lo, hi, hlo, hhi, operandNumber_eq_error_iff hlo hhi, ?_, ?_, ?_, ?_⟩
  · intro hlt
    have hcount : (f.operands.extract lo hi).length = hi - lo := length_extract f.operands hhi.le
    have hnumber := operandNumber_eq hlo hhi
    rw [if_pos hlt] at hnumber
    refine ⟨_, hnumber, bigEndian_eq_ofDigits _, ?_, ?_, ?_⟩
    · rw [← hcount]
      exact bigEndian_lt _
    · rw [← hcount]
      exact toBigEndian_bigEndian _
    · intro mid hmid hmid'
      exact operandNumber_splits hmid hmid' hhi.le
  · intro start' stop' hlo' hhi'
    refine ⟨?_, operandNumber_congr hlo hhi hlo' hhi'⟩
    rw [slice_eq_extract hlo' hhi', slice_eq_extract hlo hhi]
  · intro htwo
    rcases f.operandAddress_cases with ⟨a, ha, _, hnumber⟩ | ⟨_, hshort⟩
    · exact ⟨a, ha, hnumber⟩
    · omega
  · rcases f.operandAddress_cases with ⟨a, ha, htwo, _⟩ | ⟨herror, hshort⟩
    · simp only [ha, reduceCtorEq, false_iff]
      omega
    · exact iff_of_true herror hshort

/-- Counted from the back, two bounds select the first two of three bytes. -/
theorem operandNumber_composes_from_back :
    ∃ f : Frame, f.operands = [0x10, 0x20, 0x04] ∧ f.operandNumber (-3) (some (-1)) = .ok 0x1020 ∧
      toBigEndian 2 0x1020 = [0x10, 0x20] ∧
      ∃ a, f.operandAddress = .ok a ∧ f.operandNumber 0 (some 2) = .ok a.value := by
  let f : Frame := ⟨.playback1, .broadcast, .message 0x84 ⟨[0x10, 0x20, 0x04], by decide⟩, none⟩
  obtain ⟨lo, hi, hlo, hhi, _, hnumber, _, haddress, _⟩ := operandNumber_composes f (-3) (some (-1))
  obtain rfl : lo = 0 := hlo.clampBound_eq.symm.trans (by decide)
  obtain rfl : hi = 2 := by
    cases hhi with
    | given h => exact h.clampBound_eq.symm.trans (by decide)
  obtain ⟨v, hv, hdigits, _, hbytes, _⟩ := hnumber (by decide)
  obtain rfl : v = 0x1020 := hdigits.trans (by decide)
  exact ⟨f, rfl, hv, hbytes, haddress (by decide)⟩

end Numbers

end Frame

end CecBench
