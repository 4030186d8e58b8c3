import CecBench.Address.Physical
import Mathlib.Data.List.Forall2

/-!
# Hexadecimal digits

Addresses and bytes are read from hexadecimal digits of either case.  `IsHexDigit` says which
characters are the digit of a number, and the reader takes these and no others
(`hexValue?_eq_some_iff`).  In small letters a digit is the one that is written.

Digits stand in a text in the order of their numbers, so the last section has two laws of lists
whose members correspond one by one.
-/

namespace CecBench

/-! ## One digit -/

/-- The character is the hexadecimal digit of the number, in either case. -/
def IsHexDigit (n : Nat) (c : Char) : Prop :=
  c = Nat.digitChar n ∨ c = (Nat.digitChar n).toUpper

instance (n : Nat) (c : Char) : Decidable (IsHexDigit n c) :=
  inferInstanceAs (Decidable (_ ∨ _))

theorem hexValue?_of_isHexDigit {n : Fin 16} {c : Char} (h : IsHexDigit n c) :
    PhysicalAddress.hexValue? c = some n := by
  have hall : ∀ n : Fin 16, PhysicalAddress.hexValue? (Nat.digitChar n) = some n ∧
      PhysicalAddress.hexValue? (Nat.digitChar n).toUpper = some n := by
    decide
  rcases h with rfl | rfl
  · exact (hall n).1
  · exact (hall n).2

/-- A character between two others is so many places behind the first. -/
theorem eq_ofNat_of_between {first last c : Char} (h : first ≤ c ∧ c ≤ last) :
    ∃ k < last.toNat + 1 - first.toNat, c = Char.ofNat (first.toNat + k) := by
  have hfirst : first.toNat ≤ c.toNat := h.1
  have hlast : c.toNat ≤ last.toNat := h.2
  refine ⟨c.toNat - first.toNat, by omega, ?_⟩
  rw [Nat.add_sub_cancel' hfirst, Char.ofNat_toNat]

theorem isHexDigit_of_hexValue? {n : Fin 16} {c : Char}
    (h : PhysicalAddress.hexValue? c = some n) : IsHexDigit n c := by
  unfold PhysicalAddress.hexValue? at h
  split at h
  · rename_i hc
    obtain ⟨k, hk, rfl⟩ := eq_ofNat_of_between hc
    cases h
    revert k
    decide
  · split at h
    · rename_i hc
      obtain ⟨k, hk, rfl⟩ := eq_ofNat_of_between hc
      cases h
      revert k
      decide
    · split at h
      · rename_i hc
        obtain ⟨k, hk, rfl⟩ := eq_ofNat_of_between hc
        cases h
        revert k
        decide
      · cases h

/-- An ASCII character that is neither a blank nor a colon. -/
def IsPlain (c : Char) : Prop := c.toNat < 0x80 ∧ Text.isBlank c = false ∧ c ≠ ':'

instance (c : Char) : Decidable (IsPlain c) := inferInstanceAs (Decidable (_ ∧ _ ∧ _))

theorem IsHexDigit.plain {n : Nat} (hn : n < 16) {c : Char} (h : IsHexDigit n c) : IsPlain c := by
  have hall : ∀ n < 16, IsPlain (Nat.digitChar n) ∧ IsPlain (Nat.digitChar n).toUpper := by
    decide
  rcases h with rfl | rfl
  · exact (hall n hn).1
  · exact (hall n hn).2

theorem IsHexDigit.toLower {n : Nat} (hn : n < 16) {c : Char} (h : IsHexDigit n c) :
    c.toLower = Nat.digitChar n := by
  have hall : ∀ n < 16, (Nat.digitChar n).toLower = Nat.digitChar n ∧
      (Nat.digitChar n).toUpper.toLower = Nat.digitChar n := by
    decide
  rcases h with rfl | rfl
  · exact (hall n hn).1
  · exact (hall n hn).2

/-- The reader takes a character for a digit exactly if it is that digit, in either case. -/
theorem hexValue?_eq_some_iff {n : Fin 16} {c : Char} :
    PhysicalAddress.hexValue? c = some n ↔ IsHexDigit n c :=
  ⟨isHexDigit_of_hexValue?, hexValue?_of_isHexDigit⟩

/-! ## Digits in order -/

section InOrder

variable {α β γ : Type} {R : α → β → Prop} {xs : List α} {ys : List β}

/-- Each of the second members has its first one. -/
theorem exists_of_forall₂ (h : List.Forall₂ R xs ys) : ∀ y ∈ ys, ∃ x ∈ xs, R x y := by
  induction h with
  | nil => exact List.forall_mem_nil _
  | cons hx _ ih =>
    refine List.forall_mem_cons.mpr ⟨⟨_, List.mem_cons_self .., hx⟩, ?_⟩
    intro y hy
    obtain ⟨x, hmem, hxy⟩ := ih y hy
    exact ⟨x, List.mem_cons_of_mem _ hmem, hxy⟩

/-- Where what becomes of two members that correspond is the same, the same becomes of the lists. -/
theorem map_eq_of_forall₂ {f : β → γ} {g : α → γ} (h : List.Forall₂ R xs ys)
    (heq : ∀ x ∈ xs, ∀ y, R x y → f y = g x) : ys.map f = xs.map g := by
  induction h with
  | nil => rfl
  | cons hx _ ih =>
    rw [List.forall_mem_cons] at heq
    rw [List.map_cons, List.map_cons, heq.1 _ hx, ih heq.2]

end InOrder

end CecBench
