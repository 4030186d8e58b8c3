import CecBench.Text.LetterCase

/-!
# Laws of small letters

The small form of a text can be longer than the text, and a sigma looks at what
stands around it.  Neither reaches an ASCII character: its small form is its own
wherever it stands, so that an ASCII text within a text has its small form
within the small form of the whole (`map_toLower_infix_lower`).  No capital
ASCII letter is left in a small form, hence a marker in small letters is found
wherever a text stands that differs from it in the case of ASCII letters only
(`IsCaseVariant.infix_lower`).
-/

namespace CecBench.Text

variable {s x : List Char}

/-- Every character of the text is ASCII. -/
def IsAscii (s : List Char) : Prop := ∀ c ∈ s, c.toNat < 0x80

/-- The texts differ at most in the case of ASCII letters. -/
def IsCaseVariant (x s : List Char) : Prop := x.map Char.toLower = s.map Char.toLower

-- The members are looked at one by one.  Characters can also be enumerated, which takes far too long.
instance : Decidable (IsAscii s) :=
  List.decidableBAll (p := fun c : Char => c.toNat < 0x80) s

instance : Decidable (IsCaseVariant x s) :=
  inferInstanceAs (Decidable (x.map Char.toLower = s.map Char.toLower))

/-! ## Capital ASCII letters -/

/-- The character is a capital ASCII letter. -/
def IsCapital (c : Char) : Prop := 'A'.toNat ≤ c.toNat ∧ c.toNat ≤ 'Z'.toNat

theorem toLower_of_not_capital {c : Char} (h : ¬ IsCapital c) : c.toLower = c :=
  dif_neg h

theorem toNat_toLower_of_capital {c : Char} (h : IsCapital c) :
    c.toLower.toNat = c.toNat + 0x20 := by
  have hlower : c.toLower = _ := dif_pos ⟨h.1, h.2⟩
  rw [hlower]
  change (c.val + 0x20).toNat = c.val.toNat + 0x20
  have hlast : c.val.toNat ≤ 90 := h.2
  rw [UInt32.toNat_add]
  change (c.val.toNat + 0x20) % 2 ^ 32 = _
  omega

theorem not_capital_toLower (c : Char) : ¬ IsCapital c.toLower := by
  by_cases h : IsCapital c
  · rw [IsCapital, toNat_toLower_of_capital h]
    have hfirst : 65 ≤ c.toNat := h.1
    rintro ⟨_, hlast⟩
    have hlast : c.toNat + 0x20 ≤ 90 := hlast
    omega
  · rwa [toLower_of_not_capital h]

theorem toNat_le_toLower (c : Char) : c.toNat ≤ c.toLower.toNat := by
  by_cases h : IsCapital c
  · rw [toNat_toLower_of_capital h]
    exact Nat.le_add_right ..
  · exact Nat.le_of_eq (congrArg Char.toNat (toLower_of_not_capital h).symm)

/-! ## Small forms -/

/-- No distance in the table leads to a capital ASCII letter or to a character before them. -/
theorem lt_shift_of_mem : ∀ r ∈ smallLetterRuns, ('Z'.toNat : Int) < r.first + r.shift := by
  decide +kernel

theorem not_capital_ofNat {n : Nat} (h : 'Z'.toNat < n) : ¬ IsCapital (Char.ofNat n) := by
  by_cases hvalid : n.isValidChar
  · have hchar : Char.ofNat n = Char.ofNatAux n hvalid := dif_pos hvalid
    rw [hchar]
    intro hcapital
    have hlast : n ≤ 'Z'.toNat := hcapital.2
    exact absurd h (Nat.not_lt_of_le hlast)
  · have hchar : Char.ofNat n = ⟨0, by decide⟩ := dif_neg hvalid
    rw [hchar]
    exact fun hcapital => absurd hcapital.1 (by decide)

theorem not_capital_of_mem_lowerChar {c d : Char} (hd : d ∈ lowerChar c) : ¬ IsCapital d := by
  simp only [lowerChar] at hd
  split at hd
  · obtain rfl := List.mem_singleton.mp hd
    exact not_capital_toLower c
  · rename_i hwide
    split at hd
    · rcases List.mem_cons.mp hd with rfl | hd
      · exact not_capital_toLower 'I'
      · obtain rfl := List.mem_singleton.mp hd
        exact fun h => absurd h.2 (by decide)
    · split at hd
      · rename_i r hfind
        obtain rfl := List.mem_singleton.mp hd
        have hcovers := List.find?_some hfind
        rw [CaseRun.covers, Bool.and_eq_true, Bool.and_eq_true, decide_eq_true_eq] at hcovers
        have hfirst := hcovers.1.1
        have hshift := lt_shift_of_mem r (List.mem_of_find?_eq_some hfind)
        exact not_capital_ofNat (by omega)
      · obtain rfl := List.mem_singleton.mp hd
        exact fun h => hwide (Nat.lt_of_le_of_lt h.2 (by decide))

/-- No capital ASCII letter is left in a small form. -/
theorem not_capital_of_mem_lowerAfter {cased : Bool} {s : List Char} {d : Char}
    (hd : d ∈ lowerAfter cased s) : ¬ IsCapital d := by
  induction s generalizing cased with
  | nil => cases hd
  | cons c s ih =>
    rcases List.mem_append.mp hd with hd | hd
    · have hsigma : ¬ IsCapital 'ς' ∧ ¬ IsCapital 'σ' :=
        ⟨fun h => absurd h.2 (by decide), fun h => absurd h.2 (by decide)⟩
      split at hd
      · split at hd
        · exact List.mem_singleton.mp hd ▸ hsigma.1
        · exact List.mem_singleton.mp hd ▸ hsigma.2
      · exact not_capital_of_mem_lowerChar hd
    · exact ih hd

/-- Taking the small form of each character changes a small form no more. -/
theorem map_toLower_lower (s : List Char) : (lower s).map Char.toLower = lower s := by
  have h := List.map_congr_left fun d (hd : d ∈ lower s) =>
    toLower_of_not_capital (not_capital_of_mem_lowerAfter hd)
  rw [h, List.map_id']

/-! ## ASCII characters among others -/

/-- The small form goes on behind any start of a text. -/
theorem lowerAfter_append (cased : Bool) (s rest : List Char) :
    ∃ front cased', lowerAfter cased (s ++ rest) = front ++ lowerAfter cased' rest := by
  induction s generalizing cased with
  | nil => exact ⟨[], cased, rfl⟩
  | cons c s ih =>
    obtain ⟨front, cased', h⟩ := ih (if isCaseIgnorable c then cased else isCased c)
    rw [List.cons_append, lowerAfter, h, ← List.append_assoc]
    exact ⟨_, cased', rfl⟩

/-- The small form of ASCII characters is their own, whatever stands around them. -/
theorem lowerAfter_ascii_append (cased : Bool) (h : IsAscii s) (rest : List Char) :
    ∃ cased', lowerAfter cased (s ++ rest) = s.map Char.toLower ++ lowerAfter cased' rest := by
  induction s generalizing cased with
  | nil => exact ⟨cased, rfl⟩
  | cons c s ih =>
    have hc := h c (List.mem_cons_self ..)
    have hsigma : c ≠ 'Σ' := by
      rintro rfl
      exact absurd hc (by decide)
    obtain ⟨cased', hs⟩ := ih (if isCaseIgnorable c then cased else isCased c)
      fun d hd => h d (List.mem_cons_of_mem _ hd)
    refine ⟨cased', ?_⟩
    rw [List.cons_append, lowerAfter, if_neg hsigma, lowerChar, if_pos hc, hs]
    rfl

theorem lowerAfter_of_ascii (h : IsAscii s) (cased : Bool) :
    lowerAfter cased s = s.map Char.toLower := by
  obtain ⟨cased', heq⟩ := lowerAfter_ascii_append cased h []
  rwa [List.append_nil, lowerAfter, List.append_nil] at heq

/-- The small form of an ASCII text is that of each of its characters. -/
theorem lower_of_ascii (h : IsAscii s) : lower s = s.map Char.toLower :=
  lowerAfter_of_ascii h false

/-- An ASCII text within a text has its small form within that text's small form. -/
theorem map_toLower_infix_lower (h : IsAscii x) (hx : x <:+: s) :
    x.map Char.toLower <:+: lower s := by
  obtain ⟨before, behind, rfl⟩ := hx
  obtain ⟨front, cased, hfront⟩ := lowerAfter_append false before (x ++ behind)
  obtain ⟨cased', hmiddle⟩ := lowerAfter_ascii_append cased h behind
  refine ⟨front, lowerAfter cased' behind, ?_⟩
  rw [lower, List.append_assoc before, hfront, hmiddle, List.append_assoc]

theorem IsCaseVariant.isAscii (hx : IsCaseVariant x s) (h : IsAscii s) : IsAscii x := by
  intro c hc
  have hmem : c.toLower ∈ s.map Char.toLower := hx ▸ List.mem_map_of_mem hc
  obtain ⟨d, hd, heq⟩ := List.mem_map.mp hmem
  have hsmall : d.toLower.toNat < 0x80 := by
    by_cases hcapital : IsCapital d
    · rw [toNat_toLower_of_capital hcapital]
      exact Nat.lt_of_le_of_lt (Nat.add_le_add_right hcapital.2 _) (by decide)
    · rw [toLower_of_not_capital hcapital]
      exact h d hd
  exact Nat.lt_of_le_of_lt (heq ▸ toNat_le_toLower c) hsmall

/-- A variant of a marker in small letters is found wherever it stands. -/
theorem IsCaseVariant.infix_lower {marker : List Char} (hx : IsCaseVariant x marker)
    (hmarker : marker.map Char.toLower = marker) (h : IsAscii marker) (hs : x <:+: s) :
    marker <:+: lower s := by
  have := map_toLower_infix_lower (hx.isAscii h) hs
  rwa [hx, hmarker] at this

end CecBench.Text
