import CecBench.Proofs.Address.Digits
import CecBench.Proofs.Text.LetterCase
import CecBench.Proofs.Text.Parts
import CecBench.Text.Quoted

/-!
# The spellings of a physical address

An address has four digits.  A text can spell them close together or with single dots between, each
digit in either case, with blanks around the whole.  The reader takes these texts and no others, and
reads each as the address with its digits (`parse_eq_ok_iff`).

An address is written in three ways: as its digits without dots, as its digits with dots, and as two
bytes.  Each of them is read back as the address.  The digits are those of its number
(`hexDigits_value`), so the three ways say the same, and two addresses are equal where their digits
are.  `parse_spellings` is all of this for any text.
-/

namespace CecBench

namespace PhysicalAddress

open Text

/-! ## Spellings -/

/-- The digits with single dots between them. -/
def dotted (digits : List Char) : List Char := join ['.'] (digits.map fun c => [c])

/-- The two ways to lay out digits. -/
inductive Layout (digits : List Char) : List Char → Prop
  | close : Layout digits digits
  | dotted : Layout digits (dotted digits)

/-- The character is a hexadecimal digit, in either case. -/
def IsHex (c : Char) : Prop := ∃ n < 16, IsHexDigit n c

/-- The text is four hexadecimal digits of either case in one of the two layouts. -/
structure IsSpelling (digits s : List Char) : Prop where
  /-- There are four. -/
  count : digits.length = 4
  /-- Each is a digit. -/
  hex : ∀ c ∈ digits, IsHex c
  /-- They are laid out. -/
  layout : Layout digits s

instance (digits s : List Char) : Decidable (Layout digits s) :=
  decidable_of_iff (s = digits ∨ s = dotted digits)
    ⟨fun h => h.elim (fun h => h ▸ .close) (fun h => h ▸ .dotted),
      fun h => by cases h <;> simp⟩

instance (c : Char) : Decidable (IsHex c) :=
  inferInstanceAs (Decidable (∃ n < 16, IsHexDigit n c))

-- The digits are looked at one by one, and no other character.
instance (digits s : List Char) : Decidable (IsSpelling digits s) :=
  have := List.decidableBAll IsHex digits
  decidable_of_iff (digits.length = 4 ∧ (∀ c ∈ digits, IsHex c) ∧ Layout digits s)
    ⟨fun ⟨hcount, hhex, hlayout⟩ => ⟨hcount, hhex, hlayout⟩,
      fun ⟨hcount, hhex, hlayout⟩ => ⟨hcount, hhex, hlayout⟩⟩

/-- The address has these digits, each in either case. -/
def HasDigits (a : PhysicalAddress) (digits : List Char) : Prop :=
  List.Forall₂ IsHexDigit a.nibbles digits

/-! ## Digits and numbers -/

theorem nibble_lt {a : PhysicalAddress} {n : Nat} (hn : n ∈ a.nibbles) : n < 16 := by
  simp only [nibbles, List.mem_cons, List.not_mem_nil, or_false] at hn
  omega

@[simp] theorem nibbles_ofNibbles (a b c d : Fin 16) :
    (ofNibbles a b c d).nibbles = [a.val, b.val, c.val, d.val] := by
  simp only [nibbles, ofNibbles, List.cons.injEq, and_true]
  omega

/-- An address is what its digits are. -/
theorem eq_of_nibbles {a b : PhysicalAddress} (h : a.nibbles = b.nibbles) : a = b := by
  have ha := a.value_lt
  have hb := b.value_lt
  simp only [nibbles, List.cons.injEq, and_true] at h
  have hvalue : a.value = b.value := by omega
  cases a
  cases b
  simp_all

/-- One digit less is written of a sixteenth. -/
theorem hexDigits_succ {width n : Nat} :
    hexDigits (width + 2) n = hexDigits (width + 1) (n / 16) ++ [Nat.digitChar (n % 16)] := by
  by_cases hn : n < 16
  · have hdiv : n / 16 = 0 := by omega
    have hmod : n % 16 = n := by omega
    simp [hexDigits, Nat.toDigits_of_lt_base hn, hdiv, hmod, List.replicate_succ']
  · have hdigits : Nat.toDigits 16 n = Nat.toDigits 16 (n / 16) ++ [Nat.digitChar (n % 16)] :=
      Nat.toDigits_of_base_le (by decide) (by omega)
    simp [hexDigits, hdigits]

/-- The digits of an address are those of its number, filled up with zeros to four. -/
theorem hexDigits_value (a : PhysicalAddress) :
    hexDigits 4 a.value = a.nibbles.map Nat.digitChar := by
  have ha := a.value_lt
  have hfirst : a.value / 16 / 16 / 16 < 16 := by omega
  have hone (n : Nat) (hn : n < 16) : hexDigits 1 n = [Nat.digitChar n] := by
    simp [hexDigits, Nat.toDigits_of_lt_base hn]
  rw [hexDigits_succ, hexDigits_succ, hexDigits_succ, hone _ hfirst]
  simp only [nibbles, List.map_cons, List.map_nil, List.cons_append, List.nil_append]
  congr 3 <;> omega

/-! ## Digits in either case -/

section Digits

variable {digits s : List Char} {a : PhysicalAddress}

theorem HasDigits.hex (h : a.HasDigits digits) : ∀ c ∈ digits, IsHex c := by
  intro c hc
  obtain ⟨n, hn, hdigit⟩ := exists_of_forall₂ h c hc
  exact ⟨n, nibble_lt hn, hdigit⟩

theorem HasDigits.not_mem_dot (h : a.HasDigits digits) : '.' ∉ digits := by
  intro hdot
  obtain ⟨n, hn, hdigit⟩ := h.hex '.' hdot
  have hnone : hexValue? '.' = none := by decide
  rw [hexValue?_of_isHexDigit (n := ⟨n, hn⟩) hdigit] at hnone
  cases hnone

/-- In small letters the digits are those that the address is written with. -/
theorem HasDigits.lower (h : a.HasDigits digits) :
    Text.lower digits = a.nibbles.map Nat.digitChar := by
  have hascii : IsAscii digits := by
    intro c hc
    obtain ⟨n, hn, hdigit⟩ := h.hex c hc
    exact (hdigit.plain hn).1
  rw [lower_of_ascii hascii]
  exact map_eq_of_forall₂ h fun _ hn _ hdigit => hdigit.toLower (nibble_lt hn)

/-- The digits that the address is written with are its digits. -/
theorem hasDigits_digitChar (a : PhysicalAddress) : a.HasDigits (a.nibbles.map Nat.digitChar) := by
  rw [HasDigits, List.forall₂_map_right_iff, List.forall₂_same]
  intro n _
  exact Or.inl rfl

/-- No blank is in a spelling. -/
theorem Layout.trim_eq_self (h : a.HasDigits digits) (hs : Layout digits s) : trim s = s := by
  have hblank : ∀ c ∈ s, isBlank c = false := by
    have hdigits : ∀ c ∈ digits, isBlank c = false := by
      intro c hc
      obtain ⟨n, hn, hdigit⟩ := h.hex c hc
      exact (hdigit.plain hn).2.1
    cases hs with
    | close => exact hdigits
    | dotted =>
      intro c hc
      rcases mem_join hc with hc | ⟨g, hg, hc⟩
      · rw [List.mem_singleton.mp hc]
        decide
      · obtain ⟨d, hd, rfl⟩ := List.mem_map.mp hg
        exact hdigits c (List.mem_singleton.mp hc ▸ hd)
  exact trimBy_eq_self (fun c hc => hblank c (List.mem_of_mem_head? hc))
    fun c hc => hblank c (List.mem_of_mem_getLast? hc)

/-- Four digits of any kind are the digits of an address. -/
theorem isSpelling_iff : IsSpelling digits s ↔ (∃ a, HasDigits a digits) ∧ Layout digits s := by
  constructor
  · rintro ⟨hcount, hhex, hlayout⟩
    refine ⟨?_, hlayout⟩
    match digits, hcount with
    | [p, q, r, t], _ =>
      simp only [List.forall_mem_cons] at hhex
      obtain ⟨⟨k, hk, hp⟩, ⟨l, hl, hq⟩, ⟨m, hm, hr⟩, ⟨n, hn, ht⟩, _⟩ := hhex
      refine ⟨ofNibbles ⟨k, hk⟩ ⟨l, hl⟩ ⟨m, hm⟩ ⟨n, hn⟩, ?_⟩
      rw [HasDigits, nibbles_ofNibbles]
      exact .cons hp (.cons hq (.cons hr (.cons ht .nil)))
  · rintro ⟨⟨a, hdigits⟩, hlayout⟩
    exact ⟨hdigits.length_eq.symm, hdigits.hex, hlayout⟩

end Digits

/-! ## What a spelling is read as -/

theorem ofPieces?_eq_some_iff {pieces : List (List Char)} {a : PhysicalAddress} :
    ofPieces? pieces = some a ↔
      ∃ digits, a.HasDigits digits ∧ pieces = digits.map fun c => [c] := by
  constructor
  · intro h
    fun_cases ofPieces? pieces with
    | case1 p q r s =>
      simp only [ofPieces?, Option.bind_eq_bind, Option.bind_eq_some_iff,
        hexValue?_eq_some_iff] at h
      obtain ⟨k, hp, l, hq, m, hr, n, hs, heq⟩ := h
      cases heq
      refine ⟨[p, q, r, s], ?_, rfl⟩
      rw [HasDigits, nibbles_ofNibbles]
      exact .cons hp (.cons hq (.cons hr (.cons hs .nil)))
    | case2 => simp_all [ofPieces?]
  · rintro ⟨digits, hdigits, rfl⟩
    have hdigits' : List.Forall₂ IsHexDigit a.nibbles digits := hdigits
    simp only [nibbles, List.forall₂_cons_left_iff, List.forall₂_nil_left_iff] at hdigits'
    obtain ⟨p, _, hp, ⟨q, _, hq, ⟨r, _, hr, ⟨t, _, ht, rfl, rfl⟩, rfl⟩, rfl⟩, rfl⟩ := hdigits'
    have hp := hexValue?_of_isHexDigit (n := ⟨_, by omega⟩) hp
    have hq := hexValue?_of_isHexDigit (n := ⟨_, by omega⟩) hq
    have hr := hexValue?_of_isHexDigit (n := ⟨_, by omega⟩) hr
    have ht := hexValue?_of_isHexDigit (n := ⟨_, by omega⟩) ht
    simp only [List.map_cons, List.map_nil, ofPieces?, hp, hq, hr, ht]
    refine congrArg some (eq_of_nibbles ?_)
    rw [nibbles_ofNibbles]
    rfl

/-- What the reader takes for the digits of a text. -/
def cut (raw : List Char) : List (List Char) :=
  if raw.contains '.' then split '.' raw else raw.map fun c => [c]

/-- Cutting gives the digits one by one exactly if the text lays them out. -/
theorem cut_eq_iff {digits raw : List Char} (hdot : '.' ∉ digits) (hcount : 2 ≤ digits.length) :
    cut raw = digits.map (fun c => [c]) ↔ Layout digits raw := by
  constructor
  · intro h
    rw [cut] at h
    split at h
    · have hraw := join_split '.' raw
      rw [h] at hraw
      exact hraw ▸ .dotted
    · have hraw : raw = digits := List.map_injective_iff.mpr List.singleton_injective h
      exact hraw ▸ .close
  · intro h
    cases h with
    | close => simp [cut, hdot]
    | dotted =>
      have hcut : (dotted digits).contains '.' = true := by
        match digits, hcount with
        | p :: q :: rest, _ => simp [dotted, join]
      rw [cut, if_pos hcut, dotted, split_join]
      · intro heq
        rw [List.map_eq_nil_iff.mp heq] at hcount
        cases hcount
      · intro g hg
        obtain ⟨c, hc, rfl⟩ := List.mem_map.mp hg
        rw [List.mem_singleton]
        exact fun h => hdot (h ▸ hc)

theorem parse_cases (text : String) :
    (∃ a, ofPieces? (cut (trim text.toList)) = some a ∧ parse text = .ok a) ∨
      ofPieces? (cut (trim text.toList)) = none ∧ parse text = .error (.unreadable text) := by
  cases hread : ofPieces? (cut (trim text.toList)) with
  | some a =>
    rw [cut] at hread
    exact Or.inl ⟨a, rfl, by simp only [parse, hread]⟩
  | none =>
    rw [cut] at hread
    exact Or.inr ⟨rfl, by simp only [parse, hread]⟩

/-- A text is read as an address exactly if it lays out the address's digits. -/
theorem parse_eq_ok_iff {text : String} {a : PhysicalAddress} :
    parse text = .ok a ↔ ∃ digits, a.HasDigits digits ∧ Layout digits (trim text.toList) := by
  have hread : parse text = .ok a ↔ ofPieces? (cut (trim text.toList)) = some a := by
    rcases parse_cases text with ⟨b, hb, hparse⟩ | ⟨hnone, hparse⟩
    · simp [hb, hparse]
    · simp [hnone, hparse]
  rw [hread, ofPieces?_eq_some_iff]
  refine exists_congr fun digits => and_congr_right fun hdigits => ?_
  have hcount : digits.length = 4 := hdigits.length_eq.symm
  exact cut_eq_iff hdigits.not_mem_dot (by omega)

/-- A text is read exactly if it is a spelling. -/
theorem exists_parse_iff {text : String} :
    (∃ a, parse text = .ok a) ↔ ∃ digits, IsSpelling digits (trim text.toList) := by
  simp only [parse_eq_ok_iff, isSpelling_iff]
  constructor
  · rintro ⟨a, digits, hdigits, hlayout⟩
    exact ⟨digits, ⟨a, hdigits⟩, hlayout⟩
  · rintro ⟨digits, ⟨a, hdigits⟩, hlayout⟩
    exact ⟨a, digits, hdigits, hlayout⟩

/-- Any other text is unreadable. -/
theorem parse_eq_error {text : String} (h : ¬ ∃ digits, IsSpelling digits (trim text.toList)) :
    parse text = .error (.unreadable text) := by
  rcases parse_cases text with ⟨a, _, hparse⟩ | ⟨_, hparse⟩
  · exact absurd (exists_parse_iff.mp ⟨a, hparse⟩) h
  · exact hparse

/-! ## Renderings -/

section Renderings

variable {a b : PhysicalAddress} {digits digits' s : List Char}

/-- The address is read from its digits however they are laid out. -/
theorem parse_of_layout (h : a.HasDigits digits) (hs : Layout digits s) :
    parse (String.ofList s) = .ok a := by
  rw [parse_eq_ok_iff, String.toList_ofList, hs.trim_eq_self h]
  exact ⟨digits, h, hs⟩

theorem HasDigits.argument_eq (h : a.HasDigits digits) :
    a.argument = String.ofList (Text.lower digits) := by
  rw [h.lower, argument]

theorem HasDigits.text_eq (h : a.HasDigits digits) :
    a.text = String.ofList (dotted (Text.lower digits)) := by
  rw [h.lower, text, dotted, List.map_map]
  rfl

theorem parse_argument (a : PhysicalAddress) : parse a.argument = .ok a :=
  parse_of_layout a.hasDigits_digitChar .close

theorem parse_text (a : PhysicalAddress) : parse a.text = .ok a := by
  have hlower : Text.lower (a.nibbles.map Nat.digitChar) = a.nibbles.map Nat.digitChar :=
    a.hasDigits_digitChar.lower
  rw [a.hasDigits_digitChar.text_eq, hlower]
  exact parse_of_layout a.hasDigits_digitChar .dotted

theorem ofBytes_bytes (a : PhysicalAddress) (behind : List UInt8) :
    ofBytes (a.bytes ++ behind) = .ok a := by
  have ha := a.value_lt
  simp only [bytes, List.cons_append, List.nil_append, ofBytes, UInt8.toNat_ofNat']
  congr 2
  omega

theorem hasDigits_of_parse {text : String} (h : parse text = .ok a)
    (hs : IsSpelling digits (trim text.toList)) : a.HasDigits digits := by
  obtain ⟨⟨b, hb⟩, hlayout⟩ := isSpelling_iff.mp hs
  have hread : parse text = .ok b := parse_eq_ok_iff.mpr ⟨digits, hb, hlayout⟩
  cases h.symm.trans hread
  exact hb

/-- Addresses are equal exactly if their digits are, up to case. -/
theorem HasDigits.eq_iff (h : a.HasDigits digits) (h' : b.HasDigits digits') :
    a = b ↔ Text.lower digits = Text.lower digits' := by
  constructor
  · rintro rfl
    rw [h.lower, h'.lower]
  · intro hlower
    have hsame : a.argument = b.argument := by rw [h.argument_eq, h'.argument_eq, hlower]
    have hread := parse_argument a
    rw [hsame, parse_argument b] at hread
    exact (Except.ok.inj hread).symm

end Renderings

/-- Which texts are read as addresses, how the others are refused, and how an address is written.
Every way of writing it shows the digits that it was read from, in small letters, and is read back
as the address, whatever stands behind its two bytes.  The digits are those of its number, and
nothing but their case can differ between two texts of one address. -/
theorem parse_spellings (text : String) :
    ((∃ a, parse text = .ok a) ↔ ∃ digits, IsSpelling digits (trim text.toList)) ∧
    ((¬ ∃ digits, IsSpelling digits (trim text.toList)) →
      parse text = .error (.unreadable text)) ∧
    ∀ a digits, parse text = .ok a → IsSpelling digits (trim text.toList) →
      a.argument = String.ofList (lower digits) ∧
      a.text = String.ofList (dotted (lower digits)) ∧
      hexDigits 4 a.value = lower digits ∧
      parse a.argument = .ok a ∧ parse a.text = .ok a ∧
      (∀ behind, ofBytes (a.bytes ++ behind) = .ok a) ∧
      ∀ text' a' digits', parse text' = .ok a' → IsSpelling digits' (trim text'.toList) →
        (a = a' ↔ lower digits = lower digits') := by
  refine ⟨exists_parse_iff, parse_eq_error, ?_⟩
  intro a digits hread hspelling
  have hdigits := hasDigits_of_parse hread hspelling
  refine ⟨hdigits.argument_eq, hdigits.text_eq, ?_, parse_argument a, parse_text a,
    ofBytes_bytes a, ?_⟩
  · rw [hexDigits_value, hdigits.lower]
  · intro text' a' digits' hread' hspelling'
    exact hdigits.eq_iff (hasDigits_of_parse hread' hspelling')

/-- Dots, blanks around and the case of the letters make no difference. -/
theorem parse_spellings_of_mixed_case :
    ∃ a, parse "\t1.A.0.f\n" = .ok a ∧ a.argument = "1a0f" ∧ a.text = "1.a.0.f" ∧
      parse "1a0F" = .ok a := by
  have hdotted : IsSpelling ['1', 'A', '0', 'f'] (trim "\t1.A.0.f\n".toList) := by decide
  have hclose : IsSpelling ['1', 'a', '0', 'F'] (trim "1a0F".toList) := by decide
  have hlower : lower ['1', 'A', '0', 'f'] = ['1', 'a', '0', 'f'] := by decide
  have hlower' : lower ['1', 'a', '0', 'F'] = ['1', 'a', '0', 'f'] := by decide
  obtain ⟨a, ha⟩ := (parse_spellings "\t1.A.0.f\n").1.mpr ⟨_, hdotted⟩
  obtain ⟨b, hb⟩ := (parse_spellings "1a0F").1.mpr ⟨_, hclose⟩
  obtain ⟨hargument, htext, _, _, _, _, hsame⟩ :=
    (parse_spellings "\t1.A.0.f\n").2.2 a _ ha hdotted
  obtain rfl := (hsame _ b _ hb hclose).mpr (hlower.trans hlower'.symm)
  refine ⟨a, ha, ?_, ?_, hb⟩
  · rw [hargument, hlower]
  · rw [htext, hlower]
    decide

end PhysicalAddress

end CecBench
