import CecBench.Text.LetterCase.Table

/-!
# Small and capital letters

`lower` is the full lower-case mapping: each capital letter goes to its small letter, `İ` goes to
`i` with a dot above, and a capital sigma that ends a word goes to the final sigma.  A sigma ends a
word when the nearest character before it is cased and the nearest one after it is not, with the
characters that case rules look through left out.

`capitals` is used to look up names of ASCII letters.  It maps the characters whose capital form is
ASCII, and leaves every other character as it is, for such a character occurs in no name.
-/

namespace CecBench.Text

/-- The character is cased, and case rules do not look through it. -/
def isCased (c : Char) : Bool := inRanges casedRanges c.toNat

/-- Case rules look through the character. -/
def isCaseIgnorable (c : Char) : Bool := inRanges caseIgnorableRanges c.toNat

/-- The small form of one character, wherever it stands. -/
def lowerChar (c : Char) : List Char :=
  let n := c.toNat
  if n < 0x80 then [c.toLower]
  else if c = 'İ' then ['i', '\u0307']
  else
    match smallLetterRuns.find? fun r => r.covers n with
    | some r => [Char.ofNat (n + r.shift).toNat]
    | none => [c]

/-- The nearest character that case rules do not look through is cased. -/
def startsCased : List Char → Bool
  | [] => false
  | c :: rest => if isCaseIgnorable c then startsCased rest else isCased c

/-- The small form of a text, where the flag says that the text before it ends cased. -/
def lowerAfter : Bool → List Char → List Char
  | _, [] => []
  | cased, c :: rest =>
    let small :=
      if c = 'Σ' then (if cased && !startsCased rest then ['ς'] else ['σ']) else lowerChar c
    small ++ lowerAfter (if isCaseIgnorable c then cased else isCased c) rest

/-- The small form of a text. -/
def lower (s : List Char) : List Char := lowerAfter false s

/-- The capital form of a character, where that form is ASCII. -/
def capital (c : Char) : List Char :=
  if c.toNat < 0x80 then [c.toUpper]
  else if c = 'ß' then ['S', 'S']
  else if c = 'ı' then ['I']
  else if c = 'ſ' then ['S']
  else if c = 'ﬀ' then ['F', 'F']
  else if c = 'ﬁ' then ['F', 'I']
  else if c = 'ﬂ' then ['F', 'L']
  else if c = 'ﬃ' then ['F', 'F', 'I']
  else if c = 'ﬄ' then ['F', 'F', 'L']
  else if c = 'ﬅ' then ['S', 'T']
  else if c = 'ﬆ' then ['S', 'T']
  else [c]

/-- The capital form of a text, as far as it is ASCII. -/
def capitals (s : List Char) : List Char := s.flatMap capital

example : lower "AΣ".toList = "aς".toList ∧ lower "ΣA".toList = "σa".toList := by decide +kernel

example : lower "PRÊT".toList = "prêt".toList := by decide +kernel

end CecBench.Text
