/-!
# Blank characters

White space is the Unicode property `White_Space`.  The console's grammars and trimming count the
four information separators U+001C to U+001F as well, numerals do not, so the two classes are kept
apart.  `trim` takes the blanks off both ends of a text and touches nothing between.
-/

namespace CecBench.Text

/-- White space, as the Unicode property `White_Space` has it. -/
def isWhite (c : Char) : Bool :=
  let n := c.toNat
  (0x09 ≤ n && n ≤ 0x0D) || n == 0x20 || n == 0x85 || n == 0xA0 || n == 0x1680 ||
    (0x2000 ≤ n && n ≤ 0x200A) || n == 0x2028 || n == 0x2029 || n == 0x202F || n == 0x205F ||
    n == 0x3000

/-- White space or one of the four information separators. -/
def isBlank (c : Char) : Bool :=
  isWhite c || (0x1C ≤ c.toNat && c.toNat ≤ 0x1F)

/-- The text without the characters of the class that end it. -/
def dropTrailing (p : Char → Bool) (s : List Char) : List Char :=
  (s.reverse.dropWhile p).reverse

/-- The text without the characters of the class at either end. -/
def trimBy (p : Char → Bool) (s : List Char) : List Char :=
  dropTrailing p (s.dropWhile p)

/-- The text without the blanks at either end. -/
def trim (s : List Char) : List Char := trimBy isBlank s

example : trim ['\t', ' ', 'a', ' ', 'b', '\x1f', '\n'] = ['a', ' ', 'b'] := by decide

end CecBench.Text
