import CecBench.Text.Printable
import CecBench.Text.Search

/-!
# Quoted text

A message shows a text it was given between quotes, so that blanks at its ends and characters
without a shape can be seen.  The quotes are single, and double if the text holds a single quote and
no double one.  The backslash and the quote in use are written after a backslash, a tab and the two
line ends as letters, and every other character that is not printable by its code point, in two,
four or eight digits.  A list of texts stands in brackets.
-/

namespace CecBench.Text

/-- The lower-case hexadecimal digits of a number, filled up with zeros to a width. -/
def hexDigits (width : Nat) (n : Nat) : List Char :=
  let digits := Nat.toDigits 16 n
  List.replicate (width - digits.length) '0' ++ digits

/-- The code point of a character after a backslash. -/
def codePointEscape (c : Char) : List Char :=
  let n := c.toNat
  if n ≤ 0xFF then '\\' :: 'x' :: hexDigits 2 n
  else if n ≤ 0xFFFF then '\\' :: 'u' :: hexDigits 4 n
  else '\\' :: 'U' :: hexDigits 8 n

/-- A character as it stands between the given quotes. -/
def quotedChar (mark c : Char) : List Char :=
  if c = mark ∨ c = '\\' then ['\\', c]
  else if c = '\t' then ['\\', 't']
  else if c = '\n' then ['\\', 'n']
  else if c = '\r' then ['\\', 'r']
  else if isPrintable c then [c]
  else codePointEscape c

/-- The quotes that a text is put between. -/
def quoteMark (s : List Char) : Char :=
  if s.contains '\'' && !s.contains '"' then '"' else '\''

/-- A text between quotes. -/
def quotedChars (s : List Char) : List Char :=
  let mark := quoteMark s
  mark :: s.flatMap (quotedChar mark) ++ [mark]

/-- A text between quotes. -/
def quoted (s : String) : String := String.ofList (quotedChars s.toList)

/-- Texts between quotes, in brackets. -/
def quotedList (texts : List String) : String :=
  "[" ++ ", ".intercalate (texts.map quoted) ++ "]"

example : quotedChars "it's".toList = "\"it's\"".toList := by decide +kernel

example : quotedChars ['a', '\t', '\\', '\x00'] = "'a\\t\\\\\\x00'".toList := by decide +kernel

end CecBench.Text
