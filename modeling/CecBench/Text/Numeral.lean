import CecBench.Text.Blank
import CecBench.Text.DecimalDigit

/-!
# Numerals

`readDecimal` and `readHex?` read a signed whole number.  White space may stand around it and a sign
before it, the digits may be of any script, and a single underscore may stand between two digits.  A
hexadecimal numeral may begin with `0x`, after which one underscore is allowed as well.

A decimal numeral has a greatest length, which counts its digits and nothing else.  A text that begins
with too many digits is too long whatever follows them.

`decimal` and `hex` write a number in the shortest way, with a minus sign if it is negative.
-/

namespace CecBench.Text

/-- A decimal digit of any script as its ASCII digit, and another character as it is. -/
def asciiDigit (c : Char) : Char :=
  match digitValue? c with
  | some d => Nat.digitChar d
  | none => c

/-- The value of an ASCII digit or letter that is a digit in the base. -/
def digitIn? (base : Nat) (c : Char) : Option Nat :=
  let value :=
    if '0' ≤ c ∧ c ≤ '9' then some (c.toNat - 48)
    else if 'a' ≤ c ∧ c ≤ 'f' then some (c.toNat - 87)
    else if 'A' ≤ c ∧ c ≤ 'F' then some (c.toNat - 55)
    else none
  value.filter (· < base)

/-- The number that further digits make of a value, with single underscores before digits. -/
def readDigits (base : Nat) : Nat → List Char → Option Nat
  | value, [] => some value
  | value, '_' :: c :: rest => do readDigits base (value * base + (← digitIn? base c)) rest
  | value, c :: rest => do readDigits base (value * base + (← digitIn? base c)) rest

/-- The number that a text of digits stands for.  A digit comes first. -/
def readUnsigned (base : Nat) : List Char → Option Nat
  | [] => none
  | c :: rest => do readDigits base (← digitIn? base c) rest

/-- The digits of a hexadecimal numeral, without the mark that may stand before them. -/
def withoutHexMark : List Char → List Char
  | '0' :: 'x' :: '_' :: rest => rest
  | '0' :: 'X' :: '_' :: rest => rest
  | '0' :: 'x' :: rest => rest
  | '0' :: 'X' :: rest => rest
  | s => s

/-- A text without white space around it, its digits in ASCII, as its sign and what follows the sign.
The flag says that the sign is a minus. -/
def splitSign (s : List Char) : Bool × List Char :=
  match (trimBy isWhite s).map asciiDigit with
  | '-' :: rest => (true, rest)
  | '+' :: rest => (false, rest)
  | rest => (false, rest)

/-- The number with the given sign. -/
def withSign (negative : Bool) (n : Nat) : Int := if negative then -Int.ofNat n else Int.ofNat n

/-- Why a text is not read as a decimal numeral. -/
inductive NumeralError
  /-- It is none. -/
  | malformed
  /-- It begins with as many digits, which are too many. -/
  | tooLong (digits : Nat)
  deriving DecidableEq, Repr

/-- The greatest number of digits of a decimal numeral. -/
def maxDecimalDigits : Nat := 4300

/-- The character is a digit, or may stand between two. -/
def isDecimalPart (c : Char) : Bool := (digitIn? 10 c).isSome || c == '_'

/-- The number that a text of ASCII digits stands for. -/
def readUnsignedDecimal (s : List Char) : Except NumeralError Nat :=
  let start := s.takeWhile isDecimalPart
  match readUnsigned 10 start with
  | none => .error .malformed
  | some n =>
    let digits := start.countP (· != '_')
    if maxDecimalDigits < digits then .error (.tooLong digits)
    else if start.length < s.length then .error .malformed
    else .ok n

/-- The number that a decimal numeral stands for. -/
def readDecimal (s : List Char) : Except NumeralError Int := do
  let (negative, rest) := splitSign s
  return withSign negative (← readUnsignedDecimal rest)

/-- The number that a hexadecimal numeral stands for. -/
def readHex? (s : List Char) : Option Int :=
  let (negative, rest) := splitSign s
  (readUnsigned 16 (withoutHexMark rest)).map (withSign negative)

/-- A number in a base, with a sign before its digits. -/
def signed (digits : Nat → List Char) : Int → String
  | .ofNat n => String.ofList (digits n)
  | .negSucc n => String.ofList ('-' :: digits (n + 1))

/-- The decimal numeral of a number. -/
def decimal (n : Int) : String := signed (Nat.toDigits 10) n

/-- The hexadecimal numeral of a number, in small letters. -/
def hex (n : Int) : String := signed (Nat.toDigits 16) n

/-- The hexadecimal numeral of a number in capital letters, filled up with a zero to two places. -/
def capitalHex (n : Int) : String :=
  let width := if n < 0 then 1 else 2
  let digits m :=
    let ds := (Nat.toDigits 16 m).map Char.toUpper
    List.replicate (width - ds.length) '0' ++ ds
  signed digits n

example : (readDecimal " 1_000 ".toList).toOption = some 1000 ∧
    (readDecimal "1__0".toList).toOption = none := by
  decide +kernel

example : readHex? "-0x_1f".toList = some (-31) ∧ readHex? "0x".toList = none := by decide +kernel

end CecBench.Text
