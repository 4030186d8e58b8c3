/-!
# Reading UTF-8 that may be damaged

A character takes one to four bytes.  The reader keeps what it has of an unfinished character: how
many bytes are owed, the range of the next one, and the value so far.  A byte outside that range ends
the unfinished character, which then reads as U+FFFD, and is looked at again as a first byte.  So
every longest part that begins some character and does not finish it reads as one U+FFFD, and so does
every byte that begins none.
-/

namespace CecBench.Text.Utf8

/-- The replacement for a damaged part. -/
def replacement : Char := '\uFFFD'

/-- An unfinished character. -/
structure Unfinished where
  /-- The bytes still owed, less one. -/
  owed : Nat
  /-- The least value of the next byte. -/
  low : UInt8
  /-- The greatest value of the next byte. -/
  high : UInt8
  /-- The value of the bits read. -/
  value : Nat

/-- What a byte does between characters: a whole character, the start of one, or damage. -/
inductive Lead
  | whole (c : Char)
  | start (u : Unfinished)
  | damage

/-- The part that a byte plays between characters. -/
def lead (b : UInt8) : Lead :=
  let n := b.toNat
  if n < 0x80 then .whole (Char.ofNat n)
  else if n < 0xC2 then .damage
  else if n < 0xE0 then .start ⟨0, 0x80, 0xBF, n - 0xC0⟩
  else if n == 0xE0 then .start ⟨1, 0xA0, 0xBF, 0⟩
  else if n == 0xED then .start ⟨1, 0x80, 0x9F, 0xD⟩
  else if n < 0xF0 then .start ⟨1, 0x80, 0xBF, n - 0xE0⟩
  else if n == 0xF0 then .start ⟨2, 0x90, 0xBF, 0⟩
  else if n < 0xF4 then .start ⟨2, 0x80, 0xBF, n - 0xF0⟩
  else if n == 0xF4 then .start ⟨2, 0x80, 0x8F, 4⟩
  else .damage

/-- The characters that are finished by a byte between characters, and what it leaves unfinished. -/
def begin (b : UInt8) : List Char × Option Unfinished :=
  match lead b with
  | .whole c => ([c], none)
  | .start u => ([], some u)
  | .damage => ([replacement], none)

/-- The characters that are finished by a byte, and what it leaves unfinished. -/
def step : Option Unfinished → UInt8 → List Char × Option Unfinished
  | none, b => begin b
  | some u, b =>
    if u.low ≤ b ∧ b ≤ u.high then
      let value := u.value * 64 + (b.toNat - 0x80)
      match u.owed with
      | 0 => ([Char.ofNat value], none)
      | owed + 1 => ([], some ⟨owed, 0x80, 0xBF, value⟩)
    else
      let (cs, left) := begin b
      (replacement :: cs, left)

/-- The characters of the bytes that follow an unfinished character. -/
def decodeFrom : Option Unfinished → List UInt8 → List Char
  | none, [] => []
  | some _, [] => [replacement]
  | u, b :: rest =>
    let (cs, left) := step u b
    cs ++ decodeFrom left rest

/-- The text of the bytes, with U+FFFD for every damaged part. -/
def decode (bytes : List UInt8) : String := String.ofList (decodeFrom none bytes)

example : decodeFrom none [0x63, 0xC3, 0xA9, 0x0A] = ['c', 'é', '\n'] := by decide

example : decodeFrom none [0xE2, 0x82, 0x0A] = [replacement, '\n'] := by decide

example : decodeFrom none [0xED, 0xA0, 0x80] = [replacement, replacement, replacement] := by decide

end CecBench.Text.Utf8
