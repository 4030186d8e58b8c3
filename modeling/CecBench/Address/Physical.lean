import CecBench.Address.Error
import CecBench.Text.Blank

/-!
# Physical addresses

A physical address is a place in the tree of devices, one hexadecimal digit for each of four levels.
It is written with dots between the digits or without, in either letter case, and blanks around it do
not count.
-/

namespace CecBench

/-- A place in the tree of devices: sixteen bits. -/
structure PhysicalAddress where
  /-- The sixteen bits, the outermost level in the highest four. -/
  value : Nat
  /-- The value has sixteen bits. -/
  value_lt : value < 0x10000
  deriving DecidableEq, Repr

namespace PhysicalAddress

/-- The address with the given number, if it fits in sixteen bits. -/
def ofInt (n : Int) : Except AddressError PhysicalAddress :=
  if h : 0 ≤ n ∧ n < 0x10000 then .ok ⟨n.toNat, by omega⟩ else .error (.outOfRange n)

/-- The value of an ASCII hexadecimal digit. -/
def hexValue? (c : Char) : Option (Fin 16) :=
  if '0' ≤ c ∧ c ≤ '9' then some (Fin.ofNat 16 (c.toNat - 48))
  else if 'a' ≤ c ∧ c ≤ 'f' then some (Fin.ofNat 16 (c.toNat - 87))
  else if 'A' ≤ c ∧ c ≤ 'F' then some (Fin.ofNat 16 (c.toNat - 55))
  else none

/-- The address with the given digits, outermost level first. -/
def ofNibbles (a b c d : Fin 16) : PhysicalAddress :=
  ⟨a * 0x1000 + b * 0x100 + c * 0x10 + d, by omega⟩

/-- The address whose digits stand alone in the given pieces of text. -/
def ofPieces? : List (List Char) → Option PhysicalAddress
  | [[a], [b], [c], [d]] => do
    return ofNibbles (← hexValue? a) (← hexValue? b) (← hexValue? c) (← hexValue? d)
  | _ => none

/-- The address that a text stands for.  A text with a dot is cut at its dots, another one after
every character. -/
def parse (text : String) : Except AddressError PhysicalAddress :=
  let raw := Text.trim text.toList
  let digits := if raw.contains '.' then Text.split '.' raw else raw.map fun c => [c]
  match ofPieces? digits with
  | some a => .ok a
  | none => .error (.unreadable text)

/-- The address in the first two bytes, the high byte first. -/
def ofBytes : List UInt8 → Except AddressError PhysicalAddress
  | high :: low :: _ =>
    .ok ⟨high.toNat * 0x100 + low.toNat, by
      have := high.toNat_lt; have := low.toNat_lt; omega⟩
  | bytes => .error (.tooShort bytes.length)

/-- The four digits, outermost level first. -/
def nibbles (a : PhysicalAddress) : List Nat :=
  [a.value / 0x1000 % 16, a.value / 0x100 % 16, a.value / 0x10 % 16, a.value % 16]

/-- The two bytes, high byte first. -/
def bytes (a : PhysicalAddress) : List UInt8 :=
  [UInt8.ofNat (a.value / 0x100), UInt8.ofNat (a.value % 0x100)]

/-- The four digits without dots, as the adapter program takes them. -/
def argument (a : PhysicalAddress) : String := String.ofList (a.nibbles.map Nat.digitChar)

/-- The four digits with dots between them. -/
def text (a : PhysicalAddress) : String :=
  String.ofList (Text.join ['.'] (a.nibbles.map fun n => [Nat.digitChar n]))

end PhysicalAddress

/-- A physical address as a caller gives it: as text, or as a number. -/
inductive PlaceSpec
  | text (s : String)
  | number (n : Int)
  deriving DecidableEq, Repr

/-- The address given. -/
def PlaceSpec.resolve : PlaceSpec → Except AddressError PhysicalAddress
  | .text s => PhysicalAddress.parse s
  | .number n => PhysicalAddress.ofInt n

end CecBench
