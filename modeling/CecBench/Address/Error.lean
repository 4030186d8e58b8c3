import CecBench.Text.Numeral
import CecBench.Text.Quoted

/-!
# Addresses that cannot be

The ways in which a number, a text or some bytes fail to be an address.
-/

namespace CecBench

/-- Why something is not an address. -/
inductive AddressError
  /-- The number is no role. -/
  | noLogical (n : Int)
  /-- The number does not fit in sixteen bits. -/
  | outOfRange (n : Int)
  /-- The text is not made of four digits. -/
  | unreadable (text : String)
  /-- There are not two bytes. -/
  | tooShort (count : Nat)
  deriving DecidableEq, Repr

/-- What is said about it. -/
def AddressError.message : AddressError → String
  | .noLogical n => Text.decimal n ++ " is not a valid LogicalAddress"
  | .outOfRange n =>
    let shown := (if n < 0 then "-0x" else "0x") ++ Text.hex (Int.ofNat n.natAbs)
    s!"Physical address {shown} is out of range. Must fit in 16 bits (0.0.0.0 to f.f.f.f)."
  | .unreadable text =>
    s!"Invalid physical address {Text.quoted text}. Expected four hex nibbles such as " ++
      "'1.0.0.0' or '1000'."
  | .tooShort count => s!"Need 2 bytes for a physical address, got {count}"

end CecBench
