import CecBench.Frame.Basic

/-!
# Reading the operands of a frame

The operand bytes between two bounds are one number, the first byte the highest.  The first two of
them may be a physical address.
-/

namespace CecBench

/-- Why a frame has no number between two bounds: there is no byte. -/
structure OperandError where
  /-- The first bound. -/
  start : Int
  /-- The second bound, if given. -/
  stop : Option Int
  /-- The frame. -/
  frame : Frame

/-- What is said about it. -/
def OperandError.message (e : OperandError) : String :=
  let start := Text.decimal e.start
  let stop := (e.stop.map Text.decimal).getD "None"
  let count := e.frame.operands.length
  s!"No operand bytes in range [{start}:{stop}] of {e.frame.text} ({count} available)"

namespace Frame

/-- The number that bytes make, the first one the highest. -/
def bigEndian (bytes : List UInt8) : Nat := bytes.foldl (fun n b => n * 256 + b.toNat) 0

/-- The operand bytes between two bounds as one number. -/
def operandNumber (f : Frame) (start : Int) (stop : Option Int) : Except OperandError Nat :=
  match slice f.operands start stop with
  | [] => .error ⟨start, stop, f⟩
  | bytes => .ok (bigEndian bytes)

/-- The physical address in the first two operand bytes. -/
def operandAddress (f : Frame) : Except AddressError PhysicalAddress :=
  PhysicalAddress.ofBytes (f.operands.take 2)

end Frame

end CecBench
