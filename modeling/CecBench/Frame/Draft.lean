import CecBench.Frame.Basic
import CecBench.Word

/-!
# Frames from loose parts

A `Draft` has the parts of a frame as a caller gives them, with numbers of any size.  `Draft.build`
makes a frame of them or tells the first part that is wrong, in the order source, destination,
opcode, operand bytes, their presence, their count.  No more bytes are made than a frame can hold.
-/

namespace CecBench

/-- Operand bytes as a caller gives them. -/
inductive OperandSpec
  /-- The bytes themselves. -/
  | bytes (bs : List UInt8)
  /-- A list of numbers, each of which must be a byte. -/
  | values (ns : List Int)
  /-- As many zero bytes. -/
  | zeros (count : Int)
  deriving DecidableEq, Repr

/-- Why loose parts make no frame. -/
inductive FrameError
  /-- An address is no role. -/
  | address (e : AddressError)
  /-- The opcode is not a byte. -/
  | opcodeRange (n : Int)
  /-- An operand is not a byte. -/
  | operandRange
  /-- There are fewer than no operands. -/
  | negativeCount
  /-- The number of operands is in no word. -/
  | countNotWord
  /-- The operands take more room than a word can count. -/
  | countTooLarge
  /-- The operands take more room than there is. -/
  | outOfMemory
  /-- A poll has operands. -/
  | pollWithOperands
  /-- There are too many operands. -/
  | tooManyOperands (count : Nat)
  deriving DecidableEq, Repr

/-- What is said about it. -/
def FrameError.message : FrameError → String
  | .address e => e.message
  | .opcodeRange n => "Opcode " ++ Text.decimal n ++ " does not fit in one byte"
  | .operandRange => "bytes must be in range(0, 256)"
  | .negativeCount => "negative count"
  | .countNotWord => "cannot fit 'int' into an index-sized integer"
  | .countTooLarge => "byte string is too large"
  | .outOfMemory => ""
  | .pollWithOperands => "A polling message (no opcode) cannot carry parameters"
  | .tooManyOperands count =>
    s!"Frame carries {count} parameter bytes; CEC allows at most {maxOperands}"

/-- The byte with the given number, if there is one. -/
def byteOfInt? (n : Int) : Option UInt8 :=
  if 0 ≤ n ∧ n < 256 then some (UInt8.ofNat n.toNat) else none

namespace OperandSpec

/-- The room that a string of bytes takes besides the bytes. -/
def byteStringRoom : Nat := 33

/-- The room that can be addressed. -/
def addressableRoom : Nat := Nat.pow 2 47

/-- What is wrong with a number of zero bytes, if there is something. -/
def zerosError? (count : Int) : Option FrameError :=
  if !isWord count then some .countNotWord
  else if count < 0 then some .negativeCount
  else if wordLimit ≤ count.toNat + byteStringRoom then some .countTooLarge
  else if addressableRoom ≤ count.toNat then some .outOfMemory
  else none

/-- What is wrong with the operands by themselves, if there is something. -/
def error? : OperandSpec → Option FrameError
  | .bytes _ => none
  | .values ns => if ns.all fun n => (byteOfInt? n).isSome then none else some .operandRange
  | .zeros count => zerosError? count

/-- Refuses operands that are wrong by themselves. -/
def check (o : OperandSpec) : Except FrameError Unit :=
  match o.error? with
  | some e => .error e
  | none => .ok ()

/-- How many operand bytes are given. -/
def count : OperandSpec → Nat
  | .bytes bs => bs.length
  | .values ns => ns.length
  | .zeros count => count.toNat

/-- The operand bytes given.  A number that is no byte becomes a zero. -/
def toBytes : OperandSpec → List UInt8
  | .bytes bs => bs
  | .values ns => ns.map fun n => (byteOfInt? n).getD 0
  | .zeros count => List.replicate count.toNat 0

/-- There are as many bytes as were counted. -/
theorem length_toBytes (o : OperandSpec) : o.toBytes.length = o.count := by
  cases o <;> simp [toBytes, count]

end OperandSpec

namespace Frame

/-- What a caller gives for a frame. -/
structure Draft where
  /-- The sender. -/
  source : AddressSpec
  /-- The receiver. -/
  destination : AddressSpec
  /-- The opcode, or none for a poll. -/
  opcode : Option OpcodeSpec
  /-- The operand bytes. -/
  operands : OperandSpec := .bytes []
  /-- When the frame was seen. -/
  observedAt : Option Int := none

/-- The opcode as a byte. -/
def resolveOpcode : OpcodeSpec → Except FrameError UInt8
  | .named o => .ok o.code
  | .number n =>
    match byteOfInt? n with
    | some b => .ok b
    | none => .error (.opcodeRange n)

/-- What a frame carries that has the given opcode and operands.  The operands are counted before
their bytes are made. -/
def contentOf (opcode : Option UInt8) (operands : OperandSpec) : Except FrameError Content :=
  match opcode with
  | none => if operands.count = 0 then .ok .poll else .error .pollWithOperands
  | some b =>
    if h : operands.count ≤ maxOperands then
      .ok (.message b ⟨operands.toBytes, operands.length_toBytes ▸ h⟩)
    else .error (.tooManyOperands operands.count)

/-- The frame that the parts make. -/
def Draft.build (d : Draft) : Except FrameError Frame := do
  let source ← d.source.resolve.mapError FrameError.address
  let destination ← d.destination.resolve.mapError FrameError.address
  let opcode ← d.opcode.mapM resolveOpcode
  d.operands.check
  let content ← contentOf opcode d.operands
  return { source, destination, content, observedAt := d.observedAt }

end Frame

end CecBench
