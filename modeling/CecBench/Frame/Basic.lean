import CecBench.Address.Logical
import CecBench.Address.Physical
import CecBench.Opcode
import CecBench.Slice

/-!
# Frames

A frame is one message on the bus.  It goes from one logical address to another, and is either a poll
or carries an opcode with at most fourteen operand bytes.  A frame that was seen on the bus knows when.

Two frames are the same message when their contents are equal, wherever they go and whenever they
were seen.  `Frame.sameMessage` tells this, and `Frame.digest` is a hash that agrees with it.
-/

namespace CecBench

/-- The most operand bytes that a frame can carry. -/
def maxOperands : Nat := 14

/-- Operand bytes that fit in one frame. -/
structure Operands where
  /-- The bytes, in the order sent. -/
  bytes : List UInt8
  /-- They fit. -/
  fits : bytes.length ≤ maxOperands
  deriving DecidableEq, Repr

/-- What a frame carries behind its addresses. -/
inductive Content
  | poll
  | message (opcode : UInt8) (operands : Operands)
  deriving DecidableEq, Repr

/-- One message on the bus. -/
structure Frame where
  /-- The role that sent it. -/
  source : LogicalAddress
  /-- The role that it is for. -/
  destination : LogicalAddress
  /-- What it carries. -/
  content : Content
  /-- When it was seen on the bus, in milliseconds. -/
  observedAt : Option Int
  deriving DecidableEq, Repr

namespace Frame

/-- The opcode, unless the frame is a poll. -/
def opcode? (f : Frame) : Option UInt8 :=
  match f.content with
  | .poll => none
  | .message opcode _ => some opcode

/-- The operand bytes.  A poll has none. -/
def operands (f : Frame) : List UInt8 :=
  match f.content with
  | .poll => []
  | .message _ operands => operands.bytes

/-- The frame has no opcode. -/
def isPoll (f : Frame) : Bool := f.opcode?.isNone

/-- The frame is for every device. -/
def isBroadcast (f : Frame) : Bool := f.destination == .broadcast

/-- The named opcode, if the frame has one. -/
def opcodeName? (f : Frame) : Option String := do
  return (← Opcode.ofCode? (← f.opcode?)).name

/-- The frame as seen at the given time. -/
def stampedAt (f : Frame) (time : Int) : Frame := { f with observedAt := some time }

/-- The frames carry the same. -/
def sameMessage (f g : Frame) : Bool := f.content == g.content

/-- A hash of what the frame carries. -/
def digest (f : Frame) : UInt64 := hash (f.opcode?, f.operands)

/-- A byte as two hexadecimal digits. -/
def byteText (b : UInt8) : List Char := [Nat.digitChar (b.toNat / 16), Nat.digitChar (b.toNat % 16)]

/-- The frame for a reader: who to whom, what, and the operand bytes if there are any. -/
def text (f : Frame) : String :=
  let what := match f.opcode? with
    | none => "POLL"
    | some b => Opcode.label b
  let operands := match f.operands with
    | [] => ""
    | bytes => " [" ++ " ".intercalate (bytes.map fun b => String.ofList (byteText b)) ++ "]"
  f.source.text ++ "->" ++ f.destination.text ++ " " ++ what ++ operands

end Frame

end CecBench
