import CecBench.Frame.Draft
import CecBench.Word

/-!
# Conditions on frames

A check waits for a frame that satisfies a condition.  A condition may fail instead of answering, for
the frame may lack the operand that it looks at.
-/

namespace CecBench

/-- An operand that a frame does not have. -/
inductive IndexError
  /-- There is no operand at the index. -/
  | outOfRange
  /-- The index is in no word, so there can be none. -/
  | notWord
  deriving DecidableEq, Repr

/-- What is said about it. -/
def IndexError.message : IndexError → String
  | .outOfRange => "index out of range"
  | .notWord => "cannot fit 'int' into an index-sized integer"

/-- A condition on operand bytes. -/
inductive OperandTest
  /-- They begin with these bytes. -/
  | startsWith (bytes : List UInt8)
  /-- They are these bytes. -/
  | equals (bytes : List UInt8)
  /-- There are at least as many. -/
  | atLeast (count : Int)
  /-- The byte at an index has this value. -/
  | byteAt (index value : Int)
  deriving DecidableEq, Repr

/-- The condition holds of the bytes. -/
def OperandTest.holds (bytes : List UInt8) : OperandTest → Except IndexError Bool
  | .startsWith start => .ok (start.isPrefixOf bytes)
  | .equals other => .ok (bytes == other)
  | .atLeast count => .ok (count ≤ bytes.length)
  | .byteAt index value =>
    match atIndex? bytes index with
    | some b => .ok (Int.ofNat b.toNat == value)
    | none => .error (if isWord index then .outOfRange else .notWord)

/-- A condition on frames. -/
inductive FrameTest
  /-- The opcode, and if given also the addresses and the operands. -/
  | opcode (spec : OpcodeSpec) (source destination : Option AddressSpec)
      (operands : Option OperandTest)
  /-- The frame is a poll. -/
  | poll
  /-- The frame is for every device. -/
  | broadcast
  /-- Every frame. -/
  | any
  /-- No frame. -/
  | never
  /-- The operand byte at an index has this value. -/
  | operandAt (index value : Int)
  /-- The frame is this message. -/
  | equals (frame : Frame)

/-- The role is the one given, if one is given. -/
def meetsAddress (given : Option AddressSpec) (a : LogicalAddress) : Bool :=
  match given with
  | none => true
  | some spec => spec.value == Int.ofNat a.code

/-- The condition holds of the frame. -/
def FrameTest.holds (f : Frame) : FrameTest → Except IndexError Bool
  | .opcode spec source destination operands =>
    match f.opcode? with
    | none => .ok false
    | some b =>
      if spec.value != Int.ofNat b.toNat || !meetsAddress source f.source ||
          !meetsAddress destination f.destination then
        .ok false
      else
        match operands with
        | none => .ok true
        | some test => test.holds f.operands
  | .poll => .ok f.isPoll
  | .broadcast => .ok f.isBroadcast
  | .any => .ok true
  | .never => .ok false
  | .operandAt index value => OperandTest.holds f.operands (.byteAt index value)
  | .equals g => .ok (f.sameMessage g)

end CecBench
