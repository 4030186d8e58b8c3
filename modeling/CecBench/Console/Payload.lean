import CecBench.Frame.Basic
import CecBench.Text.Quoted

/-!
# Frames as text

A frame is written as its bytes, two hexadecimal digits each, with colons between them.  The first
byte has the sender in its high half and the receiver in its low half, the second one is the opcode,
and the others are the operands.

`readPayload` reads such a text.  It wants one to sixteen groups.  A group is two digits of either
case, and may end in one line feed.  Whatever else it meets is malformed, and the error tells the line
that the text was found in.
-/

namespace CecBench

/-- What is wrong with a line. -/
inductive DecodeFault
  /-- The line has no payload. -/
  | notTraffic
  /-- The payload is empty. -/
  | noBytes
  /-- These groups are no bytes. -/
  | badGroups (groups : List String)
  /-- There are more groups than a frame has bytes. -/
  | tooLong (count : Nat)
  deriving DecidableEq, Repr

/-- A line that is not a frame. -/
structure DecodeError where
  /-- What is wrong with it. -/
  fault : DecodeFault
  /-- The line. -/
  line : String
  deriving DecidableEq, Repr

namespace DecodeError

/-- The line is a traffic line with a bad payload. -/
def isMalformed (e : DecodeError) : Bool := e.fault != .notTraffic

/-- The start of the line, between quotes. -/
def excerpt (e : DecodeError) : String :=
  Text.quoted (String.ofList ((Text.trim e.line.toList).take 120))

/-- What is said about it. -/
def message (e : DecodeError) : String :=
  match e.fault with
  | .notTraffic => s!"Not a CEC traffic line: {e.excerpt}"
  | .noBytes => s!"Traffic line carries no frame bytes: {e.excerpt}"
  | .badGroups groups =>
    s!"Invalid frame bytes {Text.quotedList groups} in traffic line: {e.excerpt}"
  | .tooLong count =>
    s!"Frame of {count} bytes exceeds the CEC maximum of {maxOperands + 2}: {e.excerpt}"

end DecodeError

namespace Frame

/-! ## Bytes -/

/-- The byte with the two addresses. -/
def header (f : Frame) : UInt8 := UInt8.ofNat (f.source.code * 16 + f.destination.code)

/-- The bytes on the bus. -/
def bytes (f : Frame) : List UInt8 :=
  match f.content with
  | .poll => [f.header]
  | .message opcode operands => f.header :: opcode :: operands.bytes

/-- The frame with the given first byte and what it carries. -/
def ofHeader (header : UInt8) (content : Content) : Frame where
  source := .ofCode ⟨header.toNat / 16, by have := header.toNat_lt; omega⟩
  destination := .ofCode ⟨header.toNat % 16, by omega⟩
  content := content
  observedAt := none

/-- What the bytes behind the first one carry. -/
def contentOfBytes : (bytes : List UInt8) → bytes.length ≤ maxOperands + 1 → Content
  | [], _ => .poll
  | opcode :: operands, h => .message opcode ⟨operands, by simpa using h⟩

/-! ## Text -/

/-- The frame as text. -/
def encode (f : Frame) : String :=
  String.ofList (Text.join [':'] (f.bytes.map byteText))

/-- The byte that a group stands for. -/
def groupByte? : List Char → Option UInt8
  | [a, b] | [a, b, '\n'] => do
    let high ← PhysicalAddress.hexValue? a
    let low ← PhysicalAddress.hexValue? b
    return UInt8.ofNat (high.val * 16 + low.val)
  | _ => none

/-- The bytes that groups stand for, or the groups that are no bytes. -/
def groupBytes (groups : List (List Char)) : Except (List (List Char)) (List UInt8) :=
  match groups.filter fun g => (groupByte? g).isNone with
  | [] => .ok (groups.filterMap groupByte?)
  | bad => .error bad

/-- The frame that a payload stands for, where `line` is the line it was found in. -/
def readPayload (line : String) (payload : List Char) : Except DecodeError Frame :=
  if payload.isEmpty then .error ⟨.noBytes, line⟩
  else
    match groupBytes (Text.split ':' payload) with
    | .error bad => .error ⟨.badGroups (bad.map String.ofList), line⟩
    | .ok [] => .error ⟨.noBytes, line⟩
    | .ok (header :: rest) =>
      if h : rest.length ≤ maxOperands + 1 then .ok (ofHeader header (contentOfBytes rest h))
      else .error ⟨.tooLong (rest.length + 1), line⟩

/-- The frame that a text of bytes stands for.  Blanks around it do not count. -/
def parse (text : String) : Except DecodeError Frame :=
  readPayload text (Text.trim text.toList)

end Frame

end CecBench
