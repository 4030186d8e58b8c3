import CecBench.Bus.Log
import CecBench.Fault
import CecBench.Text.Utf8

/-!
# The monitor

The monitor reads the adapter's console line by line.  Every line counts.  A line may tell that the
console takes commands.  Besides that it is one of three things: a frame, which is stamped with the
time and goes to the bus log; a malformed frame, which is only counted; or a diagnostic line, of which
the last ones are kept.  An observer is told of every frame after it is in the log.  How the observer
ends does not matter to the monitor.

The monitor reads on as long as there are lines and waits when there are none.  It ends when the stream
does, when reading fails, or, once it was told to stop, after one more line.
-/

namespace CecBench

/-! ## Streams -/

/-- What one read from a stream hands out. -/
inductive Chunk
  | text (s : String)
  | bytes (bs : List UInt8)
  | failure (kind : EquipmentKind)
  deriving DecidableEq

/-- The text that was read.  Nothing read is the end, and so is a failure. -/
def Chunk.text? : Chunk → Option String
  | .text s => if s.isEmpty then none else some s
  | .bytes bs => if bs.isEmpty then none else some (Text.Utf8.decode bs)
  | .failure _ => none

/-- What waits in a stream to be read. -/
structure Stream where
  /-- The chunks, the next one first. -/
  pending : List Chunk := []
  /-- No more will come. -/
  ended : Bool := false

/-- The stream with more to read.  An ended stream takes no more. -/
def Stream.push (s : Stream) (chunks : List Chunk) : Stream :=
  if s.ended then s else { s with pending := s.pending ++ chunks }

/-- The stream at its end. -/
def Stream.finish (s : Stream) : Stream := { s with ended := true }

/-! ## The monitor -/

/-- Someone who is told of frames, and may fail at it. -/
abbrev Observer := Frame → Except Fault Unit

/-- A monitor and all it knows. -/
structure Monitor where
  /-- What the lines mean. -/
  codec : Codec
  /-- How many diagnostic lines are kept. -/
  tailSize : Nat
  /-- Who is told of frames. -/
  observer : Option Observer
  /-- The frames seen. -/
  log : BusLog := {}
  /-- The lines read. -/
  linesRead : Nat := 0
  /-- The malformed frames. -/
  malformed : Nat := 0
  /-- The last diagnostic lines, oldest first. -/
  diagnostics : List String := []
  /-- The console takes commands. -/
  isReady : Bool := false
  /-- The monitor was told to stop. -/
  isStopping : Bool := false
  /-- The monitor has ended. -/
  hasEnded : Bool := false
  /-- The frames that the observer was told of, and how it ended each time. -/
  reports : List (Frame × Except Fault Unit) := []

namespace Monitor

/-- How many diagnostic lines are usually kept. -/
def usualTailSize : Nat := 50

/-- How long the end of a monitor is usually waited for, in milliseconds. -/
def usualCloseTimeout : Int := 2000

/-- A new monitor.  The number of lines kept must be in a word and may not be negative. -/
def build (codec : Codec) (tailSize : Int) (observer : Option Observer) : Except Fault Monitor :=
  if !isWord tailSize then .error .tailNotWord
  else if tailSize < 0 then .error .tailSize
  else .ok { codec, tailSize := tailSize.toNat, observer }

/-- The list with one more member at its end, of which only the last ones are kept. -/
def keepLast {α : Type} (count : Nat) (xs : List α) (x : α) : List α :=
  let all := xs ++ [x]
  all.drop (all.length - count)

/-- The line without its line end. -/
def withoutLineEnd (text : String) : String :=
  String.ofList (Text.dropTrailing (fun c => c == '\r' || c == '\n') text.toList)

/-- The monitor after it has seen a frame. -/
def record (m : Monitor) (f : Frame) : Monitor :=
  let m := { m with log := m.log.append f }
  match m.observer with
  | none => m
  | some observer => { m with reports := m.reports ++ [(f, observer f)] }

/-- The monitor after a line that it reads at the given time. -/
def readLine (m : Monitor) (now : Nat) (line : String) : Monitor :=
  let m := { m with
    linesRead := m.linesRead + 1
    isReady := m.isReady || m.codec.isReadyLine line }
  match m.codec.decode line with
  | .ok f => m.record (f.stampedAt now)
  | .error e =>
    if e.isMalformed then { m with malformed := m.malformed + 1 }
    else { m with diagnostics := keepLast m.tailSize m.diagnostics line }

/-- The monitor at its end. -/
def finish (m : Monitor) : Monitor := { m with hasEnded := true }

/-- The monitor told to stop. -/
def stop (m : Monitor) : Monitor := { m with isStopping := true }

/-- The monitor after reading all it can of a list of chunks, and the chunks it leaves.  The flag says
that the stream has ended behind them. -/
def readOn (now : Nat) (ended : Bool) : List Chunk → Monitor → Monitor × List Chunk
  | [], m => (if ended then m.finish else m, [])
  | chunk :: rest, m =>
    match chunk.text? with
    | none => (m.finish, rest)
    | some text =>
      let m := m.readLine now (withoutLineEnd text)
      if m.isStopping then (m.finish, rest) else readOn now ended rest m

/-- The monitor after reading all it can of a stream, and what is left of the stream. -/
def drain (m : Monitor) (now : Nat) (s : Stream) : Monitor × Stream :=
  if m.hasEnded then (m, s)
  else
    let (m, pending) := readOn now s.ended s.pending m
    (m, { s with pending })

/-- Nothing more will make the console ready. -/
def readinessIsKnown (m : Monitor) : Bool := m.isReady || m.hasEnded

end Monitor

end CecBench
