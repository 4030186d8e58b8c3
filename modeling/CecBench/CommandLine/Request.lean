import CecBench.CommandLine.Arguments
import CecBench.Defaults

/-!
# Requests

A request is what a caller asks for on the command line: a task, and which adapter to do it with.  The
options about the adapter stand before the task's name, the options of the task behind it.

The value of an option can be withdrawn.  A request then has none in its place, which is noticed only by
a task that wants it.
-/

namespace CecBench.CommandLine

/-- What is to be done. -/
inductive Task
  /-- List the adapters of this machine. -/
  | listAdapters
  /-- Show the frames on the bus for a number of milliseconds. -/
  | monitor (duration : Option Int)
  /-- Send the frame with these bytes. -/
  | send (frame : String)
  /-- Wait for a frame with an opcode, at most a number of milliseconds.  The sender matters if it is
  given, and may be given as withdrawn. -/
  | expect (opcode : OpcodeSpec) (source : Option (Option LogicalAddress)) (timeout : Option Int)
  deriving DecidableEq, Repr

/-- Which adapter to use, and how. -/
structure AdapterChoice where
  /-- The role to play. -/
  logical : Option LogicalAddress := some .playback1
  /-- The place to play it at. -/
  physical : Option String := some "1.0.0.0"
  /-- How the adapter program is run. -/
  settings : AdapterSettings
  /-- The port of the device. -/
  port : Option Int := some settings.hdmiPort
  /-- The adapter is on the other machine. -/
  isRemote : Bool := false

/-- What a caller asks for. -/
structure Request where
  /-- Which adapter to use. -/
  choice : AdapterChoice
  /-- What is to be done. -/
  task : Task

namespace Request

/-- The command. -/
def commandName : String := "hdmi-cec"

/-- The command with the name of a task. -/
def taskCommand (task : String) : String := commandName ++ " " ++ task

/-! ## Tasks -/

/-- A task as far as it was read, and what was left over of its arguments. -/
abbrev TaskReading := Task × List String

/-- Reads the arguments of listing. -/
def readListing (arguments : List String) : Except Stop TaskReading := do
  let rule : CommandRule Unit := ⟨taskCommand "list-adapters", [], .none⟩
  let ((), leftOver) ← rule.read arguments ()
  return (.listAdapters, leftOver)

/-- How long the bus is usually shown, in milliseconds. -/
def usualDuration : Int := 10000

/-- Reads the arguments of monitoring. -/
def readMonitoring (arguments : List String) : Except Stop TaskReading := do
  let duration : OptionRule (Option Int) :=
    ⟨"--duration", .value fun word? _ => word?.mapM readNumber⟩
  let rule : CommandRule (Option Int) := ⟨taskCommand "monitor", [duration], .none⟩
  let (duration, leftOver) ← rule.read arguments (some usualDuration)
  return (.monitor duration, leftOver)

/-- Reads the arguments of sending. -/
def readSending (arguments : List String) : Except Stop TaskReading := do
  let rule : CommandRule String :=
    ⟨taskCommand "send", [], .one "frame" fun word _ => .ok word⟩
  let (frame, leftOver) ← rule.read arguments ""
  return (.send frame, leftOver)

/-- What a frame is waited for with. -/
structure Wanted where
  /-- The opcode. -/
  opcode : OpcodeSpec
  /-- The sender, if it matters. -/
  source : Option (Option LogicalAddress)
  /-- The time, in milliseconds. -/
  timeout : Option Int

/-- The options of waiting. -/
def wantedOptions : List (OptionRule Wanted) :=
  [⟨"--source", .value fun word? w => do
      return { w with source := some (← word?.mapM readRole) }⟩,
    ⟨"--timeout", .value fun word? w => do
      return { w with timeout := ← word?.mapM readNumber }⟩]

/-- Reads the arguments of waiting. -/
def readExpecting (defaults : Defaults) (arguments : List String) : Except Stop TaskReading := do
  let opcode : WordRule Wanted :=
    .one "operand" fun word w => do return { w with opcode := ← readOpcode word }
  let rule : CommandRule Wanted := ⟨taskCommand "expect", wantedOptions, opcode⟩
  let (w, leftOver) ← rule.read arguments ⟨.number 0, none, some defaults.checkTimeout⟩
  return (.expect w.opcode w.source w.timeout, leftOver)

/-- The names of the tasks, and how their arguments are read. -/
def tasks (defaults : Defaults) : List (String × (List String → Except Stop TaskReading)) :=
  [("list-adapters", readListing), ("monitor", readMonitoring), ("send", readSending),
    ("expect", readExpecting defaults)]

/-! ## The whole command line -/

/-- A request as far as it was read. -/
structure Partial where
  /-- Which adapter to use. -/
  choice : AdapterChoice
  /-- What is to be done, once it was read. -/
  task : Option TaskReading

/-- A change of the choice of an adapter by a word, if it is not withdrawn. -/
def choosing (change : AdapterChoice → Option String → Except ValueError AdapterChoice) :
    Effect Partial :=
  .value fun word? p => do return { p with choice := ← change p.choice word? }

/-- The options before the task.  Without a serial port the program looks for it, and without a program
the words behind it are the command. -/
def choiceOptions : List (OptionRule Partial) :=
  [⟨"--logical-address", choosing fun c word? => do
      return { c with logical := ← word?.mapM readRole }⟩,
    ⟨"--physical-address", choosing fun c word? => .ok { c with physical := word? }⟩,
    ⟨"--hdmi-port", choosing fun c word? => do return { c with port := ← word?.mapM readNumber }⟩,
    ⟨"--com-port", choosing fun c word? => .ok { c with settings.comPort := word?.getD "" }⟩,
    ⟨"--cec-client", choosing fun c word? =>
      .ok { c with settings.executable := word?.toList }⟩,
    ⟨"--remote", .flag fun p => { p with choice.isRemote := true }⟩]

/-- Reads the name of the task and the arguments behind it. -/
def readTask (defaults : Defaults) (name : String) (arguments : List String) (p : Partial) :
    Except Stop Partial :=
  match (tasks defaults).find? fun t => t.1 == name with
  | some t => do return { p with task := some (← t.2 arguments) }
  | none =>
    .error ⟨commandName,
      .misuse (.badChoice "command" name ((tasks defaults).map Prod.fst))⟩

/-- The request that the arguments make.  What is left over before the task is told before what is
left over behind it. -/
def read (defaults : Defaults) (arguments : List String) : Except Stop Request := do
  let words : WordRule Partial := .command "command" (readTask defaults)
  let rule : CommandRule Partial := ⟨commandName, choiceOptions, words⟩
  let (p, leftOver) ← rule.read arguments ⟨{ settings := defaults.adapter }, none⟩
  match p.task with
  | none => throw ⟨commandName, .misuse (.missing "command")⟩
  | some (task, more) =>
    match leftOver ++ more with
    | [] => return ⟨p.choice, task⟩
    | leftOver => throw ⟨commandName, .misuse (.leftOver leftOver)⟩

end Request

end CecBench.CommandLine
