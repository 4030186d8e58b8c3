import CecBench.Address.Physical
import CecBench.Rig.Program
import CecBench.Timeline

/-!
# The rig

The rig is everything that a run of the tool works on.  Its surroundings are the programs that were
started, the connections to the other machine, and the list of all that the tool asked of them.  Its
holdings are what the tool keeps in hand: which program, which connection, which addresses.  And
there is the monitor, which reads the output of one program.

The monitor has always read all it can: `Rig.settle` lets it read, and runs after everything that
happens to a program.
-/

namespace CecBench

/-! ## Surroundings -/

/-- The place of a program among all that were started. -/
abbrev ProgramId := Nat

/-- The place of a client among all that were connected. -/
abbrev ClientId := Nat

/-- The state of the transport of a connection. -/
inductive Transport
  | active
  | missing
  | inactive
  deriving DecidableEq, Repr

/-- A connection that fails. -/
structure ConnectFailure where
  /-- How it fails. -/
  error : EquipmentError
  /-- The time until it does, in milliseconds. -/
  after : Option Int := none

/-- How the other machine behaves. -/
structure HostScript where
  /-- Connecting fails. -/
  connectFailure : Option ConnectFailure := none
  /-- The transport of a connection. -/
  transport : Transport := .active
  /-- Opening a channel fails. -/
  openFailure : Option String := none
  /-- Running a command fails. -/
  execFailure : Option String := none
  /-- Closing the connection fails. -/
  disconnectFailure : Option EquipmentKind := none
  /-- Closing a channel fails. -/
  channelCloseFailure : Option EquipmentKind := none

/-- Something that the tool asks of its surroundings. -/
inductive Call
  | spawn (command : List String)
  | write (line : String)
  | awaitExit (timeout : Option Int)
  | terminate
  | kill
  | closeStdin
  | closeStdout
  | connect (host : HostName) (password : String) (timeout : Int)
  | openSession
  | combineOutputs
  | exec (commandLine : String)
  | closeChannel
  | disconnect
  deriving DecidableEq, Repr

/-- What the tool works on. -/
structure Surroundings where
  /-- The scripts of the programs to come.  The last one is used again. -/
  scripts : List ProgramScript := []
  /-- How the other machine behaves. -/
  host : HostScript := {}
  /-- The machine of the tool. -/
  workplace : Workplace := {}
  /-- The clock that the tool goes by. -/
  clock : Clock := {}
  /-- How many programs were to be started. -/
  starts : Nat := 0
  /-- The programs that were started. -/
  programs : List Program := []
  /-- The clients that were connected, and whether they are open. -/
  clients : List Bool := []
  /-- What was asked, in order. -/
  calls : List Call := []

/-! ## Holdings -/

/-- What the tool keeps in hand. -/
structure Holdings where
  /-- The role that the adapter plays. -/
  logical : Option LogicalAddress := none
  /-- The place that the adapter plays it at. -/
  physical : Option PhysicalAddress := none
  /-- The program that runs on this machine. -/
  child : Option ProgramId := none
  /-- The client of the other machine. -/
  client : Option ClientId := none
  /-- The program behind the channel to the other machine. -/
  channel : Option ProgramId := none
  /-- The channel's input and output are in hand. -/
  hasStreams : Bool := false
  /-- The phase of the session. -/
  phase : Phase := .uninitialized
  /-- The session holds the monitor. -/
  holdsMonitor : Bool := false

/-- A monitor that reads the output of a program. -/
structure Reader where
  /-- The program. -/
  program : ProgramId
  /-- The monitor. -/
  monitor : Monitor

/-- Everything that a run works on. -/
structure Rig where
  /-- What the tool works on. -/
  surroundings : Surroundings := {}
  /-- What the tool keeps in hand. -/
  holdings : Holdings := {}
  /-- The monitor, once there was one. -/
  reader : Option Reader := none

/-- What happens on the rig: actions of a program. -/
structure Happening where
  /-- The program. -/
  program : ProgramId
  /-- What it does. -/
  actions : List ProgramAction

namespace Rig

/-- The program with the given place. -/
def program? (r : Rig) (id : ProgramId) : Option Program := r.surroundings.programs[id]?

/-- The rig with one program changed. -/
def modifyProgram (id : ProgramId) (f : Program → Program) (r : Rig) : Rig :=
  { r with surroundings.programs := r.surroundings.programs.modify id f }

/-- The rig after the monitor has read all it can. -/
def settle (now : Nat) (r : Rig) : Rig :=
  match r.reader with
  | none => r
  | some reader =>
    match r.program? reader.program with
    | none => r
    | some p =>
      let (monitor, output) := reader.monitor.drain now p.output
      { r.modifyProgram reader.program fun p => { p with output } with
        reader := some { reader with monitor } }

/-- The rig after something happened. -/
def take (now : Nat) (h : Happening) (r : Rig) : Rig :=
  (r.modifyProgram h.program fun p => p.actAll h.actions).settle now

instance : Unfolds Rig Happening := ⟨take⟩

/-- A computation on the rig. -/
abbrev Act := Timed Rig Happening

/-- The exit code of a program, if it has exited. -/
def exitCode (r : Rig) (id : ProgramId) : Option Int := (r.program? id).bind Program.exitCode

/-- The frames seen. -/
def log (r : Rig) : BusLog := (r.reader.map fun reader => reader.monitor.log).getD {}

/-! ## Steps of computations -/

/-- Notes what is asked of the surroundings. -/
def note (c : Call) : Act Unit :=
  Timed.update fun r => { r with surroundings.calls := r.surroundings.calls ++ [c] }

/-- Changes what the tool keeps in hand. -/
def hold (f : Holdings → Holdings) : Act Unit :=
  Timed.update fun r => { r with holdings := f r.holdings }

/-- What the tool keeps in hand. -/
def inHand : Act Holdings := do return (← Timed.state).holdings

/-- Changes a program, and lets the monitor read. -/
def touch (id : ProgramId) (f : Program → Program) : Act Unit := do
  let now ← Timed.now
  Timed.update fun r => (r.modifyProgram id f).settle now

/-- Fails with a report of the surroundings. -/
def failWith {α : Type} (kind : EquipmentKind) (text : String) : Act α :=
  throw (.equipment (kind.report text))

/-- Fails with a report of the surroundings if there is a failure. -/
def failIf (kind : Option EquipmentKind) (text : String) : Act Unit :=
  match kind with
  | none => pure ()
  | some kind => failWith kind text

/-- Lets time pass, unless the clock refuses that. -/
def letPass (duration : Int) : Act Unit := do
  if duration < 0 && (← Timed.state).surroundings.clock.refusesNegative then
    failWith .value "sleep length must be non-negative"
  Timed.sleep duration

/-- Runs a step, and overlooks the failures of the given kinds. -/
def overlooking (overlooked : EquipmentKind → Bool) (step : Act Unit) : Act Unit :=
  try step
  catch
    | .equipment e => if overlooked e.kind then pure () else throw (.equipment e)
    | e => throw e

/-- The script for the next start. -/
def nextScript (r : Rig) : ProgramScript :=
  let scripts := r.surroundings.scripts
  ((scripts[r.surroundings.starts]?).orElse fun _ => scripts.getLast?).getD {}

/-- Counts a start, and gives its script. -/
def countStart : Act ProgramScript := do
  let script := (← Timed.state).nextScript
  Timed.update fun r => { r with surroundings.starts := r.surroundings.starts + 1 }
  return script

/-- Starts a program with a script. -/
def launch (script : ProgramScript) : Act ProgramId := do
  let id := (← Timed.state).surroundings.programs.length
  Timed.update fun r =>
    { r with surroundings.programs := r.surroundings.programs ++ [Program.start script] }
  Timed.schedule (script.events.map fun e => (e.1, ⟨id, e.2⟩))
  return id

/-- The program that was started last, if there is one. -/
def latest? (r : Rig) : Option ProgramId :=
  match r.surroundings.programs.length with
  | 0 => none
  | n + 1 => some n

/-- Lets the program that was started last do something now. -/
def prompt (actions : List ProgramAction) : Act Unit := do
  match (← Timed.state).latest? with
  | none => pure ()
  | some id => touch id fun p => p.actAll actions

/-- Puts what the program that was started last will do on the agenda.  A program started in the
meantime has no part in it. -/
def plan (events : List (Nat × List ProgramAction)) : Act Unit := do
  match (← Timed.state).latest? with
  | none => pure ()
  | some id => Timed.schedule (events.map fun e => (e.1, ⟨id, e.2⟩))

/-- Gives a program a line of input. -/
def writeTo (id : ProgramId) (line : String) : Act Unit := do
  let command := String.ofList (Text.dropTrailing (· == '\n') line.toList)
  note (.write command)
  match (← Timed.state).program? id with
  | none => pure ()
  | some p =>
    failIf p.script.writeFailure "write failed"
    touch id fun p => p.receive command
    Timed.schedule ((p.receiveLater command).map fun e => (e.1, ⟨id, e.2⟩))

end Rig

end CecBench
