import CecBench.CommandLine.Request

/-!
# Reports

Doing what a request asks for ends in a report: what is printed, and the exit code.  A task other than
listing is done in a session of its own, which ends with the task, however that turns out.  While the
bus is shown, every frame is printed as it comes, also when the task fails in the end.
-/

namespace CecBench.CommandLine

open Rig

/-- What is printed, and how it ends. -/
structure Report where
  /-- The exit code. -/
  exitCode : Nat := 0
  /-- What is printed. -/
  output : String := ""
  /-- What is printed as errors and notes. -/
  notes : String := ""
  deriving DecidableEq, Repr

namespace Report

/-- The exit code of a task that fails. -/
def failureCode : Nat := 1

/-- The exit code for arguments that make no request. -/
def misuseCode : Nat := 2

/-- A line of text. -/
def line (text : String) : String := text ++ "\n"

/-- The report of a fault.  A wait that was too short is told with the time that it took by the
clock. -/
def ofFault (clock : Clock) : Fault → Report
  | .notSeen r =>
    let elapsed := clock.seconds r.elapsed
    { exitCode := failureCode
      notes := line s!"Timed out after {elapsed}s ({r.observed} frame(s) observed)" }
  | e => { exitCode := failureCode, notes := line s!"Error: {e.message}" }

/-- A short help. -/
def help (command : String) : String :=
  line s!"usage: {command} [options] ..." ++
    line "Observe and drive the CEC bus of a device under test."

/-- The report of a stop. -/
def ofStop (s : Stop) : Report :=
  match s.cause with
  | .help => { output := help s.command }
  | .misuse fault =>
    { exitCode := misuseCode, notes := line (s.command ++ ": error: " ++ fault.message) }

end Report

namespace Request

/-- A value of the request, unless it was withdrawn. -/
def present {α : Type} (what : Withdrawn) : Option α → Except Fault α
  | some a => .ok a
  | none => .error (.withdrawn what)

/-- Where the adapter program runs. -/
def carrier (defaults : Defaults) (r : Request) : Except SettingsError Carrier :=
  if r.choice.isRemote then
    Carrier.host <$> HostLogin.configured defaults.hostname defaults.username defaults.password
  else .ok .child

/-- The adapter of the request. -/
def adapter (defaults : Defaults) (r : Request) : Except Fault Adapter := do
  let carrier ← (r.carrier defaults).mapError .settings
  let settings := { r.choice.settings with hdmiPort := ← present .port r.choice.port }
  return { settings := ← settings.check.mapError .settings, codec := .usual, carrier }

/-- The session of the request. -/
def session (defaults : Defaults) (r : Request) (observer : Option Observer) :
    Except Fault Session := do
  let adapter ← r.adapter defaults
  let logical ← present .role r.choice.logical
  let physical ← present .place r.choice.physical
  Session.build (.named logical) (.text physical) adapter none defaults.readyTimeout observer

/-- Does something in a session, and ends the session. -/
def within {α : Type} (s : Session) (work : Act α) : Act α := do
  s.begin ""
  try work finally s.finish

/-- Lists the adapters. -/
def listAdapters : Act Report := do
  match detectAdapters (← Timed.state).surroundings.workplace.ports with
  | [] => return { output := Report.line "No USB-CEC adapters found." }
  | adapters =>
    let lines := adapters.map fun name => Report.line ("  " ++ name)
    return { output := Report.line "USB-CEC adapters:" ++ String.join lines }

/-- Shows the bus. -/
def monitor (s : Session) (duration : Option Int) : Act Report := do
  let (frames, malformed) ← within s do
    let duration ← Timed.lift id (present .duration duration)
    Timed.measure duration
    letPass duration
    let frames := (← s.snapshot).length
    return (frames, (← s.monitor).malformed)
  return { notes := Report.line s!"{frames} frame(s), {malformed} malformed line(s)" }

/-- Sends a frame. -/
def send (s : Session) (text : String) : Act Report :=
  within s do
    let f ← Timed.lift .decode (Frame.parse text)
    s.send f s!"CLI send {text}"
    return { output := Report.line s!"Sent {f.text}" }

/-- Waits for a frame. -/
def expect (s : Session) (opcode : OpcodeSpec) (source : Option (Option LogicalAddress))
    (timeout : Option Int) : Act Report :=
  within s do
    let source ← Timed.lift id (source.mapM (present .sender))
    let timeout ← Timed.lift id (present .timeout timeout)
    let check : Session.OpcodeCheck := { opcode, source := source.map .named }
    let f ← s.checkOpcode check timeout none s!"CLI expect {opcode.text}"
    return { output := Report.line f.text }

/-- Does what is asked for. -/
def carryOut (defaults : Defaults) (r : Request) : Act Report := do
  match r.task with
  | .listAdapters => listAdapters
  | .monitor duration =>
    let watch : Observer := fun _ => .ok ()
    monitor (← Timed.lift id (r.session defaults (some watch))) duration
  | .send text => send (← Timed.lift id (r.session defaults none)) text
  | .expect opcode source timeout =>
    expect (← Timed.lift id (r.session defaults none)) opcode source timeout

/-- The width of a time. -/
def timeWidth : Nat := 12

/-- A frame with the time at which it was seen. -/
def frameLine (f : Frame) : String :=
  let time := Text.secondsToMillis (f.observedAt.getD 0).toNat
  Report.line (Text.padLeft timeWidth time ++ "  " ++ f.text)

/-- The frames that the observer was told of. -/
def watched (r : Rig) : List Frame :=
  (r.reader.map fun reader => reader.monitor.reports.map Prod.fst).getD []

/-- Does what is asked for, and reports it. -/
def perform (defaults : Defaults) (r : Request) : Act Report := do
  let clock := (← Timed.state).surroundings.clock
  let report ← try r.carryOut defaults catch e => pure (Report.ofFault clock e)
  let lines := (watched (← Timed.state)).map frameLine
  return { report with output := String.join lines ++ report.output }

end Request

/-- Reads the arguments, and does what they ask for. -/
def run (defaults : Defaults) (arguments : List String) : Act Report :=
  match Request.read defaults arguments with
  | .ok r => r.perform defaults
  | .error s => pure (Report.ofStop s)

end CecBench.CommandLine
