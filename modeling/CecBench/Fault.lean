import CecBench.Bus.Predicate
import CecBench.Clock
import CecBench.Console.Codec
import CecBench.Frame.Operands
import CecBench.Rig.Equipment
import CecBench.Session.Phase

/-!
# What can go wrong

`Fault` gathers the faults of all parts of the tool.  A fault says what happened.  Its wording is in
`Fault.message`.  Most wordings begin with the context in brackets, the caller's words for what the
operation was for.
-/

namespace CecBench

/-- A context, as messages begin with it. -/
def inContext (context : String) : String := s!"[{context}] "

/-- A number, or the word for a missing one. -/
def decimalOrNone : Option Int → String
  | some n => Text.decimal n
  | none => "None"

/-! ## Settings -/

/-- Why an adapter cannot be set up or bound. -/
inductive SettingsError
  /-- The adapter has no such port. -/
  | badPort (n : Int)
  /-- The adapter cannot play the role. -/
  | unplayable (a : LogicalAddress)
  /-- No machine is named to run the adapter on. -/
  | noHost
  deriving DecidableEq, Repr

/-- What is said about it. -/
def SettingsError.message : SettingsError → String
  | .badPort n => s!"Invalid HDMI port {Text.decimal n}. Must be between 1 and 15."
  | .unplayable a =>
    s!"Logical address {a.name} ({a.text}) has no device type; the adapter can only be bound " ++
      "to TV, recorder, tuner, playback or audio system roles."
  | .noHost =>
    "No adapter host configured. Set CEC_ADAPTER_HOST, CEC_ADAPTER_USER and CEC_ADAPTER_PASS."

/-! ## Starting -/

/-- A machine to reach over the secure shell, as it is named in messages. -/
structure HostName where
  /-- Who logs in. -/
  user : String
  /-- The machine. -/
  host : String
  /-- The port. -/
  port : Int
  deriving DecidableEq, Repr

/-- The machine and the port. -/
def HostName.place (h : HostName) : String := h.host ++ ":" ++ Text.decimal h.port

/-- The user, the machine and the port. -/
def HostName.target (h : HostName) : String := h.user ++ "@" ++ h.place

/-- How a program ended up not ready. -/
structure NotReady where
  /-- Why, as far as can be told. -/
  reason : StartFailure
  /-- Its exit code, if it has exited. -/
  exitCode : Option Int
  /-- The time it was given, in milliseconds. -/
  timeout : Int
  /-- The last lines it printed that are not frames. -/
  tail : List String
  deriving Repr

/-- Why an adapter does not start. -/
inductive StartCause
  /-- The program cannot be started. -/
  | spawn (failure : SpawnFailure) (program : String) (workplace : Workplace)
  /-- There is no output to read, for nothing was started. -/
  | noOutput
  /-- The machine does not answer in time. -/
  | connectTimeout (host : HostName) (elapsed : Nat) (clock : Clock)
  /-- The machine does not let the user in. -/
  | refused (host : HostName) (text : String)
  /-- The machine cannot be reached. -/
  | unreachable (host : HostName) (text : String)
  /-- There is no connection to the machine. -/
  | notConnected (host : HostName)
  /-- The machine does not run the command. -/
  | notRun (host : HostName) (command text : String)
  /-- The program does not get ready. -/
  | notReady (details : NotReady) (workplace : Workplace)

/-- An adapter that does not start. -/
structure StartError where
  /-- The context. -/
  context : String
  /-- What happened. -/
  cause : StartCause

namespace StartError

/-- The reason, by which a caller can tell what to do. -/
def reason (e : StartError) : StartFailure :=
  match e.cause with
  | .spawn .missing _ _ => .binaryMissing
  | .spawn .forbidden _ _ => .permissionDenied
  | .spawn .unfit _ _ => .exited
  | .noOutput => .notReady
  | .connectTimeout _ _ _ | .refused _ _ | .unreachable _ _ | .notConnected _ | .notRun _ _ _ =>
    .connectionFailed
  | .notReady details _ => details.reason

/-- The last lines that the program printed. -/
def tail (e : StartError) : List String :=
  match e.cause with
  | .notReady details _ => details.tail
  | _ => []

/-- What is said about a program that cannot be started. -/
def spawnMessage (failure : SpawnFailure) (program : String) (workplace : Workplace) : String :=
  let program := Text.quoted program
  let report := failure.text ++ ": " ++ program
  match failure with
  | .missing =>
    s!"Adapter executable {program} not found: {report}. " ++
      StartFailure.hint workplace .binaryMissing
  | .forbidden =>
    s!"Permission denied running {program}: {report}. " ++
      StartFailure.hint workplace .permissionDenied
  | .unfit => s!"OS error spawning {program}: {report}"

/-- What is said about a program that does not get ready. -/
def notReadyMessage (d : NotReady) (workplace : Workplace) : String :=
  let what := match d.exitCode with
    | none => s!"did not become ready within {Text.decimal d.timeout} ms"
    | some code => s!"exited with code {Text.decimal code} before becoming ready"
  let lastLines := " | ".intercalate (d.tail.drop (d.tail.length - 5))
  let output := if lastLines.isEmpty then "(no output)" else lastLines
  s!"CEC adapter {what} ({d.reason.word}). Last output: {output}. " ++ d.reason.hint workplace

/-- What is said about it. -/
def message (e : StartError) : String :=
  match e.cause with
  | .noOutput => "Adapter output is unavailable: the adapter was never started."
  | .spawn failure program workplace =>
    inContext e.context ++ spawnMessage failure program workplace
  | .connectTimeout host elapsed clock =>
    inContext e.context ++
      s!"Connection to adapter host {host.place} timed out after {clock.seconds elapsed}s"
  | .refused host text =>
    inContext e.context ++ s!"Authentication failed for {host.target}: {text}"
  | .unreachable host text =>
    inContext e.context ++ s!"Error connecting to adapter host {host.target}: {text}"
  | .notConnected host => inContext e.context ++ s!"Not connected to adapter host {host.place}"
  | .notRun host command text =>
    inContext e.context ++ s!"Failed to run {Text.quoted command} on {host.host}: {text}"
  | .notReady details workplace => inContext e.context ++ notReadyMessage details workplace

end StartError

/-! ## Sending -/

/-- Why a line does not reach the adapter. -/
inductive SendCause
  /-- The program does not run. -/
  | stopped (exitCode : Option Int)
  /-- Its input refuses the line. -/
  | refused (text : String)
  /-- The program does not run on the machine. -/
  | stoppedOn (host : String)
  /-- Its input on the machine refuses the line. -/
  | refusedOn (host text : String)

/-- A line that does not reach the adapter. -/
structure SendError where
  /-- The context. -/
  context : String
  /-- The line. -/
  line : String
  /-- Why. -/
  cause : SendCause

/-- What is said about it. -/
def SendError.message (e : SendError) : String :=
  let line := Text.quoted e.line
  inContext e.context ++ match e.cause with
    | .stopped exitCode =>
      s!"Cannot write {line}: adapter is not running (exit code {decimalOrNone exitCode})."
    | .refused text =>
      s!"Failed to write {line} to the adapter: {text}. The adapter process may have exited."
    | .stoppedOn host => s!"Cannot write {line}: remote adapter on {host} is not running."
    | .refusedOn host text => s!"Failed to write {line} to the remote adapter on {host}: {text}"

/-! ## Checking -/

/-- A frame that was not seen in time. -/
structure TimeoutReport where
  /-- The context. -/
  context : String
  /-- The time given, in milliseconds. -/
  timeout : Int
  /-- What was waited for. -/
  description : String
  /-- The frames that came while waiting. -/
  observed : Nat
  /-- The frames that were looked at. -/
  scanned : Nat
  /-- The time spent, in milliseconds. -/
  elapsed : Nat
  /-- The last frames of the log. -/
  recent : List Frame

/-- What is said about it. -/
def TimeoutReport.message (r : TimeoutReport) : String :=
  let recent := if r.recent.isEmpty then "(none)" else "; ".intercalate (r.recent.map Frame.text)
  inContext r.context ++
    s!"Timeout ({Text.decimal r.timeout} ms) expired before {r.description} was observed. " ++
    s!"{r.observed} frame(s) arrived during the wait, {r.scanned} scanned in " ++
    s!"{Text.secondsToMillis r.elapsed}s. Recent frames: {recent}"

/-! ## Sessions -/

/-- What is already there. -/
inductive AlreadyRunning
  /-- The adapter, with its command line. -/
  | adapter (commandLine : String)
  /-- The adapter on another machine. -/
  | adapterOn (host : String)
  /-- The session. -/
  | session (phase : Phase)

/-- What is said about it. -/
def AlreadyRunning.message : AlreadyRunning → String
  | .adapter commandLine =>
    s!"Adapter already started ({commandLine}). Use a new CecAdapterProcess for a new session."
  | .adapterOn host => s!"Remote adapter already started on {host}"
  | .session phase =>
    s!"init() called on a harness that is already {phase.word}. Use a new CecTestHarness per " ++
      "session."

/-! ## Requests -/

/-- The values of a request that can be withdrawn and are wanted nevertheless. -/
inductive Withdrawn
  | role
  | place
  | port
  | sender
  | duration
  | timeout
  deriving DecidableEq, Repr

/-- What is said about it.  An empty list stands in the place of a withdrawn value, and the message tells
why it does not suit there. -/
def Withdrawn.message : Withdrawn → String
  | .role => "[] is not a valid LogicalAddress"
  | .place => "'list' object has no attribute 'strip'"
  | .port => "'<' not supported between instances of 'int' and 'list'"
  | .sender =>
    "int() argument must be a string, a bytes-like object or a real number, not 'list'"
  | .duration => "unsupported operand type(s) for /: 'list' and 'float'"
  | .timeout => "'<' not supported between instances of 'list' and 'int'"

/-! ## All faults -/

/-- What can go wrong. -/
inductive Fault
  | address (e : AddressError)
  | frame (e : FrameError)
  | operand (e : OperandError)
  | index (e : IndexError)
  | decode (e : DecodeError)
  | grammar (e : GrammarError)
  | reason (e : StartFailure.UnknownWord)
  | settings (e : SettingsError)
  | numeral (text : String) (e : Text.NumeralError)
  | tailSize
  | tailNotWord
  | immeasurable
  | cursor (n : Int)
  | timeoutRange (context : String) (timeout : Int)
  | spent (context description : String)
  | notSeen (report : TimeoutReport)
  | start (e : StartError)
  | send (e : SendError)
  | alreadyRunning (context : String) (what : AlreadyRunning)
  | notRunning (context action : String) (phase : Phase)
  | deviceNotReady (context : String) (timeout : Int)
  | equipment (e : EquipmentError)
  | withdrawn (what : Withdrawn)
  | unsupported

/-- What is said about a fault. -/
def Fault.message : Fault → String
  | .address e => e.message
  | .frame e => e.message
  | .operand e => e.message
  | .index e => e.message
  | .decode e => e.message
  | .grammar e => e.message
  | .reason e => e.message
  | .settings e => e.message
  | .numeral text .malformed =>
    let shown := String.ofList ((Text.quotedChars text.toList).take 200)
    s!"invalid literal for int() with base 10: {shown}"
  | .numeral _ (.tooLong digits) =>
    s!"Exceeds the limit ({Text.maxDecimalDigits} digits) for integer string conversion: " ++
      s!"value has {digits} digits; use sys.set_int_max_str_digits() to increase the limit"
  | .tailSize => "maxlen must be non-negative"
  | .tailNotWord => "Python int too large to convert to C ssize_t"
  | .immeasurable => "int too large to convert to float"
  | .cursor n => s!"Cursor must be non-negative, got {Text.decimal n}"
  | .timeoutRange context timeout =>
    inContext context ++ s!"Invalid timeout {Text.decimal timeout} ms. Timeout must be >= 0."
  | .spent context description =>
    inContext context ++
      s!"ExpectationMatcher for {description} was already used. Create a new matcher for every " ++
      "check."
  | .notSeen report => report.message
  | .start e => e.message
  | .send e => e.message
  | .alreadyRunning context what => inContext context ++ what.message
  | .notRunning context action phase =>
    inContext context ++
      s!"Cannot {action}: harness is {phase.word}. Call init() first; a terminated harness " ++
      "cannot be reused."
  | .deviceNotReady context timeout =>
    inContext context ++
      s!"Device did not report boot complete within {Text.decimal timeout} ms"
  | .equipment e => e.text
  | .withdrawn what => what.message
  | .unsupported => ""

end CecBench
