import CecBench.Adapter.Basic
import CecBench.Bus.Expectation
import CecBench.Session.Device

/-!
# Sessions

A session is one use of an adapter.  `begin` starts the adapter and a monitor on its output, and waits
until the console takes commands.  If that fails, it clears away what it has set up, and the session is
over.  `finish` ends a session.  It can be called at any time and does not fail.

While a session runs, frames can be sent and checks made.  A check waits for a frame in the bus log.
It looks at the log from the beginning, or from a cursor that `mark` gave.  So checks can be made in an
order other than that of the frames.
-/

namespace CecBench

open Rig

/-- A session. -/
structure Session where
  /-- The role that the adapter plays. -/
  logical : LogicalAddress
  /-- The place that the adapter plays it at. -/
  physical : PhysicalAddress
  /-- The adapter. -/
  adapter : Adapter
  /-- What the console means. -/
  codec : Codec
  /-- How long the console is given to get ready, in milliseconds. -/
  readyTimeout : Int
  /-- Who is told of frames. -/
  observer : Option Observer

namespace Session

/-- The role that is usually played. -/
def usualLogical : AddressSpec := .named .playback1

/-- The place that is usually played at. -/
def usualPhysical : PlaceSpec := .text "1.0.0.0"

/-- How long the console is usually given, in milliseconds. -/
def usualReadyTimeout : Int := 5000

/-- How long a check usually waits, in milliseconds. -/
def usualCheckTimeout : Int := 20000

/-- A session in a role and at a place. -/
def build (logical : AddressSpec) (physical : PlaceSpec) (adapter : Adapter) (codec : Option Codec)
    (readyTimeout : Int) (observer : Option Observer) : Except Fault Session := do
  let logical ← logical.resolve.mapError .address
  let physical ← physical.resolve.mapError .address
  return { logical, physical, adapter, codec := codec.getD adapter.codec, readyTimeout, observer }

/-- The given context, or one made of what is done, the role and the place. -/
def contextFor (s : Session) (action context : String) : String :=
  if context.isEmpty then s!"{action} {s.logical.name}@{s.physical.text}" else context

/-- The monitor of a session that runs. -/
def runningMonitor (s : Session) (action context : String) : Act Monitor := do
  let r ← Timed.state
  let refuse : Act Monitor :=
    throw (.notRunning (s.contextFor action context) action r.holdings.phase)
  if r.holdings.phase == .running && r.holdings.holdsMonitor then
    match r.reader with
    | some reader => return reader.monitor
    | none => refuse
  else refuse

/-- The monitor, for a caller who wants to look at it. -/
def monitor (s : Session) : Act Monitor := s.runningMonitor "access the bus monitor" ""

/-! ## Ending -/

/-- Tells the monitor to stop, and waits for its end. -/
def closeMonitor : Act Unit := do
  Timed.update fun r =>
    { r with reader := r.reader.map fun reader => { reader with monitor := reader.monitor.stop } }
  let _ ← Timed.await (fun r => r.reader.all fun reader => reader.monitor.hasEnded)
    Monitor.usualCloseTimeout

/-- Stops the adapter, whatever that ends in, and then the monitor. -/
def clearAway (s : Session) : Act Unit := do
  try s.adapter.stop catch _ => pure ()
  let held := (← inHand).holdsMonitor
  hold fun h => { h with holdsMonitor := false }
  if held then closeMonitor

/-- Ends the session, unless it is over. -/
def finish (s : Session) : Act Unit := do
  let h ← inHand
  unless h.phase == .terminated && !h.holdsMonitor do
    s.clearAway
    hold fun h => { h with phase := .terminated }

/-! ## Beginning -/

/-- How long a program whose output has ended is given to exit, in milliseconds. -/
def exitTimeout : Nat := 1000

/-- Looks whether the program has exited, at most the given number of times, with a pause before each
look. -/
def pollExitCode (s : Session) : Nat → Act (Option Int)
  | 0 => return none
  | n + 1 => do
    Timed.sleep Remote.pollInterval
    match s.adapter.exitCode (← Timed.state) with
    | some code => return some code
    | none => pollExitCode s n

/-- The exit code of the program.  If the output has ended, the program is given time to exit. -/
def reapExitCode (s : Session) (monitor : Monitor) : Act (Option Int) := do
  match s.adapter.exitCode (← Timed.state) with
  | some code => return some code
  | none =>
    if monitor.hasEnded then s.pollExitCode (Remote.polls exitTimeout) else return none

/-- The reason that an exit code tells. -/
def reasonOfExit : Option Int → StartFailure
  | some 127 => .binaryMissing
  | some 126 => .permissionDenied
  | some _ => .exited
  | none => .notReady

/-- Why the console did not get ready.  What the program printed counts first, and then its exit
code. -/
def diagnose (s : Session) (monitor : Monitor) (context : String) : Act StartError := do
  let tail := monitor.diagnostics
  let exitCode ← s.reapExitCode monitor
  let reason := (s.codec.startFailure? tail).getD (reasonOfExit exitCode)
  let details := { reason, exitCode, timeout := s.readyTimeout, tail : NotReady }
  return ⟨context, .notReady details (← Timed.state).surroundings.workplace⟩

/-- Puts a monitor on the output of a program. -/
def attachMonitor (s : Session) (program : ProgramId) : Act Unit := do
  let monitor ← Timed.lift id (Monitor.build s.codec Monitor.usualTailSize s.observer)
  let now ← Timed.now
  Timed.update fun r =>
    { r with reader := some { program, monitor }, holdings.holdsMonitor := true }.settle now

/-- Starts the adapter and the monitor, and waits for the console to get ready. -/
def bringUp (s : Session) (context : String) : Act Unit := do
  s.adapter.start (.named s.logical) (.number s.physical.value) context
  s.attachMonitor (← s.adapter.output)
  Timed.measure s.readyTimeout
  let _ ← Timed.await (fun r => r.reader.all fun reader => reader.monitor.readinessIsKnown)
    s.readyTimeout
  match (← Timed.state).reader with
  | some reader =>
    unless reader.monitor.isReady do
      throw (.start (← s.diagnose reader.monitor context))
  | none => pure ()

/-- Begins the session.  If that fails, the session is over. -/
def begin (s : Session) (context : String) : Act Unit := do
  let context := s.contextFor "init" context
  let phase := (← inHand).phase
  unless phase == .uninitialized do throw (.alreadyRunning context (.session phase))
  try s.bringUp context
  catch e =>
    s.clearAway
    hold fun h => { h with phase := .terminated }
    throw e
  hold fun h => { h with phase := .running }

/-! ## Sending -/

/-- Sends a frame. -/
def send (s : Session) (f : Frame) (context : String) : Act Unit := do
  let context := s.contextFor s!"send {f.text}" context
  let _ ← s.runningMonitor "send a message" context
  s.adapter.sendFrame f context

/-- Sends the frame that the parts make. -/
def sendDraft (s : Session) (d : Frame.Draft) (context : String) : Act Unit := do
  let f ← Timed.lift .frame d.build
  s.send f context

/-! ## Checking -/

/-- The cursor behind the last frame of the log. -/
def mark (s : Session) : Act Nat := do
  return (← s.runningMonitor "mark the bus log" "").log.size

/-- The frames of the log. -/
def snapshot (s : Session) : Act (List Frame) := do
  return (← s.runningMonitor "snapshot the bus log" "").log.frames

/-- Waits for a frame that satisfies a condition, from a cursor on. -/
def checkFrame (s : Session) (accepts : FramePredicate) (timeout : Int) (since : Option Int)
    (description context : String) : Act Frame := do
  let context := s.contextFor "check" context
  let _ ← s.runningMonitor "check expected output" context
  let expectation ← Timed.lift id (Expectation.build accepts (since.getD 0) description)
  expectation.await Rig.log timeout context

/-- What a check of an opcode looks for. -/
structure OpcodeCheck where
  /-- The opcode. -/
  opcode : OpcodeSpec
  /-- The sender, if it matters. -/
  source : Option AddressSpec := none
  /-- The receiver, if it matters. -/
  destination : Option AddressSpec := none
  /-- A condition on the operands, if they matter. -/
  operands : Option OperandTest := none

/-- The condition that a check of an opcode makes. -/
def OpcodeCheck.test (c : OpcodeCheck) : FrameTest :=
  .opcode c.opcode c.source c.destination c.operands

/-- What a check of an opcode looks for, in words. -/
def OpcodeCheck.description (c : OpcodeCheck) : String :=
  describeOpcode c.opcode c.source c.destination

/-- Waits for a frame with an opcode, from a cursor on. -/
def checkOpcode (s : Session) (c : OpcodeCheck) (timeout : Int) (since : Option Int)
    (context : String) : Act Frame :=
  s.checkFrame c.test.predicate timeout since c.description
    (s.contextFor s!"expect {c.description}" context)

/-! ## The device -/

/-- Waits for the device under test. -/
def awaitDevice (s : Session) (d : Device) (timeout : Int) (context : String) : Act Unit :=
  d.awaitBoot timeout (s.contextFor "wait for device" context)

end Session

end CecBench
