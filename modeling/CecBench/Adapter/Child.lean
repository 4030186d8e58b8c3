import CecBench.Adapter.Settings
import CecBench.Rig.Basic

/-!
# An adapter program on this machine

The program is started with pipes for its input and its output.  Stopping it is done in steps: it is
told to quit, then sent a signal, then killed, each only if it is still running after the time for the
step before.  At the end the pipes are closed, the input first.  A time to quit that cannot be measured is
noticed after the program was told to, and then nothing more is done.
-/

namespace CecBench.Child

open Rig

/-- How long the program is given after a signal, in milliseconds. -/
def signalTimeout : Int := 1000

/-- The exit code of the program, if there is one and it has exited. -/
def exitCode (r : Rig) : Option Int := r.holdings.child.bind r.exitCode

/-- The program is running. -/
def isRunning (r : Rig) : Bool := r.holdings.child.isSome && (exitCode r).isNone

/-- Starts the program with a command. -/
def spawn (command : List String) (context : String) : Act Unit := do
  note (.spawn command)
  let script ← countStart
  match script.spawnFailure with
  | some failure =>
    let workplace := (← Timed.state).surroundings.workplace
    throw (.start ⟨context, .spawn failure (command.headD "") workplace⟩)
  | none =>
    let id ← launch script
    hold fun h => { h with child := some id }

/-- The program whose output can be read. -/
def output : Act ProgramId := do
  let r ← Timed.state
  let unavailable : Act ProgramId := throw (.start ⟨"", .noOutput⟩)
  match r.holdings.child with
  | none => unavailable
  | some id => if (r.program? id).any (·.script.hasStdout) then return id else unavailable

/-- Gives the program a line. -/
def writeLine (line context : String) : Act Unit := do
  let r ← Timed.state
  let stopped : Act Unit := throw (.send ⟨context, line, .stopped (exitCode r)⟩)
  match r.holdings.child with
  | none => stopped
  | some id =>
    if isRunning r && (r.program? id).any (·.script.hasStdin) then
      try writeTo id (line ++ "\n")
      catch
        | .equipment e =>
          if e.kind.isPipe then throw (.send ⟨context, line, .refused e.text⟩)
          else throw (.equipment e)
        | e => throw e
    else stopped

/-! ## Stopping -/

/-- Waits for the program to exit, and tells whether it has. -/
def awaitExit (id : ProgramId) (timeout : Int) : Act Bool := do
  note (.awaitExit (some timeout))
  Timed.await (fun r => (r.exitCode id).isSome) timeout

/-- Tells the program to quit. -/
def quit (id : ProgramId) (script : ProgramScript) : Act Unit :=
  if script.hasStdin then writeTo id (Program.quitCommand ++ "\n") else pure ()

/-- Sends the program a signal to terminate. -/
def terminate (id : ProgramId) (script : ProgramScript) : Act Unit := do
  note .terminate
  match script.terminate with
  | .exits => touch id fun p => p.act (.exits Program.terminatedCode)
  | .ignores => pure ()
  | .fails kind => failWith kind "terminate failed"

/-- Kills the program. -/
def kill (id : ProgramId) : Act Unit := do
  note .kill
  touch id fun p => p.act (.exits Program.killedCode)
  note (.awaitExit none)

/-- Ends a program that does not quit. -/
def endByForce (id : ProgramId) (script : ProgramScript) : Act Unit := do
  terminate id script
  unless ← awaitExit id signalTimeout do kill id

/-- Closes the input. -/
def closeStdin (script : ProgramScript) : Act Unit := do
  if script.hasStdin then
    note .closeStdin
    failIf script.stdinCloseFailure "close failed"

/-- Closes the output. -/
def closeStdout (id : ProgramId) (script : ProgramScript) : Act Unit := do
  if script.hasStdout then
    note .closeStdout
    touch id fun p => p.act .endsOutput
    failIf script.stdoutCloseFailure "close failed"

/-- Ends a program, and closes its pipes. -/
def release (id : ProgramId) (script : ProgramScript) (timeout : Int) : Act Unit := do
  if ((← Timed.state).exitCode id).isNone then
    overlooking EquipmentKind.isPipe (quit id script)
    Timed.measure timeout
    unless ← awaitExit id timeout do
      overlooking EquipmentKind.isSystem (endByForce id script)
  overlooking EquipmentKind.isPipe (closeStdin script)
  overlooking EquipmentKind.isPipe (closeStdout id script)

/-- Stops the program, if there is one. -/
def stop (timeout : Int) : Act Unit := do
  let r ← Timed.state
  match r.holdings.child with
  | none => pure ()
  | some id =>
    hold fun h => { h with child := none }
    match r.program? id with
    | none => pure ()
    | some p => release id p.script timeout

end CecBench.Child
