import CecBench.Adapter.Child
import CecBench.Adapter.Remote

/-!
# Adapters

What can be done with an adapter, wherever its program runs: start it, give it lines and frames, read
its output, stop it.  The two places differ in how a program is reached and in what can fail on the
way.  An adapter whose program runs nowhere can do none of this.

An adapter is started once at a time.  Starting it binds it to a role and a place, which it keeps.
-/

namespace CecBench.Adapter

open Rig

/-- The word that tells the program to send a frame. -/
def transmitCommand : String := "tx"

/-- What an adapter with no program cannot do. -/
def unsupported {α : Type} : Act α := throw .unsupported

/-- The command line, as far as the adapter is bound. -/
def commandLine (a : Adapter) : Act String := do
  let h ← inHand
  Timed.lift .settings (a.settings.commandLine h.logical h.physical)

/-- Binds the adapter to a role and a place. -/
def bind (logical : AddressSpec) (physical : PlaceSpec) :
    Act (LogicalAddress × PhysicalAddress) := do
  let logical ← Timed.lift .address logical.resolve
  hold fun h => { h with logical := some logical }
  let physical ← Timed.lift .address physical.resolve
  hold fun h => { h with physical := some physical }
  return (logical, physical)

/-- Starts the adapter in a role and a place. -/
def start (a : Adapter) (logical : AddressSpec) (physical : PlaceSpec) (context : String) :
    Act Unit := do
  match a.carrier with
  | .none => unsupported
  | .child =>
    if (← inHand).child.isSome then
      throw (.alreadyRunning context (.adapter (← a.commandLine)))
    let (logical, physical) ← bind logical physical
    let command ← Timed.lift .settings (a.settings.command logical physical)
    Child.spawn command context
  | .host login =>
    if (← inHand).channel.isSome then
      throw (.alreadyRunning context (.adapterOn login.hostname))
    let _ ← bind logical physical
    let command ← a.commandLine
    Remote.spawn login command context

/-- The program whose output can be read. -/
def output (a : Adapter) : Act ProgramId :=
  match a.carrier with
  | .none => unsupported
  | .child => Child.output
  | .host _ => Remote.output

/-- The exit code of the program, if it has exited. -/
def exitCode (a : Adapter) (r : Rig) : Option Int :=
  match a.carrier with
  | .none => none
  | .child => Child.exitCode r
  | .host _ => Remote.exitCode r

/-- The program is running.  An adapter with no program cannot tell. -/
def isRunning? (a : Adapter) (r : Rig) : Option Bool :=
  match a.carrier with
  | .none => none
  | .child => some (Child.isRunning r)
  | .host _ => some (Remote.isRunning r)

/-- The program is running. -/
def isRunning (a : Adapter) (r : Rig) : Bool := (a.isRunning? r).getD false

/-- Tells whether the program is running. -/
def checkRunning (a : Adapter) : Act Bool := do
  match a.isRunning? (← Timed.state) with
  | some running => return running
  | none => unsupported

/-- Gives the program a line. -/
def writeLine (a : Adapter) (line context : String) : Act Unit :=
  match a.carrier with
  | .none => unsupported
  | .child => Child.writeLine line context
  | .host login => Remote.writeLine login line context

/-- Sends a frame. -/
def sendFrame (a : Adapter) (f : Frame) (context : String) : Act Unit :=
  a.writeLine (transmitCommand ++ " " ++ f.encode) context

/-- Stops the program. -/
def stop (a : Adapter) : Act Unit :=
  match a.carrier with
  | .none => unsupported
  | .child => Child.stop a.settings.stopTimeout
  | .host _ => Remote.stop a.settings.stopTimeout

/-- Reads from the output by hand: a line, an empty text at its end, or nothing while there is nothing
to read. -/
def readByHand (a : Adapter) : Act (Option String) := do
  let id ← a.output
  match (← Timed.state).program? id with
  | none => return none
  | some p =>
    let (text, p) := p.readByHand
    Timed.update (modifyProgram id fun _ => p)
    return text

end CecBench.Adapter
