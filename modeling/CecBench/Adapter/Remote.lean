import CecBench.Adapter.Connection

/-!
# An adapter program on another machine

The program is run by a shell over a channel.  Stopping it tells it to quit and looks every fifty
milliseconds whether it has exited, until its time is over.  Whatever happens, the channel and the
connection are closed at the end.
-/

namespace CecBench.Remote

open Rig

/-- The time between two looks, in milliseconds. -/
def pollInterval : Nat := 50

/-- How often to look in the given time.  A negative time counts as none. -/
def polls (timeout : Int) : Nat := (timeout.toNat + (pollInterval - 1)) / pollInterval

/-- The exit code of the program, if there is one and it has exited. -/
def exitCode (r : Rig) : Option Int := r.holdings.channel.bind r.exitCode

/-- The program is running. -/
def isRunning (r : Rig) : Bool := r.holdings.channel.isSome && (exitCode r).isNone

/-- Opens a channel and runs a command on it. -/
def exec (login : HostLogin) (command context : String) : Act ProgramId := do
  Connection.openChannel login context
  note .combineOutputs
  note (.exec command)
  match (← Timed.state).surroundings.host.execFailure with
  | some text => throw (.equipment ⟨.shell, text⟩)
  | none => launch (← countStart)

/-- Runs a command on the other machine. -/
def spawn (login : HostLogin) (command context : String) : Act Unit := do
  Connection.connect login context
  let id ← try exec login command context
    catch
      | .equipment e =>
        if e.kind.isShell then throw (.start ⟨context, .notRun login.name command e.text⟩)
        else throw (.equipment e)
      | e => throw e
  hold fun h => { h with channel := some id, hasStreams := true }

/-- The program whose output can be read. -/
def output : Act ProgramId := do
  let h ← inHand
  match h.channel, h.hasStreams with
  | some id, true => return id
  | _, _ => throw (.start ⟨"", .noOutput⟩)

/-- Gives the program a line. -/
def writeLine (login : HostLogin) (line context : String) : Act Unit := do
  let r ← Timed.state
  let stopped : Act Unit := throw (.send ⟨context, line, .stoppedOn login.hostname⟩)
  match r.holdings.channel with
  | none => stopped
  | some id =>
    if isRunning r && r.holdings.hasStreams then
      try writeTo id (line ++ "\n")
      catch
        | .equipment e =>
          if e.kind.isChannel then
            throw (.send ⟨context, line, .refusedOn login.hostname e.text⟩)
          else throw (.equipment e)
        | e => throw e
    else stopped

/-! ## Stopping -/

/-- Looks whether the program has exited, at most the given number of times. -/
def poll (id : ProgramId) : Nat → Act Unit
  | 0 => pure ()
  | n + 1 => do
    if ((← Timed.state).exitCode id).isNone then
      Timed.sleep pollInterval
      poll id n

/-- Tells the program to quit, and gives it time to exit. -/
def quit (id : ProgramId) (timeout : Int) : Act Unit := do
  let r ← Timed.state
  if (r.exitCode id).isNone && r.holdings.hasStreams then
    writeTo id (Program.quitCommand ++ "\n")
  Timed.measure timeout
  poll id (polls timeout)

/-- Closes a channel.  It is closed even if that fails. -/
def closeChannel (id : ProgramId) : Act Unit := do
  note .closeChannel
  touch id fun p => p.act .endsOutput
  failIf (← Timed.state).surroundings.host.channelCloseFailure "close failed"

/-- Closes the channel and the connection.  A failure to close does not matter. -/
def release (id : ProgramId) : Act Unit := do
  overlooking (fun _ => true) (closeChannel id)
  hold fun h => { h with hasStreams := false }
  Connection.disconnect

/-- Stops the program, if there is one, and closes the connection. -/
def stop (timeout : Int) : Act Unit := do
  match (← inHand).channel with
  | none => Connection.disconnect
  | some id =>
    hold fun h => { h with channel := none }
    let ending ← try
        quit id timeout
        pure none
      catch e => pure (some e)
    release id
    match ending with
    | none => pure ()
    | some (.equipment e) => if e.kind.isChannel then pure () else throw (.equipment e)
    | some e => throw e

end CecBench.Remote
