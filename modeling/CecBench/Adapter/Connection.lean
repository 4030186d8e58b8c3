import CecBench.Adapter.Settings
import CecBench.Rig.Basic

/-!
# Connections to another machine

A connection is made by a client, which logs in over the secure shell.  It counts as connected while
its transport is active.  Programs are run over channels of a connection.
-/

namespace CecBench.Connection

open Rig

/-- The transport of the client in hand is active. -/
def isConnected (r : Rig) : Bool :=
  r.holdings.client.isSome && r.surroundings.host.transport == .active

/-- The fault that a failure to connect amounts to. -/
def connectFault (login : HostLogin) (context : String) (elapsed : Nat) (clock : Clock)
    (e : EquipmentError) : Fault :=
  match e.kind with
  | .timeout => .start ⟨context, .connectTimeout login.name elapsed clock⟩
  | .authentication => .start ⟨context, .refused login.name e.text⟩
  | _ =>
    if e.kind.isChannel then .start ⟨context, .unreachable login.name e.text⟩ else .equipment e

/-- Connects, unless there is a connection. -/
def connect (login : HostLogin) (context : String) : Act Unit := do
  let r ← Timed.state
  unless isConnected r do
    let began ← Timed.now
    note (.connect login.name login.password login.timeout)
    match r.surroundings.host.connectFailure with
    | some failure =>
      match failure.after with
      | some after => Timed.sleep after
      | none => pure ()
      let elapsed := (← Timed.now) - began
      throw (connectFault login context elapsed r.surroundings.clock failure.error)
    | none =>
      Timed.update fun r =>
        { r with
          surroundings.clients := r.surroundings.clients ++ [true]
          holdings.client := some r.surroundings.clients.length }

/-- Opens a channel. -/
def openChannel (login : HostLogin) (context : String) : Act Unit := do
  let r ← Timed.state
  if isConnected r then
    note .openSession
    match r.surroundings.host.openFailure with
    | some text => throw (.equipment ⟨.shell, text⟩)
    | none => pure ()
  else throw (.start ⟨context, .notConnected login.name⟩)

/-- Closes a client.  It is closed even if that fails. -/
def closeClient (id : ClientId) : Act Unit := do
  note .disconnect
  Timed.update fun r => { r with surroundings.clients := r.surroundings.clients.set id false }
  failIf (← Timed.state).surroundings.host.disconnectFailure "disconnect failed"

/-- Closes the client in hand, if there is one.  A failure to close does not matter. -/
def disconnect : Act Unit := do
  match (← inHand).client with
  | none => pure ()
  | some id =>
    overlooking (fun _ => true) (closeClient id)
    hold fun h => { h with client := none }

/-- Connects for the time of a block of work. -/
def enter (login : HostLogin) : Act Unit :=
  connect login s!"Connecting to {login.name.place}"

end CecBench.Connection
