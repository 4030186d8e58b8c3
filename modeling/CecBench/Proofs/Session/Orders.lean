import CecBench.Proofs.Adapter.Command
import CecBench.Proofs.Adapter.Farewell
import CecBench.Proofs.Session.Confines
import CecBench.Proofs.Session.Sending

/-!
# Orders

A line that a program is given tells it to quit, or it is an order.  An adapter
gives no orders of its own: it starts a program and stops it without any
(`start_orders_nothing`, `stop_orders_nothing`).  A line that it is asked to give
is refused at once, or it is written, once (`writeLine_delivers`).

So a session begins and ends without an order, and a frame that it is asked to
send is the one order that comes of it, if any does (`send_orders`).
-/

namespace CecBench

open Timed (Keeps Steady behind)
open Rig

variable {t t' : Timeline Rig Happening}

namespace Rig

/-- The lines that programs were given, without those that told them to quit. -/
def orders (r : Rig) : List String := r.lines.filter (· != Program.quitCommand)

/-- Between the two timelines no order is given. -/
def OrdersNothing (t t' : Timeline Rig Happening) : Prop := t'.state.orders = t.state.orders

theorem Writes.orders {lines : List String} (h : Writes lines t t') :
    t'.state.orders = t.state.orders ++ lines.filter (· != Program.quitCommand) := by
  rw [Rig.orders, h, List.filter_append]
  rfl

theorem Writes.orders_nothing (h : Writes [] t t') : OrdersNothing t t' :=
  h.orders.trans (List.append_nil _)

theorem Writes.orders_nothing_of_quit (h : Writes [Program.quitCommand] t t') :
    OrdersNothing t t' := by
  have horders := h.orders
  rwa [List.filter_cons_of_neg (by simp), List.filter_nil, List.append_nil] at horders

instance : Steady OrdersNothing where
  elapses ho h := Writes.orders_nothing (Steady.elapses ho h)
  trans h h' := h'.trans h

theorem Asks.orders_nothing (h : Asks (·.line? = none) t t') : OrdersNothing t t' := by
  obtain ⟨made, hmade, hkind⟩ := h
  have hnone : made.filterMap Call.line? = [] := List.filterMap_eq_nil_iff.mpr hkind
  refine Writes.orders_nothing ?_
  rw [Writes, lines, hmade, List.filterMap_append, hnone]
  rfl

theorem keeps_of_writes_nothing {α : Type} {work : Act α} (h : work.Keeps (Writes [])) :
    work.Keeps OrdersNothing := h.mono Writes.orders_nothing

end Rig

/-! ## Starting -/

namespace Adapter

theorem bind_orders_nothing (role : AddressSpec) (place : PlaceSpec) :
    (bind role place).Keeps OrdersNothing :=
  (Timed.keeps_lift _ _).bind fun _ => (keeps_of_writes_nothing (hold_writes_nothing _)).bind
    fun _ => (Timed.keeps_lift _ _).bind fun _ =>
      (keeps_of_writes_nothing (hold_writes_nothing _)).bind fun _ => Timed.keeps_pure _

theorem commandLine_orders_nothing (a : Adapter) : a.commandLine.Keeps OrdersNothing :=
  inHand_waits.keeps.bind fun _ => Timed.keeps_lift _ _

theorem start_orders_nothing (a : Adapter) (role : AddressSpec) (place : PlaceSpec)
    (context : String) : (a.start role place context).Keeps OrdersNothing := by
  have hhere (command : List String) : (Child.spawn command context).Keeps OrdersNothing := by
    intro t ho
    have hmade := Child.spawn_makes command context (t := t)
    exact ⟨(Child.spawn_keeps (T := Spared) command context t ho).1,
      Asks.orders_nothing ⟨_, hmade, by simp [Call.line?]⟩⟩
  have hthere (login : HostLogin) (line : String) :
      (Remote.spawn login line context).Keeps OrdersNothing :=
    (Remote.spawn_asks_of context (by simp [Remote.startCalls, Call.line?])).mono
      Asks.orders_nothing
  unfold start
  split
  · exact Timed.keeps_throw _
  · refine inHand_waits.keeps.bind fun _ => ?_
    dsimp only
    split
    · exact a.commandLine_orders_nothing.bind fun _ => (Timed.keeps_throw _).bind fun _ =>
        (bind_orders_nothing _ _).bind fun _ => (Timed.keeps_lift _ _).bind fun _ => hhere _
    · exact (bind_orders_nothing _ _).bind fun _ => (Timed.keeps_lift _ _).bind fun _ => hhere _
  · refine inHand_waits.keeps.bind fun _ => ?_
    dsimp only
    split
    · exact (Timed.keeps_throw _).bind fun _ => (bind_orders_nothing _ _).bind fun _ =>
        a.commandLine_orders_nothing.bind fun _ => hthere _ _
    · exact (bind_orders_nothing _ _).bind fun _ => a.commandLine_orders_nothing.bind fun _ =>
        hthere _ _

end Adapter

/-! ## Stopping -/

/-- To tell a program to quit is no order. -/
theorem Rig.writeTo_quit_orders_nothing (id : ProgramId) :
    (writeTo id (Program.quitCommand ++ "\n")).Keeps OrdersNothing := by
  have hwrites := writeTo_writes id (Program.quitCommand ++ "\n")
  rw [commandOf_quit] at hwrites
  exact hwrites.mono Writes.orders_nothing_of_quit

namespace Child

theorem release_orders_nothing (id : ProgramId) (script : ProgramScript) (timeout : Int) :
    (release id script timeout).Keeps OrdersNothing := by
  have hclose := keeps_of_writes_nothing (closePipes_writes_nothing id script)
  have hquit : (quit id script).Keeps OrdersNothing := by
    unfold quit
    split
    · exact writeTo_quit_orders_nothing id
    · exact Timed.keeps_pure _
  refine Timed.keeps_state.bind fun _ => ?_
  dsimp only
  split
  · refine (overlooking_keeps _ hquit).bind fun _ => (Timed.waits_measure timeout).keeps.bind
      fun _ => (keeps_of_writes_nothing (awaitExit_writes_nothing id timeout)).bind fun _ => ?_
    split
    · exact hclose
    · exact (overlooking_keeps _ (keeps_of_writes_nothing (endByForce_writes_nothing id script))).bind
        fun _ => hclose
  · exact hclose

theorem stop_orders_nothing (timeout : Int) : (stop timeout).Keeps OrdersNothing := by
  refine Timed.keeps_state.bind fun r => ?_
  split
  · exact Timed.keeps_pure _
  · refine (keeps_of_writes_nothing (hold_writes_nothing _)).bind fun _ => ?_
    split
    · exact Timed.keeps_pure _
    · exact release_orders_nothing _ _ _

end Child

namespace Remote

theorem quit_orders_nothing (id : ProgramId) (timeout : Int) :
    (quit id timeout).Keeps OrdersNothing := by
  have hpoll : (do Timed.measure timeout; poll id (polls timeout) : Act Unit).Keeps OrdersNothing :=
    (Timed.waits_measure timeout).keeps.bind fun _ =>
      keeps_of_writes_nothing (poll_writes_nothing _ _)
  refine Timed.keeps_state.bind fun _ => ?_
  dsimp only
  split
  · exact (writeTo_quit_orders_nothing id).bind fun _ => hpoll
  · exact hpoll

theorem stop_orders_nothing (timeout : Int) : (stop timeout).Keeps OrdersNothing := by
  refine inHand_waits.keeps.bind fun _ => ?_
  split
  · exact keeps_of_writes_nothing disconnect_writes_nothing
  · refine (keeps_of_writes_nothing (hold_writes_nothing _)).bind fun _ => Keeps.bind ?_ fun _ =>
      (keeps_of_writes_nothing (release_writes_nothing _)).bind fun _ => ?_
    · exact ((quit_orders_nothing _ _).bind fun _ => Timed.keeps_pure _).tryCatch fun _ =>
        Timed.keeps_pure _
    · split
      · exact Timed.keeps_pure _
      · split
        · exact Timed.keeps_pure _
        · exact Timed.keeps_throw _
      · exact Timed.keeps_throw _

end Remote

namespace Adapter

theorem stop_orders_nothing (a : Adapter) : a.stop.Keeps OrdersNothing := by
  unfold stop
  split
  · exact Timed.keeps_throw _
  · exact Child.stop_orders_nothing _
  · exact Remote.stop_orders_nothing _

/-! ## Giving a line -/

/-- The line is refused and nothing happens, or it is written, once. -/
def Delivers (line : String) (work : Act Unit) (t : Timeline Rig Happening) : Prop :=
  (∃ e, work t = .error e t) ∨ Writes [commandOf (line ++ "\n")] t (behind work t)

/-- A line for a program is written unless it is refused before. -/
theorem delivers_if (takes : Bool) (told : EquipmentKind → Bool) (fault : EquipmentError → Fault)
    (refusal : Fault) (id : ProgramId) (line : String) (ho : t.Ordered) :
    Delivers line
      (if takes then telling told fault (writeTo id (line ++ "\n")) else throw refusal) t := by
  cases takes with
  | false => exact .inl ⟨refusal, rfl⟩
  | true =>
    refine .inr ?_
    have htelling : (telling told fault (writeTo id (line ++ "\n"))).Keeps
        (Writes [commandOf (line ++ "\n")]) := by
      refine (writeTo_writes id _).rescue (S := Writes []) (fun e => ?_) (fun h => h) Writes.before
      split
      · split <;> exact Timed.keeps_throw _
      · exact Timed.keeps_throw _
    exact (htelling t ho).2

theorem writeLine_delivers (a : Adapter) (line context : String) (ho : t.Ordered) :
    Delivers line (a.writeLine line context) t := by
  unfold writeLine
  split
  · exact .inl ⟨.unsupported, rfl⟩
  · cases hchild : t.state.holdings.child with
    | none => exact .inl ⟨_, Child.writeLine_of_none hchild⟩
    | some id =>
      have hline : Child.writeLine line context t =
          (if Child.isRunning t.state && (t.state.program? id).any (·.script.hasStdin) then
            telling EquipmentKind.isPipe (fun e => .send ⟨context, line, .refused e.text⟩)
              (writeTo id (line ++ "\n"))
          else throw (.send ⟨context, line, .stopped (Child.exitCode t.state)⟩) : Act Unit) t := by
        refine (Timed.state_bind _ t).trans ?_
        simp only [hchild]
        rfl
      rw [Delivers, behind, hline]
      exact delivers_if _ _ _ _ id line ho
  · rename_i login _
    cases hchannel : t.state.holdings.channel with
    | none => exact .inl ⟨_, Remote.writeLine_of_none hchannel⟩
    | some id =>
      have hline : Remote.writeLine login line context t =
          (if Remote.isRunning t.state && t.state.holdings.hasStreams then
            telling EquipmentKind.isChannel
              (fun e => .send ⟨context, line, .refusedOn login.hostname e.text⟩)
              (writeTo id (line ++ "\n"))
          else throw (.send ⟨context, line, .stoppedOn login.hostname⟩) : Act Unit) t := by
        refine (Timed.state_bind _ t).trans ?_
        simp only [hchannel]
        rfl
      rw [Delivers, behind, hline]
      exact delivers_if _ _ _ _ id line ho

end Adapter

/-! ## Sessions -/

namespace Session

/-- No part of a session gives orders. -/
theorem confines_orders (s : Session) : s.Confines OrdersNothing where
  stops := s.adapter.stop_orders_nothing
  holds _ _ := rfl
  stopsReading _ := rfl
  starts _ := s.adapter.start_orders_nothing _ _ _
  attaches t program := by
    have hcalls := congrArg Surroundings.calls
      (settle_surroundings t.now (s.attached program t.state))
    exact Writes.orders_nothing (.nothing hcalls)

/-- A frame is never sent with the word that tells a program to quit. -/
theorem transmission_ne_quit (f : Frame) : f.transmission ≠ Program.quitCommand := by
  intro h
  have hhead := congrArg (fun line => line.toList.head?) h
  simp [Frame.transmission, Adapter.transmitCommand, Program.quitCommand] at hhead

/-- The frame is refused and nothing happens, or it is the one order that is given. -/
theorem send_orders (s : Session) (h : Runs t) (f : Frame) (context : String) :
    (∃ e, s.send f context t = .error e t) ∨
      (behind (s.send f context) t).state.orders = t.state.orders ++ [f.transmission] := by
  let context' := s.contextFor s!"send {f.text}" context
  obtain ⟨m, hm, _⟩ := s.runningMonitor_log "send a message" context' h
  have hsend : s.send f context t = s.adapter.writeLine f.transmission context' t := by
    rw [send, Timed.bind_of_ok hm]
    rfl
  rw [behind, hsend]
  refine (s.adapter.writeLine_delivers f.transmission context' h.sound.ordered).imp_right ?_
  intro hwrites
  have horders := hwrites.orders
  rw [f.commandOf_transmission, List.filter_cons_of_pos (by simp [transmission_ne_quit]),
    List.filter_nil] at horders
  exact horders

end Session

end CecBench
