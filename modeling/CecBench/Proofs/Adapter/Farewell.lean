import CecBench.Proofs.Adapter.Failures

/-!
# What a stop writes

Of all the calls that an adapter makes, a program notices the lines that are
written to its console.  `Rig.Writes` is about those alone.  Most of what a stop
does writes none.  Whatever becomes of the program, a stop tells it to quit once,
if it has not exited, and writes nothing else (`Child.stop_writes` and
`Remote.stop_writes`).
-/

namespace CecBench

open Timed (Keeps Steady behind)
open Rig

variable {t t' : Timeline Rig Happening} {id : ProgramId}

/-- The line that the call writes to the console. -/
def Call.line? : Call → Option String
  | .write line => some line
  | _ => none

namespace Rig

/-- The lines that were written to the console. -/
def lines (r : Rig) : List String := r.surroundings.calls.filterMap Call.line?

theorem lines_append (r : Rig) (c : Call) :
    lines { r with surroundings.calls := r.surroundings.calls ++ [c] } =
      r.lines ++ [c].filterMap Call.line? := List.filterMap_append

theorem lines_of_calls {r s : Rig} (h : r.surroundings.calls = s.surroundings.calls) :
    r.lines = s.lines := congrArg (List.filterMap Call.line?) h

/-- Between the two timelines these lines are written, and no others. -/
def Writes (lines : List String) (t t' : Timeline Rig Happening) : Prop :=
  t'.state.lines = t.state.lines ++ lines

theorem Writes.nothing (h : t'.state.surroundings.calls = t.state.surroundings.calls) :
    Writes [] t t' := (lines_of_calls h).trans (List.append_nil _).symm

theorem Writes.before {lines : List String} {t'' : Timeline Rig Happening} (h : Writes lines t t')
    (h' : Writes [] t' t'') : Writes lines t t'' := by
  rw [Writes, h', List.append_nil, h]

instance : Steady (Writes []) where
  elapses _ h := .nothing (by rw [h.state, replay_surroundings])
  trans := Writes.before

/-! ## Steps of computations -/

variable {lines : List String} {α β : Type}

theorem writes_before {work : Act α} {next : α → Act β} (h : work.Keeps (Writes lines))
    (h' : ∀ a, (next a).Keeps (Writes [])) : (work >>= next).Keeps (Writes lines) :=
  h.chain h' id Writes.before

theorem overlooking_writes (overlooked : EquipmentKind → Bool) {step : Act Unit}
    (h : step.Keeps (Writes lines)) : (overlooking overlooked step).Keeps (Writes lines) := by
  refine h.rescue (S := Writes []) (fun e => ?_) id Writes.before
  split
  · split
    · exact Timed.keeps_pure _
    · exact Timed.keeps_throw _
  · exact Timed.keeps_throw _

theorem note_writes (c : Call) : (note c).Keeps (Writes ([c].filterMap Call.line?)) :=
  Timed.keeps_update fun t => lines_append t.state c

theorem note_writes_nothing {c : Call} (h : c.line? = none) : (note c).Keeps (Writes []) := by
  have hnote := note_writes c
  rwa [List.filterMap_cons_none h] at hnote

theorem hold_writes_nothing (f : Holdings → Holdings) : (hold f).Keeps (Writes []) :=
  Timed.keeps_update fun _ => .nothing rfl

theorem touch_writes_nothing (id : ProgramId) (f : Program → Program) :
    (touch id f).Keeps (Writes []) := by
  refine Timed.keeps_now.bind fun now => Timed.keeps_update fun t => .nothing ?_
  have hcalls : ((t.state.modifyProgram id f).settle now).surroundings.calls = _ :=
    congrArg Surroundings.calls (settle_surroundings now _)
  exact hcalls

theorem schedule_writes_nothing (events : List (Nat × Happening)) :
    (Timed.schedule events : Act Unit).Keeps (Writes []) :=
  fun t ho => by
    refine ⟨ho.scheduleAll _, .nothing ?_⟩
    show (t.scheduleAll events).state.surroundings.calls = _
    rw [Timeline.scheduleAll_state]

theorem prompt_writes_nothing (actions : List ProgramAction) :
    (prompt actions).Keeps (Writes []) := by
  refine Timed.keeps_state.bind fun _ => ?_
  split
  · exact Timed.keeps_pure _
  · exact touch_writes_nothing _ _

theorem plan_writes_nothing (events : List (Nat × List ProgramAction)) :
    (plan events).Keeps (Writes []) := by
  refine Timed.keeps_state.bind fun _ => ?_
  split
  · exact Timed.keeps_pure _
  · exact schedule_writes_nothing _

theorem writeTo_writes (id : ProgramId) (line : String) :
    (writeTo id line).Keeps (Writes [commandOf line]) := by
  refine writes_before (note_writes (.write (commandOf line))) fun _ =>
    Timed.keeps_state.bind fun _ => ?_
  split
  · exact Timed.keeps_pure _
  · exact (failIf_keeps _ _).bind fun _ => (touch_writes_nothing _ _).bind fun _ =>
      schedule_writes_nothing _

/-- What a program is told at the end: to quit, if it has not exited. -/
def farewell (r : Rig) (id : ProgramId) : List String :=
  if (r.exitCode id).isNone then [Program.quitCommand] else []

theorem commandOf_quit : commandOf (Program.quitCommand ++ "\n") = Program.quitCommand := by decide

end Rig

/-! ## Programs on this machine -/

namespace Child

variable {script : ProgramScript} {timeout : Int}

theorem awaitExit_writes_nothing (id : ProgramId) (timeout : Int) :
    (awaitExit id timeout).Keeps (Writes []) :=
  (note_writes_nothing rfl).bind fun _ => (Timed.waits_await _ _).keeps

theorem endByForce_writes_nothing (id : ProgramId) (script : ProgramScript) :
    (endByForce id script).Keeps (Writes []) := by
  have hterminate : (terminate id script).Keeps (Writes []) := by
    refine (note_writes_nothing rfl).bind fun _ => ?_
    split
    · exact touch_writes_nothing _ _
    · exact Timed.keeps_pure _
    · exact Timed.keeps_throw _
  refine hterminate.bind fun _ => (awaitExit_writes_nothing _ _).bind fun exited => ?_
  cases exited with
  | true => exact Timed.keeps_pure _
  | false =>
    exact (note_writes_nothing rfl).bind fun _ => (touch_writes_nothing _ _).bind fun _ =>
      note_writes_nothing rfl

theorem closePipes_writes_nothing (id : ProgramId) (script : ProgramScript) :
    (closePipes id script).Keeps (Writes []) := by
  have hstdin : (closeStdin script).Keeps (Writes []) := by
    unfold closeStdin
    split
    · exact (note_writes_nothing rfl).bind fun _ => failIf_keeps _ _
    · exact Timed.keeps_pure _
  have hstdout : (closeStdout id script).Keeps (Writes []) := by
    unfold closeStdout
    split
    · exact (note_writes_nothing rfl).bind fun _ => (touch_writes_nothing _ _).bind fun _ =>
        failIf_keeps _ _
    · exact Timed.keeps_pure _
  exact (overlooking_writes _ hstdin).bind fun _ => overlooking_writes _ hstdout

theorem quit_writes (id : ProgramId) (h : script.hasStdin = true) :
    (quit id script).Keeps (Writes [Program.quitCommand]) := by
  rw [quit, if_pos h, ← commandOf_quit]
  exact writeTo_writes _ _

theorem release_writes (ho : t.Ordered) (h : script.hasStdin = true) :
    Writes (farewell t.state id) t (behind (release id script timeout) t) := by
  cases hnone : (t.state.exitCode id).isNone with
  | false =>
    rw [behind, release_of_exited hnone, farewell, hnone]
    exact (closePipes_writes_nothing id script t ho).2
  | true =>
    rw [behind, release_of_running hnone, farewell, hnone]
    have hquit := overlooking_writes EquipmentKind.isPipe (quit_writes id h)
    refine (writes_before hquit fun _ => ?_ : Keeps (Writes _) _) t ho |>.2
    refine (Timed.waits_measure _).keeps.bind fun _ => (awaitExit_writes_nothing _ _).bind
      fun exited => ?_
    cases exited with
    | true => exact closePipes_writes_nothing _ _
    | false =>
      exact (overlooking_writes _ (endByForce_writes_nothing _ _)).bind fun _ =>
        closePipes_writes_nothing _ _

theorem stop_writes {p : Program} (ho : t.Ordered) (h : t.state.holdings.child = some id)
    (hp : t.state.program? id = some p) (hstdin : p.script.hasStdin = true) :
    Writes (farewell t.state id) t (behind (stop timeout) t) := by
  rw [behind, stop_of_some timeout h, letGo, hp]
  exact release_writes (t := { t with state.holdings.child := none }) (ho.withState _) hstdin

end Child

/-! ## Programs on another machine -/

namespace Remote

theorem disconnect_writes_nothing : Connection.disconnect.Keeps (Writes []) := by
  have hclose (id : ClientId) : (Connection.closeClient id).Keeps (Writes []) :=
    (note_writes_nothing rfl).bind fun _ => (Timed.keeps_update fun _ => .nothing rfl).bind fun _ =>
      Timed.keeps_state.bind fun _ => failIf_keeps _ _
  refine inHand_waits.keeps.bind fun h => ?_
  split
  · exact Timed.keeps_pure _
  · exact (overlooking_writes _ (hclose _)).bind fun _ => hold_writes_nothing _

theorem release_writes_nothing (id : ProgramId) : (release id).Keeps (Writes []) := by
  have hclose : (closeChannel id).Keeps (Writes []) :=
    (note_writes_nothing rfl).bind fun _ => (touch_writes_nothing _ _).bind fun _ =>
      Timed.keeps_state.bind fun _ => failIf_keeps _ _
  exact (overlooking_writes _ hclose).bind fun _ => (hold_writes_nothing _).bind fun _ =>
    disconnect_writes_nothing

theorem poll_writes_nothing (id : ProgramId) (n : Nat) : (poll id n).Keeps (Writes []) := by
  induction n with
  | zero => exact Timed.keeps_pure _
  | succ n ih =>
    refine Timed.keeps_state.bind fun _ => ?_
    split
    · exact (Timed.waits_sleep _).keeps.bind fun _ => ih
    · exact Timed.keeps_pure _

/-- If there is an input, the program is told to quit, unless it has exited. -/
def Dismisses (id : ProgramId) (t t' : Timeline Rig Happening) : Prop :=
  t.state.holdings.hasStreams = true → Writes (farewell t.state id) t t'

theorem Dismisses.before {t'' : Timeline Rig Happening} (h : Dismisses id t t')
    (h' : Writes [] t' t'') : Dismisses id t t'' := fun hstreams => (h hstreams).before h'

theorem dismisses_before {α β : Type} {work : Act α} {next : α → Act β}
    (h : work.Keeps (Dismisses id)) (h' : ∀ a, (next a).Keeps (Writes [])) :
    (work >>= next).Keeps (Dismisses id) := h.chain h' (fun h => h) Dismisses.before

theorem quit_dismisses (id : ProgramId) (timeout : Int) :
    (quit id timeout).Keeps (Dismisses id) := by
  have hattend : (attend id timeout).Keeps (Writes []) :=
    (Timed.waits_measure _).keeps.bind fun _ => poll_writes_nothing _ _
  have htell : (tell id).Keeps (Dismisses id) := by
    refine Timed.keeps_look fun t ho => ?_
    cases hnone : (t.state.exitCode id).isNone with
    | false =>
      rw [isTold, hnone, Bool.false_and, if_neg Bool.false_ne_true]
      refine ⟨ho, fun _ => ?_⟩
      rw [farewell, hnone]
      exact .nothing rfl
    | true =>
      cases hstreams : t.state.holdings.hasStreams with
      | false =>
        rw [isTold, hnone, hstreams, Bool.and_false, if_neg Bool.false_ne_true]
        exact ⟨ho, fun h => by simp [hstreams] at h⟩
      | true =>
        rw [isTold, hnone, hstreams, Bool.and_self, if_pos rfl]
        obtain ⟨ho', hwritten⟩ := writeTo_writes id (Program.quitCommand ++ "\n") t ho
        refine ⟨ho', fun _ => ?_⟩
        rw [farewell, hnone]
        exact commandOf_quit ▸ hwritten
  rw [quit_eq]
  exact dismisses_before htell fun _ => hattend

theorem letGo_dismisses (id : ProgramId) (timeout : Int) :
    (letGo id timeout).Keeps (Dismisses id) := by
  have hquit : (do quit id timeout; pure none : Act (Option Fault)).Keeps (Dismisses id) :=
    dismisses_before (quit_dismisses id timeout) fun _ => Timed.keeps_pure _
  have htry := hquit.rescue (S := Writes []) (fun e => Timed.keeps_pure (some e)) (fun h => h)
    Dismisses.before
  refine dismisses_before htry fun _ => (release_writes_nothing _).bind fun _ => ?_
  split
  · exact Timed.keeps_pure _
  · split
    · exact Timed.keeps_pure _
    · exact Timed.keeps_throw _
  · exact Timed.keeps_throw _

theorem stop_writes {timeout : Int} (ho : t.Ordered) (h : t.state.holdings.channel = some id)
    (hstreams : t.state.holdings.hasStreams = true) :
    Writes (farewell t.state id) t (behind (stop timeout) t) := by
  rw [behind, stop_of_some timeout h]
  exact (letGo_dismisses id timeout { t with state.holdings.channel := none }
    (ho.withState _)).2 hstreams

end Remote

end CecBench
