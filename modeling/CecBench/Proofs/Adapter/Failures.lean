import CecBench.Proofs.Adapter.Clients
import CecBench.Proofs.Adapter.Orphans

/-!
# Stops that fail

Stopping an adapter asks the surroundings for a number of things, and each of
these calls can fail.  Most failures are expected and overlooked, but which ones
depends on the call: a pipe may fail as pipes do, a signal as the operating system
does, and a channel as the secure shell does as well.  `surprise?` tells, for each
call, the kind of failure that is not expected of it.

`Answered` says how a computation ends that makes calls: well, or with the report
of the call that failed.  Through it a stop is gone through from its smallest
parts.  By `stop_fails_iff` it fails exactly if one of the calls made has a failure
that is not expected, or if its time cannot be measured and it comes to waiting.
Even then the adapter is not running any more.
-/

namespace CecBench

open Timed (behind FailsOnly)
open Rig

variable {α β : Type} {t t' t'' : Timeline Rig Happening} {id : ProgramId}

theorem EquipmentKind.report_kind (kind : EquipmentKind) (text : String) :
    (kind.report text).kind = kind := by
  cases kind <;> rfl

namespace Rig

/-! ## Calls that are made -/

/-- From the first timeline to the second one these calls are made. -/
def Makes (t : Timeline Rig Happening) (made : List Call) (t' : Timeline Rig Happening) : Prop :=
  t'.state.surroundings.calls = t.state.surroundings.calls ++ made

theorem Makes.none (h : t'.state.surroundings.calls = t.state.surroundings.calls) :
    Makes t [] t' := h.trans (List.append_nil _).symm

theorem Makes.trans {made more : List Call} (h : Makes t made t') (h' : Makes t' more t'') :
    Makes t (made ++ more) t'' := by
  rw [Makes, h', h, List.append_assoc]

/-- The calls that were made between the two timelines. -/
def callsSince (t t' : Timeline Rig Happening) : List Call :=
  t'.state.surroundings.calls.drop t.state.surroundings.calls.length

theorem Makes.callsSince_eq {made : List Call} (h : Makes t made t') : callsSince t t' = made := by
  rw [callsSince, h, List.drop_left]

theorem wait_makes_none (wished : Rig → Bool) (timeout : Int) :
    Makes t [] (t.wait wished timeout).2 := by
  refine .none ?_
  cases hw : wished t.state with
  | true => rw [Timeline.wait, if_pos hw]
  | false =>
    rw [Timeline.wait, if_neg (by simp [hw])]
    have hends := Timeline.advance_ends wished (t.now + timeout.toNat) t.agenda t.state hw
    generalize Timeline.advance wished (t.now + timeout.toNat) t.agenda t.state = r at hends
    cases hends <;> rw [replay_surroundings]

/-! ## How calls end -/

/-- How a computation ends that makes calls, where `risk` tells for each call the kind of failure
that matters, if it can fail in such a way. -/
inductive Answered (risk : Call → Option EquipmentKind) (overlooked : EquipmentKind → Bool)
    (t : Timeline Rig Happening) : EStateM.Result Fault (Timeline Rig Happening) α → Prop
  | well {a : α} {t' : Timeline Rig Happening} {made : List Call} :
    Makes t made t' → (∀ c ∈ made, risk c = none) → Answered risk overlooked t (.ok a t')
  /-- The last call fails.  That matters, unless failures of this kind are overlooked. -/
  | badly {t' : Timeline Rig Happening} {made : List Call} {c : Call} {kind : EquipmentKind}
    (text : String) : Makes t (made ++ [c]) t' → (∀ c ∈ made, risk c = none) →
    risk c = (if overlooked kind then none else some kind) →
    Answered risk overlooked t (.error (.equipment (kind.report text)) t')

/-- Nothing is overlooked. -/
def nothing (_ : EquipmentKind) : Bool := false

variable {risk : Call → Option EquipmentKind} {overlooked : EquipmentKind → Bool}

theorem Answered.quiet {a : α} (h : t'.state.surroundings.calls = t.state.surroundings.calls) :
    Answered risk overlooked t (.ok a t') :=
  .well (.none h) fun _ hc => by cases hc

/-- Calls made before that do not matter may count as well. -/
theorem Answered.since {result : EStateM.Result Fault (Timeline Rig Happening) α}
    {made : List Call} (h : Answered risk overlooked t' result) (hmade : Makes t made t')
    (hnone : ∀ c ∈ made, risk c = none) : Answered risk overlooked t result := by
  cases h with
  | well hmore hnone' =>
    exact .well (hmade.trans hmore) (List.forall_mem_append.mpr ⟨hnone, hnone'⟩)
  | badly text hmore hnone' hlast =>
    refine .badly text ?_ (List.forall_mem_append.mpr ⟨hnone, hnone'⟩) hlast
    rw [List.append_assoc]
    exact hmade.trans hmore

theorem Answered.bind {work : Act α} {next : α → Act β} (h : Answered risk overlooked t (work t))
    (h' : ∀ a t', work t = .ok a t' → Answered risk overlooked t' (next a t')) :
    Answered risk overlooked t ((work >>= next) t) := by
  cases hw : work t with
  | error e t' =>
    rw [Timed.bind_of_error hw]
    rw [hw] at h
    cases h with
    | badly text hmade hnone hlast => exact .badly text hmade hnone hlast
  | ok a t' =>
    rw [Timed.bind_of_ok hw]
    rw [hw] at h
    cases h with
    | well hmade hnone => exact (h' a t' hw).since hmade hnone

/-- What is overlooked does not matter. -/
theorem Answered.overlooking {step : Act Unit} (h : Answered risk overlooked t (step t)) :
    Answered risk nothing t (Rig.overlooking overlooked step t) := by
  cases hstep : step t with
  | ok _ t' =>
    rw [Rig.overlooking, Timed.tryCatch_of_ok hstep]
    rw [hstep] at h
    cases h with
    | well hmade hnone => exact .well hmade hnone
  | error e t' =>
    rw [Rig.overlooking, Timed.tryCatch_of_error hstep]
    rw [hstep] at h
    cases h with
    | @badly _ made c kind text hmade hnone hlast =>
      simp only [EquipmentKind.report_kind]
      by_cases hover : overlooked kind = true
      · rw [if_pos hover] at hlast ⊢
        exact .well hmade (List.forall_mem_append.mpr ⟨hnone, by simpa using hlast⟩)
      · rw [if_neg hover] at hlast ⊢
        exact .badly text hmade hnone hlast

theorem note_answered {c : Call} (h : risk c = none) : Answered risk overlooked t (note c t) :=
  .well (show Makes t [c] _ from rfl) (by simpa using h)

theorem touch_calls (f : Program → Program) :
    (behind (touch id f) t).state.surroundings.calls = t.state.surroundings.calls := by
  have hcalls : ((t.state.modifyProgram id f).settle t.now).surroundings.calls = _ :=
    congrArg Surroundings.calls (settle_surroundings t.now _)
  exact hcalls

theorem touch_answered {f : Program → Program} : Answered risk overlooked t (touch id f t) :=
  .quiet (touch_calls f)

theorem await_answered {wished : Rig → Bool} {timeout : Int} :
    Answered risk overlooked t ((Timed.await wished timeout : Act Bool) t) :=
  .well (wait_makes_none wished timeout) fun _ hc => by cases hc

/-- A kind of failure, unless it is expected. -/
def unexpected (expected : EquipmentKind → Bool) (kind : Option EquipmentKind) :
    Option EquipmentKind := kind.filter fun k => !expected k

@[simp] theorem unexpected_none (expected : EquipmentKind → Bool) :
    unexpected expected none = none := rfl

theorem unexpected_some (expected : EquipmentKind → Bool) (kind : EquipmentKind) :
    unexpected expected (some kind) = if expected kind then none else some kind := by
  cases h : expected kind <;> simp [unexpected, h]

/-- The first call fails. -/
theorem Answered.failed {c : Call} {kind : EquipmentKind} (text : String) (hmade : Makes t [c] t')
    (hrisk : risk c = unexpected overlooked (some kind)) :
    @Answered α risk overlooked t (.error (.equipment (kind.report text)) t') :=
  .badly text (show Makes t ([] ++ [c]) t' from hmade) (List.forall_mem_nil _)
    (hrisk.trans (unexpected_some _ _))

/-- The line as a command, without the line feeds at its end. -/
def commandOf (line : String) : String :=
  String.ofList (Text.dropTrailing (· == '\n') line.toList)

theorem writeTo_apply (line : String) : writeTo id line t = (match t.state.program? id with
    | none => pure ()
    | some p => do
      failIf p.script.writeFailure "write failed"
      touch id fun p => p.receive (commandOf line)
      Timed.schedule ((p.receiveLater (commandOf line)).map fun e => (e.1, ⟨id, e.2⟩)) : Act Unit)
    (asked (.write (commandOf line)) t) := rfl

/-- The failure of the input of a program. -/
def inputFailure? (r : Rig) (id : ProgramId) : Option EquipmentKind :=
  (r.program? id).bind fun p => p.script.writeFailure

theorem writeTo_fails (line : String) {kind : EquipmentKind}
    (h : inputFailure? t.state id = some kind) :
    writeTo id line t =
      .error (.equipment (kind.report "write failed")) (asked (.write (commandOf line)) t) := by
  obtain ⟨p, hp, hfailure⟩ := Option.bind_eq_some_iff.mp h
  rw [writeTo_apply, hp]
  dsimp only
  rw [hfailure]
  rfl

/-- Giving a program a line is a call that fails if its input does. -/
theorem writeTo_answered {line : String}
    (hrisk : ∀ command, risk (.write command) = unexpected overlooked (inputFailure? t.state id)) :
    Answered risk overlooked t (writeTo id line t) := by
  have hmade : Makes t [.write (commandOf line)] (asked (.write (commandOf line)) t) := rfl
  cases hfailure : inputFailure? t.state id with
  | some kind =>
    rw [writeTo_fails line hfailure]
    rw [hfailure] at hrisk
    exact .failed _ hmade (hrisk _)
  | none =>
    rw [hfailure] at hrisk
    rw [writeTo_apply]
    refine Answered.since ?_ hmade (by simpa using hrisk (commandOf line))
    cases hp : t.state.program? id with
    | none => exact .quiet rfl
    | some p =>
      have hinput : p.script.writeFailure = none := by simpa [inputFailure?, hp] using hfailure
      dsimp only
      rw [hinput]
      exact Answered.bind (.quiet rfl) fun _ _ _ => touch_answered.bind fun _ _ _ =>
        .quiet (by rw [Timeline.scheduleAll_state])

/-- It fails with nothing else. -/
theorem writeTo_succeeds (line : String) (h : inputFailure? t.state id = none) :
    ∃ made u, writeTo id line t = .ok () u ∧ Makes t made u := by
  have hwrite : Answered (fun _ => none) nothing t (writeTo id line t) :=
    writeTo_answered fun _ => (congrArg (unexpected nothing) h).symm
  generalize writeTo id line t = result at hwrite ⊢
  cases hwrite with
  | well hmade _ => exact ⟨_, _, rfl, hmade⟩
  | badly _ _ _ hlast => cases hlast

/-- A call that fails if there is a failure, where more may happen before it does. -/
theorem call_answered {c : Call} {failure : Option EquipmentKind} {text : String}
    (more : Act Unit) {noted u : Timeline Rig Happening} (hnote : note c t = .ok () noted)
    (hmore : more noted = .ok () u)
    (hcalls : u.state.surroundings.calls = noted.state.surroundings.calls)
    (hrisk : risk c = unexpected overlooked failure) :
    Answered risk overlooked t ((do note c; more; failIf failure text : Act Unit) t) := by
  rw [Timed.bind_of_ok hnote, Timed.bind_of_ok hmore]
  have hmade : Makes t [c] u := by
    cases hnote
    exact hcalls
  cases failure with
  | none => exact .well hmade (by simpa using hrisk)
  | some kind =>
    exact .failed text hmade hrisk

/-- How a stop ends: well, with the report of a call that has an unexpected failure, or because its
time cannot be measured. -/
inductive StopEnds (risk : Call → Option EquipmentKind) (long : Prop)
    (t : Timeline Rig Happening) : EStateM.Result Fault (Timeline Rig Happening) Unit → Prop
  | well {t' : Timeline Rig Happening} {made : List Call} :
    Makes t made t' → (∀ c ∈ made, risk c = none) → ¬ long → StopEnds risk long t (.ok () t')
  | badly {t' : Timeline Rig Happening} {made : List Call} {c : Call} {kind : EquipmentKind}
    (text : String) : Makes t made t' → c ∈ made → risk c = some kind →
    StopEnds risk long t (.error (.equipment (kind.report text)) t')
  | immeasurable {t' : Timeline Rig Happening} {made : List Call} :
    Makes t made t' → long → StopEnds risk long t (.error .immeasurable t')

/-- Only the calls matter. -/
theorem StopEnds.of_calls {long : Prop}
    {result : EStateM.Result Fault (Timeline Rig Happening) Unit}
    (h : StopEnds risk long t' result)
    (hcalls : t'.state.surroundings.calls = t.state.surroundings.calls) :
    StopEnds risk long t result := by
  have hmakes {made : List Call} {u : Timeline Rig Happening} (hmade : Makes t' made u) :
      Makes t made u := Eq.trans hmade (congrArg (· ++ made) hcalls)
  cases h with
  | well hmade hnone hlong => exact .well (hmakes hmade) hnone hlong
  | badly text hmade hc hkind => exact .badly text (hmakes hmade) hc hkind
  | immeasurable hmade hlong => exact .immeasurable (hmakes hmade) hlong

theorem Answered.stopEnds {result : EStateM.Result Fault (Timeline Rig Happening) Unit}
    {long : Prop} (h : Answered risk nothing t result) (hlong : ¬ long) :
    StopEnds risk long t result := by
  cases h with
  | well hmade hnone => exact .well hmade hnone hlong
  | badly text hmade _ hlast => exact .badly text hmade (by simp) hlast

end Rig

/-! ## Programs on this machine -/

namespace Child

variable {script : ProgramScript} {timeout : Int}

/-- The kinds of failure that stopping a program does not expect of its calls. -/
def surprise? (script : ProgramScript) : Call → Option EquipmentKind
  | .write _ => unexpected EquipmentKind.isPipe script.writeFailure
  | .terminate =>
    match script.terminate with
    | .fails kind => unexpected EquipmentKind.isSystem (some kind)
    | .exits | .ignores => none
  | .closeStdin => unexpected EquipmentKind.isPipe script.stdinCloseFailure
  | .closeStdout => unexpected EquipmentKind.isPipe script.stdoutCloseFailure
  | _ => none

theorem terminate_answered :
    Answered (surprise? script) EquipmentKind.isSystem t (terminate id script t) := by
  have hmade : Makes t [.terminate] (asked .terminate t) := rfl
  cases hreaction : script.terminate with
  | exits =>
    have hterminate : terminate id script t =
        (touch id fun p => p.act (.exits Program.terminatedCode)) (asked .terminate t) := by
      simp only [terminate, hreaction]
      rfl
    rw [hterminate]
    exact touch_answered.since hmade (by simp [surprise?, hreaction])
  | ignores =>
    have hterminate : terminate id script t = .ok () (asked .terminate t) := by
      simp only [terminate, hreaction]
      rfl
    rw [hterminate]
    exact .well hmade (by simp [surprise?, hreaction])
  | fails kind =>
    have hterminate : terminate id script t =
        .error (.equipment (kind.report "terminate failed")) (asked .terminate t) := by
      simp only [terminate, hreaction]
      rfl
    rw [hterminate]
    refine .failed _ hmade ?_
    rw [surprise?, hreaction]

theorem awaitExit_answered {overlooked : EquipmentKind → Bool} :
    Answered (surprise? script) overlooked t (awaitExit id timeout t) :=
  (note_answered rfl).bind fun _ _ _ => await_answered

theorem kill_answered {overlooked : EquipmentKind → Bool} :
    Answered (surprise? script) overlooked t (kill id t) :=
  (note_answered rfl).bind fun _ _ _ => touch_answered.bind fun _ _ _ => note_answered rfl

theorem endByForce_answered :
    Answered (surprise? script) EquipmentKind.isSystem t (endByForce id script t) := by
  refine terminate_answered.bind fun _ _ _ => awaitExit_answered.bind fun exited _ _ => ?_
  cases exited
  · exact kill_answered
  · exact .quiet rfl

theorem closeStdin_answered :
    Answered (surprise? script) EquipmentKind.isPipe t (closeStdin script t) := by
  unfold closeStdin
  split
  · exact call_answered (pure ()) rfl rfl rfl rfl
  · exact .quiet rfl

theorem closeStdout_answered :
    Answered (surprise? script) EquipmentKind.isPipe t (closeStdout id script t) := by
  unfold closeStdout
  split
  · exact call_answered _ rfl rfl (touch_calls _) rfl
  · exact .quiet rfl

theorem closePipes_answered :
    Answered (surprise? script) nothing t (closePipes id script t) :=
  closeStdin_answered.overlooking.bind fun _ _ _ => closeStdout_answered.overlooking

theorem quit_answered {p : Program} (hp : t.state.program? id = some p) :
    Answered (surprise? p.script) EquipmentKind.isPipe t (quit id p.script t) := by
  unfold quit
  split
  · exact writeTo_answered fun _ => by rw [inputFailure?, hp]; rfl
  · exact .quiet rfl

theorem release_of_exited (h : (t.state.exitCode id).isNone = false) :
    release id script timeout t = closePipes id script t := by
  show (if _ then _ else _ : Act Unit) t = _
  rw [if_neg (by simp [h])]
  rfl

theorem release_of_running (h : (t.state.exitCode id).isNone = true) :
    release id script timeout t = (do
      overlooking EquipmentKind.isPipe (quit id script)
      Timed.measure timeout
      let exited ← awaitExit id timeout
      unless exited do overlooking EquipmentKind.isSystem (endByForce id script)
      closePipes id script : Act Unit) t := by
  show (if _ then _ else _ : Act Unit) t = _
  rw [if_pos h]
  rfl

theorem release_stopEnds {p : Program} (hp : t.state.program? id = some p) :
    StopEnds (surprise? p.script) (t.state.exitCode id = none ∧ isMeasurable timeout = false) t
      (release id p.script timeout t) := by
  cases hnone : (t.state.exitCode id).isNone with
  | false =>
    rw [release_of_exited hnone]
    refine closePipes_answered.stopEnds fun h => ?_
    simp [h.1] at hnone
  | true =>
    rw [release_of_running hnone]
    have hquit := (quit_answered hp).overlooking
    cases hmeasure : isMeasurable timeout with
    | true =>
      refine Answered.stopEnds ?_ (by simp)
      rw [Timed.measure_of_measurable hmeasure]
      refine hquit.bind fun _ _ _ => Answered.bind (.quiet rfl) fun _ _ _ =>
        awaitExit_answered.bind fun exited _ _ => ?_
      cases exited
      · exact endByForce_answered.overlooking.bind fun _ _ _ => closePipes_answered
      · exact closePipes_answered
    | false =>
      rw [Timed.measure_of_immeasurable hmeasure]
      cases hq : overlooking EquipmentKind.isPipe (quit id p.script) t with
      | ok _ u =>
        rw [Timed.bind_of_ok hq]
        rw [hq] at hquit
        cases hquit with
        | well hmade _ => exact .immeasurable hmade ⟨Option.isNone_iff_eq_none.mp hnone, rfl⟩
      | error e u =>
        rw [Timed.bind_of_error hq]
        rw [hq] at hquit
        cases hquit with
        | badly text hmade _ hlast => exact .badly text hmade (by simp) hlast

theorem stop_stopEnds (timeout : Int) {p : Program} (hchild : t.state.holdings.child = some id)
    (hp : t.state.program? id = some p) :
    StopEnds (surprise? p.script) (t.state.exitCode id = none ∧ isMeasurable timeout = false) t
      (stop timeout t) := by
  rw [stop_of_some timeout hchild, letGo, hp]
  exact (release_stopEnds (t := { t with state.holdings.child := none }) hp).of_calls rfl

end Child

/-! ## Programs on another machine -/

namespace Remote

variable {timeout : Int}

/-- The kinds of failure that stopping a program does not expect of its calls, where its input may
have a failure.  A failure to close the channel or the connection is always expected. -/
def surprise? (inputFailure : Option EquipmentKind) : Call → Option EquipmentKind
  | .write _ => unexpected EquipmentKind.isChannel inputFailure
  | _ => none

theorem surprise?_none (c : Call) : surprise? none c = none := by cases c <;> rfl

/-- The program is told to quit. -/
def isTold (r : Rig) (id : ProgramId) : Bool := (r.exitCode id).isNone && r.holdings.hasStreams

/-- Stopping comes to waiting for the program: its input does not fail when the program is told to
quit. -/
def IsWaitedFor (r : Rig) (id : ProgramId) : Prop :=
  isTold r id = true → inputFailure? r id = none

/-- Tells the program to quit, unless it has exited. -/
def tell (id : ProgramId) : Act Unit := do
  if isTold (← Timed.state) id then writeTo id (Program.quitCommand ++ "\n")

/-- Gives the program time to exit. -/
def attend (id : ProgramId) (timeout : Int) : Act Unit := do
  Timed.measure timeout
  poll id (polls timeout)

theorem tell_apply (id : ProgramId) (t : Timeline Rig Happening) : tell id t =
    (if isTold t.state id then writeTo id (Program.quitCommand ++ "\n") else pure () : Act Unit) t :=
  rfl

theorem quit_eq (id : ProgramId) (timeout : Int) :
    quit id timeout = (do tell id; attend id timeout : Act Unit) := by
  funext t
  have htell := tell_apply id t
  show (if isTold t.state id then _ else _ : Act Unit) t = _
  cases htold : isTold t.state id with
  | true =>
    rw [htold, if_pos rfl] at htell
    rw [if_pos rfl]
    exact Timed.bind_congr htell.symm
  | false =>
    rw [htold, if_neg (by simp)] at htell
    rw [if_neg (by simp), Timed.bind_of_ok htell]
    rfl

theorem poll_succeeds (id : ProgramId) (n : Nat) (t : Timeline Rig Happening) :
    ∃ u, poll id n t = .ok () u ∧ Makes t [] u := by
  induction n generalizing t with
  | zero => exact ⟨t, rfl, .none rfl⟩
  | succ n ih =>
    cases hnone : (t.state.exitCode id).isNone with
    | false =>
      refine ⟨t, ?_, .none rfl⟩
      show (if _ then _ else _ : Act Unit) t = _
      rw [if_neg (by simp [hnone])]
      rfl
    | true =>
      let slept := (t.wait (fun _ => false) pollInterval).2
      obtain ⟨u, hpoll, hmade⟩ := ih slept
      refine ⟨u, ?_, (wait_makes_none (t := t) _ _).trans hmade⟩
      show (if _ then _ else _ : Act Unit) t = _
      rw [if_pos hnone]
      exact hpoll

/-- A channel is closed even if that fails. -/
theorem closeChannel_overlooked (id : ProgramId) (t : Timeline Rig Happening) :
    ∃ u, overlooking (fun _ => true) (closeChannel id) t = .ok () u ∧
      Makes t [.closeChannel] u := by
  let shut := behind (touch id fun p => p.act .endsOutput) (asked .closeChannel t)
  have hmade : Makes t [.closeChannel] shut := touch_calls (t := asked .closeChannel t) _
  have hclose : closeChannel id t =
      failIf shut.state.surroundings.host.channelCloseFailure "close failed" shut := rfl
  refine ⟨shut, ?_, hmade⟩
  cases hfailure : shut.state.surroundings.host.channelCloseFailure with
  | none =>
    rw [hfailure] at hclose
    exact Timed.tryCatch_of_ok hclose
  | some kind =>
    rw [hfailure] at hclose
    exact Timed.tryCatch_of_error hclose

theorem disconnect_succeeds (t : Timeline Rig Happening) :
    ∃ made u, Connection.disconnect t = .ok () u ∧ Makes t made u ∧ ∀ c ∈ made, c = .disconnect := by
  cases hclient : t.state.holdings.client with
  | none => exact ⟨[], t, Connection.disconnect_of_none hclient, .none rfl, List.forall_mem_nil _⟩
  | some id =>
    exact ⟨[.disconnect], _, Connection.disconnect_of_some hclient, rfl,
      fun _ => List.mem_singleton.mp⟩

theorem release_succeeds (failure : Option EquipmentKind) (id : ProgramId)
    (t : Timeline Rig Happening) :
    ∃ made u, release id t = .ok () u ∧ Makes t made u ∧
      ∀ c ∈ made, surprise? failure c = none := by
  obtain ⟨u, hclose, hmade⟩ := closeChannel_overlooked id t
  obtain ⟨more, v, hdisconnect, hmore, hnone⟩ :=
    disconnect_succeeds { u with state.holdings.hasStreams := false }
  refine ⟨_, v, (Timed.bind_of_ok hclose).trans hdisconnect, hmade.trans hmore, ?_⟩
  refine List.forall_mem_append.mpr ⟨by simp [surprise?], fun c hc => ?_⟩
  rw [hnone c hc]
  rfl

theorem tell_succeeds (h : IsWaitedFor t.state id) :
    ∃ made u, tell id t = .ok () u ∧ Makes t made u ∧
      ∀ c ∈ made, surprise? (inputFailure? t.state id) c = none := by
  have htell := tell_apply id t
  cases htold : isTold t.state id with
  | false =>
    rw [htell, htold]
    exact ⟨[], t, rfl, .none rfl, List.forall_mem_nil _⟩
  | true =>
    have hinput := h htold
    obtain ⟨made, u, hwrite, hmade⟩ :=
      writeTo_succeeds (Program.quitCommand ++ "\n") hinput
    rw [htell, htold, hinput]
    exact ⟨made, u, hwrite, hmade, fun c _ => surprise?_none c⟩

theorem letGo_of_ok {timeout : Int} {u v : Timeline Rig Happening}
    (hquit : quit id timeout t = .ok () u) (hrelease : release id u = .ok () v) :
    letGo id timeout t = .ok () v := by
  have htry : (do quit id timeout; pure none : Act (Option Fault)) t = .ok none u :=
    Timed.bind_of_ok hquit
  rw [letGo, Timed.bind_of_ok (Timed.tryCatch_of_ok htry), Timed.bind_of_ok hrelease]
  rfl

theorem letGo_of_error {timeout : Int} {e : Fault} {u v : Timeline Rig Happening}
    (hquit : quit id timeout t = .error e u) (hrelease : release id u = .ok () v) :
    letGo id timeout t = (match e with
      | .equipment e => if e.kind.isChannel then pure () else throw (.equipment e)
      | e => throw e : Act Unit) v := by
  have htry : (do quit id timeout; pure none : Act (Option Fault)) t = .error e u :=
    Timed.bind_of_error hquit
  have hcaught : (tryCatch (do quit id timeout; pure none) fun e => pure (some e) :
      Act (Option Fault)) t = .ok (some e) u := Timed.tryCatch_of_error htry
  rw [letGo, Timed.bind_of_ok hcaught, Timed.bind_of_ok hrelease]
  cases e <;> rfl

/-- The program is told to quit, or need not be. -/
theorem letGo_of_waited {timeout : Int} (hwaited : IsWaitedFor t.state id) :
    StopEnds (surprise? (inputFailure? t.state id))
      (IsWaitedFor t.state id ∧ isMeasurable timeout = false) t (letGo id timeout t) := by
  obtain ⟨made, u, htell, hmade, hnone⟩ := tell_succeeds hwaited
  have hquit : quit id timeout t = attend id timeout u := by
    rw [quit_eq, Timed.bind_of_ok htell]
  cases hmeasure : isMeasurable timeout with
  | true =>
    obtain ⟨v, hpoll, hquiet⟩ := poll_succeeds id (polls timeout) u
    obtain ⟨more, w, hrelease, hmore, hnone'⟩ :=
      release_succeeds (inputFailure? t.state id) id v
    have hattend : attend id timeout u = .ok () v := by
      rw [attend, Timed.measure_of_measurable hmeasure]
      exact hpoll
    rw [letGo_of_ok (hquit.trans hattend) hrelease]
    refine .well ((hmade.trans hquiet).trans hmore) ?_ (by simp)
    rw [List.append_nil]
    exact List.forall_mem_append.mpr ⟨hnone, hnone'⟩
  | false =>
    obtain ⟨more, w, hrelease, hmore, _⟩ := release_succeeds none id u
    have hattend : attend id timeout u = .error .immeasurable u := by
      rw [attend, Timed.measure_of_immeasurable hmeasure]
      rfl
    rw [letGo_of_error (hquit.trans hattend) hrelease]
    exact .immeasurable (hmade.trans hmore) ⟨hwaited, rfl⟩

/-- The command to quit does not reach the program, and so nobody waits for it. -/
theorem letGo_of_not_waited {timeout : Int} (hwaited : ¬ IsWaitedFor t.state id) :
    StopEnds (surprise? (inputFailure? t.state id))
      (IsWaitedFor t.state id ∧ isMeasurable timeout = false) t (letGo id timeout t) := by
  obtain ⟨htold, hfails⟩ := Classical.not_imp.mp hwaited
  obtain ⟨kind, hkind⟩ := Option.ne_none_iff_exists'.mp hfails
  have htell : tell id t = .error (.equipment (kind.report "write failed"))
      (asked (.write (commandOf (Program.quitCommand ++ "\n"))) t) := by
    rw [tell_apply, htold, if_pos rfl]
    exact writeTo_fails _ hkind
  have hquit := (congrFun (quit_eq id timeout) t).trans (Timed.bind_of_error htell)
  obtain ⟨more, w, hrelease, hmore, hnone⟩ := release_succeeds (inputFailure? t.state id) id
    (asked (.write (commandOf (Program.quitCommand ++ "\n"))) t)
  have hwritten : Makes t [.write (commandOf (Program.quitCommand ++ "\n"))]
      (asked (.write (commandOf (Program.quitCommand ++ "\n"))) t) := rfl
  have hmade := hwritten.trans hmore
  have hrisk (command : String) : surprise? (inputFailure? t.state id) (.write command) =
      if kind.isChannel then none else some kind := by
    rw [surprise?, hkind, unexpected_some]
  rw [letGo_of_error hquit hrelease]
  simp only [EquipmentKind.report_kind]
  by_cases hchannel : kind.isChannel = true
  · rw [if_pos hchannel]
    refine .well hmade (List.forall_mem_cons.mpr ⟨?_, hnone⟩) fun h => hwaited h.1
    rw [hrisk, if_pos hchannel]
  · rw [if_neg hchannel]
    refine .badly _ hmade (List.mem_cons_self ..) ?_
    rw [hrisk, if_neg hchannel]

theorem letGo_stopEnds {timeout : Int} :
    StopEnds (surprise? (inputFailure? t.state id))
      (IsWaitedFor t.state id ∧ isMeasurable timeout = false) t (letGo id timeout t) := by
  by_cases hwaited : IsWaitedFor t.state id
  · exact letGo_of_waited hwaited
  · exact letGo_of_not_waited hwaited

theorem stop_stopEnds (timeout : Int) (hchannel : t.state.holdings.channel = some id) :
    StopEnds (surprise? (inputFailure? t.state id))
      (IsWaitedFor t.state id ∧ isMeasurable timeout = false) t (stop timeout t) := by
  rw [stop_of_some timeout hchannel]
  exact (letGo_stopEnds (t := { t with state.holdings.channel := none })).of_calls rfl

end Remote

/-! ## Adapters -/

namespace Adapter

variable {a : Adapter}

/-- The kinds of failure that stopping the adapter does not expect of its calls. -/
def surprise? (a : Adapter) (r : Rig) (c : Call) : Option EquipmentKind :=
  match a.carrier with
  | .none => none
  | .child => (r.holdings.child.bind r.program?).bind fun p => Child.surprise? p.script c
  | .host _ => r.holdings.channel.bind fun id => Remote.surprise? (inputFailure? r id) c

/-- Stopping the adapter comes to waiting for its program. -/
def WaitsToStop (a : Adapter) (r : Rig) : Prop :=
  match a.carrier with
  | .none => False
  | .child => ∃ id, r.holdings.child = some id ∧ r.IsAlive id
  | .host _ => ∃ id, r.holdings.channel = some id ∧ Remote.IsWaitedFor r id

theorem stop_ends_here (hcarrier : a.carrier = .child) :
    StopEnds (a.surprise? t.state)
      (a.WaitsToStop t.state ∧ isMeasurable a.settings.stopTimeout = false) t (a.stop t) := by
  have hrisk : a.surprise? t.state = fun c =>
      (t.state.holdings.child.bind t.state.program?).bind fun p => Child.surprise? p.script c := by
    funext c
    rw [surprise?, hcarrier]
  have hwaits : a.WaitsToStop t.state = ∃ id, t.state.holdings.child = some id ∧
      t.state.IsAlive id := by
    rw [WaitsToStop, hcarrier]
  have hstop : a.stop = Child.stop a.settings.stopTimeout := by rw [stop, hcarrier]
  rw [hrisk, hwaits, hstop]
  cases hchild : t.state.holdings.child with
  | none =>
    rw [Child.stop_of_none _ hchild]
    exact .well (.none rfl) (List.forall_mem_nil _) (by simp)
  | some id =>
    cases hp : t.state.program? id with
    | none =>
      rw [Child.stop_of_some _ hchild, Child.letGo, hp]
      refine .well (.none rfl) (List.forall_mem_nil _) ?_
      rintro ⟨⟨_, hsame, halive⟩, _⟩
      cases hsame
      simp [IsAlive, hp] at halive
    | some p =>
      have hends := Child.stop_stopEnds a.settings.stopTimeout hchild hp
      rw [← isAlive_iff hp] at hends
      simpa [hp] using hends

theorem stop_ends_there {login : HostLogin} (hcarrier : a.carrier = .host login) :
    StopEnds (a.surprise? t.state)
      (a.WaitsToStop t.state ∧ isMeasurable a.settings.stopTimeout = false) t (a.stop t) := by
  have hrisk : a.surprise? t.state = fun c =>
      t.state.holdings.channel.bind fun id => Remote.surprise? (inputFailure? t.state id) c := by
    funext c
    rw [surprise?, hcarrier]
  have hwaits : a.WaitsToStop t.state = ∃ id, t.state.holdings.channel = some id ∧
      Remote.IsWaitedFor t.state id := by
    rw [WaitsToStop, hcarrier]
  have hstop : a.stop = Remote.stop a.settings.stopTimeout := by rw [stop, hcarrier]
  rw [hrisk, hwaits, hstop]
  cases hchannel : t.state.holdings.channel with
  | none =>
    obtain ⟨made, u, hdisconnect, hmade, _⟩ := Remote.disconnect_succeeds t
    rw [Remote.stop_of_none _ hchannel, hdisconnect]
    exact .well hmade (fun _ _ => rfl) (by simp)
  | some id => simpa using Remote.stop_stopEnds a.settings.stopTimeout hchannel

/-- In whatever state the adapter is stopped, that fails exactly if one of the calls made has a
failure that is not expected of it, or if the time to quit cannot be measured and the stop comes to
waiting.  The fault is the report of such a call or tells of the time.  Either way the adapter is not
running afterwards. -/
theorem stop_fails_iff (a : Adapter) (hcarrier : a.carrier ≠ .none) (ho : t.Ordered) :
    let t' := behind a.stop t
    ((∃ e, a.stop t = .error e t') ↔
      (∃ c ∈ callsSince t t', (a.surprise? t.state c).isSome) ∨
        a.WaitsToStop t.state ∧ isMeasurable a.settings.stopTimeout = false) ∧
    (∀ e, a.stop t = .error e t' →
      e = .immeasurable ∨ ∃ c ∈ callsSince t t', ∃ kind text,
        a.surprise? t.state c = some kind ∧ e = .equipment (kind.report text)) ∧
    a.isRunning t'.state = false := by
  intro t'
  have hends : StopEnds (a.surprise? t.state)
      (a.WaitsToStop t.state ∧ isMeasurable a.settings.stopTimeout = false) t (a.stop t) := by
    cases hplace : a.carrier with
    | none => exact absurd hplace hcarrier
    | child => exact stop_ends_here hplace
    | host login => exact stop_ends_there hplace
  have hidle : a.isRunning t'.state = false := (a.stop_idle ho).isRunning
  cases hstop : a.stop t with
  | ok _ u =>
    have hu : t' = u := Timed.behind_of_ok hstop
    rw [hstop] at hends
    cases hends with
    | well hmade hnone hlong =>
      rw [hu, hmade.callsSince_eq]
      refine ⟨⟨fun ⟨_, h⟩ => (by cases h), ?_⟩, fun _ h => (by cases h), hu ▸ hidle⟩
      rintro (⟨c, hc, hsome⟩ | h)
      · rw [hnone c hc] at hsome
        cases hsome
      · exact absurd h hlong
  | error e u =>
    have hu : t' = u := Timed.behind_of_error hstop
    rw [hstop] at hends
    rw [hu]
    cases hends with
    | badly text hmade hc hkind =>
      rw [hmade.callsSince_eq]
      refine ⟨⟨fun _ => .inl ⟨_, hc, by rw [hkind]; rfl⟩, fun _ => ⟨_, rfl⟩⟩, fun _ h => ?_,
        hu ▸ hidle⟩
      cases h
      exact .inr ⟨_, hc, _, text, hkind, rfl⟩
    | immeasurable hmade hlong =>
      refine ⟨⟨fun _ => .inr hlong, fun _ => ⟨_, rfl⟩⟩, fun _ h => ?_, hu ▸ hidle⟩
      cases h
      exact .inl rfl

/-- A program exits when it is told to, and then its input fails to close in a way that no pipe
does. -/
theorem stop_fails_iff_of_failing_close :
    let script : ProgramScript := { stdinCloseFailure := some .shell }
    let a : Adapter := ⟨{}, Codec.usual, .child⟩
    let t : Timeline Rig Happening := { state.surroundings.scripts := [script] }
    let u := a.run [.start (.named .playback1) (.text "1.0.0.0") ""] t
    (∃ e, a.stop u = .error e (behind a.stop u)) ∧
      callsSince u (behind a.stop u) = [.write "q", .awaitExit (some 3000), .closeStdin] ∧
      a.isRunning (behind a.stop u).state = false := by
  intro script a t u
  have hcalls : callsSince u (behind a.stop u) =
      [.write "q", .awaitExit (some 3000), .closeStdin] := by decide +kernel
  have hsurprise : (a.surprise? u.state .closeStdin).isSome = true := by decide +kernel
  have hu : u.Ordered := (a.run_keeps (T := Aged) _ (Timeline.ordered_idle 0 _)).1
  obtain ⟨hiff, _, hidle⟩ := stop_fails_iff a Carrier.noConfusion hu
  exact ⟨hiff.mpr (.inl ⟨.closeStdin, by rw [hcalls]; decide, hsurprise⟩), hcalls, hidle⟩

/-- The input of a program fails in a way that is not expected, on this machine and on another one.
The stop fails, and on this machine it fails before anything else is tried, so the program lives
on. -/
theorem stop_fails_of_failing_input :
    let here : Adapter := ⟨{}, Codec.usual, .child⟩
    let there : Adapter := ⟨{}, Codec.usual, .host ⟨"pi", "user", "pw", 22, 30⟩⟩
    let rig (kind : EquipmentKind) : Timeline Rig Happening :=
      { state.surroundings.scripts := [{ writeFailure := some kind }] }
    let start := Step.start (.named .playback1) (.text "1.0.0.0") ""
    let u := here.run [start] (rig .other)
    let v := there.run [start] (rig .value)
    here.stop.succeeds u = false ∧ (behind here.stop u).state.IsAlive 0 ∧
      callsSince u (behind here.stop u) = [.write "q"] ∧ there.stop.succeeds v = false := by
  decide +kernel

end Adapter

end CecBench
