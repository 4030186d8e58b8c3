import CecBench.Proofs.Adapter.Rest
import CecBench.Proofs.Rig.Record

/-!
# How far a stop goes

A program on this machine is told to quit, and then it is given its time.  If it still runs, it is sent
a signal and given a second, and if it still runs then, it is killed.  In the end the pipes are closed,
the input first.  Each of these steps may fail, and what a pipe or a signal usually fails with stops
only that step.

`release_escalates` tells the calls that all this comes to.  Which of them are made depends on two
looks at the program only: behind the time that it is given to quit, and behind the second after the
signal.  For both it does not matter that somebody waits, and so they are stated about timelines on
which time just passes (`lapsed`).

The time to quit may be too long to be measured.  That is noticed after the program was told to quit,
and then the rest is left out, with the pipes open (`stop_escalates`).
-/

namespace CecBench

open Timed (behind)
open Rig

variable {t u : Timeline Rig Happening} {id : ProgramId} {script : ProgramScript}

/-- The pipes of the program fail at most as pipes do, and signals at most as the operating system
does. -/
structure ProgramScript.IsMild (script : ProgramScript) : Prop where
  input : ∀ kind, script.writeFailure = some kind → kind.isPipe = true
  signal : ∀ kind, script.terminate = .fails kind → kind.isSystem = true
  stdin : ∀ kind, script.stdinCloseFailure = some kind → kind.isPipe = true
  stdout : ∀ kind, script.stdoutCloseFailure = some kind → kind.isPipe = true

namespace Rig

/-- The timeline when some time has passed. -/
def lapsed (duration : Int) (t : Timeline Rig Happening) : Timeline Rig Happening :=
  behind (Timed.sleep duration : Act Unit) t

theorem bare_lapsed (duration : Int) (h : bare t = bare u) :
    bare (lapsed duration t) = bare (lapsed duration u) :=
  (forgetful_sleep duration).bare_behind h

/-- What fails only as expected is overlooked. -/
theorem overlooking_apply {overlooked : EquipmentKind → Bool} {step : Act Unit}
    (h : ∀ fault t', step t = .error fault t' →
      ∃ kind text, fault = .equipment (kind.report text) ∧ overlooked kind = true) :
    overlooking overlooked step t = .ok () (behind step t) := by
  cases hstep : step t with
  | ok _ t' => rw [overlooking, Timed.tryCatch_of_ok hstep, Timed.behind_of_ok hstep]
  | error fault t' =>
    obtain ⟨kind, text, rfl, hkind⟩ := h fault t' hstep
    rw [overlooking, Timed.tryCatch_of_error hstep, Timed.behind_of_error hstep]
    dsimp only
    rw [EquipmentKind.report_kind, if_pos hkind]
    rfl

theorem touch_makes_none (id : ProgramId) (f : Program → Program) (t : Timeline Rig Happening) :
    Makes t [] (behind (touch id f) t) := .none (touch_calls f)

/-- Giving a program a line is one call, whatever it ends in. -/
theorem writeTo_makes (id : ProgramId) (line : String) (t : Timeline Rig Happening) :
    Makes t [.write (commandOf line)] (behind (writeTo id line) t) := by
  have hasked : Makes t [.write (commandOf line)] (asked (.write (commandOf line)) t) := rfl
  rw [behind, writeTo_apply]
  cases t.state.program? id with
  | none => exact hasked
  | some p =>
    dsimp only
    cases p.script.writeFailure with
    | some kind => exact hasked
    | none =>
      have hmade := hasked.trans
        (touch_makes_none id (fun q => q.receive (commandOf line)) (asked (.write (commandOf line)) t))
      refine Eq.trans ?_ hmade
      exact congrArg (fun r : Rig => r.surroundings.calls) (Timeline.scheduleAll_state _ _)

theorem writeTo_error {line : String} {fault : Fault} {t' : Timeline Rig Happening}
    (h : writeTo id line t = .error fault t') :
    ∃ kind, inputFailure? t.state id = some kind ∧
      fault = .equipment (kind.report "write failed") := by
  cases hfailure : inputFailure? t.state id with
  | some kind =>
    rw [writeTo_fails line hfailure] at h
    cases h
    exact ⟨kind, rfl, rfl⟩
  | none =>
    obtain ⟨_, _, hok, _⟩ := writeTo_succeeds (t := t) line hfailure
    cases hok.symm.trans h

end Rig

namespace Child

/-! ## The steps -/

/-- The call by which a program is told to quit. -/
def dismissal (script : ProgramScript) : List Call :=
  if script.hasStdin then [.write Program.quitCommand] else []

/-- The calls by which the pipes are closed. -/
def closings (script : ProgramScript) : List Call :=
  (if script.hasStdin then [.closeStdin] else []) ++ if script.hasStdout then [.closeStdout] else []

/-- The calls by which a program is made to exit that did not quit.  The program may survive the
signal. -/
def force (script : ProgramScript) (survives : Bool) : List Call :=
  .terminate :: match script.terminate with
    | .fails _ => []
    | .exits | .ignores =>
      .awaitExit (some signalTimeout) :: if survives then [.kill, .awaitExit none] else []

theorem quit_apply {p : Program} (hmild : p.script.IsMild) (hp : t.state.program? id = some p) :
    let told := behind (quit id p.script) t
    overlooking EquipmentKind.isPipe (quit id p.script) t = .ok () told ∧
      Makes t (dismissal p.script) told := by
  cases hstdin : p.script.hasStdin with
  | false =>
    simp only [quit, dismissal, hstdin]
    exact ⟨rfl, .none rfl⟩
  | true =>
    simp only [quit, dismissal, hstdin, if_true]
    refine ⟨overlooking_apply fun fault t' h => ?_, ?_⟩
    · obtain ⟨kind, hkind, rfl⟩ := writeTo_error h
      rw [inputFailure?, hp] at hkind
      exact ⟨kind, _, rfl, hmild.input kind hkind⟩
    · have hmade := writeTo_makes id (Program.quitCommand ++ "\n") t
      rwa [commandOf_quit] at hmade

theorem closeStdin_apply (hmild : script.IsMild) (t : Timeline Rig Happening) :
    let shut := behind (closeStdin script) t
    overlooking EquipmentKind.isPipe (closeStdin script) t = .ok () shut ∧
      Makes t (if script.hasStdin then [.closeStdin] else []) shut := by
  unfold closeStdin
  split
  · cases hfailure : script.stdinCloseFailure with
    | none => exact ⟨rfl, rfl⟩
    | some kind =>
      refine ⟨overlooking_apply fun fault t' h => ?_, rfl⟩
      cases h
      exact ⟨kind, _, rfl, hmild.stdin kind hfailure⟩
  · exact ⟨rfl, .none rfl⟩

theorem closeStdout_apply (hmild : script.IsMild) (id : ProgramId) (t : Timeline Rig Happening) :
    let shut := behind (closeStdout id script) t
    overlooking EquipmentKind.isPipe (closeStdout id script) t = .ok () shut ∧
      Makes t (if script.hasStdout then [.closeStdout] else []) shut := by
  have hasked : Makes t [.closeStdout] (asked .closeStdout t) := rfl
  have hmade := hasked.trans (touch_makes_none id (fun p => p.act .endsOutput) _)
  unfold closeStdout
  split
  · cases hfailure : script.stdoutCloseFailure with
    | none => exact ⟨rfl, hmade⟩
    | some kind =>
      refine ⟨overlooking_apply fun fault t' h => ?_, hmade⟩
      cases h
      exact ⟨kind, _, rfl, hmild.stdout kind hfailure⟩
  · exact ⟨rfl, .none rfl⟩

/-- The pipes are closed one after the other, whatever that ends in. -/
theorem closePipes_apply (hmild : script.IsMild) (id : ProgramId) (t : Timeline Rig Happening) :
    ∃ u, closePipes id script t = .ok () u ∧ Makes t (closings script) u := by
  obtain ⟨hstdin, hmade⟩ := closeStdin_apply hmild t
  obtain ⟨hstdout, hmore⟩ := closeStdout_apply hmild id (behind (closeStdin script) t)
  exact ⟨_, (Timed.bind_of_ok hstdin).trans hstdout, hmade.trans hmore⟩

/-- A program that has exited stays so. -/
theorem exit_lasts (id : ProgramId) (now : Nat) (e : Happening) (r : Rig)
    (h : (r.exitCode id).isSome = true) :
    ((Unfolds.unfold now e r : Rig).exitCode id).isSome = true := by
  obtain ⟨code, hcode⟩ := Option.isSome_iff_exists.mp h
  have hlater := (replay_ages [(now, e)] r).exitCode hcode
  exact Option.isSome_iff_exists.mpr ⟨code, hlater⟩

/-- Waiting for the exit tells whether the program would have exited with all the time gone, and if
not, all the time is gone. -/
theorem awaitExit_apply (id : ProgramId) (timeout : Int) (t : Timeline Rig Happening) :
    let later := lapsed timeout t
    ∃ u, awaitExit id timeout t = .ok (later.state.exitCode id).isSome u ∧
      Makes t [.awaitExit (some timeout)] u ∧
      (later.state.exitCode id = none → bare u = bare later) := by
  intro later
  let noted := asked (.awaitExit (some timeout)) t
  have hsame : bare (lapsed timeout noted) = bare later := bare_lapsed timeout rfl
  obtain ⟨htells, hgone⟩ := Timeline.wait_of_lasting (exit_lasts id) timeout noted
  have hmade : Makes t [.awaitExit (some timeout)] noted := rfl
  refine ⟨(noted.wait (fun r => (r.exitCode id).isSome) timeout).2, ?_,
    hmade.trans (wait_makes_none _ _), fun hnone => ?_⟩
  · rw [← exitCode_of_bare hsame]
    exact congrArg (EStateM.Result.ok · _) htells
  · have hnot : ((lapsed timeout noted).state.exitCode id).isSome = false := by
      rw [exitCode_of_bare hsame, hnone]
      rfl
    rw [hgone hnot]
    exact hsame

theorem terminate_forgetful (id : ProgramId) (script : ProgramScript) :
    Forgetful (terminate id script) := by
  refine (note_forgetful _).bind fun _ => ?_
  split
  · exact touch_forgetful _ _
  · exact forgetful_pure ()
  · exact forgetful_throw _

/-- Sending the signal is one call, whatever it ends in. -/
theorem terminate_makes (id : ProgramId) (script : ProgramScript) (t : Timeline Rig Happening) :
    Makes t [.terminate] (behind (terminate id script) t) := by
  have hasked : Makes t [.terminate] (asked .terminate t) := rfl
  cases hreaction : script.terminate with
  | exits =>
    simp only [behind, terminate, hreaction]
    exact hasked.trans
      (touch_makes_none id (fun p => p.act (.exits Program.terminatedCode)) (asked .terminate t))
  | ignores | fails =>
    simp only [behind, terminate, hreaction]
    exact hasked

theorem kill_apply (id : ProgramId) (t : Timeline Rig Happening) :
    ∃ u, kill id t = .ok () u ∧ Makes t [.kill, .awaitExit none] u := by
  let killed := behind (touch id fun p => p.act (.exits Program.killedCode)) (asked .kill t)
  have hasked : Makes t [.kill] (asked .kill t) := rfl
  have hkilled : Makes t [.kill] killed := hasked.trans (touch_makes_none id _ _)
  have hreaped : Makes killed [.awaitExit none] (asked (.awaitExit none) killed) := rfl
  exact ⟨asked (.awaitExit none) killed, rfl, hkilled.trans hreaped⟩

/-- The second behind the signal, and the end by force if the program survives it. -/
theorem insist_apply (id : ProgramId) (t : Timeline Rig Happening) :
    let survives := ((lapsed signalTimeout t).state.exitCode id).isNone
    ∃ u, insist id t = .ok () u ∧
      Makes t (.awaitExit (some signalTimeout) :: if survives then [.kill, .awaitExit none] else [])
        u := by
  obtain ⟨u, hwait, hmade, _⟩ := awaitExit_apply id signalTimeout t
  have hrest : insist id t =
      (unless ((lapsed signalTimeout t).state.exitCode id).isSome do kill id : Act Unit) u :=
    Timed.bind_of_ok hwait
  rw [hrest]
  cases hcode : (lapsed signalTimeout t).state.exitCode id with
  | some code => exact ⟨u, rfl, hmade⟩
  | none =>
    obtain ⟨v, hkill, hmore⟩ := kill_apply id u
    exact ⟨v, hkill, hmade.trans hmore⟩

/-- The signal to terminate, and what follows unless it does not get through. -/
theorem endByForce_apply (hmild : script.IsMild) (id : ProgramId) (t : Timeline Rig Happening) :
    let later := lapsed signalTimeout (behind (terminate id script) t)
    ∃ u, overlooking EquipmentKind.isSystem (endByForce id script) t = .ok () u ∧
      Makes t (force script (later.state.exitCode id).isNone) u := by
  intro later
  have hmade := terminate_makes id script t
  cases hreaction : script.terminate with
  | fails kind =>
    have hfails : terminate id script t =
        .error (.equipment (kind.report "terminate failed")) (behind (terminate id script) t) := by
      simp only [behind, terminate, hreaction]
      rfl
    have hend : endByForce id script t = _ := Timed.bind_of_error hfails
    refine ⟨behind (terminate id script) t, ?_, ?_⟩
    · rw [overlooking_apply, Timed.behind_of_error hend]
      rintro fault t' h
      cases hend.symm.trans h
      exact ⟨kind, _, rfl, hmild.signal kind hreaction⟩
    · simp only [force, hreaction]
      exact hmade
  | exits | ignores =>
    have hterminate : terminate id script t = .ok () (behind (terminate id script) t) := by
      simp only [behind, terminate, hreaction]
      rfl
    obtain ⟨u, hrest, hmore⟩ := insist_apply id (behind (terminate id script) t)
    refine ⟨u, Timed.tryCatch_of_ok ((Timed.bind_of_ok hterminate).trans hrest), ?_⟩
    simp only [force, hreaction]
    exact hmade.trans hmore

/-! ## The whole -/

/-- The calls that a stop of a program that runs comes to, where the program may survive the time it is
given to quit and the signal to terminate. -/
def escalation (script : ProgramScript) (timeout : Int) (stays survives : Bool) : List Call :=
  dismissal script ++ [.awaitExit (some timeout)] ++
    (if stays then force script survives else []) ++ closings script

theorem release_escalates {p : Program} {timeout : Int} (hmild : p.script.IsMild)
    (hp : t.state.program? id = some p) (hruns : t.state.exitCode id = none)
    (htimeout : isMeasurable timeout = true) :
    let told := behind (quit id p.script) t
    let waited := lapsed timeout told
    let signalled := behind (terminate id p.script) waited
    ∃ u, release id p.script timeout t = .ok () u ∧
      Makes t (escalation p.script timeout (waited.state.exitCode id).isNone
        ((lapsed signalTimeout signalled).state.exitCode id).isNone) u := by
  intro told waited signalled
  obtain ⟨hquit, htold⟩ := quit_apply hmild hp
  obtain ⟨u, hwait, hwaited, hsame⟩ := awaitExit_apply id timeout told
  have hrest : release id p.script timeout t = (do
      unless (waited.state.exitCode id).isSome do
        overlooking EquipmentKind.isSystem (endByForce id p.script)
      closePipes id p.script : Act Unit) u := by
    have hmeasure : (Timed.measure timeout : Act Unit) told = .ok () told := by
      rw [Timed.measure_of_measurable htimeout]
      rfl
    rw [release_of_running (by rw [hruns]; rfl), Timed.bind_of_ok hquit,
      Timed.bind_of_ok hmeasure]
    exact Timed.bind_of_ok hwait
  have hmade := htold.trans hwaited
  rw [hrest]
  cases hcode : waited.state.exitCode id with
  | some code =>
    obtain ⟨v, hclose, hclosed⟩ := closePipes_apply hmild id u
    refine ⟨v, hclose, ?_⟩
    simpa [escalation] using hmade.trans hclosed
  | none =>
    -- The program is as it would be if nobody had waited.
    have hbare : bare (lapsed signalTimeout (behind (terminate id p.script) u)) =
        bare (lapsed signalTimeout signalled) :=
      bare_lapsed _ ((terminate_forgetful id p.script).bare_behind (hsame hcode))
    obtain ⟨v, hforce, hforced⟩ := endByForce_apply hmild id u
    obtain ⟨w, hclose, hclosed⟩ := closePipes_apply hmild id v
    rw [exitCode_of_bare hbare] at hforced
    refine ⟨w, (Timed.bind_of_ok hforce).trans hclose, ?_⟩
    simpa [escalation] using (hmade.trans hforced).trans hclosed

/-- A time that is too long is noticed behind the command to quit, and nothing more is done. -/
theorem release_immeasurable {p : Program} {timeout : Int} (hmild : p.script.IsMild)
    (hp : t.state.program? id = some p) (hruns : t.state.exitCode id = none)
    (htimeout : isMeasurable timeout = false) :
    ∃ u, release id p.script timeout t = .error .immeasurable u ∧
      Makes t (dismissal p.script) u := by
  obtain ⟨hquit, htold⟩ := quit_apply hmild hp
  refine ⟨behind (quit id p.script) t, ?_, htold⟩
  rw [release_of_running (by rw [hruns]; rfl), Timed.bind_of_ok hquit,
    Timed.measure_of_immeasurable htimeout]
  rfl

end Child

namespace Adapter

/-- How far a stop on this machine goes, for a program that fails in no way but the expected ones.  If
the program has exited, its pipes are closed and nothing else is asked for.  If it runs, it is told to
quit and waited for.  It is sent a signal exactly if it still runs behind the time it is given, and it is
killed exactly if the signal got through and it still runs a second later.  Then the pipes are closed.
If the time cannot be measured, all of this ends behind the command to quit, in a failure.  In any case
the adapter rests from then on, and stopping it again does nothing. -/
theorem stop_escalates (a : Adapter) (hcarrier : a.carrier = .child) (ho : t.Ordered) {p : Program}
    (hchild : t.state.holdings.child = some id) (hp : t.state.program? id = some p)
    (hmild : p.script.IsMild) :
    let timeout := a.settings.stopTimeout
    let told := behind (Child.quit id p.script) { t with state.holdings.child := none }
    let waited := lapsed timeout told
    let signalled := behind (Child.terminate id p.script) waited
    let t' := behind a.stop t
    (t.state.exitCode id ≠ none →
      a.stop t = .ok () t' ∧ callsSince t t' = Child.closings p.script) ∧
    (t.state.exitCode id = none → isMeasurable timeout = true →
      a.stop t = .ok () t' ∧ callsSince t t' =
        Child.escalation p.script timeout (waited.state.exitCode id).isNone
          ((lapsed Child.signalTimeout signalled).state.exitCode id).isNone) ∧
    (t.state.exitCode id = none → isMeasurable timeout = false →
      a.stop t = .error .immeasurable t' ∧ callsSince t t' = Child.dismissal p.script) ∧
    ∀ steps, (∀ step ∈ steps, step.IsNoStart) →
      a.Rests (a.run steps t') ∧ a.stop (a.run steps t') = .ok () (a.run steps t') := by
  intro timeout told waited signalled t'
  let free : Timeline Rig Happening := { t with state.holdings.child := none }
  have hstop : a.stop t = Child.release id p.script timeout free := by
    rw [stop, hcarrier]
    dsimp only
    rw [Child.stop_of_some _ hchild, Child.letGo, hp]
  refine ⟨fun hexited => ?_, fun hruns htimeout => ?_, fun hruns htimeout => ?_, fun steps h => ?_⟩
  · obtain ⟨u, hclose, hmade⟩ := Child.closePipes_apply hmild id free
    have hexit : (free.state.exitCode id).isNone = false := Option.isNone_eq_false_iff.mpr
      (Option.isSome_iff_ne_none.mpr hexited)
    have hok := hstop.trans ((Child.release_of_exited hexit).trans hclose)
    rw [show t' = u from Timed.behind_of_ok hok]
    exact ⟨hok, Makes.callsSince_eq (t := t) hmade⟩
  · obtain ⟨u, hrelease, hmade⟩ := Child.release_escalates (t := free) hmild hp hruns htimeout
    have hok := hstop.trans hrelease
    rw [show t' = u from Timed.behind_of_ok hok]
    exact ⟨hok, Makes.callsSince_eq (t := t) hmade⟩
  · obtain ⟨u, hrelease, hmade⟩ := Child.release_immeasurable (t := free) hmild hp hruns htimeout
    have herror := hstop.trans hrelease
    rw [show t' = u from Timed.behind_of_error herror]
    exact ⟨herror, Makes.callsSince_eq (t := t) hmade⟩
  · have hempty : (a.run steps t').state.holdings.child = none := by
      have hidle := run_idle h (a.stop_keeps (T := Aged) t ho).1 (a.stop_idle ho)
      rwa [Idle, hcarrier] at hidle
    refine ⟨stop_rests (by rw [hcarrier]; exact Carrier.noConfusion) ho h, ?_⟩
    rw [stop, hcarrier]
    exact Child.stop_of_none _ hempty

/-- The program does not hear the command to quit, it ignores the signal, and its input fails to
close. -/
theorem stop_escalates_of_stubborn_program :
    let script : ProgramScript :=
      { writeFailure := some .brokenPipe, terminate := .ignores, stdinCloseFailure := some .value }
    let a : Adapter := ⟨{ stopTimeout := 200 }, Codec.usual, .child⟩
    let t : Timeline Rig Happening := { state.surroundings.scripts := [script] }
    let u := a.run [.start (.named .playback1) (.text "1.0.0.0") ""] t
    callsSince u (behind a.stop u) = [.write "q", .awaitExit (some 200), .terminate,
      .awaitExit (some 1000), .kill, .awaitExit none, .closeStdin, .closeStdout] ∧
      a.Rests (a.run [.sleep 50, .stop] (behind a.stop u)) := by
  intro script a t u
  have hu : u.Ordered := (a.run_keeps (T := Aged) _ (Timeline.ordered_idle 0 _)).1
  have hmild : script.IsMild := by constructor <;> intro kind h <;> cases h <;> rfl
  have hchild : u.state.holdings.child = some 0 := rfl
  have hp : u.state.program? 0 = some { script } := rfl
  obtain ⟨_, hruns, _, hrest⟩ := stop_escalates a rfl hu hchild hp hmild
  refine ⟨(hruns rfl (by decide +kernel)).2.trans (by decide +kernel), (hrest _ ?_).1⟩
  simp [Step.IsNoStart]

/-- A program that quits as soon as it is told to is stopped with a time to quit that cannot be measured.
The stop fails, and no pipe is closed. -/
theorem stop_immeasurable_leaves_pipes_open :
    let a : Adapter := ⟨{ stopTimeout := immeasurableTime }, Codec.usual, .child⟩
    let t : Timeline Rig Happening := { state.surroundings.scripts := [{}] }
    let u := a.run [.start (.named .playback1) (.text "1.0.0.0") ""] t
    a.stop.succeeds u = false ∧ (behind a.stop u).state.exitCode 0 = some 0 ∧
      callsSince u (behind a.stop u) = [.write "q"] := by
  decide +kernel

end Adapter

end CecBench
