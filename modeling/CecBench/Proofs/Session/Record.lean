import CecBench.Proofs.Adapter.Escalation
import CecBench.Proofs.Session.Twins

/-!
# Sessions do not look at the record

A session with its program on this machine never looks at what was asked of the surroundings.  So from
two timelines that differ in nothing but the record, every step answers the same, asks for the same and
leaves two such timelines again (`Step.reply_forgetful`).  The same holds for whole runs
(`trace_of_bare`).
-/

namespace CecBench

open Timed (behind)
open Rig

variable {t u : Timeline Rig Happening}

namespace Rig

/-- Waiting for a frame comes down to the log. -/
theorem expectation_forgetful (x : Expectation) (timeout : Int) (context : String) :
    Forgetful (x.await Rig.log timeout context : Act Frame) := by
  intro past t
  have hlog (r s : Rig) (h : Recalls past r s) : r.log = s.log := by
    subst h
    rfl
  obtain ⟨hfinding, hseek⟩ := Timed.seek_abreast hlog x.accepts (t.now + timeout.toNat) x.cursor 0 t
    (abreast_iff.mpr rfl)
  rw [abreast_iff] at hseek
  have hnow : (preceded past t).now = t.now := rfl
  unfold Expectation.await
  rw [hnow]
  generalize Expectation.seek Rig.log x.accepts (t.now + timeout.toNat) x.cursor 0 t = found
    at hfinding hseek
  generalize Expectation.seek Rig.log x.accepts (t.now + timeout.toNat) x.cursor 0
    (preceded past t) = found' at hfinding hseek
  obtain ⟨finding, t'⟩ := found
  obtain ⟨finding', u'⟩ := found'
  obtain rfl : finding = finding' := hfinding
  obtain rfl : u' = preceded past t' := hseek
  split_ifs
  · rfl
  · rfl
  · rfl
  · cases finding <;> rfl

end Rig

/-! ## Programs on this machine -/

namespace Child

theorem spawn_forgetful (command : List String) (context : String) :
    Forgetful (spawn command context) := by
  refine (note_forgetful _).bind fun _ => countStart_forgetful.bind fun _ => ?_
  split
  · exact forgetful_look (fun _ _ => rfl) fun _ => forgetful_throw _
  · exact (launch_forgetful _).bind fun _ => hold_forgetful _

theorem output_forgetful : Forgetful output := by
  refine forgetful_look (fun _ _ => rfl) fun _ => ?_
  dsimp only
  split
  · exact forgetful_throw _
  · split
    · exact forgetful_pure _
    · exact forgetful_throw _

theorem writeLine_forgetful (line context : String) : Forgetful (writeLine line context) := by
  refine forgetful_look (fun _ _ => rfl) fun _ => ?_
  dsimp only
  split
  · exact forgetful_throw _
  · split
    · exact telling_forgetful EquipmentKind.isPipe _ (writeTo_forgetful _ _)
    · exact forgetful_throw _

theorem awaitExit_forgetful (id : ProgramId) (timeout : Int) : Forgetful (awaitExit id timeout) :=
  (note_forgetful _).bind fun _ => forgetful_await (fun _ _ => rfl) _

theorem quit_forgetful (id : ProgramId) (script : ProgramScript) : Forgetful (quit id script) := by
  unfold quit
  split
  · exact writeTo_forgetful _ _
  · exact forgetful_pure _

theorem kill_forgetful (id : ProgramId) : Forgetful (kill id) :=
  (note_forgetful _).bind fun _ => (touch_forgetful _ _).bind fun _ => note_forgetful _

theorem endByForce_forgetful (id : ProgramId) (script : ProgramScript) :
    Forgetful (endByForce id script) := by
  refine (terminate_forgetful id script).bind fun _ => (awaitExit_forgetful _ _).bind fun _ => ?_
  split
  · exact forgetful_pure _
  · exact kill_forgetful id

theorem closeStdin_forgetful (script : ProgramScript) : Forgetful (closeStdin script) := by
  unfold closeStdin
  split
  · exact (note_forgetful _).bind fun _ => failIf_forgetful _ _
  · exact forgetful_pure _

theorem closeStdout_forgetful (id : ProgramId) (script : ProgramScript) :
    Forgetful (closeStdout id script) := by
  unfold closeStdout
  split
  · exact (note_forgetful _).bind fun _ => (touch_forgetful _ _).bind fun _ => failIf_forgetful _ _
  · exact forgetful_pure _

theorem closePipes_forgetful (id : ProgramId) (script : ProgramScript) :
    Forgetful (closePipes id script) :=
  (overlooking_forgetful _ (closeStdin_forgetful script)).bind fun _ =>
    overlooking_forgetful _ (closeStdout_forgetful id script)

theorem release_forgetful (id : ProgramId) (script : ProgramScript) (timeout : Int) :
    Forgetful (release id script timeout) := by
  have hclose := closePipes_forgetful id script
  refine forgetful_look (fun _ _ => rfl) fun _ => ?_
  dsimp only
  split
  · refine (overlooking_forgetful _ (quit_forgetful id script)).bind fun _ =>
      (forgetful_measure timeout).bind fun _ => (awaitExit_forgetful id timeout).bind fun _ => ?_
    split
    · exact hclose
    · exact (overlooking_forgetful _ (endByForce_forgetful id script)).bind fun _ => hclose
  · exact hclose

theorem stop_forgetful (timeout : Int) : Forgetful (stop timeout) := by
  refine forgetful_look (fun _ _ => rfl) fun r => ?_
  split
  · exact forgetful_pure _
  · refine (hold_forgetful _).bind fun _ => ?_
    split
    · exact forgetful_pure _
    · exact release_forgetful _ _ _

end Child

/-! ## Adapters on this machine -/

namespace Adapter

variable {a : Adapter}

theorem commandLine_forgetful (a : Adapter) : Forgetful a.commandLine :=
  inHand_forgetful.bind fun _ => forgetful_lift _ _

theorem bind_forgetful (logical : AddressSpec) (physical : PlaceSpec) :
    Forgetful (bind logical physical) :=
  (forgetful_lift _ _).bind fun _ => (hold_forgetful _).bind fun _ =>
    (forgetful_lift _ _).bind fun _ => (hold_forgetful _).bind fun _ => forgetful_pure _

theorem start_forgetful (hlocal : a.carrier = .child) (logical : AddressSpec)
    (physical : PlaceSpec) (context : String) : Forgetful (a.start logical physical context) := by
  have hfresh : Forgetful (do
      let bound ← bind logical physical
      let command ← Timed.lift .settings (a.settings.command bound.1 bound.2)
      Child.spawn command context : Act Unit) :=
    (bind_forgetful _ _).bind fun _ => (forgetful_lift _ _).bind fun _ =>
      Child.spawn_forgetful _ _
  rw [start, hlocal]
  refine inHand_forgetful.bind fun _ => ?_
  dsimp only
  split
  · exact a.commandLine_forgetful.bind fun _ => (forgetful_throw _).bind fun _ => hfresh
  · exact hfresh

theorem output_forgetful (hlocal : a.carrier = .child) : Forgetful a.output := by
  rw [output, hlocal]
  exact Child.output_forgetful

theorem writeLine_forgetful (hlocal : a.carrier = .child) (line context : String) :
    Forgetful (a.writeLine line context) := by
  rw [writeLine, hlocal]
  exact Child.writeLine_forgetful line context

theorem stop_forgetful (hlocal : a.carrier = .child) : Forgetful a.stop := by
  rw [stop, hlocal]
  exact Child.stop_forgetful _

theorem exitCode_recalling (past : List Call) (r : Rig) :
    a.exitCode (recalling past r) = a.exitCode r := by
  unfold exitCode
  split <;> rfl

end Adapter

/-! ## Sessions on this machine -/

namespace Session

variable {s : Session}

theorem startAdapter_forgetful (hlocal : s.adapter.carrier = .child) (context : String) :
    Forgetful (s.startAdapter context) :=
  Adapter.start_forgetful hlocal _ _ context

theorem attachMonitor_forgetful (s : Session) (program : ProgramId) :
    Forgetful (s.attachMonitor program) :=
  (forgetful_lift _ _).bind fun monitor => forgetful_now.bind fun now =>
    forgetful_update fun _ r => settle_recalling now
      { r with reader := some { program, monitor }, holdings.holdsMonitor := true }

theorem pollExitCode_forgetful (s : Session) (n : Nat) : Forgetful (s.pollExitCode n) := by
  induction n with
  | zero => exact forgetful_pure _
  | succ n ih =>
    refine (forgetful_sleep _).bind fun _ => forgetful_look (fun past r => ?_) fun r => ?_
    · rw [Adapter.exitCode_recalling]
    · split
      · exact forgetful_pure _
      · exact ih

theorem diagnose_forgetful (s : Session) (m : Monitor) (context : String) :
    Forgetful (s.diagnose m context) := by
  have hreap : Forgetful (s.reapExitCode m) := by
    refine forgetful_look (fun past r => ?_) fun r => ?_
    · rw [Adapter.exitCode_recalling]
    · split
      · exact forgetful_pure _
      · split
        · exact s.pollExitCode_forgetful _
        · exact forgetful_pure _
  exact hreap.bind fun _ => forgetful_look (fun _ _ => rfl) fun _ => forgetful_pure _

theorem awaitReadiness_forgetful (s : Session) (context : String) :
    Forgetful (s.awaitReadiness context) := by
  refine (forgetful_measure _).bind fun _ => (forgetful_await (fun _ _ => rfl) _).bind fun _ =>
    forgetful_look (fun _ _ => rfl) fun _ => ?_
  split
  · split
    · exact forgetful_pure _
    · exact (s.diagnose_forgetful _ context).bind fun _ => forgetful_throw _
  · exact forgetful_pure _

theorem attempt_forgetful (hlocal : s.adapter.carrier = .child) (context : String) :
    Forgetful (s.attempt s.startAdapter context) :=
  (startAdapter_forgetful hlocal context).bind fun _ =>
    (Adapter.output_forgetful hlocal).bind fun _ => (s.attachMonitor_forgetful _).bind fun _ =>
      s.awaitReadiness_forgetful context

theorem clearAway_forgetful (hlocal : s.adapter.carrier = .child) : Forgetful s.clearAway := by
  have hstop : Forgetful s.stopAnyway :=
    (Adapter.stop_forgetful hlocal).tryCatch fun _ => forgetful_pure _
  have hclose : Forgetful closeMonitor :=
    (forgetful_update fun _ _ => rfl).bind fun _ =>
      (forgetful_await (fun _ _ => rfl) _).bind fun _ => forgetful_pure _
  refine hstop.bind fun _ => inHand_forgetful.bind fun _ => (hold_forgetful _).bind fun _ => ?_
  split
  · exact hclose
  · exact forgetful_pure _

theorem begin_forgetful (hlocal : s.adapter.carrier = .child) (context : String) :
    Forgetful (s.begin context) := by
  rw [begin_eq_beginBy]
  have htry : Forgetful (do
      try s.attempt s.startAdapter (s.contextFor "init" context)
      catch e =>
        s.clearAway
        hold fun h => { h with phase := .terminated }
        throw e
      hold fun h => { h with phase := .running } : Act Unit) := by
    refine ((attempt_forgetful hlocal _).tryCatch fun e => ?_).bind fun _ => hold_forgetful _
    exact (clearAway_forgetful hlocal).bind fun _ => (hold_forgetful _).bind fun _ =>
      forgetful_throw e
  refine inHand_forgetful.bind fun h => ?_
  dsimp only
  split
  · exact htry
  · exact (forgetful_throw _).bind fun _ => htry

theorem finish_forgetful (hlocal : s.adapter.carrier = .child) : Forgetful s.finish := by
  refine inHand_forgetful.bind fun h => ?_
  split
  · exact forgetful_pure _
  · exact (clearAway_forgetful hlocal).bind fun _ => hold_forgetful _

theorem runningMonitor_forgetful (s : Session) (action context : String) :
    Forgetful (s.runningMonitor action context) := by
  refine forgetful_look (fun _ _ => rfl) fun r => ?_
  dsimp only
  split
  · split
    · exact forgetful_pure _
    · exact forgetful_throw _
  · exact forgetful_throw _

theorem send_forgetful (hlocal : s.adapter.carrier = .child) (f : Frame) (context : String) :
    Forgetful (s.send f context) :=
  (s.runningMonitor_forgetful _ _).bind fun _ => Adapter.writeLine_forgetful hlocal _ _

theorem checkFrame_forgetful (s : Session) (accepts : FramePredicate) (timeout : Int)
    (since : Option Int) (description context : String) :
    Forgetful (s.checkFrame accepts timeout since description context) :=
  (s.runningMonitor_forgetful _ _).bind fun _ => (forgetful_lift _ _).bind fun x =>
    expectation_forgetful x timeout _

/-- No step looks at the record, whatever the session is about. -/
theorem Step.reply_forgetful (hlocal : s.adapter.carrier = .child) (step : Step) :
    Forgetful (step.reply s) := by
  have hdone {work : Act Unit} (h : Forgetful work) :
      Forgetful (do work; return Reply.done : Act Reply) := h.bind fun _ => forgetful_pure _
  cases step with
  | begin context => exact hdone (begin_forgetful hlocal context)
  | enter => exact hdone (begin_forgetful hlocal "")
  | finish | leave => exact hdone (finish_forgetful hlocal)
  | send f context => exact hdone (send_forgetful hlocal f context)
  | sendDraft d context =>
    exact hdone ((forgetful_lift _ _).bind fun f => send_forgetful hlocal f context)
  | checkFrame accepts timeout since description context =>
    exact (s.checkFrame_forgetful _ _ _ _ _).bind fun _ => forgetful_pure _
  | checkOpcode c timeout since context =>
    exact (s.checkFrame_forgetful _ _ _ _ _).bind fun _ => forgetful_pure _
  | mark | snapshot =>
    exact ((s.runningMonitor_forgetful _ _).bind fun _ => forgetful_pure _).bind
      fun _ => forgetful_pure _
  | monitor => exact (s.runningMonitor_forgetful _ _).bind fun _ => forgetful_pure _
  | awaitDevice d timeout context =>
    refine hdone ((forgetful_sleep _).bind fun _ => ?_)
    split
    · exact forgetful_pure _
    · exact forgetful_throw _
  | sleep duration => exact hdone (forgetful_sleep duration)
  | prompt actions => exact hdone (prompt_forgetful actions)
  | plan events => exact hdone (plan_forgetful events)

/-! ## Runs -/

theorem outcome_of_bare {α : Type} {work : Act α} (hwork : Forgetful work) (h : bare t = bare u) :
    outcome work t = outcome work u := by
  rw [outcome, outcome, hwork.apply_eq t, hwork.apply_eq u, h]
  cases work (bare u) <;> rfl

/-- Two runs of a session from timelines that differ in the record.  Every step answers the same, the
same is asked for, and the timelines behind the runs differ in the record again. -/
theorem trace_of_bare (hlocal : s.adapter.carrier = .child) (steps : List Step)
    (h : bare t = bare u) :
    (s.trace steps t).map Sight.outcome = (s.trace steps u).map Sight.outcome ∧
      bare (s.run steps t) = bare (s.run steps u) ∧
      ∃ made, Makes t made (s.run steps t) ∧ Makes u made (s.run steps u) := by
  induction steps generalizing t u with
  | nil => exact ⟨rfl, h, [], .none rfl, .none rfl⟩
  | cons step steps ih =>
    have hstep := Step.reply_forgetful hlocal step
    obtain ⟨houtcomes, hbare, made, hmade, hmade'⟩ := ih (hstep.bare_behind h)
    have hrun (v : Timeline Rig Happening) :
        s.run (step :: steps) v = s.run steps (behind (step.reply s) v) := by
      rw [step.behind_reply]
      rfl
    refine ⟨?_, ?_, ?_⟩
    · exact congrArg₂ List.cons (outcome_of_bare hstep h) houtcomes
    · rw [hrun, hrun, hbare]
    · rw [hrun, hrun]
      have hfirst := hstep.makes t
      rw [h] at hfirst
      exact ⟨_, hfirst.trans hmade, (hstep.makes u).trans hmade'⟩

end Session

end CecBench
