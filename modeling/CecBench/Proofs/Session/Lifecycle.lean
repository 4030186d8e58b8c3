import CecBench.Proofs.Adapter.Conduct
import CecBench.Proofs.Bus.Expectation
import CecBench.Session.Basic

/-!
# The life of a session

A session begins, runs and ends, and it does not come back.  `Session.Step` is
all that a caller can ask of one, together with what the world does between two
calls.  `Session.Sound` is what every step keeps: the session holds a monitor
exactly while it runs, and then there is one.

`begin` and `finish` are the only steps that touch the session, and
`beginBy_ends` and `finish_apply` say all that they can do.  In `beginBy` and
`runBy` anything can stand in the place of the adapter's start.  What a run
takes from there tells how often the adapter is started: by `run_startsOnce`,
how one start ends, in one state, decides everything.

The module ends in `run_lawful`, which gathers what holds after any run of a
new session.
-/

namespace CecBench

open Timed (Keeps FailsOnly behind)
open Rig (Act Spared hold inHand)

/-- A call can take a session from the first phase to the second. -/
inductive Phase.Moves : Phase → Phase → Prop
  | stays (p : Phase) : Moves p p
  | begins : Moves .uninitialized .running
  | fails : Moves .uninitialized .terminated
  | ends : Moves .running .terminated

/-- The fault complains that the session does not run. -/
def Fault.IsNotRunning : Fault → Prop
  | .notRunning _ _ _ => True
  | _ => False

namespace Session

variable {s : Session} {t : Timeline Rig Happening}
  {Q R T : Timeline Rig Happening → Timeline Rig Happening → Prop} [Rig.Patient Q] [Timed.Steady R]
  [Rig.Tolerant T]

/-! ## Steps -/

/-- What can happen to a session: the calls, and what the world does between them. -/
inductive Step
  | begin (context : String)
  /-- Entering the session as a block of work. -/
  | enter
  | finish
  /-- Leaving the block of work. -/
  | leave
  | send (f : Frame) (context : String)
  | sendDraft (d : Frame.Draft) (context : String)
  | checkFrame (accepts : FramePredicate) (timeout : Int) (since : Option Int)
      (description context : String)
  | checkOpcode (c : OpcodeCheck) (timeout : Int) (since : Option Int) (context : String)
  | mark
  | snapshot
  | monitor
  | awaitDevice (d : Device) (timeout : Int) (context : String)
  /-- Time passes. -/
  | sleep (duration : Int)
  /-- The program that was started last does something. -/
  | prompt (actions : List ProgramAction)
  /-- It will do something. -/
  | plan (events : List (Nat × List ProgramAction))

/-- The step as a computation.  What it answers does not matter here. -/
def Step.act (s : Session) : Step → Act Unit
  | .begin context => s.begin context
  | .enter => s.begin ""
  | .finish | .leave => s.finish
  | .send f context => s.send f context
  | .sendDraft d context => s.sendDraft d context
  | .checkFrame accepts timeout since description context => do
    let _ ← s.checkFrame accepts timeout since description context
  | .checkOpcode c timeout since context => do let _ ← s.checkOpcode c timeout since context
  | .mark => do let _ ← s.mark
  | .snapshot => do let _ ← s.snapshot
  | .monitor => do let _ ← s.monitor
  | .awaitDevice d timeout context => s.awaitDevice d timeout context
  | .sleep duration => Timed.sleep duration
  | .prompt actions => Rig.prompt actions
  | .plan events => Rig.plan events

/-- The timeline behind some steps, whichever way each of them ends. -/
def run (s : Session) (steps : List Step) (t : Timeline Rig Happening) : Timeline Rig Happening :=
  steps.foldl (fun t step => behind (step.act s) t) t

/-! ## Beginning, with any start -/

/-- Starts the adapter for the session. -/
def startAdapter (s : Session) (context : String) : Act Unit :=
  s.adapter.start (.named s.logical) (.number s.physical.value) context

/-- Waits for the console to get ready, once there is a monitor. -/
def awaitReadiness (s : Session) (context : String) : Act Unit := do
  Timed.measure s.readyTimeout
  let _ ← Timed.await (fun r => r.reader.all fun reader => reader.monitor.readinessIsKnown)
    s.readyTimeout
  match (← Timed.state).reader with
  | some reader =>
    unless reader.monitor.isReady do
      throw (.start (← s.diagnose reader.monitor context))
  | none => pure ()

/-- Puts a monitor on the output of the adapter, and waits for the console to get ready. -/
def watch (s : Session) (context : String) : Act Unit := do
  s.attachMonitor (← s.adapter.output)
  s.awaitReadiness context

/-- What `begin` attempts, with anything in the place of the adapter's start. -/
def attempt (s : Session) (start : String → Act Unit) (context : String) : Act Unit := do
  start context
  s.watch context

/-- `begin` with anything in the place of the adapter's start. -/
def beginBy (s : Session) (start : String → Act Unit) (context : String) : Act Unit := do
  let context := s.contextFor "init" context
  let phase := (← inHand).phase
  unless phase == .uninitialized do throw (.alreadyRunning context (.session phase))
  try s.attempt start context
  catch e =>
    s.clearAway
    hold fun h => { h with phase := .terminated }
    throw e
  hold fun h => { h with phase := .running }

theorem begin_eq_beginBy (s : Session) (context : String) :
    s.begin context = s.beginBy s.startAdapter context := rfl

/-- A step with anything in the place of the adapter's start. -/
def Step.actBy (s : Session) (start : String → Act Unit) : Step → Act Unit
  | .begin context => s.beginBy start context
  | .enter => s.beginBy start ""
  | step => step.act s

/-- A run with anything in the place of the adapter's start. -/
def runBy (s : Session) (start : String → Act Unit) (steps : List Step)
    (t : Timeline Rig Happening) : Timeline Rig Happening :=
  steps.foldl (fun t step => behind (step.actBy s start) t) t

theorem Step.actBy_startAdapter (s : Session) (step : Step) :
    step.actBy s s.startAdapter = step.act s := by
  cases step <;> rfl

theorem run_eq_runBy (s : Session) (steps : List Step) (t : Timeline Rig Happening) :
    s.run steps t = s.runBy s.startAdapter steps t := by
  simp only [run, runBy, Step.actBy_startAdapter]

/-! ## Ending -/

/-- The timeline with the session in a phase. -/
def inPhase (p : Phase) (t : Timeline Rig Happening) : Timeline Rig Happening :=
  { t with state.holdings.phase := p }

/-- The monitor is told to stop. -/
def stopReading (r : Rig) : Rig :=
  { r with reader := r.reader.map fun reader => { reader with monitor := reader.monitor.stop } }

theorem closeMonitor_keeps (h : ∀ t : Timeline Rig Happening,
    R t { t with state := stopReading t.state }) : closeMonitor.Keeps R :=
  (Timed.keeps_update h).bind fun _ => (Timed.waits_await _ _).keeps.bind fun _ =>
    Timed.keeps_pure _

theorem stopReading_spares (t : Timeline Rig Happening) :
    Spared t { t with state := stopReading t.state } := by
  refine ⟨rfl, rfl, ?_, ?_, rfl⟩
  · simp [stopReading, Function.comp_def]
  · cases hr : t.state.reader <;> simp [stopReading, Rig.log, hr, Monitor.stop]

theorem closeMonitor_failsOnly {P : Fault → Prop} : closeMonitor.FailsOnly P :=
  (Timed.failsOnly_update _).bind fun _ => (Timed.failsOnly_await _ _).bind fun _ =>
    Timed.failsOnly_pure _

/-- Stops the adapter, whatever that ends in. -/
def stopAnyway (s : Session) : Act Unit := tryCatch s.adapter.stop fun _ => pure ()

theorem stopAnyway_keeps (s : Session) : s.stopAnyway.Keeps T :=
  s.adapter.stop_keeps.tryCatch fun _ => Timed.keeps_pure _

theorem stopAnyway_succeeds (s : Session) (t : Timeline Rig Happening) :
    s.stopAnyway t = .ok () (behind s.stopAnyway t) := by
  have hnever : s.stopAnyway.FailsOnly fun _ => False :=
    FailsOnly.tryCatch (Q := fun _ => True) (fun _ _ _ _ => trivial) fun _ _ =>
      Timed.failsOnly_pure _
  obtain ⟨_, h⟩ := hnever.succeeds t
  exact h

/-- Closes the monitor if it is held. -/
def closeIf (held : Bool) : Act Unit := if held then closeMonitor else pure ()

theorem closeIf_keeps (h : ∀ t : Timeline Rig Happening, R t { t with state := stopReading t.state })
    (held : Bool) : (closeIf held).Keeps R := by
  cases held with
  | false => exact Timed.keeps_pure _
  | true => exact closeMonitor_keeps h

theorem clearAway_apply (s : Session) (t : Timeline Rig Happening) :
    s.clearAway t = closeIf (behind s.stopAnyway t).state.holdings.holdsMonitor
      { behind s.stopAnyway t with state.holdings.holdsMonitor := false } := by
  have hclear : s.clearAway = (do
      s.stopAnyway
      let held := (← inHand).holdsMonitor
      hold fun h => { h with holdsMonitor := false }
      closeIf held) := rfl
  rw [hclear, Timed.bind_of_ok (s.stopAnyway_succeeds t)]
  rfl

theorem clearAway_succeeds (s : Session) (t : Timeline Rig Happening) :
    s.clearAway t = .ok () (behind s.clearAway t) := by
  have hclose (held : Bool) : (closeIf held).FailsOnly fun _ => False := by
    cases held
    · exact Timed.failsOnly_pure _
    · exact closeMonitor_failsOnly
  obtain ⟨_, h⟩ := (hclose _).succeeds
    { behind s.stopAnyway t with state.holdings.holdsMonitor := false }
  rw [behind, s.clearAway_apply t]
  exact h

/-- Behind the clearing away, no monitor is held. -/
theorem clearAway_ends (s : Session) (ho : t.Ordered) :
    (behind s.clearAway t).Ordered ∧
      (behind s.clearAway t).state.holdings.phase = t.state.holdings.phase ∧
      (behind s.clearAway t).state.holdings.holdsMonitor = false := by
  obtain ⟨hou, hstop⟩ := s.stopAnyway_keeps (T := Spared) t ho
  obtain ⟨ho', hspared⟩ :=
    closeIf_keeps stopReading_spares (behind s.stopAnyway t).state.holdings.holdsMonitor
      { behind s.stopAnyway t with state.holdings.holdsMonitor := false } (hou.withState _)
  rw [behind, s.clearAway_apply t]
  exact ⟨ho', hspared.phase.trans hstop.phase, hspared.held⟩

theorem finish_apply (s : Session) (t : Timeline Rig Happening) :
    s.finish t =
      if t.state.holdings.phase = .terminated ∧ t.state.holdings.holdsMonitor = false then .ok () t
      else .ok () (inPhase .terminated (behind s.clearAway t)) := by
  by_cases h : t.state.holdings.phase = .terminated ∧ t.state.holdings.holdsMonitor = false
  · rw [if_pos h]
    have hover :
        (t.state.holdings.phase == .terminated && !t.state.holdings.holdsMonitor) = true := by
      simp [h]
    show (if _ then _ else _ : Act Unit) t = _
    rw [if_pos hover]
    rfl
  · rw [if_neg h]
    have hover :
        (t.state.holdings.phase == .terminated && !t.state.holdings.holdsMonitor) ≠ true := by
      simpa using h
    show (if _ then _ else _ : Act Unit) t = _
    rw [if_neg hover, Timed.bind_of_ok (s.clearAway_succeeds t)]
    rfl

theorem finish_succeeds (s : Session) (t : Timeline Rig Happening) :
    s.finish t = .ok () (behind s.finish t) := by
  have hfinish := s.finish_apply t
  split_ifs at hfinish <;> rw [Timed.behind_of_ok hfinish] <;> exact hfinish

/-! ## Beginning -/

/-- What a session reads its adapter with at first. -/
def newMonitor (s : Session) : Monitor :=
  { codec := s.codec, tailSize := Monitor.usualTailSize, observer := s.observer }

/-- The rig once the session has put its monitor on the output of a program. -/
def attached (s : Session) (program : ProgramId) (r : Rig) : Rig :=
  { r with reader := some { program, monitor := s.newMonitor }, holdings.holdsMonitor := true }

/-- The timeline then, when the monitor has read what is there. -/
def attach (s : Session) (program : ProgramId) (t : Timeline Rig Happening) :
    Timeline Rig Happening :=
  { t with state := (s.attached program t.state).settle t.now }

theorem attachMonitor_apply (s : Session) (program : ProgramId) (t : Timeline Rig Happening) :
    s.attachMonitor program t = .ok () (s.attach program t) := by
  have hbuild : Monitor.build s.codec Monitor.usualTailSize s.observer = .ok s.newMonitor := by
    have hword : isWord (50 : Int) = true := by decide
    simp [Monitor.build, newMonitor, Monitor.usualTailSize, hword]
  rw [attachMonitor, hbuild]
  rfl

theorem watch_apply (s : Session) (context : String) {program : ProgramId}
    {u : Timeline Rig Happening} (h : s.adapter.output t = .ok program u) :
    s.watch context t = s.awaitReadiness context (s.attach program u) := by
  rw [watch, Timed.bind_of_ok h, Timed.bind_of_ok (s.attachMonitor_apply program u)]

theorem pollExitCode_waits (s : Session) (n : Nat) : (s.pollExitCode n).Waits := by
  induction n with
  | zero => exact Timed.waits_pure _
  | succ n ih =>
    refine (Timed.waits_sleep _).bind fun _ => Timed.waits_state.bind fun _ => ?_
    split
    · exact Timed.waits_pure _
    · exact ih

theorem reapExitCode_waits (s : Session) (m : Monitor) : (s.reapExitCode m).Waits := by
  refine Timed.waits_state.bind fun _ => ?_
  split
  · exact Timed.waits_pure _
  · split
    · exact s.pollExitCode_waits _
    · exact Timed.waits_pure _

theorem diagnose_waits (s : Session) (m : Monitor) (context : String) :
    (s.diagnose m context).Waits :=
  (s.reapExitCode_waits m).bind fun _ => Timed.waits_state.bind fun _ => Timed.waits_pure _

theorem awaitReadiness_waits (s : Session) (context : String) :
    (s.awaitReadiness context).Waits := by
  refine (Timed.waits_measure _).bind fun _ => (Timed.waits_await _ _).bind fun _ =>
    Timed.waits_state.bind fun _ => ?_
  split
  · split
    · exact Timed.waits_pure _
    · exact (s.diagnose_waits _ context).bind fun _ => Timed.waits_throw _
  · exact Timed.waits_pure _

/-- A watch that succeeds ends with a monitor, and no watch leaves the first phase. -/
theorem watch_ends (s : Session) (context : String) (ho : t.Ordered) :
    (behind (s.watch context) t).Ordered ∧
      (behind (s.watch context) t).state.holdings.phase = t.state.holdings.phase ∧
      ∀ t', s.watch context t = .ok () t' →
        t'.state.holdings.holdsMonitor = true ∧ t'.state.reader.isSome := by
  obtain ⟨hou, hout⟩ := s.adapter.output_waits.keeps (R := Spared) t ho
  cases hid : s.adapter.output t with
  | error e u =>
    rw [Timed.behind_of_error hid] at hou hout
    have hwatch : s.watch context t = .error e u := Timed.bind_of_error hid
    rw [Timed.behind_of_error hwatch, hwatch]
    refine ⟨hou, hout.phase, fun t' h => ?_⟩
    cases h
  | ok id u =>
    rw [Timed.behind_of_ok hid] at hou hout
    have hwatch := s.watch_apply context hid
    have hsettle := Rig.settle_spares u.now (s.attached id u.state)
    obtain ⟨ho', hspared⟩ :=
      (s.awaitReadiness_waits context).keeps (R := Spared) (s.attach id u) (hou.withState _)
    rw [behind, hwatch]
    refine ⟨ho', hspared.phase.trans (hsettle.phase.trans hout.phase), fun t' h => ?_⟩
    rw [Timed.behind_of_ok h] at hspared
    exact ⟨hspared.held.trans hsettle.held, hspared.reader_isSome (hsettle.reader_isSome rfl)⟩

theorem attempt_ends (s : Session) {start : String → Act Unit} {context : String}
    (hstart : (start context).Keeps Spared) (ho : t.Ordered) :
    (behind (s.attempt start context) t).Ordered ∧
      (behind (s.attempt start context) t).state.holdings.phase = t.state.holdings.phase ∧
      ∀ t', s.attempt start context t = .ok () t' →
        t'.state.holdings.holdsMonitor = true ∧ t'.state.reader.isSome := by
  obtain ⟨hou, hspared⟩ := hstart t ho
  cases hs : start context t with
  | error e u =>
    rw [Timed.behind_of_error hs] at hou hspared
    have hattempt : s.attempt start context t = .error e u := Timed.bind_of_error hs
    rw [Timed.behind_of_error hattempt, hattempt]
    refine ⟨hou, hspared.phase, fun t' h => ?_⟩
    cases h
  | ok _ u =>
    rw [Timed.behind_of_ok hs] at hou hspared
    have hattempt : s.attempt start context t = s.watch context u := Timed.bind_of_ok hs
    obtain ⟨ho', hphase, hok⟩ := s.watch_ends context hou
    rw [behind, hattempt]
    exact ⟨ho', hphase.trans hspared.phase, hok⟩

/-- A session that has begun once does not begin again, and nothing is asked of anyone. -/
theorem beginBy_refuses (s : Session) (start : String → Act Unit) (context : String)
    (h : t.state.holdings.phase ≠ .uninitialized) :
    s.beginBy start context t =
      .error (.alreadyRunning (s.contextFor "init" context) (.session t.state.holdings.phase))
        t := by
  have hphase : ¬ (t.state.holdings.phase == .uninitialized) = true := by simpa using h
  show (if _ then _ else _ : Act Unit) t = _
  rw [if_neg hphase]
  rfl

/-- The ways in which beginning a new session ends. -/
inductive BeginEnds (s : Session) (attempt : EStateM.Result Fault (Timeline Rig Happening) Unit) :
    EStateM.Result Fault (Timeline Rig Happening) Unit → Prop
  | runs {t' : Timeline Rig Happening} :
    attempt = .ok () t' → BeginEnds s attempt (.ok () (inPhase .running t'))
  /-- The fault is that of the attempt. -/
  | fails {e : Fault} {t' : Timeline Rig Happening} :
    attempt = .error e t' →
    BeginEnds s attempt (.error e (inPhase .terminated (behind s.clearAway t')))

theorem beginBy_ends (s : Session) (start : String → Act Unit) (context : String)
    (h : t.state.holdings.phase = .uninitialized) :
    BeginEnds s (s.attempt start (s.contextFor "init" context) t) (s.beginBy start context t) := by
  have hphase : (t.state.holdings.phase == .uninitialized) = true := by simp [h]
  let rescue (e : Fault) : Act Unit := do
    s.clearAway
    hold fun h => { h with phase := .terminated }
    throw e
  have hbegin : s.beginBy start context t = (do
      tryCatch (s.attempt start (s.contextFor "init" context)) rescue
      hold fun h => { h with phase := .running } : Act Unit) t := by
    show (if _ then _ else _ : Act Unit) t = _
    rw [if_pos hphase]
  cases ha : s.attempt start (s.contextFor "init" context) t with
  | ok _ t' =>
    rw [hbegin, Timed.bind_of_ok (Timed.tryCatch_of_ok ha)]
    exact .runs rfl
  | error e t' =>
    have hrescue : rescue e t' = .error e (inPhase .terminated (behind s.clearAway t')) := by
      show (s.clearAway >>= _) t' = _
      rw [Timed.bind_of_ok (s.clearAway_succeeds t')]
      rfl
    rw [hbegin, Timed.bind_of_error ((Timed.tryCatch_of_error ha).trans hrescue)]
    exact .fails rfl

/-! ## Guarded calls -/

theorem runningMonitor_refuses (s : Session) (action context : String)
    (h : t.state.holdings.phase ≠ .running) :
    s.runningMonitor action context t =
      .error (.notRunning (s.contextFor action context) action t.state.holdings.phase) t := by
  have hguard : ¬ (t.state.holdings.phase == .running && t.state.holdings.holdsMonitor) = true := by
    simp [h]
  show (if _ then _ else _ : Act Monitor) t = _
  rw [if_neg hguard]
  rfl

theorem runningMonitor_serves (s : Session) (action context : String) {reader : Reader}
    (hphase : t.state.holdings.phase = .running) (hheld : t.state.holdings.holdsMonitor = true)
    (hreader : t.state.reader = some reader) :
    s.runningMonitor action context t = .ok reader.monitor t := by
  have hguard : (t.state.holdings.phase == .running && t.state.holdings.holdsMonitor) = true := by
    simp [hphase, hheld]
  show (if _ then _ else _ : Act Monitor) t = _
  rw [if_pos hguard, hreader]
  rfl

theorem runningMonitor_waits (s : Session) (action context : String) :
    (s.runningMonitor action context).Waits := by
  refine Timed.waits_state.bind fun _ => ?_
  dsimp only
  split
  · split
    · exact Timed.waits_pure _
    · exact Timed.waits_throw _
  · exact Timed.waits_throw _

/-- The call is refused unless the session runs, and its arguments make sense. -/
def Step.IsGuarded : Step → Prop
  | .send _ _ | .checkFrame _ _ _ _ _ | .checkOpcode _ _ _ _ | .mark | .snapshot | .monitor => True
  | .sendDraft d _ => ∃ f, d.build = .ok f
  | _ => False

/-- The caller's own condition can fail with the fault. -/
def Step.Raises (e : Fault) : Step → Prop
  | .checkFrame accepts _ _ _ _ => ∃ f, accepts f = .error e
  | _ => False

theorem checkFrame_refuses (s : Session) (accepts : FramePredicate) (timeout : Int)
    (since : Option Int) (description context : String) (h : t.state.holdings.phase ≠ .running) :
    ∃ e : Fault, e.IsNotRunning ∧
      s.checkFrame accepts timeout since description context t = .error e t :=
  ⟨.notRunning _ _ _, trivial, Timed.bind_of_error (s.runningMonitor_refuses _ _ h)⟩

theorem send_refuses (s : Session) (f : Frame) (context : String)
    (h : t.state.holdings.phase ≠ .running) :
    ∃ e : Fault, e.IsNotRunning ∧ s.send f context t = .error e t :=
  ⟨.notRunning _ _ _, trivial, Timed.bind_of_error (s.runningMonitor_refuses _ _ h)⟩

theorem Step.refuses (s : Session) {step : Step} (hguard : step.IsGuarded)
    (h : t.state.holdings.phase ≠ .running) :
    ∃ e : Fault, e.IsNotRunning ∧ step.act s t = .error e t := by
  cases step with
  | send f context => exact s.send_refuses f context h
  | sendDraft d context =>
    obtain ⟨f, hf⟩ := hguard
    have hact : (Step.sendDraft d context).act s = s.send f context := by
      show (Timed.lift .frame d.build >>= _) = _
      rw [hf]
      rfl
    rw [hact]
    exact s.send_refuses f context h
  | checkFrame accepts timeout since description context =>
    obtain ⟨e, he, hcheck⟩ := s.checkFrame_refuses accepts timeout since description context h
    exact ⟨e, he, Timed.bind_of_error hcheck⟩
  | checkOpcode c timeout since context =>
    obtain ⟨e, he, hcheck⟩ := s.checkFrame_refuses c.test.predicate timeout since c.description
      (s.contextFor s!"expect {c.description}" context) h
    exact ⟨e, he, Timed.bind_of_error hcheck⟩
  | mark | snapshot =>
    exact ⟨.notRunning _ _ _, trivial,
      Timed.bind_of_error (Timed.bind_of_error (s.runningMonitor_refuses _ _ h))⟩
  | monitor =>
    exact ⟨.notRunning _ _ _, trivial, Timed.bind_of_error (s.runningMonitor_refuses _ _ h)⟩
  | begin | enter | finish | leave | awaitDevice | sleep | prompt | plan => exact hguard.elim

/-- Of looking for a frame the condition is the only part that can fail. -/
theorem seek_failed {accepts : FramePredicate} {deadline position scanned : Nat} {e : Fault}
    {t' : Timeline Rig Happening}
    (h : Expectation.seek Rig.log accepts deadline position scanned t = (.failed e, t')) :
    ∃ f, accepts f = .error e := by
  fun_induction Expectation.seek Rig.log accepts deadline position scanned t with
  | case1 _ _ _ fresh e' hlook =>
    cases h
    rcases Expectation.firstAccepted_cases accepts fresh with
      ⟨hnone, _⟩ | ⟨_, f, _, _, _, _, hfirst⟩
    · rw [hlook] at hnone
      cases hnone
    · rw [hlook] at hfirst
      cases ha : accepts f with
      | error e'' =>
        rw [ha] at hfirst
        cases hfirst
        exact ⟨f, ha⟩
      | ok b =>
        rw [ha] at hfirst
        cases hfirst
  | case2 => cases h
  | case3 _ _ _ _ _ _ _ _ _ _ ih => exact ih h
  | case4 => cases h

theorem await_failsOnly (e : Expectation) (timeout : Int) (context : String) :
    (e.await Rig.log timeout context).FailsOnly fun fault =>
      fault.IsNotRunning → ∃ f, e.accepts f = .error fault := by
  intro t fault t' h hnot
  unfold Expectation.await at h
  split_ifs at h
  · cases h
    exact hnot.elim
  · cases h
    exact hnot.elim
  · cases h
    exact hnot.elim
  · split at h
    · cases h
    · rename_i hseek
      cases h
      exact seek_failed hseek
    · cases h
      exact hnot.elim

theorem build_cases (accepts : FramePredicate) (cursor : Int) (description : String) :
    Expectation.build accepts cursor description = .error (.cursor cursor) ∨
      ∃ x, Expectation.build accepts cursor description = .ok x ∧ x.accepts = accepts := by
  unfold Expectation.build
  split
  · exact .inl rfl
  · exact .inr ⟨_, rfl, rfl⟩

theorem checkFrame_failsOnly (s : Session) {accepts : FramePredicate} {timeout : Int}
    {since : Option Int} {description context : String} {reader : Reader} {e : Fault}
    {t' : Timeline Rig Happening} (hphase : t.state.holdings.phase = .running)
    (hheld : t.state.holdings.holdsMonitor = true) (hreader : t.state.reader = some reader)
    (h : s.checkFrame accepts timeout since description context t = .error e t')
    (hnot : e.IsNotRunning) : ∃ f, accepts f = .error e := by
  rw [checkFrame, Timed.bind_of_ok (s.runningMonitor_serves _ _ hphase hheld hreader)] at h
  rcases build_cases accepts (since.getD 0) description with hbuild | ⟨x, hbuild, rfl⟩
  · rw [hbuild] at h
    cases h
    exact hnot.elim
  · rw [hbuild] at h
    exact await_failsOnly x timeout _ t e t' h hnot

theorem send_failsOnly (s : Session) {f : Frame} {context : String} {reader : Reader} {e : Fault}
    {t' : Timeline Rig Happening} (hphase : t.state.holdings.phase = .running)
    (hheld : t.state.holdings.holdsMonitor = true) (hreader : t.state.reader = some reader)
    (h : s.send f context t = .error e t') : ¬ e.IsNotRunning := by
  rw [send, Timed.bind_of_ok (s.runningMonitor_serves _ _ hphase hheld hreader)] at h
  exact Adapter.writeLine_failsOnly (P := fun e => ¬ e.IsNotRunning) (fun _ => id) (fun _ => id) id
    _ _ _ t e t' h

theorem Step.serves (s : Session) {step : Step} {reader : Reader} {e : Fault}
    {t' : Timeline Rig Happening} (hguard : step.IsGuarded)
    (hphase : t.state.holdings.phase = .running) (hheld : t.state.holdings.holdsMonitor = true)
    (hreader : t.state.reader = some reader) (h : step.act s t = .error e t')
    (hnot : e.IsNotRunning) : step.Raises e := by
  have hserves := fun action context => s.runningMonitor_serves action context hphase hheld hreader
  cases step with
  | send f context => exact s.send_failsOnly hphase hheld hreader h hnot
  | sendDraft d context =>
    obtain ⟨f, hf⟩ := hguard
    change (Timed.lift .frame d.build >>= (s.send · context)) t = .error e t' at h
    rw [hf] at h
    exact s.send_failsOnly hphase hheld hreader h hnot
  | checkFrame accepts timeout since description context =>
    exact s.checkFrame_failsOnly hphase hheld hreader (Timed.error_of_bind_pure h) hnot
  | checkOpcode c timeout since context =>
    obtain ⟨f, hf⟩ :=
      s.checkFrame_failsOnly hphase hheld hreader (Timed.error_of_bind_pure h) hnot
    -- The condition on an opcode and its operands has faults of its own.
    unfold FrameTest.predicate at hf
    cases hholds : c.test.holds f with
    | ok b =>
      rw [hholds] at hf
      cases hf
    | error e' =>
      rw [hholds] at hf
      cases hf
      exact hnot.elim
  | mark =>
    cases (hserves _ _).symm.trans (Timed.error_of_bind_pure (Timed.error_of_bind_pure h))
  | snapshot =>
    cases (hserves _ _).symm.trans (Timed.error_of_bind_pure (Timed.error_of_bind_pure h))
  | monitor => cases (hserves _ _).symm.trans (Timed.error_of_bind_pure h)
  | begin | enter | finish | leave | awaitDevice | sleep | prompt | plan => exact hguard.elim

/-! ## One step -/

/-- The session holds a monitor exactly while it runs, and then there is one. -/
structure Sound (t : Timeline Rig Happening) : Prop where
  ordered : t.Ordered
  held : t.state.holdings.holdsMonitor = true ↔ t.state.holdings.phase = .running
  reads : t.state.holdings.phase = .running → t.state.reader.isSome

theorem Sound.of_spared {t' : Timeline Rig Happening} (h : Sound t) (ho : t'.Ordered)
    (hspared : Spared t t') : Sound t' where
  ordered := ho
  held := by rw [hspared.held, hspared.phase, h.held]
  reads := fun hphase => hspared.reader_isSome (h.reads (hspared.phase.symm.trans hphase))

theorem sound_terminated {t' : Timeline Rig Happening} (ho : t'.Ordered)
    (hheld : t'.state.holdings.holdsMonitor = false) : Sound (inPhase .terminated t') where
  ordered := ho.withState _
  held := by simp [inPhase, hheld]
  reads := fun h => by cases h

/-- The step neither begins the session nor ends it. -/
def Step.IsInner : Step → Prop
  | .begin _ | .enter | .finish | .leave => False
  | _ => True

/-- A check does nothing but let time pass. -/
theorem checkFrame_waits (s : Session) (accepts : FramePredicate) (timeout : Int)
    (since : Option Int) (description context : String) :
    (s.checkFrame accepts timeout since description context).Waits :=
  (s.runningMonitor_waits _ _).bind fun _ => (Timed.waits_lift _ _).bind fun x =>
    Expectation.waits_await Rig.view x timeout _

theorem send_keeps (s : Session) (f : Frame) (context : String) : (s.send f context).Keeps Q :=
  (s.runningMonitor_waits _ _).keeps.bind fun _ => s.adapter.writeLine_keeps _ _

theorem Step.keeps_of_inner (s : Session) {step : Step} (h : step.IsInner) :
    (step.act s).Keeps Q := by
  cases step with
  | begin | enter | finish | leave => exact h.elim
  | send f context => exact s.send_keeps f context
  | sendDraft d context => exact (Timed.keeps_lift _ _).bind fun f => s.send_keeps f context
  | checkFrame accepts timeout since description context =>
    exact (s.checkFrame_waits _ _ _ _ _).keeps.bind fun _ => Timed.keeps_pure _
  | checkOpcode c timeout since context =>
    exact (s.checkFrame_waits _ _ _ _ _).keeps.bind fun _ => Timed.keeps_pure _
  | mark | snapshot =>
    exact ((s.runningMonitor_waits _ _).keeps.bind fun _ => Timed.keeps_pure _).bind fun _ =>
      Timed.keeps_pure _
  | monitor => exact (s.runningMonitor_waits _ _).keeps.bind fun _ => Timed.keeps_pure _
  | awaitDevice d timeout context =>
    refine (Rig.sleep_keeps _).bind fun _ => ?_
    split
    · exact Timed.keeps_pure _
    · exact Timed.keeps_throw _
  | sleep duration => exact Rig.sleep_keeps duration
  | prompt actions => exact Rig.prompt_keeps actions
  | plan events => exact Rig.plan_keeps events

/-- Every start spares the session. -/
abbrev SparingStart (start : String → Act Unit) : Prop := ∀ context, (start context).Keeps Spared

theorem startAdapter_spares (s : Session) : SparingStart s.startAdapter :=
  fun context => s.adapter.start_keeps _ _ context

/-- A step keeps the session sound, and it moves it on or leaves it where it is. -/
def Advances (t t' : Timeline Rig Happening) : Prop :=
  Sound t' ∧ Phase.Moves t.state.holdings.phase t'.state.holdings.phase

theorem beginBy_advances (s : Session) {start : String → Act Unit} (hstart : SparingStart start)
    (context : String) (h : Sound t) : Advances t (behind (s.beginBy start context) t) := by
  by_cases hphase : t.state.holdings.phase = .uninitialized
  · obtain ⟨ho, hsame, hok⟩ := s.attempt_ends (hstart (s.contextFor "init" context)) h.ordered
    have hends := s.beginBy_ends start context hphase
    rw [Advances, behind, hphase]
    generalize s.beginBy start context t = result at hends
    cases hends with
    | @runs t' hattempt =>
      rw [Timed.behind_of_ok hattempt] at ho
      obtain ⟨hheld, hreads⟩ := hok t' hattempt
      exact ⟨⟨ho.withState _, by simp [inPhase, hheld], fun _ => hreads⟩, .begins⟩
    | @fails e t' hattempt =>
      rw [Timed.behind_of_error hattempt] at ho
      obtain ⟨ho', _, hheld⟩ := s.clearAway_ends ho
      exact ⟨sound_terminated ho' hheld, .fails⟩
  · rw [Timed.behind_of_error (s.beginBy_refuses start context hphase)]
    exact ⟨h, .stays _⟩

theorem finish_advances (s : Session) (h : Sound t) : Advances t (behind s.finish t) := by
  have hfinish := s.finish_apply t
  split_ifs at hfinish with hover
  · rw [Timed.behind_of_ok hfinish]
    exact ⟨h, .stays _⟩
  · rw [Timed.behind_of_ok hfinish]
    obtain ⟨ho, _, hheld⟩ := s.clearAway_ends h.ordered
    refine ⟨sound_terminated ho hheld, ?_⟩
    cases hphase : t.state.holdings.phase with
    | uninitialized => exact .fails
    | running => exact .ends
    | terminated => exact .stays _

theorem Step.advances (s : Session) {start : String → Act Unit} (hstart : SparingStart start)
    (step : Step) (h : Sound t) : Advances t (behind (step.actBy s start) t) := by
  have hinner (hin : step.IsInner) : Advances t (behind (step.act s) t) := by
    obtain ⟨ho, hspared⟩ := Step.keeps_of_inner (Q := Spared) s hin t h.ordered
    rw [Advances, hspared.phase]
    exact ⟨h.of_spared ho hspared, .stays _⟩
  cases step with
  | begin context => exact s.beginBy_advances hstart context h
  | enter => exact s.beginBy_advances hstart "" h
  | finish | leave => exact s.finish_advances h
  | send | sendDraft | checkFrame | checkOpcode | mark | snapshot | monitor | awaitDevice | sleep
    | prompt | plan => exact hinner trivial

/-! ## A run -/

theorem sound_new (ho : t.Ordered) (hnew : t.state.holdings.phase = .uninitialized)
    (hfree : t.state.holdings.holdsMonitor = false) : Sound t where
  ordered := ho
  held := by simp [hnew, hfree]
  reads := fun h => by simp [hnew] at h

theorem runBy_sound (s : Session) {start : String → Act Unit} (hstart : SparingStart start)
    (steps : List Step) (h : Sound t) : Sound (s.runBy start steps t) := by
  induction steps generalizing t with
  | nil => exact h
  | cons step steps ih => exact ih (step.advances s hstart h).1

theorem run_sound (s : Session) (steps : List Step) (h : Sound t) : Sound (s.run steps t) := by
  rw [s.run_eq_runBy]
  exact s.runBy_sound s.startAdapter_spares steps h

/-- Whichever way beginning ends, the session is not new any more. -/
theorem beginBy_leaves (s : Session) (start : String → Act Unit) (context : String) :
    (behind (s.beginBy start context) t).state.holdings.phase ≠ .uninitialized := by
  by_cases hphase : t.state.holdings.phase = .uninitialized
  · have hends := s.beginBy_ends start context hphase
    rw [behind]
    generalize s.beginBy start context t = result at hends
    cases hends with
    | runs => exact Phase.noConfusion
    | fails => exact Phase.noConfusion
  · rw [Timed.behind_of_error (s.beginBy_refuses start context hphase)]
    exact hphase

theorem BeginEnds.unique
    {attempt result result' : EStateM.Result Fault (Timeline Rig Happening) Unit}
    (h : BeginEnds s attempt result) (h' : BeginEnds s attempt result') : result = result' := by
  cases h with
  | runs hok =>
    cases h' with
    | runs hok' =>
      cases hok.symm.trans hok'
      rfl
    | fails herr => cases hok.symm.trans herr
  | fails herr =>
    cases h' with
    | runs hok => cases herr.symm.trans hok
    | fails herr' =>
      cases herr.symm.trans herr'
      rfl

/-- Beginning a session depends on one start, in the state that it finds. -/
theorem beginBy_congr (s : Session) {start : String → Act Unit} (start' : String → Act Unit)
    {context : String}
    (h : start (s.contextFor "init" context) t = start' (s.contextFor "init" context) t) :
    s.beginBy start context t = s.beginBy start' context t := by
  have hattempt : s.attempt start (s.contextFor "init" context) t =
      s.attempt start' (s.contextFor "init" context) t := by
    simp only [attempt, bind, EStateM.bind, h]
  by_cases hphase : t.state.holdings.phase = .uninitialized
  · have hends := s.beginBy_ends start context hphase
    have hends' := s.beginBy_ends start' context hphase
    rw [hattempt] at hends
    exact hends.unique hends'
  · rw [s.beginBy_refuses start context hphase, s.beginBy_refuses start' context hphase]

/-- Once the session has left the first phase, the adapter is not started any more. -/
theorem runBy_over (s : Session) {start : String → Act Unit} (hstart : SparingStart start)
    (steps : List Step) (h : Sound t) (hphase : t.state.holdings.phase ≠ .uninitialized) :
    s.runBy start steps t = s.run steps t := by
  induction steps generalizing t with
  | nil => rfl
  | cons step steps ih =>
    have hsame : behind (step.actBy s start) t = behind (step.act s) t := by
      cases step with
      | begin context =>
        exact (Timed.behind_of_error (s.beginBy_refuses start context hphase)).trans
          (Timed.behind_of_error (s.beginBy_refuses s.startAdapter context hphase)).symm
      | enter =>
        exact (Timed.behind_of_error (s.beginBy_refuses start "" hphase)).trans
          (Timed.behind_of_error (s.beginBy_refuses s.startAdapter "" hphase)).symm
      | finish | leave | send | sendDraft | checkFrame | checkOpcode | mark | snapshot | monitor
        | awaitDevice | sleep | prompt | plan => rfl
    obtain ⟨hsound, hmoves⟩ := step.advances s hstart h
    rw [hsame] at hsound hmoves
    have hleft : (behind (step.act s) t).state.holdings.phase ≠ .uninitialized := by
      intro hback
      rw [hback] at hmoves
      generalize t.state.holdings.phase = p at hmoves hphase
      cases hmoves
      exact hphase rfl
    show s.runBy start steps (behind (step.actBy s start) t) = _
    rw [hsame]
    exact ih hsound hleft

/-- Whatever stands in the place of the adapter's start, the run depends on how it ends in one
state, for one context, and on nothing else that it does. -/
def StartsOnce (s : Session) (steps : List Step) (t : Timeline Rig Happening) : Prop :=
  ∃ (context : String) (u : Timeline Rig Happening)
    (rest : EStateM.Result Fault (Timeline Rig Happening) Unit → Timeline Rig Happening),
    ∀ start, SparingStart start → s.runBy start steps t = rest (start context u)

theorem run_startsOnce (s : Session) (steps : List Step) (h : Sound t) : s.StartsOnce steps t := by
  induction steps generalizing t with
  | nil => exact ⟨"", t, fun _ => t, fun _ _ => rfl⟩
  | cons step steps ih =>
    -- The first step to begin the session takes the start; behind it nothing asks for one.
    have hbegin (context : String) (hstep : ∀ start, step.actBy s start = s.beginBy start context) :
        s.StartsOnce (step :: steps) t := by
      by_cases hphase : t.state.holdings.phase = .uninitialized
      · refine ⟨s.contextFor "init" context, t,
          fun result => s.run steps (behind (s.beginBy (fun _ _ => result) context) t), ?_⟩
        intro start hstart
        obtain ⟨hsound, hmoves⟩ := s.beginBy_advances hstart context h
        have hleft := s.beginBy_leaves start context (t := t)
        show s.runBy start steps (behind (step.actBy s start) t) = _
        rw [hstep, s.runBy_over hstart steps hsound hleft]
        congr 1
        rw [behind, behind]
        rw [s.beginBy_congr (fun _ _ => start (s.contextFor "init" context) t) rfl]
      · refine ⟨"", t, fun _ => s.run (step :: steps) t, fun start hstart => ?_⟩
        exact s.runBy_over hstart _ h hphase
    have hother (hstep : ∀ start, step.actBy s start = step.act s) :
        s.StartsOnce (step :: steps) t := by
      have hsound := (step.advances s s.startAdapter_spares h).1
      rw [hstep] at hsound
      obtain ⟨context, u, rest, hrest⟩ := ih hsound
      refine ⟨context, u, rest, fun start hstart => ?_⟩
      show s.runBy start steps (behind (step.actBy s start) t) = _
      rw [hstep]
      exact hrest start hstart
    cases step with
    | begin context => exact hbegin context fun _ => rfl
    | enter => exact hbegin "" fun _ => rfl
    | finish | leave | send | sendDraft | checkFrame | checkOpcode | mark | snapshot | monitor
      | awaitDevice | sleep | prompt | plan => exact hother fun _ => rfl

/-- What holds of a session between two calls. -/
structure Lawful (s : Session) (t : Timeline Rig Happening) : Prop where
  /-- It holds a monitor exactly while it runs. -/
  held : t.state.holdings.holdsMonitor = true ↔ t.state.holdings.phase = .running
  /-- No step takes it back. -/
  moves : ∀ step : Step,
    Phase.Moves t.state.holdings.phase (behind (step.act s) t).state.holdings.phase
  /-- Unless it is new, it does not begin, and nothing changes. -/
  beginsOnce : t.state.holdings.phase ≠ .uninitialized → ∀ context,
    s.begin context t =
      .error (.alreadyRunning (s.contextFor "init" context) (.session t.state.holdings.phase)) t
  /-- Unless it runs, every guarded call is refused, and nothing changes. -/
  refuses : t.state.holdings.phase ≠ .running → ∀ step : Step, step.IsGuarded →
    ∃ e : Fault, e.IsNotRunning ∧ step.act s t = .error e t
  /-- While it runs, none is, unless the caller's own condition fails like this. -/
  serves : t.state.holdings.phase = .running → ∀ step : Step, step.IsGuarded → ∀ e t',
    step.act s t = .error e t' → e.IsNotRunning → step.Raises e
  /-- It can be ended at any time, and ending it once more changes nothing. -/
  finishes : ∃ t', s.finish t = .ok () t' ∧ t'.state.holdings.phase = .terminated ∧
    t'.state.holdings.holdsMonitor = false ∧
    (t.state.holdings.phase = .terminated → t' = t)

theorem Sound.lawful (h : Sound t) (s : Session) : s.Lawful t where
  held := h.held
  moves step := by
    have hadvances := (step.advances s s.startAdapter_spares h).2
    rwa [step.actBy_startAdapter s] at hadvances
  beginsOnce hphase context := s.beginBy_refuses s.startAdapter context hphase
  refuses hphase step hguard := Step.refuses s hguard hphase
  serves hphase step hguard e t' hact hnot := by
    obtain ⟨reader, hreader⟩ := Option.isSome_iff_exists.mp (h.reads hphase)
    exact Step.serves s hguard hphase (h.held.mpr hphase) hreader hact hnot
  finishes := by
    have hfinish := s.finish_apply t
    split_ifs at hfinish with hover
    · exact ⟨t, hfinish, hover.1, hover.2, fun _ => rfl⟩
    · obtain ⟨_, _, hheld⟩ := s.clearAway_ends h.ordered
      refine ⟨_, hfinish, rfl, hheld, fun hphase => absurd ⟨hphase, ?_⟩ hover⟩
      have hnot : ¬ t.state.holdings.holdsMonitor = true := by
        rw [h.held, hphase]
        exact Phase.noConfusion
      simpa using hnot

/-- Whatever a caller asks of a new session, and whatever programs and machines do, the session is
lawful behind it, and the adapter was started at most once. -/
theorem run_lawful (s : Session) (steps : List Step) (ho : t.Ordered)
    (hnew : t.state.holdings.phase = .uninitialized)
    (hfree : t.state.holdings.holdsMonitor = false) :
    s.Lawful (s.run steps t) ∧ s.run steps t = s.runBy s.startAdapter steps t ∧
      SparingStart s.startAdapter ∧ s.StartsOnce steps t := by
  have hsound := sound_new ho hnew hfree
  exact ⟨(s.run_sound steps hsound).lawful s, s.run_eq_runBy steps t, s.startAdapter_spares,
    s.run_startsOnce steps hsound⟩

/-- A session in the usual role and place, with an adapter on this machine. -/
def usual : Session where
  logical := .playback1
  physical := ⟨0x1000, by decide⟩
  adapter := ⟨{}, Codec.usual, .child⟩
  codec := Codec.usual
  readyTimeout := usualReadyTimeout
  observer := none

/-- The program gets ready, but it does not quit and cannot be terminated. -/
theorem run_lawful_of_stubborn_program :
    let program : ProgramScript :=
      { opening := [.prints "waiting for input"], quit := .ignores, terminate := .fails .other }
    let t : Timeline Rig Happening := { state.surroundings.scripts := [program] }
    (usual.run [.begin "", .mark] t).state.holdings.phase = .running ∧
      usual.Lawful (usual.run [.begin "", .mark, .leave, .enter] t) ∧
      usual.StartsOnce [.begin "", .mark, .leave, .enter] t :=
  ⟨by decide +kernel,
    (run_lawful usual _ (Timeline.ordered_idle 0 _) rfl rfl).1,
    (run_lawful usual _ (Timeline.ordered_idle 0 _) rfl rfl).2.2.2⟩

end Session

end CecBench
