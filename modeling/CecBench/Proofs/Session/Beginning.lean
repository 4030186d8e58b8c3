import CecBench.Proofs.Adapter.Launch
import CecBench.Proofs.Session.Confines

/-!
# Beginning a session

A session begins in full or not at all.  Once the adapter is started and its
output can be read, the monitor attends the performance of the script from its
first line on (`attend_start`), and the wait for readiness ends in one of the
two ways of `Rig.ReadinessEnds`.  If anything fails on the way, the adapter is
stopped and the monitor put down, and the fault that is told is the first one.

The agenda must not hold anything yet for the program that is started.  This is
`Rig.Placed`, and every run keeps it (`run_placed`).

The result is `begin_all_or_nothing`.
-/

namespace CecBench

open Timed (Keeps behind)
open Adapter (SameGrip)
open Rig (Act Attends ReadinessEnds inHand hold)

namespace Rig

/-! ## Plans -/

/-- Nothing is planned for a program that was not started. -/
def Placed (t : Timeline Rig Happening) : Prop :=
  ∀ x ∈ t.agenda, x.2.program < t.state.surroundings.programs.length

def StaysPlaced (t t' : Timeline Rig Happening) : Prop := Placed t → Placed t'

variable {t : Timeline Rig Happening}

theorem StaysPlaced.of_programs {r : Rig}
    (h : r.surroundings.programs.length = t.state.surroundings.programs.length) :
    StaysPlaced t { t with state := r } := fun hplaced x hx => h ▸ hplaced x hx

theorem Placed.scheduleAll {events : List (Nat × Happening)} (h : Placed t)
    (hevents : ∀ x ∈ events, x.2.program < t.state.surroundings.programs.length) :
    Placed (t.scheduleAll events) := by
  intro x hx
  rw [Timeline.scheduleAll_state]
  rcases List.mem_append.mp ((Timeline.scheduleAll_perm t events).mem_iff.mp hx) with hx | hx
  · exact h x hx
  · obtain ⟨y, hy, rfl⟩ := List.mem_map.mp hx
    exact hevents y hy

theorem Placed.launched (h : Placed t) (script : ProgramScript) : Placed (launched script t) := by
  refine Placed.scheduleAll (fun x hx => ?_) fun x hx => ?_
  · simpa using (h x hx).trans (Nat.lt_succ_self _)
  · obtain ⟨e, _, rfl⟩ := List.mem_map.mp hx
    simp

instance : Tolerant StaysPlaced where
  elapses _ h hplaced x hx := by
    rw [h.state, replay_programs]
    refine hplaced x ?_
    rw [h.agenda]
    exact List.mem_append_right _ hx
  trans h h' hplaced := h' (h hplaced)
  modify _ _ _ _ := .of_programs (length_modifyProgram _ _ _)
  settle _ _ := .of_programs (settle_programs _ _)
  schedule _ _ hevents hplaced := hplaced.scheduleAll hevents
  asks _ _ _ := .of_programs rfl
  starts _ _ := .of_programs rfl
  role _ _ := .of_programs rfl
  place _ _ := .of_programs rfl
  signals _ := .of_programs rfl
  clients _ _ := .of_programs rfl
  client _ := .of_programs rfl
  streams _ := .of_programs rfl
  holds _ _ _ _ := .of_programs rfl
  launch _ script hplaced := hplaced.launched script

end Rig

open Rig (StaysPlaced)

namespace Session

variable {s : Session} {t t' : Timeline Rig Happening} {id : ProgramId} {context : String}

/-- No part of a session plans anything for a program that was not started. -/
theorem confines_placed (s : Session) : s.Confines StaysPlaced :=
  .of_tolerant s (fun _ _ => .of_programs rfl) (fun _ => .of_programs rfl)
    fun _ _ => .of_programs (Rig.settle_programs _ _)

theorem Step.placed (s : Session) (step : Step) : (step.act s).Keeps StaysPlaced := by
  cases step with
  | begin context => exact s.confines_placed.begins context
  | enter => exact s.confines_placed.begins ""
  | finish | leave => exact s.confines_placed.finishes
  | send | sendDraft | checkFrame | checkOpcode | mark | snapshot | monitor | awaitDevice | sleep
    | prompt | plan => exact Step.keeps_of_inner s trivial

/-- In no state that a session comes to is anything planned for a program that was not started. -/
theorem run_placed (s : Session) (steps : List Step) (ho : t.Ordered) (h : Rig.Placed t) :
    Rig.Placed (s.run steps t) := by
  induction steps generalizing t with
  | nil => exact h
  | cons step steps ih =>
    obtain ⟨ho', hplaced⟩ := step.placed s t ho
    exact ih ho' (hplaced h)

/-! ## From the start to the monitor -/

theorem attach_holds (h : s.adapter.Holds id t.state) :
    s.adapter.Holds id (s.attach id t).state := by
  have hsame := Rig.settle_holdings t.now (s.attached id t.state)
  unfold Adapter.Holds at h ⊢
  rw [attach, hsame]
  exact h

/-- The monitor attends the performance of the script that the program was started with. -/
theorem attend_start (ho : t.Ordered) (hplaced : Rig.Placed t)
    (hstart : s.startAdapter context t = .ok () t') (hholds : s.adapter.Holds id t'.state) :
    t'.now = t.now ∧ ∃ m p, Attends s.codec s.observer id (t.state.nextScript.performance t.now)
      [(t.now, t.state.nextScript.opening)] m p (s.attach id t') := by
  obtain ⟨id', hlaunched, hholds'⟩ := Adapter.start_eq_ok hstart
  obtain rfl := hholds.unique hholds'
  have hnone : doings id t.agenda = [] := by
    refine List.eq_nil_iff_forall_not_mem.mpr fun x hx => ?_
    obtain ⟨y, hy, hid, _⟩ := exists_of_mem_doings hx
    have := hplaced y hy
    rw [hid, hlaunched.isNew] at this
    exact Nat.lt_irrefl _ this
  have hreader : (s.attached id t'.state).reader = some ⟨id, s.newMonitor⟩ := rfl
  obtain ⟨m, p, hwatches⟩ := Rig.watches_start t'.now hreader hlaunched.program
  have ho' := hlaunched.ordered ho
  refine ⟨hlaunched.now, m, p, ho'.withState _, ?_, fun x hx => ?_,
    hlaunched.now ▸ hwatches⟩
  · show _ = _ ++ doings id t'.agenda
    rw [hlaunched.agenda, doings_scheduleAll ho, hnone]
    rfl
  · rw [List.mem_singleton.mp hx]
    exact Nat.le_of_eq hlaunched.now.symm

theorem moment_of_opening (script : ProgramScript) (now : Nat) (timeout : Int)
    (h : Performance.hasEnded [(now, script.opening)] = true) :
    (script.performance now).moment (now + timeout.toNat) = now := by
  refine Performance.moment_of_end (rfl : Performance.hasEnded [] = false) ?_ (Nat.le_add_right _ _)
  simpa [Performance.hasEnded] using h

/-! ## Waiting for readiness -/

theorem holds_wait (ho : t.Ordered) (hholds : s.adapter.Holds id t.state) (wished : Rig → Bool)
    (timeout : Int) : s.adapter.Holds id (t.wait wished timeout).2.state := by
  have hsame := Rig.wait_holdings ho wished timeout
  unfold Adapter.Holds at hholds ⊢
  rwa [hsame]

theorem awaitReadiness_immeasurable (s : Session) (context : String)
    (h : isMeasurable s.readyTimeout = false) :
    s.awaitReadiness context t = .error .immeasurable t := by
  rw [awaitReadiness, Timed.measure_of_immeasurable h]
  rfl

theorem awaitReadiness_apply (s : Session) (context : String) {m : Monitor}
    (h : isMeasurable s.readyTimeout = true)
    (hreader : (t.wait Rig.readinessIsKnown s.readyTimeout).2.state.reader = some ⟨id, m⟩) :
    s.awaitReadiness context t =
      (if m.isReady then pure () else do throw (.start (← s.diagnose m context)) : Act Unit)
        (t.wait Rig.readinessIsKnown s.readyTimeout).2 := by
  have hawait : (Timed.await Rig.readinessIsKnown s.readyTimeout : Act Bool) t =
      .ok (t.wait Rig.readinessIsKnown s.readyTimeout).1
        (t.wait Rig.readinessIsKnown s.readyTimeout).2 := rfl
  have hmeasure : Timed.measure s.readyTimeout t = .ok () t := by
    rw [Timed.measure_of_measurable h]
    rfl
  refine (Timed.bind_of_ok hmeasure).trans ((Timed.bind_of_ok hawait).trans ?_)
  refine (Timed.state_bind _ _).trans ?_
  simp only [hreader]

/-- The session is up: it runs, with a monitor on the output of the adapter's program, and a line of
that output has told that the console is ready. -/
structure Begun (s : Session) (t t' : Timeline Rig Happening) : Prop where
  phase : t'.state.holdings.phase = .running
  held : t'.state.holdings.holdsMonitor = true
  reads : ∃ id m, s.adapter.Holds id t'.state ∧ t'.state.reader = some ⟨id, m⟩ ∧ m.isReady = true
  heard : ∃ x ∈ (t.state.nextScript.performance t.now).heardBy t'.now,
    s.codec.isReadyLine x.2 = true

/-- The session is over: it holds no monitor, its adapter is not running, and the fault is that of
bringing it up. -/
structure Failed (s : Session) (context : String) (e : Fault) (t t' : Timeline Rig Happening) :
    Prop where
  phase : t'.state.holdings.phase = .terminated
  held : t'.state.holdings.holdsMonitor = false
  stopped : s.adapter.isRunning t'.state = false
  cause : ∃ u, s.bringUp (s.contextFor "init" context) t = .error e u

theorem awaitReadiness_eq_ok {perf past : Performance} {m : Monitor} {p : Program}
    (h : Attends s.codec s.observer id perf past m p t) (hholds : s.adapter.Holds id t.state)
    (hstart : past.hasEnded = true → perf.moment (t.now + s.readyTimeout.toNat) = t.now)
    (hok : s.awaitReadiness context t = .ok () t') :
    s.adapter.Holds id t'.state ∧
      ∃ past m p, Attends s.codec s.observer id perf past m p t' ∧ m.isReady = true := by
  cases hm : isMeasurable s.readyTimeout with
  | false =>
    rw [s.awaitReadiness_immeasurable context hm] at hok
    cases hok
  | true =>
    have hends := Rig.wait_readiness h hstart
    have hholds' := holds_wait h.ordered hholds Rig.readinessIsKnown s.readyTimeout
    cases hends with
    | @ready past' m' p' h' hready _ =>
      rw [s.awaitReadiness_apply context hm h'.watches.reader, if_pos hready] at hok
      cases hok
      exact ⟨hholds', past', m', p', h', hready⟩
    | missed h' hready =>
      rw [s.awaitReadiness_apply context hm h'.watches.reader, if_neg (by simp [hready])] at hok
      obtain ⟨_, _, _, hthrow⟩ := Timed.bind_eq_ok hok
      cases hthrow

theorem attempt_eq_ok (ho : t.Ordered) (hplaced : Rig.Placed t)
    (hok : s.attempt s.startAdapter context t = .ok () t') :
    ∃ id past m p, s.adapter.Holds id t'.state ∧ m.isReady = true ∧
      Attends s.codec s.observer id (t.state.nextScript.performance t.now) past m p t' := by
  obtain ⟨_, u, hstart, hwatch⟩ := Timed.bind_eq_ok hok
  cases houtput : s.adapter.output u with
  | error e v =>
    have hwatch' : s.watch context u = .error e v := Timed.bind_of_error houtput
    cases hwatch.symm.trans hwatch'
  | ok id v =>
    obtain ⟨hholds, rfl⟩ := Adapter.output_eq_ok houtput
    rw [s.watch_apply context houtput] at hwatch
    obtain ⟨hnow, m, p, hattends⟩ := attend_start ho hplaced hstart hholds
    have hmoment := moment_of_opening t.state.nextScript t.now s.readyTimeout
    rw [← hnow] at hmoment hattends
    obtain ⟨hholds', past, m', p', hattends', hready⟩ :=
      awaitReadiness_eq_ok hattends (attach_holds hholds) hmoment hwatch
    exact ⟨id, past, m', p', hholds', hready, hnow ▸ hattends'⟩

/-! ## Clearing away -/

theorem clearAway_idle (s : Session) (ho : t.Ordered) :
    s.adapter.Idle (behind s.clearAway t).state := by
  have hstop : behind s.stopAnyway t = behind s.adapter.stop t := by
    cases h : s.adapter.stop t with
    | ok _ u => rw [Timed.behind_of_ok h, stopAnyway, Timed.behind_of_ok (Timed.tryCatch_of_ok h)]
    | error e u =>
      have hpure : s.stopAnyway t = .ok () u := Timed.tryCatch_of_error h
      rw [Timed.behind_of_error h, Timed.behind_of_ok hpure]
  obtain ⟨hou, _⟩ := s.stopAnyway_keeps (T := Rig.Spared) t ho
  have hidle := s.adapter.stop_idle ho
  rw [← hstop] at hidle
  let u : Timeline Rig Happening :=
    { behind s.stopAnyway t with state.holdings.holdsMonitor := false }
  obtain ⟨_, hgrip⟩ := closeIf_keeps (R := SameGrip) (fun _ => ⟨rfl, rfl⟩)
    (behind s.stopAnyway t).state.holdings.holdsMonitor u (hou.withState _)
  rw [behind, s.clearAway_apply t]
  exact Adapter.Idle.of_grip (t := u) hidle hgrip

/-! ## All or nothing -/

/-- A new session begins in full or not at all, whatever the adapter, the programs and the other
machine do. -/
theorem begin_all_or_nothing (s : Session) (context : String) (ho : t.Ordered)
    (hplaced : Rig.Placed t) (hnew : t.state.holdings.phase = .uninitialized) :
    (∃ t', s.begin context t = .ok () t' ∧ s.Begun t t') ∨
      ∃ e t', s.begin context t = .error e t' ∧ s.Failed context e t t' := by
  have hends := s.beginBy_ends s.startAdapter context hnew
  obtain ⟨ho', _, hmonitor⟩ :=
    s.attempt_ends (s.startAdapter_spares (s.contextFor "init" context)) ho
  rw [s.begin_eq_beginBy context]
  generalize hbegin : s.beginBy s.startAdapter context t = result at hends
  cases hends with
  | @runs u hok =>
    obtain ⟨hheld, _⟩ := hmonitor u hok
    obtain ⟨id, past, m, p, hholds, hready, hattends⟩ := attempt_eq_ok ho hplaced hok
    refine .inl ⟨_, rfl, rfl, hheld, ⟨id, m, hholds, hattends.watches.reader, hready⟩, ?_⟩
    exact hattends.exists_ready hready
  | @fails e u herror =>
    rw [Timed.behind_of_error herror] at ho'
    obtain ⟨_, _, hheld⟩ := s.clearAway_ends ho'
    have hidle := s.clearAway_idle ho'
    exact .inr ⟨e, _, rfl, rfl, hheld, Adapter.Idle.isRunning hidle, u, herror⟩

/-- The program tells nothing, does not quit and cannot be terminated.  Before the session begins, it
is asked for a mark in vain, and time passes. -/
theorem begin_all_or_nothing_of_silent_program :
    let script : ProgramScript := { quit := .ignores, terminate := .fails .other }
    let t := usual.run [.mark, .sleep 10] { state.surroundings.scripts := [script] }
    t.Ordered ∧ Rig.Placed t ∧ t.state.holdings.phase = .uninitialized ∧
      ∃ e t', usual.begin "" t = .error e t' ∧ usual.Failed "" e t t' := by
  intro script t
  have hidle : Timeline.Ordered
      ({ state.surroundings.scripts := [script] } : Timeline Rig Happening) :=
    Timeline.ordered_idle 0 _
  have ho : t.Ordered := (usual.run_sound _ (sound_new hidle rfl rfl)).ordered
  have hplaced : Rig.Placed t :=
    usual.run_placed _ hidle fun x hx => absurd hx List.not_mem_nil
  have hnew : t.state.holdings.phase = .uninitialized := by decide +kernel
  refine ⟨ho, hplaced, hnew, ?_⟩
  obtain ⟨t', hok, _⟩ | hfails := begin_all_or_nothing usual "" ho hplaced hnew
  · have hfails :
        (match usual.begin "" t with | .ok _ _ => true | .error _ _ => false) = false := by
      decide +kernel
    rw [hok] at hfails
    cases hfails
  · exact hfails

end Session

end CecBench
