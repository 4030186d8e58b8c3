import CecBench.Proofs.Session.Lifecycle

/-!
# How long things take

Time moves only in waits, and every wait has a deadline.  `Timed.Within` says that
a computation moves the clock by no more than a bound, whatever state it finds and
whichever way it ends.  Bounds add up along a computation, and all that asks the
surroundings for something or changes what is in hand takes no time.

Some computations take longer when they fail, for then there is something to clear
away.  `Timed.SucceedsWithin` is about those runs of a computation that succeed.

The module ends in `waits_bounded`, which has a bound for each call of a session
that can wait.  No program can make any of them take longer.
-/

namespace CecBench

open Timed (behind)
open Rig

namespace Timed

variable {σ ε α β : Type} {bound more : Nat}

/-- The clock moves by no more than the bound. -/
def Within (bound : Nat) (work : Timed σ ε α) : Prop :=
  ∀ t : Timeline σ ε, (behind work t).now ≤ t.now + bound

/-- The clock moves by no more than the bound if the computation succeeds. -/
def SucceedsWithin (bound : Nat) (work : Timed σ ε α) : Prop :=
  ∀ (t : Timeline σ ε) (a : α) (t' : Timeline σ ε), work t = .ok a t' → t'.now ≤ t.now + bound

theorem within_pure (a : α) : Within 0 (pure a : Timed σ ε α) := fun _ => Nat.le_refl _

theorem within_throw (e : Fault) : Within 0 (throw e : Timed σ ε α) := fun _ => Nat.le_refl _

theorem within_state : Within 0 (state : Timed σ ε σ) := fun _ => Nat.le_refl _

theorem within_now : Within 0 (now : Timed σ ε Nat) := fun _ => Nat.le_refl _

theorem within_update (f : σ → σ) : Within 0 (update f : Timed σ ε Unit) := fun _ => Nat.le_refl _

theorem within_schedule (events : List (Nat × ε)) : Within 0 (schedule events : Timed σ ε Unit) :=
  fun t => Nat.le_of_eq (Timeline.scheduleAll_now t events)

theorem within_lift {η : Type} (fault : η → Fault) (x : Except η α) :
    Within 0 (lift fault x : Timed σ ε α) := by
  cases x with
  | ok a => exact within_pure a
  | error e => exact within_throw _

theorem within_measure (duration : Int) : Within 0 (measure duration : Timed σ ε Unit) := by
  unfold measure
  split
  · exact within_pure ()
  · exact within_throw _

theorem Within.mono {work : Timed σ ε α} (h : work.Within bound) (hle : bound ≤ more) :
    work.Within more :=
  fun t => Nat.le_trans (h t) (Nat.add_le_add_left hle _)

/-- Bounds add up. -/
theorem Within.bind {work : Timed σ ε α} {next : α → Timed σ ε β} (h : work.Within bound)
    (h' : ∀ a, (next a).Within more) : (work >>= next).Within (bound + more) := by
  intro t
  have hwork := h t
  cases hw : work t with
  | ok a t' =>
    rw [behind_of_ok hw] at hwork
    have hnext := h' a t'
    have hn : behind (work >>= next) t = behind (next a) t' := by
      rw [behind, behind, bind_of_ok hw]
    rw [hn]
    omega
  | error e t' =>
    rw [behind_of_error hw] at hwork
    rw [behind_of_error (bind_of_error hw)]
    omega

/-- What takes no time can come before. -/
theorem Within.after {work : Timed σ ε α} {next : α → Timed σ ε β} (h : work.Within 0)
    (h' : ∀ a, (next a).Within bound) : (work >>= next).Within bound :=
  (h.bind h').mono (Nat.le_of_eq (Nat.zero_add _))

/-- What takes no time can come behind. -/
theorem Within.before {work : Timed σ ε α} {next : α → Timed σ ε β} (h : work.Within bound)
    (h' : ∀ a, (next a).Within 0) : (work >>= next).Within bound := h.bind h'

theorem Within.tryCatch {work : Timed σ ε α} {handler : Fault → Timed σ ε α}
    (h : work.Within bound) (h' : ∀ e, (handler e).Within 0) :
    (MonadExcept.tryCatch work handler : Timed σ ε α).Within bound := by
  intro t
  have hwork := h t
  cases hw : work t with
  | ok a t' =>
    rw [behind_of_ok hw] at hwork
    rw [behind_of_ok (tryCatch_of_ok hw)]
    omega
  | error e t' =>
    rw [behind_of_error hw] at hwork
    have hhandler := h' e t'
    have hn : behind (MonadExcept.tryCatch work handler) t = behind (handler e) t' := by
      rw [behind, behind, tryCatch_of_error hw]
    rw [hn]
    omega

theorem Within.succeeds {work : Timed σ ε α} (h : work.Within bound) :
    work.SucceedsWithin bound := by
  intro t a t' hw
  have hwork := h t
  rwa [behind_of_ok hw] at hwork

theorem SucceedsWithin.bind {work : Timed σ ε α} {next : α → Timed σ ε β}
    (h : work.SucceedsWithin bound) (h' : ∀ a, (next a).SucceedsWithin more) :
    (work >>= next).SucceedsWithin (bound + more) := by
  intro t b t'' hok
  obtain ⟨a, t', hwork, hnext⟩ := bind_eq_ok hok
  have := h t a t' hwork
  have := h' a t' b t'' hnext
  omega

theorem SucceedsWithin.before {work : Timed σ ε α} {next : α → Timed σ ε β}
    (h : work.SucceedsWithin bound) (h' : ∀ a, (next a).SucceedsWithin 0) :
    (work >>= next).SucceedsWithin bound := h.bind h'

/-- What ends in a fault does not succeed at all. -/
theorem succeedsWithin_of_throw {work : Timed σ ε α} {fault : α → Fault} :
    (work >>= fun a => throw (fault a) : Timed σ ε β).SucceedsWithin bound := by
  intro t b t'' hok
  obtain ⟨a, t', _, hthrow⟩ := bind_eq_ok hok
  cases hthrow

variable [Unfolds σ ε]

/-- A wait does not go beyond its deadline, whatever is on the agenda. -/
theorem advance_now_le (wished : σ → Bool) (deadline : Nat) (agenda : List (Nat × ε)) (s : σ) :
    (Timeline.advance wished deadline agenda s).2.now ≤ deadline := by
  induction agenda generalizing s with
  | nil => exact Nat.le_refl _
  | cons x rest ih =>
    simp only [Timeline.advance]
    split
    · split
      · assumption
      · exact ih _
    · exact Nat.le_refl _

theorem within_await (wished : σ → Bool) (timeout : Int) :
    Within timeout.toNat (await wished timeout : Timed σ ε Bool) := by
  intro t
  show (t.wait wished timeout).2.now ≤ _
  unfold Timeline.wait
  split
  · exact Nat.le_add_right _ _
  · exact advance_now_le _ _ _ _

theorem within_sleep (duration : Int) :
    Within duration.toNat (sleep duration : Timed σ ε Unit) :=
  (within_await _ duration).before fun _ => within_pure ()

end Timed

/-! ## Steps of computations -/

namespace Rig

open Timed

variable {bound : Nat}

theorem note_within (c : Call) : (note c).Within 0 := within_update _

theorem hold_within (f : Holdings → Holdings) : (hold f).Within 0 := within_update _

theorem inHand_within : inHand.Within 0 := within_state.before fun _ => within_pure _

theorem touch_within (id : ProgramId) (f : Program → Program) : (touch id f).Within 0 :=
  within_now.before fun _ => within_update _

theorem failIf_within (kind : Option EquipmentKind) (text : String) : (failIf kind text).Within 0 := by
  cases kind with
  | none => exact within_pure _
  | some kind => exact within_throw _

theorem overlooking_within (overlooked : EquipmentKind → Bool) {step : Act Unit}
    (h : step.Within bound) : (overlooking overlooked step).Within bound := by
  refine h.tryCatch fun e => ?_
  split
  · split
    · exact within_pure _
    · exact within_throw _
  · exact within_throw _

theorem countStart_within : countStart.Within 0 :=
  within_state.before fun _ => (within_update _).before fun _ => within_pure _

theorem launch_within (script : ProgramScript) : (launch script).Within 0 :=
  within_state.before fun _ => (within_update _).before fun _ =>
    (within_schedule _).before fun _ => within_pure _

theorem writeTo_within (id : ProgramId) (line : String) : (writeTo id line).Within 0 := by
  refine (note_within _).before fun _ => within_state.before fun _ => ?_
  split
  · exact within_pure _
  · exact (failIf_within _ _).before fun _ => (touch_within _ _).before fun _ => within_schedule _

end Rig

/-! ## A program on this machine -/

namespace Child

open Timed

theorem spawn_within (command : List String) (context : String) :
    (spawn command context).Within 0 := by
  refine (note_within _).before fun _ => countStart_within.before fun script => ?_
  split
  · exact within_state.before fun _ => within_throw _
  · exact (launch_within _).before fun _ => hold_within _

theorem output_within : output.Within 0 := by
  refine within_state.before fun r => ?_
  dsimp only
  split
  · exact within_throw _
  · split
    · exact within_pure _
    · exact within_throw _

theorem awaitExit_within (id : ProgramId) (timeout : Int) :
    (awaitExit id timeout).Within timeout.toNat :=
  (note_within _).after fun _ => within_await _ _

theorem quit_within (id : ProgramId) (script : ProgramScript) : (quit id script).Within 0 := by
  unfold quit
  split
  · exact writeTo_within _ _
  · exact within_pure _

theorem terminate_within (id : ProgramId) (script : ProgramScript) :
    (terminate id script).Within 0 := by
  refine (note_within _).before fun _ => ?_
  split
  · exact touch_within _ _
  · exact within_pure _
  · exact within_throw _

theorem kill_within (id : ProgramId) : (kill id).Within 0 :=
  (note_within _).before fun _ => (touch_within _ _).before fun _ => note_within _

/-- A signal is waited for once, however the program takes it. -/
theorem endByForce_within (id : ProgramId) (script : ProgramScript) :
    (endByForce id script).Within 1000 := by
  refine (terminate_within _ _).after fun _ => (awaitExit_within _ _).before fun exited => ?_
  cases exited with
  | true => exact within_pure _
  | false => exact kill_within _

theorem closeStdin_within (script : ProgramScript) : (closeStdin script).Within 0 := by
  unfold closeStdin
  split
  · exact (note_within _).before fun _ => failIf_within _ _
  · exact within_pure _

theorem closeStdout_within (id : ProgramId) (script : ProgramScript) :
    (closeStdout id script).Within 0 := by
  unfold closeStdout
  split
  · exact (note_within _).before fun _ => (touch_within _ _).before fun _ => failIf_within _ _
  · exact within_pure _

theorem release_within (id : ProgramId) (script : ProgramScript) (timeout : Int) :
    (release id script timeout).Within (timeout.toNat + 1000) := by
  have hclose : (do
      overlooking EquipmentKind.isPipe (closeStdin script)
      overlooking EquipmentKind.isPipe (closeStdout id script) : Act Unit).Within 0 :=
    (overlooking_within _ (closeStdin_within _)).before fun _ =>
      overlooking_within _ (closeStdout_within _ _)
  refine within_state.after fun r => ?_
  dsimp only
  split
  · refine (overlooking_within _ (quit_within _ _)).after fun _ =>
      (within_measure _).after fun _ => (awaitExit_within _ _).bind fun exited => ?_
    cases exited with
    | true => exact hclose.mono (Nat.zero_le _)
    | false => exact (overlooking_within _ (endByForce_within _ _)).before fun _ => hclose
  · exact hclose.mono (Nat.zero_le _)

theorem stop_within (timeout : Int) : (stop timeout).Within (timeout.toNat + 1000) := by
  refine within_state.after fun r => ?_
  split
  · exact (within_pure _).mono (Nat.zero_le _)
  · refine (hold_within _).after fun _ => ?_
    split
    · exact (within_pure _).mono (Nat.zero_le _)
    · exact release_within _ _ _

end Child

/-! ## A program on another machine -/

namespace Remote

open Timed

theorem closeClient_within (id : ClientId) : (Connection.closeClient id).Within 0 :=
  (note_within _).before fun _ => (within_update _).before fun _ =>
    within_state.before fun _ => failIf_within _ _

theorem disconnect_within : Connection.disconnect.Within 0 := by
  refine inHand_within.before fun h => ?_
  split
  · exact within_pure _
  · exact (overlooking_within _ (closeClient_within _)).before fun _ => hold_within _

/-- Every look costs at most the time between two. -/
theorem poll_within (id : ProgramId) (n : Nat) : (poll id n).Within (50 * n) := by
  induction n with
  | zero => exact within_pure _
  | succ n ih =>
    refine within_state.after fun r => ?_
    split
    · have hle : 50 + 50 * n ≤ 50 * (n + 1) := by omega
      exact Within.mono ((within_sleep _).bind fun _ => ih) hle
    · exact (within_pure _).mono (Nat.zero_le _)

/-- The looks do not go beyond the time that is given, rounded up. -/
theorem polls_le {timeout : Int} {m : Nat} (hstep : 50 ∣ m) (hm : timeout.toNat ≤ m) :
    50 * polls timeout ≤ m := by
  obtain ⟨k, rfl⟩ := hstep
  unfold polls pollInterval
  omega

theorem quit_within (id : ProgramId) (timeout : Int) :
    (quit id timeout).Within (50 * polls timeout) := by
  have hlook : (do Timed.measure timeout; poll id (polls timeout) : Act Unit).Within
      (50 * polls timeout) := (within_measure _).after fun _ => poll_within _ _
  refine within_state.after fun r => ?_
  dsimp only
  split
  · exact (writeTo_within _ _).after fun _ => hlook
  · exact hlook

theorem release_within (id : ProgramId) : (release id).Within 0 := by
  have hchannel : (closeChannel id).Within 0 :=
    (note_within _).before fun _ => (touch_within _ _).before fun _ =>
      within_state.before fun _ => failIf_within _ _
  exact (overlooking_within _ hchannel).before fun _ => (hold_within _).before fun _ =>
    disconnect_within

theorem stop_within (timeout : Int) : (stop timeout).Within (50 * polls timeout) := by
  refine inHand_within.after fun h => ?_
  split
  · exact disconnect_within.mono (Nat.zero_le _)
  · have hquit (id : ProgramId) :
        (do quit id timeout; pure none : Act (Option Fault)).Within (50 * polls timeout) :=
      (quit_within id timeout).before fun _ => within_pure _
    refine (hold_within _).after fun _ => ((hquit _).tryCatch fun _ => within_pure _).before
      fun _ => (release_within _).before fun _ => ?_
    split
    · exact within_pure _
    · split
      · exact within_pure _
      · exact within_throw _
    · exact within_throw _

end Remote

/-! ## Sessions -/

namespace Session

open Timed

variable {s : Session}

theorem bind_within (logical : AddressSpec) (physical : PlaceSpec) :
    (Adapter.bind logical physical).Within 0 :=
  (within_lift _ _).before fun _ => (hold_within _).before fun _ =>
    (within_lift _ _).before fun _ => (hold_within _).before fun _ => within_pure _

/-- On this machine a program starts at once, or not at all. -/
theorem startAdapter_within (hlocal : s.adapter.carrier = .child) (context : String) :
    (s.startAdapter context).Within 0 := by
  have hcommand : s.adapter.commandLine.Within 0 :=
    inHand_within.before fun _ => within_lift _ _
  unfold startAdapter Adapter.start
  rw [hlocal]
  refine inHand_within.before fun h => ?_
  dsimp only
  split
  · exact hcommand.before fun _ => (within_throw _).before fun _ =>
      (bind_within _ _).before fun _ => (within_lift _ _).before fun _ => Child.spawn_within _ _
  · exact (bind_within _ _).before fun _ => (within_lift _ _).before fun _ =>
      Child.spawn_within _ _

theorem output_within (hlocal : s.adapter.carrier = .child) : s.adapter.output.Within 0 := by
  unfold Adapter.output
  rw [hlocal]
  exact Child.output_within

theorem attachMonitor_within (s : Session) (program : ProgramId) :
    (s.attachMonitor program).Within 0 :=
  (within_lift _ _).before fun _ => within_now.before fun _ => within_update _

theorem pollExitCode_within (s : Session) (n : Nat) : (s.pollExitCode n).Within (50 * n) := by
  induction n with
  | zero => exact within_pure _
  | succ n ih =>
    have hle : 50 + 50 * n ≤ 50 * (n + 1) := by omega
    refine Within.mono ((within_sleep _).bind fun _ => within_state.after fun r => ?_) hle
    split
    · exact (within_pure _).mono (Nat.zero_le _)
    · exact ih

theorem diagnose_within (s : Session) (m : Monitor) (context : String) :
    (s.diagnose m context).Within 1000 := by
  have hreap : (s.reapExitCode m).Within 1000 := by
    refine within_state.after fun r => ?_
    split
    · exact (within_pure _).mono (Nat.zero_le _)
    · split
      · exact s.pollExitCode_within _
      · exact (within_pure _).mono (Nat.zero_le _)
  exact hreap.before fun _ => within_state.before fun _ => within_pure _

/-- Once the wait for the console is over, only a diagnosis takes time, and it ends in a fault. -/
theorem awaitReadiness_within (s : Session) (context : String) :
    (s.awaitReadiness context).Within (s.readyTimeout.toNat + 1000) ∧
      (s.awaitReadiness context).SucceedsWithin s.readyTimeout.toNat := by
  constructor
  · refine (within_measure _).after fun _ => (within_await _ _).bind fun _ =>
      within_state.after fun r => ?_
    split
    · split
      · exact (within_pure _).mono (Nat.zero_le _)
      · exact (s.diagnose_within _ context).before fun _ => within_throw _
    · exact (within_pure _).mono (Nat.zero_le _)
  · rw [← Nat.zero_add s.readyTimeout.toNat]
    refine (within_measure _).succeeds.bind fun _ => ?_
    refine (within_await _ _).succeeds.before fun _ => within_state.succeeds.before fun r => ?_
    split
    · split
      · exact (within_pure _).succeeds
      · exact succeedsWithin_of_throw
    · exact (within_pure _).succeeds

theorem attempt_within (hlocal : s.adapter.carrier = .child) (context : String) :
    (s.attempt s.startAdapter context).Within (s.readyTimeout.toNat + 1000) ∧
      (s.attempt s.startAdapter context).SucceedsWithin s.readyTimeout.toNat := by
  have hstart := startAdapter_within hlocal context
  have hready := s.awaitReadiness_within context
  refine ⟨hstart.after fun _ => (output_within hlocal).after fun id =>
    (s.attachMonitor_within id).after fun _ => hready.1, ?_⟩
  rw [← Nat.zero_add s.readyTimeout.toNat]
  refine hstart.succeeds.bind fun _ => ?_
  rw [← Nat.zero_add s.readyTimeout.toNat]
  refine (output_within hlocal).succeeds.bind fun id => ?_
  rw [← Nat.zero_add s.readyTimeout.toNat]
  exact (s.attachMonitor_within id).succeeds.bind fun _ => hready.2

theorem closeMonitor_within : closeMonitor.Within 2000 :=
  (within_update _).after fun _ => (within_await _ _).before fun _ => within_pure _

/-- Stopping the adapter, and then its monitor. -/
theorem clearAway_within (hlocal : s.adapter.carrier = .child) :
    s.clearAway.Within (s.adapter.settings.stopTimeout.toNat + 1000 + 2000) := by
  have hstop : s.adapter.stop.Within (s.adapter.settings.stopTimeout.toNat + 1000) := by
    unfold Adapter.stop
    rw [hlocal]
    exact Child.stop_within _
  refine (hstop.tryCatch fun _ => within_pure _).bind fun _ =>
    inHand_within.after fun h => (hold_within _).after fun _ => ?_
  split
  · exact closeMonitor_within
  · exact (within_pure _).mono (Nat.zero_le _)

theorem finish_within (hlocal : s.adapter.carrier = .child) :
    s.finish.Within (s.adapter.settings.stopTimeout.toNat + 1000 + 2000) := by
  refine inHand_within.after fun h => ?_
  split
  · exact (within_pure _).mono (Nat.zero_le _)
  · exact (clearAway_within hlocal).before fun _ => hold_within _

theorem inPhase_now (p : Phase) (t : Timeline Rig Happening) : (inPhase p t).now = t.now := rfl

/-- A session begins in the time that the console is given.  If it does not, the diagnosis and the
clearing away come on top. -/
theorem begin_within (hlocal : s.adapter.carrier = .child) (context : String) :
    (s.begin context).SucceedsWithin s.readyTimeout.toNat ∧
      (s.begin context).Within
        (s.readyTimeout.toNat + 1000 + (s.adapter.settings.stopTimeout.toNat + 1000 + 2000)) := by
  obtain ⟨hany, hsucceeds⟩ := attempt_within hlocal (s.contextFor "init" context)
  have hclear := clearAway_within hlocal
  rw [s.begin_eq_beginBy]
  constructor
  · intro t a t' hok
    by_cases hphase : t.state.holdings.phase = .uninitialized
    · have hends := s.beginBy_ends s.startAdapter context hphase
      rw [hok] at hends
      cases hends with
      | @runs u hattempt =>
        rw [inPhase_now]
        exact hsucceeds t () u hattempt
    · rw [s.beginBy_refuses s.startAdapter context hphase] at hok
      cases hok
  · intro t
    by_cases hphase : t.state.holdings.phase = .uninitialized
    · have hends := s.beginBy_ends s.startAdapter context hphase
      have hattempted := hany t
      cases hb : s.beginBy s.startAdapter context t with
      | ok _ t' =>
        rw [hb] at hends
        cases hends with
        | @runs u hattempt =>
          rw [behind_of_ok hattempt] at hattempted
          rw [behind_of_ok hb, inPhase_now]
          exact Nat.le_trans hattempted (Nat.add_le_add_left (Nat.le_add_right _ _) _)
      | error e t' =>
        rw [hb] at hends
        cases hends with
        | @fails _ u hattempt =>
          rw [behind_of_error hattempt] at hattempted
          rw [behind_of_error hb, inPhase_now]
          calc (behind s.clearAway u).now
            _ ≤ u.now + (s.adapter.settings.stopTimeout.toNat + 1000 + 2000) := hclear u
            _ ≤ t.now + (s.readyTimeout.toNat + 1000) +
                (s.adapter.settings.stopTimeout.toNat + 1000 + 2000) :=
              Nat.add_le_add_right hattempted _
            _ = _ := Nat.add_assoc _ _ _
    · rw [behind_of_error (s.beginBy_refuses s.startAdapter context hphase)]
      exact Nat.le_add_right _ _

/-! ## Checks -/

/-- Looking for a frame that begins before the deadline ends no later. -/
theorem seek_now_le (accepts : FramePredicate) {deadline : Nat} (position scanned : Nat)
    (t : Timeline Rig Happening) (h : t.now ≤ deadline) :
    (Expectation.seek Rig.log accepts deadline position scanned t).2.now ≤ deadline := by
  fun_induction Expectation.seek Rig.log accepts deadline position scanned t with
  | case1 => exact h
  | case2 => exact h
  | case3 _ _ _ _ _ _ _ _ _ _ ih => exact ih (advance_now_le _ _ _ _)
  | case4 => exact h

theorem await_within (x : Expectation) (timeout : Int) (context : String) :
    (x.await Rig.log timeout context).Within timeout.toNat := by
  intro t
  have hseek := seek_now_le x.accepts x.cursor 0 t (Nat.le_add_right t.now timeout.toNat)
  unfold behind Expectation.await
  generalize Expectation.seek Rig.log x.accepts (t.now + timeout.toNat) x.cursor 0 t = found at hseek
  split_ifs
  · exact Nat.le_add_right _ _
  · exact Nat.le_add_right _ _
  · exact Nat.le_add_right _ _
  · obtain ⟨finding, t'⟩ := found
    cases finding <;> exact hseek

theorem checkFrame_within (s : Session) (accepts : FramePredicate) (timeout : Int)
    (since : Option Int) (description context : String) :
    (s.checkFrame accepts timeout since description context).Within timeout.toNat := by
  have hmonitor (action context : String) : (s.runningMonitor action context).Within 0 := by
    refine within_state.before fun r => ?_
    dsimp only
    split
    · split
      · exact within_pure _
      · exact within_throw _
    · exact within_throw _
  exact (hmonitor _ _).after fun _ => (within_lift _ _).after fun x => await_within x timeout _

/-- The longest that the calls of a session can take, whatever its program does.  Stopping an adapter
on another machine looks every 50 milliseconds, and its time is rounded up to that. -/
theorem waits_bounded (s : Session) (hlocal : s.adapter.carrier = .child)
    (t : Timeline Rig Happening) :
    let ready := s.readyTimeout.toNat
    let stop := s.adapter.settings.stopTimeout.toNat
    (∀ context t', s.begin context t = .ok () t' → t'.now ≤ t.now + ready) ∧
    (∀ context e t', s.begin context t = .error e t' →
      t'.now ≤ t.now + (ready + 1000 + stop + 1000 + 2000)) ∧
    (behind s.finish t).now ≤ t.now + (stop + 1000 + 2000) ∧
    (∀ accepts timeout since description context,
      (behind (s.checkFrame accepts timeout since description context) t).now ≤
        t.now + timeout.toNat) ∧
    (∀ c timeout since context,
      (behind (s.checkOpcode c timeout since context) t).now ≤ t.now + timeout.toNat) ∧
    ∀ (settings : AdapterSettings) (codec : Codec) (login : HostLogin) (m : Nat),
      50 ∣ m → settings.stopTimeout.toNat ≤ m →
        (behind (Adapter.stop ⟨settings, codec, .host login⟩) t).now ≤ t.now + m := by
  refine ⟨fun context t' => (begin_within hlocal context).1 t () t', ?_, finish_within hlocal t,
    fun _ _ _ _ _ => s.checkFrame_within _ _ _ _ _ t,
    fun _ _ _ _ => s.checkFrame_within _ _ _ _ _ t, ?_⟩
  · intro context e t' herror
    have hbegin := (begin_within hlocal context).2 t
    rw [behind_of_error herror] at hbegin
    simpa only [Nat.add_assoc] using hbegin
  · intro settings codec login m hstep hm
    exact (Remote.stop_within settings.stopTimeout).mono (Remote.polls_le hstep hm) t

/-- The program prints nothing, closes its output at the last moment, and neither quits nor can be
terminated.  On another machine its 125 milliseconds to quit are three looks. -/
theorem waits_bounded_of_stubborn_program :
    let program : ProgramScript :=
      { events := [(5000, [.endsOutput])], quit := .ignores, terminate := .ignores }
    let t : Timeline Rig Happening := { state.surroundings.scripts := [program] }
    let remote : Adapter :=
      ⟨{ stopTimeout := 125 }, Codec.usual, .host ⟨"bench", "user", "secret", 22, 30⟩⟩
    let u : Timeline Rig Happening :=
      { state.surroundings.programs := [Program.start program]
        state.holdings.channel := some 0 }
    (∃ e t', usual.begin "" t = .error e t' ∧ t'.now = 10000 ∧
      t'.now ≤ t.now + (5000 + 1000 + 3000 + 1000 + 2000)) ∧
    (behind remote.stop u).now = 150 ∧ (behind remote.stop u).now ≤ u.now + 150 := by
  intro program t remote u
  have hfails : (usual.begin "").succeeds t = false := by decide +kernel
  have hnow : (behind (usual.begin "") t).now = 10000 := by decide +kernel
  refine ⟨?_, by decide +kernel, ?_⟩
  · cases hbegin : usual.begin "" t with
    | ok _ t' =>
      rw [Timed.succeeds, hbegin] at hfails
      cases hfails
    | error e t' =>
      rw [behind_of_error hbegin] at hnow
      exact ⟨e, t', rfl, hnow, (waits_bounded usual rfl t).2.1 "" e t' hbegin⟩
  · exact (waits_bounded usual rfl u).2.2.2.2.2 remote.settings remote.codec
      ⟨"bench", "user", "secret", 22, 30⟩ 150 (by decide) (by decide)

end Session

end CecBench
