import CecBench.Proofs.Adapter.Twins
import CecBench.Proofs.Session.Beginning
import CecBench.Proofs.Session.Checks
import Mathlib.Data.List.Forall2

/-!
# A session here and there

A session does not show where its program runs.  `Session.remote` is a session with
its program on another machine.  While the session is new or runs, the two rigs
stay alike, by whatever steps.  Once it is over, the two may be at different
times, but then neither of them tells anything any more (`Over`).

`Session.trace` is all that a caller can see of a run: how each step ends, the
phase behind it, the monitor while there is one, and the console lines.  It is the
same for both sessions (`trace_remote`), except for why a frame could not be sent.
-/

namespace CecBench

open Timed (Abreast Accords Agree Keeps FailsOnly behind)
open Rig

variable {t u : Timeline Rig Happening} {login : HostLogin}

namespace Session

variable {s : Session}

/-- The session with its program on another machine. -/
def remote (s : Session) (login : HostLogin) : Session :=
  { s with adapter := s.adapter.remote login }

/-! ## Beginning -/

theorem attachMonitor_accords (s : Session) (login : HostLogin) (program : ProgramId) :
    Accords (Abreast Alike) (s.attachMonitor program) ((s.remote login).attachMonitor program) := by
  intro t u h
  have hattached : Alike (s.attached program t.state) ((s.remote login).attached program u.state) :=
    { h.state with reader := rfl, held := rfl }
  have hsettled := hattached.settle t.now
  rw [attachMonitor_apply, attachMonitor_apply, attach, attach, ← h.now]
  exact .ok () ⟨rfl, h.agenda, hsettled⟩

theorem pollExitCode_accords (hlocal : s.adapter.carrier = .child) (login : HostLogin) (n : Nat) :
    Accords (Abreast Alike) (s.pollExitCode n) ((s.remote login).pollExitCode n) := by
  induction n with
  | zero => exact Timed.accords_pure none
  | succ n ih =>
    refine (Timed.accords_sleep _).bind fun _ => Timed.accords_look fun t u h => ?_
    have hcode : s.adapter.exitCode t.state = (s.remote login).adapter.exitCode u.state :=
      Adapter.exitCode_alike hlocal login h.state
    rw [hcode]
    cases (s.remote login).adapter.exitCode u.state with
    | some code => exact .ok _ h
    | none => exact ih t u h

theorem diagnose_accords (hlocal : s.adapter.carrier = .child) (login : HostLogin) (m : Monitor)
    (context : String) :
    Accords (Abreast Alike) (s.diagnose m context) ((s.remote login).diagnose m context) := by
  have hreap : Accords (Abreast Alike) (s.reapExitCode m) ((s.remote login).reapExitCode m) := by
    refine Timed.accords_look fun t u h => ?_
    have hcode : s.adapter.exitCode t.state = (s.remote login).adapter.exitCode u.state :=
      Adapter.exitCode_alike hlocal login h.state
    rw [hcode]
    cases (s.remote login).adapter.exitCode u.state with
    | some code => exact .ok _ h
    | none =>
      cases m.hasEnded with
      | true => exact pollExitCode_accords hlocal login _ t u h
      | false => exact .ok _ h
  refine hreap.bind fun code => Timed.accords_look fun t u h => ?_
  rw [h.state.workplace]
  exact .ok _ h

theorem awaitReadiness_accords (hlocal : s.adapter.carrier = .child) (login : HostLogin)
    (context : String) :
    Accords (Abreast Alike) (s.awaitReadiness context) ((s.remote login).awaitReadiness context) := by
  refine (Timed.accords_measure _).bind fun _ =>
    (Timed.accords_await (fun r r' h => by rw [h.reader]) _).bind fun _ =>
      Timed.accords_look fun t u h => ?_
  rw [h.state.reader]
  cases u.state.reader with
  | none => exact .ok () h
  | some reader =>
    dsimp only
    cases reader.monitor.isReady with
    | true => exact .ok () h
    | false =>
      exact ((diagnose_accords hlocal login _ context).bind fun _ =>
        Timed.accords_throw (.refl _)) t u h

/-- A new session comes as far here as there. -/
theorem attempt_accords (hlocal : s.adapter.carrier = .child) (login : HostLogin)
    (context : String) (h : Abreast Alike t u) (hfree : t.state.holdings.child = none) :
    Agree (Abreast Alike) (s.attempt s.startAdapter context t)
      ((s.remote login).attempt (s.remote login).startAdapter context u) :=
  (Adapter.start_accords hlocal login _ _ context h hfree).bind fun _ t' u' _ _ h' =>
    ((Adapter.output_accords hlocal login).bind fun program =>
      (s.attachMonitor_accords login program).bind fun _ =>
        awaitReadiness_accords hlocal login context) t' u' h'

/-! ## The end -/

/-- Both sessions are over, and the same lines were written to both consoles. -/
structure Over (t u : Timeline Rig Happening) : Prop where
  phase : t.state.holdings.phase = .terminated
  phase' : u.state.holdings.phase = .terminated
  free : t.state.holdings.holdsMonitor = false
  free' : u.state.holdings.holdsMonitor = false
  lines : t.state.lines = u.state.lines

/-- Clearing away writes what stopping the adapter does. -/
theorem clearAway_writes (s : Session) {lines : List String} (ho : t.Ordered)
    (h : Writes lines t (behind s.adapter.stop t)) : Writes lines t (behind s.clearAway t) := by
  have hstop : behind s.stopAnyway t = behind s.adapter.stop t := by
    unfold stopAnyway
    cases hs : s.adapter.stop t with
    | ok _ t' => rw [Timed.behind_of_ok hs, Timed.behind_of_ok (Timed.tryCatch_of_ok hs)]
    | error e t' =>
      rw [Timed.behind_of_error hs, behind, Timed.tryCatch_of_error hs]
      rfl
  have hclose (held : Bool) : (closeIf held).Keeps (Writes []) := by
    cases held with
    | false => exact Timed.keeps_pure ()
    | true =>
      exact (Timed.keeps_update fun _ => .nothing rfl).bind fun _ =>
        (Timed.waits_await _ _).keeps.bind fun _ => Timed.keeps_pure _
  have hordered := (s.stopAnyway_keeps (T := Spared) t ho).1
  rw [← hstop] at h
  rw [behind, s.clearAway_apply t]
  exact h.before (hclose _ { behind s.stopAnyway t with state.holdings.holdsMonitor := false }
    (hordered.withState _)).2

/-- Both stops write the same lines. -/
theorem stop_writes_alike (hlocal : s.adapter.carrier = .child) (login : HostLogin)
    (h : Abreast Alike t u) (ho : t.Ordered) :
    ∃ lines, Writes lines t (behind s.adapter.stop t) ∧
      Writes lines u (behind (s.remote login).adapter.stop u) := by
  have hstop : s.adapter.stop = Child.stop s.adapter.settings.stopTimeout := by
    rw [Adapter.stop, hlocal]
  have hstop' : (s.remote login).adapter.stop = Remote.stop s.adapter.settings.stopTimeout := rfl
  have hgrip := h.state.grip
  rw [hstop, hstop']
  cases hchild : t.state.holdings.child with
  | none =>
    have hchannel := hgrip.symm.trans hchild
    refine ⟨[], ?_, ?_⟩
    · rw [Timed.behind_of_ok (Child.stop_of_none _ hchild)]
      exact .nothing rfl
    · rw [behind, Remote.stop_of_none _ hchannel]
      exact (Remote.disconnect_writes_nothing u (h.ordered ho)).2
  | some id =>
    have hchannel := hgrip.symm.trans hchild
    obtain ⟨p, hp, hplain⟩ := h.state.inHand hchild
    have hsame : farewell u.state id = farewell t.state id := by
      rw [farewell, farewell, h.state.exitCode]
    exact ⟨farewell t.state id, Child.stop_writes ho hchild hp hplain.stdin,
      hsame ▸ Remote.stop_writes (h.ordered ho) hchannel (h.state.streams (by rw [hchannel]; rfl))⟩

/-- However a session ends, it ends here and there, and it has written the same. -/
theorem clearAway_over (hlocal : s.adapter.carrier = .child) (login : HostLogin)
    (h : Abreast Alike t u) (ho : t.Ordered) :
    Over (inPhase .terminated (behind s.clearAway t))
      (inPhase .terminated (behind (s.remote login).clearAway u)) := by
  obtain ⟨lines, hwritten, hwritten'⟩ := stop_writes_alike hlocal login h ho
  have hlines := s.clearAway_writes ho hwritten
  have hlines' := (s.remote login).clearAway_writes (h.ordered ho) hwritten'
  obtain ⟨_, _, hfree⟩ := s.clearAway_ends ho
  obtain ⟨_, _, hfree'⟩ := (s.remote login).clearAway_ends (h.ordered ho)
  exact ⟨rfl, rfl, hfree, hfree', (hlines.trans (h.state.lines ▸ rfl)).trans hlines'.symm⟩

/-- Two sessions that a caller cannot tell apart. -/
inductive Paired (t u : Timeline Rig Happening) : Prop
  /-- The rigs are alike, and a new session has started no program. -/
  | abreast : Abreast Alike t u →
    (t.state.holdings.phase = .uninitialized → t.state.holdings.child = none) → Paired t u
  | ended : Over t u → Paired t u

theorem Paired.phase (h : Paired t u) : t.state.holdings.phase = u.state.holdings.phase := by
  cases h with
  | abreast habreast _ => exact habreast.state.phase
  | ended hover => exact hover.phase.trans hover.phase'.symm

/-! ## Steps -/

/-- What a step answers. -/
inductive Reply
  | done
  | frame (f : Frame)
  | cursor (n : Nat)
  | frames (fs : List Frame)
  | monitor (m : Monitor)

/-- The step as a computation, with what it answers. -/
def Step.reply (s : Session) : Step → Act Reply
  | .checkFrame accepts timeout since description context => do
    return .frame (← s.checkFrame accepts timeout since description context)
  | .checkOpcode c timeout since context => do
    return .frame (← s.checkOpcode c timeout since context)
  | .mark => do return .cursor (← s.mark)
  | .snapshot => do return .frames (← s.snapshot)
  | .monitor => do return .monitor (← s.monitor)
  | step => do
    step.act s
    return .done

/-- The answer is all that is added. -/
theorem Step.behind_reply (s : Session) (step : Step) :
    behind (step.reply s) t = behind (step.act s) t := by
  cases step with
  | checkFrame | checkOpcode | mark | snapshot | monitor =>
    exact (Timed.behind_bind_pure _ _ _).trans (Timed.behind_bind_pure _ _ _).symm
  | begin | enter | finish | leave | send | sendDraft | awaitDevice | sleep | prompt | plan =>
    exact Timed.behind_bind_pure _ _ _

/-! ## Steps of sessions that are new or run -/

theorem runningMonitor_accords (s : Session) (login : HostLogin) (action context : String) :
    Accords (Abreast Alike) (s.runningMonitor action context)
      ((s.remote login).runningMonitor action context) := by
  refine Timed.accords_look fun t u h => ?_
  rw [h.state.phase, h.state.held, h.state.reader]
  split
  · cases u.state.reader with
    | none => exact .error (.refl _) h
    | some reader => exact .ok _ h
  · exact .error (.refl _) h

theorem checkFrame_accords (s : Session) (login : HostLogin) (accepts : FramePredicate)
    (timeout : Int) (since : Option Int) (description context : String) :
    Accords (Abreast Alike) (s.checkFrame accepts timeout since description context)
      ((s.remote login).checkFrame accepts timeout since description context) :=
  (s.runningMonitor_accords login _ _).bind fun _ => (Timed.accords_lift _ _).bind fun x =>
    Timed.accords_expectation (fun _ _ h => h.log) x timeout _

theorem send_accords (hlocal : s.adapter.carrier = .child) (login : HostLogin) (f : Frame)
    (context : String) :
    Accords (Abreast Alike) (s.send f context) ((s.remote login).send f context) :=
  (s.runningMonitor_accords login _ _).bind fun _ =>
    Adapter.writeLine_accords hlocal login _ _

theorem Step.accords_of_inner (hlocal : s.adapter.carrier = .child) (login : HostLogin)
    {step : Step} (h : step.IsInner) :
    Accords (Abreast Alike) (step.reply s) (step.reply (s.remote login)) := by
  cases step with
  | begin | enter | finish | leave => exact h.elim
  | send f context => exact (send_accords hlocal login f context).bind fun _ => Timed.accords_pure _
  | sendDraft d context =>
    exact ((Timed.accords_lift _ _).bind fun f => send_accords hlocal login f context).bind
      fun _ => Timed.accords_pure _
  | checkFrame accepts timeout since description context =>
    exact (s.checkFrame_accords login _ _ _ _ _).bind fun _ => Timed.accords_pure _
  | checkOpcode c timeout since context =>
    exact (s.checkFrame_accords login _ _ _ _ _).bind fun _ => Timed.accords_pure _
  | mark | snapshot =>
    exact ((s.runningMonitor_accords login _ _).bind fun _ => Timed.accords_pure _).bind
      fun _ => Timed.accords_pure _
  | monitor => exact (s.runningMonitor_accords login _ _).bind fun _ => Timed.accords_pure _
  | awaitDevice d timeout context =>
    refine ((Timed.accords_sleep _).bind fun _ => ?_).bind fun _ => Timed.accords_pure _
    split
    · exact Timed.accords_pure ()
    · exact Timed.accords_throw (.refl _)
  | sleep duration => exact (Timed.accords_sleep duration).bind fun _ => Timed.accords_pure _
  | prompt actions => exact (prompt_accords actions).bind fun _ => Timed.accords_pure _
  | plan events => exact (plan_accords events).bind fun _ => Timed.accords_pure _

/-- A session that was used before is not begun again. -/
theorem begin_of_used (login : HostLogin) (context : String) (h : Paired t u)
    (hphase : t.state.holdings.phase ≠ .uninitialized) :
    Agree Paired (s.begin context t) ((s.remote login).begin context u) := by
  rw [s.begin_eq_beginBy, s.beginBy_refuses _ _ hphase, (s.remote login).begin_eq_beginBy,
    (s.remote login).beginBy_refuses _ _ (h.phase ▸ hphase), h.phase]
  exact .error (.refl _) h

/-- A new session begins on both sides, or its attempt fails on both, and then it is over. -/
theorem begin_of_new (hlocal : s.adapter.carrier = .child) (login : HostLogin) (context : String)
    (h : Abreast Alike t u) (ho : t.Ordered) (hphase : t.state.holdings.phase = .uninitialized)
    (hfree : t.state.holdings.child = none) :
    Agree Paired (s.begin context t) ((s.remote login).begin context u) := by
  have hattempt := attempt_accords hlocal login (s.contextFor "init" context) h hfree
  have hends := s.beginBy_ends s.startAdapter context hphase
  have hends' := (s.remote login).beginBy_ends (s.remote login).startAdapter context
    (h.state.phase ▸ hphase)
  obtain ⟨hordered, _⟩ := s.attempt_ends (s.startAdapter_spares (s.contextFor "init" context)) ho
  rw [s.begin_eq_beginBy, (s.remote login).begin_eq_beginBy]
  generalize s.beginBy s.startAdapter context t = result at hends
  generalize (s.remote login).beginBy (s.remote login).startAdapter context u = result' at hends'
  cases hends with
  | @runs t' hok =>
    rw [hok] at hattempt
    cases hends' with
    | @runs u' hok' =>
      have hboth := hok' ▸ hattempt
      cases hboth with
      | ok _ hrun =>
        refine .ok () (.abreast ?_ Phase.noConfusion)
        exact hrun.withState { hrun.state with phase := rfl }
    | @fails e u' herror' => cases herror' ▸ hattempt
  | @fails e t' herror =>
    rw [herror] at hattempt
    rw [Timed.behind_of_error herror] at hordered
    cases hends' with
    | @runs u' hok' => cases hok' ▸ hattempt
    | @fails e' u' herror' =>
      have hboth := herror' ▸ hattempt
      cases hboth with
      | error he hrun => exact .error he (.ended (clearAway_over hlocal login hrun hordered))

theorem begin_pairs (hlocal : s.adapter.carrier = .child) (login : HostLogin) (context : String)
    (h : Paired t u) (ho : t.Ordered) :
    Agree Paired (s.begin context t) ((s.remote login).begin context u) := by
  by_cases hphase : t.state.holdings.phase = .uninitialized
  · cases h with
    | ended hover => cases hphase.symm.trans hover.phase
    | abreast habreast hnew =>
      exact begin_of_new hlocal login context habreast ho hphase (hnew hphase)
  · exact begin_of_used login context h hphase

theorem finish_pairs (hlocal : s.adapter.carrier = .child) (login : HostLogin)
    (h : Paired t u) (ho : t.Ordered) :
    Agree Paired (s.finish t) ((s.remote login).finish u) := by
  rw [s.finish_apply, (s.remote login).finish_apply]
  cases h with
  | ended hover =>
    rw [if_pos ⟨hover.phase, hover.free⟩, if_pos ⟨hover.phase', hover.free'⟩]
    exact .ok () (.ended hover)
  | abreast habreast hnew =>
    rw [← habreast.state.phase, ← habreast.state.held]
    split
    · exact .ok () (.abreast habreast hnew)
    · exact .ok () (.ended (clearAway_over hlocal login habreast ho))

theorem Step.pairs_of_inner (hlocal : s.adapter.carrier = .child) (login : HostLogin) {step : Step}
    (hinner : step.IsInner) (h : Abreast Alike t u) (ho : t.Ordered)
    (hnew : t.state.holdings.phase = .uninitialized → t.state.holdings.child = none) :
    Agree Paired (step.reply s t) (step.reply (s.remote login) u) := by
  refine (Step.accords_of_inner hlocal login hinner t u h).imp fun habreast => .abreast habreast ?_
  rw [step.behind_reply]
  rw [(Step.keeps_of_inner (Q := Spared) s hinner t ho).2.phase,
    (Step.keeps_of_inner (Q := Adapter.SameGrip) s hinner t ho).2.child]
  exact hnew

/-- A call that needs a running session is refused in the same words, and nothing is done. -/
theorem Over.refuses (h : Over t u) (s : Session) (login : HostLogin) (action context : String) :
    ∃ e, s.runningMonitor action context t = .error e t ∧
      (s.remote login).runningMonitor action context u = .error e u := by
  have hphase : t.state.holdings.phase ≠ .running := by rw [h.phase]; exact Phase.noConfusion
  have hphase' : u.state.holdings.phase ≠ .running := by rw [h.phase']; exact Phase.noConfusion
  have hrefused := (s.remote login).runningMonitor_refuses action context hphase'
  rw [h.phase', ← h.phase] at hrefused
  exact ⟨_, s.runningMonitor_refuses action context hphase, hrefused⟩

theorem Over.refuses_rest {α : Type} (h : Over t u) (s : Session) (login : HostLogin)
    (action context : String) (next next' : Monitor → Act α) :
    Agree Paired ((s.runningMonitor action context >>= next) t)
      (((s.remote login).runningMonitor action context >>= next') u) := by
  obtain ⟨e, hrefused, hrefused'⟩ := h.refuses s login action context
  rw [Timed.bind_of_error hrefused, Timed.bind_of_error hrefused']
  exact .error (.refl e) (.ended h)

/-- What neither writes anything nor touches the sessions leaves them over. -/
theorem Over.passes (h : Over t u) (ho : t.Ordered) (ho' : u.Ordered) {work : Act Unit}
    (hkeeps : work.Keeps Spared) (hwrites : work.Keeps (Writes []))
    (hok : work.FailsOnly fun _ => False) : Agree Paired (work t) (work u) := by
  obtain ⟨_, hwork⟩ := hok.succeeds t
  obtain ⟨_, hwork'⟩ := hok.succeeds u
  obtain ⟨_, hspared⟩ := hkeeps t ho
  obtain ⟨_, hspared'⟩ := hkeeps u ho'
  have hlines : (behind work t).state.lines = t.state.lines :=
    (hwrites t ho).2.trans (List.append_nil _)
  have hlines' : (behind work u).state.lines = u.state.lines :=
    (hwrites u ho').2.trans (List.append_nil _)
  rw [hwork, hwork']
  exact .ok () (.ended ⟨hspared.phase.trans h.phase, hspared'.phase.trans h.phase',
    hspared.held.trans h.free, hspared'.held.trans h.free',
    hlines.trans (h.lines.trans hlines'.symm)⟩)

theorem Over.sleeps (h : Over t u) (ho : t.Ordered) (ho' : u.Ordered) (duration : Int) :
    Agree Paired ((Timed.sleep duration : Act Unit) t) ((Timed.sleep duration : Act Unit) u) :=
  h.passes ho ho' (sleep_keeps duration) (Timed.waits_sleep duration).keeps
    ((Timed.failsOnly_await _ _).bind fun _ => Timed.failsOnly_pure _)

theorem Step.pairs_of_over (login : HostLogin) {step : Step} (hinner : step.IsInner) (h : Over t u)
    (ho : t.Ordered) (ho' : u.Ordered) :
    Agree Paired (step.reply s t) (step.reply (s.remote login) u) := by
  have hanswer {α β : Type} (f : α → β) {work work' : Act α}
      (hagree : Agree Paired (work t) (work' u)) :
      Agree Paired ((do return f (← work) : Act β) t) ((do return f (← work') : Act β) u) :=
    hagree.bind fun _ _ _ _ _ hpaired => .ok _ hpaired
  have hsend (f : Frame) (context : String) :
      Agree Paired (s.send f context t) ((s.remote login).send f context u) :=
    h.refuses_rest s login _ _ _ _
  cases step with
  | begin | enter | finish | leave => exact hinner.elim
  | send f context => exact hanswer _ (hsend f context)
  | sendDraft d context =>
    refine hanswer _ ?_
    show Agree Paired ((Timed.lift .frame d.build >>= (s.send · context)) t)
      ((Timed.lift .frame d.build >>= ((s.remote login).send · context)) u)
    cases d.build with
    | error e => exact .error (.refl _) (.ended h)
    | ok f => exact hsend f context
  | checkFrame | checkOpcode => exact hanswer _ (h.refuses_rest s login _ _ _ _)
  | mark | snapshot => exact hanswer _ (h.refuses_rest s login _ _ _ _)
  | monitor => exact h.refuses_rest s login _ _ _ _
  | awaitDevice d timeout context =>
    refine hanswer _ ((h.sleeps ho ho' _).bind fun _ _ _ _ _ hpaired => ?_)
    split
    · exact .ok () hpaired
    · exact .error (.refl _) hpaired
  | sleep duration => exact hanswer _ (h.sleeps ho ho' duration)
  | prompt actions =>
    exact hanswer _ (h.passes ho ho' (prompt_keeps actions) (prompt_writes_nothing actions)
      (Adapter.prompt_failsOnly actions))
  | plan events =>
    exact hanswer _ (h.passes ho ho' (plan_keeps events) (plan_writes_nothing events)
      (Adapter.plan_failsOnly events))

theorem Step.pairs (hlocal : s.adapter.carrier = .child) (login : HostLogin) (step : Step)
    (h : Paired t u) (ho : t.Ordered) (ho' : u.Ordered) :
    Agree Paired (step.reply s t) (step.reply (s.remote login) u) := by
  have hinner (hin : step.IsInner) :
      Agree Paired (step.reply s t) (step.reply (s.remote login) u) := by
    cases h with
    | abreast habreast hnew => exact pairs_of_inner hlocal login hin habreast ho hnew
    | ended hover => exact pairs_of_over login hin hover ho ho'
  have hdone {work work' : Act Unit} (hagree : Agree Paired (work t) (work' u)) :
      Agree Paired ((do work; return Reply.done : Act Reply) t)
        ((do work'; return Reply.done : Act Reply) u) :=
    hagree.bind fun _ _ _ _ _ hpaired => .ok _ hpaired
  cases step with
  | begin context => exact hdone (begin_pairs hlocal login context h ho)
  | enter => exact hdone (begin_pairs hlocal login "" h ho)
  | finish | leave => exact hdone (finish_pairs hlocal login h ho)
  | send | sendDraft | checkFrame | checkOpcode | mark | snapshot | monitor | awaitDevice | sleep
    | prompt | plan => exact hinner trivial

/-! ## What a caller sees -/

/-- What a caller sees of a step. -/
structure Sight where
  /-- How it ends. -/
  outcome : Except Fault Reply
  /-- The phase behind it. -/
  phase : Phase
  /-- The time behind it and the monitor, while the session holds one. -/
  monitor : Option (Nat × Monitor)
  /-- All lines written to the console until then. -/
  lines : List String

/-- Both succeed with the same answer, or the faults resemble each other. -/
inductive SameOutcome : Except Fault Reply → Except Fault Reply → Prop
  | ok (reply : Reply) : SameOutcome (.ok reply) (.ok reply)
  | error {e e' : Fault} : e.Resembles e' → SameOutcome (.error e) (.error e')

/-- A caller sees the same, except for why a line did not reach the adapter. -/
structure Sight.Matches (x y : Sight) : Prop where
  outcome : SameOutcome x.outcome y.outcome
  phase : x.phase = y.phase
  monitor : x.monitor = y.monitor
  lines : x.lines = y.lines

/-- The monitor that the session holds, with the time. -/
def watched (t : Timeline Rig Happening) : Option (Nat × Monitor) :=
  if t.state.holdings.holdsMonitor then t.state.reader.map fun reader => (t.now, reader.monitor)
  else none

def Step.sight (s : Session) (step : Step) (t : Timeline Rig Happening) : Sight :=
  let later := behind (step.reply s) t
  { outcome := outcome (step.reply s) t
    phase := later.state.holdings.phase
    monitor := watched later
    lines := later.state.lines }

/-- What a caller sees of a run, step by step. -/
def trace (s : Session) : List Step → Timeline Rig Happening → List Sight
  | [], _ => []
  | step :: steps, t => step.sight s t :: s.trace steps (behind (step.reply s) t)

theorem Paired.watched (h : Paired t u) : watched t = watched u := by
  unfold Session.watched
  cases h with
  | abreast habreast _ => rw [habreast.state.held, habreast.state.reader, habreast.now]
  | ended hover => rw [hover.free, hover.free', if_neg Bool.false_ne_true, if_neg Bool.false_ne_true]

theorem Paired.lines (h : Paired t u) : t.state.lines = u.state.lines := by
  cases h with
  | abreast habreast _ => exact habreast.state.lines
  | ended hover => exact hover.lines

theorem Step.sight_matches {step : Step}
    (h : Agree Paired (step.reply s t) (step.reply (s.remote login) u)) :
    (step.sight s t).Matches (step.sight (s.remote login) u) where
  outcome := by
    show SameOutcome (Session.outcome (step.reply s) t) (Session.outcome (step.reply _) u)
    unfold Session.outcome
    generalize step.reply s t = result at h
    generalize step.reply (s.remote login) u = result' at h
    cases h with
    | ok a _ => exact .ok a
    | error he _ => exact .error he
  phase := h.behind.phase
  monitor := h.behind.watched
  lines := h.behind.lines

theorem Step.reply_ordered (s : Session) (step : Step) (ho : t.Ordered) :
    (behind (step.reply s) t).Ordered := by
  rw [step.behind_reply]
  exact (step.placed s t ho).1

theorem trace_matches (hlocal : s.adapter.carrier = .child) (login : HostLogin) (steps : List Step)
    (h : Paired t u) (ho : t.Ordered) (ho' : u.Ordered) :
    List.Forall₂ Sight.Matches (s.trace steps t) ((s.remote login).trace steps u) := by
  induction steps generalizing t u with
  | nil => exact .nil
  | cons step steps ih =>
    have hpairs := step.pairs hlocal login h ho ho'
    exact .cons (step.sight_matches hpairs)
      (ih hpairs.behind (step.reply_ordered s ho) (step.reply_ordered (s.remote login) ho'))

/-- Whatever a caller does with a session, there is no telling whether its program runs here or on
another machine, as long as neither starting it nor reaching the machine fails, the program has both
pipes, and its input fails at most as the operating system does. -/
theorem trace_remote (s : Session) (login : HostLogin) (hlocal : s.adapter.carrier = .child)
    (steps : List Step) (ho : t.Ordered) (hchild : t.state.holdings.child = none)
    (hchannel : t.state.holdings.channel = none)
    (hstarted : ∀ p ∈ t.state.surroundings.programs, p.script.IsPlain)
    (hcoming : ∀ script ∈ t.state.surroundings.scripts, script.IsPlain)
    (hhost : t.state.surroundings.host.IsObliging) :
    List.Forall₂ Sight.Matches (s.trace steps t) ((s.remote login).trace steps t) := by
  have halike : Alike t.state t.state :=
    { programs := rfl, scripts := rfl, starts := rfl, workplace := rfl, lines := rfl, reader := rfl
      logical := rfl, physical := rfl, phase := rfl, held := rfl
      grip := hchild.trans hchannel.symm
      streams := fun h => by rw [hchannel] at h; cases h
      known := fun id h => by rw [hchild] at h; cases h
      plain := fun id p hp => hstarted p (List.mem_of_getElem? hp)
      coming := hcoming
      obliging := hhost }
  exact trace_matches hlocal login steps (.abreast ⟨rfl, rfl, halike⟩ fun _ => hchild) ho ho

/-- The program gets ready and tells of a frame, but its input is broken.  So the frame that is sent
does not reach it, and neither does the command to quit. -/
theorem trace_remote_of_broken_input :
    let program : ProgramScript :=
      { opening := [.prints "waiting for input"]
        events := [(100, [.prints "TRAFFIC: [ 100]\t>> 40:04"])]
        writeFailure := some .brokenPipe }
    let t : Timeline Rig Happening := { state.surroundings.scripts := [program] }
    let login : HostLogin := ⟨"bench", "user", "secret", 22, 30⟩
    let standby : Frame := ⟨.playback1, .tv, .message 0x36 ⟨[], by decide⟩, none⟩
    let steps := [.begin "", .sleep 150, .send standby "", .finish]
    (usual.trace steps t).map Sight.phase = [.running, .running, .running, .terminated] ∧
      (usual.trace steps t).map Sight.lines = [[], [], ["tx 40:36"], ["tx 40:36", "q"]] ∧
      (usual.run steps t).now ≠ ((usual.remote login).run steps t).now ∧
      List.Forall₂ Sight.Matches (usual.trace steps t) ((usual.remote login).trace steps t) := by
  intro program t login standby steps
  have hplain : program.IsPlain := ⟨rfl, rfl, rfl, fun kind h => by cases h; rfl⟩
  refine ⟨by decide +kernel, by decide +kernel, by decide +kernel, ?_⟩
  exact trace_remote usual login rfl steps (Timeline.ordered_idle 0 _) rfl rfl
    (List.forall_mem_nil _) (List.forall_mem_singleton.mpr hplain) ⟨rfl, rfl, rfl, rfl⟩

end Session

end CecBench
