import CecBench.Proofs.Adapter.Run
import CecBench.Proofs.Adapter.Twins

/-!
# Adapters at rest

An adapter that has no program in hand is at rest.  A stop brings it there, and only a start can end
that: any other step leaves it at rest (`run_idle`).  All the while it does not run, it tells no exit
code, and it refuses every line without asking for anything.
-/

namespace CecBench.Adapter

open Timed (Keeps behind)
open Rig

variable {t : Timeline Rig Happening} {a : Adapter}

/-- The step is not a start. -/
def Step.IsNoStart : Step → Prop
  | .start _ _ _ => False
  | _ => True

theorem connect_keeps_grip (login : HostLogin) (context : String) :
    (Connection.connect login context).Keeps SameGrip :=
  Connection.connect_keeps_by login context (note_keeps _ Call.noConfusion) fun _ => ⟨rfl, rfl⟩

/-- What neither starts nor stops the adapter leaves the same program in hand. -/
theorem Step.keeps_grip (a : Adapter) {step : Step} (h : step.IsNoStart) (hstop : step ≠ .stop) :
    (step.act a).Keeps SameGrip := by
  cases step with
  | start => exact h.elim
  | stop => exact absurd rfl hstop
  | connect context => exact a.onHost_keeps fun login => connect_keeps_grip login context
  | enter => exact a.onHost_keeps fun login => connect_keeps_grip login _
  | disconnect => exact a.onHost_keeps fun _ => Connection.disconnect_keeps
  | writeLine | sendFrame | readByHand | openChannel | sleep | prompt | plan =>
    exact Step.keeps_of_quiet a trivial

theorem Step.idle {step : Step} (h : step.IsNoStart) (ho : t.Ordered) (hidle : a.Idle t.state) :
    a.Idle (behind (step.act a) t).state := by
  by_cases hstop : step = .stop
  · subst hstop
    exact a.stop_idle ho
  · exact hidle.of_grip (step.keeps_grip a h hstop t ho).2

/-- Only a start ends the rest. -/
theorem run_idle {steps : List Step} (h : ∀ step ∈ steps, step.IsNoStart) (ho : t.Ordered)
    (hidle : a.Idle t.state) : a.Idle (a.run steps t).state := by
  induction steps generalizing t with
  | nil => exact hidle
  | cons step steps ih =>
    obtain ⟨hstep, hsteps⟩ := List.forall_mem_cons.mp h
    exact ih hsteps (step.keeps (T := Aged) a t ho).1 (step.idle hstep ho hidle)

/-- The sign of an adapter at rest: it does not run, it tells no exit code, and it refuses lines. -/
structure Rests (a : Adapter) (t : Timeline Rig Happening) : Prop where
  isRunning : a.isRunning t.state = false
  exitCode : a.exitCode t.state = none
  /-- Nothing changes by that, and nothing is asked for. -/
  refuses : ∀ line context, ∃ cause,
    a.writeLine line context t = .error (.send ⟨context, line, cause⟩) t

theorem Idle.rests (hcarrier : a.carrier ≠ .none) (h : a.Idle t.state) : a.Rests t := by
  refine ⟨h.isRunning, ?_, fun line context => ?_⟩
  · unfold Idle at h
    unfold Adapter.exitCode
    cases hplace : a.carrier with
    | none => rfl
    | child | host =>
      rw [hplace] at h
      exact congrArg (·.bind t.state.exitCode) h
  · unfold Idle at h
    unfold Adapter.writeLine
    cases hplace : a.carrier with
    | none => exact absurd hplace hcarrier
    | child =>
      rw [hplace] at h
      exact ⟨_, Child.writeLine_of_none h⟩
    | host login =>
      rw [hplace] at h
      exact ⟨_, Remote.writeLine_of_none h⟩

/-- However a stop ends, the adapter rests from then on. -/
theorem stop_rests (hcarrier : a.carrier ≠ .none) (ho : t.Ordered) {steps : List Step}
    (h : ∀ step ∈ steps, step.IsNoStart) : a.Rests (a.run steps (behind a.stop t)) :=
  (run_idle h (a.stop_keeps (T := Aged) t ho).1 (a.stop_idle ho)).rests hcarrier

end CecBench.Adapter
