import CecBench.Proofs.Adapter.Conduct
import CecBench.Proofs.Rig.Performance

/-!
# What is asked of an adapter

`Adapter.Step` is all that can be asked of an adapter and of the connection that
its program is reached by, together with what the world does between two calls.
`Adapter.run` is the timeline behind some steps, whichever way each of them ends.

Programs only get older by all this: a program that was started stays where it
is, keeps its script, and keeps its exit code once it has one (`Rig.Ages`).
`Step.IsQuiet` holds of the steps by which the adapter neither takes anything
into its hand nor lets anything go, and `Step.keeps_of_quiet` is what they keep.
-/

namespace CecBench

open Timed (Keeps Steady behind)
open Timeline (replay)
open Rig

/-! ## Programs get older -/

namespace Rig

variable {r r' r'' : Rig}

/-- Every program of the first rig is in the second one, later. -/
def Ages (r r' : Rig) : Prop :=
  ∀ id p, r.program? id = some p → ∃ q, r'.program? id = some q ∧ p.Becomes q

theorem Ages.of_programs (h : r'.surroundings.programs = r.surroundings.programs) : Ages r r' := by
  intro id p hp
  refine ⟨p, ?_, .refl p⟩
  rw [program?, h]
  exact hp

theorem Ages.trans (h : Ages r r') (h' : Ages r' r'') : Ages r r'' := by
  intro id p hp
  obtain ⟨q, hq, hpq⟩ := h id p hp
  obtain ⟨q', hq', hqq'⟩ := h' id q hq
  exact ⟨q', hq', hpq.trans hqq'⟩

theorem Ages.exitCode {id : ProgramId} {code : Int} (h : Ages r r')
    (hcode : r.exitCode id = some code) : r'.exitCode id = some code := by
  obtain ⟨p, hp, hexit⟩ := Option.bind_eq_some_iff.mp hcode
  obtain ⟨q, hq, hbecomes⟩ := h id p hp
  rw [Rig.exitCode, hq]
  exact hbecomes.exit code hexit

theorem Ages.lt {id : ProgramId} (h : Ages r r') (hlt : id < r.surroundings.programs.length) :
    id < r'.surroundings.programs.length := by
  obtain ⟨q, hq, _⟩ := h id _ (List.getElem?_eq_getElem hlt)
  exact (List.getElem?_eq_some_iff.mp hq).1

theorem modifyProgram_ages {id : ProgramId} {f : Program → Program}
    (h : ∀ p, r.program? id = some p → p.Becomes (f p)) : Ages r (r.modifyProgram id f) := by
  intro other p hp
  by_cases hsame : id = other
  · subst hsame
    exact ⟨f p, program?_modifyProgram_self f hp, h p hp⟩
  · exact ⟨p, (program?_modifyProgram_other f hsame).trans hp, .refl p⟩

theorem settle_ages (now : Nat) (r : Rig) : Ages r (r.settle now) := by
  unfold settle
  cases r.reader with
  | none => exact .of_programs rfl
  | some reader =>
    cases hprogram : r.program? reader.program with
    | none =>
      simp only [hprogram]
      exact .of_programs rfl
    | some p =>
      simp only [hprogram]
      have hread : Ages r (r.modifyProgram reader.program fun q =>
          { q with output := (reader.monitor.drain now p.output).2 }) :=
        modifyProgram_ages fun _ _ => ⟨rfl, fun _ h => h⟩
      exact hread.trans (.of_programs rfl)

theorem replay_ages (past : List (Nat × Happening)) (r : Rig) : Ages r (replay past r) := by
  induction past generalizing r with
  | nil => exact .of_programs rfl
  | cons x past ih =>
    have hact : Ages r (r.modifyProgram x.2.program (·.actAll x.2.actions)) :=
      modifyProgram_ages fun p _ => p.becomes_actAll x.2.actions
    exact (hact.trans (settle_ages x.1 _)).trans (ih _)

/-- Reading changes nothing around but the programs. -/
theorem settle_surroundings (now : Nat) (r : Rig) : (r.settle now).surroundings =
    { r.surroundings with programs := (r.settle now).surroundings.programs } := by
  unfold settle
  cases r.reader with
  | none => rfl
  | some reader =>
    cases hprogram : r.program? reader.program with
    | none => simp only [hprogram]
    | some p =>
      simp only [hprogram]
      rfl

theorem replay_surroundings (past : List (Nat × Happening)) (r : Rig) :
    (replay past r).surroundings =
      { r.surroundings with programs := (replay past r).surroundings.programs } := by
  induction past generalizing r with
  | nil => rfl
  | cons x past ih =>
    have htake : (r.take x.1 x.2).surroundings =
        { r.surroundings with programs := (r.take x.1 x.2).surroundings.programs } :=
      settle_surroundings x.1 _
    refine (ih (r.take x.1 x.2)).trans ?_
    rw [htake]
    rfl

/-- Programs get older between the two timelines. -/
def Aged (t t' : Timeline Rig Happening) : Prop := Ages t.state t'.state

instance : Tolerant Aged where
  elapses _ h := by
    rw [Aged, h.state]
    exact replay_ages _ _
  trans h h' := Ages.trans h h'
  modify _ _ _ hbecomes := modifyProgram_ages hbecomes
  settle t now := settle_ages now t.state
  schedule t events _ := by
    rw [Aged, Timeline.scheduleAll_state]
    exact .of_programs rfl
  asks _ _ _ := .of_programs rfl
  starts _ _ := .of_programs rfl
  role _ _ := .of_programs rfl
  place _ _ := .of_programs rfl
  signals _ := .of_programs rfl
  clients _ _ := .of_programs rfl
  client _ := .of_programs rfl
  streams _ := .of_programs rfl
  holds _ _ _ _ := .of_programs rfl
  launch t script := by
    rw [Aged, launched_state]
    intro id p hp
    have hlt := (List.getElem?_eq_some_iff.mp hp).1
    exact ⟨p, (List.getElem?_append_left hlt).trans hp, .refl p⟩

/-- The program was started and has not exited. -/
def IsAlive (r : Rig) (id : ProgramId) : Prop := (r.program? id).map Program.exitCode = some none

instance (r : Rig) (id : ProgramId) : Decidable (r.IsAlive id) :=
  inferInstanceAs (Decidable (_ = _))

theorem IsAlive.lt {id : ProgramId} (h : r.IsAlive id) : id < r.surroundings.programs.length := by
  obtain ⟨p, hp, _⟩ := Option.map_eq_some_iff.mp h
  exact (List.getElem?_eq_some_iff.mp hp).1

theorem IsAlive.exitCode {id : ProgramId} (h : r.IsAlive id) : r.exitCode id = none := by
  obtain ⟨p, hp, hexit⟩ := Option.map_eq_some_iff.mp h
  rw [Rig.exitCode, hp]
  exact hexit

theorem isAlive_iff {id : ProgramId} {p : Program} (hp : r.program? id = some p) :
    r.IsAlive id ↔ r.exitCode id = none := by
  rw [IsAlive, Rig.exitCode, hp, Option.map_some, Option.some.injEq]
  rfl

/-- A program that is alive was alive before, unless it was not started. -/
theorem Ages.alive {id : ProgramId} (h : Ages r r') (hlt : id < r.surroundings.programs.length)
    (halive : r'.IsAlive id) : r.IsAlive id := by
  have hp : r.program? id = some r.surroundings.programs[id] := List.getElem?_eq_getElem hlt
  obtain ⟨q, hq, hbecomes⟩ := h id _ hp
  rw [isAlive_iff hq] at halive
  rw [isAlive_iff hp]
  cases hcode : r.exitCode id with
  | none => rfl
  | some code => cases halive.symm.trans (h.exitCode hcode)

end Rig

/-! ## Steps -/

namespace Adapter

variable {t : Timeline Rig Happening} {Q T : Timeline Rig Happening → Timeline Rig Happening → Prop}
  [Patient Q] [Tolerant T]

/-- Works on the connection of an adapter, if its program runs on another machine. -/
def onHost (a : Adapter) (work : HostLogin → Act Unit) : Act Unit :=
  match a.carrier with
  | .host login => work login
  | .none | .child => unsupported

/-- What can happen to an adapter: the calls, and what the world does between them. -/
inductive Step
  | start (logical : AddressSpec) (physical : PlaceSpec) (context : String)
  | stop
  | writeLine (line context : String)
  | sendFrame (f : Frame) (context : String)
  | readByHand
  | connect (context : String)
  /-- Entering the connection as a block of work. -/
  | enter
  | openChannel (context : String)
  /-- Closing the connection, or leaving the block of work. -/
  | disconnect
  /-- Time passes. -/
  | sleep (duration : Int)
  /-- The program that was started last does something. -/
  | prompt (actions : List ProgramAction)
  /-- It will do something. -/
  | plan (events : List (Nat × List ProgramAction))

/-- The step as a computation.  What it answers does not matter here. -/
def Step.act (a : Adapter) : Step → Act Unit
  | .start logical physical context => a.start logical physical context
  | .stop => a.stop
  | .writeLine line context => a.writeLine line context
  | .sendFrame f context => a.sendFrame f context
  | .readByHand => do let _ ← a.readByHand
  | .connect context => a.onHost fun login => Connection.connect login context
  | .enter => a.onHost Connection.enter
  | .openChannel context => a.onHost fun login => Connection.openChannel login context
  | .disconnect => a.onHost fun _ => Connection.disconnect
  | .sleep duration => Timed.sleep duration
  | .prompt actions => Rig.prompt actions
  | .plan events => Rig.plan events

/-- The timeline behind some steps, whichever way each of them ends. -/
def run (a : Adapter) (steps : List Step) (t : Timeline Rig Happening) : Timeline Rig Happening :=
  steps.foldl (fun t step => behind (step.act a) t) t

theorem onHost_keeps (a : Adapter) {work : HostLogin → Act Unit}
    (h : ∀ login, (work login).Keeps Q) :
    (a.onHost work).Keeps Q := by
  unfold onHost
  split
  · exact h _
  · exact Timed.keeps_throw _
  · exact Timed.keeps_throw _

/-- The adapter takes nothing into its hand by the step and lets nothing go. -/
def Step.IsQuiet : Step → Prop
  | .start _ _ _ | .stop | .connect _ | .enter | .disconnect => False
  | _ => True

theorem Step.keeps_of_quiet (a : Adapter) {step : Step} (h : step.IsQuiet) :
    (step.act a).Keeps Q := by
  cases step with
  | start | stop | connect | enter | disconnect => exact h.elim
  | writeLine line context => exact a.writeLine_keeps line context
  | sendFrame f context => exact a.writeLine_keeps _ context
  | readByHand => exact a.readByHand_keeps.bind fun _ => Timed.keeps_pure _
  | openChannel context =>
    exact a.onHost_keeps fun login => Connection.openChannel_keeps login context
  | sleep duration => exact sleep_keeps duration
  | prompt actions => exact prompt_keeps actions
  | plan events => exact plan_keeps events

theorem Step.keeps (a : Adapter) (step : Step) : (step.act a).Keeps T := by
  cases step with
  | start logical physical context => exact a.start_keeps logical physical context
  | stop => exact a.stop_keeps
  | connect context => exact a.onHost_keeps fun login => Connection.connect_keeps login context
  | enter => exact a.onHost_keeps fun login => Connection.connect_keeps login _
  | disconnect => exact a.onHost_keeps fun _ => Connection.disconnect_keeps
  | writeLine | sendFrame | readByHand | openChannel | sleep | prompt | plan =>
    exact Step.keeps_of_quiet a trivial

theorem run_keeps (a : Adapter) (steps : List Step) (ho : t.Ordered) :
    (a.run steps t).Ordered ∧ T t (a.run steps t) := by
  induction steps generalizing t with
  | nil => exact ⟨ho, Steady.elapses ho (.refl ho)⟩
  | cons step steps ih =>
    obtain ⟨hou, hstep⟩ := step.keeps (T := T) a t ho
    obtain ⟨ho', hrest⟩ := ih hou
    exact ⟨ho', Steady.trans hstep hrest⟩

end Adapter

end CecBench
