import CecBench.Proofs.Adapter.Run

/-!
# Programs that are left behind

An adapter on this machine lets go of its program as soon as it is told to stop,
and only then sees to it that the program exits.  `Child.release_ends` goes
through all that this can come to.  A stop that succeeds leaves a program that
has exited, with one exception: if the signal to terminate does not get through,
nothing more is tried, and the program lives on (`Child.stop_exits_iff`).

An adapter has at most one program in hand.  So as long as every stop succeeds
and no signal is refused, the only program that can be alive is the one in hand
(`run_leaves_no_program`).  One refused signal is enough to leave a program that
nothing tells of, and to have two of them alive after the next start
(`stop_leaves_program_behind`).
-/

namespace CecBench

open Timed (Keeps behind bind_eq_ok)
open Timeline (replay)
open Rig

variable {t t' t'' : Timeline Rig Happening} {id : ProgramId}

namespace Rig

/-- Calls were only added, and no signal to terminate is among them. -/
def Silent (t t' : Timeline Rig Happening) : Prop :=
  ∃ more, t'.state.surroundings.calls = t.state.surroundings.calls ++ more ∧ .terminate ∉ more

theorem Silent.of_calls {r : Rig} (h : r.surroundings.calls = t.state.surroundings.calls) :
    Silent t { t with state := r } :=
  ⟨[], h.trans (List.append_nil _).symm, List.not_mem_nil⟩

instance : Patient Silent where
  elapses _ h := by
    refine ⟨[], ?_, List.not_mem_nil⟩
    rw [h.state, replay_surroundings, List.append_nil]
  trans := by
    rintro _ _ _ ⟨more, hmore, hnone⟩ ⟨others, hothers, hnone'⟩
    refine ⟨more ++ others, ?_, fun hmem => ?_⟩
    · rw [hothers, hmore, List.append_assoc]
    · exact (List.mem_append.mp hmem).elim hnone hnone'
  modify _ _ _ _ := .of_calls rfl
  settle t now := .of_calls (by rw [settle_surroundings])
  schedule t events _ := by
    refine ⟨[], ?_, List.not_mem_nil⟩
    rw [Timeline.scheduleAll_state, List.append_nil]
  asks _ _ hc := ⟨_, rfl, fun hmem => hc (List.mem_singleton.mp hmem).symm⟩
  starts _ _ := .of_calls rfl
  role _ _ := .of_calls rfl
  place _ _ := .of_calls rfl

/-- What is overlooked has happened all the same. -/
theorem overlooking_eq_ok {overlooked : EquipmentKind → Bool} {step : Act Unit}
    (h : overlooking overlooked step t = .ok () t') :
    step t = .ok () t' ∨ ∃ e, step t = .error (.equipment e) t' ∧ overlooked e.kind = true := by
  cases hstep : step t with
  | ok _ u =>
    rw [overlooking, Timed.tryCatch_of_ok hstep] at h
    cases h
    exact .inl rfl
  | error e u =>
    rw [overlooking, Timed.tryCatch_of_error hstep] at h
    split at h
    · rename_i e
      split_ifs at h with hkind
      · cases h
        exact .inr ⟨e, rfl, hkind⟩
      · cases h
    · cases h

theorem behind_of_overlooking {overlooked : EquipmentKind → Bool} {step : Act Unit}
    (h : overlooking overlooked step t = .ok () t') : behind step t = t' := by
  rcases overlooking_eq_ok h with hstep | ⟨e, hstep, _⟩
  · exact Timed.behind_of_ok hstep
  · exact Timed.behind_of_error hstep

theorem modifyProgram_exitCode {other : ProgramId} {f : Program → Program} (r : Rig)
    (hf : ∀ p, (f p).exitCode = p.exitCode) :
    (r.modifyProgram other f).exitCode id = r.exitCode id := by
  by_cases hsame : other = id
  · subst hsame
    cases hp : r.program? other with
    | none => simp_all [Rig.exitCode, program?, modifyProgram]
    | some p =>
      rw [Rig.exitCode, program?_modifyProgram_self f hp, Rig.exitCode, hp]
      exact hf p
  · rw [Rig.exitCode, program?_modifyProgram_other f hsame, Rig.exitCode]

theorem settle_exitCode (now : Nat) (r : Rig) : (r.settle now).exitCode id = r.exitCode id := by
  unfold settle
  cases r.reader with
  | none => rfl
  | some reader =>
    cases hprogram : r.program? reader.program with
    | none => simp only [hprogram]
    | some p =>
      simp only [hprogram]
      exact r.modifyProgram_exitCode fun _ => rfl

theorem touch_exitCode {other : ProgramId} {f : Program → Program}
    (hf : ∀ p, (f p).exitCode = p.exitCode) :
    (behind (touch other f) t).state.exitCode id = t.state.exitCode id :=
  (settle_exitCode _ _).trans (t.state.modifyProgram_exitCode hf)

/-- A program that is made to exit has exited. -/
theorem touch_exits (code : Int) (h : id < t.state.surroundings.programs.length) :
    ∃ code', (behind (touch id fun p => p.act (.exits code)) t).state.exitCode id = some code' := by
  have hp : t.state.program? id = some t.state.surroundings.programs[id] :=
    List.getElem?_eq_getElem h
  have hexit : (behind (touch id fun p => p.act (.exits code)) t).state.exitCode id = _ :=
    settle_exitCode t.now _
  rw [hexit, Rig.exitCode, program?_modifyProgram_self _ hp]
  cases hcode : t.state.surroundings.programs[id].exitCode with
  | none => exact ⟨code, by simp [Program.act, hcode]⟩
  | some code' => exact ⟨code', by simp [Program.act, hcode]⟩

end Rig

/-! ## How a stop ends -/

namespace Child

variable {script : ProgramScript} {timeout : Int}

/-- A wait for the exit tells whether the program has exited. -/
theorem awaitExit_eq_ok {exited : Bool} (h : awaitExit id timeout t = .ok exited t') :
    (t'.state.exitCode id).isSome = exited := by
  obtain ⟨_, u, _, h⟩ := bind_eq_ok h
  have hwait := Timeline.wait_tells (fun r : Rig => (r.exitCode id).isSome) timeout u
  cases h
  exact hwait.symm

/-- Closes the pipes, whatever that ends in. -/
def closePipes (id : ProgramId) (script : ProgramScript) : Act Unit := do
  overlooking EquipmentKind.isPipe (closeStdin script)
  overlooking EquipmentKind.isPipe (closeStdout id script)

theorem closePipes_keeps {Q : Timeline Rig Happening → Timeline Rig Happening → Prop} [Patient Q]
    (id : ProgramId) (script : ProgramScript) : (closePipes id script).Keeps Q :=
  (overlooking_keeps _ (closeStdin_keeps script)).bind fun _ =>
    overlooking_keeps _ (closeStdout_keeps id script)

theorem closeStdin_exitCode (script : ProgramScript) :
    (behind (closeStdin script) t).state.exitCode id = t.state.exitCode id := by
  unfold closeStdin
  split
  · cases script.stdinCloseFailure <;> rfl
  · rfl

theorem closeStdout_exitCode (script : ProgramScript) :
    (behind (closeStdout id script) t).state.exitCode id = t.state.exitCode id := by
  have htouch (u : Timeline Rig Happening) :
      (behind (touch id fun p => p.act .endsOutput) u).state.exitCode id = u.state.exitCode id :=
    touch_exitCode fun _ => rfl
  unfold closeStdout
  split
  · cases script.stdoutCloseFailure <;> exact htouch (asked .closeStdout t)
  · rfl

/-- Closing its pipes does not make a program exit. -/
theorem closePipes_exitCode (h : closePipes id script t = .ok () t') :
    t'.state.exitCode id = t.state.exitCode id := by
  obtain ⟨_, u, hstdin, hstdout⟩ := bind_eq_ok h
  rw [← behind_of_overlooking hstdout, closeStdout_exitCode, ← behind_of_overlooking hstdin,
    closeStdin_exitCode]

/-- Waits for the exit after a signal, and kills the program if there is none. -/
def insist (id : ProgramId) : Act Unit := do
  unless ← awaitExit id signalTimeout do kill id

/-- A program that is waited for and killed has exited. -/
theorem insist_exits (ho : t.Ordered) (hp : id < t.state.surroundings.programs.length) :
    ∃ code, (behind (insist id) t).state.exitCode id = some code := by
  obtain ⟨exited, u, hwait⟩ : ∃ exited u, awaitExit id signalTimeout t = .ok exited u := ⟨_, _, rfl⟩
  have htells := awaitExit_eq_ok hwait
  have hrest : insist id t = (unless exited do kill id : Act Unit) u := Timed.bind_of_ok hwait
  rw [behind, hrest]
  cases exited with
  | true => exact Option.isSome_iff_exists.mp htells
  | false =>
    obtain ⟨_, hage⟩ := awaitExit_keeps (Q := Aged) id signalTimeout t ho
    rw [Timed.behind_of_ok hwait] at hage
    exact touch_exits (t := asked .kill u) Program.killedCode (hage.lt hp)

/-- How a program that does not quit ends: it exits, or the signal to terminate is sent and does not
get through. -/
theorem endByForce_ends (ho : t.Ordered) (hp : id < t.state.surroundings.programs.length)
    (hnone : t.state.exitCode id = none)
    (h : overlooking EquipmentKind.isSystem (endByForce id script) t = .ok () t') :
    ((∃ code, t'.state.exitCode id = some code) ∧ ∀ kind, script.terminate ≠ .fails kind) ∨
      t'.state.exitCode id = none ∧ (∃ kind, script.terminate = .fails kind) ∧
        t'.state.surroundings.calls = t.state.surroundings.calls ++ [.terminate] := by
  have hend := behind_of_overlooking h
  let signalled : Timeline Rig Happening :=
    { t with state.surroundings.calls := t.state.surroundings.calls ++ [.terminate] }
  have hinsist {u : Timeline Rig Happening} (hterminate : terminate id script t = .ok () u) :
      ∃ code, t'.state.exitCode id = some code := by
    obtain ⟨hou, hage⟩ := terminate_keeps (R := Aged) id script t ho
    rw [Timed.behind_of_ok hterminate] at hou hage
    have hrest : endByForce id script t = insist id u := Timed.bind_of_ok hterminate
    rw [behind, hrest] at hend
    exact hend ▸ insist_exits hou (hage.lt hp)
  cases hreaction : script.terminate with
  | exits =>
    let ended := behind (touch id fun p => p.act (.exits Program.terminatedCode)) signalled
    refine .inl ⟨hinsist (u := ended) ?_, fun _ => TerminateReaction.noConfusion⟩
    simp only [terminate, hreaction]
    rfl
  | ignores =>
    refine .inl ⟨hinsist (u := signalled) ?_, fun _ => TerminateReaction.noConfusion⟩
    simp only [terminate, hreaction]
    rfl
  | fails kind =>
    have hrefused : endByForce id script t =
        .error (.equipment (kind.report "terminate failed")) signalled := by
      refine Timed.bind_of_error ?_
      simp only [terminate, hreaction]
      rfl
    rw [Timed.behind_of_error hrefused] at hend
    subst hend
    exact .inr ⟨hnone, ⟨kind, rfl⟩, rfl⟩

/-- A signal to terminate was sent between the two timelines, and it cannot have got through to the
program. -/
def Refused (id : ProgramId) (t t' : Timeline Rig Happening) : Prop :=
  .terminate ∈ t'.state.surroundings.calls.drop t.state.surroundings.calls.length ∧
    ∃ p kind, t.state.program? id = some p ∧ p.script.terminate = .fails kind

theorem Refused.of_calls {p : Program} {kind : EquipmentKind} {more : List Call}
    (hp : t.state.program? id = some p) (hkind : p.script.terminate = .fails kind)
    (hcalls : t'.state.surroundings.calls = t.state.surroundings.calls ++ more)
    (hmem : .terminate ∈ more) : Refused id t t' := by
  refine ⟨?_, p, kind, hp, hkind⟩
  rw [hcalls, List.drop_left]
  exact hmem

theorem Refused.not_silent (h : Refused id t t') : ¬ Silent t t' := by
  rintro ⟨more, hcalls, hnone⟩
  have hmem := h.1
  rw [hcalls, List.drop_left] at hmem
  exact hnone hmem

/-- Tells the program to quit, and waits for its exit. -/
def ask (id : ProgramId) (script : ProgramScript) (timeout : Int) : Act Bool := do
  overlooking EquipmentKind.isPipe (quit id script)
  Timed.measure timeout
  awaitExit id timeout

theorem ask_keeps {Q : Timeline Rig Happening → Timeline Rig Happening → Prop} [Patient Q]
    (id : ProgramId) (script : ProgramScript) (timeout : Int) : (ask id script timeout).Keeps Q :=
  (overlooking_keeps _ (quit_keeps id script)).bind fun _ => (measure_keeps timeout).bind fun _ =>
    awaitExit_keeps id timeout

theorem ask_eq_ok {exited : Bool} (h : ask id script timeout t = .ok exited t') :
    (t'.state.exitCode id).isSome = exited := by
  obtain ⟨_, u, _, h⟩ := bind_eq_ok h
  obtain ⟨_, v, _, h⟩ := bind_eq_ok h
  exact awaitExit_eq_ok h

/-- Ending a program asks it first, unless it has exited. -/
theorem release_eq_ok (h : release id script timeout t = .ok () t') :
    (t.state.exitCode id).isSome ∧ closePipes id script t = .ok () t' ∨
      ∃ exited u, t.state.exitCode id = none ∧ ask id script timeout t = .ok exited u ∧
        (do unless exited do overlooking EquipmentKind.isSystem (endByForce id script)
            closePipes id script : Act Unit) u = .ok () t' := by
  obtain ⟨r, u, hr, h⟩ := bind_eq_ok h
  cases hr
  by_cases hnone : (t.state.exitCode id).isNone = true
  · rw [if_pos hnone] at h
    obtain ⟨_, v, hquit, h⟩ := bind_eq_ok h
    obtain ⟨_, w, hmeasure, h⟩ := bind_eq_ok h
    obtain ⟨exited, x, hwait, h⟩ := bind_eq_ok h
    refine .inr ⟨exited, x, Option.isNone_iff_eq_none.mp hnone, ?_, h⟩
    exact (Timed.bind_of_ok hquit).trans ((Timed.bind_of_ok hmeasure).trans hwait)
  · rw [if_neg hnone] at h
    exact .inl ⟨Option.isSome_iff_ne_none.mpr (by simpa using hnone), h⟩

/-- How ending a program and closing its pipes ends, if it succeeds: the program has exited, or the
signal to terminate was refused. -/
theorem release_ends {p : Program} (ho : t.Ordered) (hp : t.state.program? id = some p)
    (h : release id p.script timeout t = .ok () t') :
    (∃ code, t'.state.exitCode id = some code) ∧ ¬ Refused id t t' ∨
      t'.state.exitCode id = none ∧ Refused id t t' := by
  have hclose {u : Timeline Rig Happening} (hou : u.Ordered)
      (h : closePipes id p.script u = .ok () t') :
      t'.state.exitCode id = u.state.exitCode id ∧ Silent u t' := by
    obtain ⟨_, hsilent⟩ := closePipes_keeps (Q := Silent) id p.script u hou
    rw [Timed.behind_of_ok h] at hsilent
    exact ⟨closePipes_exitCode h, hsilent⟩
  rcases release_eq_ok h with ⟨hexited, h⟩ | ⟨exited, u, hnone, hask, h⟩
  · obtain ⟨hexit, hsilent⟩ := hclose ho h
    exact .inl ⟨hexit ▸ Option.isSome_iff_exists.mp hexited,
      fun hrefused => hrefused.not_silent hsilent⟩
  obtain ⟨hou, hage⟩ := ask_keeps (Q := Aged) id p.script timeout t ho
  obtain ⟨_, hasked⟩ := ask_keeps (Q := Silent) id p.script timeout t ho
  rw [Timed.behind_of_ok hask] at hou hage hasked
  have htells := ask_eq_ok hask
  cases exited with
  | true =>
    obtain ⟨hexit, hsilent⟩ := hclose hou h
    exact .inl ⟨hexit ▸ Option.isSome_iff_exists.mp htells,
      fun hrefused => hrefused.not_silent (Timed.Steady.trans hasked hsilent)⟩
  | false =>
    obtain ⟨_, v, hforce, h⟩ := bind_eq_ok h
    obtain ⟨hov, _⟩ := overlooking_keeps (P := Aged) EquipmentKind.isSystem
      (endByForce_keeps id p.script) u hou
    rw [Timed.behind_of_ok hforce] at hov
    obtain ⟨hexit, hsilent⟩ := hclose hov h
    rw [hexit]
    rcases endByForce_ends hou (hage.lt (List.getElem?_eq_some_iff.mp hp).1)
      (by simpa using htells) hforce with ⟨hexited, hnever⟩ | ⟨halive, ⟨kind, hkind⟩, hcalls⟩
    · refine .inl ⟨hexited, ?_⟩
      rintro ⟨_, q, kind, hq, hkind⟩
      cases hp.symm.trans hq
      exact hnever kind hkind
    · obtain ⟨before, hbefore, _⟩ := hasked
      obtain ⟨after, hafter, _⟩ := hsilent
      have hcalls : t'.state.surroundings.calls =
          t.state.surroundings.calls ++ (before ++ .terminate :: after) := by
        rw [hafter, hcalls, hbefore]
        simp
      exact .inr ⟨halive, .of_calls hp hkind hcalls (by simp)⟩

/-- A stop that succeeds leaves a program that has exited, unless the signal to terminate was
refused. -/
theorem stop_exits_iff {p : Program} (ho : t.Ordered) (hchild : t.state.holdings.child = some id)
    (hp : t.state.program? id = some p) (h : stop timeout t = .ok () t') :
    (∃ code, t'.state.exitCode id = some code) ↔ ¬ Refused id t t' := by
  rw [stop_of_some timeout hchild, letGo, hp] at h
  rcases release_ends (t := { t with state.holdings.child := none }) (ho.withState _) hp h with
    ⟨hexited, hnot⟩ | ⟨hnone, hrefused⟩
  · exact iff_of_true hexited hnot
  · refine iff_of_false ?_ (not_not_intro hrefused)
    rintro ⟨code, hcode⟩
    cases hnone.symm.trans hcode

end Child

/-! ## The program in hand -/

namespace Adapter

open Child (Refused)

variable {a : Adapter}

/-- The same program is in hand, and none was started. -/
structure SameStock (t t' : Timeline Rig Happening) : Prop where
  child : t'.state.holdings.child = t.state.holdings.child
  count : t'.state.surroundings.programs.length = t.state.surroundings.programs.length

instance : Lenient SameStock where
  elapses _ h := by
    refine ⟨?_, ?_⟩
    · rw [h.state, replay_holdings]
    · rw [h.state, replay_programs]
  trans h h' := ⟨h'.child.trans h.child, h'.count.trans h.count⟩
  modify _ _ _ _ := ⟨rfl, length_modifyProgram _ _ _⟩
  settle t now := ⟨congrArg Holdings.child (settle_holdings now t.state), settle_programs _ _⟩
  schedule t events _ := by
    have hsame := Timeline.scheduleAll_state t events
    exact ⟨by rw [hsame], by rw [hsame]⟩
  asks _ _ _ := ⟨rfl, rfl⟩
  starts _ _ := ⟨rfl, rfl⟩
  role _ _ := ⟨rfl, rfl⟩
  place _ _ := ⟨rfl, rfl⟩
  signals _ := ⟨rfl, rfl⟩
  clients _ _ := ⟨rfl, rfl⟩
  client _ := ⟨rfl, rfl⟩
  streams _ := ⟨rfl, rfl⟩

/-- What any step but a stop can do to the programs of an adapter on this machine. -/
inductive Moves (t t' : Timeline Rig Happening) : Prop
  | stays : SameStock t t' → Moves t t'
  /-- A program is started and taken into the hand, which was empty. -/
  | takes : t.state.holdings.child = none →
    t'.state.surroundings.programs.length = t.state.surroundings.programs.length + 1 →
    t'.state.holdings.child = some t.state.surroundings.programs.length → Moves t t'

theorem Moves.of_stock (hstock : SameStock t t') (h : Moves t' t'') : Moves t t'' := by
  cases h with
  | stays hstays => exact .stays (Timed.Steady.trans hstock hstays)
  | takes hfree hcount hchild =>
    rw [hstock.count] at hcount hchild
    exact .takes (hstock.child.symm.trans hfree) hcount hchild

/-- What holds of a step that is made with an empty hand. -/
def MovesIfFree (t t' : Timeline Rig Happening) : Prop :=
  t.state.holdings.child = none → Moves t t'

theorem MovesIfFree.of_stock (hstock : SameStock t t') (h : MovesIfFree t' t'') :
    MovesIfFree t t'' :=
  fun hfree => (h (hstock.child.trans hfree)).of_stock hstock

theorem spawn_moves (command : List String) (context : String) :
    (Child.spawn command context).Keeps MovesIfFree := by
  have hstays {u v : Timeline Rig Happening} (h : SameStock u v) : MovesIfFree u v :=
    fun _ => .stays h
  refine (note_keeps (Q := SameStock) _ Call.noConfusion).chain (fun _ => ?_) hstays .of_stock
  refine (countStart_keeps (Q := SameStock)).chain (fun script => ?_) hstays .of_stock
  cases script.spawnFailure with
  | some failure =>
    exact (Timed.keeps_state.bind fun _ => Timed.keeps_throw _ : Keeps SameStock _).mono hstays
  | none =>
    intro u hou
    let taken : Timeline Rig Happening :=
      { launched script u with state.holdings.child := some u.state.surroundings.programs.length }
    show taken.Ordered ∧ MovesIfFree u taken
    refine ⟨((hou.withState _).scheduleAll _).withState _, fun hfree => .takes hfree ?_ rfl⟩
    show (launched script u).state.surroundings.programs.length = _
    rw [launched_state]
    simp

theorem start_of_busy (hcarrier : a.carrier = .child) {logical : AddressSpec}
    {physical : PlaceSpec} {context : String} (h : t.state.holdings.child = some id) :
    a.start logical physical context t = (do
      let line ← a.commandLine
      throw (.alreadyRunning context (.adapter line)) : Act Unit) t := by
  rw [start, hcarrier]
  refine (inHand_bind _ t).trans ?_
  simp only [h]
  rfl

theorem start_of_free (hcarrier : a.carrier = .child) {logical : AddressSpec}
    {physical : PlaceSpec} {context : String} (h : t.state.holdings.child = none) :
    a.start logical physical context t = (do
      let bound ← bind logical physical
      let command ← Timed.lift .settings (a.settings.command bound.1 bound.2)
      Child.spawn command context : Act Unit) t := by
  rw [start, hcarrier]
  refine (inHand_bind _ t).trans ?_
  simp only [h]
  rfl

theorem start_moves (hcarrier : a.carrier = .child) (logical : AddressSpec) (physical : PlaceSpec)
    (context : String) (ho : t.Ordered) :
    Moves t (behind (a.start logical physical context) t) := by
  cases hchild : t.state.holdings.child with
  | some id =>
    rw [behind, start_of_busy hcarrier hchild]
    exact .stays ((a.commandLine_keeps (Q := SameStock)).bind (fun _ => Timed.keeps_throw _) t ho).2
  | none =>
    have hfresh : (do
        let bound ← bind logical physical
        let command ← Timed.lift .settings (a.settings.command bound.1 bound.2)
        Child.spawn command context : Act Unit).Keeps MovesIfFree := by
      refine (bind_keeps (Q := SameStock) _ _).chain (fun _ => ?_) (fun h _ => .stays h) .of_stock
      exact (Timed.keeps_lift (R := SameStock) _ _).chain (fun _ => spawn_moves _ _)
        (fun h _ => .stays h) .of_stock
    rw [behind, start_of_free hcarrier hchild]
    exact (hfresh t ho).2 hchild

theorem Step.moves (hcarrier : a.carrier = .child) {step : Step} (hstep : step ≠ .stop)
    (ho : t.Ordered) : Moves t (behind (step.act a) t) := by
  have hhost (work : HostLogin → Act Unit) : Moves t (behind (a.onHost work) t) := by
    rw [onHost, hcarrier]
    exact .stays ⟨rfl, rfl⟩
  have hquiet (h : step.IsQuiet) : Moves t (behind (step.act a) t) :=
    .stays (Step.keeps_of_quiet (Q := SameStock) a h t ho).2
  cases step with
  | start logical physical context => exact start_moves hcarrier logical physical context ho
  | stop => exact absurd rfl hstep
  | connect | enter | disconnect => exact hhost _
  | writeLine | sendFrame | readByHand | openChannel | sleep | prompt | plan => exact hquiet trivial

/-- A stop starts no program, and leaves the hand empty. -/
theorem stop_empties (hcarrier : a.carrier = .child) (ho : t.Ordered) :
    (behind a.stop t).state.surroundings.programs.length =
        t.state.surroundings.programs.length ∧
      (behind a.stop t).state.holdings.child = none := by
  rw [stop, hcarrier]
  refine ⟨?_, child_stop_lets_go _ ho⟩
  cases hchild : t.state.holdings.child with
  | none => rw [Timed.behind_of_ok (Child.stop_of_none _ hchild)]
  | some id =>
    obtain ⟨_, hstock⟩ := Child.letGo_keeps (R := SameStock) t.state id a.settings.stopTimeout
      { t with state.holdings.child := none } (ho.withState _)
    simp only [behind, Child.stop_of_some _ hchild]
    exact hstock.count

/-! ## Runs -/

/-- The program in hand was started. -/
def Known (r : Rig) : Prop :=
  ∀ id, r.holdings.child = some id → id < r.surroundings.programs.length

/-- No program is alive but the one in hand. -/
def Tidy (r : Rig) : Prop := ∀ id, r.IsAlive id → r.holdings.child = some id

/-- Stopping the adapter now succeeds, and no signal is refused. -/
def StopsWell (a : Adapter) (t : Timeline Rig Happening) : Prop :=
  ∃ t', a.stop t = .ok () t' ∧ ∀ id, t.state.holdings.child = some id → ¬ Refused id t t'

theorem Step.known (hcarrier : a.carrier = .child) (step : Step) (ho : t.Ordered)
    (h : Known t.state) : Known (behind (step.act a) t).state := by
  intro id hid
  by_cases hstep : step = .stop
  · subst hstep
    cases (stop_empties hcarrier ho).2.symm.trans hid
  · cases Step.moves hcarrier hstep ho with
    | stays hstock =>
      rw [hstock.count]
      exact h id (hstock.child.symm.trans hid)
    | takes _ hcount hchild =>
      cases hchild.symm.trans hid
      rw [hcount]
      exact Nat.lt_succ_self _

theorem run_known (hcarrier : a.carrier = .child) (steps : List Step) (ho : t.Ordered)
    (h : Known t.state) : Known (a.run steps t).state := by
  induction steps generalizing t with
  | nil => exact h
  | cons step steps ih => exact ih (step.keeps (T := Aged) a t ho).1 (step.known hcarrier ho h)

theorem stop_exits_iff (hcarrier : a.carrier = .child) (ho : t.Ordered) (hknown : Known t.state)
    (hchild : t.state.holdings.child = some id) (h : a.stop t = .ok () t') :
    (∃ code, t'.state.exitCode id = some code) ↔ ¬ Refused id t t' := by
  rw [stop, hcarrier] at h
  exact Child.stop_exits_iff ho hchild (List.getElem?_eq_getElem (hknown id hchild)) h

/-- A stop that ends well leaves no program alive. -/
theorem StopsWell.leaves_none (hcarrier : a.carrier = .child) (ho : t.Ordered)
    (hknown : Known t.state) (htidy : Tidy t.state) (hwell : a.StopsWell t) :
    ∀ id, ¬ (behind a.stop t).state.IsAlive id := by
  intro id halive
  obtain ⟨t', hstop, hnot⟩ := hwell
  obtain ⟨_, hage⟩ := a.stop_keeps (T := Aged) t ho
  have hlt := halive.lt
  rw [(stop_empties hcarrier ho).1] at hlt
  have hchild := htidy id (hage.alive hlt halive)
  obtain ⟨code, hcode⟩ := (stop_exits_iff hcarrier ho hknown hchild hstop).mpr (hnot id hchild)
  rw [Timed.behind_of_ok hstop] at halive
  cases halive.exitCode.symm.trans hcode

theorem Step.tidy (hcarrier : a.carrier = .child) (step : Step) (ho : t.Ordered)
    (hknown : Known t.state) (h : Tidy t.state) (hstop : step = .stop → a.StopsWell t) :
    Tidy (behind (step.act a) t).state := by
  intro id halive
  by_cases hstep : step = .stop
  · subst hstep
    exact absurd halive ((hstop rfl).leaves_none hcarrier ho hknown h id)
  · obtain ⟨_, hage⟩ := step.keeps (T := Aged) a t ho
    have hlt := halive.lt
    cases Step.moves hcarrier hstep ho with
    | stays hstock =>
      rw [hstock.count] at hlt
      exact hstock.child.trans (h id (hage.alive hlt halive))
    | takes hfree hcount hchild =>
      rw [hcount] at hlt
      rcases Nat.lt_succ_iff_lt_or_eq.mp hlt with hold | rfl
      · cases hfree.symm.trans (h id (hage.alive hold halive))
      · exact hchild

theorem run_tidy (hcarrier : a.carrier = .child) (steps : List Step) (ho : t.Ordered)
    (hknown : Known t.state) (h : Tidy t.state)
    (hstops : ∀ before after, steps = before ++ .stop :: after → a.StopsWell (a.run before t)) :
    Tidy (a.run steps t).state := by
  induction steps generalizing t with
  | nil => exact h
  | cons step steps ih =>
    have hstop (hstep : step = .stop) : a.StopsWell t := hstops [] steps (by rw [hstep]; rfl)
    refine ih (step.keeps (T := Aged) a t ho).1 (step.known hcarrier ho hknown)
      (step.tidy hcarrier ho hknown h hstop) fun before after hsplit => ?_
    exact hstops (step :: before) after (by rw [hsplit]; rfl)

theorem Tidy.unique {r : Rig} {other : ProgramId} (h : Tidy r) (halive : r.IsAlive id)
    (hother : r.IsAlive other) : id = other :=
  Option.some.inj ((h id halive).symm.trans (h other hother))

theorem Tidy.isRunning {r : Rig} (hcarrier : a.carrier = .child) (h : Tidy r)
    (halive : r.IsAlive id) : a.isRunning r = true := by
  simp [Adapter.isRunning, isRunning?, hcarrier, Child.isRunning, Child.exitCode, h id halive,
    halive.exitCode]

/-- An adapter on this machine has no program yet, and then it is asked for `steps`.  If it is
stopped now with a program in hand, and the stop succeeds, then it is not running, and the program
has exited exactly if no signal to terminate was refused.  If every stop on the way ended well, then
no two programs are alive, and none while the adapter is not running. -/
theorem run_leaves_no_program (a : Adapter) (hcarrier : a.carrier = .child) (ho : t.Ordered)
    (hnone : t.state.surroundings.programs = []) (hfree : t.state.holdings.child = none)
    (steps : List Step) :
    let u := a.run steps t
    (∀ id t', u.state.holdings.child = some id → a.stop u = .ok () t' →
      a.isRunning t'.state = false ∧
      ((∃ code, t'.state.exitCode id = some code) ↔ ¬ Refused id u t')) ∧
    ((∀ before after, steps = before ++ .stop :: after → a.StopsWell (a.run before t)) →
      (∀ id other, u.state.IsAlive id → u.state.IsAlive other → id = other) ∧
      (a.isRunning u.state = false → ∀ id, ¬ u.state.IsAlive id)) := by
  intro u
  have hknown : Known t.state := fun id hid => by cases hfree.symm.trans hid
  have htidy : Tidy t.state := fun id halive => by
    have hlt := halive.lt
    rw [hnone] at hlt
    exact absurd hlt (Nat.not_lt_zero id)
  have hou : u.Ordered := (a.run_keeps (T := Aged) steps ho).1
  refine ⟨fun id t' hchild hstop => ⟨?_, ?_⟩, fun hstops => ?_⟩
  · have hidle := (a.stop_idle hou).isRunning
    rwa [Timed.behind_of_ok hstop] at hidle
  · exact stop_exits_iff hcarrier hou (run_known hcarrier steps ho hknown) hchild hstop
  · have hend := run_tidy hcarrier steps ho hknown htidy hstops
    refine ⟨fun _ _ => hend.unique, fun hrunning id halive => ?_⟩
    cases hrunning.symm.trans (hend.isRunning hcarrier halive)

/-- A program that neither quits nor takes the signal to terminate is killed. -/
theorem run_leaves_no_program_of_stubborn_program :
    let script : ProgramScript := { quit := .ignores, terminate := .ignores }
    let a : Adapter := ⟨{}, Codec.usual, .child⟩
    let t : Timeline Rig Happening := { state.surroundings.scripts := [script] }
    let start := Step.start (.named .playback1) (.text "1.0.0.0") ""
    (a.run [start] t).state.IsAlive 0 ∧ a.isRunning (a.run [start, .stop] t).state = false ∧
      ∀ id, ¬ (a.run [start, .stop] t).state.IsAlive id := by
  intro script a t start
  have ho : t.Ordered := Timeline.ordered_idle 0 _
  have hnone : t.state.surroundings.programs = [] := rfl
  have hfree : t.state.holdings.child = none := rfl
  have halive : (a.run [start] t).state.IsAlive 0 := by decide +kernel
  have hrunning : a.isRunning (a.run [start, .stop] t).state = false := by decide +kernel
  have hstop : a.stop.succeeds (a.run [start] t) = true := by decide +kernel
  have hscript : (a.run [start] t).state.surroundings.programs.map (·.script.terminate) =
      [.ignores] := by decide +kernel
  -- From here on nothing is evaluated.
  clear_value t
  refine ⟨halive, hrunning, ?_⟩
  refine ((run_leaves_no_program a rfl ho hnone hfree [start, .stop]).2 ?_).2 hrunning
  intro before after hsplit
  have hbefore : before = [start] := by
    rcases before with _ | ⟨first, _ | ⟨second, before⟩⟩
    · simp [start] at hsplit
    · rw [(List.cons.inj hsplit).1]
    · simp at hsplit
  subst hbefore
  refine ⟨_, Timed.ok_of_succeeds hstop, ?_⟩
  rintro id _ ⟨_, p, kind, hp, hkind⟩
  have hmem := List.mem_map_of_mem (f := fun p : Program => p.script.terminate)
    (List.mem_of_getElem? hp)
  rw [hscript, List.mem_singleton, hkind] at hmem
  cases hmem

/-- A program does not quit, and the operating system refuses the signal to terminate.  The stop
succeeds, and yet the program lives on while the adapter does not run, and with the one started next
two are alive. -/
theorem stop_leaves_program_behind :
    let script : ProgramScript := { quit := .ignores, terminate := .fails .system }
    let a : Adapter := ⟨{}, Codec.usual, .child⟩
    let t : Timeline Rig Happening := { state.surroundings.scripts := [script] }
    let start := Step.start (.named .playback1) (.text "1.0.0.0") ""
    let started := a.run [start] t
    let stopped := a.run [start, .stop] t
    let again := a.run [start, .stop, start] t
    started.state.holdings.child = some 0 ∧ a.stop started = .ok () stopped ∧
      stopped.state.exitCode 0 = none ∧ a.isRunning stopped.state = false ∧
      again.state.IsAlive 0 ∧ again.state.IsAlive 1 := by
  intro script a t start started stopped again
  exact ⟨by decide +kernel, Timed.ok_of_succeeds (by decide +kernel), by decide +kernel,
    by decide +kernel, by decide +kernel, by decide +kernel⟩

end Adapter

end CecBench
