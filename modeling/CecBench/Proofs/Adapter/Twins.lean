import CecBench.Proofs.Accord
import CecBench.Proofs.Adapter.Farewell

/-!
# The same program here and there

The two kinds of adapters reach their programs in different ways.  As long as
neither way fails by itself, that makes no difference to who uses the adapter.
`Rig.Alike` relates the two rigs: the programs, the monitor and the console lines
are the same, and what the one adapter has in hand as a child, the other one has
behind its channel.  Starting, writing, and all that programs do keep rigs alike.
Stopping does not, for the two adapters deal in different ways with a program that
does not quit.
-/

namespace CecBench

open Timed (Abreast Accords Agree Carried)
open Rig

variable {t u t' : Timeline Rig Happening} {id : ProgramId}

/-- The program can be started, it has an input and an output, and its input fails at most as the
operating system does. -/
structure ProgramScript.IsPlain (script : ProgramScript) : Prop where
  starts : script.spawnFailure = none
  stdin : script.hasStdin = true
  stdout : script.hasStdout = true
  input : ∀ kind, script.writeFailure = some kind → kind.isSystem = true

/-- The machine can be connected to at once, and runs the commands it is given. -/
structure HostScript.IsObliging (host : HostScript) : Prop where
  connects : host.connectFailure = none
  active : host.transport = .active
  opens : host.openFailure = none
  runs : host.execFailure = none

namespace Rig

variable {r s : Rig}

/-- The rigs differ only in where the program in hand runs. -/
structure Alike (r s : Rig) : Prop where
  programs : r.surroundings.programs = s.surroundings.programs
  scripts : r.surroundings.scripts = s.surroundings.scripts
  starts : r.surroundings.starts = s.surroundings.starts
  workplace : r.surroundings.workplace = s.surroundings.workplace
  lines : r.lines = s.lines
  reader : r.reader = s.reader
  logical : r.holdings.logical = s.holdings.logical
  physical : r.holdings.physical = s.holdings.physical
  phase : r.holdings.phase = s.holdings.phase
  held : r.holdings.holdsMonitor = s.holdings.holdsMonitor
  /-- What the one has in hand as a child, the other one has behind its channel. -/
  grip : r.holdings.child = s.holdings.channel
  streams : s.holdings.channel.isSome = true → s.holdings.hasStreams = true
  known : ∀ id, r.holdings.child = some id → id < r.surroundings.programs.length
  plain : ∀ id p, r.program? id = some p → p.script.IsPlain
  coming : ∀ script ∈ r.surroundings.scripts, script.IsPlain
  obliging : s.surroundings.host.IsObliging

/-! ## Events -/

/-- Programs that only get older stay plain. -/
theorem Ages.plain (h : Ages r s)
    (hlength : s.surroundings.programs.length = r.surroundings.programs.length)
    (hplain : ∀ id p, r.program? id = some p → p.script.IsPlain) :
    ∀ id p, s.program? id = some p → p.script.IsPlain := by
  intro id p hp
  have hlt : id < r.surroundings.programs.length :=
    hlength ▸ (List.getElem?_eq_some_iff.mp hp).1
  have hbefore : r.program? id = some r.surroundings.programs[id] := List.getElem?_eq_getElem hlt
  obtain ⟨q, hq, hbecomes⟩ := h id _ hbefore
  cases hq.symm.trans hp
  rw [hbecomes.script]
  exact hplain id _ hbefore

/-- Reading depends on nothing but the monitor and the programs. -/
theorem settle_congr (now : Nat) (hreader : r.reader = s.reader)
    (hprograms : r.surroundings.programs = s.surroundings.programs) :
    (r.settle now).reader = (s.settle now).reader ∧
      (r.settle now).surroundings.programs = (s.settle now).surroundings.programs := by
  have hprogram (id : ProgramId) : r.program? id = s.program? id := by
    rw [program?, program?, hprograms]
  unfold settle
  rw [hreader]
  cases s.reader with
  | none => exact ⟨hreader, hprograms⟩
  | some reader =>
    dsimp only
    rw [hprogram]
    cases s.program? reader.program with
    | none => exact ⟨hreader, hprograms⟩
    | some p => exact ⟨rfl, by simp only [modifyProgram, hprograms]⟩

/-- Reading changes nothing else. -/
theorem settle_eq (now : Nat) (r : Rig) : r.settle now = { r with
    surroundings.programs := (r.settle now).surroundings.programs
    reader := (r.settle now).reader } := by
  have hsurroundings := settle_surroundings now r
  have hholdings := settle_holdings now r
  generalize r.settle now = q at hsurroundings hholdings
  obtain ⟨surroundings, holdings, reader⟩ := q
  simp only at hsurroundings hholdings
  rw [hsurroundings, hholdings]

theorem Alike.settle (h : Alike r s) (now : Nat) : Alike (r.settle now) (s.settle now) := by
  obtain ⟨hreader, hprograms⟩ := settle_congr now h.reader h.programs
  have hlength := settle_programs now r
  have hplain := (settle_ages now r).plain hlength h.plain
  rw [settle_eq now r] at hplain ⊢
  rw [settle_eq now s]
  exact { h with
    programs := hprograms
    reader := hreader
    known := fun id hid => hlength ▸ h.known id hid
    plain := hplain }

theorem Alike.modify (h : Alike r s) (id : ProgramId) {f : Program → Program}
    (hf : ∀ p : Program, p.Becomes (f p)) : Alike (r.modifyProgram id f) (s.modifyProgram id f) :=
  { h with
    programs := congrArg (List.modify · id f) h.programs
    known := fun id hid => (length_modifyProgram _ _ _).symm ▸ h.known id hid
    plain := (modifyProgram_ages fun p _ => hf p).plain (length_modifyProgram _ _ _) h.plain }

instance : Carried Alike where
  unfold now e h := (h.modify e.program fun p => p.becomes_actAll e.actions).settle now

/-! ## Steps of computations -/

theorem note_accords (c : Call) : Accords (Abreast Alike) (note c) (note c) :=
  Timed.accords_update fun _ _ h => h.withState { h.state with
    lines := by rw [lines_append, lines_append, h.state.lines] }

theorem touch_accords (id : ProgramId) {f : Program → Program} (hf : ∀ p : Program, p.Becomes (f p)) :
    Accords (Abreast Alike) (touch id f) (touch id f) :=
  Timed.accords_now.bind fun now => Timed.accords_update fun _ _ h =>
    h.withState ((h.state.modify id hf).settle now)

theorem failIf_accords (kind : Option EquipmentKind) (text : String) :
    Accords (Abreast Alike) (failIf kind text) (failIf kind text) := by
  cases kind with
  | none => exact Timed.accords_pure ()
  | some kind => exact Timed.accords_throw (.refl _)

theorem Alike.program? (h : Alike r s) (id : ProgramId) : r.program? id = s.program? id := by
  rw [Rig.program?, Rig.program?, h.programs]

theorem Alike.exitCode (h : Alike r s) (id : ProgramId) : r.exitCode id = s.exitCode id := by
  rw [Rig.exitCode, Rig.exitCode, h.program?]

theorem Alike.log (h : Alike r s) : r.log = s.log := by rw [Rig.log, Rig.log, h.reader]

/-- The program in hand was started, and it is plain. -/
theorem Alike.inHand (h : Alike r s) (hchild : r.holdings.child = some id) :
    ∃ p, r.program? id = some p ∧ p.script.IsPlain :=
  ⟨_, List.getElem?_eq_getElem (h.known id hchild),
    h.plain id _ (List.getElem?_eq_getElem (h.known id hchild))⟩

theorem Alike.latest? (h : Alike r s) : r.latest? = s.latest? := by
  rw [Rig.latest?, Rig.latest?, h.programs]

theorem writeTo_accords (id : ProgramId) (line : String) :
    Accords (Abreast Alike) (writeTo id line) (writeTo id line) := by
  refine (note_accords _).bind fun _ => Timed.accords_look fun t u h => ?_
  rw [h.state.program?]
  cases u.state.program? id with
  | none => exact .ok () h
  | some p =>
    exact ((failIf_accords _ _).bind fun _ => (touch_accords id fun q => q.becomes_receive _).bind
      fun _ => Timed.accords_schedule _) t u h

theorem prompt_accords (actions : List ProgramAction) :
    Accords (Abreast Alike) (prompt actions) (prompt actions) := by
  refine Timed.accords_look fun t u h => ?_
  rw [h.state.latest?]
  cases u.state.latest? with
  | none => exact .ok () h
  | some id => exact touch_accords id (fun p => p.becomes_actAll actions) t u h

theorem plan_accords (events : List (Nat × List ProgramAction)) :
    Accords (Abreast Alike) (plan events) (plan events) := by
  refine Timed.accords_look fun t u h => ?_
  rw [h.state.latest?]
  cases u.state.latest? with
  | none => exact .ok () h
  | some id => exact Timed.accords_schedule _ t u h

/-! ## Starting -/

theorem Alike.nextScript (h : Alike r s) : r.nextScript = s.nextScript := by
  rw [Rig.nextScript, Rig.nextScript, h.scripts, h.starts]

/-- The next program is plain as well, even if there is no script for it. -/
theorem nextScript_plain (h : ∀ script ∈ r.surroundings.scripts, script.IsPlain) :
    r.nextScript.IsPlain := by
  unfold nextScript
  dsimp only
  cases hnext : r.surroundings.scripts[r.surroundings.starts]? with
  | some script => exact h script (List.mem_of_getElem? hnext)
  | none =>
    cases hlast : r.surroundings.scripts.getLast? with
    | some script => exact h script (List.mem_of_getLast? hlast)
    | none => exact ⟨rfl, rfl, rfl, fun _ hkind => by cases hkind⟩

theorem asked_here {c : Call} (hc : c.line? = none) (h : Abreast Alike t u) :
    Abreast Alike (asked c t) u :=
  h.withState { h.state with lines := by rw [lines_append, List.filterMap_cons_none hc,
    List.filterMap_nil, List.append_nil, h.state.lines] }

theorem asked_there {c : Call} (hc : c.line? = none) (h : Abreast Alike t u) :
    Abreast Alike t (asked c u) :=
  h.withState { h.state with lines := by rw [lines_append, List.filterMap_cons_none hc,
    List.filterMap_nil, List.append_nil, h.state.lines] }

/-- The timeline with the next program started. -/
def started (t : Timeline Rig Happening) : Timeline Rig Happening :=
  launched t.state.nextScript { t with state.surroundings.starts := t.state.surroundings.starts + 1 }

theorem started_state (t : Timeline Rig Happening) : (started t).state = { t.state with
    surroundings.starts := t.state.surroundings.starts + 1
    surroundings.programs :=
      t.state.surroundings.programs ++ [Program.start t.state.nextScript] } :=
  launched_state _ _

theorem started_now (t : Timeline Rig Happening) : (started t).now = t.now :=
  Timeline.scheduleAll_now _ _

theorem started_agenda (t : Timeline Rig Happening) : (started t).agenda =
    (t.scheduleAll (t.state.nextScript.events.map fun e =>
      (e.1, ⟨t.state.surroundings.programs.length, e.2⟩))).agenda := by
  apply Timeline.scheduleAll_agenda_congr <;> rfl

/-- On both sides the next program is the same, and it is plain. -/
theorem started_alike (h : Abreast Alike t u) : Abreast Alike (started t) (started u) := by
  have hscript := h.state.nextScript
  have hprograms := h.state.programs
  refine ⟨?_, ?_, ?_⟩
  · rw [started_now, started_now, h.now]
  · rw [started_agenda, started_agenda, hscript, hprograms]
    exact Timeline.scheduleAll_agenda_congr h.now h.agenda _
  · rw [started_state, started_state]
    exact { h.state with
      starts := congrArg (· + 1) h.state.starts
      programs := by rw [hprograms, hscript]
      known := by
        intro id hid
        show id < (t.state.surroundings.programs ++ [_]).length
        rw [List.length_append]
        exact Nat.lt_add_right 1 (h.state.known id hid)
      plain := by
        intro id p hp
        rcases List.mem_append.mp (List.mem_of_getElem? hp) with hmem | hmem
        · obtain ⟨other, hother⟩ := List.mem_iff_getElem?.mp hmem
          exact h.state.plain other p hother
        · have hscript : p.script = t.state.nextScript := by
            rw [List.mem_singleton.mp hmem]
            exact (Program.becomes_actAll _ _).script
          exact hscript ▸ nextScript_plain h.state.coming }

/-- The same program is taken into the hand here and there. -/
theorem taken_alike (h : Abreast Alike t u) (hid : id < t.state.surroundings.programs.length) :
    Abreast Alike { t with state.holdings.child := some id }
      { u with state.holdings.channel := some id, state.holdings.hasStreams := true } :=
  h.withState { h.state with
    grip := rfl
    streams := fun _ => rfl
    known := fun _ hsame => Option.some.inj hsame ▸ hid }

end Rig

namespace Child

theorem spawn_apply (command : List String) (context : String)
    (h : t.state.nextScript.spawnFailure = none) :
    spawn command context t = .ok () { started (asked (.spawn command) t) with
      state.holdings.child := some t.state.surroundings.programs.length } := by
  have hcount : countStart (asked (.spawn command) t) = .ok t.state.nextScript
      { asked (.spawn command) t with
        state.surroundings.starts := t.state.surroundings.starts + 1 } := rfl
  rw [spawn, note_bind, Timed.bind_of_ok hcount, h]
  rfl

theorem writeLine_of_none {line context : String} (h : t.state.holdings.child = none) :
    writeLine line context t = .error (.send ⟨context, line, .stopped none⟩) t := by
  refine (Timed.state_bind _ t).trans ?_
  simp only [h, exitCode]
  rfl

theorem writeLine_of_some {line context : String} {p : Program}
    (h : t.state.holdings.child = some id) (hp : t.state.program? id = some p)
    (hstdin : p.script.hasStdin = true) : writeLine line context t =
      match t.state.exitCode id with
      | none => telling EquipmentKind.isPipe (fun e => .send ⟨context, line, .refused e.text⟩)
          (writeTo id (line ++ "\n")) t
      | some code => .error (.send ⟨context, line, .stopped (some code)⟩) t := by
  have hcode : exitCode t.state = t.state.exitCode id := by rw [exitCode, h]; rfl
  have hguard : (isRunning t.state && (t.state.program? id).any (·.script.hasStdin)) =
      (t.state.exitCode id).isNone := by
    simp [isRunning, hcode, h, hp, hstdin]
  refine (Timed.state_bind _ t).trans ?_
  simp only [h, hguard, hcode]
  cases t.state.exitCode id <;> rfl

end Child

namespace Remote

/-- Connecting to an obliging machine succeeds at once, and nobody notices. -/
theorem connect_apply (login : HostLogin) (context : String)
    (h : u.state.surroundings.host.IsObliging) :
    ∃ u', Connection.connect login context u = .ok () u' ∧
      Connection.isConnected u'.state = true ∧
      u'.state.surroundings.host = u.state.surroundings.host ∧
      ∀ t, Abreast Alike t u → Abreast Alike t u' := by
  by_cases hconnected : Connection.isConnected u.state = true
  · refine ⟨u, ?_, hconnected, rfl, fun _ => id⟩
    rw [Connection.connect, Timed.state_bind, if_pos hconnected]
    rfl
  · let call : Call := .connect login.name login.password login.timeout
    let linked : Timeline Rig Happening := { asked call u with
      state.surroundings.clients := u.state.surroundings.clients ++ [true]
      state.holdings.client := some u.state.surroundings.clients.length }
    have hnow : (Timed.now : Act Nat) u = .ok u.now u := rfl
    refine ⟨linked, ?_, ?_, rfl, fun t ht => ?_⟩
    · rw [Connection.connect, Timed.state_bind, if_neg hconnected, Timed.bind_of_ok hnow, note_bind,
        h.connects]
      rfl
    · show (true && u.state.surroundings.host.transport == .active) = true
      rw [h.active]
      rfl
    · exact (asked_there (c := call) rfl ht).withState { (asked_there (c := call) rfl ht).state with }

theorem exec_apply (login : HostLogin) (command context : String)
    (h : u.state.surroundings.host.IsObliging)
    (hconnected : Connection.isConnected u.state = true) :
    exec login command context u = .ok u.state.surroundings.programs.length
      (started (asked (.exec command) (asked .combineOutputs (asked .openSession u)))) := by
  have hopen : Connection.openChannel login context u = .ok () (asked .openSession u) := by
    rw [Connection.openChannel, Timed.state_bind, if_pos hconnected, note_bind, h.opens]
    rfl
  have hruns : (asked (.exec command) (asked .combineOutputs
      (asked .openSession u))).state.surroundings.host.execFailure = none := h.runs
  rw [exec, Timed.bind_of_ok hopen, note_bind, note_bind, Timed.state_bind, hruns]
  rfl

theorem spawn_apply (login : HostLogin) (command context : String)
    (h : u.state.surroundings.host.IsObliging) :
    ∃ u', (∀ t, Abreast Alike t u → Abreast Alike t u') ∧
      spawn login command context u = .ok () { started u' with
        state.holdings.channel := some u'.state.surroundings.programs.length
        state.holdings.hasStreams := true } := by
  obtain ⟨v, hconnect, hconnected, hhost, hsame⟩ := connect_apply login context h
  refine ⟨asked (.exec command) (asked .combineOutputs (asked .openSession v)), fun t ht => ?_, ?_⟩
  · exact asked_there rfl (asked_there rfl (asked_there rfl (hsame t ht)))
  · have hexec := exec_apply login command context (hhost ▸ h) hconnected
    rw [spawn, Timed.bind_of_ok hconnect, Timed.bind_of_ok (Timed.tryCatch_of_ok hexec)]
    rfl

theorem writeLine_of_none {login : HostLogin} {line context : String}
    (h : t.state.holdings.channel = none) :
    writeLine login line context t =
      .error (.send ⟨context, line, .stoppedOn login.hostname⟩) t := by
  refine (Timed.state_bind _ t).trans ?_
  simp only [h]
  rfl

theorem writeLine_of_some {login : HostLogin} {line context : String}
    (h : t.state.holdings.channel = some id) (hstreams : t.state.holdings.hasStreams = true) :
    writeLine login line context t =
      match t.state.exitCode id with
      | none => telling EquipmentKind.isChannel
          (fun e => .send ⟨context, line, .refusedOn login.hostname e.text⟩)
          (writeTo id (line ++ "\n")) t
      | some _ => .error (.send ⟨context, line, .stoppedOn login.hostname⟩) t := by
  have hcode : exitCode t.state = t.state.exitCode id := by rw [exitCode, h]; rfl
  have hguard : (isRunning t.state && t.state.holdings.hasStreams) =
      (t.state.exitCode id).isNone := by
    simp [isRunning, hcode, h, hstreams]
  refine (Timed.state_bind _ t).trans ?_
  simp only [h, hguard]
  cases t.state.exitCode id <;> rfl

end Remote

namespace Adapter

variable {a : Adapter}

/-- The adapter with its program on another machine. -/
def remote (a : Adapter) (login : HostLogin) : Adapter := { a with carrier := .host login }

theorem bind_accords (logical : AddressSpec) (physical : PlaceSpec) :
    Accords (Abreast Alike) (bind logical physical) (bind logical physical) :=
  (Timed.accords_lift _ _).bind fun _ =>
    (Timed.accords_update fun _ _ h => h.withState { h.state with logical := rfl }).bind fun _ =>
      (Timed.accords_lift _ _).bind fun _ =>
        (Timed.accords_update fun _ _ h => h.withState { h.state with physical := rfl }).bind
          fun _ => Timed.accords_pure _

/-- What is bound is in hand, and so the command line is that of the command. -/
theorem commandLine_of_bind {logical : AddressSpec} {physical : PlaceSpec}
    {bound : LogicalAddress × PhysicalAddress} (h : bind logical physical t = .ok bound t') :
    a.commandLine t' = Timed.lift .settings
      ((a.settings.command bound.1 bound.2).map Text.ShellWords.join) t' := by
  obtain ⟨l, v, hl, h⟩ := Timed.bind_eq_ok h
  obtain ⟨_, w, hw, h⟩ := Timed.bind_eq_ok h
  obtain ⟨p, x, hp, h⟩ := Timed.bind_eq_ok h
  obtain ⟨_, rfl⟩ := Timed.lift_eq_ok hp
  obtain ⟨_, y, hy, h⟩ := Timed.bind_eq_ok h
  cases hw
  cases hy
  cases h
  rfl

/-- An adapter that has no program in hand starts the same one here and there, unless it cannot
play the role. -/
theorem start_accords (hlocal : a.carrier = .child) (login : HostLogin) (logical : AddressSpec)
    (physical : PlaceSpec) (context : String) (h : Abreast Alike t u)
    (hfree : t.state.holdings.child = none) :
    Agree (Abreast Alike) (a.start logical physical context t)
      ((a.remote login).start logical physical context u) := by
  have hfree' : u.state.holdings.channel = none := h.state.grip.symm.trans hfree
  have hthere : (a.remote login).start logical physical context u = (do
      let _ ← bind logical physical
      let command ← (a.remote login).commandLine
      Remote.spawn login command context : Act Unit) u := by
    refine (inHand_bind _ u).trans ?_
    simp only [hfree']
    rfl
  rw [start_of_free hlocal hfree, hthere]
  refine (bind_accords logical physical t u h).bind fun bound v w hv hw hbound => ?_
  have hline := commandLine_of_bind (a := a.remote login) hw
  change _ = Timed.lift .settings ((a.settings.command bound.1 bound.2).map _) w at hline
  cases hcommand : a.settings.command bound.1 bound.2 with
  | error e =>
    rw [hcommand] at hline
    rw [Timed.bind_of_error hline]
    exact .error (.refl _) hbound
  | ok command =>
    rw [hcommand] at hline
    obtain ⟨w', hsame, hspawn⟩ := Remote.spawn_apply login (Text.ShellWords.join command) context
      hbound.state.obliging
    have hasked := asked_here (c := .spawn command) rfl (hsame v hbound)
    have hstarts := (nextScript_plain hbound.state.coming).starts
    rw [Timed.bind_of_ok hline, hspawn]
    show Agree _ (Child.spawn command context v) _
    rw [Child.spawn_apply command context hstarts, ← hasked.state.programs]
    refine .ok () (taken_alike (started_alike hasked) ?_)
    rw [started_state]
    show _ < (v.state.surroundings.programs ++ [_]).length
    rw [List.length_append]
    exact Nat.lt_succ_self _

/-- The same output can be read here and there. -/
theorem output_accords (hlocal : a.carrier = .child) (login : HostLogin) :
    Accords (Abreast Alike) a.output (a.remote login).output := by
  unfold Adapter.output remote
  rw [hlocal]
  intro t u h
  have hgrip := h.state.grip
  dsimp only
  rw [Child.output, Timed.state_bind, Remote.output, inHand_bind, ← hgrip]
  cases hchild : t.state.holdings.child with
  | none => exact .error (.refl _) h
  | some id =>
    obtain ⟨p, hp, hplain⟩ := h.state.inHand hchild
    have hreads : (t.state.program? id).any (·.script.hasStdout) = true := by
      rw [hp, Option.any_some, hplain.stdout]
    have hstreams := h.state.streams (by rw [← hgrip, hchild]; rfl)
    dsimp only
    rw [if_pos hreads, hstreams]
    exact .ok id h

theorem exitCode_alike (hlocal : a.carrier = .child) (login : HostLogin) {r s : Rig}
    (h : Alike r s) : a.exitCode r = (a.remote login).exitCode s := by
  unfold Adapter.exitCode remote
  rw [hlocal]
  dsimp only
  rw [Child.exitCode, Remote.exitCode, h.grip]
  cases s.holdings.channel with
  | none => rfl
  | some id => exact h.exitCode id

theorem telling_of_error {told : EquipmentKind → Bool} {fault : EquipmentError → Fault}
    {step : Act Unit} {e : EquipmentError} (h : step t = .error (.equipment e) t')
    (htold : told e.kind = true) : telling told fault step t = .error (fault e) t' := by
  rw [telling, Timed.tryCatch_of_error h]
  dsimp only
  rw [if_pos htold]
  rfl

/-- A report of the operating system is told as a refusal of the line, here and there. -/
theorem telling_accords {line context : String} (cause cause' : EquipmentError → SendCause)
    (h : Abreast Alike t u)
    (hinput : ∀ kind, inputFailure? t.state id = some kind → kind.isSystem = true) :
    Agree (Abreast Alike)
      (telling EquipmentKind.isPipe (fun e => .send ⟨context, line, cause e⟩)
        (writeTo id (line ++ "\n")) t)
      (telling EquipmentKind.isChannel (fun e => .send ⟨context, line, cause' e⟩)
        (writeTo id (line ++ "\n")) u) := by
  have hwrite := writeTo_accords id (line ++ "\n") t u h
  have hsame : inputFailure? u.state id = inputFailure? t.state id := by
    rw [inputFailure?, inputFailure?, h.state.program?]
  cases hfailure : inputFailure? t.state id with
  | some kind =>
    have hsystem := hinput kind hfailure
    have hfails := writeTo_fails (line ++ "\n") hfailure
    have hfails' := writeTo_fails (line ++ "\n") (hsame.trans hfailure)
    have hpipe : (kind.report "write failed").kind.isPipe = true := by
      rw [EquipmentKind.report_kind, EquipmentKind.isPipe, hsystem, Bool.true_or]
    have hchannel : (kind.report "write failed").kind.isChannel = true := by
      rw [EquipmentKind.report_kind, EquipmentKind.isChannel, hsystem, Bool.true_or]
    rw [hfails, hfails'] at hwrite
    rw [telling_of_error hfails hpipe, telling_of_error hfails' hchannel]
    cases hwrite with
    | error _ hwritten => exact .error (.send ..) hwritten
  | none =>
    obtain ⟨_, t', hok, _⟩ := writeTo_succeeds (line ++ "\n") hfailure
    obtain ⟨_, u', hok', _⟩ := writeTo_succeeds (line ++ "\n") (hsame.trans hfailure)
    rw [hok, hok'] at hwrite
    rw [telling, Timed.tryCatch_of_ok hok, telling, Timed.tryCatch_of_ok hok']
    exact hwrite

/-- A line that does not reach the program is refused here and there. -/
theorem writeLine_accords (hlocal : a.carrier = .child) (login : HostLogin) (line context : String) :
    Accords (Abreast Alike) (a.writeLine line context) ((a.remote login).writeLine line context) := by
  unfold Adapter.writeLine remote
  rw [hlocal]
  intro t u h
  dsimp only
  cases hchild : t.state.holdings.child with
  | none =>
    rw [Child.writeLine_of_none hchild, Remote.writeLine_of_none (h.state.grip.symm.trans hchild)]
    exact .error (.send ..) h
  | some id =>
    obtain ⟨p, hp, hplain⟩ := h.state.inHand hchild
    have hchannel := h.state.grip.symm.trans hchild
    have hstreams := h.state.streams (by rw [hchannel]; rfl)
    rw [Child.writeLine_of_some hchild hp hplain.stdin, Remote.writeLine_of_some hchannel hstreams,
      ← h.state.exitCode]
    cases t.state.exitCode id with
    | some code => exact .error (.send ..) h
    | none =>
      refine telling_accords _ _ h fun kind hkind => hplain.input kind ?_
      rwa [inputFailure?, hp] at hkind

end Adapter

end CecBench
