import CecBench.Adapter.Basic
import CecBench.Proofs.Bus.History
import CecBench.Proofs.Conduct

/-!
# What an adapter leaves alone

An adapter starts and stops programs, gives them lines and waits for them, and
every one of these can fail at many points.  Whatever it does and however it
ends, the session that it works for is as it was: it is in the same phase, it
holds a monitor if it did before, the monitor still reads the same program, and
the bus log has lost nothing.  `Rig.Spares` is this relation.

Events spare the session as well, and so the relation is steady.  The rest of
the module goes through the operations of an adapter from the smallest to
`Adapter.start`, `Adapter.writeLine` and `Adapter.stop`.  None of them looks at
what is kept: all stay within every `Tolerant` relation, and `Rig.Spared` is one.

Most operations keep more.  Those that neither take anything into the hand nor
let anything go stay within every `Patient` relation, and with the start of a
program within every `Hospitable` one.  What an adapter does once it has let go
of its program stays within every `Lenient` relation, and one of them is to have
the same program in hand.  So an adapter that was stopped is not running, however
the stop ends.
-/

namespace CecBench

open Timed (Keeps Steady FailsOnly behind)
open Timeline (Elapses replay)

namespace Program

/-- The second program is the first one later: it has the same script, and if the first one has
exited, so has the second one, with the same code. -/
structure Becomes (p q : Program) : Prop where
  script : q.script = p.script
  exit : ∀ code, p.exitCode = some code → q.exitCode = some code

theorem Becomes.refl (p : Program) : Becomes p p := ⟨rfl, fun _ h => h⟩

theorem Becomes.trans {p q r : Program} (h : Becomes p q) (h' : Becomes q r) : Becomes p r :=
  ⟨h'.script.trans h.script, fun code hcode => h'.exit code (h.exit code hcode)⟩

theorem becomes_act (p : Program) (action : ProgramAction) : Becomes p (p.act action) := by
  cases action with
  | prints | endsOutput => exact ⟨rfl, fun _ h => h⟩
  | exits => exact ⟨rfl, fun _ h => by rw [act, h]; rfl⟩

theorem becomes_actAll (p : Program) (actions : List ProgramAction) :
    Becomes p (p.actAll actions) := by
  induction actions generalizing p with
  | nil => exact .refl p
  | cons action rest ih => exact (p.becomes_act action).trans (ih _)

theorem becomes_receive (p : Program) (command : String) : Becomes p (p.receive command) := by
  unfold receive
  split
  · split
    · exact p.becomes_act _
    · exact .refl p
    · exact .refl p
  · exact p.becomes_actAll _

theorem becomes_readByHand (p : Program) : Becomes p p.readByHand.2 := by
  unfold readByHand
  split <;> exact ⟨rfl, fun _ h => h⟩

end Program

namespace Rig

/-- The second rig comes from the first one without touching the session. -/
structure Spares (r r' : Rig) : Prop where
  phase : r'.holdings.phase = r.holdings.phase
  held : r'.holdings.holdsMonitor = r.holdings.holdsMonitor
  /-- The monitor reads the same program, if there is one. -/
  reads : r'.reader.map Reader.program = r.reader.map Reader.program
  log : r.log.frames <+: r'.log.frames
  workplace : r'.surroundings.workplace = r.surroundings.workplace

theorem Spares.refl (r : Rig) : Spares r r := ⟨rfl, rfl, rfl, List.prefix_refl _, rfl⟩

theorem Spares.trans {r r' r'' : Rig} (h : Spares r r') (h' : Spares r' r'') : Spares r r'' where
  phase := h'.phase.trans h.phase
  held := h'.held.trans h.held
  reads := h'.reads.trans h.reads
  log := h.log.trans h'.log
  workplace := h'.workplace.trans h.workplace

/-- A change that leaves the monitor, the phase and the machine alone. -/
theorem Spares.of_eq {r r' : Rig} (hphase : r'.holdings.phase = r.holdings.phase)
    (hheld : r'.holdings.holdsMonitor = r.holdings.holdsMonitor) (hreader : r'.reader = r.reader)
    (hplace : r'.surroundings.workplace = r.surroundings.workplace) : Spares r r' where
  phase := hphase
  held := hheld
  reads := by rw [hreader]
  log := by
    have hlog : r'.log = r.log := by rw [Rig.log, Rig.log, hreader]
    exact hlog ▸ List.prefix_refl _
  workplace := hplace

theorem Spares.reader_isSome {r r' : Rig} (h : Spares r r') (hr : r.reader.isSome) :
    r'.reader.isSome := by
  have := congrArg Option.isSome h.reads
  simpa [hr] using this

/-! ## Events -/

theorem settle_spares (now : Nat) (r : Rig) : Spares r (r.settle now) := by
  refine ⟨?_, ?_, ?_, r.settle_frames now, ?_⟩ <;>
  · unfold settle
    cases hr : r.reader with
    | none => simp [hr]
    | some reader => cases hp : r.program? reader.program <;> simp [hr, hp, modifyProgram]

theorem modifyProgram_spares (id : ProgramId) (f : Program → Program) (r : Rig) :
    Spares r (r.modifyProgram id f) := .of_eq rfl rfl rfl rfl

theorem replay_spares (past : List (Nat × Happening)) (r : Rig) : Spares r (replay past r) := by
  induction past generalizing r with
  | nil => exact .refl r
  | cons x past ih =>
    have htake : Spares r (r.take x.1 x.2) := (r.modifyProgram_spares _ _).trans (settle_spares _ _)
    exact htake.trans (ih _)

theorem length_modifyProgram (id : ProgramId) (f : Program → Program) (r : Rig) :
    (r.modifyProgram id f).surroundings.programs.length = r.surroundings.programs.length :=
  List.length_modify _ _ _

theorem settle_programs (now : Nat) (r : Rig) :
    (r.settle now).surroundings.programs.length = r.surroundings.programs.length := by
  unfold settle
  cases hr : r.reader with
  | none => rfl
  | some reader => cases hp : r.program? reader.program <;> simp [hp, length_modifyProgram]

theorem replay_programs (past : List (Nat × Happening)) (r : Rig) :
    (replay past r).surroundings.programs.length = r.surroundings.programs.length := by
  induction past generalizing r with
  | nil => rfl
  | cons x past ih =>
    exact (ih _).trans ((settle_programs _ _).trans (length_modifyProgram _ _ _))

theorem lt_of_latest {r : Rig} {id : ProgramId} (h : r.latest? = some id) :
    id < r.surroundings.programs.length := by
  unfold latest? at h
  split at h
  · cases h
  · rename_i hlength
    cases h
    rw [hlength]
    exact Nat.lt_succ_self id

theorem settle_holdings (now : Nat) (r : Rig) : (r.settle now).holdings = r.holdings := by
  unfold settle
  cases hr : r.reader with
  | none => rfl
  | some reader => cases hp : r.program? reader.program <;> simp [hp, modifyProgram]

theorem replay_holdings (past : List (Nat × Happening)) (r : Rig) :
    (replay past r).holdings = r.holdings := by
  induction past generalizing r with
  | nil => rfl
  | cons x past ih => exact (ih _).trans (settle_holdings _ _)

theorem wait_holdings {t : Timeline Rig Happening} (ho : t.Ordered) (wished : Rig → Bool)
    (timeout : Int) : (t.wait wished timeout).2.state.holdings = t.state.holdings := by
  obtain ⟨past, h, _⟩ := Timeline.wait_elapses wished timeout ho
  rw [h.state, replay_holdings]

/-- The timeline with one program more, and with what its script says on the agenda. -/
def launched (script : ProgramScript) (t : Timeline Rig Happening) : Timeline Rig Happening :=
  let id := t.state.surroundings.programs.length
  Timeline.scheduleAll
    { t with state.surroundings.programs := t.state.surroundings.programs ++ [Program.start script] }
    (script.events.map fun e => (e.1, ⟨id, e.2⟩))

theorem launched_state (script : ProgramScript) (t : Timeline Rig Happening) :
    (launched script t).state = { t.state with
      surroundings.programs := t.state.surroundings.programs ++ [Program.start script] } :=
  Timeline.scheduleAll_state _ _

theorem inHand_bind {α : Type} (next : Holdings → Act α) (t : Timeline Rig Happening) :
    (inHand >>= next) t = next t.state.holdings t := rfl

/-- The timeline once it is noted that something is asked of the surroundings. -/
def asked (c : Call) (t : Timeline Rig Happening) : Timeline Rig Happening :=
  { t with state.surroundings.calls := t.state.surroundings.calls ++ [c] }

theorem note_bind {α : Type} (c : Call) (next : Unit → Act α) (t : Timeline Rig Happening) :
    (note c >>= next) t = next () (asked c t) := rfl

/-- The session is spared between the two timelines. -/
def Spared (t t' : Timeline Rig Happening) : Prop := Spares t.state t'.state

/-- A relation that an adapter stays within while it has the same things in hand, starts no program
and sends no signal to terminate. -/
class Patient (R : Timeline Rig Happening → Timeline Rig Happening → Prop) : Prop
    extends Steady R where
  modify (t : Timeline Rig Happening) (id : ProgramId) (f : Program → Program) :
    (∀ p, t.state.program? id = some p → p.Becomes (f p)) →
    R t { t with state := t.state.modifyProgram id f }
  settle (t : Timeline Rig Happening) (now : Nat) : R t { t with state := t.state.settle now }
  /-- Only programs that were started have something planned for them. -/
  schedule (t : Timeline Rig Happening) (events : List (Nat × Happening)) :
    (∀ x ∈ events, x.2.program < t.state.surroundings.programs.length) → R t (t.scheduleAll events)
  asks (t : Timeline Rig Happening) (c : Call) : c ≠ .terminate →
    R t { t with state.surroundings.calls := t.state.surroundings.calls ++ [c] }
  starts (t : Timeline Rig Happening) (starts : Nat) :
    R t { t with state.surroundings.starts := starts }
  role (t : Timeline Rig Happening) (logical : Option LogicalAddress) :
    R t { t with state.holdings.logical := logical }
  place (t : Timeline Rig Happening) (physical : Option PhysicalAddress) :
    R t { t with state.holdings.physical := physical }

/-- A relation that an adapter stays within while it lets go of its program. -/
class Lenient (R : Timeline Rig Happening → Timeline Rig Happening → Prop) : Prop
    extends Patient R where
  signals (t : Timeline Rig Happening) :
    R t { t with state.surroundings.calls := t.state.surroundings.calls ++ [.terminate] }
  clients (t : Timeline Rig Happening) (clients : List Bool) :
    R t { t with state.surroundings.clients := clients }
  client (t : Timeline Rig Happening) : R t { t with state.holdings.client := none }
  streams (t : Timeline Rig Happening) : R t { t with state.holdings.hasStreams := false }

/-- A relation that an adapter stays within while programs are started. -/
class Hospitable (R : Timeline Rig Happening → Timeline Rig Happening → Prop) : Prop
    extends Patient R where
  launch (t : Timeline Rig Happening) (script : ProgramScript) : R t (launched script t)

/-- A relation that an adapter stays within in all that it does. -/
class Tolerant (R : Timeline Rig Happening → Timeline Rig Happening → Prop) : Prop
    extends Lenient R, Hospitable R where
  holds (t : Timeline Rig Happening) (f : Holdings → Holdings) :
    (∀ h, (f h).phase = h.phase) → (∀ h, (f h).holdsMonitor = h.holdsMonitor) →
    R t { t with state.holdings := f t.state.holdings }

instance : Tolerant Spared where
  elapses _ h := by
    rw [Spared, h.state]
    exact replay_spares _ _
  trans h h' := Spares.trans h h'
  modify t id f _ := modifyProgram_spares id f t.state
  settle t now := settle_spares now t.state
  schedule t events _ := by
    rw [Spared, Timeline.scheduleAll_state]
    exact .refl _
  asks _ _ _ := .of_eq rfl rfl rfl rfl
  starts _ _ := .of_eq rfl rfl rfl rfl
  role _ _ := .of_eq rfl rfl rfl rfl
  place _ _ := .of_eq rfl rfl rfl rfl
  signals _ := .of_eq rfl rfl rfl rfl
  clients _ _ := .of_eq rfl rfl rfl rfl
  client _ := .of_eq rfl rfl rfl rfl
  streams _ := .of_eq rfl rfl rfl rfl
  holds _ _ hphase hheld := .of_eq (hphase _) (hheld _) rfl rfl
  launch t script := by
    rw [Spared, launched_state]
    exact .of_eq rfl rfl rfl rfl

/-! ## Steps of computations -/

theorem inHand_waits : inHand.Waits := Timed.waits_state.bind fun _ => Timed.waits_pure _

/-- A step, with a fault of its own in the place of some reports of the surroundings. -/
def telling {α : Type} (told : EquipmentKind → Bool) (fault : EquipmentError → Fault)
    (step : Act α) : Act α :=
  try step
  catch
    | .equipment e => if told e.kind then throw (fault e) else throw (.equipment e)
    | e => throw e

section

variable {P : Timeline Rig Happening → Timeline Rig Happening → Prop} [Steady P]

theorem failIf_keeps (kind : Option EquipmentKind) (text : String) :
    (failIf kind text).Keeps P := by
  cases kind with
  | none => exact Timed.keeps_pure _
  | some kind => exact Timed.keeps_throw _

theorem overlooking_keeps (overlooked : EquipmentKind → Bool) {step : Act Unit}
    (h : step.Keeps P) : (overlooking overlooked step).Keeps P := by
  refine h.tryCatch fun e => ?_
  split
  · split
    · exact Timed.keeps_pure _
    · exact Timed.keeps_throw _
  · exact Timed.keeps_throw _

theorem telling_keeps {α : Type} (told : EquipmentKind → Bool) (fault : EquipmentError → Fault)
    {step : Act α} (h : step.Keeps P) : (telling told fault step).Keeps P := by
  refine h.tryCatch fun e => ?_
  split
  · split <;> exact Timed.keeps_throw _
  · exact Timed.keeps_throw _

end

variable {Q R S T : Timeline Rig Happening → Timeline Rig Happening → Prop} [Patient Q] [Lenient R]
  [Hospitable S] [Tolerant T]

theorem note_keeps (c : Call) (hc : c ≠ .terminate) : (note c).Keeps Q :=
  Timed.keeps_update fun t => Patient.asks t c hc

/-- Taking things into the hand or out of it spares the session, as long as the session's own are
left there. -/
theorem hold_keeps (f : Holdings → Holdings)
    (hphase : ∀ h, (f h).phase = h.phase)
    (hheld : ∀ h, (f h).holdsMonitor = h.holdsMonitor) :
    (hold f).Keeps T :=
  Timed.keeps_update fun t => Tolerant.holds t f hphase hheld

theorem inHand_keeps : inHand.Keeps Q := inHand_waits.keeps

theorem touch_keeps (id : ProgramId) (f : Program → Program) (hf : ∀ p : Program, p.Becomes (f p)) :
    (touch id f).Keeps Q :=
  Timed.keeps_now.bind fun now => Timed.keeps_update fun t =>
    Steady.trans (Patient.modify t id f fun p _ => hf p)
      (Patient.settle { t with state := t.state.modifyProgram id f } now)

theorem await_keeps (wished : Rig → Bool) (timeout : Int) :
    (Timed.await wished timeout : Act Bool).Keeps Q := (Timed.waits_await wished timeout).keeps

theorem sleep_keeps (duration : Int) : (Timed.sleep duration : Act Unit).Keeps Q :=
  (Timed.waits_sleep duration).keeps

theorem measure_keeps (duration : Int) : (Timed.measure duration : Act Unit).Keeps Q :=
  (Timed.waits_measure duration).keeps

/-- Where every report of the surroundings is overlooked, nothing fails but what reports no such
thing. -/
theorem overlooking_succeeds {step : Act Unit}
    (h : step.FailsOnly fun fault => ∃ e, fault = .equipment e) :
    (overlooking (fun _ => true) step).FailsOnly fun _ => False :=
  h.tryCatch fun _ ⟨_, he⟩ => he ▸ Timed.failsOnly_pure ()

theorem countStart_keeps : countStart.Keeps Q := by
  refine Timed.keeps_state.bind fun _ => Timed.Keeps.bind ?_ fun _ => Timed.keeps_pure _
  exact Timed.keeps_update fun t => Patient.starts t _

theorem launch_keeps (script : ProgramScript) : (launch script).Keeps S := by
  intro t ho
  show (launched script t).Ordered ∧ S t (launched script t)
  exact ⟨(ho.withState _).scheduleAll _, Hospitable.launch t script⟩

theorem prompt_keeps (actions : List ProgramAction) : (prompt actions).Keeps Q := by
  refine Timed.keeps_state.bind fun _ => ?_
  split
  · exact Timed.keeps_pure _
  · exact touch_keeps _ _ fun p => p.becomes_actAll actions

theorem plan_keeps (events : List (Nat × List ProgramAction)) : (plan events).Keeps Q := by
  refine Timed.keeps_look fun t ho => ?_
  split
  · exact Timed.keeps_pure () t ho
  · rename_i id hlatest
    refine ⟨ho.scheduleAll _, Patient.schedule t _ fun x hx => ?_⟩
    obtain ⟨e, _, rfl⟩ := List.mem_map.mp hx
    exact lt_of_latest hlatest

theorem writeTo_keeps (id : ProgramId) (line : String) : (writeTo id line).Keeps Q := by
  refine (note_keeps _ Call.noConfusion).bind fun _ => Timed.keeps_look fun t ho => ?_
  split
  · exact Timed.keeps_pure () t ho
  · rename_i p hprogram
    cases p.script.writeFailure with
    | some kind => exact Timed.keeps_pure () t ho
    | none =>
      obtain ⟨hou, hreceive⟩ := touch_keeps (Q := Q) id _ (fun q => q.becomes_receive _) t ho
      refine ⟨hou.scheduleAll _, Steady.trans hreceive (Patient.schedule _ _ fun x hx => ?_)⟩
      obtain ⟨e, _, rfl⟩ := List.mem_map.mp hx
      show id < ((t.state.modifyProgram id _).settle t.now).surroundings.programs.length
      rw [settle_programs, length_modifyProgram]
      exact (List.getElem?_eq_some_iff.mp hprogram).1

end Rig

open Rig

variable {Q R S T : Timeline Rig Happening → Timeline Rig Happening → Prop} [Patient Q] [Lenient R]
  [Hospitable S] [Tolerant T]

/-! ## Programs on this machine -/

namespace Child

theorem spawn_keeps (command : List String) (context : String) :
    (spawn command context).Keeps T := by
  refine (note_keeps _ Call.noConfusion).bind fun _ => countStart_keeps.bind fun _ => ?_
  split
  · exact Timed.keeps_state.bind fun _ => Timed.keeps_throw _
  · exact (launch_keeps _).bind fun _ => hold_keeps _ (fun _ => rfl) fun _ => rfl

theorem output_waits : output.Waits := by
  refine Timed.waits_state.bind fun _ => ?_
  dsimp only
  split
  · exact Timed.waits_throw _
  · split
    · exact Timed.waits_pure _
    · exact Timed.waits_throw _

theorem writeLine_keeps (line context : String) : (writeLine line context).Keeps Q := by
  refine Timed.keeps_state.bind fun _ => ?_
  dsimp only
  split
  · exact Timed.keeps_throw _
  · split
    · exact telling_keeps EquipmentKind.isPipe _ (writeTo_keeps _ _)
    · exact Timed.keeps_throw _

theorem awaitExit_keeps (id : ProgramId) (timeout : Int) : (awaitExit id timeout).Keeps Q :=
  (note_keeps _ Call.noConfusion).bind fun _ => await_keeps _ _

theorem quit_keeps (id : ProgramId) (script : ProgramScript) : (quit id script).Keeps Q := by
  unfold quit
  split
  · exact writeTo_keeps _ _
  · exact Timed.keeps_pure _

theorem terminate_keeps (id : ProgramId) (script : ProgramScript) :
    (terminate id script).Keeps R := by
  refine (Timed.keeps_update Lenient.signals).bind fun _ => ?_
  split
  · exact touch_keeps _ _ fun p => p.becomes_act _
  · exact Timed.keeps_pure _
  · exact Timed.keeps_throw _

theorem kill_keeps (id : ProgramId) : (kill id).Keeps Q :=
  (note_keeps _ Call.noConfusion).bind fun _ =>
    (touch_keeps _ _ fun p => p.becomes_act _).bind fun _ =>
    note_keeps _ Call.noConfusion

theorem endByForce_keeps (id : ProgramId) (script : ProgramScript) :
    (endByForce id script).Keeps R := by
  refine (terminate_keeps id script).bind fun _ => (awaitExit_keeps _ _).bind fun _ => ?_
  split
  · exact Timed.keeps_pure _
  · exact kill_keeps id

theorem closeStdin_keeps (script : ProgramScript) : (closeStdin script).Keeps Q := by
  unfold closeStdin
  split
  · exact (note_keeps _ Call.noConfusion).bind fun _ => failIf_keeps _ _
  · exact Timed.keeps_pure _

theorem closeStdout_keeps (id : ProgramId) (script : ProgramScript) :
    (closeStdout id script).Keeps Q := by
  unfold closeStdout
  split
  · exact (note_keeps _ Call.noConfusion).bind fun _ =>
      (touch_keeps _ _ fun p => p.becomes_act _).bind fun _ => failIf_keeps _ _
  · exact Timed.keeps_pure _

theorem release_keeps (id : ProgramId) (script : ProgramScript) (timeout : Int) :
    (release id script timeout).Keeps R := by
  have hclose : (do
      overlooking EquipmentKind.isPipe (closeStdin script)
      overlooking EquipmentKind.isPipe (closeStdout id script) : Act Unit).Keeps R :=
    (overlooking_keeps _ (closeStdin_keeps script)).bind fun _ =>
      overlooking_keeps _ (closeStdout_keeps id script)
  refine Timed.keeps_state.bind fun _ => ?_
  dsimp only
  split
  · refine (overlooking_keeps _ (quit_keeps id script)).bind fun _ =>
      (measure_keeps timeout).bind fun _ => (awaitExit_keeps id timeout).bind fun _ => ?_
    split
    · exact hclose
    · exact (overlooking_keeps _ (endByForce_keeps id script)).bind fun _ => hclose
  · exact hclose

/-- What stopping does once the program is out of the hand. -/
def letGo (r : Rig) (id : ProgramId) (timeout : Int) : Act Unit :=
  match r.program? id with
  | none => pure ()
  | some p => release id p.script timeout

theorem letGo_keeps (r : Rig) (id : ProgramId) (timeout : Int) : (letGo r id timeout).Keeps R := by
  unfold letGo
  split
  · exact Timed.keeps_pure _
  · exact release_keeps _ _ _

theorem stop_keeps (timeout : Int) : (stop timeout).Keeps T := by
  refine Timed.keeps_state.bind fun r => ?_
  split
  · exact Timed.keeps_pure _
  · refine Timed.Keeps.bind ?_ fun _ => letGo_keeps r _ timeout
    exact hold_keeps _ (fun _ => rfl) fun _ => rfl

theorem stop_of_none {t : Timeline Rig Happening} (timeout : Int)
    (h : t.state.holdings.child = none) : stop timeout t = .ok () t := by
  refine (Timed.state_bind _ t).trans ?_
  simp only [h]
  rfl

/-- Stopping takes the program out of the hand first. -/
theorem stop_of_some {t : Timeline Rig Happening} {id : ProgramId} (timeout : Int)
    (h : t.state.holdings.child = some id) :
    stop timeout t = letGo t.state id timeout { t with state.holdings.child := none } := by
  refine (Timed.state_bind _ t).trans ?_
  simp only [h]
  rfl

end Child

/-! ## Connections -/

namespace Connection

/-- Connecting comes down to waiting, but for the call and for the client that is taken. -/
theorem connect_keeps_by {P : Timeline Rig Happening → Timeline Rig Happening → Prop} [Steady P]
    (login : HostLogin) (context : String)
    (hasks : (note (.connect login.name login.password login.timeout)).Keeps P)
    (hlinks : ∀ t : Timeline Rig Happening, P t { t with
      state.surroundings.clients := t.state.surroundings.clients ++ [true]
      state.holdings.client := some t.state.surroundings.clients.length }) :
    (connect login context).Keeps P := by
  refine Timed.keeps_state.bind fun r => ?_
  split
  · exact Timed.keeps_pure _
  · refine Timed.keeps_now.bind fun began => hasks.bind fun _ => ?_
    split
    · have hfail (e : EquipmentError) : (do
          let elapsed := (← Timed.now) - began
          throw (connectFault login context elapsed r.surroundings.clock e) : Act Unit).Keeps P :=
        Timed.keeps_now.bind fun _ => Timed.keeps_throw _
      dsimp only
      split
      · exact (Timed.waits_sleep _).keeps.bind fun _ => hfail _
      · exact hfail _
    · exact Timed.keeps_update hlinks

theorem connect_keeps (login : HostLogin) (context : String) :
    (connect login context).Keeps T := by
  refine connect_keeps_by login context (note_keeps _ Call.noConfusion) fun t => ?_
  let u : Timeline Rig Happening :=
    { t with state.surroundings.clients := t.state.surroundings.clients ++ [true] }
  exact Steady.trans (Lenient.clients t _) (Tolerant.holds u
    (fun h => { h with client := some t.state.surroundings.clients.length })
    (fun _ => rfl) fun _ => rfl)

theorem openChannel_keeps (login : HostLogin) (context : String) :
    (openChannel login context).Keeps Q := by
  refine Timed.keeps_state.bind fun _ => ?_
  split
  · refine (note_keeps _ Call.noConfusion).bind fun _ => ?_
    split
    · exact Timed.keeps_throw _
    · exact Timed.keeps_pure _
  · exact Timed.keeps_throw _

theorem closeClient_keeps (id : ClientId) : (closeClient id).Keeps R := by
  refine (note_keeps _ Call.noConfusion).bind fun _ => Timed.Keeps.bind ?_ fun _ =>
    Timed.keeps_state.bind fun _ => failIf_keeps _ _
  exact Timed.keeps_update fun t => Lenient.clients t _

theorem disconnect_keeps : disconnect.Keeps R := by
  refine inHand_keeps.bind fun _ => ?_
  split
  · exact Timed.keeps_pure _
  · exact (overlooking_keeps _ (closeClient_keeps _)).bind fun _ =>
      Timed.keeps_update Lenient.client

end Connection

/-! ## Programs on another machine -/

namespace Remote

theorem exec_keeps (login : HostLogin) (command context : String) :
    (exec login command context).Keeps S := by
  refine (Connection.openChannel_keeps _ _).bind fun _ =>
    (note_keeps _ Call.noConfusion).bind fun _ => (note_keeps _ Call.noConfusion).bind fun _ =>
      Timed.keeps_state.bind fun _ => ?_
  split
  · exact Timed.keeps_throw _
  · exact countStart_keeps.bind fun _ => launch_keeps _

theorem spawn_keeps (login : HostLogin) (command context : String) :
    (spawn login command context).Keeps T := by
  refine (Connection.connect_keeps _ _).bind fun _ => Timed.Keeps.bind ?_ fun _ =>
    hold_keeps _ (fun _ => rfl) fun _ => rfl
  exact telling_keeps EquipmentKind.isShell _ (exec_keeps _ _ _)

theorem output_waits : output.Waits := by
  refine inHand_waits.bind fun _ => ?_
  split
  · exact Timed.waits_pure _
  · exact Timed.waits_throw _

theorem writeLine_keeps (login : HostLogin) (line context : String) :
    (writeLine login line context).Keeps Q := by
  refine Timed.keeps_state.bind fun _ => ?_
  dsimp only
  split
  · exact Timed.keeps_throw _
  · split
    · exact telling_keeps EquipmentKind.isChannel _ (writeTo_keeps _ _)
    · exact Timed.keeps_throw _

theorem poll_keeps (id : ProgramId) (n : Nat) : (poll id n).Keeps Q := by
  induction n with
  | zero => exact Timed.keeps_pure _
  | succ n ih =>
    refine Timed.keeps_state.bind fun _ => ?_
    split
    · exact (sleep_keeps _).bind fun _ => ih
    · exact Timed.keeps_pure _

theorem quit_keeps (id : ProgramId) (timeout : Int) : (quit id timeout).Keeps Q := by
  have hpoll : (do Timed.measure timeout; poll id (polls timeout) : Act Unit).Keeps Q :=
    (measure_keeps timeout).bind fun _ => poll_keeps _ _
  refine Timed.keeps_state.bind fun _ => ?_
  dsimp only
  split
  · exact (writeTo_keeps _ _).bind fun _ => hpoll
  · exact hpoll

theorem closeChannel_keeps (id : ProgramId) : (closeChannel id).Keeps Q :=
  (note_keeps _ Call.noConfusion).bind fun _ =>
    (touch_keeps _ _ fun p => p.becomes_act _).bind fun _ =>
    Timed.keeps_state.bind fun _ => failIf_keeps _ _

theorem release_keeps (id : ProgramId) : (release id).Keeps R :=
  (overlooking_keeps _ (closeChannel_keeps id)).bind fun _ =>
    (Timed.keeps_update Lenient.streams).bind fun _ => Connection.disconnect_keeps

/-- What stopping does once the program is out of the hand. -/
def letGo (id : ProgramId) (timeout : Int) : Act Unit := do
  let ending ← tryCatch (do quit id timeout; pure none) fun e => pure (some e)
  release id
  match ending with
  | none => pure ()
  | some (.equipment e) => if e.kind.isChannel then pure () else throw (.equipment e)
  | some e => throw e

theorem letGo_keeps (id : ProgramId) (timeout : Int) : (letGo id timeout).Keeps R := by
  refine Timed.Keeps.bind ?_ fun _ => (release_keeps _).bind fun _ => ?_
  · exact ((quit_keeps _ _).bind fun _ => Timed.keeps_pure _).tryCatch fun _ => Timed.keeps_pure _
  · split
    · exact Timed.keeps_pure _
    · split
      · exact Timed.keeps_pure _
      · exact Timed.keeps_throw _
    · exact Timed.keeps_throw _

theorem stop_keeps (timeout : Int) : (stop timeout).Keeps T := by
  refine inHand_keeps.bind fun _ => ?_
  split
  · exact Connection.disconnect_keeps
  · refine Timed.Keeps.bind ?_ fun _ => letGo_keeps _ timeout
    exact hold_keeps _ (fun _ => rfl) fun _ => rfl

theorem stop_of_none {t : Timeline Rig Happening} (timeout : Int)
    (h : t.state.holdings.channel = none) : stop timeout t = Connection.disconnect t := by
  refine (inHand_bind _ t).trans ?_
  simp only [h]

/-- Stopping takes the program out of the hand first. -/
theorem stop_of_some {t : Timeline Rig Happening} {id : ProgramId} (timeout : Int)
    (h : t.state.holdings.channel = some id) :
    stop timeout t = letGo id timeout { t with state.holdings.channel := none } := by
  refine (inHand_bind _ t).trans ?_
  simp only [h]
  rfl

end Remote

/-! ## Adapters -/

namespace Adapter

variable {P : Fault → Prop}

theorem prompt_failsOnly (actions : List ProgramAction) : (prompt actions).FailsOnly P := by
  refine Timed.failsOnly_state.bind fun _ => ?_
  split
  · exact Timed.failsOnly_pure _
  · exact Timed.failsOnly_now.bind fun _ => Timed.failsOnly_update _

theorem plan_failsOnly (events : List (Nat × List ProgramAction)) : (plan events).FailsOnly P := by
  refine Timed.failsOnly_state.bind fun _ => ?_
  split
  · exact Timed.failsOnly_pure _
  · exact Timed.failsOnly_schedule _

/-- Giving a program a line can only fail with a report of the surroundings. -/
theorem writeTo_failsOnly (h : ∀ e, P (.equipment e)) (id : ProgramId) (line : String) :
    (writeTo id line).FailsOnly P := by
  refine (Timed.failsOnly_update _).bind fun _ => Timed.failsOnly_state.bind fun _ => ?_
  split
  · exact Timed.failsOnly_pure _
  · refine FailsOnly.bind ?_ fun _ => FailsOnly.bind ?_ fun _ => Timed.failsOnly_schedule _
    · unfold failIf
      split
      · exact Timed.failsOnly_pure _
      · exact Timed.failsOnly_throw (h _)
    · exact Timed.failsOnly_now.bind fun _ => Timed.failsOnly_update _

theorem telling_failsOnly (h : ∀ e, P (.equipment e)) {told : EquipmentKind → Bool}
    {fault : EquipmentError → Fault} (hfault : ∀ e, P (fault e)) {step : Act Unit}
    (hstep : step.FailsOnly P) : (telling told fault step).FailsOnly P := by
  refine hstep.tryCatch fun e he => ?_
  split
  · split
    · exact Timed.failsOnly_throw (hfault _)
    · exact Timed.failsOnly_throw (h _)
  · exact Timed.failsOnly_throw he

theorem writeLine_failsOnly (hequipment : ∀ e, P (.equipment e)) (hsend : ∀ e, P (.send e))
    (hunsupported : P .unsupported) (a : Adapter) (line context : String) :
    (a.writeLine line context).FailsOnly P := by
  have htold (id : ProgramId) (told : EquipmentKind → Bool) (cause : EquipmentError → SendCause) :
      (telling told (fun e => .send ⟨context, line, cause e⟩)
        (writeTo id (line ++ "\n"))).FailsOnly P :=
    telling_failsOnly hequipment (fun _ => hsend _) (writeTo_failsOnly hequipment _ _)
  unfold writeLine
  split
  · exact Timed.failsOnly_throw hunsupported
  · refine Timed.failsOnly_state.bind fun _ => ?_
    dsimp only
    split
    · exact Timed.failsOnly_throw (hsend _)
    · split
      · exact htold _ EquipmentKind.isPipe fun e => .refused e.text
      · exact Timed.failsOnly_throw (hsend _)
  · rename_i login _
    refine Timed.failsOnly_state.bind fun _ => ?_
    dsimp only
    split
    · exact Timed.failsOnly_throw (hsend _)
    · split
      · exact htold _ EquipmentKind.isChannel fun e => .refusedOn login.hostname e.text
      · exact Timed.failsOnly_throw (hsend _)

theorem commandLine_keeps (a : Adapter) : a.commandLine.Keeps Q :=
  inHand_keeps.bind fun _ => Timed.keeps_lift _ _

theorem bind_keeps (logical : AddressSpec) (physical : PlaceSpec) :
    (bind logical physical).Keeps Q :=
  (Timed.keeps_lift _ _).bind fun _ =>
    (Timed.keeps_update fun t => Patient.role t _).bind fun _ =>
      (Timed.keeps_lift _ _).bind fun _ =>
        (Timed.keeps_update fun t => Patient.place t _).bind fun _ => Timed.keeps_pure _

theorem start_keeps (a : Adapter) (logical : AddressSpec) (physical : PlaceSpec)
    (context : String) : (a.start logical physical context).Keeps T := by
  unfold start
  split
  · exact Timed.keeps_throw _
  · refine inHand_keeps.bind fun _ => ?_
    dsimp only
    split
    · exact a.commandLine_keeps.bind fun _ => (Timed.keeps_throw _).bind fun _ =>
        (bind_keeps _ _).bind fun _ => (Timed.keeps_lift _ _).bind fun _ => Child.spawn_keeps _ _
    · exact (bind_keeps _ _).bind fun _ => (Timed.keeps_lift _ _).bind fun _ =>
        Child.spawn_keeps _ _
  · refine inHand_keeps.bind fun _ => ?_
    dsimp only
    split
    · exact (Timed.keeps_throw _).bind fun _ => (bind_keeps _ _).bind fun _ =>
        a.commandLine_keeps.bind fun _ => Remote.spawn_keeps _ _ _
    · exact (bind_keeps _ _).bind fun _ => a.commandLine_keeps.bind fun _ =>
        Remote.spawn_keeps _ _ _

theorem output_waits (a : Adapter) : a.output.Waits := by
  unfold output
  split
  · exact Timed.waits_throw _
  · exact Child.output_waits
  · exact Remote.output_waits

theorem writeLine_keeps (a : Adapter) (line context : String) :
    (a.writeLine line context).Keeps Q := by
  unfold writeLine
  split
  · exact Timed.keeps_throw _
  · exact Child.writeLine_keeps _ _
  · exact Remote.writeLine_keeps _ _ _

theorem readByHand_keeps (a : Adapter) : a.readByHand.Keeps Q := by
  refine a.output_waits.keeps.bind fun id => Timed.keeps_look fun t ho => ?_
  split
  · exact Timed.keeps_pure _ t ho
  · rename_i p hprogram
    refine ⟨ho.withState _, Patient.modify t id _ fun q hq => ?_⟩
    cases hprogram.symm.trans hq
    exact p.becomes_readByHand

theorem stop_keeps (a : Adapter) : a.stop.Keeps T := by
  unfold stop
  split
  · exact Timed.keeps_throw _
  · exact Child.stop_keeps _
  · exact Remote.stop_keeps _

/-! ## An adapter that was stopped -/

/-- The same programs are in hand. -/
structure SameGrip (t t' : Timeline Rig Happening) : Prop where
  child : t'.state.holdings.child = t.state.holdings.child
  channel : t'.state.holdings.channel = t.state.holdings.channel

instance : Lenient SameGrip where
  elapses _ h := by
    have hsame := congrArg Rig.holdings h.state
    rw [replay_holdings] at hsame
    exact ⟨congrArg Holdings.child hsame, congrArg Holdings.channel hsame⟩
  trans h h' := ⟨h'.child.trans h.child, h'.channel.trans h.channel⟩
  modify _ _ _ _ := ⟨rfl, rfl⟩
  settle t now := by
    have hsame := settle_holdings now t.state
    exact ⟨congrArg Holdings.child hsame, congrArg Holdings.channel hsame⟩
  schedule t events _ := by
    have hsame := Timeline.scheduleAll_state t events
    exact ⟨by rw [hsame], by rw [hsame]⟩
  asks _ _ _ := ⟨rfl, rfl⟩
  starts _ _ := ⟨rfl, rfl⟩
  role _ _ := ⟨rfl, rfl⟩
  place _ _ := ⟨rfl, rfl⟩
  signals _ := ⟨rfl, rfl⟩
  clients _ _ := ⟨rfl, rfl⟩
  client _ := ⟨rfl, rfl⟩
  streams _ := ⟨rfl, rfl⟩

variable {t : Timeline Rig Happening}

theorem child_stop_lets_go (timeout : Int) (ho : t.Ordered) :
    (behind (Child.stop timeout) t).state.holdings.child = none := by
  cases hchild : t.state.holdings.child with
  | none => rw [Timed.behind_of_ok (Child.stop_of_none timeout hchild), hchild]
  | some id =>
    obtain ⟨_, hgrip⟩ := Child.letGo_keeps (R := SameGrip) t.state id timeout
      { t with state.holdings.child := none } (ho.withState _)
    rw [behind, Child.stop_of_some timeout hchild]
    exact hgrip.child

theorem remote_stop_lets_go (timeout : Int) (ho : t.Ordered) :
    (behind (Remote.stop timeout) t).state.holdings.channel = none := by
  cases hchannel : t.state.holdings.channel with
  | none =>
    obtain ⟨_, hgrip⟩ := Connection.disconnect_keeps (R := SameGrip) t ho
    rw [behind, Remote.stop_of_none timeout hchannel]
    exact hgrip.channel.trans hchannel
  | some id =>
    obtain ⟨_, hgrip⟩ := Remote.letGo_keeps (R := SameGrip) id timeout
      { t with state.holdings.channel := none } (ho.withState _)
    rw [behind, Remote.stop_of_some timeout hchannel]
    exact hgrip.channel

/-- Nothing runs that the adapter has in hand. -/
def Idle (a : Adapter) (r : Rig) : Prop :=
  match a.carrier with
  | .none => True
  | .child => r.holdings.child = none
  | .host _ => r.holdings.channel = none

theorem Idle.isRunning {a : Adapter} {r : Rig} (h : a.Idle r) : a.isRunning r = false := by
  unfold Idle at h
  unfold Adapter.isRunning isRunning?
  cases hcarrier : a.carrier <;> rw [hcarrier] at h
  · rfl
  · simp [Child.isRunning, h]
  · simp [Remote.isRunning, h]

theorem Idle.of_grip {a : Adapter} {t' : Timeline Rig Happening} (h : a.Idle t.state)
    (hgrip : SameGrip t t') : a.Idle t'.state := by
  unfold Idle at h ⊢
  cases hcarrier : a.carrier <;> rw [hcarrier] at h
  · trivial
  · exact hgrip.child.trans h
  · exact hgrip.channel.trans h

/-- However the stop ends. -/
theorem stop_idle (a : Adapter) (ho : t.Ordered) : a.Idle (behind a.stop t).state := by
  unfold Idle Adapter.stop
  cases a.carrier
  · trivial
  · exact child_stop_lets_go _ ho
  · exact remote_stop_lets_go _ ho

end Adapter

end CecBench
