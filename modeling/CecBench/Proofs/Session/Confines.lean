import CecBench.Proofs.Adapter.Run
import CecBench.Proofs.Bus.Monitor
import CecBench.Proofs.Session.Lifecycle

/-!
# What a session stays within

Of its own a session starts and stops its adapter, puts up a monitor and tells it
to stop, and changes what it has in hand.  Everything else that it does to begin
and to end is waiting.  So a steady relation that covers these few things
`Confines` the session: beginning and ending it stay within the relation,
whichever way they end.

The observer of a session is the first example.  `Session.Informed` says that the
monitor knows what one knows that has read some lines, and a session stays within
it from before there is a monitor until after it has stopped.  The clock is the
second one: nothing that a session does sets another (`confines_clock`).
-/

namespace CecBench

open Timed (Keeps Steady behind)
open Rig (Act Tolerant hold inHand)
open Timeline (replay)

namespace Session

variable {s : Session} {t t' : Timeline Rig Happening}
  {R T : Timeline Rig Happening → Timeline Rig Happening → Prop} [Tolerant T]

/-! ## Beginning and ending -/

/-- The relation covers all that the session does of its own to end. -/
structure ConfinesEnd (R : Timeline Rig Happening → Timeline Rig Happening → Prop) (s : Session) :
    Prop where
  stops : s.adapter.stop.Keeps R
  holds : ∀ (t : Timeline Rig Happening) (f : Holdings → Holdings),
    R t { t with state.holdings := f t.state.holdings }
  stopsReading : ∀ t : Timeline Rig Happening, R t { t with state := stopReading t.state }

/-- The relation covers all that the session does of its own, to begin and to end. -/
structure Confines (R : Timeline Rig Happening → Timeline Rig Happening → Prop) (s : Session) :
    Prop extends ConfinesEnd R s where
  starts : ∀ context, (s.startAdapter context).Keeps R
  attaches : ∀ (t : Timeline Rig Happening) (program : ProgramId), R t (s.attach program t)

/-- A tolerant relation covers the adapter's part. -/
theorem Confines.of_tolerant (s : Session)
    (holds : ∀ (t : Timeline Rig Happening) (f : Holdings → Holdings),
      T t { t with state.holdings := f t.state.holdings })
    (stopsReading : ∀ t : Timeline Rig Happening, T t { t with state := stopReading t.state })
    (attaches : ∀ (t : Timeline Rig Happening) (program : ProgramId), T t (s.attach program t)) :
    s.Confines T where
  stops := s.adapter.stop_keeps
  holds := holds
  stopsReading := stopsReading
  starts context := s.adapter.start_keeps _ _ context
  attaches := attaches

theorem ConfinesEnd.hold (h : s.ConfinesEnd R) (f : Holdings → Holdings) : (Rig.hold f).Keeps R :=
  Timed.keeps_update fun t => h.holds t f

theorem Confines.attachMonitor (h : s.Confines R) (program : ProgramId) :
    (s.attachMonitor program).Keeps R := by
  intro t ho
  rw [Timed.behind_of_ok (s.attachMonitor_apply program t)]
  exact ⟨ho.withState _, h.attaches t program⟩

variable [Steady R]

theorem ConfinesEnd.clearAway (h : s.ConfinesEnd R) : s.clearAway.Keeps R := by
  have hstop : s.stopAnyway.Keeps R := h.stops.tryCatch fun _ => Timed.keeps_pure _
  exact hstop.bind fun _ => Rig.inHand_waits.keeps.bind fun hand => (h.hold _).bind fun _ =>
    closeIf_keeps h.stopsReading hand.holdsMonitor

theorem ConfinesEnd.finishes (h : s.ConfinesEnd R) : s.finish.Keeps R := by
  refine Rig.inHand_waits.keeps.bind fun _ => ?_
  split
  · exact Timed.keeps_pure _
  · exact h.clearAway.bind fun _ => h.hold _

theorem Confines.attempt (h : s.Confines R) (context : String) :
    (s.attempt s.startAdapter context).Keeps R :=
  (h.starts context).bind fun _ => s.adapter.output_waits.keeps.bind fun program =>
    (h.attachMonitor program).bind fun _ => (s.awaitReadiness_waits context).keeps

theorem Confines.begins (h : s.Confines R) (context : String) : (s.begin context).Keeps R := by
  have hrescue (e : Fault) : (do
      s.clearAway
      Rig.hold fun h => { h with phase := .terminated }
      throw e : Act Unit).Keeps R :=
    h.clearAway.bind fun _ => (h.hold _).bind fun _ => Timed.keeps_throw _
  refine Rig.inHand_waits.keeps.bind fun _ => ?_
  dsimp only
  split
  · exact ((h.attempt _).tryCatch hrescue).bind fun _ => h.hold _
  · exact (Timed.keeps_throw _).bind fun _ => ((h.attempt _).tryCatch hrescue).bind fun _ =>
      h.hold _

/-! ## The log -/

/-- The log has lost nothing. -/
def LogGrows (t t' : Timeline Rig Happening) : Prop :=
  (Rig.log t.state).frames <+: (Rig.log t'.state).frames

instance : Steady LogGrows where
  elapses _ h := by
    rw [LogGrows, h.state]
    exact (Rig.replay_spares _ _).log
  trans h h' := List.IsPrefix.trans h h'

/-- To begin, a session takes a new log, but it ends with the one that it has. -/
theorem confinesEnd_log (s : Session) : s.ConfinesEnd LogGrows where
  stops := (s.adapter.stop_keeps (T := Rig.Spared)).mono Rig.Spares.log
  holds _ _ := List.prefix_refl _
  stopsReading t := (stopReading_spares t).log

/-! ## What the observer is told -/

/-- If there is a monitor, it reads for the session, and it knows what one knows that has read some
lines. -/
def Informed (s : Session) (r : Rig) : Prop :=
  ∀ reader, r.reader = some reader → ∃ readings,
    Monitor.Knows s.codec Monitor.usualTailSize s.observer readings reader.monitor

theorem informed_of_none {r : Rig} (h : r.reader = none) : s.Informed r :=
  fun _ hreader => by cases h.symm.trans hreader

theorem Informed.of_reader {r r' : Rig} (h : s.Informed r) (hreader : r'.reader = r.reader) :
    s.Informed r' := fun reader h' => h reader (hreader ▸ h')

theorem Informed.settle {r : Rig} (h : s.Informed r) (now : Nat) : s.Informed (r.settle now) := by
  cases hreader : r.reader with
  | none =>
    rw [Rig.settle, hreader]
    exact h
  | some reader =>
    obtain ⟨readings, hknows⟩ := h reader hreader
    cases hprogram : r.program? reader.program with
    | none =>
      simp only [Rig.settle, hreader, hprogram]
      exact h
    | some p =>
      obtain ⟨more, hmore⟩ := hknows.drain now p.output
      simp only [Rig.settle, hreader, hprogram]
      rintro _ ⟨⟩
      exact ⟨readings ++ more, hmore⟩

theorem Informed.replay {r : Rig} (h : s.Informed r) (past : List (Nat × Happening)) :
    s.Informed (replay past r) := by
  induction past generalizing r with
  | nil => exact h
  | cons x past ih =>
    have hmodified : s.Informed (r.modifyProgram x.2.program fun p => p.actAll x.2.actions) :=
      h.of_reader rfl
    exact ih (hmodified.settle x.1)

theorem Informed.stopReading {r : Rig} (h : s.Informed r) : s.Informed (stopReading r) := by
  intro reader hreader
  obtain ⟨reader', hreader', rfl⟩ := Option.map_eq_some_iff.mp hreader
  obtain ⟨readings, hknows⟩ := h reader' hreader'
  exact ⟨readings, hknows.stop⟩

theorem informed_attached (s : Session) (program : ProgramId) (r : Rig) :
    s.Informed (s.attached program r) := by
  rintro _ ⟨⟩
  exact ⟨[], .start _ _ _⟩

def StaysInformed (s : Session) (t t' : Timeline Rig Happening) : Prop :=
  s.Informed t.state → s.Informed t'.state

theorem StaysInformed.of_reader {r : Rig} (h : r.reader = t.state.reader) :
    s.StaysInformed t { t with state := r } := fun hinformed => hinformed.of_reader h

instance (s : Session) : Tolerant s.StaysInformed where
  elapses _ h hinformed := by
    rw [h.state]
    exact hinformed.replay _
  trans h h' hinformed := h' (h hinformed)
  modify _ _ _ _ := .of_reader rfl
  settle _ now hinformed := hinformed.settle now
  schedule _ _ _ hinformed := by
    rw [Timeline.scheduleAll_state]
    exact hinformed
  asks _ _ _ := .of_reader rfl
  starts _ _ := .of_reader rfl
  role _ _ := .of_reader rfl
  place _ _ := .of_reader rfl
  signals _ := .of_reader rfl
  clients _ _ := .of_reader rfl
  client _ := .of_reader rfl
  streams _ := .of_reader rfl
  holds _ _ _ _ := .of_reader rfl
  launch _ _ hinformed := by
    rw [Rig.launched_state]
    exact hinformed.of_reader rfl

theorem confines_informed (s : Session) : s.Confines s.StaysInformed :=
  .of_tolerant s (fun _ _ => .of_reader rfl) (fun _ hinformed => hinformed.stopReading)
    fun t program _ => (s.informed_attached program t.state).settle t.now

/-! ## The clock -/

/-- The clock is the same at both ends. -/
def SameClock (t t' : Timeline Rig Happening) : Prop :=
  t'.state.surroundings.clock = t.state.surroundings.clock

instance : Tolerant SameClock where
  elapses _ h := by rw [SameClock, h.state, Rig.replay_surroundings]
  trans h h' := h'.trans h
  modify _ _ _ _ := rfl
  settle t now := by rw [SameClock, Rig.settle_surroundings]
  schedule _ _ _ := by rw [SameClock, Timeline.scheduleAll_state]
  asks _ _ _ := rfl
  starts _ _ := rfl
  role _ _ := rfl
  place _ _ := rfl
  signals _ := rfl
  clients _ _ := rfl
  client _ := rfl
  streams _ := rfl
  holds _ _ _ _ := rfl
  launch _ _ := by rw [SameClock, Rig.launched_state]

theorem confines_clock (s : Session) : s.Confines SameClock :=
  .of_tolerant s (fun _ _ => rfl) (fun _ => rfl) fun t program => by
    have hclock := congrArg Surroundings.clock
      (Rig.settle_surroundings t.now (s.attached program t.state))
    exact hclock

end Session

end CecBench
