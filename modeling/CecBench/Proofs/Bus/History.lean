import CecBench.Bus.Tap
import CecBench.Proofs.Bus.Monitor
import CecBench.Proofs.Passage
import CecBench.Rig.Basic

/-!
# The bus log over time

A *view* of a state is the bus log in it, together with the fact that events
only add to that log.  There are three: a log by itself, the log of a tap, and
the log of the rig.

The agenda of a timeline fixes what the log will hold and when.  `arrivals` are
the frames still to come, each with its time, and `history` puts those before
them that are there already, with the time now.  So the place of a frame in
the history is its place in the log, whoever waits for it.

Time passing does not rewrite the history.  It only moves the time of what has
come up to now, and so from any place on that the log had not reached, the
history stays the same (`history_drop_passed`, `history_drop_event`).
-/

namespace CecBench

open Timeline (replay replay_append)

/-! ## The log of a monitor -/

namespace Monitor

theorem readLine_frames (m : Monitor) (now : Nat) (line : String) :
    m.log.frames <+: (m.readLine now line).log.frames := by
  cases h : m.codec.decode line with
  | ok f =>
    rw [readLine_of_ok now h]
    exact List.prefix_append _ _
  | error e => simp only [readLine_of_error now h, List.prefix_refl]

theorem readOn_frames (now : Nat) (ended : Bool) (chunks : List Chunk) (m : Monitor) :
    m.log.frames <+: (readOn now ended chunks m).1.log.frames := by
  induction chunks generalizing m with
  | nil => cases ended <;> exact List.prefix_refl _
  | cons chunk rest ih =>
    unfold readOn
    cases chunk.text? with
    | none => exact List.prefix_refl _
    | some text =>
      have hline := m.readLine_frames now (withoutLineEnd text)
      simp only
      split
      · exact hline
      · exact hline.trans (ih _)

theorem drain_frames (m : Monitor) (now : Nat) (s : Stream) :
    m.log.frames <+: (m.drain now s).1.log.frames := by
  unfold drain
  split
  · exact List.prefix_refl _
  · exact readOn_frames now s.ended s.pending m

end Monitor

/-! ## Views -/

/-- The bus log of a state, to which events only add. -/
structure LogView (σ ε : Type) [Unfolds σ ε] where
  /-- The log. -/
  log : σ → BusLog
  /-- No event takes a frame away or puts one before those that are there. -/
  grows : ∀ (time : Nat) (e : ε) (s : σ),
    (log s).frames <+: (log (Unfolds.unfold time e s)).frames

/-- A log by itself. -/
def BusLog.view : LogView BusLog Frame where
  log := id
  grows := fun _ _ _ => List.prefix_append _ _

/-- The log of the monitor on a stream. -/
def Tap.view : LogView Tap StreamEvent where
  log := Tap.log
  grows := fun time _ tap => tap.monitor.drain_frames time _

theorem Rig.settle_frames (now : Nat) (r : Rig) : r.log.frames <+: (r.settle now).log.frames := by
  unfold Rig.settle
  cases hr : r.reader with
  | none => exact List.prefix_refl _
  | some reader =>
    simp only
    cases r.program? reader.program with
    | none => exact List.prefix_refl _
    | some p =>
      have h := reader.monitor.drain_frames now p.output
      simpa [Rig.log, hr] using h

/-- The log of the rig. -/
def Rig.view : LogView Rig Happening where
  log := Rig.log
  grows := fun time h r => (r.modifyProgram h.program fun p => p.actAll h.actions).settle_frames time

namespace LogView

variable {σ ε : Type} [Unfolds σ ε] (v : LogView σ ε)

/-! ## Frames to come -/

/-- The frames that events add to the log, each with the time at which it comes. -/
def arrivals : List (Nat × ε) → σ → List (Nat × Frame)
  | [], _ => []
  | (time, e) :: rest, s =>
    let next := Unfolds.unfold time e s
    ((v.log next).since (v.log s).size).map (time, ·) ++ arrivals rest next

/-- All frames that are in the log or will come, each with the time from which on it is there,
where now stands for any time before. -/
def history (t : Timeline σ ε) : List (Nat × Frame) :=
  (v.log t.state).frames.map (t.now, ·) ++ v.arrivals t.agenda t.state

/-- An event keeps the log and adds to it what is new. -/
theorem frames_unfold (time : Nat) (e : ε) (s : σ) :
    (v.log (Unfolds.unfold time e s)).frames =
      (v.log s).frames ++ (v.log (Unfolds.unfold time e s)).since (v.log s).size := by
  obtain ⟨news, h⟩ := v.grows time e s
  rw [BusLog.since, ← h, BusLog.size, List.drop_left]

theorem arrivals_append (past rest : List (Nat × ε)) (s : σ) :
    v.arrivals (past ++ rest) s = v.arrivals past s ++ v.arrivals rest (replay past s) := by
  induction past generalizing s with
  | nil => rfl
  | cons x past ih =>
    simp only [List.cons_append, arrivals, ih, List.append_assoc]
    rfl

/-- The log after some events is the log before them with what has arrived. -/
theorem frames_replay (past : List (Nat × ε)) (s : σ) :
    (v.log (replay past s)).frames = (v.log s).frames ++ (v.arrivals past s).map Prod.snd := by
  induction past generalizing s with
  | nil => simp [arrivals]
  | cons x past ih =>
    rw [Timeline.replay_cons, ih, v.frames_unfold x.1 x.2 s]
    simp [arrivals, Function.comp_def]

/-- A frame comes at the time of an event. -/
theorem exists_of_mem_arrivals {agenda : List (Nat × ε)} {s : σ} {x : Nat × Frame}
    (hx : x ∈ v.arrivals agenda s) : ∃ y ∈ agenda, y.1 = x.1 := by
  induction agenda generalizing s with
  | nil => cases hx
  | cons y rest ih =>
    rcases List.mem_append.mp hx with hx | hx
    · obtain ⟨f, _, rfl⟩ := List.mem_map.mp hx
      exact ⟨y, List.mem_cons_self .., rfl⟩
    · obtain ⟨z, hz, heq⟩ := ih hx
      exact ⟨z, List.mem_cons_of_mem _ hz, heq⟩

/-! ## The history and the passage of time -/

theorem drop_append_congr {α : Type} {xs ys zs : List α} {k : Nat} (h : xs.length = ys.length)
    (hk : xs.length ≤ k) : (xs ++ zs).drop k = (ys ++ zs).drop k := by
  have hk' : ys.length ≤ k := h ▸ hk
  rw [List.drop_append, List.drop_append, List.drop_eq_nil_of_le hk,
    List.drop_eq_nil_of_le hk', h]

/-- What happens does not change the history beyond the log that comes of it. -/
theorem history_drop_passed {t : Timeline σ ε} {past rest : List (Nat × ε)}
    (h : t.agenda = past ++ rest) (now k : Nat) (hk : (v.log (replay past t.state)).size ≤ k) :
    (v.history ⟨now, rest, replay past t.state⟩).drop k = (v.history t).drop k := by
  have hlen := congrArg List.length (v.frames_replay past t.state)
  simp only [List.length_append, List.length_map] at hlen
  simp only [history, h, arrivals_append, ← List.append_assoc]
  apply drop_append_congr
  · simp [hlen]
  · simpa [BusLog.size] using hk

/-- An event at its own time does not change the history beyond the log that it finds. -/
theorem history_drop_event (now time k : Nat) (e : ε) (rest : List (Nat × ε)) (s : σ)
    (hk : (v.log s).size ≤ k) :
    (v.history ⟨time, rest, Unfolds.unfold time e s⟩).drop k =
      (v.history ⟨now, (time, e) :: rest, s⟩).drop k := by
  simp only [history, arrivals]
  rw [v.frames_unfold time e s, List.map_append, List.append_assoc]
  apply drop_append_congr
  · simp
  · simpa [BusLog.size] using hk

/-- A place in the history that the log has reached holds the frame of the log. -/
theorem frames_getElem?_of_history {t : Timeline σ ε} {i : Nat} {x : Nat × Frame}
    (hi : i < (v.log t.state).size) (hx : (v.history t)[i]? = some x) :
    (v.log t.state).frames[i]? = some x.2 ∧ x.1 = t.now := by
  rw [history, List.getElem?_append_left (by simpa [BusLog.size] using hi), List.getElem?_map,
    Option.map_eq_some_iff] at hx
  obtain ⟨f, hf, rfl⟩ := hx
  exact ⟨hf, rfl⟩

/-- A place in the history that the log has not reached holds a frame to come. -/
theorem mem_arrivals_of_history {t : Timeline σ ε} {i : Nat} {x : Nat × Frame}
    (hi : (v.log t.state).size ≤ i) (hx : (v.history t)[i]? = some x) :
    x ∈ v.arrivals t.agenda t.state := by
  rw [history, List.getElem?_append_right (by simpa [BusLog.size] using hi)] at hx
  exact List.mem_of_getElem? hx

end LogView

end CecBench
