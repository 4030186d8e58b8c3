import CecBench.CommandLine.Report
import CecBench.Proofs.Session.Beginning
import CecBench.Proofs.Session.Cursors

/-!
# Work in a session

A task on the command line is done in a session that is begun for it and ended
behind it.  `WithinEnds` lists the three ways in which that goes: the session is
refused, or the work is done, or the work fails, and in the last two the session
is finished before anything is told.  Whatever confines the session and holds of
the work holds of all of it (`within_keeps`), and in each of the three ways the
session is over at the end, with its adapter not running (`within_cleans_up`).
-/

namespace CecBench.CommandLine.Request

open Timed (Keeps Steady behind)
open Rig (Act Spared)
open Session (Runs inPhase)

variable {α : Type} {s : Session} {work : Act α} {t b : Timeline Rig Happening}

/-! ## Three ways -/

theorem within_of_refused {e : Fault} (h : s.begin "" t = .error e b) :
    within s work t = .error e b := Timed.bind_of_error h

theorem within_of_done {a : α} {u : Timeline Rig Happening} (hbegin : s.begin "" t = .ok () b)
    (hdone : work b = .ok a u) : within s work t = .ok a (behind s.finish u) := by
  have hwithin : within s work t = (tryFinally work s.finish : Act α) b := Timed.bind_of_ok hbegin
  rw [hwithin]
  simp only [tryFinally, tryFinally', Functor.map, EStateM.map, hdone, s.finish_succeeds u]

theorem within_of_failed {e : Fault} {u : Timeline Rig Happening}
    (hbegin : s.begin "" t = .ok () b) (hfailed : work b = .error e u) :
    within s work t = .error e (behind s.finish u) := by
  have hwithin : within s work t = (tryFinally work s.finish : Act α) b := Timed.bind_of_ok hbegin
  rw [hwithin]
  simp only [tryFinally, tryFinally', Functor.map, EStateM.map, hfailed, s.finish_succeeds u]

/-- How work in a session ends. -/
inductive WithinEnds (s : Session) (work : Act α) (t : Timeline Rig Happening) :
    EStateM.Result Fault (Timeline Rig Happening) α → Prop
  /-- The session does not begin. -/
  | refused {e : Fault} {b : Timeline Rig Happening} :
    s.begin "" t = .error e b → WithinEnds s work t (.error e b)
  | done {a : α} {b u : Timeline Rig Happening} :
    s.begin "" t = .ok () b → work b = .ok a u → WithinEnds s work t (.ok a (behind s.finish u))
  /-- The session ends all the same. -/
  | failed {e : Fault} {b u : Timeline Rig Happening} :
    s.begin "" t = .ok () b → work b = .error e u →
    WithinEnds s work t (.error e (behind s.finish u))

theorem within_ends (s : Session) (work : Act α) (t : Timeline Rig Happening) :
    WithinEnds s work t (within s work t) := by
  cases hbegin : s.begin "" t with
  | error e b => exact within_of_refused hbegin ▸ .refused hbegin
  | ok _ b =>
    cases hwork : work b with
    | ok a u => exact within_of_done hbegin hwork ▸ .done hbegin hwork
    | error e u => exact within_of_failed hbegin hwork ▸ .failed hbegin hwork

/-- Behind the work, whatever came of it, the session is finished. -/
theorem behind_within (h : s.begin "" t = .ok () b) :
    behind (within s work) t = behind s.finish (behind work b) := by
  cases hwork : work b with
  | ok a u =>
    rw [Timed.behind_of_ok (within_of_done h hwork), Timed.behind_of_ok hwork]
  | error e u =>
    rw [Timed.behind_of_error (within_of_failed h hwork), Timed.behind_of_error hwork]

theorem within_keeps {R : Timeline Rig Happening → Timeline Rig Happening → Prop} [Steady R]
    (h : s.Confines R) (hwork : work.Keeps R) : (within s work).Keeps R := by
  intro t ho
  obtain ⟨hob, hbegun⟩ := h.begins "" t ho
  cases hbegin : s.begin "" t with
  | error e b =>
    rw [Timed.behind_of_error hbegin] at hob hbegun
    rw [Timed.behind_of_error (within_of_refused hbegin)]
    exact ⟨hob, hbegun⟩
  | ok _ b =>
    rw [Timed.behind_of_ok hbegin] at hob hbegun
    obtain ⟨hou, hworked⟩ := hwork b hob
    obtain ⟨ho', hfinished⟩ := h.finishes _ hou
    rw [behind_within hbegin]
    exact ⟨ho', Steady.trans hbegun (Steady.trans hworked hfinished)⟩

/-! ## Cleaning up -/

/-- The timeline before the tool does anything. -/
def fresh (now : Nat) (w : Surroundings) : Timeline Rig Happening :=
  { now, state := { surroundings := w } }

variable {now : Nat} {w : Surroundings}

theorem fresh_ordered (now : Nat) (w : Surroundings) : (fresh now w).Ordered :=
  Timeline.ordered_idle now _

theorem fresh_placed (now : Nat) (w : Surroundings) : Rig.Placed (fresh now w) :=
  fun _ hx => absurd hx List.not_mem_nil

/-- A session that has begun runs. -/
theorem runs_of_begin (h : s.begin "" (fresh now w) = .ok () b) : Runs b := by
  have hsound : Session.Sound (fresh now w) :=
    Session.sound_new (fresh_ordered now w) rfl rfl
  obtain ⟨hb, _⟩ := Session.Step.advances s s.startAdapter_spares (.begin "") hsound
  rw [Session.Step.actBy_startAdapter] at hb
  have hbehind : behind (s.begin "") (fresh now w) = b := Timed.behind_of_ok h
  obtain ⟨b', hok, hbegun⟩ | ⟨e, b', herror, _⟩ :=
    s.begin_all_or_nothing "" (fresh_ordered now w) (fresh_placed now w) rfl
  · cases h.symm.trans hok
    exact ⟨hbehind ▸ hb, hbegun.phase⟩
  · cases h.symm.trans herror

/-- The session is over, and its adapter is not running. -/
structure IsOver (s : Session) (r : Rig) : Prop where
  phase : r.holdings.phase = .terminated
  stopped : s.adapter.isRunning r = false

/-- A session that runs is over once it is finished. -/
theorem isOver_finish (h : Runs t) : IsOver s (behind s.finish t).state := by
  have hfinish := s.finish_apply t
  rw [if_neg fun hover => Phase.noConfusion (h.phase.symm.trans hover.1)] at hfinish
  rw [Timed.behind_of_ok hfinish]
  have hidle : s.adapter.Idle (inPhase .terminated (behind s.clearAway t)).state :=
    (s.clearAway_idle h.sound.ordered).of_grip ⟨rfl, rfl⟩
  exact ⟨rfl, hidle.isRunning⟩

/-- However the work ends, and also if there is none, the session is over behind it. -/
theorem within_cleans_up (s : Session) (hwork : work.Keeps Spared) (now : Nat)
    (w : Surroundings) : IsOver s (behind (within s work) (fresh now w)).state := by
  obtain ⟨b, hbegin, _⟩ | ⟨e, b, hbegin, hfailed⟩ :=
    s.begin_all_or_nothing "" (fresh_ordered now w) (fresh_placed now w) rfl
  · have hruns := runs_of_begin hbegin
    obtain ⟨hou, hspared⟩ := hwork b hruns.sound.ordered
    rw [behind_within hbegin]
    exact isOver_finish (hruns.of_spared hou hspared)
  · rw [Timed.behind_of_error (within_of_refused hbegin)]
    exact ⟨hfailed.phase, hfailed.stopped⟩

end CecBench.CommandLine.Request
