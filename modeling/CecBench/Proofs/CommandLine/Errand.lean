import CecBench.Proofs.Clock
import CecBench.Proofs.CommandLine.Within
import CecBench.Proofs.Frame.Draft

/-!
# Errands

A request other than a listing is an errand: it makes a session, does some work
in it, and reports what came of the work.  `carry` is what the three errands have
in common, and `PerformEnds` lists how one of them ends: no session is made, the
session or the work fails, or the work is done.  In each case there is a report,
and behind it the session that was made is over.

A session is made if the request asks for one that there can be, and it is the one
that the request asks for (`session_eq_ok_iff`).  The exit code is zero if and
only if the work was done, and otherwise there is a fault of which the notes tell
(`PerformEnds.blames`).  A wait that was too short is told with the tenths of a
second that the clock shows (`Told`).
-/

namespace CecBench.CommandLine.Request

open Timed (behind)
open Rig (Act Spared)

variable {α : Type} {s : Session} {t t' b : Timeline Rig Happening} {now : Nat} {w : Surroundings}

/-! ## The session of a request -/

section

variable {defaults : Defaults} {r : Request} {observer : Option Observer}

/-- The adapter program runs where the request asks for it. -/
inductive RunsAt (defaults : Defaults) (r : Request) : Carrier → Prop
  | here : r.choice.isRemote = false → RunsAt defaults r .child
  /-- The other machine has to have a name. -/
  | there : r.choice.isRemote = true → defaults.hostname ≠ "" →
    RunsAt defaults r (.host
      { hostname := defaults.hostname, username := defaults.username, password := defaults.password })

/-- The adapter is as the request asks for it. -/
structure FitsAdapter (defaults : Defaults) (r : Request) (a : Adapter) : Prop where
  /-- Of the settings the port is given apart, and there has to be such a port. -/
  settings : ∃ port, r.choice.port = some port ∧ 0 < port ∧ port ≤ 15 ∧
    a.settings = { r.choice.settings with hdmiPort := port }
  codec : a.codec = .usual
  carrier : RunsAt defaults r a.carrier

/-- The session is as the request asks for it, with someone who is told of frames or no one. -/
structure Fits (defaults : Defaults) (r : Request) (observer : Option Observer) (s : Session) :
    Prop where
  role : r.choice.logical = some s.logical
  place : ∃ text, r.choice.physical = some text ∧ PhysicalAddress.parse text = .ok s.physical
  adapter : FitsAdapter defaults r s.adapter
  codec : s.codec = s.adapter.codec
  readyTimeout : s.readyTimeout = defaults.readyTimeout
  observer : s.observer = observer

theorem present_eq_ok_iff {α : Type} {what : Withdrawn} {x : Option α} {a : α} :
    present what x = .ok a ↔ x = some a := by
  cases x <;> simp [present]

theorem configured_eq_ok_iff {hostname username password : String} {login : HostLogin} :
    HostLogin.configured hostname username password = .ok login ↔
      hostname ≠ "" ∧ login = { hostname, username, password } := by
  unfold HostLogin.configured
  by_cases hname : hostname = ""
  · simp [hname]
  · simp [hname, eq_comm (a := login)]

theorem carrier_eq_ok_iff {c : Carrier} : r.carrier defaults = .ok c ↔ RunsAt defaults r c := by
  unfold carrier
  split
  · rename_i hremote
    simp only [map_eq_pure_bind, except_bind_eq_ok, configured_eq_ok_iff]
    constructor
    · rintro ⟨login, ⟨hname, rfl⟩, hc⟩
      cases hc
      exact .there hremote hname
    · intro h
      cases h with
      | here hlocal => cases hremote.symm.trans hlocal
      | there _ hname => exact ⟨_, ⟨hname, rfl⟩, rfl⟩
  · rename_i hlocal
    constructor
    · intro h
      cases h
      exact .here (Bool.eq_false_iff.mpr hlocal)
    · intro h
      cases h with
      | here => rfl
      | there hremote => exact absurd hremote hlocal

theorem check_eq_ok_iff {a b : AdapterSettings} :
    a.check = .ok b ↔ 0 < a.hdmiPort ∧ a.hdmiPort ≤ 15 ∧ b = a := by
  unfold AdapterSettings.check
  split <;> simp_all [eq_comm]

theorem adapter_eq_ok_iff {a : Adapter} :
    r.adapter defaults = .ok a ↔ FitsAdapter defaults r a := by
  simp only [adapter, except_bind_eq_ok, mapError_eq_ok, present_eq_ok_iff, carrier_eq_ok_iff,
    check_eq_ok_iff]
  constructor
  · rintro ⟨c, hc, port, hport, _, ⟨hlow, hhigh, rfl⟩, ha⟩
    cases ha
    exact ⟨⟨port, hport, hlow, hhigh, rfl⟩, rfl, hc⟩
  · rintro ⟨⟨port, hport, hlow, hhigh, hsettings⟩, hcodec, hc⟩
    refine ⟨_, hc, port, hport, _, ⟨hlow, hhigh, rfl⟩, ?_⟩
    rw [← hsettings, ← hcodec]
    rfl

/-- A session is made if there is one as the request asks for it, and it is this one. -/
theorem session_eq_ok_iff : r.session defaults observer = .ok s ↔ Fits defaults r observer s := by
  simp only [session, Session.build, except_bind_eq_ok, mapError_eq_ok, present_eq_ok_iff,
    adapter_eq_ok_iff]
  constructor
  · rintro ⟨a, ha, logical, hlogical, text, htext, role, hrole, place, hplace, hs⟩
    cases hrole
    cases hs
    exact ⟨hlogical, ⟨text, htext, hplace⟩, ha, rfl, rfl, rfl⟩
  · rintro ⟨hlogical, ⟨text, htext, hplace⟩, ha, hcodec, htimeout, hobserver⟩
    refine ⟨_, ha, _, hlogical, text, htext, _, rfl, _, hplace, ?_⟩
    have hgiven : (none : Option Codec).getD s.adapter.codec = s.codec := hcodec.symm
    rw [hgiven, ← htimeout, ← hobserver]
    rfl

end

/-! ## Errands -/

/-- Who is told of frames. -/
def observer (r : Request) : Option Observer :=
  match r.task with
  | .monitor _ => some fun _ => .ok ()
  | _ => none

/-- Does some work in the session of the request, and reports what came of it. -/
def carry (defaults : Defaults) (r : Request) (work : Session → Act α) (tell : α → Report) :
    Act Report := do
  let s ← Timed.lift id (r.session defaults r.observer)
  return tell (← within s (work s))

/-- Doing what the request asks for is to carry out some work.  The work leaves a session as it is, and
it is reported with the exit code zero once it is done. -/
structure Errand (defaults : Defaults) (r : Request) (work : Session → Act α) (tell : α → Report) :
    Prop where
  carries : r.carryOut defaults = carry defaults r work tell
  spares : ∀ s, (work s).Keeps Spared
  informs : ∀ s, (work s).Keeps s.StaysInformed
  succeeds : ∀ s b a u, work s b = .ok a u → (tell a).exitCode = 0

/-- The session of the request is made, and it begins. -/
structure Begins (defaults : Defaults) (r : Request) (t : Timeline Rig Happening) (s : Session)
    (b : Timeline Rig Happening) : Prop where
  fits : r.Fits defaults r.observer s
  begun : s.begin "" t = .ok () b

theorem Begins.made {defaults : Defaults} {r : Request} (h : r.Begins defaults t s b) :
    r.session defaults r.observer = .ok s := session_eq_ok_iff.mpr h.fits

theorem Begins.unique {defaults : Defaults} {r : Request} {s' : Session}
    {b' : Timeline Rig Happening} (h : r.Begins defaults t s b) (h' : r.Begins defaults t s' b') :
    s = s' ∧ b = b' := by
  cases h.made.symm.trans h'.made
  cases h.begun.symm.trans h'.begun
  exact ⟨rfl, rfl⟩

/-- The observer was told of the frames in the log, and of no others. -/
theorem watched_of_informed {r : Rig} (h : s.Informed r) :
    watched r = if s.observer.isSome then (Rig.log r).frames else [] := by
  unfold watched
  cases hreader : r.reader with
  | none => simp [Rig.log, hreader]
  | some reader =>
    obtain ⟨readings, hknows⟩ := h reader hreader
    cases hobserver : s.observer with
    | none => simp [hknows.reports, hobserver]
    | some tell =>
      simp [hknows.reports, hknows.frames, hobserver, Rig.log, hreader, Function.comp_def]

/-- What is printed of the bus: if someone is told of frames, those in the log. -/
def shown (r : Request) (rig : Rig) : String :=
  String.join ((if r.observer.isSome then (Rig.log rig).frames else []).map frameLine)

/-- A report of what came of some work, with what is printed of the bus. -/
def shownWith (r : Request) (rig : Rig) (report : Report) : Report :=
  { report with output := r.shown rig ++ report.output }

theorem shownWith_of_silent {r : Request} {rig : Rig} (h : r.shown rig = "") (report : Report) :
    r.shownWith rig report = report := by
  rw [shownWith, h, String.empty_append]

/-! ## What is told of a fault -/

/-- What is told of a fault by a clock. -/
inductive Told (c : Clock) : Fault → String → Prop
  /-- The time of a wait that was too short is told in tenths of a second. -/
  | late {r : TimeoutReport} {n : Nat} : c.Tells r.elapsed n →
    Told c (.notSeen r) (Report.line
      s!"Timed out after {n / 10}.{n % 10}s ({r.observed} frame(s) observed)")
  | other {e : Fault} : (∀ r, e ≠ .notSeen r) → Told c e (Report.line s!"Error: {e.message}")

theorem ofFault_told (c : Clock) (e : Fault) : Told c e (Report.ofFault c e).notes := by
  cases e with
  | notSeen r =>
    have htold := Told.late (r := r) (Clock.tells_iff.mpr rfl : c.Tells r.elapsed _)
    simpa only [Report.ofFault, Clock.seconds, Text.tenths, toString, String.append_assoc] using htold
  | _ => exact .other fun _ h => Fault.noConfusion h

/-- A quarter of a second is told by a clock that runs on while one looks, and by one that stands. -/
example :
    let late : Fault := .notSeen ⟨"", 250, "STANDBY", 0, 0, 250, []⟩
    (Report.ofFault .ofMachine late).notes = "Timed out after 0.3s (0 frame(s) observed)\n" ∧
      (Report.ofFault { runsOn := false } late).notes =
        "Timed out after 0.2s (0 frame(s) observed)\n" := by
  decide

theorem ofFault_output (c : Clock) (e : Fault) : (Report.ofFault c e).output = "" := by
  cases e <;> rfl

theorem ofFault_exitCode (c : Clock) (e : Fault) : (Report.ofFault c e).exitCode = 1 := by
  cases e <;> rfl

/-! ## How an errand ends -/

/-- How an errand ends. -/
inductive PerformEnds (defaults : Defaults) (r : Request) (work : Session → Act α)
    (tell : α → Report) (t : Timeline Rig Happening) : Report → Timeline Rig Happening → Prop
  /-- Without a session, nothing happens. -/
  | unmade {e : Fault} :
    r.session defaults r.observer = .error e →
    PerformEnds defaults r work tell t (Report.ofFault t.state.surroundings.clock e) t
  | failed {e : Fault} {s : Session} {t' : Timeline Rig Happening} :
    r.session defaults r.observer = .ok s → within s (work s) t = .error e t' →
    PerformEnds defaults r work tell t
      (r.shownWith t'.state (Report.ofFault t.state.surroundings.clock e)) t'
  | done {s : Session} {b : Timeline Rig Happening} {a : α} {u : Timeline Rig Happening} :
    r.Begins defaults t s b → work s b = .ok a u →
    PerformEnds defaults r work tell t
      (r.shownWith (behind s.finish u).state (tell a)) (behind s.finish u)

theorem perform_of_ok {defaults : Defaults} {r : Request} {report : Report}
    (h : r.carryOut defaults t = .ok report t') : r.perform defaults t =
      .ok { report with
        output := String.join ((watched t'.state).map frameLine) ++ report.output } t' := by
  rw [perform, Timed.state_bind]
  exact Timed.bind_of_ok (Timed.tryCatch_of_ok h)

theorem perform_of_error {defaults : Defaults} {r : Request} {e : Fault}
    (h : r.carryOut defaults t = .error e t') : r.perform defaults t =
      let report := Report.ofFault t.state.surroundings.clock e
      .ok { report with
        output := String.join ((watched t'.state).map frameLine) ++ report.output } t' := by
  rw [perform, Timed.state_bind]
  exact Timed.bind_of_ok (Timed.tryCatch_of_error h)

/-- An errand always ends with a report. -/
theorem Errand.perform_ends {defaults : Defaults} {r : Request} {work : Session → Act α}
    {tell : α → Report} (he : Errand defaults r work tell) (now : Nat) (w : Surroundings) :
    ∃ report t', r.perform defaults (fresh now w) = .ok report t' ∧
      PerformEnds defaults r work tell (fresh now w) report t' := by
  cases hmade : r.session defaults r.observer with
  | error e =>
    have herror : r.carryOut defaults (fresh now w) = .error e (fresh now w) := by
      rw [he.carries, carry, hmade]
      rfl
    refine ⟨_, _, perform_of_error herror, ?_⟩
    have hnothing (printed : String) :
        String.join ((watched (fresh now w).state).map frameLine) ++ printed = printed :=
      String.empty_append
    rw [hnothing]
    exact .unmade hmade
  | ok s =>
    have hcarried : r.carryOut defaults (fresh now w) =
        (within s (work s) >>= fun a => pure (tell a)) (fresh now w) := by
      rw [he.carries, carry, hmade]
      rfl
    have hinformed : s.Informed (behind (within s (work s)) (fresh now w)).state :=
      (within_keeps s.confines_informed (he.informs s) _ (fresh_ordered now w)).2
        (Session.informed_of_none rfl)
    have hshown := watched_of_informed hinformed
    rw [(session_eq_ok_iff.mp hmade).observer] at hshown
    have hends := within_ends s (work s) (fresh now w)
    cases hwithin : within s (work s) (fresh now w) with
    | error e t' =>
      rw [Timed.bind_of_error hwithin] at hcarried
      rw [Timed.behind_of_error hwithin] at hshown
      refine ⟨_, _, perform_of_error hcarried, ?_⟩
      rw [hshown]
      exact .failed hmade hwithin
    | ok a t' =>
      rw [Timed.bind_of_ok hwithin] at hcarried
      rw [Timed.behind_of_ok hwithin] at hshown
      refine ⟨_, _, perform_of_ok hcarried, ?_⟩
      rw [hshown]
      rw [hwithin] at hends
      cases hends with
      | done hbegin hdone => exact .done ⟨session_eq_ok_iff.mp hmade, hbegin⟩ hdone

/-- The errand comes to a fault: no session is made, or it does not begin, or the work in it fails. -/
inductive Fails (defaults : Defaults) (r : Request) (work : Session → Act α)
    (t : Timeline Rig Happening) : Fault → Prop
  | unmade {e : Fault} : r.session defaults r.observer = .error e → Fails defaults r work t e
  | refused {e : Fault} {s : Session} {b : Timeline Rig Happening} :
    r.Fits defaults r.observer s → s.begin "" t = .error e b → Fails defaults r work t e
  | failed {e : Fault} {s : Session} {b u : Timeline Rig Happening} :
    r.Begins defaults t s b → work s b = .error e u → Fails defaults r work t e

section

variable {defaults : Defaults} {r : Request} {work : Session → Act α} {tell : α → Report}
  {report : Report}

namespace PerformEnds

variable (h : PerformEnds defaults r work tell t report t')
include h

/-- Where the work is done, there is one end. -/
theorem of_done {a : α} {u : Timeline Rig Happening} (hbegins : r.Begins defaults t s b)
    (hdone : work s b = .ok a u) :
    report = r.shownWith (behind s.finish u).state (tell a) ∧ t' = behind s.finish u := by
  cases h with
  | unmade hunmade => cases hbegins.made.symm.trans hunmade
  | failed hmade hfailed =>
    cases hbegins.made.symm.trans hmade
    cases (within_of_done hbegins.begun hdone).symm.trans hfailed
  | done hbegins' hdone' =>
    obtain ⟨rfl, rfl⟩ := hbegins.unique hbegins'
    cases hdone.symm.trans hdone'
    exact ⟨rfl, rfl⟩

/-- The exit code tells whether the work was done. -/
theorem exitCode_eq_zero_iff (he : Errand defaults r work tell) :
    report.exitCode = 0 ↔ ∃ s b a u, r.Begins defaults t s b ∧ work s b = .ok a u := by
  constructor
  · intro hzero
    cases h with
    | unmade =>
      rw [ofFault_exitCode] at hzero
      cases hzero
    | failed =>
      rw [shownWith, ofFault_exitCode] at hzero
      cases hzero
    | done hbegins hdone => exact ⟨_, _, _, _, hbegins, hdone⟩
  · rintro ⟨s, b, a, u, hbegins, hdone⟩
    rw [(h.of_done hbegins hdone).1]
    exact he.succeeds _ _ _ _ hdone

/-- What is left is what the work in the session leaves, if a session is made. -/
theorem leaves : (t' = t ∧ ∃ e, r.session defaults r.observer = .error e) ∨
    ∃ s, r.session defaults r.observer = .ok s ∧ t' = behind (within s (work s)) t := by
  cases h with
  | unmade hunmade => exact .inl ⟨rfl, _, hunmade⟩
  | failed hmade hfailed => exact .inr ⟨_, hmade, (Timed.behind_of_error hfailed).symm⟩
  | done hbegins hdone =>
    have hwithin := within_of_done hbegins.begun hdone
    exact .inr ⟨_, hbegins.made, (Timed.behind_of_ok hwithin).symm⟩

theorem exitCode_cases (he : Errand defaults r work tell) :
    report.exitCode = 0 ∨ report.exitCode = 1 := by
  cases h with
  | unmade => exact .inr (ofFault_exitCode _ _)
  | failed => exact .inr (ofFault_exitCode _ _)
  | done _ hdone => exact .inl (he.succeeds _ _ _ _ hdone)

/-- Unless the work was done, there is a fault, of which the notes tell by the clock. -/
theorem blames (he : Errand defaults r work tell) (hfailed : report.exitCode ≠ 0) :
    ∃ e, Fails defaults r work t e ∧ Told t.state.surroundings.clock e report.notes := by
  cases h with
  | @unmade e hunmade => exact ⟨e, .unmade hunmade, ofFault_told _ e⟩
  | @failed e s t' hmade hwithin =>
    refine ⟨e, ?_, ofFault_told _ e⟩
    have hends := within_ends s (work s) t
    rw [hwithin] at hends
    cases hends with
    | refused hbegin => exact .refused (session_eq_ok_iff.mp hmade) hbegin
    | failed hbegin hwork => exact .failed ⟨session_eq_ok_iff.mp hmade, hbegin⟩ hwork
  | done _ hdone => exact absurd (he.succeeds _ _ _ _ hdone) hfailed

end PerformEnds

/-- Unless the work was done, nothing is printed but the bus. -/
theorem PerformEnds.output_of_failed
    (h : PerformEnds defaults r work tell (fresh now w) report t')
    (he : Errand defaults r work tell) (hfailed : report.exitCode ≠ 0) :
    report.output = r.shown t'.state := by
  cases h with
  | unmade =>
    have hnothing : r.shown (fresh now w).state = "" := by
      rw [shown]
      split <;> rfl
    rw [ofFault_output, hnothing]
  | failed =>
    rw [shownWith, ofFault_output]
    exact String.append_empty
  | done _ hdone => exact absurd (he.succeeds _ _ _ _ hdone) hfailed

/-- Behind an errand, the session that was made for it is over. -/
theorem PerformEnds.isOver (h : PerformEnds defaults r work tell (fresh now w) report t')
    (he : Errand defaults r work tell) (hfits : r.Fits defaults r.observer s) :
    IsOver s t'.state := by
  have hmade := session_eq_ok_iff.mpr hfits
  rcases h.leaves with ⟨_, _, hunmade⟩ | ⟨_, hmade', rfl⟩
  · cases hmade.symm.trans hunmade
  · cases hmade.symm.trans hmade'
    exact within_cleans_up s (he.spares s) now w

end

end CecBench.CommandLine.Request
