import CecBench.Proofs.CommandLine.Errand
import CecBench.Proofs.Session.Opcodes
import CecBench.Proofs.Session.Orders

/-!
# What a report is worth

A report is to be trusted.  That its exit code is zero means that the session
began and the work was done, and otherwise the notes tell of the fault.  What is
printed is what the work came to, and while the bus is shown, the bus log as it is
in the end (`perform_tells_truly`).

The bus is shown for any time that can be measured, but not for a negative one by
a clock that refuses that.  A frame that is waited for bears the opcode that was
asked for, and the sender if one was given (`Asked`).  The first such frame is
printed, and it is not missed if it comes in time.
-/

namespace CecBench.CommandLine.Request

open Timed (behind)
open Rig (Act Spared OrdersNothing)
open Session (Runs)

variable {s : Session} {t t' b : Timeline Rig Happening} {now : Nat} {w : Surroundings}

/-! ## Letting time pass -/

theorem letPass_waits (d : Int) : (Rig.letPass d).Waits := by
  refine Timed.waits_state.bind fun _ => ?_
  split
  · exact (Timed.waits_throw _).bind fun _ => Timed.waits_sleep d
  · exact Timed.waits_sleep d

/-- The clock lets the time pass. -/
def Passes (c : Clock) (d : Int) : Prop := d < 0 → c.refusesNegative = false

theorem letPass_of_passes {d : Int} (h : Passes t.state.surroundings.clock d) :
    Rig.letPass d t = .ok () (behind (Timed.sleep d) t) := by
  have hcond : ¬ (decide (d < 0) && t.state.surroundings.clock.refusesNegative) = true := by
    simpa [Passes] using h
  rw [Rig.letPass, Timed.state_bind, if_neg hcond]
  rfl

theorem passes_of_letPass {d : Int} (h : Rig.letPass d t = .ok () t') :
    Passes t.state.surroundings.clock d := by
  intro hd
  cases hrefuses : t.state.surroundings.clock.refusesNegative with
  | false => rfl
  | true =>
    rw [Rig.letPass, Timed.state_bind, if_pos (by simp [hd, hrefuses])] at h
    cases h

/-! ## Showing the bus -/

/-- What is done in a session to show the bus: time passes, and then the frames and the malformed ones
are counted. -/
def watch (duration : Option Int) (s : Session) : Act (Nat × Nat) := do
  let duration ← Timed.lift id (present .duration duration)
  Timed.measure duration
  Rig.letPass duration
  let frames := (← s.snapshot).length
  return (frames, (← s.monitor).malformed)

/-- The report of the counts. -/
def summary (counts : Nat × Nat) : Report :=
  { notes := Report.line s!"{counts.1} frame(s), {counts.2} malformed line(s)" }

theorem watch_waits (duration : Option Int) (s : Session) : (watch duration s).Waits :=
  (Timed.waits_lift _ _).bind fun _ => (Timed.waits_measure _).bind fun _ =>
    (letPass_waits _).bind fun _ =>
      ((s.runningMonitor_waits _ _).bind fun _ => Timed.waits_pure _).bind fun _ =>
        (s.runningMonitor_waits _ _).bind fun _ => Timed.waits_pure _

theorem monitor_errand (defaults : Defaults) (choice : AdapterChoice) (duration : Option Int) :
    Errand defaults ⟨choice, .monitor duration⟩ (watch duration) summary where
  carries := rfl
  spares s := (watch_waits duration s).keeps
  informs s := (watch_waits duration s).keeps
  succeeds _ _ _ _ _ := rfl

/-- What is counted is what the monitor has when the time is over. -/
theorem watch_apply (s : Session) (h : Runs b) {d : Int} (hm : isMeasurable d = true)
    (hpasses : Passes b.state.surroundings.clock d) :
    ∃ reader, (behind (Timed.sleep d) b).state.reader = some reader ∧
      watch (some d) s b =
        .ok (reader.monitor.log.size, reader.monitor.malformed) (behind (Timed.sleep d) b) := by
  obtain ⟨hou, hspared⟩ := (Timed.waits_sleep d).keeps (R := Spared) b h.sound.ordered
  have hu : Runs (behind (Timed.sleep d) b) := h.of_spared hou hspared
  obtain ⟨reader, hreader⟩ := Option.isSome_iff_exists.mp (hu.sound.reads hu.phase)
  refine ⟨reader, hreader, ?_⟩
  have hmeasure : Timed.measure d b = .ok () b := by
    rw [Timed.measure_of_measurable hm]
    rfl
  have hmonitor : s.monitor (behind (Timed.sleep d) b) = .ok reader.monitor _ :=
    s.runningMonitor_serves _ _ hu.phase (hu.sound.held.mpr hu.phase) hreader
  have hlog : (Rig.log (behind (Timed.sleep d) b).state).frames = reader.monitor.log.frames := by
    rw [Rig.log, hreader]
    rfl
  have hpresent : Timed.lift id (present .duration (some d)) b = .ok d b := rfl
  rw [watch, Timed.bind_of_ok hpresent, Timed.bind_of_ok hmeasure,
    Timed.bind_of_ok (letPass_of_passes hpasses), Timed.bind_of_ok (s.snapshot_apply hu),
    Timed.bind_of_ok hmonitor, hlog]
  rfl

/-- Time that is withdrawn or too long is not waited for, nor time that the clock does not let pass. -/
theorem watch_eq_ok {duration : Option Int} {counts : Nat × Nat} {u : Timeline Rig Happening}
    (h : watch duration s b = .ok counts u) :
    ∃ d, duration = some d ∧ isMeasurable d = true ∧ Passes b.state.surroundings.clock d := by
  obtain ⟨d, _, hpresent, h⟩ := Timed.bind_eq_ok h
  obtain ⟨hpresent, rfl⟩ := Timed.lift_eq_ok hpresent
  obtain ⟨_, _, hmeasure, h⟩ := Timed.bind_eq_ok h
  obtain ⟨_, _, hpass, _⟩ := Timed.bind_eq_ok h
  cases duration with
  | none => cases hpresent
  | some d' =>
    cases hpresent
    cases hm : isMeasurable d with
    | true =>
      rw [Timed.measure_of_measurable hm] at hmeasure
      cases hmeasure
      exact ⟨d, rfl, hm, passes_of_letPass hpass⟩
    | false =>
      rw [Timed.measure_of_immeasurable hm] at hmeasure
      cases hmeasure

/-- The clock is still the one that it was before the session began. -/
theorem clock_of_begin (h : s.begin "" (fresh now w) = .ok () b) :
    b.state.surroundings.clock = w.clock := by
  have hclock := (s.confines_clock.begins "" _ (fresh_ordered now w)).2
  rwa [Timed.behind_of_ok h] at hclock

/-- What the report of showing the bus tells. -/
structure MonitorTells (defaults : Defaults) (r : Request) (duration : Option Int)
    (t : Timeline Rig Happening) (report : Report) (t' : Timeline Rig Happening) : Prop where
  /-- A session that begins is watched for any time that makes sense. -/
  succeeds : report.exitCode = 0 ↔ ∃ s b d, r.Begins defaults t s b ∧ duration = some d ∧
    isMeasurable d = true ∧ Passes t.state.surroundings.clock d
  /-- The frames in the log, in order, are printed, however it ends. -/
  prints : report.output = String.join ((Rig.log t'.state).frames.map frameLine)
  /-- The counts are those of the moment when the time is over.  The session ends then, and what is in
  the log behind the counted frames came while it did. -/
  counts : report.exitCode = 0 → ∃ s b d, r.Begins defaults t s b ∧ duration = some d ∧
    let u := behind (Timed.sleep d) b
    u.now = b.now + d.toNat ∧ s.finish u = .ok () t' ∧ ∃ reader, u.state.reader = some reader ∧
      reader.monitor.log.frames <+: (Rig.log t'.state).frames ∧
      report.notes = Report.line
        s!"{reader.monitor.log.size} frame(s), {reader.monitor.malformed} malformed line(s)"
  blames : report.exitCode ≠ 0 → ∃ e, Fails defaults r (watch duration) t e ∧
    Told t.state.surroundings.clock e report.notes

theorem monitor_tells {defaults : Defaults} {choice : AdapterChoice} {duration : Option Int}
    {report : Report}
    (h : PerformEnds defaults ⟨choice, .monitor duration⟩ (watch duration) summary (fresh now w)
      report t') :
    MonitorTells defaults ⟨choice, .monitor duration⟩ duration (fresh now w) report t' := by
  have he := monitor_errand defaults choice duration
  refine ⟨?_, ?_, fun hzero => ?_, h.blames he⟩
  · rw [h.exitCode_eq_zero_iff he]
    constructor
    · rintro ⟨s, b, counts, u, hbegins, hdone⟩
      obtain ⟨d, hd, hm, hpasses⟩ := watch_eq_ok hdone
      rw [clock_of_begin hbegins.begun] at hpasses
      exact ⟨s, b, d, hbegins, hd, hm, hpasses⟩
    · rintro ⟨s, b, d, hbegins, rfl, hm, hpasses⟩
      have hclock := clock_of_begin hbegins.begun
      obtain ⟨reader, _, happly⟩ :=
        watch_apply s (runs_of_begin hbegins.begun) hm (hclock.symm ▸ hpasses)
      exact ⟨s, b, _, _, hbegins, happly⟩
  · by_cases hzero : report.exitCode = 0
    · obtain ⟨s, b, counts, u, hbegins, hdone⟩ := (h.exitCode_eq_zero_iff he).mp hzero
      obtain ⟨rfl, rfl⟩ := h.of_done hbegins hdone
      exact String.append_empty
    · exact h.output_of_failed he hzero
  · obtain ⟨s, b, counts, u, hbegins, hdone⟩ := (h.exitCode_eq_zero_iff he).mp hzero
    obtain ⟨rfl, rfl⟩ := h.of_done hbegins hdone
    obtain ⟨d, rfl, hm, hpasses⟩ := watch_eq_ok hdone
    obtain ⟨reader, hreader, happly⟩ := watch_apply s (runs_of_begin hbegins.begun) hm hpasses
    cases hdone.symm.trans happly
    have hslept := (Timed.waits_sleep d).keeps (R := Spared) b
      (runs_of_begin hbegins.begun).sound.ordered
    have hgrows : Session.LogGrows _ _ := (s.confinesEnd_log.finishes _ hslept.1).2
    rw [Session.LogGrows, Rig.log, hreader] at hgrows
    exact ⟨s, b, d, hbegins, rfl, Timed.sleep_now d b, s.finish_succeeds _, reader, hreader,
      hgrows, rfl⟩

/-! ## Sending a frame -/

/-- What is done in a session to send a frame. -/
def transmit (text : String) (s : Session) : Act Report := do
  let f ← Timed.lift .decode (Frame.parse text)
  s.send f s!"CLI send {text}"
  return { output := Report.line s!"Sent {f.text}" }

theorem transmit_keeps {Q : Timeline Rig Happening → Timeline Rig Happening → Prop} [Rig.Patient Q]
    (text : String) (s : Session) : (transmit text s).Keeps Q :=
  (Timed.keeps_lift _ _).bind fun f => (s.send_keeps f _).bind fun _ => Timed.keeps_pure _

theorem transmit_eq_ok {text : String} {report : Report} {u : Timeline Rig Happening}
    (h : transmit text s b = .ok report u) : ∃ f, Frame.parse text = .ok f ∧
      s.send f s!"CLI send {text}" b = .ok () u ∧
      report = { output := Report.line s!"Sent {f.text}" } := by
  obtain ⟨f, _, hlift, h⟩ := Timed.bind_eq_ok h
  obtain ⟨hparse, rfl⟩ := Timed.lift_eq_ok hlift
  obtain ⟨_, _, hsend, h⟩ := Timed.bind_eq_ok h
  cases h
  exact ⟨f, hparse, hsend, rfl⟩

theorem transmit_of_send {text : String} {f : Frame} {u : Timeline Rig Happening}
    (hparse : Frame.parse text = .ok f) (hsend : s.send f s!"CLI send {text}" b = .ok () u) :
    transmit text s b = .ok { output := Report.line s!"Sent {f.text}" } u := by
  rw [transmit, hparse]
  exact Timed.bind_of_ok hsend

theorem send_errand (defaults : Defaults) (choice : AdapterChoice) (text : String) :
    Errand defaults ⟨choice, .send text⟩ (transmit text) id where
  carries := by
    simp only [carry, id_eq, bind_pure]
    rfl
  spares s := transmit_keeps text s
  informs s := transmit_keeps text s
  succeeds _ _ _ _ h := by
    obtain ⟨_, _, _, rfl⟩ := transmit_eq_ok h
    rfl

/-- The orders that a text makes: the frame that it is, or none. -/
def MakesOrders (text : String) (orders : List String) : Prop :=
  orders = [] ∨ ∃ f, Frame.parse text = .ok f ∧ orders = [f.transmission]

theorem transmit_orders (text : String) (s : Session) (h : Runs b) : ∃ orders,
    MakesOrders text orders ∧
      (behind (transmit text s) b).state.orders = b.state.orders ++ orders := by
  cases hparse : Frame.parse text with
  | error e =>
    have hfails : transmit text s b = .error (.decode e) b := by
      rw [transmit, hparse]
      rfl
    exact ⟨[], .inl rfl, by rw [Timed.behind_of_error hfails, List.append_nil]⟩
  | ok f =>
    have hsends : transmit text s b = (do
        s.send f s!"CLI send {text}"
        return { output := Report.line s!"Sent {f.text}" } : Act Report) b := by
      rw [transmit, hparse]
      rfl
    have hbehind : behind (transmit text s) b = behind (s.send f s!"CLI send {text}") b := by
      rw [behind, hsends]
      exact Timed.behind_bind_pure _ _ b
    rw [hbehind]
    rcases s.send_orders h f s!"CLI send {text}" with ⟨e, herror⟩ | horders
    · exact ⟨[], .inl rfl, by rw [Timed.behind_of_error herror, List.append_nil]⟩
    · exact ⟨[f.transmission], .inr ⟨f, hparse, rfl⟩, horders⟩

/-- No part of a session gives orders, so the orders are those of the work in it. -/
theorem orders_of_work {u : Timeline Rig Happening} {orders : List String}
    (hbegin : s.begin "" (fresh now w) = .ok () b) (hou : u.Ordered)
    (horders : u.state.orders = b.state.orders ++ orders) :
    (behind s.finish u).state.orders = (fresh now w).state.orders ++ orders := by
  have hbegins : OrdersNothing (fresh now w) (behind (s.begin "") (fresh now w)) :=
    (s.confines_orders.begins "" _ (fresh_ordered now w)).2
  have hfinishes : OrdersNothing u (behind s.finish u) := (s.confines_orders.finishes u hou).2
  rw [Timed.behind_of_ok hbegin, OrdersNothing] at hbegins
  rw [hfinishes, horders, hbegins]

theorem within_transmit_orders (text : String) (s : Session) (now : Nat) (w : Surroundings) :
    ∃ orders, MakesOrders text orders ∧
      (behind (within s (transmit text s)) (fresh now w)).state.orders =
        (fresh now w).state.orders ++ orders := by
  cases hbegin : s.begin "" (fresh now w) with
  | error e b =>
    have hbegins : OrdersNothing (fresh now w) (behind (s.begin "") (fresh now w)) :=
      (s.confines_orders.begins "" _ (fresh_ordered now w)).2
    rw [Timed.behind_of_error hbegin] at hbegins
    rw [Timed.behind_of_error (within_of_refused hbegin)]
    exact ⟨[], .inl rfl, hbegins.trans (List.append_nil _).symm⟩
  | ok _ b =>
    have hruns := runs_of_begin hbegin
    obtain ⟨orders, hmakes, horders⟩ := transmit_orders text s hruns
    have hou := (transmit_keeps (Q := Spared) text s b hruns.sound.ordered).1
    rw [behind_within hbegin]
    exact ⟨orders, hmakes, orders_of_work hbegin hou horders⟩

/-- The session of the request begins, the text is the frame, and the frame is sent. -/
def Sends (defaults : Defaults) (r : Request) (text : String) (t : Timeline Rig Happening)
    (f : Frame) : Prop :=
  ∃ s b u, r.Begins defaults t s b ∧ Frame.parse text = .ok f ∧
    s.send f s!"CLI send {text}" b = .ok () u

/-- What the report of sending a frame tells. -/
structure SendTells (defaults : Defaults) (r : Request) (text : String)
    (t : Timeline Rig Happening) (report : Report) (t' : Timeline Rig Happening) : Prop where
  succeeds : report.exitCode = 0 ↔ ∃ f, Sends defaults r text t f
  prints : ∀ f, Sends defaults r text t f → report = { output := Report.line s!"Sent {f.text}" } ∧
    t'.state.orders = t.state.orders ++ [f.transmission]
  /-- At most one order is given, and only if the text is a frame. -/
  orders : ∃ orders, MakesOrders text orders ∧ t'.state.orders = t.state.orders ++ orders
  blames : report.exitCode ≠ 0 → report.output = "" ∧
    ∃ e, Fails defaults r (transmit text) t e ∧ Told t.state.surroundings.clock e report.notes

theorem send_tells {defaults : Defaults} {choice : AdapterChoice} {text : String} {report : Report}
    (h : PerformEnds defaults ⟨choice, .send text⟩ (transmit text) id (fresh now w) report t') :
    SendTells defaults ⟨choice, .send text⟩ text (fresh now w) report t' := by
  have he := send_errand defaults choice text
  have hnothing (rig : Rig) : shown ⟨choice, .send text⟩ rig = "" := rfl
  refine ⟨?_, ?_, ?_, fun hfailed => ⟨?_, h.blames he hfailed⟩⟩
  · rw [h.exitCode_eq_zero_iff he]
    constructor
    · rintro ⟨s, b, _, u, hbegins, hdone⟩
      obtain ⟨f, hparse, hsend, _⟩ := transmit_eq_ok hdone
      exact ⟨f, s, b, u, hbegins, hparse, hsend⟩
    · rintro ⟨f, s, b, u, hbegins, hparse, hsend⟩
      exact ⟨s, b, _, u, hbegins, transmit_of_send hparse hsend⟩
  · rintro f ⟨s, b, u, hbegins, hparse, hsend⟩
    obtain ⟨rfl, rfl⟩ := h.of_done hbegins (transmit_of_send hparse hsend)
    have hruns := runs_of_begin hbegins.begun
    have hou := (s.send_keeps (Q := Spared) f s!"CLI send {text}" b hruns.sound.ordered).1
    rw [Timed.behind_of_ok hsend] at hou
    refine ⟨shownWith_of_silent (hnothing _) _, orders_of_work hbegins.begun hou ?_⟩
    rcases s.send_orders hruns f s!"CLI send {text}" with ⟨e, herror⟩ | horders
    · cases hsend.symm.trans herror
    · rwa [Timed.behind_of_ok hsend] at horders
  · rcases h.leaves with ⟨rfl, _⟩ | ⟨s, _, rfl⟩
    · exact ⟨[], .inl rfl, (List.append_nil _).symm⟩
    · exact within_transmit_orders text s now w
  · rw [h.output_of_failed he hfailed, hnothing]

/-! ## Waiting for a frame -/

/-- What is done in a session to wait for a frame. -/
def lookOut (opcode : OpcodeSpec) (source : Option (Option LogicalAddress))
    (timeout : Option Int) (s : Session) : Act Report := do
  let source ← Timed.lift id (source.mapM (present .sender))
  let timeout ← Timed.lift id (present .timeout timeout)
  let check : Session.OpcodeCheck := { opcode, source := source.map .named }
  let f ← s.checkOpcode check timeout none s!"CLI expect {opcode.text}"
  return { output := Report.line f.text }

theorem lookOut_waits (opcode : OpcodeSpec) (source : Option (Option LogicalAddress))
    (timeout : Option Int) (s : Session) : (lookOut opcode source timeout s).Waits :=
  (Timed.waits_lift _ _).bind fun _ => (Timed.waits_lift _ _).bind fun _ =>
    (s.checkFrame_waits _ _ _ _ _).bind fun _ => Timed.waits_pure _

/-- The senders that are present are those that were given. -/
theorem mapM_present_iff {source : Option (Option LogicalAddress)}
    {sender : Option LogicalAddress} :
    source.mapM (present .sender) = .ok sender ↔ source = sender.map some := by
  constructor
  · intro h
    cases source with
    | none =>
      cases h
      rfl
    | some given =>
      cases given with
      | none => cases h
      | some a =>
        cases h
        rfl
  · rintro rfl
    cases sender <;> rfl

theorem lookOut_eq_ok {opcode : OpcodeSpec} {source : Option (Option LogicalAddress)}
    {timeout : Option Int} {report : Report} {u : Timeline Rig Happening}
    (h : lookOut opcode source timeout s b = .ok report u) :
    ∃ sender d f, source = Option.map some sender ∧ timeout = some d ∧
      s.checkOpcode { opcode, source := sender.map .named } d none s!"CLI expect {opcode.text}" b =
        .ok f u ∧ report = { output := Report.line f.text } := by
  obtain ⟨sender, _, hlift, h⟩ := Timed.bind_eq_ok h
  obtain ⟨hsender, rfl⟩ := Timed.lift_eq_ok hlift
  obtain ⟨d, _, hlift, h⟩ := Timed.bind_eq_ok h
  obtain ⟨hpresent, rfl⟩ := Timed.lift_eq_ok hlift
  obtain ⟨f, _, hcheck, h⟩ := Timed.bind_eq_ok h
  cases h
  cases timeout with
  | none => cases hpresent
  | some d' =>
    cases hpresent
    exact ⟨sender, d, f, mapM_present_iff.mp hsender, rfl, hcheck, rfl⟩

theorem lookOut_of_check {opcode : OpcodeSpec} {sender : Option LogicalAddress} {d : Int} {f : Frame}
    {u : Timeline Rig Happening} (hcheck : s.checkOpcode { opcode, source := sender.map .named } d
      none s!"CLI expect {opcode.text}" b = .ok f u) :
    lookOut opcode (sender.map some) (some d) s b = .ok { output := Report.line f.text } u := by
  rw [lookOut, mapM_present_iff.mpr rfl]
  exact Timed.bind_of_ok hcheck

theorem expect_errand (defaults : Defaults) (choice : AdapterChoice) (opcode : OpcodeSpec)
    (source : Option (Option LogicalAddress)) (timeout : Option Int) :
    Errand defaults ⟨choice, .expect opcode source timeout⟩ (lookOut opcode source timeout) id where
  carries := by
    simp only [carry, id_eq, bind_pure]
    rfl
  spares s := (lookOut_waits opcode source timeout s).keeps
  informs s := (lookOut_waits opcode source timeout s).keeps
  succeeds _ _ _ _ h := by
    obtain ⟨_, _, _, _, _, _, rfl⟩ := lookOut_eq_ok h
    rfl

/-- The frame bears the opcode, and it comes from the sender if one is given. -/
structure Asked (opcode : OpcodeSpec) (sender : Option LogicalAddress) (f : Frame) : Prop where
  opcode : ∃ b, f.opcode? = some b ∧ byteNumber b = opcode.value
  sender : ∀ a ∈ sender, f.source = a

/-- The check of a request wants the frames that are asked for. -/
theorem wants_iff {opcode : OpcodeSpec} {sender : Option LogicalAddress} {f : Frame} :
    Session.OpcodeCheck.Wants { opcode, source := sender.map .named } f ↔
      Asked opcode sender f := by
  constructor
  · intro h
    refine ⟨h.opcode, fun a ha => ?_⟩
    have hcode : Int.ofNat a.code = Int.ofNat f.source.code :=
      h.source (.named a) (Option.mem_map_of_mem _ ha)
    exact (LogicalAddress.code_injective (Int.ofNat.inj hcode)).symm
  · intro h
    refine ⟨h.opcode, fun spec hspec => ?_, fun _ hnone => nomatch hnone⟩
    obtain ⟨a, ha, rfl⟩ := Option.mem_map.mp hspec
    rw [h.sender a ha]
    rfl

/-- The session of the request begins, and its check ends with a frame when the log is as given. -/
def Sees (defaults : Defaults) (r : Request) (opcode : OpcodeSpec)
    (source : Option (Option LogicalAddress)) (timeout : Option Int) (t : Timeline Rig Happening)
    (sender : Option LogicalAddress) (f : Frame) (log : BusLog) : Prop :=
  ∃ s b d u, r.Begins defaults t s b ∧ source = Option.map some sender ∧ timeout = some d ∧
    s.checkOpcode { opcode, source := sender.map .named } d none s!"CLI expect {opcode.text}" b =
      .ok f u ∧ log = Rig.log u.state

/-- The session of the request begins, and the first frame that is asked for is in the log by then or
comes before the time is over. -/
def Comes (defaults : Defaults) (r : Request) (opcode : OpcodeSpec)
    (source : Option (Option LogicalAddress)) (timeout : Option Int) (t : Timeline Rig Happening)
    (f : Frame) : Prop :=
  ∃ s b sender d k time, r.Begins defaults t s b ∧ source = Option.map some sender ∧
    timeout = some d ∧ 0 ≤ d ∧ isMeasurable d = true ∧
    (Rig.view.history b)[k]? = some (time, f) ∧
    IsFirst (Asked opcode sender) ((Rig.view.history b).map Prod.snd) k f ∧
    (k < (Rig.log b.state).size ∨ time < b.now + d.toNat)

/-- What the report of waiting for a frame tells. -/
structure ExpectTells (defaults : Defaults) (r : Request) (opcode : OpcodeSpec)
    (source : Option (Option LogicalAddress)) (timeout : Option Int) (t : Timeline Rig Happening)
    (report : Report) : Prop where
  succeeds : report.exitCode = 0 ↔ ∃ sender f log, Sees defaults r opcode source timeout t sender f log
  /-- The frame is the first of the log that is asked for. -/
  prints : ∀ sender f log, Sees defaults r opcode source timeout t sender f log →
    report = { output := Report.line f.text } ∧ ∃ k, IsFirst (Asked opcode sender) log.frames k f
  /-- A frame that comes in time is not missed. -/
  finds : ∀ f, Comes defaults r opcode source timeout t f → report = { output := Report.line f.text }
  blames : report.exitCode ≠ 0 → report.output = "" ∧
    ∃ e, Fails defaults r (lookOut opcode source timeout) t e ∧
      Told t.state.surroundings.clock e report.notes

theorem report_of_sees {defaults : Defaults} {choice : AdapterChoice} {opcode : OpcodeSpec}
    {source : Option (Option LogicalAddress)} {timeout : Option Int} {report : Report}
    {sender : Option LogicalAddress} {f : Frame} {log : BusLog}
    (h : PerformEnds defaults ⟨choice, .expect opcode source timeout⟩
      (lookOut opcode source timeout) id t report t')
    (hsees : Sees defaults ⟨choice, .expect opcode source timeout⟩ opcode source timeout t
      sender f log) : report = { output := Report.line f.text } := by
  obtain ⟨s, b, d, u, hbegins, rfl, rfl, hcheck, _⟩ := hsees
  obtain ⟨rfl, rfl⟩ := h.of_done hbegins (lookOut_of_check hcheck)
  exact shownWith_of_silent rfl _

theorem expect_tells {defaults : Defaults} {choice : AdapterChoice} {opcode : OpcodeSpec}
    {source : Option (Option LogicalAddress)} {timeout : Option Int} {report : Report}
    (h : PerformEnds defaults ⟨choice, .expect opcode source timeout⟩
      (lookOut opcode source timeout) id (fresh now w) report t') :
    ExpectTells defaults ⟨choice, .expect opcode source timeout⟩ opcode source timeout
      (fresh now w) report := by
  have he := expect_errand defaults choice opcode source timeout
  have hnothing (rig : Rig) : shown ⟨choice, .expect opcode source timeout⟩ rig = "" := rfl
  refine ⟨?_, fun sender f log hsees => ⟨report_of_sees h hsees, ?_⟩, ?_,
    fun hfailed => ⟨?_, h.blames he hfailed⟩⟩
  · rw [h.exitCode_eq_zero_iff he]
    constructor
    · rintro ⟨s, b, _, u, hbegins, hdone⟩
      obtain ⟨sender, d, f, hsource, htimeout, hcheck, _⟩ := lookOut_eq_ok hdone
      exact ⟨sender, f, _, s, b, d, u, hbegins, hsource, htimeout, hcheck, rfl⟩
    · rintro ⟨sender, f, _, s, b, d, u, hbegins, rfl, rfl, hcheck, rfl⟩
      exact ⟨s, b, _, u, hbegins, lookOut_of_check hcheck⟩
  · obtain ⟨s, b, d, u, hbegins, _, _, hcheck, rfl⟩ := hsees
    obtain ⟨k, hfinds⟩ :=
      Session.Check.finds (c := .opcode _ d none _) s (runs_of_begin hbegins.begun) hcheck
    exact ⟨k, ((Session.OpcodeCheck.finds_iff rfl).mp hfinds).congr fun _ => wants_iff⟩
  · rintro f ⟨s, b, sender, d, k, time, hbegins, hsource, htimeout, hd, hm, hplace, hfirst, hin⟩
    obtain ⟨u, hcheck⟩ := s.checkOpcode_of_timely (runs_of_begin hbegins.begun) rfl hd hm
      s!"CLI expect {opcode.text}" hplace (hfirst.congr fun _ => wants_iff.symm) hin
    exact report_of_sees h ⟨s, b, d, u, hbegins, hsource, htimeout, hcheck, rfl⟩
  · rw [h.output_of_failed he hfailed, hnothing]

/-! ## All requests -/

/-- Adapters are listed without a session. -/
theorem listAdapters_apply (t : Timeline Rig Happening) :
    ∃ report, listAdapters t = .ok report t ∧ report.exitCode = 0 := by
  rw [listAdapters, Timed.state_bind]
  cases detectAdapters t.state.surroundings.workplace.ports with
  | nil => exact ⟨_, rfl, rfl⟩
  | cons => exact ⟨_, rfl, rfl⟩

/-- What the report of a request tells is so. -/
def TellsTruly (defaults : Defaults) (r : Request) (t : Timeline Rig Happening) (report : Report)
    (t' : Timeline Rig Happening) : Prop :=
  match r.task with
  | .listAdapters => report.exitCode = 0 ∧ t' = t
  | .monitor duration => MonitorTells defaults r duration t report t'
  | .send text => SendTells defaults r text t report t'
  | .expect opcode source timeout => ExpectTells defaults r opcode source timeout t report

/-- Whatever is asked for, whatever programs and machines do, and whatever clock the tool goes by, there
is a report, with the exit code zero or one.  The session that was made for the request is over then,
with its adapter not running.  What the report tells is so: of the bus, of the frame that was sent, of
the frame that was seen, or of the fault. -/
theorem perform_tells_truly (defaults : Defaults) (r : Request) (now : Nat) (w : Surroundings) :
    ∃ report t', r.perform defaults (fresh now w) = .ok report t' ∧
      (report.exitCode = 0 ∨ report.exitCode = 1) ∧
      (∀ s, r.task ≠ .listAdapters → r.Fits defaults r.observer s → IsOver s t'.state) ∧
      TellsTruly defaults r (fresh now w) report t' := by
  obtain ⟨choice, task⟩ := r
  cases task with
  | listAdapters =>
    obtain ⟨report, hlisted, hzero⟩ := listAdapters_apply (fresh now w)
    exact ⟨_, _, perform_of_ok hlisted, .inl hzero, fun _ hlisting => absurd rfl hlisting, hzero, rfl⟩
  | monitor duration =>
    have he := monitor_errand defaults choice duration
    obtain ⟨report, t', hperform, hends⟩ := he.perform_ends now w
    exact ⟨report, t', hperform, hends.exitCode_cases he, fun _ _ => hends.isOver he,
      monitor_tells hends⟩
  | send text =>
    have he := send_errand defaults choice text
    obtain ⟨report, t', hperform, hends⟩ := he.perform_ends now w
    exact ⟨report, t', hperform, hends.exitCode_cases he, fun _ _ => hends.isOver he,
      send_tells hends⟩
  | expect opcode source timeout =>
    have he := expect_errand defaults choice opcode source timeout
    obtain ⟨report, t', hperform, hends⟩ := he.perform_ends now w
    exact ⟨report, t', hperform, hends.exitCode_cases he, fun _ _ => hends.isOver he,
      expect_tells hends⟩

/-- A frame that comes while the program takes its time to quit is printed, and not counted.  A negative
time is too short for the clock of a machine. -/
example :
    let script : ProgramScript :=
      { opening := [.prints "waiting for input"]
        events := [(50, [.prints "TRAFFIC: [ 50]\t>> 0f:82:10:00"]),
          (130, [.prints "TRAFFIC: [ 130]\t>> 40:36"])]
        quit := .exitsAfter 25 }
    let report (duration : Int) : Option Report :=
      let r : Request := ⟨{ settings := {} }, .monitor (some duration)⟩
      match r.perform {} (fresh 0 { scripts := [script], clock := .ofMachine }) with
      | .ok report _ => some report
      | .error _ _ => none
    report 120 = some
      { output := "       0.050  0->f ACTIVE_SOURCE [10 00]\n       0.130  4->0 STANDBY\n"
        notes := "1 frame(s), 0 malformed line(s)\n" } ∧
    report (-5) = some { exitCode := 1, notes := "Error: sleep length must be non-negative\n" } := by
  decide +kernel

end CecBench.CommandLine.Request
