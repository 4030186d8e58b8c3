import CecBench.Proofs.Console.Payload
import CecBench.Proofs.Session.Cursors
import CecBench.Proofs.Session.Record

/-!
# Sending

A frame that is sent goes to the console as one line: the command to transmit and a text that the frame
can be read back from.  The line does not reach a program that has exited, that has no input, or whose
input fails as pipes do.  Then sending fails, and that is all of it.  The timeline is what it was, except
that the line may be on the record, and no later step ever looks at the record (`trace_of_bare`).  So
everything goes on as if the frame had not been sent (`send_conveys_or_costs_nothing`).
-/

namespace CecBench

open Timed (behind)
open Rig

variable {t : Timeline Rig Happening}

/-! ## The line -/

/-- The frame is read back from its text, but for the time at which it was seen. -/
theorem Frame.parse_encode (f : Frame) : parse f.encode = .ok { f with observedAt := none } := by
  rw [parse, f.encode_isPayload.trim_eq_self, readPayload_encode]

/-- A line with no line feed in it reaches the program as it is. -/
theorem Rig.commandOf_line {line : String} (h : '\n' ∉ line.toList) :
    commandOf (line ++ "\n") = line := by
  have hfeeds : ∀ c ∈ "\n".toList, (c == '\n') = true := List.all_eq_true.mp (by decide)
  rw [commandOf, String.toList_append, Text.dropTrailing_append hfeeds, Text.dropTrailing_eq_self,
    String.ofList_toList]
  intro c hc
  exact beq_false_of_ne (ne_of_mem_of_not_mem (List.mem_of_mem_getLast? hc) h)

/-- The line that sends a frame. -/
def Frame.transmission (f : Frame) : String := Adapter.transmitCommand ++ " " ++ f.encode

theorem Frame.commandOf_transmission (f : Frame) :
    commandOf (f.transmission ++ "\n") = f.transmission := by
  refine commandOf_line ?_
  have hcommand : '\n' ∉ (Adapter.transmitCommand ++ " ").toList := by decide
  rw [transmission, String.toList_append, List.mem_append]
  exact not_or.mpr ⟨hcommand, f.encode_isPayload.not_mem_newline⟩

/-! ## Programs that hear a line, and others -/

namespace Child

/-- The program in hand has an input. -/
def hasInput (r : Rig) : Bool :=
  r.holdings.child.any fun id => (r.program? id).any (·.script.hasStdin)

/-- What the input of the program in hand fails with, if it fails. -/
def refusal? (r : Rig) : Option EquipmentKind := r.holdings.child.bind (inputFailure? r)

/-- The program in hand runs, and its input takes lines. -/
structure Listens (r : Rig) : Prop where
  runs : isRunning r = true
  input : hasInput r = true
  takes : refusal? r = none

/-- No line reaches the program in hand. -/
inductive Deaf (r : Rig) : Prop
  /-- It has exited. -/
  | gone : isRunning r = false → Deaf r
  /-- It has no input. -/
  | closed : hasInput r = false → Deaf r
  /-- Its input fails as pipes do. -/
  | broken (kind : EquipmentKind) : refusal? r = some kind → kind.isPipe = true → Deaf r

theorem Deaf.refusal {r : Rig} (h : Deaf r) (hopen : isRunning r = true ∧ hasInput r = true) :
    ∃ kind, refusal? r = some kind ∧ kind.isPipe = true := by
  cases h with
  | gone hgone => cases hgone.symm.trans hopen.1
  | closed hclosed => cases hclosed.symm.trans hopen.2
  | broken kind hkind hpipe => exact ⟨kind, hkind, hpipe⟩

/-- A program that runs and has an input is given the line. -/
theorem writeLine_of_open (line context : String)
    (hopen : isRunning t.state = true ∧ hasInput t.state = true) :
    ∃ id, t.state.holdings.child = some id ∧ writeLine line context t =
      telling EquipmentKind.isPipe (fun e => .send ⟨context, line, .refused e.text⟩)
        (writeTo id (line ++ "\n")) t := by
  obtain ⟨hruns, hinput⟩ := hopen
  cases hchild : t.state.holdings.child with
  | none => simp [hasInput, hchild] at hinput
  | some id =>
    cases hp : t.state.program? id with
    | none => simp [hasInput, hchild, hp] at hinput
    | some p =>
      have hstdin : p.script.hasStdin = true := by simpa [hasInput, hchild, hp] using hinput
      have hcode : t.state.exitCode id = none := by
        simpa [isRunning, exitCode, hchild] using hruns
      refine ⟨id, rfl, ?_⟩
      rw [writeLine_of_some hchild hp hstdin, hcode]

/-- Any other one is not. -/
theorem writeLine_of_shut (line context : String)
    (hshut : ¬ (isRunning t.state = true ∧ hasInput t.state = true)) :
    ∃ code, writeLine line context t = .error (.send ⟨context, line, .stopped code⟩) t := by
  cases hchild : t.state.holdings.child with
  | none => exact ⟨none, writeLine_of_none hchild⟩
  | some id =>
    have hguard : (isRunning t.state && (t.state.program? id).any (·.script.hasStdin)) = false := by
      simpa [hasInput, hchild] using hshut
    refine ⟨exitCode t.state, (Timed.state_bind _ t).trans ?_⟩
    simp only [hchild, hguard]
    rfl

theorem writeLine_of_listens (line context : String) (h : Listens t.state) :
    ∃ u, writeLine line context t = .ok () u ∧ Makes t [.write (commandOf (line ++ "\n"))] u := by
  obtain ⟨id, hchild, hline⟩ := writeLine_of_open line context ⟨h.runs, h.input⟩
  have htakes : inputFailure? t.state id = none := by simpa [refusal?, hchild] using h.takes
  obtain ⟨_, u, hwrite, _⟩ := writeTo_succeeds (line ++ "\n") htakes
  have hmade := writeTo_makes id (line ++ "\n") t
  rw [Timed.behind_of_ok hwrite] at hmade
  exact ⟨u, hline.trans (Timed.tryCatch_of_ok hwrite), hmade⟩

/-- The line is refused, and nothing comes of it but a note that it was offered. -/
theorem writeLine_of_deaf (line context : String) (h : Deaf t.state) :
    ∃ cause u, writeLine line context t = .error (.send ⟨context, line, cause⟩) u ∧
      bare u = bare t ∧ ∃ made, Makes t made u ∧ made <+: [.write (commandOf (line ++ "\n"))] := by
  by_cases hopen : isRunning t.state = true ∧ hasInput t.state = true
  · obtain ⟨kind, hkind, hpipe⟩ := h.refusal hopen
    obtain ⟨id, hchild, hline⟩ := writeLine_of_open line context hopen
    have hrefuses : inputFailure? t.state id = some kind := by simpa [refusal?, hchild] using hkind
    have hfails := writeTo_fails (line ++ "\n") hrefuses
    have htold : EquipmentKind.isPipe (kind.report "write failed").kind = true := by
      rw [EquipmentKind.report_kind, hpipe]
    rw [hline, Adapter.telling_of_error hfails htold]
    exact ⟨_, _, rfl, rfl, _, rfl, List.prefix_rfl⟩
  · obtain ⟨code, hline⟩ := writeLine_of_shut line context hopen
    exact ⟨_, t, hline, rfl, [], .none rfl, List.nil_prefix⟩

end Child

/-! ## Sending -/

namespace Session

variable {s : Session}

/-- A session that runs hands the line to its program. -/
theorem send_apply (hlocal : s.adapter.carrier = .child) (f : Frame) (context : String)
    (h : Runs t) : s.send f context t =
      Child.writeLine f.transmission (s.contextFor s!"send {f.text}" context) t := by
  obtain ⟨m, hm, _⟩ := s.runningMonitor_log "send a message"
    (s.contextFor s!"send {f.text}" context) h
  rw [send, Timed.bind_of_ok hm, Adapter.sendFrame, Adapter.writeLine, hlocal]
  rfl

/-- Sending the frame that some parts make is sending it. -/
theorem sendDraft_of_build {d : Frame.Draft} {f : Frame} (h : d.build = .ok f) (context : String) :
    s.sendDraft d context = s.send f context := by
  rw [sendDraft, h]
  rfl

/-- What comes of sending a frame, at any moment of the life of a session on this machine.  If the
session runs and its program listens, the program is given one line and nothing else is asked for, and
the frame can be read back from the line.  If the program is deaf, sending fails, and nothing changes but
the record, on which the line may be: every later run answers the same in every step, asks for the same
and differs in the record alone from the run without the frame.  If the session does not run, sending is
refused, and nothing changes at all.  The same holds for a frame that is given by its parts. -/
theorem send_conveys_or_costs_nothing (s : Session) (hlocal : s.adapter.carrier = .child)
    (steps : List Step) (ho : t.Ordered) (hnew : t.state.holdings.phase = .uninitialized)
    (hfree : t.state.holdings.holdsMonitor = false) (f : Frame) (context : String) :
    let u := s.run steps t
    let u' := behind (s.send f context) u
    (∃ g, Frame.parse f.encode = .ok g ∧ g.source = f.source ∧ g.destination = f.destination ∧
      g.opcode? = f.opcode? ∧ g.operands = f.operands) ∧
    (u.state.holdings.phase = .running → Child.Listens u.state →
      s.send f context u = .ok () u' ∧ callsSince u u' = [.write ("tx " ++ f.encode)]) ∧
    (u.state.holdings.phase = .running → Child.Deaf u.state →
      (∃ e, s.send f context u = .error (.send e) u') ∧
      u'.state.holdings.phase = .running ∧ bare u' = bare u ∧
      callsSince u u' <+: [.write ("tx " ++ f.encode)] ∧
      ∀ more, (s.trace more u').map Sight.outcome = (s.trace more u).map Sight.outcome ∧
        bare (s.run more u') = bare (s.run more u) ∧
        callsSince u' (s.run more u') = callsSince u (s.run more u)) ∧
    (u.state.holdings.phase ≠ .running →
      ∃ e : Fault, e.IsNotRunning ∧ s.send f context u = .error e u) ∧
    ∀ d : Frame.Draft, d.build = .ok f → s.sendDraft d context = s.send f context := by
  intro u u'
  have hsound : Sound u := s.run_sound steps (sound_new ho hnew hfree)
  have hline : commandOf (f.transmission ++ "\n") = "tx " ++ f.encode := f.commandOf_transmission
  refine ⟨⟨_, f.parse_encode, rfl, rfl, rfl, rfl⟩, fun hphase hlistens => ?_, fun hphase hdeaf => ?_,
    s.send_refuses f context, fun d hd => sendDraft_of_build hd context⟩
  · obtain ⟨v, hwrite, hmade⟩ := Child.writeLine_of_listens f.transmission
      (s.contextFor s!"send {f.text}" context) hlistens
    have hsend := (send_apply hlocal f context ⟨hsound, hphase⟩).trans hwrite
    obtain rfl : u' = v := Timed.behind_of_ok hsend
    rw [hline] at hmade
    exact ⟨hsend, hmade.callsSince_eq⟩
  · obtain ⟨cause, v, hwrite, hbare, made, hmade, hoffered⟩ := Child.writeLine_of_deaf f.transmission
      (s.contextFor s!"send {f.text}" context) hdeaf
    have hsend := (send_apply hlocal f context ⟨hsound, hphase⟩).trans hwrite
    obtain rfl : u' = v := Timed.behind_of_error hsend
    have hrunning : (bare u').state.holdings.phase = (bare u).state.holdings.phase := by rw [hbare]
    rw [hline] at hoffered
    refine ⟨⟨_, hsend⟩, hrunning.trans hphase, hbare, hmade.callsSince_eq ▸ hoffered,
      fun more => ?_⟩
    obtain ⟨houtcomes, hsame, more', hasked, hasked'⟩ := trace_of_bare hlocal more hbare
    exact ⟨houtcomes, hsame, hasked.callsSince_eq.trans hasked'.callsSince_eq.symm⟩

/-- One program listens.  The input of the other one is broken, and nobody who goes on with the session
notices that a frame should have been sent. -/
theorem send_conveys_or_costs_nothing_of_two_programs :
    let attentive : ProgramScript := { opening := [.prints "waiting for input"] }
    let broken : ProgramScript := { attentive with writeFailure := some .value }
    let begun (script : ProgramScript) : Timeline Rig Happening :=
      usual.run [.begin ""] { state.surroundings.scripts := [script] }
    let standby : Frame := ⟨.playback1, .tv, .message 0x36 ⟨[], by decide⟩, none⟩
    let more : List Step := [.mark, .sleep 100, .finish]
    callsSince (begun attentive) (behind (usual.send standby "") (begun attentive)) =
        [.write "tx 40:36"] ∧
      (usual.trace more (behind (usual.send standby "") (begun broken))).map Sight.outcome =
        (usual.trace more (begun broken)).map Sight.outcome := by
  intro attentive broken begun standby more
  have hsend (script : ProgramScript) := send_conveys_or_costs_nothing usual rfl [.begin ""]
    (t := { state.surroundings.scripts := [script] }) (Timeline.ordered_idle 0 _) rfl rfl standby ""
  constructor
  · obtain ⟨_, hlistens, _⟩ := hsend attentive
    have hprogram : Child.Listens (begun attentive).state :=
      ⟨by decide +kernel, by decide +kernel, by decide +kernel⟩
    exact (hlistens (by decide +kernel) hprogram).2.trans (by decide +kernel)
  · obtain ⟨_, _, hdeaf, _⟩ := hsend broken
    have hprogram : Child.Deaf (begun broken).state := .broken .value (by decide +kernel) rfl
    obtain ⟨_, _, _, _, hmore⟩ := hdeaf (by decide +kernel) hprogram
    exact (hmore more).1

end Session

end CecBench
