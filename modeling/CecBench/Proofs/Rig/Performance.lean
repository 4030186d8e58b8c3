import CecBench.Proofs.Bus.Tap
import CecBench.Rig.Basic

/-!
# What a program is seen to do

A *performance* is all that a program does by itself, each thing with its time.
The agenda of a rig mixes the performances of all programs, and `doings` picks
out that of one of them.  A script fixes the performance of its program from
the start on (`ProgramScript.performance`, `doings_scheduleAll`).

`Rig.Watches` says that the monitor on a program and the program itself are
where the past performance has brought them.  For the monitor it is the
relation `Tap.Follows` to what was printed, for no other program matters to the
monitor.  Events keep it (`Watches.take`, `Attends.elapses`).

What is heard of a performance up to a time, when its output ends and with
which code the program exits are functions of the performance.  A wait that
watches the program knows their values up to the time that it has come to
(`heardBy_eq`, `exitCodeBy_eq`, `moment_of_end`).
-/

namespace CecBench

open Timeline (Elapses replay)

/-! ## Streams -/

namespace Stream

/-- The stream after something happened to it. -/
def give (s : Stream) (e : StreamEvent) : Stream :=
  if e.ends then (s.push e.chunks).finish else s.push e.chunks

theorem push_push (s : Stream) (first second : List Chunk) :
    (s.push first).push second = s.push (first ++ second) := by
  cases h : s.ended <;> simp [push, h]

theorem push_nil (s : Stream) : s.push [] = s := by
  cases s
  simp [push]

/-- An ended stream is given nothing. -/
theorem give_of_ended {s : Stream} (h : s.ended = true) (e : StreamEvent) : s.give e = s := by
  have hfinish : s.finish = s := by rw [finish, ← h]
  cases e.ends <;> simp [give, push, h, hfinish]

end Stream

/-! ## Programs -/

namespace Program

/-- The lines that are printed before the output ends. -/
def printed : List ProgramAction → List String
  | .prints line :: rest => line :: printed rest
  | _ => []

/-- The output ends. -/
def endsAmong : List ProgramAction → Bool
  | [] => false
  | .prints _ :: rest => endsAmong rest
  | .endsOutput :: _ | .exits _ :: _ => true

/-- The code that the program exits with. -/
def exitAmong : List ProgramAction → Option Int
  | [] => none
  | .exits code :: _ => some code
  | .prints _ :: rest | .endsOutput :: rest => exitAmong rest

/-- What the output is given. -/
def emission (actions : List ProgramAction) : StreamEvent :=
  ⟨(printed actions).map fun line => .text (line ++ "\n"), endsAmong actions⟩

theorem actAll_output (p : Program) (actions : List ProgramAction) :
    (p.actAll actions).output = p.output.give (emission actions) := by
  induction actions generalizing p with
  | nil => exact p.output.push_nil.symm
  | cons action rest ih =>
    rw [actAll, List.foldl_cons, ← actAll, ih]
    cases action with
    | prints line =>
      cases hends : endsAmong rest <;>
        simp [act, Stream.give, emission, printed, endsAmong, hends, Stream.push_push]
    | endsOutput | exits =>
      show p.output.finish.give _ = (p.output.push []).finish
      rw [Stream.push_nil]
      exact Stream.give_of_ended (s := p.output.finish) rfl _

theorem actAll_exitCode (p : Program) (actions : List ProgramAction) :
    (p.actAll actions).exitCode = p.exitCode.or (exitAmong actions) := by
  induction actions generalizing p with
  | nil => simp [actAll, exitAmong]
  | cons action rest ih =>
    rw [actAll, List.foldl_cons, ← actAll, ih]
    cases action <;> cases h : p.exitCode <;> simp [act, exitAmong, h]

end Program

open Program (endsAmong exitAmong emission)

theorem emission_closes (actions : List ProgramAction) :
    (emission actions).closes = endsAmong actions := by
  have htext (line : String) : (Chunk.text (line ++ "\n")).text?.isNone = false := by
    have hne : (line ++ "\n").isEmpty = false := by
      rw [Bool.eq_false_iff, ne_eq, String.isEmpty_iff]
      intro h
      have := congrArg String.length h
      simp at this
    simp [Chunk.text?, hne]
  simp [StreamEvent.closes, emission, htext]

/-! ## Performances -/

/-- What a program does, each thing with its time. -/
abbrev Performance := List (Nat × List ProgramAction)

namespace Performance

/-- What happens to the output. -/
def output (perf : Performance) : List (Nat × StreamEvent) :=
  perf.map fun x => (x.1, emission x.2)

/-- The lines that the output delivers. -/
def heard (perf : Performance) : List Reading := readings perf.output

/-- The output has ended. -/
def hasEnded (perf : Performance) : Bool := perf.any fun x => endsAmong x.2

/-- The code that the program has exited with. -/
def exitCode (perf : Performance) : Option Int := perf.findSome? fun x => exitAmong x.2

/-- What is heard up to a time. -/
def heardBy (perf : Performance) (time : Nat) : List Reading :=
  perf.heard.filter fun r => r.1 ≤ time

/-- When the output ends. -/
def endOfOutput? (perf : Performance) : Option Nat :=
  (perf.find? fun x => endsAmong x.2).map Prod.fst

/-- The exit code up to a time. -/
def exitCodeBy (perf : Performance) (time : Nat) : Option Int :=
  exitCode (perf.filter fun x => x.1 ≤ time)

/-- The output ends up to a time. -/
def endsBy (perf : Performance) (time : Nat) : Bool := perf.endOfOutput?.any (· ≤ time)

/-- When the output ends or a deadline comes, whichever is first. -/
def moment (perf : Performance) (deadline : Nat) : Nat :=
  (perf.endOfOutput?.map (min · deadline)).getD deadline

variable {past rest perf : Performance} {time : Nat}

theorem isClosed_output (perf : Performance) : isClosed perf.output = perf.hasEnded := by
  simp [isClosed, output, hasEnded, emission_closes, List.any_map, Function.comp_def]

theorem output_append (past rest : Performance) :
    output (past ++ rest) = past.output ++ rest.output := List.map_append

theorem exitCode_append (past rest : Performance) :
    exitCode (past ++ rest) = past.exitCode.or rest.exitCode := List.findSome?_append

theorem exitCode_singleton (x : Nat × List ProgramAction) : exitCode [x] = exitAmong x.2 := by
  cases h : exitAmong x.2 <;> simp [exitCode, h]

theorem hasEnded_append (past rest : Performance) :
    hasEnded (past ++ rest) = (past.hasEnded || rest.hasEnded) := List.any_append

/-- A line is heard at the time of something the program does. -/
theorem exists_of_mem_heard {r : Reading} (h : r ∈ perf.heard) : ∃ x ∈ perf, x.1 = r.1 := by
  obtain ⟨y, hy, heq⟩ := exists_of_mem_readings h
  obtain ⟨x, hx, rfl⟩ := List.mem_map.mp hy
  exact ⟨x, hx, heq⟩

/-- What was heard stays heard. -/
theorem mem_heardBy_of_mem {r : Reading} (hpast : ∀ x ∈ past, x.1 ≤ time) (h : r ∈ past.heard) :
    r ∈ heardBy (past ++ rest) time := by
  obtain ⟨x, hx, heq⟩ := exists_of_mem_heard h
  refine List.mem_filter.mpr ⟨?_, ?_⟩
  · rw [heard, output_append, readings_append]
    exact List.mem_append_left _ h
  · have := hpast x hx
    simpa [← heq] using this

theorem heardBy_mono {later : Nat} {r : Reading} (hle : time ≤ later) (h : r ∈ perf.heardBy time) :
    r ∈ perf.heardBy later := by
  obtain ⟨hr, htime⟩ := List.mem_filter.mp h
  have : r.1 ≤ time := by simpa using htime
  exact List.mem_filter.mpr ⟨hr, by simpa using this.trans hle⟩

/-- Nothing more is heard once the output has ended or all the rest is later. -/
theorem heardBy_eq (hpast : ∀ x ∈ past, x.1 ≤ time)
    (hrest : past.hasEnded = true ∨ ∀ x ∈ rest, time < x.1) :
    heardBy (past ++ rest) time = past.heard := by
  have hkeep : past.heard.filter (fun r => r.1 ≤ time) = past.heard := by
    refine List.filter_eq_self.mpr fun r hr => ?_
    obtain ⟨x, hx, heq⟩ := exists_of_mem_heard hr
    simpa [← heq] using hpast x hx
  rw [heardBy, heard, output_append, readings_append, List.filter_append, ← heard, hkeep,
    isClosed_output]
  cases hend : past.hasEnded with
  | true => simp
  | false =>
    have hlater : ∀ x ∈ rest, time < x.1 := by simpa [hend] using hrest
    suffices h : (readings rest.output).filter (fun r => r.1 ≤ time) = [] by simp [h]
    refine List.filter_eq_nil_iff.mpr fun r hr => ?_
    obtain ⟨x, hx, heq⟩ := exists_of_mem_heard hr
    have := hlater x hx
    simpa [← heq] using this

/-- The exit code counts no less once it is known or all the rest is later. -/
theorem exitCodeBy_eq (hpast : ∀ x ∈ past, x.1 ≤ time)
    (hrest : past.exitCode.isSome ∨ ∀ x ∈ rest, time < x.1) :
    exitCodeBy (past ++ rest) time = past.exitCode := by
  have hkeep : past.filter (fun x => x.1 ≤ time) = past :=
    List.filter_eq_self.mpr fun x hx => by simpa using hpast x hx
  rw [exitCodeBy, List.filter_append, hkeep, exitCode_append]
  cases hcode : past.exitCode with
  | some code => rfl
  | none =>
    have hlater : ∀ x ∈ rest, time < x.1 := by simpa [hcode] using hrest
    have hnil : rest.filter (fun x => x.1 ≤ time) = [] :=
      List.filter_eq_nil_iff.mpr fun x hx => by simpa using hlater x hx
    rw [hnil]
    rfl

theorem endOfOutput?_append (h : past.hasEnded = false) :
    endOfOutput? (past ++ rest) = rest.endOfOutput? := by
  have hnone : past.find? (fun x => endsAmong x.2) = none :=
    List.find?_eq_none.mpr fun x hx => List.any_eq_false.mp h x hx
  rw [endOfOutput?, List.find?_append, hnone]
  rfl

theorem endOfOutput?_of_ended (h : past.hasEnded = true) :
    ∃ x ∈ past, endOfOutput? (past ++ rest) = some x.1 := by
  obtain ⟨x, hx, hends⟩ := List.any_eq_true.mp h
  obtain ⟨y, hy⟩ := Option.isSome_iff_exists.mp
    (List.find?_isSome.mpr ⟨x, hx, hends⟩ : (past.find? fun x => endsAmong x.2).isSome)
  refine ⟨y, List.mem_of_find?_eq_some hy, ?_⟩
  rw [endOfOutput?, List.find?_append, hy]
  rfl

theorem endsBy_of_ended (hpast : ∀ x ∈ past, x.1 ≤ time) (h : past.hasEnded = true) :
    endsBy (past ++ rest) time = true := by
  obtain ⟨x, hx, heq⟩ : ∃ x ∈ past, endOfOutput? (past ++ rest) = some x.1 :=
    endOfOutput?_of_ended h
  simpa [endsBy, heq] using hpast x hx

/-- The moment at which something ends the output in time. -/
theorem moment_of_end {x : Nat × List ProgramAction} (h : past.hasEnded = false)
    (hends : endsAmong x.2 = true) (hle : x.1 ≤ time) : moment (past ++ x :: rest) time = x.1 := by
  rw [moment, endOfOutput?_append h, endOfOutput?, List.find?_cons, hends]
  exact Nat.min_eq_left hle

/-- An output that has not ended, and does not before the deadline. -/
theorem moment_of_late (h : past.hasEnded = false) (hrest : ∀ x ∈ rest, time < x.1) :
    moment (past ++ rest) time = time ∧ endsBy (past ++ rest) time = false := by
  rw [moment, endsBy, endOfOutput?_append h]
  cases hend : rest.endOfOutput? with
  | none => exact ⟨rfl, rfl⟩
  | some last =>
    obtain ⟨x, hx, rfl⟩ := Option.map_eq_some_iff.mp hend
    have hlt := hrest x (List.mem_of_find?_eq_some hx)
    simp
    omega

theorem exitCodeBy_mono {later : Nat} {code : Int} (hs : perf.Pairwise fun x y => x.1 ≤ y.1)
    (hle : time ≤ later) (h : exitCodeBy perf time = some code) :
    exitCodeBy perf later = some code := by
  induction perf with
  | nil => cases h
  | cons x perf ih =>
    obtain ⟨hx, hperf⟩ := List.pairwise_cons.mp hs
    rcases Nat.lt_or_ge time x.1 with hlt | hge
    · -- In the order of the times, nothing counts behind what comes too late.
      have hnil : (x :: perf).filter (fun y => y.1 ≤ time) = [] := by
        refine List.filter_eq_nil_iff.mpr fun y hy => ?_
        rcases List.mem_cons.mp hy with rfl | hy
        · simpa using hlt
        · have := hx y hy
          simp
          omega
      rw [exitCodeBy, hnil] at h
      cases h
    · have hcons (τ : Nat) (hτ : x.1 ≤ τ) :
          exitCodeBy (x :: perf) τ = (exitAmong x.2).or (exitCodeBy perf τ) := by
        rw [exitCodeBy, List.filter_cons_of_pos (by simpa using hτ), exitCode, List.findSome?_cons]
        cases exitAmong x.2 <;> rfl
      rw [hcons _ hge] at h
      rw [hcons _ (hge.trans hle)]
      cases hcode : exitAmong x.2 with
      | some code' =>
        rw [hcode] at h
        exact h
      | none =>
        rw [hcode] at h
        exact ih hperf h

end Performance

/-! ## Performances on the agenda -/

/-- What the agenda holds for one program. -/
def doings (id : ProgramId) (agenda : List (Nat × Happening)) : Performance :=
  agenda.filterMap fun x => if x.2.program = id then some (x.1, x.2.actions) else none

section Doings

variable {id : ProgramId} {agenda : List (Nat × Happening)}

@[simp] theorem doings_nil (id : ProgramId) : doings id [] = [] := rfl

theorem doings_append (id : ProgramId) (past later : List (Nat × Happening)) :
    doings id (past ++ later) = doings id past ++ doings id later := List.filterMap_append

theorem doings_cons_self (x : Nat × Happening) (agenda : List (Nat × Happening)) :
    doings x.2.program (x :: agenda) = (x.1, x.2.actions) :: doings x.2.program agenda := by
  simp [doings]

theorem doings_cons_other {x : Nat × Happening} (h : x.2.program ≠ id) :
    doings id (x :: agenda) = doings id agenda := by
  simp [doings, h]

theorem exists_of_mem_doings {x : Nat × List ProgramAction} (h : x ∈ doings id agenda) :
    ∃ y ∈ agenda, y.2.program = id ∧ y.1 = x.1 := by
  obtain ⟨y, hy, heq⟩ := List.mem_filterMap.mp h
  split at heq
  · rename_i hid
    cases heq
    exact ⟨y, hy, hid, rfl⟩
  · cases heq

/-- Nothing that is left is done before the first event that is left. -/
theorem lt_of_mem_doings {past rest : List (Nat × Happening)} {deadline : Nat}
    (hs : (past ++ rest).Pairwise fun x y => x.1 ≤ y.1)
    (h : ∀ x ∈ rest.head?, deadline < x.1) : ∀ x ∈ doings id rest, deadline < x.1 := by
  intro x hx
  obtain ⟨y, hy, _, heq⟩ := exists_of_mem_doings hx
  exact heq ▸ Timeline.lt_of_head (List.pairwise_append.mp hs).2.1 h y hy

theorem insert_of_lt {ε : Type} {time : Nat} {e : ε} {agenda : List (Nat × ε)}
    (h : ∀ x ∈ agenda, time < x.1) : Timeline.insert time e agenda = (time, e) :: agenda := by
  cases agenda with
  | nil => rfl
  | cons x rest => rw [Timeline.insert, if_neg (Nat.not_le.mpr (h x (List.mem_cons_self ..)))]

theorem doings_insert (time : Nat) (actions : List ProgramAction)
    (hs : agenda.Pairwise fun x y => x.1 ≤ y.1) :
    doings id (Timeline.insert time ⟨id, actions⟩ agenda) =
      Timeline.insert time actions (doings id agenda) := by
  induction agenda with
  | nil => exact doings_cons_self (time, ⟨id, actions⟩) []
  | cons x agenda ih =>
    obtain ⟨hx, hagenda⟩ := List.pairwise_cons.mp hs
    by_cases hle : x.1 ≤ time
    · rw [Timeline.insert, if_pos hle]
      by_cases hid : x.2.program = id
      · subst hid
        rw [doings_cons_self, doings_cons_self, ih hagenda, Timeline.insert, if_pos hle]
      · rw [doings_cons_other hid, doings_cons_other hid, ih hagenda]
    · rw [Timeline.insert, if_neg hle, doings_cons_self (time, ⟨id, actions⟩)]
      refine (insert_of_lt fun y hy => ?_).symm
      obtain ⟨z, hz, _, heq⟩ := exists_of_mem_doings hy
      rw [← heq]
      rcases List.mem_cons.mp hz with rfl | hz
      · omega
      · have := hx z hz
        omega

/-- The events of a script are the performance of its program. -/
theorem doings_scheduleAll {t : Timeline Rig Happening} (ho : t.Ordered)
    (events : List (Nat × List ProgramAction)) :
    doings id (t.scheduleAll (events.map fun e => (e.1, ⟨id, e.2⟩))).agenda =
      (Timeline.scheduleAll ⟨t.now, doings id t.agenda, ()⟩ events).agenda := by
  induction events generalizing t with
  | nil => rfl
  | cons e events ih =>
    have hrest := ih (ho.schedule e.1 ⟨id, e.2⟩)
    rwa [Timeline.schedule, doings_insert _ _ ho.sorted] at hrest

end Doings

/-- All that a program does by itself when it is started at a time. -/
def ProgramScript.performance (script : ProgramScript) (now : Nat) : Performance :=
  (now, script.opening) :: (Timeline.scheduleAll ⟨now, [], ()⟩ script.events).agenda

theorem ProgramScript.performance_sorted (script : ProgramScript) (now : Nat) :
    (script.performance now).Pairwise fun x y => x.1 ≤ y.1 := by
  have ho := (Timeline.ordered_idle (ε := List ProgramAction) now ()).scheduleAll script.events
  refine List.pairwise_cons.mpr ⟨fun x hx => ?_, ho.sorted⟩
  have := ho.ahead x hx
  rwa [Timeline.scheduleAll_now] at this

/-! ## Watching a performance -/

theorem Tap.Follows.settle_eq {codec : Codec} {tailSize : Nat} {observer : Option Observer}
    {past : List (Nat × StreamEvent)} {tap : Tap} (h : tap.Follows codec tailSize observer past)
    (now : Nat) : tap.settle now = tap := by
  obtain ⟨m, stream⟩ := tap
  cases hend : m.hasEnded with
  | true => simp [Tap.settle, Monitor.drain, hend]
  | false =>
    obtain rfl : stream = {} := h.idle hend
    simp [Tap.settle, Monitor.drain, hend, Monitor.readOn]

namespace Rig

variable {codec : Codec} {observer : Option Observer} {id : ProgramId} {past : Performance}
  {r : Rig}

/-- The monitor is on a program, and both are where the past performance has brought them. -/
structure Watches (codec : Codec) (observer : Option Observer) (id : ProgramId)
    (past : Performance) (m : Monitor) (p : Program) (r : Rig) : Prop where
  reader : r.reader = some ⟨id, m⟩
  program : r.program? id = some p
  follows : Tap.Follows codec Monitor.usualTailSize observer past.output ⟨m, p.output⟩
  exitCode : p.exitCode = past.exitCode

theorem program?_modifyProgram_self {p : Program} (f : Program → Program)
    (h : r.program? id = some p) : (r.modifyProgram id f).program? id = some (f p) := by
  simp only [program?, modifyProgram] at h ⊢
  simp [h]

theorem program?_modifyProgram_other {other : ProgramId} (f : Program → Program)
    (h : other ≠ id) : (r.modifyProgram other f).program? id = r.program? id := by
  simp [program?, modifyProgram, h]

/-- Reading on the rig is reading the program's output. -/
theorem settle_reading {m : Monitor} {p : Program} (now : Nat) (hreader : r.reader = some ⟨id, m⟩)
    (hprogram : r.program? id = some p) :
    (r.settle now).reader = some ⟨id, (Tap.settle now ⟨m, p.output⟩).monitor⟩ ∧
      (r.settle now).program? id =
        some { p with output := (Tap.settle now ⟨m, p.output⟩).stream } := by
  rw [settle, hreader]
  dsimp only
  rw [hprogram]
  exact ⟨rfl, program?_modifyProgram_self _ hprogram⟩

theorem Watches.take {m : Monitor} {p : Program} (h : Watches codec observer id past m p r)
    (x : Nat × Happening) :
    ∃ m' p', Watches codec observer id (past ++ doings id [x]) m' p' (r.take x.1 x.2) := by
  obtain ⟨hreader, hprogram, hfollows, hexit⟩ := h
  by_cases hid : x.2.program = id
  · subst hid
    have hacts := program?_modifyProgram_self (fun p => p.actAll x.2.actions) hprogram
    obtain ⟨hreader', hprogram'⟩ := settle_reading x.1 (r := r.modifyProgram _ _) hreader hacts
    rw [Program.actAll_output] at hreader' hprogram'
    refine ⟨_, _, hreader', hprogram', ?_, ?_⟩
    · rw [doings_cons_self, Performance.output_append]
      exact hfollows.take x.1 (emission x.2.actions)
    · rw [doings_cons_self, doings_nil, Performance.exitCode_append, ← hexit,
        Performance.exitCode_singleton]
      exact p.actAll_exitCode x.2.actions
  · have hacts := program?_modifyProgram_other (r := r) (fun p => p.actAll x.2.actions) hid
    obtain ⟨hreader', hprogram'⟩ :=
      settle_reading x.1 (r := r.modifyProgram _ _) hreader (hacts.trans hprogram)
    rw [hfollows.settle_eq] at hreader' hprogram'
    rw [doings_cons_other hid, doings_nil, List.append_nil]
    exact ⟨m, p, hreader', hprogram', hfollows, hexit⟩

theorem Watches.replay {m : Monitor} {p : Program} (h : Watches codec observer id past m p r)
    (happened : List (Nat × Happening)) :
    ∃ m' p', Watches codec observer id (past ++ doings id happened) m' p' (replay happened r) := by
  induction happened generalizing past m p r with
  | nil =>
    rw [doings_nil, List.append_nil]
    exact ⟨m, p, h⟩
  | cons x happened ih =>
    obtain ⟨m', p', h'⟩ := h.take x
    have hrest := ih h'
    rwa [List.append_assoc, ← doings_append] at hrest

/-- A new monitor on a program that has just been started. -/
theorem watches_start {script : ProgramScript} (now : Nat)
    (hreader : r.reader = some ⟨id, { codec, tailSize := Monitor.usualTailSize, observer }⟩)
    (hprogram : r.program? id = some (Program.start script)) :
    ∃ m p, Watches codec observer id [(now, script.opening)] m p (r.settle now) := by
  obtain ⟨hreader', hprogram'⟩ := settle_reading now hreader hprogram
  have hopening : (Program.start script).output = Stream.give {} (emission script.opening) :=
    Program.actAll_output _ _
  rw [hopening] at hreader' hprogram'
  refine ⟨_, _, hreader', hprogram', ?_, ?_⟩
  · exact (Tap.follows_start codec Monitor.usualTailSize observer).take now
      (emission script.opening)
  · rw [Performance.exitCode_singleton]
    exact Program.actAll_exitCode { script } script.opening

/-- Nothing more will make the console ready. -/
def readinessIsKnown (r : Rig) : Bool := r.reader.all fun reader => reader.monitor.readinessIsKnown

theorem Watches.readinessIsKnown {m : Monitor} {p : Program}
    (h : Watches codec observer id past m p r) :
    r.readinessIsKnown = (m.isReady || past.hasEnded) := by
  rw [Rig.readinessIsKnown, h.reader, ← Performance.isClosed_output, ← h.follows.hasEnded]
  rfl

theorem Watches.isReady {m : Monitor} {p : Program} (h : Watches codec observer id past m p r) :
    m.isReady = past.heard.any fun x => codec.isReadyLine x.2 := h.follows.knows.isReady

/-! ## Attending a performance -/

variable {perf : Performance} {m : Monitor} {p : Program} {t u : Timeline Rig Happening}

/-- The monitor watches a performance that has come to this point, and the rest of it is on the
agenda. -/
structure Attends (codec : Codec) (observer : Option Observer) (id : ProgramId)
    (perf past : Performance) (m : Monitor) (p : Program) (t : Timeline Rig Happening) :
    Prop where
  ordered : t.Ordered
  whole : perf = past ++ doings id t.agenda
  due : ∀ x ∈ past, x.1 ≤ t.now
  watches : Watches codec observer id past m p t.state

theorem Attends.elapses {happened : List (Nat × Happening)}
    (h : Attends codec observer id perf past m p t) (he : Elapses t happened u) :
    ∃ m' p', Attends codec observer id perf (past ++ doings id happened) m' p' u := by
  obtain ⟨m', p', hwatches⟩ := h.watches.replay happened
  refine ⟨m', p', he.ordered h.ordered, ?_, fun x hx => ?_, he.state ▸ hwatches⟩
  · rw [List.append_assoc, ← doings_append, ← he.agenda]
    exact h.whole
  · rcases List.mem_append.mp hx with hx | hx
    · exact (h.due x hx).trans he.forward
    · obtain ⟨y, hy, _, heq⟩ := exists_of_mem_doings hx
      exact heq ▸ he.due y hy

/-- A console that is ready has told it in a line. -/
theorem Attends.exists_ready (h : Attends codec observer id perf past m p t)
    (hready : m.isReady = true) : ∃ x ∈ perf.heardBy t.now, codec.isReadyLine x.2 = true := by
  rw [h.watches.isReady, List.any_eq_true] at hready
  obtain ⟨x, hx, hline⟩ := hready
  rw [h.whole]
  exact ⟨x, Performance.mem_heardBy_of_mem h.due hx, hline⟩

/-- The lines up to a deadline are those read, once no more can come. -/
theorem Attends.heardBy_eq {deadline : Nat} (h : Attends codec observer id perf past m p t)
    (hle : t.now ≤ deadline)
    (hwhy : past.hasEnded = true ∨ ∀ x ∈ doings id t.agenda, deadline < x.1) :
    perf.heardBy deadline = past.heard := by
  rw [h.whole]
  exact Performance.heardBy_eq (fun x hx => (h.due x hx).trans hle) hwhy

/-- The two ways in which a wait for readiness ends. -/
inductive ReadinessEnds (codec : Codec) (observer : Option Observer) (id : ProgramId)
    (perf : Performance) (deadline : Nat) (u : Timeline Rig Happening) : Prop
  /-- A line has told it in time. -/
  | ready {past : Performance} {m : Monitor} {p : Program} :
    Attends codec observer id perf past m p u → m.isReady = true → u.now ≤ deadline →
    ReadinessEnds codec observer id perf deadline u
  /-- None has, and the output has ended or the time is over. -/
  | missed {past : Performance} {m : Monitor} {p : Program} :
    Attends codec observer id perf past m p u → m.isReady = false → u.now ≤ deadline →
    u.now = perf.moment deadline →
    (past.hasEnded = true ∨ perf.endsBy deadline = false ∧
      ∀ x ∈ doings id u.agenda, deadline < x.1) →
    ReadinessEnds codec observer id perf deadline u

/-- The event that ends the output comes at the moment of the performance. -/
theorem Attends.now_of_end {before rest : List (Nat × Happening)} {time deadline : Nat}
    {e : Happening} (h : Attends codec observer id perf past m p t)
    (hagenda : t.agenda = before ++ (time, e) :: rest)
    (hopen : (past ++ doings id before).hasEnded = false)
    (hend : (past ++ doings id (before ++ [(time, e)])).hasEnded = true) (hle : time ≤ deadline) :
    perf.moment deadline = time := by
  rw [doings_append, ← List.append_assoc, Performance.hasEnded_append, hopen, Bool.false_or] at hend
  by_cases hid : e.program = id
  · subst hid
    have hends : endsAmong e.actions = true := by simpa [doings, Performance.hasEnded] using hend
    rw [h.whole, hagenda, doings_append, doings_cons_self (time, e), ← List.append_assoc]
    exact Performance.moment_of_end (x := (time, e.actions)) hopen hends hle
  · rw [doings_cons_other hid] at hend
    cases hend

/-- A wait for readiness that began before it was known. -/
theorem Attends.readinessEnds {deadline : Nat} {result : Bool × Timeline Rig Happening}
    (h : Attends codec observer id perf past m p t) (hle : t.now ≤ deadline)
    (hends : Timeline.WaitEnds readinessIsKnown deadline t.agenda t.state result) :
    ReadinessEnds codec observer id perf deadline result.2 := by
  obtain ⟨happened, he, hle'⟩ := hends.elapses h.ordered hle
  obtain ⟨m', p', h'⟩ := h.elapses he
  cases hready : m'.isReady with
  | true => exact .ready h' hready hle'
  | false =>
    cases hends with
    -- The event has told what was to be known, and it was not that the console is ready.
    | @met before time e rest hagenda htime hbefore hafter =>
      have hsame : happened ++ rest = (before ++ [(time, e)]) ++ rest := by
        rw [List.append_assoc]
        exact he.agenda.symm.trans hagenda
      obtain rfl := List.append_cancel_right hsame
      obtain ⟨_, _, hbetween⟩ := h.watches.replay before
      rw [hbetween.readinessIsKnown, Bool.or_eq_false_iff] at hbefore
      rw [h'.watches.readinessIsKnown, hready, Bool.false_or] at hafter
      exact .missed h' hready hle' (h.now_of_end hagenda hbefore.2 hafter htime).symm (.inl hafter)
    | @expired before rest hagenda hdue hlater hbefore =>
      obtain rfl : happened = before := List.append_cancel_right (he.agenda.symm.trans hagenda)
      rw [h'.watches.readinessIsKnown, Bool.or_eq_false_iff] at hbefore
      have hrest : ∀ x ∈ doings id rest, deadline < x.1 :=
        lt_of_mem_doings (hagenda ▸ h.ordered.sorted) hlater
      obtain ⟨hmoment, hnever⟩ := Performance.moment_of_late hbefore.2 hrest
      rw [← h'.whole] at hmoment hnever
      exact .missed h' hready (Nat.le_refl _) hmoment.symm (.inr ⟨hnever, hrest⟩)

theorem wait_readiness {timeout : Int} (h : Attends codec observer id perf past m p t)
    (hstart : past.hasEnded = true → perf.moment (t.now + timeout.toNat) = t.now) :
    ReadinessEnds codec observer id perf (t.now + timeout.toNat)
      (t.wait readinessIsKnown timeout).2 := by
  have hknown := h.watches.readinessIsKnown
  unfold Timeline.wait
  cases hnow : t.state.readinessIsKnown with
  | true =>
    rw [hnow] at hknown
    cases hready : m.isReady with
    | true => exact .ready h hready (Nat.le_add_right _ _)
    | false =>
      have hend : past.hasEnded = true := by simpa [hready] using hknown
      exact .missed h hready (Nat.le_add_right _ _) (hstart hend).symm (.inl hend)
  | false =>
    simp only [Bool.false_eq_true, if_false]
    exact h.readinessEnds (Nat.le_add_right _ _) (Timeline.advance_ends _ _ _ _ hnow)

/-- Behind a pause, all that is left of the performance is later. -/
theorem wait_pause (duration : Nat) (h : Attends codec observer id perf past m p t) :
    ∃ past' m' p', Attends codec observer id perf past' m' p'
        (t.wait (fun _ => false) duration).2 ∧
      (t.wait (fun _ => false) duration).2.now = t.now + duration ∧
      ∀ x ∈ doings id (t.wait (fun _ => false) duration).2.agenda, t.now + duration < x.1 := by
  have hends := Timeline.advance_ends (fun _ : Rig => false) (t.now + duration) t.agenda t.state rfl
  have hwait : t.wait (fun _ => false) duration =
      Timeline.advance (fun _ => false) (t.now + duration) t.agenda t.state := rfl
  rw [hwait]
  obtain ⟨happened, he, _⟩ := hends.elapses h.ordered (Nat.le_add_right _ _)
  obtain ⟨m', p', h'⟩ := h.elapses he
  refine ⟨_, m', p', h', ?_⟩
  generalize Timeline.advance (fun _ => false) (t.now + duration) t.agenda t.state = result
    at hends he
  cases hends with
  | met _ _ _ _ hafter => cases hafter
  | @expired before rest hagenda _ hlater _ =>
    exact ⟨rfl, lt_of_mem_doings (hagenda ▸ h.ordered.sorted) hlater⟩

end Rig

end CecBench
