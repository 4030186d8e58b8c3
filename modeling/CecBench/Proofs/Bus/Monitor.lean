import CecBench.Bus.Monitor
import Mathlib.Data.List.DropRight

/-!
# What a monitor knows

`Monitor.Knows` is the relation between the lines that a monitor has read and
everything that the monitor keeps.  Each part of a monitor is a function of the
lines and of the times at which they were read: the count of lines, the log,
the count of malformed frames, the last diagnostic lines, whether the console
is ready, and what the observer was told.

One line keeps the relation (`Knows.readLine`), and so does reading on
(`Knows.readOn`), which stops only at a chunk that holds no text.  So does
taking what a stream holds, with a monitor that was told to stop as well
(`Knows.drain`).
-/

namespace CecBench

/-- A line with the time at which it is read. -/
abbrev Reading := Nat × String

/-! ## The three kinds of lines -/

namespace Codec

/-- The frame that a reading tells of, stamped with the time. -/
def seen? (codec : Codec) (r : Reading) : Option Frame :=
  match codec.decode r.2 with
  | .ok f => some (f.stampedAt r.1)
  | .error _ => none

/-- The line is a malformed frame. -/
def isMalformedLine (codec : Codec) (line : String) : Bool :=
  match codec.decode line with
  | .ok _ => false
  | .error e => e.isMalformed

/-- The line is no frame, not even a malformed one. -/
def isDiagnosticLine (codec : Codec) (line : String) : Bool :=
  match codec.decode line with
  | .ok _ => false
  | .error e => !e.isMalformed

variable {codec : Codec} {r : Reading}

theorem kind_of_ok {f : Frame} (h : codec.decode r.2 = .ok f) :
    codec.seen? r = some (f.stampedAt r.1) ∧ codec.isMalformedLine r.2 = false ∧
      codec.isDiagnosticLine r.2 = false := by
  simp only [seen?, isMalformedLine, isDiagnosticLine, h, and_self]

theorem kind_of_error {e : DecodeError} (h : codec.decode r.2 = .error e) :
    codec.seen? r = none ∧ codec.isMalformedLine r.2 = e.isMalformed ∧
      codec.isDiagnosticLine r.2 = !e.isMalformed := by
  simp only [seen?, isMalformedLine, isDiagnosticLine, h, and_self]

/-- Every reading is of exactly one kind. -/
theorem length_eq_kinds (codec : Codec) (readings : List Reading) :
    readings.length = (readings.filterMap codec.seen?).length +
      (readings.countP fun r => codec.isMalformedLine r.2) +
      readings.countP fun r => codec.isDiagnosticLine r.2 := by
  induction readings with
  | nil => rfl
  | cons r rest ih =>
    simp only [List.length_cons, List.filterMap_cons, List.countP_cons]
    cases hd : codec.decode r.2 with
    | ok f =>
      obtain ⟨hseen, hmal, hdiag⟩ := kind_of_ok hd
      simp only [hseen, hmal, hdiag, List.length_cons, Bool.false_eq_true, if_false]
      omega
    | error e =>
      obtain ⟨hseen, hmal, hdiag⟩ := kind_of_error hd
      cases he : e.isMalformed <;> simp only [hseen, hmal, hdiag, he, Bool.not_true,
        Bool.not_false, Bool.false_eq_true, if_true, if_false]
      · omega
      · omega

theorem seen?_observedAt {f : Frame} (h : codec.seen? r = some f) :
    f.observedAt = some (r.1 : Int) := by
  cases hd : codec.decode r.2 with
  | ok g =>
    rw [(kind_of_ok hd).1] at h
    cases h
    rfl
  | error e =>
    rw [(kind_of_error hd).1] at h
    cases h

/-- Of readings in the order of their times, the stamps never decrease. -/
theorem stamps_sorted (codec : Codec) {readings : List Reading}
    (h : readings.Pairwise fun x y => x.1 ≤ y.1) :
    (readings.filterMap codec.seen?).Pairwise fun f g =>
      ∃ a b : Int, f.observedAt = some a ∧ g.observedAt = some b ∧ a ≤ b := by
  refine List.Pairwise.filterMap codec.seen? ?_ h
  intro x y hxy f hf g hg
  exact ⟨x.1, y.1, seen?_observedAt hf, seen?_observedAt hg, Int.ofNat_le.mpr hxy⟩

end Codec

namespace Monitor

/-! ## One line -/

/-- Keeping the last members one by one is the same as keeping them in the end. -/
theorem keepLast_rtake {α : Type} (count : Nat) (xs : List α) (x : α) :
    keepLast count (xs.rtake count) x = (xs ++ [x]).rtake count := by
  cases count with
  | zero => simp [keepLast]
  | succ n =>
    rw [List.rtake_concat_succ]
    simp only [keepLast, List.rtake, List.length_append, List.length_drop, List.length_singleton]
    rcases Nat.lt_or_ge n xs.length with hlt | hge
    · rw [List.drop_append_of_le_length (by rw [List.length_drop]; omega), List.drop_drop]
      congr 2
      omega
    · have hall : xs.length - (n + 1) = 0 := by omega
      have hnone : xs.length - 0 + 1 - (n + 1) = 0 := by omega
      have hdrop : xs.length - n = 0 := by omega
      rw [hall, hnone, hdrop]
      rfl

/-- A frame counts as a line and goes to the log and to the observer. -/
theorem readLine_of_ok {m : Monitor} (now : Nat) {line : String} {f : Frame}
    (h : m.codec.decode line = .ok f) :
    m.readLine now line = { m with
      linesRead := m.linesRead + 1
      isReady := m.isReady || m.codec.isReadyLine line
      log := m.log.append (f.stampedAt now)
      reports := m.reports ++
        m.observer.elim [] fun tell => [(f.stampedAt now, tell (f.stampedAt now))] } := by
  simp only [readLine, h, record]
  cases m.observer with
  | none => simp
  | some tell => rfl

/-- Any other line counts as a line and as what it is. -/
theorem readLine_of_error {m : Monitor} (now : Nat) {line : String} {e : DecodeError}
    (h : m.codec.decode line = .error e) :
    m.readLine now line = { m with
      linesRead := m.linesRead + 1
      isReady := m.isReady || m.codec.isReadyLine line
      malformed := if e.isMalformed then m.malformed + 1 else m.malformed
      diagnostics :=
        if e.isMalformed then m.diagnostics else keepLast m.tailSize m.diagnostics line } := by
  simp only [readLine, h]
  cases e.isMalformed <;> rfl

/-- No line stops a monitor or ends it. -/
theorem readLine_runs_on (m : Monitor) (now : Nat) (line : String) :
    (m.readLine now line).isStopping = m.isStopping ∧
      (m.readLine now line).hasEnded = m.hasEnded := by
  cases h : m.codec.decode line with
  | ok f =>
    rw [readLine_of_ok now h]
    exact ⟨rfl, rfl⟩
  | error e =>
    rw [readLine_of_error now h]
    exact ⟨rfl, rfl⟩

/-- The monitor knows what a monitor of the codec, the size and the observer knows that has read
these lines and no others. -/
structure Knows (codec : Codec) (tailSize : Nat) (observer : Option Observer)
    (readings : List Reading) (m : Monitor) : Prop where
  /-- It reads with the codec. -/
  reads : m.codec = codec
  /-- It keeps that many diagnostic lines. -/
  keeps : m.tailSize = tailSize
  /-- It tells the observer. -/
  tells : m.observer = observer
  /-- It has counted the lines. -/
  linesRead : m.linesRead = readings.length
  /-- Its log has a frame for each line that is one, in the same order and with the time. -/
  frames : m.log.frames = readings.filterMap codec.seen?
  /-- It has counted the malformed frames. -/
  malformed : m.malformed = readings.countP fun r => codec.isMalformedLine r.2
  /-- It has kept the last of the other lines. -/
  diagnostics : m.diagnostics =
    ((readings.map Prod.snd).filter codec.isDiagnosticLine).rtake tailSize
  /-- It takes the console for ready if one of the lines told so. -/
  isReady : m.isReady = readings.any fun r => codec.isReadyLine r.2
  /-- It has told the observer of each frame in the log once, in the same order. -/
  reports : m.reports =
    observer.elim [] fun tell => (readings.filterMap codec.seen?).map fun f => (f, tell f)

namespace Knows

variable {codec : Codec} {tailSize : Nat} {observer : Option Observer} {readings : List Reading}
  {m : Monitor}

/-- A new monitor knows what one knows that has read nothing. -/
theorem start (codec : Codec) (tailSize : Nat) (observer : Option Observer) :
    Knows codec tailSize observer [] { codec, tailSize, observer } where
  reads := rfl
  keeps := rfl
  tells := rfl
  linesRead := rfl
  frames := rfl
  malformed := rfl
  diagnostics := by simp
  isReady := rfl
  reports := by cases observer <;> rfl

/-- That a monitor ends is not part of what it knows. -/
theorem finish (h : Knows codec tailSize observer readings m) :
    Knows codec tailSize observer readings m.finish := by
  obtain ⟨h1, h2, h3, h4, h5, h6, h7, h8, h9⟩ := h
  exact ⟨h1, h2, h3, h4, h5, h6, h7, h8, h9⟩

/-- That a monitor is told to stop is not part of what it knows. -/
theorem stop (h : Knows codec tailSize observer readings m) :
    Knows codec tailSize observer readings m.stop := by
  obtain ⟨h1, h2, h3, h4, h5, h6, h7, h8, h9⟩ := h
  exact ⟨h1, h2, h3, h4, h5, h6, h7, h8, h9⟩

/-- One line keeps what a monitor knows in step with the lines. -/
theorem readLine (h : Knows codec tailSize observer readings m) (now : Nat) (line : String) :
    Knows codec tailSize observer (readings ++ [(now, line)]) (m.readLine now line) := by
  obtain ⟨rfl, rfl, rfl, hlines, hframes, hmalformed, hdiagnostics, hready, hreports⟩ := h
  have hlines' : m.linesRead + 1 = (readings ++ [(now, line)]).length := by
    rw [hlines, List.length_append, List.length_singleton]
  have hready' : (m.isReady || m.codec.isReadyLine line) =
      (readings ++ [(now, line)]).any fun r => m.codec.isReadyLine r.2 := by
    rw [hready, List.any_append, List.any_cons, List.any_nil, Bool.or_false]
  cases hd : m.codec.decode line with
  | ok f =>
    obtain ⟨hseen, hmal, hdiag⟩ := Codec.kind_of_ok (r := (now, line)) hd
    rw [readLine_of_ok now hd]
    refine ⟨rfl, rfl, rfl, hlines', ?_, ?_, ?_, hready', ?_⟩
    · simp [BusLog.append, hframes, hseen]
    · simp [hmalformed, hmal]
    · simp [hdiagnostics, hdiag]
    · rw [hreports]
      cases m.observer <;> simp [hseen]
  | error e =>
    obtain ⟨hseen, hmal, hdiag⟩ := Codec.kind_of_error (r := (now, line)) hd
    have hsame : (readings ++ [(now, line)]).filterMap m.codec.seen? =
        readings.filterMap m.codec.seen? := by
      simp [hseen]
    rw [readLine_of_error now hd]
    cases he : e.isMalformed with
    | true =>
      refine ⟨rfl, rfl, rfl, hlines', hsame ▸ hframes, ?_, ?_, hready', hsame ▸ hreports⟩
      · simp [hmalformed, hmal, he]
      · simp [hdiagnostics, hdiag, he]
    | false =>
      refine ⟨rfl, rfl, rfl, hlines', hsame ▸ hframes, ?_, ?_, hready', hsame ▸ hreports⟩
      · simp [hmalformed, hmal, he]
      · simp only [hdiagnostics, Bool.false_eq_true, if_false, keepLast_rtake]
        simp [hdiag, he]

end Knows

/-! ## Reading on -/

/-- The lines that chunks deliver.  A chunk without text is the end, whatever stands behind it. -/
def linesOf : List Chunk → List String
  | [] => []
  | chunk :: rest =>
    match chunk.text? with
    | none => []
    | some text => withoutLineEnd text :: linesOf rest

variable {codec : Codec} {tailSize : Nat} {observer : Option Observer} {readings : List Reading}
  {m : Monitor}

/-- A monitor that nobody told to stop reads every line and no other, and it ends with the stream or
at a chunk without text.  Unless it ends it leaves nothing. -/
theorem Knows.readOn (h : Knows codec tailSize observer readings m) (now : Nat) (ended : Bool)
    (chunks : List Chunk) (hstop : m.isStopping = false) (hend : m.hasEnded = false) :
    let r := Monitor.readOn now ended chunks m
    Knows codec tailSize observer (readings ++ (linesOf chunks).map (now, ·)) r.1 ∧
      r.1.isStopping = false ∧
      r.1.hasEnded = (ended || chunks.any fun chunk => chunk.text?.isNone) ∧
      (r.1.hasEnded = false → r.2 = []) := by
  induction chunks generalizing m readings with
  | nil =>
    simp only [Monitor.readOn, linesOf, List.map_nil, List.append_nil, List.any_nil, Bool.or_false]
    cases ended with
    | true => exact ⟨h.finish, hstop, rfl, fun _ => trivial⟩
    | false => exact ⟨h, hstop, hend, fun _ => trivial⟩
  | cons chunk rest ih =>
    cases hc : chunk.text? with
    | none =>
      simp only [Monitor.readOn, linesOf, hc, List.map_nil, List.append_nil, List.any_cons,
        Option.isNone_none, Bool.true_or, Bool.or_true]
      exact ⟨h.finish, hstop, rfl, fun hf => by cases hf⟩
    | some text =>
      have hline := h.readLine now (withoutLineEnd text)
      obtain ⟨hstop', hend'⟩ := m.readLine_runs_on now (withoutLineEnd text)
      rw [hstop] at hstop'
      rw [hend] at hend'
      have hrest := ih hline hstop' hend'
      simpa only [Monitor.readOn, linesOf, hc, hstop', List.map_cons, List.any_cons,
        Option.isNone_some, Bool.false_or, Bool.false_eq_true, if_false, List.append_assoc,
        List.singleton_append] using hrest

/-- A monitor that was told to stop reads at most one line and ends, unless there is nothing. -/
theorem Knows.readOn_stopping (h : Knows codec tailSize observer readings m) (now : Nat)
    (ended : Bool) (chunks : List Chunk) (hstop : m.isStopping = true) (hend : m.hasEnded = false) :
    let r := Monitor.readOn now ended chunks m
    Knows codec tailSize observer (readings ++ ((linesOf chunks).map (now, ·)).take 1) r.1 ∧
      r.1.isStopping = true ∧ r.1.hasEnded = (ended || !chunks.isEmpty) ∧
      (r.1.hasEnded = false → r.2 = []) := by
  cases chunks with
  | nil =>
    simp only [Monitor.readOn, linesOf, List.map_nil, List.take_nil, List.append_nil,
      List.isEmpty_nil, Bool.not_true, Bool.or_false]
    cases ended with
    | true => exact ⟨h.finish, hstop, rfl, fun _ => trivial⟩
    | false => exact ⟨h, hstop, hend, fun _ => trivial⟩
  | cons chunk rest =>
    rw [List.isEmpty_cons, Bool.not_false, Bool.or_true]
    cases hc : chunk.text? with
    | none =>
      simp only [Monitor.readOn, linesOf, hc, List.map_nil, List.take_nil, List.append_nil]
      exact ⟨h.finish, hstop, rfl, fun hf => by cases hf⟩
    | some text =>
      have hline := h.readLine now (withoutLineEnd text)
      obtain ⟨hstop', _⟩ := m.readLine_runs_on now (withoutLineEnd text)
      rw [hstop] at hstop'
      simp only [Monitor.readOn, linesOf, hc, hstop', if_true, List.map_cons, List.take_succ_cons,
        List.take_zero]
      exact ⟨hline.finish, hstop', rfl, fun hf => by cases hf⟩

/-- However a stream is drained, the monitor knows what one knows that has read some more lines. -/
theorem Knows.drain (h : Knows codec tailSize observer readings m) (now : Nat) (s : Stream) :
    ∃ more, Knows codec tailSize observer (readings ++ more) (m.drain now s).1 := by
  cases hend : m.hasEnded with
  | true =>
    refine ⟨[], ?_⟩
    rw [Monitor.drain, if_pos hend, List.append_nil]
    exact h
  | false =>
    rw [Monitor.drain, if_neg (by simp [hend])]
    cases hstop : m.isStopping with
    | true => exact ⟨_, (h.readOn_stopping now s.ended s.pending hstop hend).1⟩
    | false => exact ⟨_, (h.readOn now s.ended s.pending hstop hend).1⟩

end Monitor

end CecBench
