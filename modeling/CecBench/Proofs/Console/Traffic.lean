import CecBench.Console.Codec
import CecBench.Proofs.Console.Payload

/-!
# Which lines are traffic

`IsMarker` says which texts are traffic markers, and `FirstMarker` which marker
of a line is its first one.  The reader of markers takes a marker off the start
of a text and nothing else (`afterMarker?_eq_some_iff`), and the search for the
first place finds the first one.

The module ends in what follows for the usual codec: it reads back what a frame
is written as, behind any marker and whatever the host writes before it, and it
sorts every line by the grammar.
-/

namespace CecBench

open Text

/-! ## Markers -/

theorem isBlank_of_isDecimalDigit {c : Char} (h : isDecimalDigit c = true) : isBlank c = false := by
  have hzeros : ∀ z ∈ digitZeros, (0x21 ≤ z ∧ z + 9 < 0x85) ∨ (0xA1 ≤ z ∧ z + 9 < 0x1680) ∨
      (0x1681 ≤ z ∧ z + 9 < 0x2000) ∨ 0x3001 ≤ z := by
    decide
  rw [isDecimalDigit, digitValue?, Option.isSome_map, List.find?_isSome] at h
  obtain ⟨z, hz, hc⟩ := h
  have hz' := hzeros z hz
  simp only [Bool.and_eq_true, decide_eq_true_eq] at hc
  simp [isBlank, isWhite]
  omega

/-- The word `TRAFFIC:` that begins a marker. -/
def markerWord : List Char := ['T', 'R', 'A', 'F', 'F', 'I', 'C', ':']

/-- A traffic marker: the word, a number of decimal digits in brackets, and an arrow, with blanks
where they may stand. -/
def IsMarker (m : List Char) : Prop :=
  ∃ b₁ b₂ digits b₃,
    m = markerWord ++ (b₁ ++ '[' :: (b₂ ++ (digits ++ ']' :: (b₃ ++ ['>', '>'])))) ∧
      (∀ c ∈ b₁, isBlank c = true) ∧ (∀ c ∈ b₂, isBlank c = true) ∧
      (digits ≠ [] ∧ ∀ c ∈ digits, isDecimalDigit c = true) ∧ ∀ c ∈ b₃, isBlank c = true

theorem IsMarker.starts {m : List Char} (h : IsMarker m) : ∃ t, m = markerWord ++ t := by
  obtain ⟨b₁, b₂, digits, b₃, rfl, _⟩ := h
  exact ⟨_, rfl⟩

/-- The first marker of the line stands behind `before` and in front of `rest`. -/
structure FirstMarker (line before marker rest : List Char) : Prop where
  /-- It is a marker. -/
  isMarker : IsMarker marker
  /-- It stands there. -/
  splits : line = before ++ marker ++ rest
  /-- No marker begins earlier. -/
  first : ∀ b m r, IsMarker m → line = b ++ m ++ r → before.length ≤ b.length

namespace LineGrammar

theorem run?_eq_some_iff {p : Char → Bool} {s run rest : List Char} :
    run? p s = some (run, rest) ↔
      run ≠ [] ∧ (∀ c ∈ run, p c = true) ∧ (∀ c ∈ rest.head?, p c = false) ∧
        s = run ++ rest := by
  unfold run?
  constructor
  · intro h
    simp only [Option.ite_none_left_eq_some, List.isEmpty_iff, Option.some.injEq,
      Prod.mk.injEq] at h
    obtain ⟨hne, rfl, rfl⟩ := h
    exact ⟨hne, fun _ hc => List.mem_takeWhile_imp hc, head_dropWhile p s,
      List.takeWhile_append_dropWhile.symm⟩
  · rintro ⟨hne, hrun, hrest, rfl⟩
    simp only [takeWhile_run hrun hrest, dropWhile_run hrun hrest, List.isEmpty_iff, hne,
      if_false]

/-- A marker is taken off the start of a text. -/
theorem afterMarker?_append {m : List Char} (h : IsMarker m) (rest : List Char) :
    afterMarker? (m ++ rest) = some rest := by
  obtain ⟨b₁, b₂, digits, b₃, rfl, hb₁, hb₂, ⟨hne, hdigits⟩, hb₃⟩ := h
  simp only [List.append_assoc, List.cons_append]
  have hword (t : List Char) : after? markerWord (markerWord ++ t) = some t :=
    after?_eq_some_iff.mpr rfl
  have hopen (t : List Char) : (b₁ ++ '[' :: t).dropWhile isBlank = '[' :: t :=
    dropWhile_run hb₁ (by intro c hc; cases hc; decide)
  -- The blanks behind the bracket end where the number begins, for no digit is a blank.
  have hnumber (t : List Char) : (b₂ ++ (digits ++ t)).dropWhile isBlank = digits ++ t := by
    refine dropWhile_run hb₂ fun c hc => ?_
    cases digits with
    | nil => exact absurd rfl hne
    | cons d digits =>
      cases hc
      exact isBlank_of_isDecimalDigit (hdigits c (List.mem_cons_self ..))
  have hdigits' (t : List Char) : run? isDecimalDigit (digits ++ ']' :: t) =
      some (digits, ']' :: t) :=
    run?_eq_some_iff.mpr ⟨hne, hdigits, by intro c hc; cases hc; decide, rfl⟩
  have harrow (t : List Char) : (b₃ ++ '>' :: t).dropWhile isBlank = '>' :: t :=
    dropWhile_run hb₃ (by intro c hc; cases hc; decide)
  have hstart := hword (b₁ ++ '[' :: (b₂ ++ (digits ++ ']' :: (b₃ ++ '>' :: '>' :: rest))))
  simp only [markerWord] at hstart
  simp only [afterMarker?, markerWord, hstart, hopen, hnumber, hdigits', harrow, after?, if_true,
    Option.bind_eq_bind, Option.bind_some, List.nil_append]

/-- Only a marker is taken off. -/
theorem isMarker_of_afterMarker? {s rest : List Char} (h : afterMarker? s = some rest) :
    ∃ m, IsMarker m ∧ s = m ++ rest := by
  simp only [afterMarker?, Option.bind_eq_bind, Option.bind_eq_some_iff, Prod.exists] at h
  obtain ⟨s₁, h₁, s₂, h₂, digits, s₃, h₃, s₄, h₄, h₅⟩ := h
  rw [after?_eq_some_iff] at h₁ h₂ h₄ h₅
  obtain ⟨hne, hdigits, _, hnumber⟩ := run?_eq_some_iff.mp h₃
  obtain ⟨b₁, hb₁, hs₁⟩ := exists_run isBlank s₁
  obtain ⟨b₂, hb₂, hs₂⟩ := exists_run isBlank s₂
  obtain ⟨b₃, hb₃, hs₄⟩ := exists_run isBlank s₄
  refine ⟨_, ⟨b₁, b₂, digits, b₃, rfl, hb₁, hb₂, ⟨hne, hdigits⟩, hb₃⟩, ?_⟩
  rw [h₁, hs₁, h₂, hs₂, hnumber, h₄, hs₄, h₅]
  simp only [markerWord, List.append_assoc, List.cons_append, List.nil_append]

theorem afterMarker?_eq_some_iff {s rest : List Char} :
    afterMarker? s = some rest ↔ ∃ m, IsMarker m ∧ s = m ++ rest := by
  constructor
  · exact isMarker_of_afterMarker?
  · rintro ⟨m, hm, rfl⟩
    exact afterMarker?_append hm rest

/-! ## The first place -/

variable {α : Type} {reader : List Char → Option α}

theorem firstPlace?_eq_none_iff {s : List Char} :
    firstPlace? reader s = none ↔ ∀ b r, s = b ++ r → reader r = none := by
  induction s with
  | nil =>
    constructor
    · intro h b r heq
      rw [(List.nil_eq_append_iff.mp heq).2]
      exact h
    · intro h
      exact h [] [] rfl
  | cons c s ih =>
    rw [firstPlace?]
    cases hr : reader (c :: s) with
    | some x =>
      constructor
      · intro h
        cases h
      · intro h
        rw [h [] (c :: s) rfl] at hr
        cases hr
    | none =>
      rw [ih]
      constructor
      · intro h b r heq
        cases b with
        | nil =>
          rw [← List.nil_append r, ← heq]
          exact hr
        | cons d b =>
          rw [List.cons_append, List.cons.injEq] at heq
          exact h b r heq.2
      · intro h b r heq
        exact h (c :: b) r (by rw [heq, List.cons_append])

/-- The search finds what the reader finds at the first place. -/
theorem firstPlace?_append {before rest : List Char} {x : α} (hx : reader rest = some x)
    (h : ∀ b r, before ++ rest = b ++ r → b.length < before.length → reader r = none) :
    firstPlace? reader (before ++ rest) = some x := by
  induction before with
  | nil =>
    cases rest with
    | nil => exact hx
    | cons c rest => rw [List.nil_append, firstPlace?, hx]
  | cons c before ih =>
    have hc : reader (c :: (before ++ rest)) = none :=
      h [] _ rfl (Nat.succ_pos _)
    rw [List.cons_append, firstPlace?, hc]
    refine ih fun b r heq hlt => ?_
    refine h (c :: b) r ?_ (Nat.succ_lt_succ hlt)
    rw [List.cons_append, heq, List.cons_append]

end LineGrammar

/-! ## The first marker -/

open LineGrammar

/-- A line with a marker has a first one. -/
theorem exists_firstMarker {line m : List Char} (hm : IsMarker m) (h : m <:+: line) :
    ∃ before marker rest, FirstMarker line before marker rest := by
  induction line with
  | nil =>
    obtain ⟨t, rfl⟩ := hm.starts
    cases List.infix_nil.mp h
  | cons c line ih =>
    cases ha : afterMarker? (c :: line) with
    | some rest =>
      obtain ⟨m', hm', heq⟩ := afterMarker?_eq_some_iff.mp ha
      exact ⟨[], m', rest, hm', heq, fun _ _ _ _ _ => Nat.zero_le _⟩
    | none =>
      have hnot (m' r' : List Char) (hm' : IsMarker m') : c :: line ≠ m' ++ r' := by
        intro heq
        rw [heq, afterMarker?_append hm'] at ha
        cases ha
      obtain ⟨b, r, heq⟩ := h
      cases b with
      | nil => exact absurd heq.symm (hnot m r hm)
      | cons d b =>
        simp only [List.cons_append, List.cons.injEq] at heq
        obtain ⟨before, marker, rest, hfirst⟩ := ih ⟨b, r, heq.2⟩
        refine ⟨c :: before, marker, rest, hfirst.isMarker, ?_, ?_⟩
        · rw [hfirst.splits, List.cons_append, List.cons_append]
        · intro b' m' r' hm' heq'
          cases b' with
          | nil => exact absurd heq' (hnot m' r' hm')
          | cons d' b' =>
            simp only [List.cons_append, List.cons.injEq] at heq'
            exact Nat.succ_le_succ (hfirst.first b' m' r' hm' heq'.2)

/-- Behind a text without the word, a marker is the first one.  The word cannot begin in the text and
end behind it, for its first letter stands nowhere else in it. -/
theorem firstMarker_of_not_infix {host marker : List Char} (hhost : ¬ markerWord <:+: host)
    (hm : IsMarker marker) (rest : List Char) :
    FirstMarker (host ++ marker ++ rest) host marker rest := by
  refine ⟨hm, rfl, fun b m r hm' heq => Nat.le_of_not_lt fun hlt => ?_⟩
  obtain ⟨t, rfl⟩ := hm.starts
  obtain ⟨t', rfl⟩ := hm'.starts
  simp only [List.append_assoc] at heq
  rcases List.append_eq_append_iff.mp heq with ⟨a, rfl, _⟩ | ⟨a, rfl, heq'⟩
  · rw [List.length_append] at hlt
    omega
  · -- The word that begins in the host ends in it, or it goes on behind it.
    rcases List.append_eq_append_iff.mp heq' with ⟨c, rfl, _⟩ | ⟨c, hword, hrest⟩
    · exact hhost ⟨b, c, List.append_assoc ..⟩
    · cases c with
      | nil =>
        rw [List.append_nil] at hword
        exact hhost ⟨b, [], by rw [hword, List.append_nil]⟩
      | cons x c =>
        cases a with
        | nil =>
          rw [List.append_nil] at hlt
          exact absurd hlt (Nat.lt_irrefl _)
        | cons y a =>
          have hx : 'T' = x := (List.cons.inj hrest).1
          have htail : markerWord.tail = a ++ x :: c := congrArg List.tail hword
          have hmem : 'T' ∈ markerWord.tail := by
            rw [htail, hx]
            exact List.mem_append_right _ (List.mem_cons_self ..)
          revert hmem
          decide

/-- What the search finds in a line is what follows its first marker. -/
theorem payload_of_firstMarker {line before marker rest : List Char}
    (h : FirstMarker line before marker rest) (hrest : '\n' ∉ trim rest) :
    firstPlace? trafficAt? line = some (trim rest) := by
  rw [h.splits, List.append_assoc]
  refine firstPlace?_append ?_ fun b r heq hlt => ?_
  · rw [trafficAt?, afterMarker?_append h.isMarker]
    simp [hrest]
  · cases ha : afterMarker? r with
    | none => rw [trafficAt?, ha]; rfl
    | some found =>
      obtain ⟨m, hm, rfl⟩ := afterMarker?_eq_some_iff.mp ha
      have hle := h.first b m found hm (by
        rw [h.splits, List.append_assoc, heq, List.append_assoc])
      exact absurd hlt (Nat.not_lt_of_le hle)

/-- In a line without a marker the search finds nothing. -/
theorem payload_of_no_marker {line : List Char} (h : ∀ m, IsMarker m → ¬ m <:+: line) :
    firstPlace? trafficAt? line = none := by
  rw [firstPlace?_eq_none_iff]
  intro b r heq
  cases ha : afterMarker? r with
  | none => rw [trafficAt?, ha]; rfl
  | some found =>
    obtain ⟨m, hm, rfl⟩ := afterMarker?_eq_some_iff.mp ha
    exact absurd ⟨b, found, by rw [heq, List.append_assoc]⟩ (h m hm)

namespace Codec

/-- A line with a marker is read as what follows its first one. -/
theorem decode_of_firstMarker {line : String} {before marker rest : List Char}
    (h : FirstMarker line.toList before marker rest) (hrest : '\n' ∉ trim rest) :
    usual.decode line = Frame.readPayload line (trim rest) := by
  have hpayload : usual.payload? line.toList = some (trim rest) := payload_of_firstMarker h hrest
  rw [decode, hpayload]
  show Frame.readPayload line (trim (trim rest)) = _
  rw [trim_trim]

/-- A line without a marker is no traffic. -/
theorem decode_of_no_marker {line : String} (h : ∀ m, IsMarker m → ¬ m <:+: line.toList) :
    usual.decode line = .error ⟨.notTraffic, line⟩ := by
  have hpayload : usual.payload? line.toList = none := payload_of_no_marker h
  rw [decode, hpayload]

/-- Decoding undoes encoding.  The host may write anything before the marker that does not hold the
word, and blanks may stand on either side of the bytes.  The frame comes back in full, but for the time
at which it was seen. -/
theorem decode_encode (f : Frame) (host marker blanks suffix : String)
    (hhost : ¬ markerWord <:+: host.toList) (hmarker : IsMarker marker.toList)
    (hblanks : ∀ c ∈ blanks.toList, isBlank c = true)
    (hsuffix : ∀ c ∈ suffix.toList, isBlank c = true) :
    usual.decode (host ++ marker ++ blanks ++ f.encode ++ suffix) =
        .ok { f with observedAt := none } ∧
      ∀ before behind : String, (∀ c ∈ before.toList, isBlank c = true) →
        (∀ c ∈ behind.toList, isBlank c = true) →
          Frame.parse (before ++ f.encode ++ behind) = .ok { f with observedAt := none } := by
  have hpad (before behind : List Char) (hbefore : ∀ c ∈ before, isBlank c = true)
      (hbehind : ∀ c ∈ behind, isBlank c = true) :
      trim (before ++ f.encode.toList ++ behind) = f.encode.toList := by
    rw [trim, trimBy_pad hbefore hbehind]
    exact f.encode_isPayload.trim_eq_self
  constructor
  · have hfirst := firstMarker_of_not_infix hhost hmarker
      (blanks.toList ++ f.encode.toList ++ suffix.toList)
    have hline : (host ++ marker ++ blanks ++ f.encode ++ suffix).toList =
        host.toList ++ marker.toList ++ (blanks.toList ++ f.encode.toList ++ suffix.toList) := by
      simp only [String.toList_append, List.append_assoc]
    rw [← hline] at hfirst
    have hrest := hpad _ _ hblanks hsuffix
    rw [decode_of_firstMarker hfirst, hrest, Frame.readPayload_encode]
    rw [hrest]
    exact f.encode_isPayload.not_mem_newline
  · intro before behind hbefore hbehind
    have hline : (before ++ f.encode ++ behind).toList =
        before.toList ++ f.encode.toList ++ behind.toList := by
      simp only [String.toList_append]
    rw [Frame.parse, hline, hpad _ _ hbefore hbehind, Frame.readPayload_encode]

/-- A frame comes back from behind a host's text, with blanks of several kinds around it. -/
theorem decode_encode_behind_host :
    let f : Frame := ⟨.playback1, .broadcast, .message 0x84 ⟨[0x10, 0x00, 0x04], by decide⟩, some 7⟩
    usual.decode ("rig1 T" ++ "TRAFFIC: [  2318]\t>>" ++ " " ++ f.encode ++ " \r\n") =
      .ok { f with observedAt := none } := by
  intro f
  refine (decode_encode f "rig1 T" "TRAFFIC: [  2318]\t>>" " " " \r\n" ?_ ?_ ?_ ?_).1
  · decide
  · refine ⟨[' '], [' ', ' '], ['2', '3', '1', '8'], ['\t'], rfl, ?_, ?_, ⟨by decide, ?_⟩, ?_⟩
    · exact List.all_eq_true.mp (by decide)
    · exact List.all_eq_true.mp (by decide)
    · exact List.all_eq_true.mp (by decide)
    · exact List.all_eq_true.mp (by decide)
  · exact List.all_eq_true.mp (by decide)
  · exact List.all_eq_true.mp (by decide)

/-- The usual codec accepts exactly its grammar.  A line is no traffic if it has no marker.  Otherwise
it is the text behind the first marker that counts, without the blanks around it: the line is a frame
if that text is a payload of one to sixteen bytes, and malformed if it is not.  The frame says what
the bytes say, and it is written as that text in small letters. -/
theorem decode_grammar (line : String) (hline : '\n' ∉ line.toList) :
    ((∃ e, usual.decode line = .error e ∧ e.isMalformed = false) ↔
      ¬ ∃ m, IsMarker m ∧ m <:+: line.toList) ∧
    ((∃ m, IsMarker m ∧ m <:+: line.toList) →
      ∃ before marker rest, FirstMarker line.toList before marker rest) ∧
    ∀ before marker rest, FirstMarker line.toList before marker rest →
      ((∃ f, usual.decode line = .ok f) ↔
        ∃ bytes, IsPayload bytes (trim rest) ∧ 1 ≤ bytes.length ∧ bytes.length ≤ 16) ∧
      (∀ f, usual.decode line = .ok f → ∀ bytes, IsPayload bytes (trim rest) →
        f.Carries bytes ∧ f.observedAt = none ∧ f.encode = String.ofList (lower (trim rest))) ∧
      ((¬ ∃ f, usual.decode line = .ok f) →
        ∃ e, usual.decode line = .error e ∧ e.isMalformed = true ∧ e.line = line) := by
  have hread {before marker rest : List Char}
      (h : FirstMarker line.toList before marker rest) :
      '\n' ∉ trim rest ∧ usual.decode line = Frame.readPayload line (trim rest) := by
    have hrest : '\n' ∉ trim rest := by
      intro hmem
      refine hline ?_
      rw [h.splits]
      exact List.mem_append_right _ (mem_of_mem_trim hmem)
    exact ⟨hrest, decode_of_firstMarker h hrest⟩
  refine ⟨⟨?_, ?_⟩, ?_, fun before marker rest h => ?_⟩
  · rintro ⟨e, he, hmalformed⟩ ⟨m, hm, hinfix⟩
    obtain ⟨before, marker, rest, h⟩ := exists_firstMarker hm hinfix
    rw [(hread h).2] at he
    rw [(Frame.readPayload_error he).1] at hmalformed
    cases hmalformed
  · intro hnone
    exact ⟨_, decode_of_no_marker fun m hm hinfix => hnone ⟨m, hm, hinfix⟩, rfl⟩
  · rintro ⟨m, hm, hinfix⟩
    exact exists_firstMarker hm hinfix
  · obtain ⟨hrest, hdecode⟩ := hread h
    rw [hdecode]
    refine ⟨⟨?_, ?_⟩, ?_, ?_⟩
    · rintro ⟨f, hf⟩
      obtain ⟨header, others, hlen, hpayload, _⟩ := Frame.isPayload_of_readPayload hrest hf
      exact ⟨_, hpayload, Nat.succ_pos _, Nat.succ_le_succ hlen⟩
    · rintro ⟨bytes, hpayload, hpos, hlen⟩
      cases bytes with
      | nil => cases hpos
      | cons header others =>
        exact ⟨_, Frame.readPayload_ok hpayload (Nat.le_of_succ_le_succ hlen)⟩
    · intro f hf bytes hbytes
      obtain ⟨header, others, hlen, hpayload, rfl⟩ := Frame.isPayload_of_readPayload hrest hf
      cases Frame.isPayload_unique hbytes hpayload
      exact ⟨Frame.carries_ofHeader header hlen, rfl, Frame.encode_ofHeader hpayload hlen⟩
    · intro hnone
      cases he : Frame.readPayload line (trim rest) with
      | ok f => exact absurd ⟨f, he⟩ hnone
      | error e => exact ⟨e, rfl, Frame.readPayload_error he⟩

/-- A line with a marker is traffic, be the rest what it may. -/
theorem decode_grammar_of_truncated_line :
    '\n' ∉ "TRAFFIC: [ 7]>> 4f:8".toList ∧
      ¬ ∃ e, usual.decode "TRAFFIC: [ 7]>> 4f:8" = .error e ∧ e.isMalformed = false := by
  have hline : '\n' ∉ "TRAFFIC: [ 7]>> 4f:8".toList := by decide
  refine ⟨hline, fun h => (decode_grammar _ hline).1.mp h ?_⟩
  refine ⟨"TRAFFIC: [ 7]>>".toList, ?_, ?_⟩
  · refine ⟨[' '], [' '], ['7'], [], rfl, ?_, ?_, ⟨by decide, ?_⟩, List.forall_mem_nil _⟩
    · exact List.all_eq_true.mp (by decide)
    · exact List.all_eq_true.mp (by decide)
    · exact List.all_eq_true.mp (by decide)
  · exact ⟨[], " 4f:8".toList, rfl⟩

end Codec

end CecBench
