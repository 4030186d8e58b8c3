import CecBench.Fault
import CecBench.Proofs.Frame.Draft

/-!
# Reading in steps

Between the text of a line and a frame lie several steps, and each of them can
fail in a way of its own.  A group of digits may be no numeral, a numeral may be
no byte, there may be no first byte, half of it may be no role, and the parts may
make no frame.  `readInSteps` takes all these steps, each with its own fault, and
makes the checks of the grammar before them.

The checks are enough.  By `readInSteps_eq` nothing goes wrong behind them, and
the steps together are `readPayload`.  So whatever text a codec finds in a line,
reading the line ends in a well-formed frame or in an error that tells the line
(`Codec.reads_or_refuses`).
-/

namespace CecBench

open Text

/-! ## Numerals -/

/-- All the readers of digits take the character for the digit `n`, and none of them for anything
else. -/
structure ReadsAs (n : Nat) (c : Char) : Prop where
  white : isWhite c = false
  ascii : asciiDigit c = c
  digit : digitIn? 16 c = some n
  minus : c ≠ '-'
  plus : c ≠ '+'
  mark : c ≠ 'x' ∧ c ≠ 'X'

instance (n : Nat) (c : Char) : Decidable (ReadsAs n c) :=
  decidable_of_iff (isWhite c = false ∧ asciiDigit c = c ∧ digitIn? 16 c = some n ∧
      c ≠ '-' ∧ c ≠ '+' ∧ c ≠ 'x' ∧ c ≠ 'X')
    ⟨fun ⟨hw, ha, hd, hm, hp, hx⟩ => ⟨hw, ha, hd, hm, hp, hx⟩,
      fun ⟨hw, ha, hd, hm, hp, hx⟩ => ⟨hw, ha, hd, hm, hp, hx⟩⟩

theorem IsHexDigit.reads {n : Nat} (hn : n < 16) {c : Char} (h : IsHexDigit n c) :
    ReadsAs n c := by
  have hall : ∀ n < 16, ReadsAs n (Nat.digitChar n) ∧ ReadsAs n (Nat.digitChar n).toUpper := by
    decide +kernel
  rcases h with rfl | rfl
  · exact (hall n hn).1
  · exact (hall n hn).2

/-- Two digits, with or without a line feed behind them, are the numeral of their byte. -/
theorem readHex?_of_spells {b : UInt8} {group : List Char} (h : SpellsLoosely b group) :
    readHex? group = some b.toNat := by
  have hb := b.toNat_lt
  obtain ⟨_, ⟨high, low, rfl, hhigh, hlow⟩, hgroup⟩ := h
  have hreads := hhigh.reads (by omega)
  have hreads' := hlow.reads (by omega)
  have htrim : trimBy isWhite group = [high, low] := by
    have hfeed : isWhite '\n' = true := by decide
    rcases hgroup with rfl | rfl <;>
      simp [trimBy, dropTrailing, List.dropWhile, hreads.white, hreads'.white, hfeed]
  have hsplit : splitSign group = (false, [high, low]) := by
    simp [splitSign, htrim, hreads.ascii, hreads'.ascii, hreads.minus, hreads.plus]
  have hmark : withoutHexMark [high, low] = [high, low] := by
    simp [withoutHexMark, hreads'.mark]
  have hvalue : b.toNat / 16 * 16 + b.toNat % 16 = b.toNat := Nat.div_add_mod' _ _
  simp [readHex?, hsplit, hmark, readUnsigned, readDigits, hreads.digit, hreads'.digit, withSign,
    hvalue]

namespace Frame

/-! ## The steps -/

/-- The group is two hexadecimal digits, and a line feed may stand behind them. -/
def isDigitPair : List Char → Bool
  | [a, b] | [a, b, '\n'] =>
    (PhysicalAddress.hexValue? a).isSome && (PhysicalAddress.hexValue? b).isSome
  | _ => false

/-- The byte that a group stands for as a numeral. -/
def numeralByte (group : List Char) : Except Fault UInt8 :=
  match readHex? group with
  | none => .error (.numeral (String.ofList group) .malformed)
  | some n =>
    match byteOfInt? n with
    | none => .error (.frame .operandRange)
    | some b => .ok b

/-- The parts that bytes give for a frame.  There must be a first one. -/
def Draft.ofBytes : List UInt8 → Except Fault Draft
  | [] => .error (.index .outOfRange)
  | header :: rest => .ok {
      source := .number (Int.ofNat (header.toNat / 16))
      destination := .number (Int.ofNat (header.toNat % 16))
      opcode := rest.head?.map fun b => .number (Int.ofNat b.toNat)
      operands := .bytes rest.tail }

/-- The frame that a payload stands for, in steps that can each fail in their own way. -/
def readInSteps (line : String) (payload : List Char) : Except Fault Frame := do
  if payload.isEmpty then throw (.decode ⟨.noBytes, line⟩)
  let groups := split ':' payload
  let bad := groups.filter fun g => !isDigitPair g
  unless bad.isEmpty do throw (.decode ⟨.badGroups (bad.map String.ofList), line⟩)
  if maxOperands + 2 < groups.length then throw (.decode ⟨.tooLong groups.length, line⟩)
  let bytes ← groups.mapM numeralByte
  let draft ← Draft.ofBytes bytes
  draft.build.mapError .frame

/-- The frame that a text of bytes stands for, in steps. -/
def parseInSteps (text : String) : Except Fault Frame := readInSteps text (trim text.toList)

/-! ## No step fails behind the checks -/

theorem isDigitPair_eq (group : List Char) : isDigitPair group = (groupByte? group).isSome := by
  fun_cases groupByte? group with
  | case1 a b | case2 a b =>
    cases ha : PhysicalAddress.hexValue? a <;> cases hb : PhysicalAddress.hexValue? b <;>
      simp [isDigitPair, ha, hb]
  | case3 => simp_all [isDigitPair]

theorem numeralByte_of_spells {b : UInt8} {group : List Char} (h : SpellsLoosely b group) :
    numeralByte group = .ok b := by
  have hbyte : byteOfInt? b.toNat = some b := byteOfInt?_toNat b
  simp [numeralByte, readHex?_of_spells h, hbyte]

theorem mapM_numeralByte {bytes : List UInt8} {groups : List (List Char)}
    (h : List.Forall₂ SpellsLoosely bytes groups) : groups.mapM numeralByte = .ok bytes := by
  induction h with
  | nil => rfl
  | cons hb _ ih =>
    rw [List.mapM_cons, numeralByte_of_spells hb, ih]
    rfl

/-- The parts that bytes give make the frame of the bytes, if it holds that many. -/
theorem build_ofBytes (header : UInt8) {rest : List UInt8} (h : rest.length ≤ maxOperands + 1) :
    (Draft.ofBytes (header :: rest) >>= fun d => d.build.mapError Fault.frame) =
      .ok (ofHeader header (contentOfBytes rest h)) := by
  obtain ⟨_, hfirst, hsource, hdestination⟩ := (carries_ofHeader header h).header
  cases hfirst
  refine mapError_eq_ok.mpr (Draft.Gives.build_eq_ok_iff ?_ |>.mpr rfl)
  exact {
    source := congrArg Int.ofNat hsource.symm
    destination := congrArg Int.ofNat hdestination.symm
    opcode := by cases rest <;> rfl
    operands := by cases rest <;> exact .bytes _
    observedAt := rfl }

/-- Behind the check of the groups, what is left fails only for too many of them. -/
theorem steps_behind_check {line : String} {groups : List (List Char)} {header : UInt8}
    {rest : List UInt8} (h : List.Forall₂ SpellsLoosely (header :: rest) groups) :
    (do
      if maxOperands + 2 < groups.length then throw (.decode ⟨.tooLong groups.length, line⟩)
      let bytes ← groups.mapM numeralByte
      let draft ← Draft.ofBytes bytes
      draft.build.mapError .frame : Except Fault Frame) =
      Except.mapError .decode
        (if h : rest.length ≤ maxOperands + 1 then .ok (ofHeader header (contentOfBytes rest h))
        else .error ⟨.tooLong (rest.length + 1), line⟩) := by
  have hlength : groups.length = rest.length + 1 := h.length_eq.symm
  by_cases hlen : rest.length ≤ maxOperands + 1
  · rw [dif_pos hlen, if_neg (by omega), mapM_numeralByte h]
    exact build_ofBytes header hlen
  · rw [dif_neg hlen, if_pos (by omega), hlength]
    rfl

/-- The steps together are `readPayload`, and they fail with nothing but its errors. -/
theorem readInSteps_eq (line : String) (payload : List Char) :
    readInSteps line payload = (readPayload line payload).mapError .decode := by
  by_cases hempty : payload.isEmpty = true
  · simp only [readInSteps, readPayload, if_pos hempty]
    rfl
  have hcheck : ((split ':' payload).filter fun g => !isDigitPair g) =
      (split ':' payload).filter fun g => (groupByte? g).isNone := by
    simp only [isDigitPair_eq, Option.not_isSome]
  simp only [readInSteps, readPayload, if_neg hempty, hcheck]
  cases hbad : (split ':' payload).filter fun g => (groupByte? g).isNone with
  | cons bad others =>
    simp only [groupBytes, hbad]
    rfl
  | nil =>
    obtain ⟨bytes, hbytes⟩ : ∃ bytes, groupBytes (split ':' payload) = .ok bytes :=
      ⟨_, by rw [groupBytes, hbad]⟩
    obtain ⟨hne, _⟩ := groupBytes_split_iff.mp hbytes
    obtain ⟨header, rest, rfl⟩ := List.exists_cons_of_ne_nil hne
    rw [hbytes]
    exact steps_behind_check (groupBytes_eq_ok_iff.mp hbytes)

/-! ## What reading ends in -/

/-- All that has to hold of the parts of a frame.  An opcode that has a name goes by it. -/
structure IsWellFormed (f : Frame) : Prop where
  source : f.source.code < 16
  destination : f.destination.code < 16
  opcode : ∀ b, f.opcode? = some b → b.toNat < 256 ∧ ∀ o, Opcode.ofCode? b = some o ↔ o.code = b
  operands : f.operands.length ≤ maxOperands
  poll : f.opcode? = none → f.operands = []

theorem isWellFormed (f : Frame) : f.IsWellFormed where
  source := f.source.code_lt
  destination := f.destination.code_lt
  opcode b _ := ⟨b.toNat_lt, fun _ => Opcode.ofCode?_eq_some_iff⟩
  operands := f.length_operands_le
  poll := f.operands_of_poll

/-- How reading a line ends, and how reading it in steps ends. -/
inductive ReadingEnds (line : String) : Except DecodeError Frame → Except Fault Frame → Prop
  | frame {f : Frame} : f.IsWellFormed → ReadingEnds line (.ok f) (.ok f)
  /-- The error tells the line. -/
  | refused {e : DecodeError} : e.line = line → ReadingEnds line (.error e) (.error (.decode e))

theorem readPayload_ends (line : String) (payload : List Char) :
    ReadingEnds line (readPayload line payload) (readInSteps line payload) := by
  rw [readInSteps_eq]
  cases h : readPayload line payload with
  | ok f => exact .frame f.isWellFormed
  | error e => exact .refused (readPayload_error h).2

end Frame

/-- The frame that a line tells of, where its payload is read in steps. -/
def Codec.decodeInSteps (codec : Codec) (line : String) : Except Fault Frame :=
  match codec.payload? line.toList with
  | none => .error (.decode ⟨.notTraffic, line⟩)
  | some payload => Frame.readInSteps line (trim payload)

/-- Whatever payload a codec finds in a line, and whatever text is given for a bare frame, reading it
ends in a well-formed frame or in an error that tells the line.  So does reading it in steps, of which
none but the checks ever fails. -/
theorem Codec.reads_or_refuses (codec : Codec) (line : String) :
    Frame.ReadingEnds line (codec.decode line) (codec.decodeInSteps line) ∧
      Frame.ReadingEnds line (Frame.parse line) (Frame.parseInSteps line) := by
  refine ⟨?_, Frame.readPayload_ends line _⟩
  unfold decode decodeInSteps
  cases codec.payload? line.toList with
  | none => exact .refused rfl
  | some payload => exact Frame.readPayload_ends line _

end CecBench
