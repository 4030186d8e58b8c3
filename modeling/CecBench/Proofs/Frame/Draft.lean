import CecBench.Frame.Draft
import CecBench.Proofs.Console.Payload
import Mathlib.Data.Set.List

/-!
# What makes a frame

A frame is made of numbers: of its sender, its receiver, its opcode and its operands.  Each can be
given in several ways, a role or an opcode by its name or by its number, operands as bytes or as
numbers.  `Draft.Gives` says which numbers are given, and nothing else about the way matters: by
`Draft.Gives.build_eq_ok_iff` a frame is made exactly if it has the numbers given.  There is one
exactly if they fit (`exists_parts_iff`), and every frame is made again of its own parts
(`build_draft`).

Frames are the same message if they have the same opcode and the same operands.  The text of a
frame shows that behind its header, and with the header it shows everything but the time
(`encode_eq_iff`).
-/

namespace CecBench

/-! ## Numbers of bytes and roles -/

/-- The number of a byte. -/
def byteNumber (b : UInt8) : Int := Int.ofNat b.toNat

theorem byteNumber_injective : Function.Injective byteNumber := by
  intro a b h
  exact UInt8.toNat_inj.mp (Int.ofNat.inj h)

theorem byteOfInt?_toNat (b : UInt8) : byteOfInt? (byteNumber b) = some b := by
  have hb := b.toNat_lt
  have hrange : 0 ≤ byteNumber b ∧ byteNumber b < 256 := by
    rw [byteNumber, Int.ofNat_eq_natCast]
    omega
  rw [byteOfInt?, if_pos hrange]
  simp [byteNumber]

theorem byteOfInt?_eq_some_iff {n : Int} {b : UInt8} :
    byteOfInt? n = some b ↔ byteNumber b = n := by
  constructor
  · intro h
    rw [byteOfInt?] at h
    split at h
    · cases h
      rw [byteNumber, UInt8.toNat_ofNat', Int.ofNat_eq_natCast]
      omega
    · cases h
  · rintro rfl
    exact byteOfInt?_toNat b

theorem exists_byte_iff {n : Int} : (∃ b, byteNumber b = n) ↔ 0 ≤ n ∧ n ≤ 255 := by
  constructor
  · rintro ⟨b, rfl⟩
    have hb := b.toNat_lt
    rw [byteNumber, Int.ofNat_eq_natCast]
    omega
  · intro hn
    refine ⟨UInt8.ofNat n.toNat, ?_⟩
    rw [byteNumber, UInt8.toNat_ofNat', Int.ofNat_eq_natCast]
    omega

theorem exists_bytes_iff {ns : List Int} :
    (∃ bytes : List UInt8, bytes.map byteNumber = ns) ↔ ∀ n ∈ ns, 0 ≤ n ∧ n ≤ 255 := by
  rw [← Set.mem_range, Set.range_list_map]
  simp only [Set.mem_ofPred_eq, Set.mem_range, exists_byte_iff]

namespace LogicalAddress

theorem code_injective {a b : LogicalAddress} (h : a.code = b.code) : a = b := by
  have hsame : (⟨a.code, a.code_lt⟩ : Fin 16) = ⟨b.code, b.code_lt⟩ := Fin.ext h
  rw [← ofCode_code a, hsame, ofCode_code]

theorem ofInt_eq_ok_iff {n : Int} {a : LogicalAddress} :
    ofInt n = .ok a ↔ Int.ofNat a.code = n := by
  have ha := a.code_lt
  rw [ofInt, Int.ofNat_eq_natCast]
  split
  · rw [Except.ok.injEq]
    constructor
    · rintro rfl
      rw [code_ofCode]
      exact Int.toNat_of_nonneg (by omega)
    · rintro rfl
      exact a.ofCode_code
  · simp only [reduceCtorEq, false_iff]
    omega

theorem exists_code_iff {n : Int} :
    (∃ a : LogicalAddress, Int.ofNat a.code = n) ↔ 0 ≤ n ∧ n ≤ 15 := by
  constructor
  · rintro ⟨a, rfl⟩
    have ha := a.code_lt
    rw [Int.ofNat_eq_natCast]
    omega
  · intro hn
    refine ⟨ofCode ⟨n.toNat, by omega⟩, ?_⟩
    rw [code_ofCode]
    exact Int.toNat_of_nonneg hn.1

end LogicalAddress

theorem Opcode.ofCode?_eq_some_iff {b : UInt8} {o : Opcode} : ofCode? b = some o ↔ o.code = b := by
  constructor
  · intro h
    simpa using List.find?_some h
  · rintro rfl
    cases o <;> rfl

/-! ## What a caller gives -/

theorem AddressSpec.resolve_eq_ok_iff {s : AddressSpec} {a : LogicalAddress} :
    s.resolve = .ok a ↔ Int.ofNat a.code = s.value := by
  cases s with
  | named b =>
    rw [resolve, value, Except.ok.injEq]
    constructor
    · rintro rfl
      rfl
    · intro h
      exact (LogicalAddress.code_injective (Int.ofNat.inj h)).symm
  | number n => exact LogicalAddress.ofInt_eq_ok_iff

theorem Frame.resolveOpcode_eq_ok_iff {o : OpcodeSpec} {b : UInt8} :
    resolveOpcode o = .ok b ↔ byteNumber b = o.value := by
  cases o with
  | named o =>
    rw [resolveOpcode, Except.ok.injEq, eq_comm]
    exact byteNumber_injective.eq_iff.symm
  | number n =>
    rw [OpcodeSpec.value, ← byteOfInt?_eq_some_iff, resolveOpcode]
    cases byteOfInt? n <;> simp

namespace OperandSpec

/-- The operands are given as these numbers. -/
inductive Lists : OperandSpec → List Int → Prop
  | bytes (bs : List UInt8) : Lists (.bytes bs) (bs.map byteNumber)
  | values (ns : List Int) : Lists (.values ns) ns
  | zeros (count : Nat) : Lists (.zeros count) (List.replicate count 0)

theorem zerosError?_of_few {count : Nat} (h : count ≤ maxOperands) : zerosError? count = none := by
  have hall : ∀ count < 15, zerosError? (Int.ofNat count) = none := by decide
  exact hall count (Nat.lt_succ_of_le h)

theorem error?_values {ns : List Int} :
    (values ns).error? = none ↔ ∀ n ∈ ns, ∃ b, byteOfInt? n = some b := by
  simp [error?, Option.isSome_iff_exists]

/-- Numbers are accepted as the bytes that have them. -/
theorem values_accepted_iff {ns : List Int} {bytes : List UInt8} :
    (values ns).error? = none ∧ (values ns).toBytes = bytes ↔ bytes.map byteNumber = ns := by
  constructor
  · rintro ⟨hbytes, rfl⟩
    rw [error?_values] at hbytes
    have hnumber : ∀ n ∈ ns, (byteNumber ∘ fun n => (byteOfInt? n).getD 0) n = id n := by
      intro n hn
      obtain ⟨b, hb⟩ := hbytes n hn
      simp [hb, byteOfInt?_eq_some_iff.mp hb]
    rw [toBytes, List.map_map, List.map_congr_left hnumber, List.map_id]
  · rintro rfl
    simp [error?_values, toBytes, byteOfInt?_toNat, Function.comp_def]

/-- Operands that fit in a frame are accepted as bytes exactly if their numbers are bytes. -/
theorem Lists.accepted_iff {o : OperandSpec} {ns : List Int} (h : o.Lists ns) {bytes : List UInt8}
    (hfits : bytes.length ≤ maxOperands) :
    o.error? = none ∧ o.toBytes = bytes ↔ bytes.map byteNumber = ns := by
  cases h with
  | bytes bs => simp [error?, toBytes, byteNumber_injective.list_map.eq_iff, eq_comm]
  | values => exact values_accepted_iff
  | zeros count =>
    have hzeros : List.replicate count (0 : Int) = (List.replicate count 0).map byteNumber := by
      rw [List.map_replicate]
      rfl
    rw [hzeros, byteNumber_injective.list_map.eq_iff, eq_comm (a := bytes)]
    simp only [error?, toBytes, Int.toNat_natCast, and_iff_right_iff_imp]
    rintro rfl
    rw [List.length_replicate] at hfits
    exact zerosError?_of_few hfits

theorem check_eq_ok_iff {o : OperandSpec} {u : Unit} : o.check = .ok u ↔ o.error? = none := by
  rw [check]
  cases o.error? <;> simp

end OperandSpec

/-! ## Making a frame -/

section Steps

variable {α β ε ε' : Type} {x : Except ε α} {a : α}

theorem except_bind_eq_ok {k : α → Except ε β} {b : β} :
    (x >>= k) = .ok b ↔ ∃ a, x = .ok a ∧ k a = .ok b := by
  cases x <;> simp [bind, Except.bind]

theorem mapError_eq_ok {f : ε → ε'} : x.mapError f = .ok a ↔ x = .ok a := by
  cases x <;> simp [Except.mapError]

end Steps

namespace Frame

theorem length_operands_le (f : Frame) : f.operands.length ≤ maxOperands := by
  obtain ⟨source, destination, content, observedAt⟩ := f
  cases content with
  | poll => exact Nat.zero_le _
  | message opcode bytes => exact bytes.fits

theorem operands_of_poll (f : Frame) (h : f.opcode? = none) : f.operands = [] := by
  obtain ⟨source, destination, content, observedAt⟩ := f
  cases content with
  | poll => rfl
  | message opcode bytes => cases h

theorem mapM_resolveOpcode_iff {o : Option OpcodeSpec} {b? : Option UInt8} :
    o.mapM resolveOpcode = .ok b? ↔ b?.map byteNumber = o.map OpcodeSpec.value := by
  cases o with
  | none => cases b? <;> simp [pure, Except.pure]
  | some o =>
    have hsome : (some o).mapM resolveOpcode = .ok b? ↔
        ∃ b, b? = some b ∧ resolveOpcode o = .ok b := by
      rw [Option.mapM_some]
      cases resolveOpcode o <;> simp [Functor.map, Except.map, eq_comm]
    rw [hsome, Option.map_some, Option.map_eq_some_iff]
    simp only [resolveOpcode_eq_ok_iff]

theorem contentOf_eq_ok_iff {opcode : Option UInt8} {o : OperandSpec} {f : Frame} :
    contentOf opcode o = .ok f.content ↔ f.opcode? = opcode ∧ o.toBytes = f.operands := by
  have hcount := o.length_toBytes
  obtain ⟨source, destination, content, observedAt⟩ := f
  cases content with
  | poll =>
    cases opcode with
    | none => simp [contentOf, opcode?, operands, ← hcount]
    | some b =>
      rw [contentOf]
      split <;> simp [opcode?]
  | message b bytes =>
    have hfits := bytes.fits
    cases opcode with
    | none =>
      rw [contentOf]
      split <;> simp [opcode?]
    | some b' =>
      rw [contentOf]
      split
      · rename_i hfew
        obtain ⟨bytes, hbytes⟩ := bytes
        simp [opcode?, operands, eq_comm]
      · rename_i hmany
        simp only [opcode?, operands, Option.some.injEq, reduceCtorEq, false_iff, not_and]
        intro _ hbytes
        rw [← hbytes, hcount] at hfits
        exact hmany hfits

theorem build_eq_ok_iff {d : Draft} {f : Frame} :
    d.build = .ok f ↔ d.source.resolve = .ok f.source ∧ d.destination.resolve = .ok f.destination ∧
      d.opcode.mapM resolveOpcode = .ok f.opcode? ∧ d.operands.error? = none ∧
      d.operands.toBytes = f.operands ∧ d.observedAt = f.observedAt := by
  simp only [Draft.build, except_bind_eq_ok, mapError_eq_ok, OperandSpec.check_eq_ok_iff]
  constructor
  · rintro ⟨source, hsource, destination, hdestination, opcode, hopcode, _, hcheck, content,
      hcontent, heq⟩
    cases heq
    have hframe : contentOf opcode d.operands =
        .ok (Frame.mk source destination content d.observedAt).content := hcontent
    obtain ⟨rfl, hbytes⟩ := contentOf_eq_ok_iff.mp hframe
    exact ⟨hsource, hdestination, hopcode, hcheck, hbytes, rfl⟩
  · rintro ⟨hsource, hdestination, hopcode, hcheck, hbytes, hseen⟩
    refine ⟨_, hsource, _, hdestination, _, hopcode, (), hcheck, f.content,
      contentOf_eq_ok_iff.mpr ⟨rfl, hbytes⟩, ?_⟩
    rw [hseen]
    rfl

/-! ## The numbers of a frame -/

/-- The numbers that a frame is made of. -/
structure Parts where
  /-- The sender. -/
  source : Int
  /-- The receiver. -/
  destination : Int
  /-- The opcode, or none for a poll. -/
  opcode : Option Int
  /-- The operands. -/
  operands : List Int
  /-- When the frame was seen. -/
  observedAt : Option Int

/-- The numbers fit in a frame. -/
structure Parts.Fit (p : Parts) : Prop where
  source : 0 ≤ p.source ∧ p.source ≤ 15
  destination : 0 ≤ p.destination ∧ p.destination ≤ 15
  opcode : ∀ n ∈ p.opcode, 0 ≤ n ∧ n ≤ 255
  operands : ∀ n ∈ p.operands, 0 ≤ n ∧ n ≤ 255
  count : p.operands.length ≤ 14
  poll : p.opcode = none → p.operands = []

/-- The numbers of the frame. -/
def parts (f : Frame) : Parts where
  source := Int.ofNat f.source.code
  destination := Int.ofNat f.destination.code
  opcode := f.opcode?.map byteNumber
  operands := f.operands.map byteNumber
  observedAt := f.observedAt

/-- The numbers that are given, by name or not, and as bytes or not. -/
structure Draft.Gives (d : Draft) (p : Parts) : Prop where
  source : d.source.value = p.source
  destination : d.destination.value = p.destination
  opcode : d.opcode.map OpcodeSpec.value = p.opcode
  operands : d.operands.Lists p.operands
  observedAt : d.observedAt = p.observedAt

theorem parts_eq_iff {f : Frame} {p : Parts} :
    f.parts = p ↔ Int.ofNat f.source.code = p.source ∧
      Int.ofNat f.destination.code = p.destination ∧ f.opcode?.map byteNumber = p.opcode ∧
      f.operands.map byteNumber = p.operands ∧ f.observedAt = p.observedAt := by
  cases p
  simp [parts]

/-- However its numbers are given, a frame is made of them. -/
theorem Draft.Gives.build_eq_ok_iff {d : Draft} {p : Parts} (h : d.Gives p) {f : Frame} :
    d.build = .ok f ↔ f.parts = p := by
  have haccepted := h.operands.accepted_iff f.length_operands_le
  rw [Frame.build_eq_ok_iff, parts_eq_iff, ← haccepted, AddressSpec.resolve_eq_ok_iff,
    AddressSpec.resolve_eq_ok_iff, mapM_resolveOpcode_iff, h.source, h.destination, h.opcode,
    h.observedAt, and_assoc, eq_comm (a := p.observedAt)]

/-- A frame is made of some numbers exactly if they fit in one. -/
theorem exists_parts_iff {p : Parts} : (∃ f : Frame, f.parts = p) ↔ p.Fit := by
  constructor
  · rintro ⟨f, rfl⟩
    exact {
      source := LogicalAddress.exists_code_iff.mp ⟨_, rfl⟩
      destination := LogicalAddress.exists_code_iff.mp ⟨_, rfl⟩
      opcode := by
        intro n hn
        obtain ⟨b, _, hb⟩ := Option.map_eq_some_iff.mp hn
        exact exists_byte_iff.mp ⟨b, hb⟩
      operands := exists_bytes_iff.mp ⟨_, rfl⟩
      count := by
        rw [parts, List.length_map]
        exact f.length_operands_le
      poll := by
        intro hpoll
        simp only [parts, Option.map_eq_none_iff, List.map_eq_nil_iff] at hpoll ⊢
        exact f.operands_of_poll hpoll }
  · intro h
    obtain ⟨source, hsource⟩ := LogicalAddress.exists_code_iff.mpr h.source
    obtain ⟨destination, hdestination⟩ := LogicalAddress.exists_code_iff.mpr h.destination
    obtain ⟨bytes, hbytes⟩ := exists_bytes_iff.mpr h.operands
    cases hopcode : p.opcode with
    | none =>
      refine ⟨⟨source, destination, .poll, p.observedAt⟩, parts_eq_iff.mpr ?_⟩
      exact ⟨hsource, hdestination, hopcode.symm, (h.poll hopcode).symm, rfl⟩
    | some n =>
      obtain ⟨b, hb⟩ := exists_byte_iff.mpr (h.opcode n hopcode)
      have hfits : bytes.length ≤ maxOperands := by
        have hcount := h.count
        rwa [← hbytes, List.length_map] at hcount
      refine ⟨⟨source, destination, .message b ⟨bytes, hfits⟩, p.observedAt⟩,
        parts_eq_iff.mpr ⟨hsource, hdestination, ?_, hbytes, rfl⟩⟩
      rw [hopcode, ← hb]
      rfl

/-- An opcode goes by a name exactly if its number is that of the name. -/
theorem hasName_iff (f : Frame) {o : Opcode} :
    f.opcode?.bind Opcode.ofCode? = some o ↔ f.parts.opcode = some (byteNumber o.code) := by
  rw [Option.bind_eq_some_iff, parts, Option.map_eq_some_iff]
  simp only [Opcode.ofCode?_eq_some_iff, byteNumber_injective.eq_iff, eq_comm (a := o.code)]

/-! ## Frames made anew -/

/-- The frame as its own parts.  An opcode that has a name goes by it. -/
def draft (f : Frame) : Draft where
  source := .named f.source
  destination := .named f.destination
  opcode := f.opcode?.map fun b =>
    match Opcode.ofCode? b with
    | some o => .named o
    | none => .number (byteNumber b)
  operands := .bytes f.operands
  observedAt := f.observedAt

theorem draft_gives (f : Frame) : f.draft.Gives f.parts where
  source := rfl
  destination := rfl
  opcode := by
    cases hopcode : f.opcode? with
    | none => simp [draft, parts, hopcode]
    | some b =>
      cases ho : Opcode.ofCode? b with
      | none => simp [draft, parts, hopcode, ho, OpcodeSpec.value]
      | some o =>
        obtain rfl := Opcode.ofCode?_eq_some_iff.mp ho
        simp [draft, parts, hopcode, ho, OpcodeSpec.value, byteNumber]
  operands := .bytes f.operands
  observedAt := rfl

/-- A frame is made again of its own parts. -/
theorem build_draft (f : Frame) : f.draft.build = .ok f :=
  f.draft_gives.build_eq_ok_iff.mpr rfl

/-! ## Text and contents -/

/-- What stands behind the header of a frame with these contents. -/
def behindHeader : Content → List Char
  | .poll => []
  | .message opcode operands => (opcode :: operands.bytes).flatMap fun b => ':' :: byteText b

theorem toList_encode (f : Frame) :
    f.encode.toList = byteText f.header ++ behindHeader f.content := by
  obtain ⟨source, destination, content, observedAt⟩ := f
  rw [encode, String.toList_ofList]
  cases content with
  | poll => simp [bytes, behindHeader, Text.join]
  | message opcode operands =>
    rw [bytes, List.map_cons, Text.join_cons, List.flatMap_map]
    rfl

theorem drop_encode (f : Frame) : f.encode.toList.drop 2 = behindHeader f.content := by
  rw [toList_encode]
  rfl

theorem encode_eq_iff {f g : Frame} :
    f.encode = g.encode ↔
      f.source = g.source ∧ f.destination = g.destination ∧ f.content = g.content := by
  constructor
  · intro h
    have hread := readPayload_encode "" f
    rw [h, readPayload_encode] at hread
    injection hread with hframe
    injection hframe with hsource hdestination hcontent
    exact ⟨hsource.symm, hdestination.symm, hcontent.symm⟩
  · rintro ⟨hsource, hdestination, hcontent⟩
    simp only [encode, bytes, header, hsource, hdestination, hcontent]

theorem behindHeader_inj {c c' : Content} : behindHeader c = behindHeader c' ↔ c = c' := by
  constructor
  · intro h
    have htext : encode ⟨.tv, .tv, c, none⟩ = encode ⟨.tv, .tv, c', none⟩ := by
      rw [← String.toList_inj, toList_encode, toList_encode, h]
      rfl
    exact (encode_eq_iff.mp htext).2.2
  · rintro rfl
    rfl

theorem content_eq_iff {f g : Frame} :
    f.content = g.content ↔ f.opcode? = g.opcode? ∧ f.operands = g.operands := by
  obtain ⟨_, _, content, _⟩ := f
  obtain ⟨_, _, content', _⟩ := g
  cases content with
  | poll => cases content' <;> simp [opcode?, operands]
  | message opcode bytes =>
    cases content' with
    | poll => simp [opcode?]
    | message opcode' bytes' =>
      cases bytes
      cases bytes'
      simp [opcode?, operands]

theorem sameMessage_iff {f g : Frame} : f.sameMessage g = true ↔ f.content = g.content :=
  beq_iff_eq

theorem digest_eq {f g : Frame} (h : f.content = g.content) : f.digest = g.digest := by
  obtain ⟨hopcode, hoperands⟩ := content_eq_iff.mp h
  rw [digest, hopcode, hoperands, digest]

/-- What making a frame depends on, and what tells frames apart.  A frame is made of the numbers
given exactly if they fit, it is made of them alone, and its opcode goes by the name that has its
number.  So it makes no difference in which way they are given.  A frame with another time is one
made again of its parts with that time.  Two frames are the same message exactly if their opcodes and
operands are the same, which is when their texts are the same behind the header, and then they have
the same digest.  Their whole texts are the same exactly if sender and receiver are the same too. -/
theorem build_exact {d d' : Draft} {p : Parts} (h : d.Gives p) (h' : d'.Gives p) :
    ((∃ f, d.build = .ok f) ↔ p.Fit) ∧
    (∀ f, d.build = .ok f → f.parts = p ∧
      ∀ o, f.opcode?.bind Opcode.ofCode? = some o ↔ p.opcode = some (byteNumber o.code)) ∧
    (∀ f, d.build = .ok f ↔ d'.build = .ok f) ∧
    (∀ (f : Frame) (time : Int),
      (f.stampedAt time).parts = { f.parts with observedAt := some time } ∧
      { f.draft with observedAt := some time }.build = .ok (f.stampedAt time)) ∧
    ∀ f g : Frame,
      (f.sameMessage g = true ↔ f.opcode? = g.opcode? ∧ f.operands = g.operands) ∧
      (f.sameMessage g = true ↔ f.encode.toList.drop 2 = g.encode.toList.drop 2) ∧
      (f.sameMessage g = true → f.digest = g.digest) ∧
      (f.encode = g.encode ↔ f.source = g.source ∧ f.destination = g.destination ∧
        f.opcode? = g.opcode? ∧ f.operands = g.operands) := by
  refine ⟨?_, ?_, ?_, ?_, ?_⟩
  · simp only [h.build_eq_ok_iff, exists_parts_iff]
  · intro f hf
    obtain rfl := h.build_eq_ok_iff.mp hf
    exact ⟨rfl, fun o => f.hasName_iff⟩
  · intro f
    rw [h.build_eq_ok_iff, h'.build_eq_ok_iff]
  · intro f time
    exact ⟨rfl, (f.stampedAt time).build_draft⟩
  · intro f g
    rw [sameMessage_iff, encode_eq_iff, drop_encode, drop_encode, behindHeader_inj]
    exact ⟨content_eq_iff, Iff.rfl, digest_eq, by rw [content_eq_iff]⟩

/-- Named or not, and as bytes or as numbers, the same parts make the same frame. -/
theorem build_exact_of_two_spellings :
    let named : Draft :=
      ⟨.named .playback1, .number 15, some (.named .standby), .values [1, 255], none⟩
    let plain : Draft := ⟨.number 4, .named .broadcast, some (.number 0x36), .bytes [1, 255], none⟩
    ∃ f, named.build = .ok f ∧ plain.build = .ok f ∧ f.parts = ⟨4, 15, some 0x36, [1, 255], none⟩ ∧
      f.opcode?.bind Opcode.ofCode? = some .standby := by
  intro named plain
  have hnamed : named.Gives ⟨4, 15, some 0x36, [1, 255], none⟩ := ⟨rfl, rfl, rfl, .values _, rfl⟩
  have hplain : plain.Gives ⟨4, 15, some 0x36, [1, 255], none⟩ := ⟨rfl, rfl, rfl, .bytes _, rfl⟩
  obtain ⟨hfits, hparts, hsame, _⟩ := build_exact hnamed hplain
  obtain ⟨f, hf⟩ := hfits.mpr ⟨by decide, by decide, by decide, by decide, by decide, by decide⟩
  exact ⟨f, hf, (hsame f).mp hf, (hparts f hf).1, ((hparts f hf).2 .standby).mpr rfl⟩

end Frame

end CecBench
