import CecBench.Console.Payload
import CecBench.Proofs.Address.Digits
import CecBench.Proofs.Text.LetterCase
import CecBench.Proofs.Text.Parts

/-!
# What a payload is

`IsPayload` says which texts are payloads and of which bytes: each byte stands
in two hexadecimal digits of either case, and single colons stand between.  The
reader accepts these texts, if the bytes are as many as a frame can have.  It
takes a line feed behind a byte as well, which makes the loose payloads
(`IsLoosePayload`), and nothing else (`readPayload_of_loose`,
`isLoosePayload_of_readPayload`, `readPayload_error`).  A payload is a loose
payload with no line feed in it (`isPayload_iff_loose`).

A frame is written as a payload of its bytes (`encode_isPayload`), and the bytes
make the frame again (`ofHeader_bytes`).
-/

namespace CecBench

/-! ## Bytes -/

/-- The text is the byte in two digits. -/
def Spells (b : UInt8) (group : List Char) : Prop :=
  ∃ high low, group = [high, low] ∧ IsHexDigit (b.toNat / 16) high ∧ IsHexDigit (b.toNat % 16) low

/-- The text is the bytes in order, with single colons between. -/
def IsPayload (bytes : List UInt8) (p : List Char) : Prop :=
  ∃ groups, List.Forall₂ Spells bytes groups ∧ p = Text.join [':'] groups

theorem spells_byteText (b : UInt8) : Spells b (Frame.byteText b) :=
  ⟨_, _, rfl, Or.inl rfl, Or.inl rfl⟩

theorem Spells.plain {b : UInt8} {group : List Char} (h : Spells b group) :
    ∀ c ∈ group, IsPlain c := by
  have hb := b.toNat_lt
  obtain ⟨high, low, rfl, hhigh, hlow⟩ := h
  intro c hc
  rcases List.mem_cons.mp hc with rfl | hc
  · exact hhigh.plain (by omega)
  · rw [List.mem_singleton.mp hc]
    exact hlow.plain (by omega)

/-- In small letters every spelling of a byte is the usual one. -/
theorem Spells.lower {b : UInt8} {group : List Char} (h : Spells b group) :
    group.map Char.toLower = Frame.byteText b := by
  have hb := b.toNat_lt
  obtain ⟨high, low, rfl, hhigh, hlow⟩ := h
  rw [List.map_cons, List.map_cons, List.map_nil, hhigh.toLower (by omega),
    hlow.toLower (by omega)]
  rfl

/-- A payload is ASCII, and no blank is in it. -/
theorem IsPayload.ascii {bytes : List UInt8} {p : List Char} (h : IsPayload bytes p) :
    ∀ c ∈ p, c.toNat < 0x80 ∧ Text.isBlank c = false := by
  obtain ⟨groups, hgroups, rfl⟩ := h
  intro c hc
  rcases Text.mem_join hc with hc | ⟨g, hg, hc⟩
  · rw [List.mem_singleton.mp hc]
    decide
  · obtain ⟨b, _, hb⟩ := exists_of_forall₂ hgroups g hg
    obtain ⟨hascii, hblank, _⟩ := hb.plain c hc
    exact ⟨hascii, hblank⟩

theorem IsPayload.not_mem_newline {bytes : List UInt8} {p : List Char} (h : IsPayload bytes p) :
    '\n' ∉ p := by
  intro hmem
  have hblank := (h.ascii _ hmem).2
  revert hblank
  decide

/-- A payload has no blanks to be trimmed off. -/
theorem IsPayload.trim_eq_self {bytes : List UInt8} {p : List Char} (h : IsPayload bytes p) :
    Text.trim p = p :=
  Text.trimBy_eq_self (fun c hc => (h.ascii c (List.mem_of_mem_head? hc)).2)
    fun c hc => (h.ascii c (List.mem_of_mem_getLast? hc)).2

/-- In small letters a payload is the usual spelling of its bytes. -/
theorem IsPayload.lower {bytes : List UInt8} {p : List Char} (h : IsPayload bytes p) :
    Text.lower p = Text.join [':'] (bytes.map Frame.byteText) := by
  rw [Text.lower_of_ascii fun c hc => (h.ascii c hc).1]
  obtain ⟨groups, hgroups, rfl⟩ := h
  have hall : groups.map (List.map Char.toLower) = bytes.map Frame.byteText :=
    map_eq_of_forall₂ hgroups fun _ _ _ hb => hb.lower
  rw [Text.map_join, hall]
  rfl

/-! ## Line feeds in a payload -/

/-- The text is the byte in two digits, and one line feed may stand behind them. -/
def SpellsLoosely (b : UInt8) (group : List Char) : Prop :=
  ∃ digits, Spells b digits ∧ (group = digits ∨ group = digits ++ ['\n'])

/-- The text is the bytes in order, with single colons between, and one line feed may stand behind
each byte. -/
def IsLoosePayload (bytes : List UInt8) (p : List Char) : Prop :=
  ∃ groups, List.Forall₂ SpellsLoosely bytes groups ∧ p = Text.join [':'] groups

/-- The text without its line feeds. -/
def withoutLineFeeds (s : List Char) : List Char := s.filter fun c => c ≠ '\n'

theorem withoutLineFeeds_eq_self {s : List Char} (h : '\n' ∉ s) : withoutLineFeeds s = s :=
  List.filter_eq_self.mpr fun _ hc => decide_eq_true (ne_of_mem_of_not_mem hc h)

theorem Spells.loosely {b : UInt8} {group : List Char} (h : Spells b group) :
    SpellsLoosely b group :=
  ⟨group, h, Or.inl rfl⟩

theorem Spells.not_mem_newline {b : UInt8} {group : List Char} (h : Spells b group) :
    '\n' ∉ group := by
  intro hmem
  have hblank := (h.plain _ hmem).2.1
  revert hblank
  decide

theorem SpellsLoosely.not_mem_colon {b : UInt8} {group : List Char} (h : SpellsLoosely b group) :
    ':' ∉ group := by
  obtain ⟨digits, hdigits, rfl | rfl⟩ := h
  · exact fun hmem => (hdigits.plain _ hmem).2.2 rfl
  · intro hmem
    rcases List.mem_append.mp hmem with hmem | hmem
    · exact (hdigits.plain _ hmem).2.2 rfl
    · exact absurd (List.mem_singleton.mp hmem) (by decide)

theorem SpellsLoosely.spells {b : UInt8} {group : List Char} (h : SpellsLoosely b group) :
    Spells b (withoutLineFeeds group) := by
  obtain ⟨digits, hdigits, rfl | rfl⟩ := h
  · rwa [withoutLineFeeds_eq_self hdigits.not_mem_newline]
  · have happend : withoutLineFeeds (digits ++ ['\n']) = withoutLineFeeds digits ++ [] :=
      List.filter_append ..
    rwa [happend, List.append_nil, withoutLineFeeds_eq_self hdigits.not_mem_newline]

theorem IsPayload.loose {bytes : List UInt8} {p : List Char} (h : IsPayload bytes p) :
    IsLoosePayload bytes p := by
  obtain ⟨groups, hgroups, rfl⟩ := h
  exact ⟨groups, hgroups.imp fun _ _ => Spells.loosely, rfl⟩

/-- Without its line feeds a loose payload is a payload of the same bytes. -/
theorem IsLoosePayload.isPayload {bytes : List UInt8} {p : List Char}
    (h : IsLoosePayload bytes p) : IsPayload bytes (withoutLineFeeds p) := by
  obtain ⟨groups, hgroups, rfl⟩ := h
  refine ⟨groups.map withoutLineFeeds, ?_, ?_⟩
  · rw [List.forall₂_map_right_iff]
    exact hgroups.imp fun _ _ => SpellsLoosely.spells
  · rw [withoutLineFeeds, Text.filter_join]
    rfl

/-- What tells a payload from a loose one is that no line feed is in it. -/
theorem isPayload_iff_loose {bytes : List UInt8} {p : List Char} :
    IsPayload bytes p ↔ IsLoosePayload bytes p ∧ '\n' ∉ p := by
  refine ⟨fun h => ⟨h.loose, h.not_mem_newline⟩, fun ⟨h, hp⟩ => ?_⟩
  have hpayload := h.isPayload
  rwa [withoutLineFeeds_eq_self hp] at hpayload

/-! ## Groups and bytes -/

theorem LogicalAddress.code_ofCode (i : Fin 16) : (LogicalAddress.ofCode i).code = i.val := by
  revert i
  decide

/-- A byte is made of its two halves. -/
theorem ofNat_halves (b : UInt8) : UInt8.ofNat (b.toNat / 16 * 16 + b.toNat % 16) = b := by
  rw [Nat.div_add_mod', UInt8.ofNat_toNat]

namespace Frame

theorem groupByte?_of_spells {b : UInt8} {group : List Char} (h : Spells b group) :
    groupByte? group = some b := by
  have hb := b.toNat_lt
  obtain ⟨high, low, rfl, hhigh, hlow⟩ := h
  have h1 : PhysicalAddress.hexValue? high = some ⟨b.toNat / 16, by omega⟩ :=
    hexValue?_of_isHexDigit hhigh
  have h2 : PhysicalAddress.hexValue? low = some ⟨b.toNat % 16, by omega⟩ :=
    hexValue?_of_isHexDigit hlow
  simp only [groupByte?, h1, h2, Option.bind_eq_bind, Option.bind_some, ofNat_halves]
  rfl

theorem spells_of_groupByte? {b : UInt8} {high low : Char}
    (h : groupByte? [high, low] = some b) : Spells b [high, low] := by
  simp only [groupByte?, Option.bind_eq_bind, Option.bind_eq_some_iff] at h
  obtain ⟨n, hn, m, hm, heq⟩ := h
  cases heq
  have hvalue : (UInt8.ofNat (n.val * 16 + m.val)).toNat = n.val * 16 + m.val := by
    rw [UInt8.toNat_ofNat']
    omega
  refine ⟨high, low, rfl, ?_, ?_⟩
  · rw [hvalue, show (n.val * 16 + m.val) / 16 = n.val by omega]
    exact isHexDigit_of_hexValue? hn
  · rw [hvalue, show (n.val * 16 + m.val) % 16 = m.val by omega]
    exact isHexDigit_of_hexValue? hm

theorem groupByte?_eq_some_iff {b : UInt8} {group : List Char} :
    groupByte? group = some b ↔ SpellsLoosely b group := by
  constructor
  · intro h
    have hgroup : ∃ high low, group = [high, low] ∨ group = [high, low] ++ ['\n'] := by
      unfold groupByte? at h
      split at h
      · exact ⟨_, _, Or.inl rfl⟩
      · exact ⟨_, _, Or.inr rfl⟩
      · cases h
    obtain ⟨high, low, rfl | rfl⟩ := hgroup
    · exact (spells_of_groupByte? h).loosely
    · exact ⟨[high, low], spells_of_groupByte? h, Or.inr rfl⟩
  · rintro ⟨digits, hdigits, rfl | rfl⟩
    · exact groupByte?_of_spells hdigits
    · have hbyte := groupByte?_of_spells hdigits
      obtain ⟨high, low, rfl, _⟩ := hdigits
      exact hbyte

theorem groupBytes_cons_eq_ok_iff {group : List Char} {groups : List (List Char)}
    {bytes : List UInt8} :
    groupBytes (group :: groups) = .ok bytes ↔
      ∃ b rest, groupByte? group = some b ∧ groupBytes groups = .ok rest ∧ bytes = b :: rest := by
  unfold groupBytes
  cases hb : groupByte? group with
  | none =>
    rw [List.filter_cons_of_pos (by rw [hb]; rfl)]
    exact ⟨fun h => (by cases h), fun ⟨_, _, h, _⟩ => (by cases h)⟩
  | some b =>
    rw [List.filter_cons_of_neg (by simp [hb]), List.filterMap_cons, hb]
    cases groups.filter fun g => (groupByte? g).isNone with
    | nil =>
      constructor
      · intro h
        cases h
        exact ⟨b, _, rfl, rfl, rfl⟩
      · rintro ⟨b', rest, hb', hrest, rfl⟩
        cases hb'
        cases hrest
        rfl
    | cons bad others => exact ⟨fun h => (by cases h), fun ⟨_, _, _, h, _⟩ => (by cases h)⟩

/-- Groups stand for bytes if each of them spells one. -/
theorem groupBytes_eq_ok_iff {groups : List (List Char)} {bytes : List UInt8} :
    groupBytes groups = .ok bytes ↔ List.Forall₂ SpellsLoosely bytes groups := by
  induction groups generalizing bytes with
  | nil =>
    rw [List.forall₂_nil_right_iff]
    exact ⟨fun h => (by cases h; rfl), fun h => (by rw [h]; rfl)⟩
  | cons g groups ih =>
    rw [groupBytes_cons_eq_ok_iff, List.forall₂_cons_right_iff]
    simp only [groupByte?_eq_some_iff, ih]

/-- Cut at its colons, a text makes the bytes of which it is a loose payload. -/
theorem groupBytes_split_iff {p : List Char} {bytes : List UInt8} :
    groupBytes (Text.split ':' p) = .ok bytes ↔ bytes ≠ [] ∧ IsLoosePayload bytes p := by
  rw [groupBytes_eq_ok_iff]
  constructor
  · intro h
    refine ⟨?_, Text.split ':' p, h, (Text.join_split ':' p).symm⟩
    rintro rfl
    cases h
  · rintro ⟨hne, groups, hgroups, rfl⟩
    rw [Text.split_join]
    · exact hgroups
    · rintro rfl
      exact hne (List.forall₂_nil_right_iff.mp hgroups)
    · intro g hmem hcolon
      obtain ⟨b, _, hb⟩ := exists_of_forall₂ hgroups g hmem
      exact hb.not_mem_colon hcolon

/-- A text is the payload of no two lists of bytes. -/
theorem isPayload_unique {bytes bytes' : List UInt8} {p : List Char} (h : IsPayload bytes p)
    (h' : IsPayload bytes' p) : bytes = bytes' := by
  have hsplit (bs : List UInt8) (hbs : IsPayload bs p) :
      bs = [] ∧ p = [] ∨ groupBytes (Text.split ':' p) = .ok bs := by
    cases bs with
    | nil =>
      obtain ⟨groups, hgroups, rfl⟩ := hbs
      cases hgroups
      exact Or.inl ⟨rfl, rfl⟩
    | cons b bs =>
      exact Or.inr (groupBytes_split_iff.mpr ⟨List.cons_ne_nil _ _, hbs.loose⟩)
  rcases hsplit bytes h with ⟨rfl, rfl⟩ | hbytes
  · rcases hsplit bytes' h' with ⟨rfl, _⟩ | hbytes'
    · rfl
    · cases hbytes'
  · rcases hsplit bytes' h' with ⟨_, rfl⟩ | hbytes'
    · cases hbytes
    · exact Except.ok.inj (hbytes.symm.trans hbytes')

/-! ## Reading a payload -/

/-- A loose payload of as many bytes as a frame can have is read as the frame of its bytes. -/
theorem readPayload_of_loose {line : String} {p : List Char} {header : UInt8} {rest : List UInt8}
    (h : IsLoosePayload (header :: rest) p) (hlen : rest.length ≤ maxOperands + 1) :
    readPayload line p = .ok (ofHeader header (contentOfBytes rest hlen)) := by
  have hbytes := groupBytes_split_iff.mpr ⟨List.cons_ne_nil _ _, h⟩
  have hne : p.isEmpty = false := by
    cases p with
    | nil => cases hbytes
    | cons c p => rfl
  simp only [readPayload, hne, Bool.false_eq_true, if_false, hbytes, dif_pos hlen]

/-- A payload of as many bytes as a frame can have is read as the frame of its bytes. -/
theorem readPayload_ok {line : String} {p : List Char} {header : UInt8} {rest : List UInt8}
    (h : IsPayload (header :: rest) p) (hlen : rest.length ≤ maxOperands + 1) :
    readPayload line p = .ok (ofHeader header (contentOfBytes rest hlen)) :=
  readPayload_of_loose h.loose hlen

/-- A text that is read as a frame is a loose payload of the frame's bytes. -/
theorem isLoosePayload_of_readPayload {line : String} {p : List Char} {f : Frame}
    (h : readPayload line p = .ok f) :
    ∃ header rest, ∃ hlen : rest.length ≤ maxOperands + 1, IsLoosePayload (header :: rest) p ∧
      f = ofHeader header (contentOfBytes rest hlen) := by
  unfold readPayload at h
  split at h
  · cases h
  · split at h
    · cases h
    · cases h
    · rename_i header rest hbytes
      split at h
      · rename_i hlen
        cases h
        exact ⟨header, rest, hlen, (groupBytes_split_iff.mp hbytes).2, rfl⟩
      · cases h

/-- A text without line feeds that is read as a frame is a payload of the frame's bytes. -/
theorem isPayload_of_readPayload {line : String} {p : List Char} (hp : '\n' ∉ p) {f : Frame}
    (h : readPayload line p = .ok f) :
    ∃ header rest, ∃ hlen : rest.length ≤ maxOperands + 1, IsPayload (header :: rest) p ∧
      f = ofHeader header (contentOfBytes rest hlen) := by
  obtain ⟨header, rest, hlen, hloose, hf⟩ := isLoosePayload_of_readPayload h
  exact ⟨header, rest, hlen, isPayload_iff_loose.mpr ⟨hloose, hp⟩, hf⟩

/-- A text that is not read as a frame is malformed, and the error tells the line. -/
theorem readPayload_error {line : String} {p : List Char} {e : DecodeError}
    (h : readPayload line p = .error e) : e.isMalformed = true ∧ e.line = line := by
  unfold readPayload at h
  split at h
  · cases h
    exact ⟨rfl, rfl⟩
  · split at h
    · cases h
      exact ⟨rfl, rfl⟩
    · cases h
      exact ⟨rfl, rfl⟩
    · split at h
      · cases h
      · cases h
        exact ⟨rfl, rfl⟩

/-! ## Frames and their bytes -/

/-- The frame says what the bytes say: the first one has the sender in its high half and the receiver
in its low half, the second one is the opcode, and the others are the operands. -/
structure Carries (f : Frame) (bytes : List UInt8) : Prop where
  /-- The first byte. -/
  header : ∃ header ∈ bytes.head?,
    f.source.code = header.toNat / 16 ∧ f.destination.code = header.toNat % 16
  /-- The second byte, if there is one. -/
  opcode : f.opcode? = bytes[1]?
  /-- The bytes behind it. -/
  operands : f.operands = bytes.drop 2

theorem carries_ofHeader (header : UInt8) {rest : List UInt8}
    (h : rest.length ≤ maxOperands + 1) :
    (ofHeader header (contentOfBytes rest h)).Carries (header :: rest) where
  header := ⟨header, rfl, LogicalAddress.code_ofCode _, LogicalAddress.code_ofCode _⟩
  opcode := by cases rest <;> rfl
  operands := by cases rest <;> rfl

/-- The bytes of a frame made of bytes are these bytes. -/
theorem bytes_ofHeader (header : UInt8) {rest : List UInt8} (h : rest.length ≤ maxOperands + 1) :
    (ofHeader header (contentOfBytes rest h)).bytes = header :: rest := by
  have hheader : (ofHeader header (contentOfBytes rest h)).header = header := by
    obtain ⟨_, hfirst, hsource, hdestination⟩ := (carries_ofHeader header h).header
    cases hfirst
    rw [Frame.header, hsource, hdestination, ofNat_halves]
  rw [bytes, hheader]
  cases rest <;> rfl

/-- The bytes of a frame make the frame again, but for the time. -/
theorem ofHeader_bytes (f : Frame) :
    ∃ header rest, ∃ h : rest.length ≤ maxOperands + 1, f.bytes = header :: rest ∧
      ofHeader header (contentOfBytes rest h) = { f with observedAt := none } := by
  have hsource := f.source.code_lt
  have hdestination := f.destination.code_lt
  have hvalue : f.header.toNat = f.source.code * 16 + f.destination.code := by
    rw [header, UInt8.toNat_ofNat']
    omega
  have hhigh : LogicalAddress.ofCode ⟨f.header.toNat / 16, by omega⟩ = f.source := by
    rw [← f.source.ofCode_code]
    congr 2
    omega
  have hlow : LogicalAddress.ofCode ⟨f.header.toNat % 16, by omega⟩ = f.destination := by
    rw [← f.destination.ofCode_code]
    congr 2
    omega
  have hframe (content : Content) :
      ofHeader f.header content = ⟨f.source, f.destination, content, none⟩ := by
    rw [ofHeader, hhigh, hlow]
  obtain ⟨source, destination, content, observedAt⟩ := f
  cases content with
  | poll => exact ⟨_, [], Nat.zero_le _, rfl, hframe .poll⟩
  | message opcode operands =>
    exact ⟨_, opcode :: operands.bytes, Nat.succ_le_succ operands.fits, rfl, hframe _⟩

/-- A frame is written as a payload of its bytes. -/
theorem encode_isPayload (f : Frame) : IsPayload f.bytes f.encode.toList := by
  refine ⟨f.bytes.map byteText, ?_, String.toList_ofList⟩
  rw [List.forall₂_map_right_iff, List.forall₂_same]
  exact fun b _ => spells_byteText b

/-- Reading what a frame is written as gives the frame, but for the time. -/
theorem readPayload_encode (line : String) (f : Frame) :
    readPayload line f.encode.toList = .ok { f with observedAt := none } := by
  obtain ⟨header, rest, h, hbytes, hframe⟩ := f.ofHeader_bytes
  rw [readPayload_ok (hbytes ▸ f.encode_isPayload) h, hframe]

/-- Writing what a payload is read as gives the payload in small letters. -/
theorem encode_ofHeader {p : List Char} {header : UInt8} {rest : List UInt8}
    (h : IsPayload (header :: rest) p) (hlen : rest.length ≤ maxOperands + 1) :
    (ofHeader header (contentOfBytes rest hlen)).encode = String.ofList (Text.lower p) := by
  rw [encode, bytes_ofHeader, h.lower]

end Frame

end CecBench
