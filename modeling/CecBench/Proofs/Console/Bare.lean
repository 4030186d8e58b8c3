import CecBench.Proofs.Console.Payload

/-!
# Frames written bare

A frame typed by hand comes without a marker: the text is a payload, with blanks around it.  The
module says which texts are read as frames (`parse_grammar`).  The reader takes the loose payloads
of one to sixteen bytes and writes each of them back in small letters without its line feeds.  So it
keeps to the grammar of payloads exactly where no line feed stands within the text.  A text with one
is never a payload, and yet it may be read as a frame (`parse_admits_line_feed`).
-/

namespace CecBench.Frame

open Text

/-- The text is a payload of one to sixteen bytes, with blanks around it. -/
def IsBare (text : String) : Prop :=
  ∃ bytes, IsPayload bytes (trim text.toList) ∧ 1 ≤ bytes.length ∧ bytes.length ≤ 16

/-- The same, but a line feed may stand behind each byte. -/
def IsLooselyBare (text : String) : Prop :=
  ∃ bytes, IsLoosePayload bytes (trim text.toList) ∧ 1 ≤ bytes.length ∧ bytes.length ≤ 16

/-- What tells a bare frame from a loose one is that no line feed is within the text. -/
theorem isBare_iff_loosely {text : String} :
    IsBare text ↔ IsLooselyBare text ∧ '\n' ∉ trim text.toList := by
  constructor
  · rintro ⟨bytes, hbytes, hlen⟩
    obtain ⟨hloose, hfeed⟩ := isPayload_iff_loose.mp hbytes
    exact ⟨⟨bytes, hloose, hlen⟩, hfeed⟩
  · rintro ⟨⟨bytes, hloose, hlen⟩, hfeed⟩
    exact ⟨bytes, isPayload_iff_loose.mpr ⟨hloose, hfeed⟩, hlen⟩

theorem parse_ok_iff {text : String} : (∃ f, parse text = .ok f) ↔ IsLooselyBare text := by
  constructor
  · rintro ⟨f, hf⟩
    obtain ⟨header, rest, hlen, hloose, _⟩ := isLoosePayload_of_readPayload hf
    exact ⟨_, hloose, Nat.succ_pos _, Nat.succ_le_succ hlen⟩
  · rintro ⟨bytes, hloose, hpos, hlen⟩
    cases bytes with
    | nil => cases hpos
    | cons header rest =>
      exact ⟨_, readPayload_of_loose hloose (Nat.le_of_succ_le_succ hlen)⟩

/-- A text read as a frame is written back in small letters, without its line feeds. -/
theorem encode_of_parse {text : String} {f : Frame} (h : parse text = .ok f) :
    f.encode = String.ofList (lower (withoutLineFeeds (trim text.toList))) := by
  obtain ⟨header, rest, hlen, hloose, rfl⟩ := isLoosePayload_of_readPayload h
  exact encode_ofHeader hloose.isPayload hlen

/-- The frame that a text is read as carries the bytes that the text spells. -/
theorem carries_of_parse {text : String} {f : Frame} (h : parse text = .ok f) {bytes : List UInt8}
    (hbytes : IsLoosePayload bytes (trim text.toList)) : f.Carries bytes := by
  obtain ⟨header, rest, hlen, hloose, rfl⟩ := isLoosePayload_of_readPayload h
  rw [isPayload_unique hbytes.isPayload hloose.isPayload]
  exact carries_ofHeader header hlen

theorem parse_error {text : String} (h : ¬ ∃ f, parse text = .ok f) :
    ∃ e, parse text = .error e ∧ e.isMalformed = true ∧ e.line = text := by
  cases he : parse text with
  | ok f => exact absurd ⟨f, he⟩ h
  | error e => exact ⟨e, rfl, readPayload_error he⟩

/-- Which texts are read as frames, as which frames, and how the others are refused.  Where no line
feed stands within the text, the grammar of payloads decides and nothing is lost in writing the frame
back.  Every text that is read although it is no payload has a line feed within. -/
theorem parse_grammar (text : String) :
    ((∃ f, parse text = .ok f) ↔ IsLooselyBare text) ∧
    (∀ f, parse text = .ok f →
      f.encode = String.ofList (lower (withoutLineFeeds (trim text.toList))) ∧
      ∀ bytes, IsLoosePayload bytes (trim text.toList) → f.Carries bytes) ∧
    ((¬ ∃ f, parse text = .ok f) →
      ∃ e, parse text = .error e ∧ e.isMalformed = true ∧ e.line = text) ∧
    ('\n' ∉ trim text.toList →
      ((∃ f, parse text = .ok f) ↔ IsBare text) ∧
      ∀ f, parse text = .ok f → f.encode = String.ofList (lower (trim text.toList))) ∧
    ('\n' ∈ trim text.toList → ¬ IsBare text) := by
  refine ⟨parse_ok_iff, fun f hf => ⟨encode_of_parse hf, fun _ => carries_of_parse hf⟩,
    parse_error, fun hfeed => ⟨?_, fun f hf => ?_⟩, fun hfeed hbare => ?_⟩
  · rw [parse_ok_iff, isBare_iff_loosely]
    exact (and_iff_left hfeed).symm
  · rw [encode_of_parse hf, withoutLineFeeds_eq_self hfeed]
  · exact (isBare_iff_loosely.mp hbare).2 hfeed

/-- A line feed behind a byte is passed over, and the text is taken for the one without it. -/
theorem parse_admits_line_feed :
    ¬ IsBare "40\n:04" ∧
      ∃ f, parse "40\n:04" = .ok f ∧ f.encode = "40:04" ∧ f.encode ≠ "40\n:04" := by
  refine ⟨fun h => ?_, ⟨_, rfl, by decide, by decide⟩⟩
  exact (isBare_iff_loosely.mp h).2 (by decide)

end CecBench.Frame
