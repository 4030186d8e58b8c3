import CecBench.Console.Codec
import CecBench.Proofs.Text.LetterCase
import CecBench.Proofs.Text.Parts

/-!
# Markers

A marker is found in some lines if one of them holds it in small letters
(`Codec.Finds`), so what a codec answers depends on which lines there are and
not on their order or number.  Of the failure markers that are found the first
one of the codec decides (`Codec.DecidedBy`), and further lines can only let an
earlier one decide (`Codec.DecidedBy.append`).

A line holds an ASCII marker in any letter case and among any characters
(`Codec.finds_of_variant`).
-/

namespace CecBench

open Text (IsAscii IsCaseVariant)

namespace Codec

/-! ## Finding -/

/-- A marker is found in one of the lines. -/
def Finds (marker : List Char) (tail : List String) : Prop :=
  ∃ line ∈ tail, marker <:+: Text.lower line.toList

theorem any_contains_iff {marker : List Char} {tail : List String} :
    ((tail.map fun line => Text.lower line.toList).any (Text.contains marker)) = true ↔
      Finds marker tail := by
  simp [Finds, Text.contains_iff]

theorem isReadyLine_iff {codec : Codec} {line : String} :
    codec.isReadyLine line = true ↔ codec.readyMarker <:+: Text.lower line.toList :=
  Text.contains_iff

variable {codec : Codec} {marker : List Char} {lines more : List String} {line : String}
  {k : Nat} {m : List Char × StartFailure} {reason : StartFailure}

theorem Finds.mono (h : Finds marker lines) (hsub : ∀ line ∈ lines, line ∈ more) :
    Finds marker more := by
  obtain ⟨line, hline, hmarker⟩ := h
  exact ⟨line, hsub line hline, hmarker⟩

theorem finds_of_variant {x : List Char} (hline : line ∈ lines) (hx : IsCaseVariant x marker)
    (hmarker : marker.map Char.toLower = marker) (hascii : IsAscii marker)
    (hembedded : x <:+: line.toList) : Finds marker lines :=
  ⟨line, hline, hx.infix_lower hmarker hascii hembedded⟩

/-! ## Deciding -/

/-- The failure marker at a place decides: it is found, and none before it is. -/
structure DecidedBy (codec : Codec) (lines : List String) (k : Nat)
    (m : List Char × StartFailure) : Prop where
  place : codec.failureMarkers[k]? = some m
  found : Finds m.1 lines
  first : ∀ j < k, ∀ other, codec.failureMarkers[j]? = some other → ¬ Finds other.1 lines

/-- If a marker is found, it or one before it decides. -/
theorem exists_decided (hplace : codec.failureMarkers[k]? = some m) (hfound : Finds m.1 lines) :
    ∃ j ≤ k, ∃ m', codec.DecidedBy lines j m' := by
  induction k using Nat.strong_induction_on generalizing m with
  | _ k ih =>
    by_cases hearlier : ∃ j < k, ∃ other, codec.failureMarkers[j]? = some other ∧
        Finds other.1 lines
    · obtain ⟨j, hj, other, hother, hfinds⟩ := hearlier
      obtain ⟨i, hi, m', hdecided⟩ := ih j hj hother hfinds
      exact ⟨i, Nat.le_trans hi (Nat.le_of_lt hj), m', hdecided⟩
    · refine ⟨k, Nat.le_refl k, m, hplace, hfound, fun j hj other hother hfinds => ?_⟩
      exact hearlier ⟨j, hj, other, hother, hfinds⟩

/-- The answer is the reason of the marker that decides. -/
theorem startFailure?_eq_some_iff :
    codec.startFailure? lines = some reason ↔
      ∃ k m, codec.DecidedBy lines k m ∧ m.2 = reason := by
  rw [startFailure?, Option.map_eq_some_iff]
  simp only [List.find?_eq_some_iff_getElem, any_contains_iff]
  constructor
  · rintro ⟨m, ⟨hfound, k, hk, rfl, hfirst⟩, hreason⟩
    refine ⟨k, _, ⟨List.getElem?_eq_getElem hk, hfound, fun j hj other hother hfinds => ?_⟩, hreason⟩
    obtain ⟨hlt, rfl⟩ := List.getElem?_eq_some_iff.mp hother
    have := hfirst j hj
    rw [any_contains_iff.mpr hfinds] at this
    cases this
  · rintro ⟨k, m, hdecided, hreason⟩
    obtain ⟨hk, rfl⟩ := List.getElem?_eq_some_iff.mp hdecided.place
    refine ⟨_, ⟨hdecided.found, k, hk, rfl, fun j hj => ?_⟩, hreason⟩
    have hnot := hdecided.first j hj _ (List.getElem?_eq_getElem (Nat.lt_trans hj hk))
    rw [Bool.not_eq_true', Bool.eq_false_iff]
    exact fun hany => hnot (any_contains_iff.mp hany)

theorem DecidedBy.startFailure? (h : codec.DecidedBy lines k m) :
    codec.startFailure? lines = some m.2 :=
  startFailure?_eq_some_iff.mpr ⟨k, m, h, rfl⟩

theorem DecidedBy.congr (h : codec.DecidedBy lines k m)
    (hsame : ∀ line, line ∈ lines ↔ line ∈ more) : codec.DecidedBy more k m where
  place := h.place
  found := h.found.mono fun line => (hsame line).mp
  first j hj other hother hfinds :=
    h.first j hj other hother (hfinds.mono fun line => (hsame line).mpr)

/-- The order and the number of the lines do not matter. -/
theorem startFailure?_congr (hsame : ∀ line, line ∈ lines ↔ line ∈ more) :
    codec.startFailure? lines = codec.startFailure? more := by
  refine Option.ext fun reason => ?_
  rw [startFailure?_eq_some_iff, startFailure?_eq_some_iff]
  constructor
  · rintro ⟨k, m, hdecided, hreason⟩
    exact ⟨k, m, hdecided.congr hsame, hreason⟩
  · rintro ⟨k, m, hdecided, hreason⟩
    exact ⟨k, m, hdecided.congr fun line => (hsame line).symm, hreason⟩

/-- Further lines let the same marker decide or an earlier one. -/
theorem DecidedBy.append (h : codec.DecidedBy lines k m) (more : List String) :
    ∃ j ≤ k, ∃ m', codec.DecidedBy (lines ++ more) j m' :=
  exists_decided h.place (h.found.mono fun _ => List.mem_append_left _)

/-! ## Markers of a codec -/

section Built

variable {payload? : List Char → Option (List Char)} {ready : String}
  {failures : List FailureMarker}

theorem build_readyMarker_small :
    (build payload? ready failures).readyMarker.map Char.toLower =
      (build payload? ready failures).readyMarker :=
  Text.map_toLower_lower ready.toList

theorem build_failureMarker_small (hm : m ∈ (build payload? ready failures).failureMarkers) :
    m.1.map Char.toLower = m.1 := by
  obtain ⟨marker, _, rfl⟩ := List.mem_map.mp hm
  exact Text.map_toLower_lower marker.text.toList

end Built

/-- Whatever the grammar and the markers of a codec are, if its markers are ASCII they are recognized
in every letter case and among any characters.  A failure marker that some line holds decides, unless
one before it does.  Lines in another order or number have the same answer, and further lines never
take an answer away or let a later marker decide. -/
theorem markers_are_robust (payload? : List Char → Option (List Char)) (ready : String)
    (failures : List FailureMarker)
    (hready : IsAscii (build payload? ready failures).readyMarker)
    (hfailures : ∀ m ∈ (build payload? ready failures).failureMarkers, IsAscii m.1) :
    let codec := build payload? ready failures
    (∀ lines line k m x, line ∈ lines → codec.failureMarkers[k]? = some m →
      IsCaseVariant x m.1 → x <:+: line.toList →
      ∃ j ≤ k, ∃ m', codec.DecidedBy lines j m' ∧ codec.startFailure? lines = some m'.2) ∧
    (∀ lines lines', (∀ line, line ∈ lines ↔ line ∈ lines') →
      codec.startFailure? lines = codec.startFailure? lines') ∧
    (∀ lines more reason, codec.startFailure? lines = some reason →
      ∃ k m j m', codec.DecidedBy lines k m ∧ m.2 = reason ∧ j ≤ k ∧
        codec.DecidedBy (lines ++ more) j m' ∧ codec.startFailure? (lines ++ more) = some m'.2) ∧
    ∀ line x, IsCaseVariant x codec.readyMarker → x <:+: line.toList →
      codec.isReadyLine line = true := by
  intro codec
  refine ⟨fun lines line k m x hline hplace hx hembedded => ?_, fun lines lines' hsame => ?_,
    fun lines more reason hreason => ?_, fun line x hx hembedded => ?_⟩
  · have hmem := List.mem_of_getElem? hplace
    have hfound := finds_of_variant hline hx (build_failureMarker_small hmem) (hfailures m hmem)
      hembedded
    obtain ⟨j, hj, m', hdecided⟩ := exists_decided hplace hfound
    exact ⟨j, hj, m', hdecided, hdecided.startFailure?⟩
  · exact startFailure?_congr hsame
  · obtain ⟨k, m, hdecided, heq⟩ := startFailure?_eq_some_iff.mp hreason
    obtain ⟨j, hj, m', hlater⟩ := hdecided.append more
    exact ⟨k, m, j, m', hdecided, heq, hj, hlater, hlater.startFailure?⟩
  · exact isReadyLine_iff.mpr (hx.infix_lower build_readyMarker_small hready hembedded)

/-- The first marker of the usual codec stands between letters whose small forms are longer or look
around, in a line behind one with the second marker. -/
theorem markers_are_robust_among_sigmas :
    let lines := ["PERMISSION DENIED", "İΣCommand NOT FoundΣ"]
    (∃ j ≤ 0, ∃ m, usual.DecidedBy lines j m ∧ usual.startFailure? lines = some m.2) ∧
      usual.startFailure? lines = some .binaryMissing ∧
      usual.isReadyLine "ΣWaiting FOR Inputİ" = true := by
  intro lines
  have hrobust := markers_are_robust (LineGrammar.firstPlace? LineGrammar.trafficAt?)
    usualReadyMarker usualFailureMarkers (by decide +kernel) (by decide +kernel)
  exact ⟨hrobust.1 lines _ 0 _ "Command NOT Found".toList (List.mem_cons_of_mem _ (.head _)) rfl
      (by decide +kernel) ⟨"İΣ".toList, "Σ".toList, by decide⟩,
    by decide +kernel,
    hrobust.2.2.2 _ "Waiting FOR Input".toList (by decide +kernel)
      ⟨"Σ".toList, "İ".toList, by decide⟩⟩

end Codec

end CecBench
