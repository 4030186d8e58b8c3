import CecBench.Text.Blank
import CecBench.Text.Search
import Mathlib.Data.List.TakeWhile

/-!
# Laws of texts

Laws of the small readers that grammars are made of.  Taking a start off a text
is the inverse of putting it there, a run of a class ends at the first character
outside of it, trimming undoes padding, and cutting a text at a character is the
inverse of joining pieces without it.
-/

namespace CecBench.Text

/-! ## Starts and runs -/

theorem after?_eq_some_iff {start s rest : List Char} :
    after? start s = some rest ↔ s = start ++ rest := by
  induction start generalizing s with
  | nil =>
    rw [after?, Option.some.injEq]
    rfl
  | cons c start ih =>
    cases s with
    | nil => exact ⟨fun h => (by cases h), fun h => (by cases h)⟩
    | cons d s =>
      rw [after?, List.cons_append, List.cons.injEq]
      split
      · rename_i hcd
        rw [ih]
        exact ⟨fun h => ⟨hcd.symm, h⟩, fun h => h.2⟩
      · rename_i hcd
        exact ⟨fun h => (by cases h), fun h => absurd h.1.symm hcd⟩

theorem contains_iff {needle s : List Char} : contains needle s = true ↔ needle <:+: s := by
  induction s with
  | nil => simp [contains]
  | cons c s ih =>
    rw [contains, Bool.or_eq_true, List.isPrefixOf_iff_prefix, ih, List.infix_cons_iff]

section Runs

variable {p : Char → Bool} {run rest : List Char}

theorem dropWhile_of_head (hrest : ∀ c ∈ rest.head?, p c = false) : rest.dropWhile p = rest := by
  cases rest with
  | nil => rfl
  | cons c rest => rw [List.dropWhile_cons, hrest c rfl, if_neg Bool.false_ne_true]

theorem dropWhile_run (hrun : ∀ c ∈ run, p c = true) (hrest : ∀ c ∈ rest.head?, p c = false) :
    (run ++ rest).dropWhile p = rest := by
  rw [List.dropWhile_append_of_pos hrun, dropWhile_of_head hrest]

theorem takeWhile_run (hrun : ∀ c ∈ run, p c = true) (hrest : ∀ c ∈ rest.head?, p c = false) :
    (run ++ rest).takeWhile p = run := by
  rw [List.takeWhile_append_of_pos hrun]
  cases rest with
  | nil => rw [List.takeWhile_nil, List.append_nil]
  | cons c rest =>
    rw [List.takeWhile_cons, hrest c rfl, if_neg Bool.false_ne_true, List.append_nil]

/-- A text begins with a run, which may be empty, and goes on behind it. -/
theorem exists_run (p : Char → Bool) (s : List Char) :
    ∃ run, (∀ c ∈ run, p c = true) ∧ s = run ++ s.dropWhile p :=
  ⟨s.takeWhile p, fun _ hc => List.mem_takeWhile_imp hc, List.takeWhile_append_dropWhile.symm⟩

theorem head_dropWhile (p : Char → Bool) (s : List Char) :
    ∀ c ∈ (s.dropWhile p).head?, p c = false := by
  intro c hc
  have h := List.head?_dropWhile_not p s
  rw [Option.mem_def.mp hc] at h
  exact h

end Runs

/-! ## Trimming -/

section Trimming

variable {p : Char → Bool} {before s behind : List Char}

theorem dropTrailing_append (h : ∀ c ∈ behind, p c = true) :
    dropTrailing p (s ++ behind) = dropTrailing p s := by
  unfold dropTrailing
  rw [List.reverse_append, List.dropWhile_append_of_pos]
  intro c hc
  exact h c (List.mem_reverse.mp hc)

theorem dropTrailing_eq_self (h : ∀ c ∈ s.getLast?, p c = false) : dropTrailing p s = s := by
  rw [dropTrailing, dropWhile_of_head, List.reverse_reverse]
  intro c hc
  rw [List.head?_reverse] at hc
  exact h c hc

/-- Trimming takes off what a text is padded with. -/
theorem trimBy_pad (hbefore : ∀ c ∈ before, p c = true) (hbehind : ∀ c ∈ behind, p c = true) :
    trimBy p (before ++ s ++ behind) = trimBy p s := by
  unfold trimBy
  rw [List.append_assoc, List.dropWhile_append_of_pos hbefore, List.dropWhile_append]
  split
  · rename_i hs
    rw [List.isEmpty_iff.mp hs, List.dropWhile_eq_nil_iff.mpr hbehind]
  · exact dropTrailing_append hbehind

/-- Trimming leaves a text whose ends are outside of the class. -/
theorem trimBy_eq_self (hfirst : ∀ c ∈ s.head?, p c = false)
    (hlast : ∀ c ∈ s.getLast?, p c = false) : trimBy p s = s := by
  rw [trimBy, dropWhile_of_head hfirst, dropTrailing_eq_self hlast]

theorem exists_dropTrailing (p : Char → Bool) (s : List Char) :
    ∃ behind, (∀ c ∈ behind, p c = true) ∧ s = dropTrailing p s ++ behind := by
  obtain ⟨run, hrun, heq⟩ := exists_run p s.reverse
  refine ⟨run.reverse, fun c hc => hrun c (List.mem_reverse.mp hc), ?_⟩
  rw [dropTrailing, ← List.reverse_append, ← heq, List.reverse_reverse]

/-- A text is what trimming leaves with padding around it. -/
theorem exists_pad (p : Char → Bool) (s : List Char) :
    ∃ before behind, (∀ c ∈ before, p c = true) ∧ (∀ c ∈ behind, p c = true) ∧
      s = before ++ trimBy p s ++ behind := by
  obtain ⟨before, hbefore, heq⟩ := exists_run p s
  obtain ⟨behind, hbehind, heq'⟩ := exists_dropTrailing p (s.dropWhile p)
  refine ⟨before, behind, hbefore, hbehind, ?_⟩
  rw [trimBy, List.append_assoc, ← heq', ← heq]

/-- What trimming leaves does not end in the class. -/
theorem getLast_dropTrailing (p : Char → Bool) (s : List Char) :
    ∀ c ∈ (dropTrailing p s).getLast?, p c = false := by
  intro c hc
  rw [dropTrailing, List.getLast?_reverse] at hc
  exact head_dropWhile p s.reverse c hc

/-- What trimming leaves does not begin in the class. -/
theorem head_trimBy (p : Char → Bool) (s : List Char) :
    ∀ c ∈ (trimBy p s).head?, p c = false := by
  intro c hc
  obtain ⟨behind, _, heq⟩ := exists_dropTrailing p (s.dropWhile p)
  refine head_dropWhile p s c ?_
  rw [trimBy, Option.mem_def] at hc
  rw [heq, List.head?_append, hc]
  rfl

theorem mem_of_mem_trim {c : Char} (hc : c ∈ trim s) : c ∈ s := by
  obtain ⟨before, behind, _, _, heq⟩ := exists_pad isBlank s
  rw [heq]
  exact List.mem_append_left _ (List.mem_append_right _ hc)

/-- Trimming twice is trimming once. -/
theorem trim_trim (s : List Char) : trim (trim s) = trim s :=
  trimBy_eq_self (head_trimBy isBlank s) (getLast_dropTrailing isBlank _)

end Trimming

/-! ## Cutting and joining -/

section Pieces

variable {c : Char}

theorem split_of_not_mem {s : List Char} (h : c ∉ s) : split c s = [s] := by
  induction s with
  | nil => rfl
  | cons d s ih =>
    rw [List.mem_cons, not_or] at h
    have hs := ih h.2
    rw [split, List.cons.injEq] at hs
    simp only [split, pieces, hs.1, hs.2, if_neg (Ne.symm h.1)]

theorem split_append {first : List Char} (h : c ∉ first) (rest : List Char) :
    split c (first ++ c :: rest) = first :: split c rest := by
  induction first with
  | nil => simp only [split, pieces, List.nil_append, if_pos]
  | cons d first ih =>
    rw [List.mem_cons, not_or] at h
    have hrest := ih h.2
    rw [split, List.cons.injEq] at hrest
    simp only [split, List.cons_append, pieces, hrest.1, hrest.2, if_neg (Ne.symm h.1)]

/-- Cutting takes apart what joining has put together. -/
theorem split_join {groups : List (List Char)} (hne : groups ≠ []) (h : ∀ g ∈ groups, c ∉ g) :
    split c (join [c] groups) = groups := by
  induction groups with
  | nil => exact absurd rfl hne
  | cons g groups ih =>
    have hg := h g (List.mem_cons_self ..)
    cases groups with
    | nil => exact split_of_not_mem hg
    | cons g' groups =>
      rw [join, List.append_assoc, List.singleton_append, split_append hg,
        ih (List.cons_ne_nil _ _) fun x hx => h x (List.mem_cons_of_mem _ hx)]

/-- Joining puts together what cutting has taken apart. -/
theorem join_split (c : Char) (s : List Char) : join [c] (split c s) = s := by
  induction s with
  | nil => rfl
  | cons d s ih =>
    rw [split] at ih
    simp only [split, pieces]
    split
    · rename_i hd
      rw [join, ih, hd]
      rfl
    · cases hp : (pieces c s).2 with
      | nil =>
        rw [hp] at ih
        exact congrArg (d :: ·) ih
      | cons g groups =>
        rw [hp] at ih
        exact congrArg (d :: ·) ih

theorem mem_join {joint : List Char} {groups : List (List Char)} {d : Char}
    (hd : d ∈ join joint groups) : d ∈ joint ∨ ∃ g ∈ groups, d ∈ g := by
  induction groups with
  | nil => cases hd
  | cons g groups ih =>
    cases groups with
    | nil => exact Or.inr ⟨g, List.mem_cons_self .., hd⟩
    | cons g' groups =>
      rw [join] at hd
      rcases List.mem_append.mp hd with hd | hd
      · rcases List.mem_append.mp hd with hd | hd
        · exact Or.inr ⟨g, List.mem_cons_self .., hd⟩
        · exact Or.inl hd
      · rcases ih hd with hd | ⟨x, hx, hd⟩
        · exact Or.inl hd
        · exact Or.inr ⟨x, List.mem_cons_of_mem _ hx, hd⟩

theorem join_cons (joint first : List Char) (groups : List (List Char)) :
    join joint (first :: groups) = first ++ groups.flatMap fun g => joint ++ g := by
  induction groups generalizing first with
  | nil => simp [join]
  | cons g groups ih => simp [join, ih]

theorem map_join (f : Char → Char) (joint : List Char) (groups : List (List Char)) :
    (join joint groups).map f = join (joint.map f) (groups.map (List.map f)) := by
  induction groups with
  | nil => rfl
  | cons g groups ih =>
    cases groups with
    | nil => rfl
    | cons g' groups =>
      rw [join, List.map_append, List.map_append, ih]
      rfl

theorem filter_join (p : Char → Bool) (joint : List Char) (groups : List (List Char)) :
    (join joint groups).filter p = join (joint.filter p) (groups.map (List.filter p)) := by
  induction groups with
  | nil => rfl
  | cons g groups ih =>
    cases groups with
    | nil => rfl
    | cons g' groups =>
      rw [join, List.filter_append, List.filter_append, ih]
      rfl

end Pieces

end CecBench.Text
