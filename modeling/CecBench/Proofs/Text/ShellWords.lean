import CecBench.Text.ShellWords

/-!
# Reading the words of a shell command

A shell cuts a command into words at its blanks.  Between single quotes every character stands for
itself.  Between double quotes a dollar sign or a backquote asks for something to be put in, and a
backslash takes the meaning from these two, from a double quote and from itself.  Outside of quotes a
backslash takes the meaning from every character.  What else has a meaning there, such as a bar, an
asterisk or the end of a line, makes the command more than its words.

`readWords` gives the words of a command that is no more than that.  It reads the characters one by
one, and `Reading` is what it knows in between.  `readWords_join` is the point of it: a list of words
that was written down is read back, whatever is in the words.
-/

namespace CecBench.Text.ShellWords

/-! ## The reader -/

/-- What the next character is taken for. -/
inductive Quoting
  | plain
  /-- Behind a backslash. -/
  | escaped
  | single
  | double
  /-- Behind a backslash between double quotes. -/
  | doubleEscaped
  deriving DecidableEq, Repr

/-- What is known of a command of which a part was read. -/
structure Reading where
  /-- The words that are over. -/
  words : List (List Char) := []
  /-- The word that has begun. -/
  word : Option (List Char) := none
  /-- What the next character is taken for. -/
  quoting : Quoting := .plain
  deriving DecidableEq, Repr

/-- The characters between words. -/
def separators : List Char := [' ', '\t']

/-- The characters that ask for something to be put in, between double quotes as well. -/
def expansions : List Char := ['$', '\x60']

/-- The characters by which a command is more than its words, unless they are quoted. -/
def operators : List Char := expansions ++ "|&;<>()[]\x7b\x7d*?#~!^\n".toList

namespace Reading

/-- The word goes on, or begins, with the given characters. -/
def grow (s : Reading) (cs : List Char) : Reading :=
  { s with word := some (s.word.getD [] ++ cs) }

/-- The word is over, if one has begun. -/
def close (s : Reading) : Reading := { s with words := s.words ++ s.word.toList, word := none }

/-- What is known after one more character of a command that is no more than its words. -/
def next (s : Reading) (c : Char) : Option Reading :=
  match s.quoting with
  | .plain =>
    if c ∈ separators then some s.close
    else if c = '\'' then some { s.grow [] with quoting := .single }
    else if c = '"' then some { s.grow [] with quoting := .double }
    else if c = '\\' then some { s with quoting := .escaped }
    else if c ∈ operators then none
    else some (s.grow [c])
  | .escaped =>
    -- A line that ends in a backslash goes on with the next one.
    if c = '\n' then some { s with quoting := .plain }
    else some { s.grow [c] with quoting := .plain }
  | .single =>
    if c = '\'' then some { s with quoting := .plain } else some (s.grow [c])
  | .double =>
    if c = '"' then some { s with quoting := .plain }
    else if c = '\\' then some { s with quoting := .doubleEscaped }
    else if c ∈ expansions then none
    else some (s.grow [c])
  | .doubleEscaped =>
    if c = '\n' then some { s with quoting := .double }
    else if c = '"' ∨ c = '\\' ∨ c ∈ expansions then some { s.grow [c] with quoting := .double }
    else some { s.grow ['\\', c] with quoting := .double }

/-- What is known after some more characters. -/
def feed (s : Reading) (cs : List Char) : Option Reading := cs.foldlM next s

/-- The words, if the command can end here. -/
def result (s : Reading) : Option (List (List Char)) :=
  if s.quoting = .plain then some s.close.words else none

end Reading

/-- The words of a command that is no more than its words. -/
def readWords (command : String) : Option (List String) := do
  let s ← Reading.feed {} command.toList
  let words ← s.result
  return words.map String.ofList

example : readWords "a 'b c' \"d $\" e\\ f" = none ∧
    readWords "a 'b $c'd \"\\$e \" f\\ g ''" = some ["a", "b $cd", "$e ", "f g", ""] := by decide

/-! ## Reading what was written -/

namespace Reading

variable {s s' : Reading} {c : Char} {xs : List (List Char)} {v w : List Char}

@[simp] theorem feed_nil (s : Reading) : s.feed [] = some s := rfl

@[simp] theorem feed_cons (s : Reading) (c : Char) (cs : List Char) :
    s.feed (c :: cs) = s.next c >>= (feed · cs) := rfl

/-- With one part read, the rest follows. -/
theorem feed_append {cs : List Char} (h : s.feed cs = some s') (rest : List Char) :
    s.feed (cs ++ rest) = s'.feed rest := by
  rw [feed, List.foldlM_append]
  exact congrArg (· >>= (feed · rest)) h

/-- A character that means something outside of quotes is not safe. -/
theorem isSafe_of_meaning (c : Char) (hc : c ∈ separators ++ ['\'', '"', '\\'] ++ operators) :
    isSafe c = false := by
  have hall : ((separators ++ ['\'', '"', '\\'] ++ operators).all fun c => !isSafe c) = true := by
    decide
  simpa using List.all_eq_true.mp hall c hc

theorem next_safe (h : isSafe c = true) (hplain : s.quoting = .plain) :
    s.next c = some (s.grow [c]) := by
  have hmeans : c ∉ separators ++ ['\'', '"', '\\'] ++ operators := fun hc => by
    rw [isSafe_of_meaning c hc] at h
    cases h
  simp only [List.mem_append, List.mem_cons, List.not_mem_nil, or_false, not_or] at hmeans
  obtain ⟨⟨hseparator, hsingle, hdouble, hbackslash⟩, hoperator⟩ := hmeans
  simp only [next, hplain, if_neg hseparator, if_neg hsingle, if_neg hdouble, if_neg hbackslash,
    if_neg hoperator]

/-- Safe characters join the word that has begun. -/
theorem feed_safe (h : w.all isSafe = true) :
    feed ⟨xs, some v, .plain⟩ w = some ⟨xs, some (v ++ w), .plain⟩ := by
  induction w generalizing v with
  | nil => simp
  | cons c w ih =>
    obtain ⟨hc, hw⟩ := Bool.and_eq_true_iff.mp (List.all_cons.symm.trans h)
    rw [feed_cons, next_safe hc rfl]
    exact (ih hw).trans (by simp)

/-- A single quote leaves the quotes, stands between double quotes, and comes back. -/
theorem feed_quotedChar (c : Char) :
    feed ⟨xs, some v, .single⟩ (quotedChar c) = some ⟨xs, some (v ++ [c]), .single⟩ := by
  unfold quotedChar
  split
  · rename_i hquote
    rw [hquote]
    simp [next, grow, separators, expansions]
  · rename_i hother
    simp [next, grow, hother]

/-- Between single quotes every character joins the word. -/
theorem feed_quoted :
    feed ⟨xs, some v, .single⟩ (w.flatMap quotedChar) = some ⟨xs, some (v ++ w), .single⟩ := by
  induction w generalizing v with
  | nil => simp
  | cons c w ih =>
    rw [List.flatMap_cons, feed_append (feed_quotedChar c), ih, List.append_assoc]
    rfl

/-- A word that was written down is begun and not over. -/
theorem feed_quote (w : List Char) :
    feed ⟨xs, none, .plain⟩ (quote w) = some ⟨xs, some w, .plain⟩ := by
  unfold quote
  split
  · rename_i h
    rw [Bool.and_eq_true] at h
    obtain ⟨hne, hsafe⟩ := h
    cases w with
    | nil => cases hne
    | cons c w =>
      obtain ⟨hc, hw⟩ := Bool.and_eq_true_iff.mp (List.all_cons.symm.trans hsafe)
      rw [feed_cons, next_safe hc rfl]
      exact feed_safe hw
  · have hopen : next ⟨xs, none, .plain⟩ '\'' = some ⟨xs, some [], .single⟩ := by
      simp [next, grow, separators]
    have hclose : feed ⟨xs, some w, .single⟩ ['\''] = some ⟨xs, some w, .plain⟩ := by
      simp [next]
    rw [List.cons_append, feed_cons, hopen]
    exact (feed_append feed_quoted _).trans hclose

/-- A blank is between two words. -/
theorem next_blank : next ⟨xs, some w, .plain⟩ ' ' = some ⟨xs ++ [w], none, .plain⟩ := by
  simp [next, close, separators]

/-- The words behind those that are over. -/
theorem feed_words (xs ws : List (List Char)) :
    (feed ⟨xs, none, .plain⟩ ([' '].intercalate (ws.map quote))).bind result = some (xs ++ ws) := by
  induction ws generalizing xs with
  | nil => simp [List.intercalate, result, close]
  | cons w ws ih =>
    cases ws with
    | nil =>
      have hword : [' '].intercalate ([w].map quote) = quote w := by simp
      rw [hword, feed_quote]
      rfl
    | cons w' ws =>
      rw [List.map_cons, List.map_cons, List.intercalate_cons_cons, List.append_assoc,
        feed_append (feed_quote w), List.singleton_append, feed_cons, next_blank]
      exact (ih (xs ++ [w])).trans (by simp)

end Reading

/-- Words that were written down are read back. -/
theorem readWords_join (words : List String) : readWords (join words) = some words := by
  have hchars : (join words).toList = [' '].intercalate ((words.map String.toList).map quote) := by
    rw [join, String.toList_intercalate, List.map_map, List.map_map]
    exact congrArg _ (List.map_congr_left fun w _ => by simp)
  have hwords := Reading.feed_words [] (words.map String.toList)
  have hback : (words.map String.toList).map String.ofList = words := by
    rw [List.map_map]
    exact (List.map_congr_left fun w _ => by simp).trans (List.map_id _)
  rw [List.nil_append, ← hchars, Option.bind_eq_some_iff] at hwords
  obtain ⟨s, hfeed, hresult⟩ := hwords
  simp [readWords, hfeed, hresult, hback]

end CecBench.Text.ShellWords
