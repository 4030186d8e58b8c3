/-!
# Words of a shell command

A word is safe when it is not empty and made of ASCII letters, digits and a few marks that no shell
gives a meaning.  Any other word is put between single quotes, and a single quote inside it is
written by ending the quotes, putting the quote between double quotes, and beginning again.
-/

namespace CecBench.Text.ShellWords

/-- A character that no shell gives a meaning. -/
def isSafe (c : Char) : Bool :=
  c.isAlphanum || ['_', '@', '%', '+', '=', ':', ',', '.', '/', '-'].contains c

/-- A character as it stands between single quotes. -/
def quotedChar (c : Char) : List Char :=
  if c = '\'' then ['\'', '"', '\'', '"', '\''] else [c]

/-- A word written so that a shell reads it as one word. -/
def quote (w : List Char) : List Char :=
  if !w.isEmpty && w.all isSafe then w else '\'' :: w.flatMap quotedChar ++ ['\'']

/-- The words of a command, written with a blank between each two of them. -/
def join (words : List String) : String :=
  " ".intercalate (words.map fun w => String.ofList (quote w.toList))

example : quote "it's".toList = "'it'\"'\"'s'".toList := by decide

example : quote [] = ['\'', '\''] ∧ quote "-t".toList = "-t".toList := by decide

end CecBench.Text.ShellWords
