/-!
# Parts of a text

`contains needle text` says that the text holds the needle somewhere, and `pieces` cuts a text at
every occurrence of one character.  A text has one piece more than it has cuts.
-/

namespace CecBench.Text

/-- The text holds the needle somewhere. -/
def contains (needle : List Char) : List Char → Bool
  | [] => needle.isEmpty
  | c :: rest => needle.isPrefixOf (c :: rest) || contains needle rest

/-- The text after the given start, if it begins with that start. -/
def after? : List Char → List Char → Option (List Char)
  | [], text => some text
  | _ :: _, [] => none
  | s :: start, c :: text => if s = c then after? start text else none

/-- The first piece of a text cut at `c`, and the pieces after it. -/
def pieces (c : Char) : List Char → List Char × List (List Char)
  | [] => ([], [])
  | d :: rest =>
    let (first, others) := pieces c rest
    if d = c then ([], first :: others) else (d :: first, others)

/-- All pieces of a text cut at `c`, in order. -/
def split (c : Char) (s : List Char) : List (List Char) :=
  (pieces c s).1 :: (pieces c s).2

/-- The texts with the joint between each two of them. -/
def join (joint : List Char) : List (List Char) → List Char
  | [] => []
  | [s] => s
  | s :: t :: rest => s ++ joint ++ join joint (t :: rest)

example : split ':' "40::04".toList = ["40".toList, [], "04".toList] := by decide

end CecBench.Text
