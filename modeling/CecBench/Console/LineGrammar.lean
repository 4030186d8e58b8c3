import CecBench.Text.Blank
import CecBench.Text.DecimalDigit
import CecBench.Text.Search

/-!
# Grammars of traffic lines

The adapter program prints a line for every frame that it hears.  Where the bytes of the frame stand in
it is a matter of the program, so it is left to a grammar.  A grammar finds the payload of a line, if
the line has one.  It looks at every place of the line, the first one first.

`traffic` is the grammar of the usual program: somewhere in the line stands a marker

    TRAFFIC: [  2318]   >>

and the payload runs from there to the end, without the blanks around it, on one line.
-/

namespace CecBench

open Text

/-- A grammar of traffic lines. -/
structure LineGrammar where
  /-- The grammar as its author writes it. -/
  pattern : String
  /-- The payload of a line.  Missing if the grammar names no payload. -/
  payload? : Option (List Char → Option (List Char))

namespace LineGrammar

/-- What the reader finds at the first place of the text where it finds something. -/
def firstPlace? {α : Type} (reader : List Char → Option α) : List Char → Option α
  | [] => reader []
  | c :: rest =>
    match reader (c :: rest) with
    | some found => some found
    | none => firstPlace? reader rest

/-- A run of at least one character of a class, and what follows it. -/
def run? (p : Char → Bool) (s : List Char) : Option (List Char × List Char) :=
  let run := s.takeWhile p
  if run.isEmpty then none else some (run, s.dropWhile p)

/-! ## The usual grammar -/

/-- What follows a traffic marker that begins the text. -/
def afterMarker? (s : List Char) : Option (List Char) := do
  let s ← after? ['T', 'R', 'A', 'F', 'F', 'I', 'C', ':'] s
  let s ← after? ['['] (s.dropWhile isBlank)
  let (_, s) ← run? isDecimalDigit (s.dropWhile isBlank)
  let s ← after? [']'] s
  after? ['>', '>'] (s.dropWhile isBlank)

/-- The payload behind a traffic marker that begins the text. -/
def trafficAt? (s : List Char) : Option (List Char) := do
  let payload := trim (← afterMarker? s)
  if payload.contains '\n' then none else some payload

/-- The grammar of the usual adapter program. -/
def traffic : LineGrammar where
  pattern := "TRAFFIC:\\s*\\[\\s*\\d+\\]\\s*>>\\s*(?P<payload>.*?)\\s*$"
  payload? := some (firstPlace? trafficAt?)

/-! ## Other grammars -/

/-- An ASCII digit, a letter from `a` to `f`, or a colon. -/
def isSmallHexOrColon (c : Char) : Bool :=
  ('0' ≤ c && c ≤ '9') || ('a' ≤ c && c ≤ 'f') || c == ':'

/-- An ASCII hexadecimal digit of either case, or a colon. -/
def isHexOrColon (c : Char) : Bool := isSmallHexOrColon c || ('A' ≤ c && c ≤ 'F')

/-- The word `RX`, blanks, and the digits and colons after them. -/
def received : LineGrammar where
  pattern := "RX\\s+(?P<payload>[0-9a-f:]+)"
  payload? := some <| firstPlace? fun s => do
    let s ← after? ['R', 'X'] s
    let (_, s) ← run? isBlank s
    let (payload, _) ← run? isSmallHexOrColon s
    return payload

/-- An arrow that begins the line or stands behind a blank, and the word after it. -/
def arrow : LineGrammar where
  pattern := "(?:^|\\s)>>\\s*(?P<payload>\\S*)"
  payload? := some fun line =>
    let behindBlank : List Char → Option (List Char)
      | [] => none
      | c :: rest => if isBlank c then after? ['>', '>'] rest else none
    let found := match after? ['>', '>'] line with
      | some rest => some rest
      | none => firstPlace? behindBlank line
    found.map fun rest => (rest.dropWhile isBlank).takeWhile fun c => !isBlank c

/-- A whole line of the word `RX`, one space and one word. -/
def receivedLine : LineGrammar where
  pattern := "^RX (?P<payload>\\S+)$"
  payload? := some fun line => do
    let s ← after? ['R', 'X', ' '] line
    let (payload, rest) ← run? (fun c => !isBlank c) s
    if rest = [] ∨ rest = ['\n'] then some payload else none

/-- The word `FRAME`, with a payload behind an equals sign or with none. -/
def optional : LineGrammar where
  pattern := "FRAME(?:=(?P<payload>[0-9A-Fa-f:]*))?"
  payload? := some <| firstPlace? fun s => do
    let s ← after? ['F', 'R', 'A', 'M', 'E'] s
    match s with
    | '=' :: rest => return rest.takeWhile isHexOrColon
    | _ => return []

/-- An arrow and a word that the grammar does not name. -/
def unnamed : LineGrammar where
  pattern := ">>\\s*(\\S+)"
  payload? := none

example : firstPlace? trafficAt? "x TRAFFIC: [ 7]\t>> 40:04 \r".toList = some "40:04".toList := by
  decide +kernel

end LineGrammar

end CecBench
