import CecBench.CommandLine.Value

/-!
# Arguments

A command line is a list of arguments.  An argument that begins with a dash is an option, unless it is
a dash alone, looks like a negative number, or has a space in it and is the start of no option's name.
Every other one is a word.  Two dashes alone are a separator, behind which everything is a word.

An option is given by its name or by any start of it that no other option shares.  Its value is the
next argument, which must be a word, or follows the name behind an equals sign.  Two dashes behind the
equals sign are no value: they withdraw the option's value, also one that it has by itself.  Every list
of options has the help flag, whose letter may be repeated and may have nothing else attached.

What each argument is, is settled for all of them before any of them takes effect.  Then they take
effect from left to right, and the first that is wrong ends it.  What nothing is made of is left over.
-/

namespace CecBench.CommandLine

/-! ## Faults -/

/-- What is wrong with a list of arguments. -/
inductive UsageFault
  /-- More than one option begins like this. -/
  | ambiguous (argument : String) (names : List String)
  /-- The option has no value. -/
  | needsValue (name : String)
  /-- The option takes no value, and has one. -/
  | refusesValue (name value : String)
  /-- The value does not suit. -/
  | badValue (name : String) (e : ValueError)
  /-- The word is none of those that it may be. -/
  | badChoice (name word : String) (choices : List String)
  /-- A word is missing. -/
  | missing (name : String)
  /-- Nothing is made of these arguments. -/
  | leftOver (arguments : List String)
  deriving DecidableEq, Repr

/-- What is said about it. -/
def UsageFault.message : UsageFault → String
  | .ambiguous argument names =>
    s!"ambiguous option: {argument} could match " ++ ", ".intercalate names
  | .needsValue name => s!"argument {name}: expected one argument"
  | .refusesValue name value =>
    s!"argument {name}: ignored explicit argument {Text.quoted value}"
  | .badValue name e => s!"argument {name}: {e.message}"
  | .badChoice name word choices =>
    s!"argument {name}: invalid choice: {Text.quoted word} (choose from " ++
      ", ".intercalate (choices.map Text.quoted) ++ ")"
  | .missing name => s!"the following arguments are required: {name}"
  | .leftOver arguments => "unrecognized arguments: " ++ " ".intercalate arguments

/-- Why reading the arguments stops before their end. -/
inductive StopCause
  /-- Help is wanted. -/
  | help
  /-- Something is wrong. -/
  | misuse (fault : UsageFault)
  deriving DecidableEq, Repr

/-- A stop, and the command that was being read. -/
structure Stop where
  /-- The command with the words before it. -/
  command : String
  /-- Why. -/
  cause : StopCause
  deriving DecidableEq, Repr

/-! ## Options -/

/-- What an option does to the settings. -/
inductive Effect (σ : Type)
  /-- It stands alone. -/
  | flag (apply : σ → σ)
  /-- It takes a value, which may be withdrawn. -/
  | value (apply : Option String → σ → Except ValueError σ)

/-- An option. -/
structure OptionRule (σ : Type) where
  /-- The name, with its dashes. -/
  name : String
  /-- What it does. -/
  effect : Effect σ

/-- What the words among the arguments are for. -/
inductive WordRule (σ : Type)
  /-- For nothing. -/
  | none
  /-- The first one is a value. -/
  | one (name : String) (apply : String → σ → Except ValueError σ)
  /-- The first one is a command, and all that is behind belongs to it. -/
  | command (name : String) (apply : String → List String → σ → Except Stop σ)

/-- How the arguments of a command are read. -/
structure CommandRule (σ : Type) where
  /-- The command with the words before it. -/
  command : String
  /-- The options besides the help flag. -/
  options : List (OptionRule σ)
  /-- What the words are for. -/
  words : WordRule σ

/-! ## What the arguments are -/

/-- What an argument is. -/
inductive Mark (σ : Type)
  | word
  | separator
  /-- The help flag, or what is wrongly attached to it. -/
  | help (attached : Option String)
  /-- An option, and the value attached to it. -/
  | option (rule : OptionRule σ) (attached : Option String)
  /-- An option that there is not. -/
  | unknown

/-- An argument, and what it is. -/
structure Argument (σ : Type) where
  /-- The argument. -/
  text : String
  /-- What it is. -/
  mark : Mark σ

/-- The long name of the help flag. -/
def helpName : String := "--help"

/-- The letter of the help flag. -/
def helpLetter : Char := 'h'

/-- Both names of the help flag. -/
def helpNames : String := "-h/--help"

/-- The text looks like a negative number.  It may end in a line feed. -/
def isNegativeNumeral : List Char → Bool
  | '-' :: rest =>
    let rest := if rest.getLast? = some '\n' then rest.dropLast else rest
    match rest.dropWhile Text.isDecimalDigit with
    | [] => !rest.isEmpty
    | '.' :: digits => !digits.isEmpty && digits.all Text.isDecimalDigit
    | _ => false
  | _ => false

/-- What is left of a text behind the help letters that it begins with, if something is. -/
def afterHelpLetters (s : List Char) : Option (List Char) :=
  match s.dropWhile (· == helpLetter) with
  | [] => none
  | rest => some rest

/-- What is wrongly attached to the help letter, where the text follows the letter.  More help letters
are no fault.  An equals sign right behind the letter does not count, but then something must follow
it. -/
def attachedToHelp : List Char → Option (List Char)
  | ['='] => some []
  | '=' :: value => afterHelpLetters value
  | rest => afterHelpLetters rest

/-- The name before the first equals sign, and the value behind it if there is one. -/
def splitValue (s : List Char) : String × Option String :=
  let name := s.takeWhile (· != '=')
  let value := match s.dropWhile (· != '=') with
    | [] => none
    | _ :: value => some (String.ofList value)
  (String.ofList name, value)

/-- What a text with two dashes at its start is, if it is a name or the start of one. -/
def markLong? {σ : Type} (options : List (OptionRule σ)) (text : String) :
    Except UsageFault (Option (Mark σ)) :=
  let (name, attached) := splitValue text.toList
  let named : List (String × Mark σ) :=
    (helpName, .help attached) :: options.map fun o => (o.name, .option o attached)
  match named.find? fun c => c.1 == name with
  | some c => .ok (some c.2)
  | none =>
    match named.filter fun c => name.toList.isPrefixOf c.1.toList with
    | [] => .ok none
    | [c] => .ok (some c.2)
    | several => .error (.ambiguous text (several.map Prod.fst))

/-- What a text with a dash at its start is that is the start of no name. -/
def markNameless {σ : Type} (s : List Char) : Mark σ :=
  if isNegativeNumeral s || s.contains ' ' then .word else .unknown

/-- What an argument before the separator is. -/
def mark {σ : Type} (options : List (OptionRule σ)) (text : String) : Except UsageFault (Mark σ) :=
  match text.toList with
  | ['-', '-'] => .ok .separator
  | '-' :: '-' :: _ => do
    return (← markLong? options text).getD (markNameless text.toList)
  | '-' :: c :: rest =>
    if c = helpLetter then .ok (.help ((attachedToHelp rest).map String.ofList))
    else .ok (markNameless text.toList)
  | _ => .ok .word

/-- What the arguments are. -/
def markAll {σ : Type} (options : List (OptionRule σ)) :
    List String → Except UsageFault (List (Argument σ))
  | [] => .ok []
  | text :: rest => do
    match ← mark options text with
    | .separator => return ⟨text, .separator⟩ :: rest.map fun text => ⟨text, .word⟩
    | m => return ⟨text, m⟩ :: (← markAll options rest)

/-! ## What the arguments do -/

/-- How far reading has come. -/
structure Progress (σ : Type) where
  /-- The settings so far. -/
  settings : σ
  /-- What the next word is for. -/
  words : WordRule σ
  /-- What nothing was made of. -/
  leftOver : List String := []

/-- The progress with one more argument left over. -/
def Progress.leave {σ : Type} (p : Progress σ) (text : String) : Progress σ :=
  { p with leftOver := p.leftOver ++ [text] }

/-- What withdraws the value of an option. -/
def withdrawal : String := "--"

/-- The settings after an option took effect with a value attached to it or following it. -/
def OptionRule.applyValue {σ : Type} (o : OptionRule σ) (value : String) (settings : σ) :
    Except UsageFault σ :=
  match o.effect with
  | .flag _ => .error (.refusesValue o.name value)
  | .value apply =>
    (apply (if value == withdrawal then none else some value) settings).mapError (.badValue o.name)

/-- The settings after the first word took effect. -/
def applyWord {σ : Type} (command name word : String)
    (apply : String → σ → Except ValueError σ) (settings : σ) : Except Stop σ :=
  (apply word settings).mapError fun e => ⟨command, .misuse (.badValue name e)⟩

/-- The progress after the arguments took effect. -/
def consume {σ : Type} (command : String) :
    List (Argument σ) → Progress σ → Except Stop (Progress σ)
  | [], p => .ok p
  | ⟨text, .unknown⟩ :: rest, p => consume command rest (p.leave text)
  | ⟨_, .help none⟩ :: _, _ => .error ⟨command, .help⟩
  | ⟨_, .help (some value)⟩ :: _, _ =>
    .error ⟨command, .misuse (.refusesValue helpNames value)⟩
  | ⟨_, .option o (some value)⟩ :: rest, p =>
    match o.applyValue value p.settings with
    | .error e => .error ⟨command, .misuse e⟩
    | .ok settings => consume command rest { p with settings }
  | ⟨_, .option o none⟩ :: rest, p =>
    match o.effect, rest with
    | .flag apply, rest => consume command rest { p with settings := apply p.settings }
    | .value _, ⟨value, .word⟩ :: rest =>
      match o.applyValue value p.settings with
      | .error e => .error ⟨command, .misuse e⟩
      | .ok settings => consume command rest { p with settings }
    | .value _, _ => .error ⟨command, .misuse (.needsValue o.name)⟩
  | ⟨text, .separator⟩ :: rest, p =>
    match p.words, rest with
    | .one _ _, _ :: _ => consume command rest p
    | .command _ apply, _ :: _ => do
      return { p with
        settings := ← apply text (rest.map Argument.text) p.settings
        words := .none }
    | _, _ => consume command rest (p.leave text)
  | ⟨text, .word⟩ :: rest, p =>
    match p.words, rest with
    | .none, rest => consume command rest (p.leave text)
    | .command _ apply, rest => do
      return { p with
        settings := ← apply text (rest.map Argument.text) p.settings
        words := .none }
    | .one name apply, rest =>
      match applyWord command name text apply p.settings with
      | .error e => .error e
      | .ok settings =>
        let p := { p with settings, words := .none }
        match rest with
        | ⟨_, .separator⟩ :: rest => consume command rest p
        | rest => consume command rest p

/-- The settings that a command's arguments make, and the arguments left over. -/
def CommandRule.read {σ : Type} (c : CommandRule σ) (arguments : List String) (settings : σ) :
    Except Stop (σ × List String) := do
  let marked ← (markAll c.options arguments).mapError fun e => ⟨c.command, .misuse e⟩
  let p ← consume c.command marked { settings, words := c.words }
  match p.words with
  | .none => return (p.settings, p.leftOver)
  | .one name _ | .command name _ => throw ⟨c.command, .misuse (.missing name)⟩

example : attachedToHelp ['h', 'h', '='] = some ['='] ∧ attachedToHelp ['=', 'h'] = none ∧
    attachedToHelp ['='] = some [] := by
  decide

example : isNegativeNumeral "-1.5".toList = true ∧ isNegativeNumeral "-1.".toList = false := by
  decide

end CecBench.CommandLine
