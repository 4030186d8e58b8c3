import CecBench.Bus.Monitor

/-!
# The adapter program

The adapter program runs on its own: it prints lines, answers commands, and exits.  A script fixes all
it does, so that a run can be repeated and reasoned about.

A program's exit code is set once.  When the program exits, its output ends, and nothing printed after
that is seen.
-/

namespace CecBench

/-- How the program takes the command to quit. -/
inductive QuitReaction
  | exits
  | ignores
  | exitsAfter (ms : Nat)
  deriving DecidableEq, Repr

/-- How the program takes a signal to terminate. -/
inductive TerminateReaction
  | exits
  | ignores
  | fails (kind : EquipmentKind)
  deriving DecidableEq, Repr

/-- What the program does by itself. -/
inductive ProgramAction
  | prints (line : String)
  | endsOutput
  | exits (code : Int)
  deriving DecidableEq, Repr

/-- All that the program does from one start on. -/
structure ProgramScript where
  /-- What it does at once. -/
  opening : List ProgramAction := []
  /-- What it does later, in milliseconds from the start. -/
  events : List (Nat × List ProgramAction) := []
  /-- The lines that it prints when it is given a command other than the one to quit. -/
  replies : List (String × List String) := []
  /-- Its input fails. -/
  writeFailure : Option EquipmentKind := none
  /-- How it takes the command to quit. -/
  quit : QuitReaction := .exits
  /-- It cannot be started. -/
  spawnFailure : Option SpawnFailure := none
  /-- How it takes a signal to terminate. -/
  terminate : TerminateReaction := .exits
  /-- Closing its input fails. -/
  stdinCloseFailure : Option EquipmentKind := none
  /-- Closing its output fails. -/
  stdoutCloseFailure : Option EquipmentKind := none
  /-- It has an input. -/
  hasStdin : Bool := true
  /-- It has an output. -/
  hasStdout : Bool := true

/-- A program that was started. -/
structure Program where
  /-- What it does. -/
  script : ProgramScript
  /-- What it has printed and nobody has read. -/
  output : Stream := {}
  /-- Its exit code, once it has exited. -/
  exitCode : Option Int := none

namespace Program

/-- The command to quit. -/
def quitCommand : String := "q"

/-- The exit code after a signal to terminate. -/
def terminatedCode : Int := -15

/-- The exit code after being killed. -/
def killedCode : Int := -9

/-- The program after an action of its own. -/
def act (p : Program) : ProgramAction → Program
  | .prints line => { p with output := p.output.push [.text (line ++ "\n")] }
  | .endsOutput => { p with output := p.output.finish }
  | .exits code => { p with exitCode := p.exitCode <|> some code, output := p.output.finish }

/-- The program after some actions of its own. -/
def actAll (p : Program) (actions : List ProgramAction) : Program := actions.foldl act p

/-- A program that starts with the given script. -/
def start (script : ProgramScript) : Program := Program.actAll { script } script.opening

/-- The lines that the program has for a command. -/
def replyTo (p : Program) (command : String) : List String :=
  ((p.script.replies.find? fun r => r.1 == command).map Prod.snd).getD []

/-- The program after it was given a command.  The command to quit is taken as the script says and gets
no reply; every other command gets its replies. -/
def receive (p : Program) (command : String) : Program :=
  if command == quitCommand then
    match p.script.quit with
    | .exits => p.act (.exits 0)
    | .ignores | .exitsAfter _ => p
  else p.actAll ((p.replyTo command).map .prints)

/-- What the program will do later because of a command. -/
def receiveLater (p : Program) (command : String) : List (Nat × List ProgramAction) :=
  match p.script.quit with
  | .exitsAfter ms => if command == quitCommand then [(ms, [.exits 0])] else []
  | _ => []

/-- One read from the output by hand: a line, an empty text at the end, or nothing while there is
nothing to read. -/
def readByHand (p : Program) : Option String × Program :=
  match p.output.pending with
  | chunk :: rest =>
    (some (chunk.text?.getD ""), { p with output := { p.output with pending := rest } })
  | [] => (if p.output.ended then some "" else none, p)

end Program

end CecBench
