import CecBench.Opcode
import CecBench.Text.LetterCase

/-!
# Values on the command line

Opcodes and roles are given by name, in either letter case, or as a hexadecimal numeral.  A name goes
before a numeral that looks the same.  Times and ports are decimal numerals.
-/

namespace CecBench.CommandLine

/-- Why a word is not the value that is wanted. -/
inductive ValueError
  /-- The word is no opcode. -/
  | unknownOpcode (word : String)
  /-- The number is no byte. -/
  | opcodeRange (word : String)
  /-- The word is no role. -/
  | unknownRole (word : String)
  /-- The word is no number. -/
  | notNumber (word : String)
  deriving DecidableEq, Repr

/-- What is said about it. -/
def ValueError.message : ValueError → String
  | .unknownOpcode word => s!"Unknown CEC operand {Text.quoted word}"
  | .opcodeRange word => s!"Operand {Text.quoted word} does not fit in one byte"
  | .unknownRole word => s!"Invalid logical address {Text.quoted word}"
  | .notNumber word => s!"invalid int value: {Text.quoted word}"

/-- A word in capital letters, as names are written. -/
def nameOf (word : String) : String := String.ofList (Text.capitals word.toList)

/-- The opcode that a word stands for.  A number stays one, even if there is a name for it. -/
def readOpcode (word : String) : Except ValueError OpcodeSpec :=
  match Opcode.ofName? (nameOf word) with
  | some o => .ok (.named o)
  | none =>
    match Text.readHex? word.toList with
    | none => .error (.unknownOpcode word)
    | some n => if 0 ≤ n ∧ n ≤ 0xFF then .ok (.number n) else .error (.opcodeRange word)

/-- The role that a word stands for. -/
def readRole (word : String) : Except ValueError LogicalAddress :=
  match LogicalAddress.ofName? (nameOf word) with
  | some a => .ok a
  | none =>
    match (Text.readHex? word.toList).map LogicalAddress.ofInt with
    | some (.ok a) => .ok a
    | _ => .error (.unknownRole word)

/-- The number that a word stands for. -/
def readNumber (word : String) : Except ValueError Int :=
  (Text.readDecimal word.toList).mapError fun _ => .notNumber word

end CecBench.CommandLine
