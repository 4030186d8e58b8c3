/-!
# Failures of the equipment

What the surroundings report when they fail: pipes, programs, the connection to another machine.  The
tool treats them by kind.
-/

namespace CecBench

/-- The kinds of failure that the surroundings report. -/
inductive EquipmentKind
  /-- The other end of a pipe is gone. -/
  | brokenPipe
  /-- Another refusal of the operating system. -/
  | system
  /-- A value that does not suit, such as a closed stream. -/
  | value
  /-- A failure of the secure shell. -/
  | shell
  /-- The secure shell does not let the user in. -/
  | authentication
  /-- An answer that did not come in time. -/
  | timeout
  /-- Anything else. -/
  | other
  deriving DecidableEq, Repr

namespace EquipmentKind

/-- The operating system reports failures of this kind. -/
def isSystem : EquipmentKind → Bool
  | .brokenPipe | .system | .timeout => true
  | _ => false

/-- The secure shell reports failures of this kind. -/
def isShell : EquipmentKind → Bool
  | .shell | .authentication => true
  | _ => false

/-- A pipe reports failures of this kind. -/
def isPipe (k : EquipmentKind) : Bool := k.isSystem || k == .value

/-- A channel reports failures of this kind. -/
def isChannel (k : EquipmentKind) : Bool := k.isSystem || k.isShell

end EquipmentKind

/-- A failure that the surroundings report. -/
structure EquipmentError where
  /-- Its kind. -/
  kind : EquipmentKind
  /-- What it is reported with. -/
  text : String
  deriving DecidableEq, Repr

/-- The report of a failure.  A broken pipe is always reported in the same words. -/
def EquipmentKind.report (kind : EquipmentKind) (text : String) : EquipmentError :=
  match kind with
  | .brokenPipe => ⟨kind, "[Errno 32] Broken pipe"⟩
  | _ => ⟨kind, text⟩

/-- The ways in which a program cannot be started. -/
inductive SpawnFailure
  /-- There is no such program. -/
  | missing
  /-- It may not be run. -/
  | forbidden
  /-- It is no program. -/
  | unfit
  deriving DecidableEq, Repr

/-- What the operating system says, less the program's name. -/
def SpawnFailure.text : SpawnFailure → String
  | .missing => "[Errno 2] No such file or directory"
  | .forbidden => "[Errno 13] Permission denied"
  | .unfit => "[Errno 8] Exec format error"

end CecBench
