/-!
# Phases of a session

A session is set up, runs and ends.  It does not come back.
-/

namespace CecBench

/-- The phases of a session. -/
inductive Phase
  | uninitialized
  | running
  | terminated
  deriving DecidableEq, Repr

/-- The word for a phase. -/
def Phase.word : Phase → String
  | .uninitialized => "uninitialized"
  | .running => "running"
  | .terminated => "terminated"

end CecBench
