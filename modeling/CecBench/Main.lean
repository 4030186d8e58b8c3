import CecBench.CommandLine.Report

/-!
# The command

The command runs on a recording: the lines of its standard input are what the adapter program prints at
its start.  So a recorded bus can be searched as a live one is.
-/

namespace CecBench

open CommandLine

/-- The lines of a stream, without their line ends. -/
partial def linesOf (input : IO.FS.Stream) : IO (List String) := do
  let line ← input.getLine
  if line.isEmpty then return []
  return Monitor.withoutLineEnd line :: (← linesOf input)

/-- The defaults in the environment of the command. -/
def environmentDefaults : IO (Except Fault Defaults) := do
  let values ← Defaults.variableNames.mapM fun name => do return (name, ← IO.getEnv name)
  return Defaults.ofEnvironment fun name => (values.lookup name).join

/-- The rig that plays a recording. -/
def rigOf (recording : List String) : Rig :=
  { surroundings :=
      { scripts := [{ opening := recording.map .prints }], clock := Clock.ofMachine } }

/-- Prints a report, and gives its exit code. -/
def printReport (r : Report) : IO UInt32 := do
  IO.print r.output
  IO.eprint r.notes
  return UInt32.ofNat r.exitCode

/-- The report of a request, performed on a recording if it needs an adapter. -/
def reportOf (defaults : Defaults) (r : Request) : IO Report := do
  let recording ← match r.task with
    | .listAdapters => pure []
    | _ => linesOf (← IO.getStdin)
  match r.perform defaults |>.run { state := rigOf recording } with
  | .ok report _ => return report
  | .error e _ => return Report.ofFault Clock.ofMachine e

end CecBench

open CecBench CecBench.CommandLine

/-- Runs the command line. -/
def main (arguments : List String) : IO UInt32 := do
  match ← environmentDefaults with
  | .error e => printReport (Report.ofFault Clock.ofMachine e)
  | .ok defaults =>
    match Request.read defaults arguments with
    | .error s => printReport (Report.ofStop s)
    | .ok r => printReport (← reportOf defaults r)
