import CecBench.Adapter.Basic
import CecBench.Adapter.Child
import CecBench.Adapter.Connection
import CecBench.Adapter.Remote
import CecBench.Adapter.Settings
import CecBench.Address.Error
import CecBench.Address.Logical
import CecBench.Address.Physical
import CecBench.Bus.Expectation
import CecBench.Bus.Log
import CecBench.Bus.Monitor
import CecBench.Bus.Predicate
import CecBench.Bus.Tap
import CecBench.Clock
import CecBench.CommandLine.Arguments
import CecBench.CommandLine.Report
import CecBench.CommandLine.Request
import CecBench.CommandLine.Value
import CecBench.Console.Codec
import CecBench.Console.LineGrammar
import CecBench.Console.Payload
import CecBench.Console.StartFailure
import CecBench.Defaults
import CecBench.Fault
import CecBench.Frame.Basic
import CecBench.Frame.Draft
import CecBench.Frame.Operands
import CecBench.Main
import CecBench.Opcode
import CecBench.Proofs.Bus.Expectation
import CecBench.Proofs.Bus.History
import CecBench.Proofs.Bus.Monitor
import CecBench.Proofs.Bus.Tap
import CecBench.Proofs.Console.Payload
import CecBench.Proofs.Console.Traffic
import CecBench.Proofs.Console.Bare
import CecBench.Proofs.Console.Markers
import CecBench.Proofs.Passage
import CecBench.Proofs.Text.LetterCase
import CecBench.Proofs.Text.Parts
import CecBench.Rig.Basic
import CecBench.Rig.Equipment
import CecBench.Rig.Program
import CecBench.Session.Basic
import CecBench.Session.Device
import CecBench.Session.Phase
import CecBench.Slice
import CecBench.Text.Blank
import CecBench.Text.CodeRange
import CecBench.Text.DecimalDigit
import CecBench.Text.FixedPoint
import CecBench.Text.LetterCase
import CecBench.Text.LetterCase.Table
import CecBench.Text.Numeral
import CecBench.Text.Printable
import CecBench.Text.Quoted
import CecBench.Text.Search
import CecBench.Text.ShellWords
import CecBench.Text.Utf8
import CecBench.Timeline
import CecBench.Word
import CecBench.Proofs.Adapter.Conduct
import CecBench.Proofs.Adapter.Run
import CecBench.Proofs.Adapter.Orphans
import CecBench.Proofs.Adapter.Clients
import CecBench.Proofs.Session.Lifecycle
import CecBench.Proofs.Adapter.Launch
import CecBench.Proofs.Session.Beginning
import CecBench.Proofs.Session.Diagnosis
import CecBench.Proofs.Session.Checks
import CecBench.Proofs.Session.Cursors
import CecBench.Proofs.Console.Steps
import CecBench.Proofs.Adapter.Failures
import CecBench.Proofs.Session.Duration
import CecBench.Proofs.Accord
import CecBench.Proofs.Adapter.Farewell
import CecBench.Proofs.Adapter.Twins
import CecBench.Proofs.Session.Twins
import CecBench.Proofs.Text.ShellWords
import CecBench.Proofs.Adapter.Command
import CecBench.Proofs.Rig.Record
import CecBench.Proofs.Adapter.Rest
import CecBench.Proofs.Adapter.Escalation
import CecBench.Proofs.Adapter.Clearance
import CecBench.Proofs.Session.Record
import CecBench.Proofs.Session.Sending
import CecBench.Proofs.Bus.TimeoutReport
import CecBench.Proofs.Bus.Closing
import CecBench.Proofs.Session.Confines
import CecBench.Proofs.Session.Orders
import CecBench.Proofs.CommandLine.Within
import CecBench.Proofs.Clock
import CecBench.Proofs.Bus.Predicate
import CecBench.Proofs.Session.Opcodes
import CecBench.Proofs.CommandLine.Errand
import CecBench.Proofs.CommandLine.Report
import CecBench.Proofs.Address.Physical
import CecBench.Proofs.Frame.Draft
import CecBench.Proofs.Frame.Operands
