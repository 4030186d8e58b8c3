import CecBench.Console.LineGrammar
import CecBench.Console.Payload
import CecBench.Console.StartFailure
import CecBench.Text.LetterCase

/-!
# Reading the console

A codec knows what the lines on the adapter's console mean: which of them are frames, which one tells
that the console takes commands, and which ones tell why the program gives up.  Markers count in
either letter case, so a codec keeps them in small letters.
-/

namespace CecBench

open Text

/-- A grammar that names no payload. -/
structure GrammarError where
  /-- The grammar as its author writes it. -/
  pattern : String

/-- What is said about it. -/
def GrammarError.message (e : GrammarError) : String :=
  s!"Frame pattern {quoted e.pattern} must define a named group 'payload'"

/-- A text that tells why the program gives up. -/
structure FailureMarker where
  /-- The text, in any letter case. -/
  text : String
  /-- The reason that it tells. -/
  reason : StartFailure

/-- What the lines on the console mean. -/
structure Codec where
  /-- The payload of a traffic line. -/
  payload? : List Char → Option (List Char)
  /-- What the line holds that tells that the console takes commands, in small letters. -/
  readyMarker : List Char
  /-- What lines hold that tell a reason, in small letters, the first one that counts first. -/
  failureMarkers : List (List Char × StartFailure)

namespace Codec

/-- The usual ready marker. -/
def usualReadyMarker : String := "waiting for input"

/-- The usual failure markers. -/
def usualFailureMarkers : List FailureMarker :=
  [⟨"command not found", .binaryMissing⟩,
    ⟨"permission denied", .permissionDenied⟩,
    ⟨"device or resource busy", .portBusy⟩,
    ⟨"could not open a connection", .portBusy⟩,
    ⟨"autodetect failed", .adapterNotFound⟩,
    ⟨"no adapters found", .adapterNotFound⟩]

/-- The codec of a grammar that names a payload, and of the given markers. -/
def build (payload? : List Char → Option (List Char)) (ready : String)
    (failures : List FailureMarker) : Codec where
  payload? := payload?
  readyMarker := lower ready.toList
  failureMarkers := failures.map fun m => (lower m.text.toList, m.reason)

/-- The codec of a grammar and markers.  The grammar must name a payload. -/
def ofGrammar (grammar : LineGrammar) (ready : String) (failures : List FailureMarker) :
    Except GrammarError Codec :=
  match grammar.payload? with
  | some payload? => .ok (build payload? ready failures)
  | none => .error ⟨grammar.pattern⟩

/-- The codec of the usual adapter program. -/
def usual : Codec :=
  build (LineGrammar.firstPlace? LineGrammar.trafficAt?) usualReadyMarker usualFailureMarkers

/-- The frame that a line tells of. -/
def decode (codec : Codec) (line : String) : Except DecodeError Frame :=
  match codec.payload? line.toList with
  | none => .error ⟨.notTraffic, line⟩
  | some payload => Frame.readPayload line (trim payload)

/-- The line tells that the console takes commands. -/
def isReadyLine (codec : Codec) (line : String) : Bool :=
  contains codec.readyMarker (lower line.toList)

/-- The reason that the lines tell: that of the first marker found in any of them. -/
def startFailure? (codec : Codec) (lines : List String) : Option StartFailure :=
  let lowered := lines.map fun line => lower line.toList
  (codec.failureMarkers.find? fun m => lowered.any (contains m.1)).map Prod.snd

end Codec

end CecBench
