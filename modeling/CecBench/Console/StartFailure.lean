import CecBench.Text.Quoted

/-!
# Why an adapter does not start

The reasons for which a session cannot be brought up, and what is advised for each of them.
-/

namespace CecBench

/-- A reason for which a session cannot be brought up. -/
inductive StartFailure
  | binaryMissing
  | permissionDenied
  | portBusy
  | adapterNotFound
  | notReady
  | exited
  | connectionFailed
  deriving DecidableEq, Repr

namespace StartFailure

/-- Every reason. -/
def all : List StartFailure :=
  [.binaryMissing, .permissionDenied, .portBusy, .adapterNotFound, .notReady, .exited,
    .connectionFailed]

/-- The word for a reason. -/
def word : StartFailure → String
  | .binaryMissing => "binary_missing"
  | .permissionDenied => "permission_denied"
  | .portBusy => "port_busy"
  | .adapterNotFound => "adapter_not_found"
  | .notReady => "not_ready"
  | .exited => "exited"
  | .connectionFailed => "connection_failed"

/-- A word that stands for no reason. -/
structure UnknownWord where
  /-- The word. -/
  word : String

/-- What is said about it. -/
def UnknownWord.message (e : UnknownWord) : String :=
  Text.quoted e.word ++ " is not a valid StartFailure"

/-- The reason with the given word. -/
def ofWord (word : String) : Except UnknownWord StartFailure :=
  match all.find? fun r => r.word == word with
  | some r => .ok r
  | none => .error ⟨word⟩

end StartFailure

/-! ## Advice -/

/-- A serial port of the machine. -/
structure SerialPort where
  /-- Its name. -/
  device : String
  /-- The USB vendor of what is plugged into it, if it is a USB port. -/
  vendor : Option Int
  deriving DecidableEq, Repr

/-- The USB vendor of the adapters. -/
def adapterVendor : Int := 0x2548

/-- The ports with an adapter. -/
def detectAdapters (ports : List SerialPort) : List String :=
  (ports.filter fun p => p.vendor == some adapterVendor).map SerialPort.device

/-- What the advice depends on besides the reason. -/
structure Workplace where
  /-- The machine runs Windows. -/
  windows : Bool := false
  /-- Its serial ports. -/
  ports : List SerialPort := []
  deriving Repr

/-- What is advised for a reason. -/
def StartFailure.hint (workplace : Workplace) : StartFailure → String
  | .binaryMissing =>
    "Install libCEC (e.g. 'sudo apt install cec-utils') or set CEC_CLIENT_PATH to the " ++
      "cec-client executable."
  | .permissionDenied =>
    if workplace.windows then
      "Check that the adapter driver is installed and the COM port is accessible."
    else
      "Ensure your user is in the 'dialout' group (sudo usermod -aG dialout $USER) and that " ++
        "cec-client is executable."
  | .portBusy =>
    "Another process holds the adapter. Close other cec-client instances, Kodi, or any program " ++
      "using libCEC."
  | _ =>
    let adapters := detectAdapters workplace.ports
    "Check that the USB-CEC adapter is plugged in and its HDMI cable is connected to the device " ++
      "under test. Detected adapters: " ++
      (if adapters.isEmpty then "none" else ", ".intercalate adapters) ++ "."

end CecBench
