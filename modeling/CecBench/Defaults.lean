import CecBench.Session.Basic

/-!
# Defaults

What holds where the caller says nothing.  The environment can change it, one variable for each
default.  A variable that holds a number must be a decimal numeral that is not too long.  The variables
are read in a fixed order, and the first bad one is told.
-/

namespace CecBench

/-- What holds where the caller says nothing. -/
structure Defaults where
  /-- How the adapter program is run. -/
  adapter : AdapterSettings := {}
  /-- How long the console is given to get ready, in milliseconds. -/
  readyTimeout : Int := Session.usualReadyTimeout
  /-- How long a check waits, in milliseconds. -/
  checkTimeout : Int := Session.usualCheckTimeout
  /-- The other machine with an adapter.  If empty, there is none. -/
  hostname : String := ""
  /-- Who logs in there. -/
  username : String := ""
  /-- The password. -/
  password : String := ""

namespace Defaults

/-- The variables of the environment that count. -/
def variableNames : List String :=
  ["CEC_CLIENT_PATH", "CEC_HDMI_PORT", "CEC_COM_PORT", "CEC_LOG_LEVEL", "CEC_OSD_NAME",
    "CEC_READY_TIMEOUT_MS", "CEC_EXPECT_TIMEOUT_MS", "CEC_STOP_TIMEOUT_MS", "CEC_ADAPTER_HOST",
    "CEC_ADAPTER_USER", "CEC_ADAPTER_PASS"]

/-- The number that a variable holds, or the given one if it is not set. -/
def number (value? : Option String) (otherwise : Int) : Except Fault Int :=
  match value? with
  | none => .ok otherwise
  | some text =>
    (Text.readDecimal text.toList).mapError (.numeral text)

/-- The defaults in an environment, which gives the values of the variables that are set. -/
def ofEnvironment (value? : String → Option String) : Except Fault Defaults := do
  let usual : Defaults := {}
  let executable := match value? "CEC_CLIENT_PATH" with
    | some path => [path]
    | none => usual.adapter.executable
  let hdmiPort ← number (value? "CEC_HDMI_PORT") usual.adapter.hdmiPort
  let comPort := (value? "CEC_COM_PORT").getD usual.adapter.comPort
  let logLevel ← number (value? "CEC_LOG_LEVEL") usual.adapter.logLevel
  let osdName := (value? "CEC_OSD_NAME").getD usual.adapter.osdName
  let readyTimeout ← number (value? "CEC_READY_TIMEOUT_MS") usual.readyTimeout
  let checkTimeout ← number (value? "CEC_EXPECT_TIMEOUT_MS") usual.checkTimeout
  let stopTimeout ← number (value? "CEC_STOP_TIMEOUT_MS") usual.adapter.stopTimeout
  return {
    adapter := { executable, hdmiPort, comPort, logLevel, osdName, stopTimeout }
    readyTimeout
    checkTimeout
    hostname := (value? "CEC_ADAPTER_HOST").getD usual.hostname
    username := (value? "CEC_ADAPTER_USER").getD usual.username
    password := (value? "CEC_ADAPTER_PASS").getD usual.password
  }

end Defaults

end CecBench
