import CecBench.Console.Codec
import CecBench.Fault
import CecBench.Text.ShellWords

/-!
# Settings of an adapter

How the adapter program is run: the command, the port, the role and the place to play.  The command is
a list of words.  `commandLine` writes it for a shell.
-/

namespace CecBench

/-- How the adapter program is run. -/
structure AdapterSettings where
  /-- The program, and words that always follow it. -/
  executable : List String := ["cec-client"]
  /-- The port of the device that the adapter is plugged into. -/
  hdmiPort : Int := 1
  /-- The serial port of the adapter.  If empty, the program looks for it. -/
  comPort : String := ""
  /-- What the program prints, as a sum of powers of two. -/
  logLevel : Int := 15
  /-- The name that the adapter goes by.  If empty, the program chooses it. -/
  osdName : String := ""
  /-- More words for the program. -/
  extraArguments : List String := []
  /-- How long the program is given to quit, in milliseconds. -/
  stopTimeout : Int := 3000
  deriving Repr

namespace AdapterSettings

/-- The settings, if there is such a port. -/
def check (s : AdapterSettings) : Except SettingsError AdapterSettings :=
  if 0 < s.hdmiPort ∧ s.hdmiPort ≤ 15 then .ok s else .error (.badPort s.hdmiPort)

/-- The words of the command for a role and a place. -/
def command (s : AdapterSettings) (logical : LogicalAddress) (physical : PhysicalAddress) :
    Except SettingsError (List String) :=
  match logical.deviceType? with
  | none => .error (.unplayable logical)
  | some device =>
    let name := if s.osdName.isEmpty then [] else ["-o", s.osdName]
    let port := if s.comPort.isEmpty then [] else [s.comPort]
    .ok (s.executable ++
      ["-t", device.letter, "-d", Text.decimal s.logLevel, "-p", Text.decimal s.hdmiPort, "-a",
        physical.argument] ++ name ++ s.extraArguments ++ port)

/-- The command as a shell takes it.  Without a role and a place, it is the program alone. -/
def commandLine (s : AdapterSettings) (logical : Option LogicalAddress)
    (physical : Option PhysicalAddress) : Except SettingsError String :=
  match logical, physical with
  | some logical, some physical => (s.command logical physical).map Text.ShellWords.join
  | _, _ => .ok (Text.ShellWords.join s.executable)

end AdapterSettings

/-! ## Another machine -/

/-- A machine that the adapter is plugged into, and who logs in there. -/
structure HostLogin where
  /-- The machine. -/
  hostname : String
  /-- Who logs in. -/
  username : String
  /-- The password. -/
  password : String
  /-- The port. -/
  port : Int := 22
  /-- How long connecting may take, in seconds. -/
  timeout : Int := 30
  deriving Repr

namespace HostLogin

/-- The login, if a machine is named. -/
def configured (hostname username password : String) : Except SettingsError HostLogin :=
  if hostname.isEmpty then .error .noHost else .ok { hostname, username, password }

/-- The machine as it is named in messages. -/
def name (h : HostLogin) : HostName := ⟨h.username, h.hostname, h.port⟩

end HostLogin

/-! ## Adapters -/

/-- Where the adapter program runs. -/
inductive Carrier
  /-- Nowhere. -/
  | none
  /-- On this machine. -/
  | child
  /-- On another machine. -/
  | host (login : HostLogin)
  deriving Repr

/-- An adapter. -/
structure Adapter where
  /-- How its program is run. -/
  settings : AdapterSettings
  /-- What its console means. -/
  codec : Codec
  /-- Where its program runs. -/
  carrier : Carrier

end CecBench
