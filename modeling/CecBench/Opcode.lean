import CecBench.Address.Logical
import CecBench.Text.Numeral

/-!
# Opcodes

The second byte of a frame is its opcode.  `Opcode` has the opcodes with a name.  A byte that is
none of them is an opcode too, one that goes by its number, so a frame keeps the byte and looks the
name up with `Opcode.ofCode?`.
-/

namespace CecBench

/-- The opcodes that have a name. -/
inductive Opcode
  | featureAbort
  | imageViewOn
  | textViewOn
  | setMenuLanguage
  | standby
  | play
  | deckControl
  | userControlPressed
  | userControlReleased
  | giveOsdName
  | setOsdName
  | setOsdString
  | systemAudioModeRequest
  | giveAudioStatus
  | setSystemAudioMode
  | reportAudioStatus
  | giveSystemAudioModeStatus
  | systemAudioModeStatus
  | routingChange
  | routingInformation
  | activeSource
  | givePhysicalAddress
  | reportPhysicalAddress
  | requestActiveSource
  | setStreamPath
  | deviceVendorId
  | vendorCommand
  | giveDeviceVendorId
  | menuRequest
  | menuStatus
  | givePowerStatus
  | reportPowerStatus
  | getMenuLanguage
  | inactiveSource
  | cecVersion
  | getCecVersion
  | vendorCommandWithId
  | initiateArc
  | reportArcInitiated
  | reportArcTerminated
  | requestArcInitiation
  | requestArcTermination
  | terminateArc
  | abort
  deriving DecidableEq, Repr

namespace Opcode

/-- Every named opcode, in the order of their codes. -/
def all : List Opcode :=
  [.featureAbort, .imageViewOn, .textViewOn, .setMenuLanguage, .standby, .play, .deckControl,
    .userControlPressed, .userControlReleased, .giveOsdName, .setOsdName, .setOsdString,
    .systemAudioModeRequest, .giveAudioStatus, .setSystemAudioMode, .reportAudioStatus,
    .giveSystemAudioModeStatus, .systemAudioModeStatus, .routingChange, .routingInformation,
    .activeSource, .givePhysicalAddress, .reportPhysicalAddress, .requestActiveSource,
    .setStreamPath, .deviceVendorId, .vendorCommand, .giveDeviceVendorId, .menuRequest,
    .menuStatus, .givePowerStatus, .reportPowerStatus, .getMenuLanguage, .inactiveSource,
    .cecVersion, .getCecVersion, .vendorCommandWithId, .initiateArc, .reportArcInitiated,
    .reportArcTerminated, .requestArcInitiation, .requestArcTermination, .terminateArc, .abort]

/-- The byte on the bus. -/
def code : Opcode → UInt8
  | .featureAbort => 0x00
  | .imageViewOn => 0x04
  | .textViewOn => 0x0D
  | .setMenuLanguage => 0x32
  | .standby => 0x36
  | .play => 0x41
  | .deckControl => 0x42
  | .userControlPressed => 0x44
  | .userControlReleased => 0x45
  | .giveOsdName => 0x46
  | .setOsdName => 0x47
  | .setOsdString => 0x64
  | .systemAudioModeRequest => 0x70
  | .giveAudioStatus => 0x71
  | .setSystemAudioMode => 0x72
  | .reportAudioStatus => 0x7A
  | .giveSystemAudioModeStatus => 0x7D
  | .systemAudioModeStatus => 0x7E
  | .routingChange => 0x80
  | .routingInformation => 0x81
  | .activeSource => 0x82
  | .givePhysicalAddress => 0x83
  | .reportPhysicalAddress => 0x84
  | .requestActiveSource => 0x85
  | .setStreamPath => 0x86
  | .deviceVendorId => 0x87
  | .vendorCommand => 0x89
  | .giveDeviceVendorId => 0x8C
  | .menuRequest => 0x8D
  | .menuStatus => 0x8E
  | .givePowerStatus => 0x8F
  | .reportPowerStatus => 0x90
  | .getMenuLanguage => 0x91
  | .inactiveSource => 0x9D
  | .cecVersion => 0x9E
  | .getCecVersion => 0x9F
  | .vendorCommandWithId => 0xA0
  | .initiateArc => 0xC0
  | .reportArcInitiated => 0xC1
  | .reportArcTerminated => 0xC2
  | .requestArcInitiation => 0xC3
  | .requestArcTermination => 0xC4
  | .terminateArc => 0xC5
  | .abort => 0xFF

/-- The name. -/
def name : Opcode → String
  | .featureAbort => "FEATURE_ABORT"
  | .imageViewOn => "IMAGE_VIEW_ON"
  | .textViewOn => "TEXT_VIEW_ON"
  | .setMenuLanguage => "SET_MENU_LANGUAGE"
  | .standby => "STANDBY"
  | .play => "PLAY"
  | .deckControl => "DECK_CONTROL"
  | .userControlPressed => "USER_CONTROL_PRESSED"
  | .userControlReleased => "USER_CONTROL_RELEASED"
  | .giveOsdName => "GIVE_OSD_NAME"
  | .setOsdName => "SET_OSD_NAME"
  | .setOsdString => "SET_OSD_STRING"
  | .systemAudioModeRequest => "SYSTEM_AUDIO_MODE_REQUEST"
  | .giveAudioStatus => "GIVE_AUDIO_STATUS"
  | .setSystemAudioMode => "SET_SYSTEM_AUDIO_MODE"
  | .reportAudioStatus => "REPORT_AUDIO_STATUS"
  | .giveSystemAudioModeStatus => "GIVE_SYSTEM_AUDIO_MODE_STATUS"
  | .systemAudioModeStatus => "SYSTEM_AUDIO_MODE_STATUS"
  | .routingChange => "ROUTING_CHANGE"
  | .routingInformation => "ROUTING_INFORMATION"
  | .activeSource => "ACTIVE_SOURCE"
  | .givePhysicalAddress => "GIVE_PHYSICAL_ADDRESS"
  | .reportPhysicalAddress => "REPORT_PHYSICAL_ADDRESS"
  | .requestActiveSource => "REQUEST_ACTIVE_SOURCE"
  | .setStreamPath => "SET_STREAM_PATH"
  | .deviceVendorId => "DEVICE_VENDOR_ID"
  | .vendorCommand => "VENDOR_COMMAND"
  | .giveDeviceVendorId => "GIVE_DEVICE_VENDOR_ID"
  | .menuRequest => "MENU_REQUEST"
  | .menuStatus => "MENU_STATUS"
  | .givePowerStatus => "GIVE_POWER_STATUS"
  | .reportPowerStatus => "REPORT_POWER_STATUS"
  | .getMenuLanguage => "GET_MENU_LANGUAGE"
  | .inactiveSource => "INACTIVE_SOURCE"
  | .cecVersion => "CEC_VERSION"
  | .getCecVersion => "GET_CEC_VERSION"
  | .vendorCommandWithId => "VENDOR_COMMAND_WITH_ID"
  | .initiateArc => "INITIATE_ARC"
  | .reportArcInitiated => "REPORT_ARC_INITIATED"
  | .reportArcTerminated => "REPORT_ARC_TERMINATED"
  | .requestArcInitiation => "REQUEST_ARC_INITIATION"
  | .requestArcTermination => "REQUEST_ARC_TERMINATION"
  | .terminateArc => "TERMINATE_ARC"
  | .abort => "ABORT"

/-- The named opcode with the given byte. -/
def ofCode? (b : UInt8) : Option Opcode := all.find? fun o => o.code == b

/-- The opcode with the given name. -/
def ofName? (name : String) : Option Opcode := all.find? fun o => o.name == name

/-- Two hexadecimal digits. -/
def text (o : Opcode) : String :=
  let n := o.code.toNat
  String.ofList [Nat.digitChar (n / 16), Nat.digitChar (n % 16)]

/-- The name of the opcode with the given number: its own name, or one made of the number. -/
def label (b : UInt8) : String :=
  match ofCode? b with
  | some o => o.name
  | none => "OPCODE_" ++ Text.capitalHex (Int.ofNat b.toNat)

/-- No two named opcodes share a byte. -/
example : all.map code = (all.map code).eraseDups := by decide

end Opcode

/-- An opcode as a caller gives it: by name, or as a number that may lie outside a byte. -/
inductive OpcodeSpec
  | named (o : Opcode)
  | number (n : Int)
  deriving DecidableEq, Repr

namespace OpcodeSpec

/-- The number given. -/
def value : OpcodeSpec → Int
  | .named o => Int.ofNat o.code.toNat
  | .number n => n

/-- How the opcode is called in a description.  A number is not looked up. -/
def label : OpcodeSpec → String
  | .named o => o.name
  | .number n => "OPCODE_" ++ Text.capitalHex n

/-- The opcode by itself: two hexadecimal digits if named, and else its decimal numeral. -/
def text : OpcodeSpec → String
  | .named o => o.text
  | .number n => Text.decimal n

end OpcodeSpec

/-- The description of an expected opcode between two addresses, where a star stands for any. -/
def describeOpcode (opcode : OpcodeSpec) (source destination : Option AddressSpec) : String :=
  let place := fun a : Option AddressSpec => (a.map fun a => Text.hex a.value).getD "*"
  "<" ++ opcode.label ++ "> " ++ place source ++ "->" ++ place destination

end CecBench
