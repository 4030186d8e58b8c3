import CecBench.Address.Error

/-!
# Logical addresses

A logical address is the role of a device on the bus, one of sixteen.  The adapter can take those
roles that have a device type.
-/

namespace CecBench

/-- The kinds of device that the adapter can play. -/
inductive DeviceType
  | tv
  | recorder
  | tuner
  | playback
  | audioSystem
  deriving DecidableEq, Repr

/-- The letter that the adapter program knows the device type by. -/
def DeviceType.letter : DeviceType → String
  | .tv => "x"
  | .recorder => "r"
  | .tuner => "t"
  | .playback => "p"
  | .audioSystem => "a"

/-- The roles on the bus. -/
inductive LogicalAddress
  | tv
  | recorder1
  | recorder2
  | tuner1
  | playback1
  | audioSystem
  | tuner2
  | tuner3
  | playback2
  | recorder3
  | tuner4
  | playback3
  | reserved1
  | reserved2
  | specificUse
  | broadcast
  deriving DecidableEq, Repr

namespace LogicalAddress

/-- Every logical address, in the order of their codes. -/
def all : List LogicalAddress :=
  [.tv, .recorder1, .recorder2, .tuner1, .playback1, .audioSystem, .tuner2, .tuner3, .playback2,
    .recorder3, .tuner4, .playback3, .reserved1, .reserved2, .specificUse, .broadcast]

/-- The half byte on the bus. -/
def code : LogicalAddress → Nat
  | .tv => 0
  | .recorder1 => 1
  | .recorder2 => 2
  | .tuner1 => 3
  | .playback1 => 4
  | .audioSystem => 5
  | .tuner2 => 6
  | .tuner3 => 7
  | .playback2 => 8
  | .recorder3 => 9
  | .tuner4 => 10
  | .playback3 => 11
  | .reserved1 => 12
  | .reserved2 => 13
  | .specificUse => 14
  | .broadcast => 15

/-- The name. -/
def name : LogicalAddress → String
  | .tv => "TV"
  | .recorder1 => "RECORDER_1"
  | .recorder2 => "RECORDER_2"
  | .tuner1 => "TUNER_1"
  | .playback1 => "PLAYBACK_1"
  | .audioSystem => "AUDIO_SYSTEM"
  | .tuner2 => "TUNER_2"
  | .tuner3 => "TUNER_3"
  | .playback2 => "PLAYBACK_2"
  | .recorder3 => "RECORDER_3"
  | .tuner4 => "TUNER_4"
  | .playback3 => "PLAYBACK_3"
  | .reserved1 => "RESERVED_1"
  | .reserved2 => "RESERVED_2"
  | .specificUse => "SPECIFIC_USE"
  | .broadcast => "BROADCAST"

/-- The device type that plays the role.  Reserved roles and broadcast have none. -/
def deviceType? : LogicalAddress → Option DeviceType
  | .tv => some .tv
  | .recorder1 => some .recorder
  | .recorder2 => some .recorder
  | .tuner1 => some .tuner
  | .playback1 => some .playback
  | .audioSystem => some .audioSystem
  | .tuner2 => some .tuner
  | .tuner3 => some .tuner
  | .playback2 => some .playback
  | .recorder3 => some .recorder
  | .tuner4 => some .tuner
  | .playback3 => some .playback
  | .reserved1 => none
  | .reserved2 => none
  | .specificUse => none
  | .broadcast => none

/-- The role with the given half byte. -/
def ofCode (i : Fin 16) : LogicalAddress := all.get (Fin.cast (by decide) i)

/-- The role with the given number, if it has one. -/
def ofInt (n : Int) : Except AddressError LogicalAddress :=
  if _ : 0 ≤ n ∧ n < 16 then .ok (ofCode ⟨n.toNat, by omega⟩) else .error (.noLogical n)

/-- The role with the given name. -/
def ofName? (name : String) : Option LogicalAddress := all.find? fun a => a.name == name

/-- One hexadecimal digit. -/
def text (a : LogicalAddress) : String := String.ofList [Nat.digitChar a.code]

theorem code_lt (a : LogicalAddress) : a.code < 16 := by cases a <;> decide

theorem ofCode_code (a : LogicalAddress) : ofCode ⟨a.code, a.code_lt⟩ = a := by cases a <;> rfl

end LogicalAddress

/-- A logical address as a caller gives it: by name, or as a number that may lie outside the roles. -/
inductive AddressSpec
  | named (a : LogicalAddress)
  | number (n : Int)
  deriving DecidableEq, Repr

namespace AddressSpec

/-- The number given. -/
def value : AddressSpec → Int
  | .named a => Int.ofNat a.code
  | .number n => n

/-- The role given. -/
def resolve : AddressSpec → Except AddressError LogicalAddress
  | .named a => .ok a
  | .number n => LogicalAddress.ofInt n

end AddressSpec

end CecBench
