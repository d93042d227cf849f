import Latchkey.Vocabulary

/-!
# Settings

The named values of the configuration report.
-/

namespace Latchkey

inductive Capabilities where
  | onlyDoorOpening | both | onlyRto
deriving DecidableEq, Repr

instance : Vocabulary UInt8 Capabilities where
  words := [.onlyDoorOpening, .both, .onlyRto]
  code
    | .onlyDoorOpening => 0x00 | .both => 0x01 | .onlyRto => 0x02
  label
    | .onlyDoorOpening => "OnlyDoorOpening" | .both => "Both" | .onlyRto => "OnlyRto"

inductive Intercom where
  | genericDoorOpener | analogueIntercom | digitalIntercom | digitalIntercomSiedle
  | digitalIntercomTcs | digitalIntercomBticino | analogIntercomSiedleHts | digitalIntercomStr
  | digitalIntercomRitto | digitalIntercomFermax | digitalIntercomComelit
  | digitalIntercomUrmetBiBus | digitalIntercomUrmet2Voice | digitalIntercomGolmar
  | digitalIntercomSks | digitalIntercomSpare
deriving DecidableEq, Repr

instance : Vocabulary UInt8 Intercom where
  words := [
    .genericDoorOpener, .analogueIntercom, .digitalIntercom, .digitalIntercomSiedle,
    .digitalIntercomTcs, .digitalIntercomBticino, .analogIntercomSiedleHts, .digitalIntercomStr,
    .digitalIntercomRitto, .digitalIntercomFermax, .digitalIntercomComelit,
    .digitalIntercomUrmetBiBus, .digitalIntercomUrmet2Voice, .digitalIntercomGolmar,
    .digitalIntercomSks, .digitalIntercomSpare]
  code
    | .genericDoorOpener => 0x00 | .analogueIntercom => 0x01 | .digitalIntercom => 0x02
    | .digitalIntercomSiedle => 0x03 | .digitalIntercomTcs => 0x04 | .digitalIntercomBticino => 0x05
    | .analogIntercomSiedleHts => 0x06 | .digitalIntercomStr => 0x07 | .digitalIntercomRitto => 0x08
    | .digitalIntercomFermax => 0x09 | .digitalIntercomComelit => 0x0A
    | .digitalIntercomUrmetBiBus => 0x0B | .digitalIntercomUrmet2Voice => 0x0C
    | .digitalIntercomGolmar => 0x0D | .digitalIntercomSks => 0x0E | .digitalIntercomSpare => 0x0F
  label
    | .genericDoorOpener => "GenericDoorOpener" | .analogueIntercom => "AnalogueIntercom"
    | .digitalIntercom => "DigitalIntercom" | .digitalIntercomSiedle => "DigitalIntercomSiedle"
    | .digitalIntercomTcs => "DigitalIntercomTcs"
    | .digitalIntercomBticino => "DigitalIntercomBticino"
    | .analogIntercomSiedleHts => "AnalogIntercomSiedleHts"
    | .digitalIntercomStr => "DigitalIntercomStr" | .digitalIntercomRitto => "DigitalIntercomRitto"
    | .digitalIntercomFermax => "DigitalIntercomFermax"
    | .digitalIntercomComelit => "DigitalIntercomComelit"
    | .digitalIntercomUrmetBiBus => "DigitalIntercomUrmetBiBus"
    | .digitalIntercomUrmet2Voice => "DigitalIntercomUrmet2Voice"
    | .digitalIntercomGolmar => "DigitalIntercomGolmar"
    | .digitalIntercomSks => "DigitalIntercomSks" | .digitalIntercomSpare => "DigitalIntercomSpare"

inductive DaylightSaving where
  | disabled | european
deriving DecidableEq, Repr

instance : Vocabulary UInt8 DaylightSaving where
  words := [.disabled, .european]
  code
    | .disabled => 0x00 | .european => 0x01
  label
    | .disabled => "Disabled" | .european => "European"

inductive Advertising where
  | automatic | normal | slow | slowest
deriving DecidableEq, Repr

instance : Vocabulary UInt8 Advertising where
  words := [.automatic, .normal, .slow, .slowest]
  code
    | .automatic => 0x00 | .normal => 0x01 | .slow => 0x02 | .slowest => 0x03
  label
    | .automatic => "Automatic" | .normal => "Normal" | .slow => "Slow" | .slowest => "Slowest"

inductive HomeKit where
  | notAvailable | disabled | enabled | enabledAndPaired
deriving DecidableEq, Repr

instance : Vocabulary UInt8 HomeKit where
  words := [.notAvailable, .disabled, .enabled, .enabledAndPaired]
  code
    | .notAvailable => 0x00 | .disabled => 0x01 | .enabled => 0x02 | .enabledAndPaired => 0x03
  label
    | .notAvailable => "NotAvailable" | .disabled => "Disabled" | .enabled => "Enabled"
    | .enabledAndPaired => "EnabledAndPaired"

/-- A firmware version or hardware revision. Versions are ordered by major, minor and patch number. -/
structure Version where
  major : UInt8 := 0
  minor : UInt8 := 0
  patch : UInt8 := 0
deriving DecidableEq, Repr

namespace Version

/-- Up to three numbers are read; missing ones are zero. -/
def ofBytes : Bytes → Version
  | [] => {}
  | [major] => { major }
  | [major, minor] => { major, minor }
  | major :: minor :: patch :: _ => { major, minor, patch }

def compare (a b : Version) : Ordering :=
  (Ord.compare a.major b.major).then
    ((Ord.compare a.minor b.minor).then (Ord.compare a.patch b.patch))

instance : ToString Version where
  toString v := s!"{v.major}.{v.minor}.{v.patch}"

end Version

end Latchkey
