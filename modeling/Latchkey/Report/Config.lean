import Latchkey.Device.Condition
import Latchkey.Device.Setting
import Latchkey.Report.Reply
import Latchkey.Text.Utf8
import Latchkey.Text.Quoted
import Latchkey.Time.Zone

/-!
# Configuration reports

What a device says about its settings. The layouts of the two families share most groups of fields, but
each family has fields of its own in between; the length of the payload tells them apart.
-/

namespace Latchkey

@[ext] structure Identity where
  deviceId : UInt32
  name : String
  /-- The bits of a single-precision number. -/
  latitude : UInt32
  longitude : UInt32
deriving DecidableEq, Repr

namespace Identity

def fields : Reader Identity := do
  let deviceId ← Reader.word32
  let name ← Padded.field 32
  let latitude ← Reader.word32
  let longitude ← Reader.word32
  return { deviceId, name, latitude, longitude }

def encode (i : Identity) : Bytes :=
  Bytes.ofWord32 i.deviceId ++ Padded.encode 32 i.name ++ Bytes.ofWord32 i.latitude ++
    Bytes.ofWord32 i.longitude

end Identity

@[ext] structure Controls where
  pairing : Bool
  button : Bool
  led : Bool
deriving DecidableEq, Repr

namespace Controls

def fields : Reader Controls := do
  let pairing ← Reader.flag
  let button ← Reader.flag
  let led ← Reader.flag
  return { pairing, button, led }

def encode (c : Controls) : Bytes :=
  [c.pairing.toUInt8, c.button.toUInt8, c.led.toUInt8]

end Controls

@[ext] structure Clock where
  stamp : Stamp
  /-- Minutes ahead of universal time. -/
  offset : Int16
  daylightSaving : ByteCode DaylightSaving
  hasFob : Bool
  /-- The actions of one, two and three presses. -/
  fobActions : UInt8 × UInt8 × UInt8
deriving DecidableEq, Repr

namespace Clock

def fields : Reader Clock := do
  let stamp ← Stamp.field
  let offset ← Reader.int16
  let daylightSaving ← Reader.byte
  let hasFob ← Reader.flag
  let one ← Reader.byte
  let two ← Reader.byte
  let three ← Reader.byte
  return {
    stamp, offset, daylightSaving := Coded.ofCode daylightSaving, hasFob
    fobActions := (one, two, three) }

def encode (c : Clock) : Bytes :=
  c.stamp.encode ++ Bytes.ofWord16 c.offset.toUInt16 ++
    [c.daylightSaving.code, c.hasFob.toUInt8, c.fobActions.1, c.fobActions.2.1, c.fobActions.2.2]

end Clock

@[ext] structure Build where
  advertising : ByteCode Advertising
  hasKeypad : Bool
  firmware : Version
  /-- The revision has no patch number. -/
  hardware : UInt8 × UInt8
deriving DecidableEq, Repr

namespace Build

def fields : Reader Build := do
  let advertising ← Reader.byte
  let hasKeypad ← Reader.flag
  let firmware ← Reader.take 3
  let major ← Reader.byte
  let minor ← Reader.byte
  return {
    advertising := Coded.ofCode advertising, hasKeypad, firmware := Version.ofBytes firmware
    hardware := (major, minor) }

def encode (b : Build) : Bytes :=
  [b.advertising.code, b.hasKeypad.toUInt8, b.firmware.major, b.firmware.minor, b.firmware.patch,
    b.hardware.1, b.hardware.2]

end Build

/-- The settings that only one family has. -/
inductive OwnSettings where
  | lock (autoUnlatch : Bool) (brightness : UInt8) (singleLock : Bool) (homeKit : ByteCode HomeKit)
  | opener (capabilities : ByteCode Capabilities) (intercom : ByteCode Intercom)
deriving DecidableEq, Repr

@[ext] structure ConfigReport where
  identity : Identity
  controls : Controls
  clock : Clock
  build : Build
  zone : Zone.Id
  own : OwnSettings
deriving DecidableEq, Repr

namespace ConfigReport

def lockSize : Nat := 74

def openerSize : Nat := 72

def lockFields : Reader ConfigReport := do
  let identity ← Identity.fields
  let autoUnlatch ← Reader.flag
  let controls ← Controls.fields
  let brightness ← Reader.byte
  let clock ← Clock.fields
  let singleLock ← Reader.flag
  let build ← Build.fields
  let homeKit ← Reader.byte
  let zone ← Reader.word16
  let own := OwnSettings.lock autoUnlatch brightness singleLock (Coded.ofCode homeKit)
  return { identity, controls, clock, build, zone, own }

def openerFields : Reader ConfigReport := do
  let identity ← Identity.fields
  let capabilities ← Reader.byte
  let controls ← Controls.fields
  let clock ← Clock.fields
  let intercom ← Reader.byte
  let build ← Build.fields
  let zone ← Reader.word16
  let own := OwnSettings.opener (Coded.ofCode capabilities) (Coded.ofCode intercom)
  return { identity, controls, clock, build, zone, own }

def read (c : Command) : Except WireError ConfigReport := do
  c.expectId (.known .config)
  if c.payload.length = lockSize then c.readPayload lockSize lockFields
  else if c.payload.length = openerSize then c.readPayload openerSize openerFields
  else throw (.unsupportedPayload (.known .config) c.payload.length)

/-- The payload that a device with these settings sends. -/
def encode (c : ConfigReport) : Bytes :=
  match c.own with
  | .lock autoUnlatch brightness singleLock homeKit =>
    c.identity.encode ++ [autoUnlatch.toUInt8] ++ c.controls.encode ++ [brightness] ++
      c.clock.encode ++ [singleLock.toUInt8] ++ c.build.encode ++ [homeKit.code] ++
      Bytes.ofWord16 c.zone
  | .opener capabilities intercom =>
    c.identity.encode ++ [capabilities.code] ++ c.controls.encode ++ c.clock.encode ++
      [intercom.code] ++ c.build.encode ++ Bytes.ofWord16 c.zone

def family (c : ConfigReport) : Family :=
  match c.own with
  | .lock .. => .smartLock
  | .opener .. => .opener

def time (c : ConfigReport) : Except WireError Moment :=
  match c.clock.stamp.moment? with
  | some moment => .ok moment
  | none => .error (.invalidTimestamp c.clock.stamp)

def hardware (c : ConfigReport) : Version :=
  { major := c.build.hardware.1, minor := c.build.hardware.2 }

def display (c : ConfigReport) : String :=
  s!"{c.family.display} {Numeral.hexUpper 8 c.identity.deviceId.toNat} " ++
    s!"{Quoted.render c.identity.name} firmware={c.build.firmware} hardware={c.hardware} " ++
    s!"tz={Zone.nameOf c.zone}"

end ConfigReport

end Latchkey
