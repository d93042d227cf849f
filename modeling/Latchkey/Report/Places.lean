import Latchkey.Bytes.Reader
import Latchkey.Log.Entry
import Latchkey.Report.Config
import Latchkey.Report.Reply
import Latchkey.Report.State

/-!
# Fields by their places

The fields of a report can also be looked up where they stand in the payload, each for itself. A lookup finds
nothing if the payload ends before its field does, so a report is only found if all its fields are there.
-/

namespace Latchkey

def publicKeyAt? (payload : Bytes) : Option Key := do
  Key.ofBytes? (← payload.slice? 0 32)

def challengeAt? (payload : Bytes) : Option Bytes := return payload

def statusAt? (payload : Bytes) : Option (ByteCode Completion) := do
  return Coded.ofCode (← payload[0]?)

def AuthorizationReport.at? (payload : Bytes) : Option AuthorizationReport := do
  let authenticator ← payload.slice? 0 32
  let authorization ← payload.word32At? 32
  let uuid ← payload.slice? 36 16
  let nonce ← payload.slice? 52 (payload.length - 52)
  return { authenticator, authorization, uuid, nonce }

/-- The command is only looked up if the payload is long enough to name one. -/
def FaultReport.at? (payload : Bytes) : Option FaultReport := do
  let code ← payload[0]?
  if 3 ≤ payload.length then
    let command ← payload.word16At? 1
    return { code, command := some (Coded.ofCode command) }
  else
    return { code, command := none }

def LogCount.at? (payload : Bytes) : Option LogCount := do
  let logging ← payload.flagAt? 0
  let count ← payload.word16At? 1
  let doorSensor ← payload.lateByteAt? 3
  let doorSensorLogging ← payload.lateByteAt? 4
  return {
    logging, count, doorSensor := doorSensor != 0, doorSensorLogging := doorSensorLogging != 0 }

def Stamp.at? (start : Nat) (payload : Bytes) : Option Stamp := do
  let bytes ← payload.slice? start 7
  let year ← bytes.word16At? 0
  let month ← bytes[2]?
  let day ← bytes[3]?
  let hour ← bytes[4]?
  let minute ← bytes[5]?
  let second ← bytes[6]?
  return { year, month, day, hour, minute, second }

def Padded.at? (start width : Nat) (payload : Bytes) : Option String := do
  return decode (← payload.slice? start width)

def LogEntry.at? (payload : Bytes) : Option LogEntry := do
  let index ← payload.word32At? 0
  let stamp ← Stamp.at? 4 payload
  let authorization ← payload.word32At? 11
  let name ← Padded.at? 15 32 payload
  let kind ← payload[47]?
  let detail ← payload.slice? 48 (payload.length - 48)
  let kind := Coded.ofCode kind
  return { index, stamp, authorization, name, kind, detail := LogDetail.ofBytes kind detail }

namespace StateReport

/-- The extra fields of a lock, which older ones leave out. -/
def lockExtrasAt? (payload : Bytes) : Option StateExtras := do
  let nightMode ← payload.lateByteAt? 19
  let accessory ← payload.lateByteAt? 20
  return .lock {
    nightMode := nightMode != 0
    hasAccessory := accessory.toNat % 2 = 1
    accessoryCritical := accessory.toNat / 2 % 2 = 1 }

def fieldsAt? (extras : Bytes → Option StateExtras) (payload : Bytes) : Option StateReport := do
  let operating ← payload[0]?
  let lock ← payload[1]?
  let trigger ← payload[2]?
  let stamp ← Stamp.at? 3 payload
  let offset ← payload.int16At? 10
  let battery ← payload[12]?
  let configUpdates ← payload[13]?
  let timer ← payload[14]?
  let lastAction ← payload[15]?
  let lastTrigger ← payload[16]?
  let lastCompletion ← payload[17]?
  let door ← payload[18]?
  let extras ← extras payload
  return {
    operating := Coded.ofCode operating, lock := Coded.ofCode lock, trigger := Coded.ofCode trigger
    stamp, offset, battery := Battery.ofByte battery, configUpdates, timer
    lastAction := Coded.ofCode lastAction, lastTrigger := Coded.ofCode lastTrigger
    lastCompletion := Coded.ofCode lastCompletion, door := Coded.ofCode door, extras }

def at? (payload : Bytes) : Option StateReport :=
  match familyOf payload.length with
  | .opener => fieldsAt? (fun _ => return .opener) payload
  | .smartLock => fieldsAt? lockExtrasAt? payload
  | .unknown => none

end StateReport

/-- The places of the fields that both families send, but not at the same places. -/
structure ConfigReport.Places where
  stamp : Nat
  offset : Nat
  daylightSaving : Nat
  hasFob : Nat
  fobActions : Nat
  advertising : Nat
  hasKeypad : Nat
  firmware : Nat
  hardware : Nat
  zone : Nat

def Identity.at? (payload : Bytes) : Option Identity := do
  let deviceId ← payload.word32At? 0
  let name ← Padded.at? 4 32 payload
  let latitude ← payload.word32At? 36
  let longitude ← payload.word32At? 40
  return { deviceId, name, latitude, longitude }

def Controls.at? (payload : Bytes) : Option Controls := do
  let pairing ← payload.flagAt? 45
  let button ← payload.flagAt? 46
  let led ← payload.flagAt? 47
  return { pairing, button, led }

def Clock.at? (places : ConfigReport.Places) (payload : Bytes) : Option Clock := do
  let stamp ← Stamp.at? places.stamp payload
  let offset ← payload.int16At? places.offset
  let daylightSaving ← payload[places.daylightSaving]?
  let hasFob ← payload.flagAt? places.hasFob
  let one ← payload[places.fobActions]?
  let two ← payload[places.fobActions + 1]?
  let three ← payload[places.fobActions + 2]?
  return {
    stamp, offset, daylightSaving := Coded.ofCode daylightSaving, hasFob
    fobActions := (one, two, three) }

def Build.at? (places : ConfigReport.Places) (payload : Bytes) : Option Build := do
  let advertising ← payload[places.advertising]?
  let hasKeypad ← payload.flagAt? places.hasKeypad
  let firmware ← payload.slice? places.firmware 3
  let major ← payload[places.hardware]?
  let minor ← payload[places.hardware + 1]?
  return {
    advertising := Coded.ofCode advertising, hasKeypad, firmware := Version.ofBytes firmware
    hardware := (major, minor) }

namespace ConfigReport

def lockPlaces : Places where
  stamp := 49
  offset := 56
  daylightSaving := 58
  hasFob := 59
  fobActions := 60
  advertising := 64
  hasKeypad := 65
  firmware := 66
  hardware := 69
  zone := 72

def openerPlaces : Places where
  stamp := 48
  offset := 55
  daylightSaving := 57
  hasFob := 58
  fobActions := 59
  advertising := 63
  hasKeypad := 64
  firmware := 65
  hardware := 68
  zone := 70

def lockSettingsAt? (payload : Bytes) : Option OwnSettings := do
  let autoUnlatch ← payload.flagAt? 44
  let brightness ← payload[48]?
  let singleLock ← payload.flagAt? 63
  let homeKit ← payload[71]?
  return .lock autoUnlatch brightness singleLock (Coded.ofCode homeKit)

def openerSettingsAt? (payload : Bytes) : Option OwnSettings := do
  let capabilities ← payload[44]?
  let intercom ← payload[62]?
  return .opener (Coded.ofCode capabilities) (Coded.ofCode intercom)

def fieldsAt? (places : Places) (own : Bytes → Option OwnSettings) (payload : Bytes) :
    Option ConfigReport := do
  let identity ← Identity.at? payload
  let controls ← Controls.at? payload
  let clock ← Clock.at? places payload
  let build ← Build.at? places payload
  let zone ← payload.word16At? places.zone
  let own ← own payload
  return { identity, controls, clock, build, zone, own }

def at? (payload : Bytes) : Option ConfigReport :=
  if payload.length = lockSize then fieldsAt? lockPlaces lockSettingsAt? payload
  else if payload.length = openerSize then fieldsAt? openerPlaces openerSettingsAt? payload
  else none

end ConfigReport

/-- The reports that a payload can be looked at as. -/
inductive View where
  | publicKey | challenge | status | authorization | fault | logCount | logEntry | states | config
deriving DecidableEq, Repr

namespace View

/-- What the report says. -/
def Content : View → Type
  | publicKey => Key
  | challenge => Bytes
  | status => ByteCode Completion
  | authorization => AuthorizationReport
  | fault => FaultReport
  | logCount => LogCount
  | logEntry => LogEntry
  | states => StateReport
  | config => ConfigReport

def read : (view : View) → Command → Except WireError view.Content
  | publicKey => publicKeyReport.read
  | challenge => challengeReport.read
  | status => statusReport.read
  | authorization => authorizationReport.read
  | fault => faultReport.read
  | logCount => LogCount.layout.read
  | logEntry => LogEntry.layout.read
  | states => StateReport.read
  | config => ConfigReport.read

def at? : (view : View) → Bytes → Option view.Content
  | publicKey => publicKeyAt?
  | challenge => challengeAt?
  | status => statusAt?
  | authorization => AuthorizationReport.at?
  | fault => FaultReport.at?
  | logCount => LogCount.at?
  | logEntry => LogEntry.at?
  | states => StateReport.at?
  | config => ConfigReport.at?

end View

end Latchkey
