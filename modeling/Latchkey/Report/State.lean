import Latchkey.Device.Condition
import Latchkey.Report.Reply

/-!
# State reports

What a device says about its present state. Locks and openers send the same first nineteen bytes, and the
length of the payload tells them apart: an opener sends at least three bytes more, a lock at most two.
-/

namespace Latchkey

@[ext] structure Battery where
  critical : Bool
  charging : Bool
  /-- The charge in steps of two percent. -/
  level : Fin 64
deriving DecidableEq, Repr

namespace Battery

/-- The lowest bit warns, the next tells charging, the others hold the level. -/
def ofByte (b : UInt8) : Battery where
  critical := b.toNat % 2 = 1
  charging := b.toNat / 2 % 2 = 1
  level := ⟨b.toNat / 4, by have := b.toNat_lt; omega⟩

def toByte (battery : Battery) : UInt8 :=
  UInt8.ofNat (battery.critical.toNat + 2 * battery.charging.toNat + 4 * battery.level)

def percent (battery : Battery) : Nat := 2 * battery.level

end Battery

@[ext] structure LockExtras where
  nightMode : Bool
  hasAccessory : Bool
  accessoryCritical : Bool
deriving DecidableEq, Repr

/-- What the report of a family adds to the common fields. -/
inductive StateExtras where
  | lock (extras : LockExtras)
  | opener
deriving DecidableEq, Repr

@[ext] structure StateReport where
  operating : ByteCode OperatingState
  lock : ByteCode LockState
  trigger : ByteCode Trigger
  stamp : Stamp
  /-- Minutes the clock of the device is ahead of universal time. -/
  offset : Int16
  battery : Battery
  configUpdates : UInt8
  /-- Seconds until a lock locks again, or until an opener stops opening. -/
  timer : UInt8
  lastAction : ByteCode LockAction
  lastTrigger : ByteCode Trigger
  lastCompletion : ByteCode Completion
  door : ByteCode DoorSensor
  extras : StateExtras
deriving DecidableEq, Repr

namespace StateReport

def lockSize : Nat := 19

def openerSize : Nat := 22

/-- The family that sends payloads of this length. -/
def familyOf (length : Nat) : Family :=
  if openerSize ≤ length then .opener else if lockSize ≤ length then .smartLock else .unknown

/-- The extra fields of a lock, which older ones leave out. -/
def lockExtras : Reader StateExtras := do
  let nightMode ← Reader.lateByte
  let accessory ← Reader.lateByte
  return .lock {
    nightMode := nightMode != 0
    hasAccessory := accessory.toNat % 2 = 1
    accessoryCritical := accessory.toNat / 2 % 2 = 1 }

/-- The common fields in order, followed by those of the family. -/
def fields (extras : Reader StateExtras) : Reader StateReport := do
  let operating ← Reader.byte
  let lock ← Reader.byte
  let trigger ← Reader.byte
  let stamp ← Stamp.field
  let offset ← Reader.int16
  let battery ← Reader.byte
  let configUpdates ← Reader.byte
  let timer ← Reader.byte
  let lastAction ← Reader.byte
  let lastTrigger ← Reader.byte
  let lastCompletion ← Reader.byte
  let door ← Reader.byte
  let extras ← extras
  return {
    operating := Coded.ofCode operating, lock := Coded.ofCode lock, trigger := Coded.ofCode trigger
    stamp, offset, battery := Battery.ofByte battery, configUpdates, timer
    lastAction := Coded.ofCode lastAction, lastTrigger := Coded.ofCode lastTrigger
    lastCompletion := Coded.ofCode lastCompletion, door := Coded.ofCode door, extras }

def read (c : Command) : Except WireError StateReport := do
  c.expectId (.known .keyturnerStates)
  match familyOf c.payload.length with
  | .opener => c.readPayload openerSize (fields (return .opener))
  | .smartLock => c.readPayload lockSize (fields lockExtras)
  | .unknown => throw (.unsupportedPayload (.known .keyturnerStates) c.payload.length)

def encodeCommon (s : StateReport) : Bytes :=
  [s.operating.code, s.lock.code, s.trigger.code] ++ s.stamp.encode ++
    Bytes.ofWord16 s.offset.toUInt16 ++
    [s.battery.toByte, s.configUpdates, s.timer, s.lastAction.code, s.lastTrigger.code,
      s.lastCompletion.code, s.door.code]

def family (s : StateReport) : Family :=
  match s.extras with
  | .lock _ => .smartLock
  | .opener => .opener

def time (s : StateReport) : Except WireError LocalTime :=
  match s.stamp.localTime? s.offset with
  | some time => .ok time
  | none => .error (.invalidTimestamp s.stamp)

def display (s : StateReport) : String :=
  let time := match s.time with
    | .ok time => s!" time={time.timestamp}"
    | .error _ => ""
  let tail := match s.extras with
    | .lock _ =>
      let critical := if s.battery.critical then " critical" else ""
      let charging := if s.battery.charging then " charging" else ""
      s!" battery={s.battery.percent}%{critical}{charging}"
    | .opener => s!" battery_critical={s.battery.critical} rto_timer={s.timer}"
  s!"{s.family.display} state={s.operating.text} lock={describeState s.family s.lock} " ++
    s!"trigger={s.trigger.text} door={s.door.text}{time}{tail}"

end StateReport

end Latchkey
