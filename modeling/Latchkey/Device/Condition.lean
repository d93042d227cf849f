import Latchkey.Vocabulary

/-!
# Devices

A connection talks either to a lock or to an intercom opener. The families share one protocol but differ
in their layouts, in a few error codes and in the characteristics they expose. What a lock and an opener can
be asked to do travels in the same command. The state report says how the device operates, where the bolt
stands, what moved it last and how that ended.
-/

namespace Latchkey

inductive Family where
  | smartLock | opener | unknown
deriving DecidableEq, Repr

namespace Family

def display : Family → String
  | .smartLock => "smartlock"
  | .opener => "opener"
  | .unknown => "unknown"

def label : Family → String
  | .smartLock => "SmartLock"
  | .opener => "Opener"
  | .unknown => "Unknown"

def keyword : Family → String
  | .smartLock => "smart_lock"
  | .opener => "opener"
  | .unknown => "unknown"

def ofKeyword? (word : String) : Option Family :=
  [smartLock, opener, unknown].find? (·.keyword = word)

end Family

inductive LockAction where
  | unlock | lock | unlatch | lockAndGo | lockAndGoWithUnlatch | fullLock | fobAction1 | fobAction2
  | fobAction3
deriving DecidableEq, Repr

instance : Vocabulary UInt8 LockAction where
  words := [
    .unlock, .lock, .unlatch, .lockAndGo, .lockAndGoWithUnlatch, .fullLock, .fobAction1,
    .fobAction2, .fobAction3]
  code
    | .unlock => 0x01 | .lock => 0x02 | .unlatch => 0x03 | .lockAndGo => 0x04
    | .lockAndGoWithUnlatch => 0x05 | .fullLock => 0x06 | .fobAction1 => 0x81 | .fobAction2 => 0x82
    | .fobAction3 => 0x83
  label
    | .unlock => "Unlock" | .lock => "Lock" | .unlatch => "Unlatch" | .lockAndGo => "LockAndGo"
    | .lockAndGoWithUnlatch => "LockAndGoWithUnlatch" | .fullLock => "FullLock"
    | .fobAction1 => "FobAction1" | .fobAction2 => "FobAction2" | .fobAction3 => "FobAction3"

inductive OpenAction where
  | activateRto | deactivateRto | electricStrikeActuation | activateContinuousMode
  | deactivateContinuousMode | fobAction1 | fobAction2 | fobAction3
deriving DecidableEq, Repr

instance : Vocabulary UInt8 OpenAction where
  words := [
    .activateRto, .deactivateRto, .electricStrikeActuation, .activateContinuousMode,
    .deactivateContinuousMode, .fobAction1, .fobAction2, .fobAction3]
  code
    | .activateRto => 0x01 | .deactivateRto => 0x02 | .electricStrikeActuation => 0x03
    | .activateContinuousMode => 0x04 | .deactivateContinuousMode => 0x05 | .fobAction1 => 0x81
    | .fobAction2 => 0x82 | .fobAction3 => 0x83
  label
    | .activateRto => "ActivateRto" | .deactivateRto => "DeactivateRto"
    | .electricStrikeActuation => "ElectricStrikeActuation"
    | .activateContinuousMode => "ActivateContinuousMode"
    | .deactivateContinuousMode => "DeactivateContinuousMode" | .fobAction1 => "FobAction1"
    | .fobAction2 => "FobAction2" | .fobAction3 => "FobAction3"

inductive OperatingState where
  | uninitialized | pairingMode | doorMode | continuousMode | maintenanceMode
deriving DecidableEq, Repr

instance : Vocabulary UInt8 OperatingState where
  words := [.uninitialized, .pairingMode, .doorMode, .continuousMode, .maintenanceMode]
  code
    | .uninitialized => 0x00 | .pairingMode => 0x01 | .doorMode => 0x02 | .continuousMode => 0x03
    | .maintenanceMode => 0x04
  label
    | .uninitialized => "Uninitialized" | .pairingMode => "PairingMode" | .doorMode => "DoorMode"
    | .continuousMode => "ContinuousMode" | .maintenanceMode => "MaintenanceMode"

/-- Where the bolt of a lock stands, or what an opener is doing. -/
inductive LockState where
  | uncalibrated | locked | unlocking | unlocked | locking | unlatched | unlockedLockAndGo
  | unlatching | calibration | bootRun | motorBlocked | undefined
deriving DecidableEq, Repr

instance : Vocabulary UInt8 LockState where
  words := [
    .uncalibrated, .locked, .unlocking, .unlocked, .locking, .unlatched, .unlockedLockAndGo,
    .unlatching, .calibration, .bootRun, .motorBlocked, .undefined]
  code
    | .uncalibrated => 0x00 | .locked => 0x01 | .unlocking => 0x02 | .unlocked => 0x03
    | .locking => 0x04 | .unlatched => 0x05 | .unlockedLockAndGo => 0x06 | .unlatching => 0x07
    | .calibration => 0xFC | .bootRun => 0xFD | .motorBlocked => 0xFE | .undefined => 0xFF
  label
    | .uncalibrated => "Uncalibrated" | .locked => "Locked" | .unlocking => "Unlocking"
    | .unlocked => "Unlocked" | .locking => "Locking" | .unlatched => "Unlatched"
    | .unlockedLockAndGo => "UnlockedLockAndGo" | .unlatching => "Unlatching"
    | .calibration => "Calibration" | .bootRun => "BootRun" | .motorBlocked => "MotorBlocked"
    | .undefined => "Undefined"

/-- The words for a state; some states mean something else on an opener. -/
def LockState.describe : LockState → Family → String
  | .uncalibrated, .opener => "untrained"
  | .locked, .opener => "online"
  | .unlocked, .opener => "rto active"
  | .unlatched, .opener => "open"
  | .unlatching, .opener => "opening"
  | .uncalibrated, _ => "uncalibrated"
  | .locked, _ => "locked"
  | .unlocking, _ => "unlocking"
  | .unlocked, _ => "unlocked"
  | .locking, _ => "locking"
  | .unlatched, _ => "unlatched"
  | .unlockedLockAndGo, _ => "unlocked (lock 'n' go)"
  | .unlatching, _ => "unlatching"
  | .calibration, _ => "calibration"
  | .bootRun, _ => "boot run"
  | .motorBlocked, _ => "motor blocked"
  | .undefined, _ => "undefined"

/-- The words for a reported state; a code without a name is undefined. -/
def describeState (family : Family) : ByteCode LockState → String
  | .known state => state.describe family
  | .unknown _ => "undefined"

inductive Trigger where
  | system | manual | button | automatic | autoLock
deriving DecidableEq, Repr

instance : Vocabulary UInt8 Trigger where
  words := [.system, .manual, .button, .automatic, .autoLock]
  code
    | .system => 0x00 | .manual => 0x01 | .button => 0x02 | .automatic => 0x03 | .autoLock => 0x06
  label
    | .system => "System" | .manual => "Manual" | .button => "Button" | .automatic => "Automatic"
    | .autoLock => "AutoLock"

inductive DoorSensor where
  | unavailable | deactivated | doorClosed | doorOpened | doorStateUnknown | calibrating
deriving DecidableEq, Repr

instance : Vocabulary UInt8 DoorSensor where
  words := [.unavailable, .deactivated, .doorClosed, .doorOpened, .doorStateUnknown, .calibrating]
  code
    | .unavailable => 0x00 | .deactivated => 0x01 | .doorClosed => 0x02 | .doorOpened => 0x03
    | .doorStateUnknown => 0x04 | .calibrating => 0x05
  label
    | .unavailable => "Unavailable" | .deactivated => "Deactivated" | .doorClosed => "DoorClosed"
    | .doorOpened => "DoorOpened" | .doorStateUnknown => "DoorStateUnknown"
    | .calibrating => "Calibrating"

inductive Completion where
  | complete | accepted
deriving DecidableEq, Repr

instance : Vocabulary UInt8 Completion where
  words := [.complete, .accepted]
  code
    | .complete => 0x00 | .accepted => 0x01
  label
    | .complete => "Complete" | .accepted => "Accepted"

end Latchkey
