import Latchkey.Device.Condition
import Latchkey.Report.Reply
import Latchkey.Text.Utf8
import Latchkey.Vocabulary

/-!
# Log entries

An entry of the activity log: a common part and details that depend on the kind of entry. Details that are
too short for their kind, or of a kind without a name, are kept as bytes. A request orders the entries.
-/

namespace Latchkey

inductive LogOrder where
  | ascending | descending
deriving DecidableEq, Repr

instance : Vocabulary UInt8 LogOrder where
  words := [.ascending, .descending]
  code
    | .ascending => 0x00 | .descending => 0x01
  label
    | .ascending => "Ascending" | .descending => "Descending"

inductive LogKind where
  | loggingEnabledDisabled | lockAction | calibration | initializationRun | keypadAction
  | doorSensor | doorSensorLoggingEnabledDisabled
deriving DecidableEq, Repr

instance : Vocabulary UInt8 LogKind where
  words := [
    .loggingEnabledDisabled, .lockAction, .calibration, .initializationRun, .keypadAction,
    .doorSensor, .doorSensorLoggingEnabledDisabled]
  code
    | .loggingEnabledDisabled => 0x01 | .lockAction => 0x02 | .calibration => 0x03
    | .initializationRun => 0x04 | .keypadAction => 0x05 | .doorSensor => 0x06
    | .doorSensorLoggingEnabledDisabled => 0x07
  label
    | .loggingEnabledDisabled => "LoggingEnabledDisabled" | .lockAction => "LockAction"
    | .calibration => "Calibration" | .initializationRun => "InitializationRun"
    | .keypadAction => "KeypadAction" | .doorSensor => "DoorSensor"
    | .doorSensorLoggingEnabledDisabled => "DoorSensorLoggingEnabledDisabled"

inductive LogDetail where
  | logging (enabled : Bool)
  | lockAction (action : ByteCode LockAction) (trigger : ByteCode Trigger)
    (flags completion : UInt8)
  | keypadAction (action : ByteCode LockAction) (source completion : UInt8) (keypadCode : UInt16)
  | doorSensor (event : UInt8)
  | doorSensorLogging (enabled : Bool)
  | other (bytes : Bytes)
deriving DecidableEq, Repr

namespace LogDetail

/-- Reads the details of an entry. Logging is on at one, but logging of the door sensor is on at zero. -/
def ofBytes (kind : ByteCode LogKind) (bytes : Bytes) : LogDetail :=
  match kind, bytes with
  | .known .loggingEnabledDisabled, b :: _ => logging (b = 1)
  | .known .lockAction, action :: trigger :: flags :: completion :: _
  | .known .calibration, action :: trigger :: flags :: completion :: _
  | .known .initializationRun, action :: trigger :: flags :: completion :: _ =>
    lockAction (Coded.ofCode action) (Coded.ofCode trigger) flags completion
  | .known .keypadAction, action :: source :: completion :: low :: high :: _ =>
    keypadAction (Coded.ofCode action) source completion (Bytes.toWord16 [low, high])
  | .known .doorSensor, event :: _ => doorSensor event
  | .known .doorSensorLoggingEnabledDisabled, b :: _ => doorSensorLogging (b = 0)
  | _, bytes => other bytes

def isOpened : LogDetail → Bool
  | doorSensor event => event = 0
  | _ => false

def isClosed : LogDetail → Bool
  | doorSensor event => event = 1
  | _ => false

def isJammed : LogDetail → Bool
  | doorSensor event => event = 2
  | _ => false

def text : LogDetail → String
  | logging enabled => s!"Logging \x7b enabled: {enabled} \x7d"
  | lockAction action trigger flags completion =>
    s!"LockAction \x7b action: {action.text}, trigger: {trigger.text}, flags: {flags}, " ++
      s!"completion_status: {completion} \x7d"
  | keypadAction action source completion keypadCode =>
    s!"KeypadAction \x7b action: {action.text}, source: {source}, " ++
      s!"completion_status: {completion}, code_id: {keypadCode} \x7d"
  | doorSensor event => s!"DoorSensor \x7b event: {event} \x7d"
  | doorSensorLogging enabled => s!"DoorSensorLogging \x7b enabled: {enabled} \x7d"
  | other bytes => "Unknown([" ++ ", ".intercalate (bytes.map toString) ++ "])"

end LogDetail

@[ext] structure LogEntry where
  index : UInt32
  stamp : Stamp
  authorization : UInt32
  name : String
  kind : ByteCode LogKind
  detail : LogDetail
deriving DecidableEq, Repr

namespace LogEntry

/-- The layout `index:4 ‖ stamp:7 ‖ authorization:4 ‖ name:32 ‖ kind:1 ‖ detail`. -/
def layout : Layout LogEntry where
  name := .logEntry
  size := 48
  fields := do
    let index ← Reader.word32
    let stamp ← Stamp.field
    let authorization ← Reader.word32
    let name ← Padded.field 32
    let kind ← Reader.byte
    let detail ← Reader.rest
    let kind := Coded.ofCode kind
    return { index, stamp, authorization, name, kind, detail := LogDetail.ofBytes kind detail }

def encode (index : UInt32) (stamp : Stamp) (authorization : UInt32) (name : String) (kind : UInt8)
    (detail : Bytes) : Bytes :=
  Bytes.ofWord32 index ++ stamp.encode ++ Bytes.ofWord32 authorization ++ Padded.encode 32 name ++
    kind :: detail

/-- The time of the entry, in universal time. -/
def time (e : LogEntry) : Except WireError Moment :=
  match e.stamp.moment? with
  | some moment => .ok moment
  | none => .error (.invalidTimestamp e.stamp)

def display (e : LogEntry) : String :=
  let time := match e.time with
    | .ok moment => moment.timestamp
    | .error _ => "invalid time"
  s!"[{e.index}][{time}][{e.authorization}][{e.name}]: {e.kind.text} > {e.detail.text}"

end LogEntry

@[ext] structure LogCount where
  logging : Bool
  count : UInt16
  doorSensor : Bool
  doorSensorLogging : Bool
deriving DecidableEq, Repr

/-- The layout `logging:1 ‖ count:2 ‖ doorSensor:1 ‖ doorSensorLogging:1`, the last two being optional. -/
def LogCount.layout : Layout LogCount where
  name := .logEntryCount
  size := 3
  fields := do
    let logging ← Reader.flag
    let count ← Reader.word16
    let doorSensor ← Reader.lateByte
    let doorSensorLogging ← Reader.lateByte
    return {
      logging, count, doorSensor := doorSensor != 0, doorSensorLogging := doorSensorLogging != 0 }

end Latchkey
