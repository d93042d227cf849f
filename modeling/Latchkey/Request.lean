import Latchkey.Command.Frame
import Latchkey.Device.Condition
import Latchkey.Key
import Latchkey.Log.Entry
import Latchkey.Text.Utf8
import Latchkey.WireError

/-!
# Requests

What a client asks of a device. Most requests carry the last challenge of the device, and those that touch
settings or the log carry the security pin behind it, which travels as a number.
-/

namespace Latchkey

@[ext] structure Pin where
  value : UInt16
deriving DecidableEq, Repr

namespace Pin

/-- The pin spelled by exactly four digits. -/
def ofText (text : String) : Except WireError Pin :=
  match text.toList with
  | [a, b, c, d] =>
    if [a, b, c, d].all Char.isDigit then
      .ok ⟨UInt16.ofNat ([a, b, c, d].foldl (fun n digit => 10 * n + (digit.toNat - 48)) 0)⟩
    else .error (.invalidPin text)
  | _ => .error (.invalidPin text)

def encode (pin : Pin) : Bytes := Bytes.ofWord16 pin.value

/-- A pin is never shown. -/
def debug (_ : Pin) : String := "Pin(****)"

end Pin

inductive Request where
  /-- Asks the device to send a command of its own. -/
  | data (id : CommandId)
  | publicKey (key : Key)
  | lockAction (action : ByteCode LockAction) (app : UInt32) (flags : UInt8) (suffix : Option String)
    (challenge : Bytes)
  | openAction (action : ByteCode OpenAction) (app : UInt32) (flags : UInt8) (suffix : Option String)
    (challenge : Bytes)
  | config (challenge : Bytes)
  | logEntries (start : UInt32) (count : UInt16) (order : ByteCode LogOrder) (pin : Pin)
    (challenge : Bytes)
  | logEntryCount (pin : Pin) (challenge : Bytes)
  | logging (enable : Bool) (pin : Pin) (challenge : Bytes)
  | updateTime (time : Moment) (pin : Pin) (challenge : Bytes)
  | reboot (pin : Pin) (challenge : Bytes)

namespace Request

def suffixLength : Nat := 20

/-- The payload of an action of either family: `action ‖ app:4 ‖ flags ‖ [suffix:20] ‖ challenge`. -/
def actionPayload (action : UInt8) (app : UInt32) (flags : UInt8) (suffix : Option String)
    (challenge : Bytes) : Bytes :=
  let suffix := match suffix with
    | some text => Padded.encode suffixLength text
    | none => []
  action :: Bytes.ofWord32 app ++ flags :: suffix ++ challenge

/-- The payload that asks for entries, or only for their number:
`start:4 ‖ count:2 ‖ order ‖ total ‖ challenge ‖ pin:2`. -/
def logPayload (start : UInt32) (count : UInt16) (order : ByteCode LogOrder) (total : Bool) (pin : Pin)
    (challenge : Bytes) : Bytes :=
  Bytes.ofWord32 start ++ Bytes.ofWord16 count ++ [order.code, total.toUInt8] ++ challenge ++ pin.encode

def command : Request → Command
  | data id => .of (.known .requestData) (Bytes.ofWord16 id.code)
  | publicKey key => .of (.known .publicKey) key.bytes
  | lockAction action app flags suffix challenge =>
    .of (.known .lockAction) (actionPayload action.code app flags suffix challenge)
  | openAction action app flags suffix challenge =>
    .of (.known .lockAction) (actionPayload action.code app flags suffix challenge)
  | config challenge => .of (.known .requestConfig) challenge
  | logEntries start count order pin challenge =>
    .of (.known .requestLogEntries) (logPayload start count order false pin challenge)
  | logEntryCount pin challenge =>
    .of (.known .requestLogEntries) (logPayload 0 0 (.known .ascending) true pin challenge)
  | logging enable pin challenge =>
    .of (.known .enableLogging) (enable.toUInt8 :: challenge ++ pin.encode)
  | updateTime time pin challenge =>
    .of (.known .updateTime) ((Stamp.ofMoment time).encode ++ challenge ++ pin.encode)
  | reboot pin challenge => .of (.known .requestReboot) (challenge ++ pin.encode)

end Request

end Latchkey
