import Latchkey.Device.Condition
import Latchkey.Device.Fault
import Latchkey.WireError

/-!
# Failures

Why an operation of a client did not succeed. A failure inside an exchange is wrapped with the name of the
step it happened in, so that it reads for instance "Error while waiting for challenge: Response timeout
after 10000ms".
-/

namespace Latchkey

/-- Why an operation failed. -/
inductive Failure where
  | notConnected
  /-- There is a link, but no authorization on it. -/
  | notAuthenticated
  | characteristicNotFound (name : String)
  | transport (reason : String)
  | timeout (milliseconds : Nat)
  | cancelled
  /-- Nothing can arrive any more. -/
  | channelClosed
  | wire (error : WireError)
  /-- A message was sealed for another authorization. -/
  | unexpectedAuthorization (expected got : UInt32)
  | unexpectedResponse (expected : String) (got : CommandId)
  /-- The device answered with an outcome that does not belong here. -/
  | unexpectedStatus (expected got : ByteCode Completion)
  /-- The lock did not pass through the state it should have. -/
  | unexpectedLockState (expected got : ByteCode LockState)
  | unsupportedFamily (required actual : Family)
  /-- The action passes through no states that could be followed. -/
  | unsupportedAction (action : ByteCode LockAction)
  | authenticatorMismatch
  | device (fault : Fault)
  | invalidOptions (reason : String)
  /-- Some parts of a connection could not be closed. -/
  | closing (failures : List Failure)
  | during (step : String) (cause : Failure)

namespace Failure

mutual

def message : Failure → String
  | notConnected => "The connection is not established"
  | notAuthenticated => "The client is not authenticated"
  | characteristicNotFound name => s!"Unable to find {name} characteristic"
  | transport reason => s!"Transport error: {reason}"
  | timeout milliseconds => s!"Response timeout after {milliseconds}ms"
  | cancelled => "Operation cancelled"
  | channelClosed => "Channel closed"
  | wire error => error.message
  | unexpectedAuthorization expected got =>
    s!"Unexpected authorization id: expected {expected}, got {got}"
  | unexpectedResponse expected got =>
    s!"Unexpected response: expected {expected}, got {got.display}"
  | unexpectedStatus expected got =>
    s!"Unexpected status: expected {expected.text}, got {got.text}"
  | unexpectedLockState expected got =>
    s!"Unexpected lock state: expected {expected.text}, got {got.text}"
  | unsupportedFamily required actual =>
    "Unexpected device type: this operation is only available for " ++
      s!"{required.display}, connected to {actual.display}"
  | unsupportedAction action => s!"Lock action {action.text} cannot be tracked"
  | authenticatorMismatch => "Device authenticator mismatch"
  | device fault => s!"Device error 0x{Numeral.hexUpper 2 fault.code.toNat}: {fault.message}"
  | invalidOptions reason => s!"Invalid configuration: {reason}"
  | closing failures => "Error while closing resources: [" ++ "; ".intercalate (messages failures) ++ "]"
  | during step cause => s!"Error while {step}: {cause.message}"

def messages : List Failure → List String
  | [] => []
  | failure :: failures => failure.message :: messages failures

end

/-- The failure without the steps around it. -/
def root : Failure → Failure
  | during _ cause => cause.root
  | failure => failure

/-- The innermost step. -/
def step? : Failure → Option String
  | during step cause => cause.step? <|> some step
  | _ => none

def code : Failure → String
  | notConnected => "NOT_CONNECTED"
  | notAuthenticated => "NOT_AUTHENTICATED"
  | characteristicNotFound _ => "CHARACTERISTIC_NOT_FOUND"
  | transport _ => "TRANSPORT_ERROR"
  | timeout _ => "TIMEOUT"
  | cancelled => "CANCELLED"
  | channelClosed => "CHANNEL_CLOSED"
  | wire error => error.code
  | unexpectedAuthorization .. => "UNEXPECTED_AUTHORIZATION_ID"
  | unexpectedResponse .. => "UNEXPECTED_RESPONSE"
  | unexpectedStatus .. => "UNEXPECTED_STATUS"
  | unexpectedLockState .. => "UNEXPECTED_LOCK_STATE"
  | unsupportedFamily .. => "UNSUPPORTED_DEVICE_TYPE"
  | unsupportedAction _ => "UNSUPPORTED_LOCK_ACTION"
  | authenticatorMismatch => "AUTHENTICATOR_MISMATCH"
  | device fault => fault.area
  | invalidOptions _ => "INVALID_CONFIG"
  | closing _ => "CLOSE_FAILED"
  | during _ cause => cause.code

/-- Trying again may succeed. -/
def isRetriable (failure : Failure) : Bool :=
  match failure.root with
  | timeout _ | transport _ => true
  | device fault => fault.isRetriable
  | _ => false

/-- The device sent something that the protocol does not allow. -/
def isProtocol (failure : Failure) : Bool :=
  match failure.root with
  | wire _ | unexpectedAuthorization .. | unexpectedResponse .. | unexpectedStatus ..
  | unexpectedLockState .. | authenticatorMismatch => true
  | _ => false

end Failure

end Latchkey
