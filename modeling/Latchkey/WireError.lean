import Latchkey.Command.Id
import Latchkey.Time.Stamp

/-!
# Malformed and forged messages

Everything that can go wrong while messages are framed, read, sealed or opened. What a device itself
reports as an error is a `Fault` instead.
-/

namespace Latchkey

/-- Why bytes were refused, or could not be made. -/
inductive WireError where
  | badCrc (expected got : UInt16)
  | tooShort (need got : Nat)
  /-- A report was looked for in a command that is another one. -/
  | unexpectedCommand (expected got : CommandId)
  /-- The length of the payload belongs to no layout. -/
  | unsupportedPayload (command : CommandId) (length : Nat)
  | invalidTimestamp (stamp : Stamp)
  /-- A sealed message does not open with the key. -/
  | decryptionFailed
  | invalidKeyLength (expected got : Nat)
  /-- A message could not be sealed. -/
  | encryptionFailed
  /-- A sealed message is longer than its length field can say. -/
  | messageTooLarge (size max : Nat)
  /-- The id in front of a sealed message is not the one inside. -/
  | authorizationIdMismatch (header inner : UInt32)
  | authenticatorMismatch
  | invalidPin (text : String)
deriving DecidableEq, Repr

namespace WireError

def message : WireError → String
  | badCrc expected got =>
    s!"Bad CRC: expected 0x{Numeral.hexUpper 4 expected.toNat}, got 0x{Numeral.hexUpper 4 got.toNat}"
  | tooShort need got => s!"Message too short: need {need} bytes, got {got}"
  | unexpectedCommand expected got =>
    s!"Unexpected command: expected {expected.display}, got {got.display}"
  | unsupportedPayload command length => s!"Unsupported payload for {command.display}: {length} bytes"
  | invalidTimestamp stamp => s!"Invalid timestamp {stamp.text}"
  | decryptionFailed => "Decryption failed"
  | invalidKeyLength expected got => s!"Invalid key length: expected {expected} bytes, got {got}"
  | encryptionFailed => "Encryption failed"
  | messageTooLarge size max => s!"Message too large: {size} bytes exceeds maximum of {max} bytes"
  | authorizationIdMismatch header inner =>
    s!"Authorization id mismatch: header {header}, sealed {inner}"
  | authenticatorMismatch => "Device authenticator mismatch"
  | invalidPin text => s!"Invalid PIN: {text}"

def code : WireError → String
  | badCrc .. => "BAD_CRC"
  | tooShort .. => "TOO_SHORT"
  | unexpectedCommand .. => "UNEXPECTED_COMMAND"
  | unsupportedPayload .. => "UNSUPPORTED_PAYLOAD"
  | invalidTimestamp _ => "INVALID_TIMESTAMP"
  | decryptionFailed => "DECRYPTION_FAILED"
  | invalidKeyLength .. => "INVALID_KEY_LENGTH"
  | encryptionFailed => "ENCRYPTION_FAILED"
  | messageTooLarge .. => "MESSAGE_TOO_LARGE"
  | authorizationIdMismatch .. => "AUTHORIZATION_ID_MISMATCH"
  | authenticatorMismatch => "AUTHENTICATOR_MISMATCH"
  | invalidPin _ => "INVALID_PIN"

def isIntegrityError : WireError → Bool
  | badCrc .. | decryptionFailed | authorizationIdMismatch .. | authenticatorMismatch => true
  | _ => false

end WireError

end Latchkey
