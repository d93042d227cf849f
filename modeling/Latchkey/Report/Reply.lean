import Latchkey.Bytes.Reader
import Latchkey.Command.Frame
import Latchkey.Device.Condition
import Latchkey.Device.Fault
import Latchkey.Key

/-!
# Reports

A report is what a payload of a certain command says. A layout gives the fields in order and the least
number of bytes they take; bytes behind the last field are ignored. The shortest reports steer an exchange:
keys and challenges, the outcome of a request, the authorization a device assigns during pairing, and faults.
-/

namespace Latchkey

/-- The payload layout of the reports with a certain id. -/
structure Layout (α : Type) where
  name : CommandName
  size : Nat
  fields : Reader α

/-- Reads a payload that has been found long enough. -/
def Command.readPayload {α : Type} (c : Command) (need : Nat) (fields : Reader α) : Except WireError α :=
  match fields.first? c.payload with
  | some report => .ok report
  | none => .error (.tooShort need c.payload.length)

def Layout.read {α : Type} (layout : Layout α) (c : Command) : Except WireError α := do
  c.expectId (.known layout.name)
  c.expectPayload layout.size
  c.readPayload layout.size layout.fields

def publicKeyReport : Layout Key where
  name := .publicKey
  size := 32
  fields := fun payload =>
    if h : (payload.take 32).length = 32 then some (⟨payload.take 32, h⟩, payload.drop 32) else none

/-- A challenge: all bytes of the payload go into the next request. -/
def challengeReport : Layout Bytes where
  name := .challenge
  size := 32
  fields := Reader.rest

def statusReport : Layout (ByteCode Completion) where
  name := .status
  size := 1
  fields := Coded.ofCode <$> Reader.byte

@[ext] structure AuthorizationReport where
  /-- The keyed digest of the other fields and the nonce of the client. -/
  authenticator : Bytes
  authorization : UInt32
  uuid : Bytes
  /-- The challenge for the confirmation. -/
  nonce : Bytes
deriving DecidableEq, Repr

/-- The layout `authenticator:32 ‖ authorization:4 ‖ uuid:16 ‖ nonce`. -/
def authorizationReport : Layout AuthorizationReport where
  name := .authorizationId
  size := 52
  fields := do
    let authenticator ← Reader.take 32
    let authorization ← Reader.word32
    let uuid ← Reader.take 16
    let nonce ← Reader.rest
    return { authenticator, authorization, uuid, nonce }

/-- A fault code with the command that was refused, where the device names it. -/
@[ext] structure FaultReport where
  code : UInt8
  command : Option CommandId
deriving DecidableEq, Repr

/-- The layout `code:1 ‖ command:2`, the command being optional. -/
def faultReport : Layout FaultReport where
  name := .errorReport
  size := 1
  fields := do
    let code ← Reader.byte
    let rest ← Reader.rest
    return { code, command := (Reader.word16.first? rest).map Coded.ofCode }

/-- The fault a command reports to a client of the given family; a report without a code counts as the
unknown fault `0xFF`. Other commands report no fault. -/
def Command.fault? (family : Family) (c : Command) : Option Fault :=
  if c.Carries (.known .errorReport) then
    match faultReport.read c with
    | .ok report => some (Fault.ofCode family report.code)
    | .error _ => some (Fault.ofCode family 0xFF)
  else none

end Latchkey
