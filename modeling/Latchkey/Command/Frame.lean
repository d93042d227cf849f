import Latchkey.Crc16
import Latchkey.WireError

/-!
# Framed commands

Every message, sealed or not, is a command: `id:2 ‖ payload ‖ crc:2`, numbers low byte first and the frame
check taken over id and payload. A `Command` holds the id and the payload alone, so the bytes of a command
always carry the right check.
-/

namespace Latchkey

@[ext] structure Command where
  /-- The id as it stands in the message. -/
  rawId : UInt16
  payload : Bytes
deriving DecidableEq, Repr

namespace Command

def of (id : CommandId) (payload : Bytes) : Command := ⟨id.code, payload⟩

def id (c : Command) : CommandId := Coded.ofCode c.rawId

/-- The command carries this id, under whatever name. -/
def Carries (c : Command) (id : CommandId) : Prop := c.rawId = id.code

instance (c : Command) (id : CommandId) : Decidable (c.Carries id) := by
  unfold Carries; infer_instance

/-- The bytes that the frame check covers. -/
def body (c : Command) : Bytes := Bytes.ofWord16 c.rawId ++ c.payload

def crc (c : Command) : UInt16 := Crc16.checksum c.body

def encode (c : Command) : Bytes := c.body ++ Bytes.ofWord16 c.crc

def overhead : Nat := 4

def length (c : Command) : Nat := c.payload.length + overhead

/-- Reads a command; the bytes have to be one command and nothing else. -/
def decode (bytes : Bytes) : Except WireError Command :=
  if bytes.length < overhead then .error (.tooShort overhead bytes.length)
  else
    let body := bytes.take (bytes.length - 2)
    let expected := Crc16.checksum body
    let got := Bytes.toWord16 (bytes.drop (bytes.length - 2))
    if expected = got then .ok ⟨Bytes.toWord16 (body.take 2), body.drop 2⟩
    else .error (.badCrc expected got)

def expectId (c : Command) (id : CommandId) : Except WireError Unit :=
  if c.Carries id then .ok () else .error (.unexpectedCommand id c.id)

def expectPayload (c : Command) (need : Nat) : Except WireError Unit :=
  if c.payload.length < need then .error (.tooShort need c.payload.length) else .ok ()

/-- All bytes, and then the fields one by one. -/
def display (c : Command) : String :=
  s!"{Bytes.toHexUpper c.encode} [{c.length}] id={c.id.display} " ++
    s!"payload={Bytes.toHexUpper c.payload} crc=0x{Numeral.hexUpper 4 c.crc.toNat}"

def debug (c : Command) : String :=
  "Command \x7b id: " ++ c.id.text ++ ", payload: \"" ++ Bytes.toHexUpper c.payload ++
    "\", crc: 0x" ++ Numeral.hexUpper 4 c.crc.toNat ++ " \x7d"

end Command

end Latchkey
