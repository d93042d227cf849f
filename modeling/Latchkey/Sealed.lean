import Latchkey.Cipher.SecretBox
import Latchkey.Command.Frame
import Latchkey.Key

/-!
# Sealed messages

Commands of the user channel travel in secret boxes:

`nonce:24 ‖ authorization:4 ‖ size:2 ‖ box(authorization:4 ‖ id:2 ‖ payload ‖ crc:2)`

`size` counts the bytes of the box, and the frame check inside the box covers the authorization as well. Bytes
for nonces come from a source that repeats a byte string for ever. An empty source gives zeros.
-/

namespace Latchkey

/-- A repeated byte string and the place of the next byte in it. -/
structure Nonces where
  bytes : Bytes
  position : Nat := 0
deriving DecidableEq, Repr

namespace Nonces

def next (source : Nonces) : UInt8 × Nonces :=
  if source.bytes = [] then (0, source)
  else
    (source.bytes.getD source.position 0,
      { source with position := (source.position + 1) % source.bytes.length })

def draw : (count : Nat) → Nonces → Bytes × Nonces
  | 0, source => ([], source)
  | count + 1, source =>
    let (b, source) := source.next
    let (bytes, source) := draw count source
    (b :: bytes, source)

@[simp] theorem length_draw (count : Nat) (source : Nonces) : (draw count source).1.length = count := by
  induction count generalizing source with
  | zero => rfl
  | succ count ih => simp [draw, ih]

end Nonces

end Latchkey

namespace Latchkey.Sealed

def nonceLength : Nat := 24

/-- The number of bytes in front of the box. -/
def headerLength : Nat := 30

/-- The number of bytes around the payload inside the box. -/
def overhead : Nat := 8

def maxSize : Nat := 65535

def content (authorization : UInt32) (command : Command) : Bytes :=
  let body := Bytes.ofWord32 authorization ++ command.body
  body ++ Bytes.ofWord16 (Crc16.checksum body)

def encode (authorization : UInt32) (shared : SharedKey) (command : Command) (nonce : Bytes) :
    Except WireError Bytes :=
  let box := SecretBox.encrypt shared.key.bytes nonce (content authorization command)
  if box.length ≤ maxSize then
    .ok (nonce ++ Bytes.ofWord32 authorization ++ Bytes.ofNat 2 box.length ++ box)
  else .error (.messageTooLarge box.length maxSize)

/-- Seals a command under the next nonce. The nonce is used up even if the command is too large. -/
def encodeNext (authorization : UInt32) (shared : SharedKey) (command : Command) (nonces : Nonces) :
    Except WireError Bytes × Nonces :=
  let (nonce, nonces) := nonces.draw nonceLength
  (encode authorization shared command nonce, nonces)

/-- Reads what was in a box that carries `outer` in its header. -/
def decodeContent (outer : UInt32) (content : Bytes) : Except WireError (UInt32 × Command) :=
  if content.length < overhead then .error (.tooShort overhead content.length)
  else
    let body := content.take (content.length - 2)
    let expected := Crc16.checksum body
    let got := Bytes.toWord16 (content.drop (content.length - 2))
    let inner := Bytes.toWord32 (body.take 4)
    if expected ≠ got then .error (.badCrc expected got)
    else if inner ≠ outer then .error (.authorizationIdMismatch outer inner)
    else .ok (inner, ⟨Bytes.toWord16 ((body.drop 4).take 2), body.drop 6⟩)

/-- Opens a message and returns the authorization it was sealed for. Bytes behind the box are ignored. -/
def decode (shared : SharedKey) (message : Bytes) : Except WireError (UInt32 × Command) :=
  if message.length < headerLength then .error (.tooShort headerLength message.length)
  else
    let outer := Bytes.toWord32 ((message.drop 24).take 4)
    let size := Bytes.toNat ((message.drop 28).take 2)
    if message.length < headerLength + size then
      .error (.tooShort (headerLength + size) message.length)
    else
      match SecretBox.decrypt? shared.key.bytes (message.take nonceLength)
          ((message.drop headerLength).take size) with
      | some content => decodeContent outer content
      | none => .error .decryptionFailed

end Latchkey.Sealed
