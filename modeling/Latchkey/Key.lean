import Latchkey.Cipher.Curve25519
import Latchkey.Cipher.Sha256
import Latchkey.Cipher.SecretBox
import Latchkey.WireError

/-!
# Keys

A client owns a key pair. Together with the public key of a device it yields the key that both share, which
authenticates the messages of pairing and seals those of the user channel.
-/

namespace Latchkey

@[ext] structure Key where
  bytes : Bytes
  length_bytes : bytes.length = 32
deriving DecidableEq

namespace Key

def ofBytes? (bytes : Bytes) : Option Key :=
  if h : bytes.length = 32 then some ⟨bytes, h⟩ else none

def ofHex? (text : String) : Option Key := (Bytes.ofHex? text).bind ofBytes?

def hex (key : Key) : String := Bytes.toHex key.bytes

end Key

@[ext] structure SharedKey where
  key : Key
deriving DecidableEq

namespace SharedKey

def authenticate (shared : SharedKey) (parts : List Bytes) : Bytes :=
  Hmac.tag shared.key.bytes parts.flatten

/-- Refuses a tag that is not the keyed digest of the parts. -/
def verify (shared : SharedKey) (parts : List Bytes) (tag : Bytes) : Except WireError Unit :=
  if shared.authenticate parts = tag then .ok () else .error .authenticatorMismatch

/-- A shared key is never shown. -/
def debug (_ : SharedKey) : String := "SharedKey([REDACTED])"

@[simp] theorem length_authenticate (shared : SharedKey) (parts : List Bytes) :
    (shared.authenticate parts).length = 32 := Hmac.length_tag ..

end SharedKey

@[ext] structure KeyPair where
  secretKey : Key
deriving DecidableEq

namespace KeyPair

def ofSecret (secret : Bytes) : Except WireError KeyPair :=
  match Key.ofBytes? secret with
  | some key => .ok ⟨key⟩
  | none => .error (.invalidKeyLength 32 secret.length)

def publicKey (pair : KeyPair) : Key :=
  ⟨Curve25519.multiply pair.secretKey.bytes Curve25519.basePoint, Curve25519.length_multiply ..⟩

def sharedKey (pair : KeyPair) (other : Key) : SharedKey :=
  let point := Curve25519.multiply pair.secretKey.bytes other.bytes
  ⟨⟨Salsa20.hash point (List.replicate 16 0), Salsa20.length_hash ..⟩⟩

/-- The pair without its secret. -/
def debug (pair : KeyPair) : String :=
  "KeyPair \x7b public: \"" ++ pair.publicKey.hex ++ "\", secret: \"[REDACTED]\" \x7d"

end KeyPair

end Latchkey
