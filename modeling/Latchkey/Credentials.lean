import Latchkey.Json.Document
import Latchkey.Key

/-!
# Credentials

What a client has to keep in order to be recognised by a device it was paired with.
-/

namespace Latchkey

/-- The authorization a device assigned, the secret key of the client and the public key of the device. -/
@[ext] structure Credentials where
  authorization : UInt32
  clientSecret : Key
  devicePublic : Key
deriving DecidableEq

namespace Credentials

def keyPair (c : Credentials) : KeyPair := ⟨c.clientSecret⟩

def clientPublic (c : Credentials) : Key := c.keyPair.publicKey

/-- The key that seals the messages of the user channel. -/
def sharedKey (c : Credentials) : SharedKey := c.keyPair.sharedKey c.devicePublic

def toJson (c : Credentials) : Json := Json.record [
  ("authorization_id", .nat c.authorization.toNat),
  ("client_secret_key", .text c.clientSecret.hex),
  ("device_public_key", .text c.devicePublic.hex)]

def ofJson? (document : Json) : Option Credentials := do
  let [some authorization, some clientSecret, some devicePublic] ←
    document.fields? ["authorization_id", "client_secret_key", "device_public_key"] | none
  return {
    authorization := ← authorization.word32?
    clientSecret := ← clientSecret.text? >>= Key.ofHex?
    devicePublic := ← devicePublic.text? >>= Key.ofHex? }

def parse (text : String) : Option Credentials := (Json.parse text).bind ofJson?

def debug (c : Credentials) : String :=
  s!"Credentials \x7b authorization_id: {c.authorization}, client_secret_key: \"[REDACTED]\", " ++
    "device_public_key: \"" ++ c.devicePublic.hex ++ "\" \x7d"

end Credentials

end Latchkey
