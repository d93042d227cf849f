import Latchkey.Report.Reply
import Latchkey.Sealed
import Latchkey.Session.Basic
import Latchkey.Text.Utf8

/-!
# Pairing

Client and device exchange their public keys, prove to each other that they know the key these yield, and
the device assigns an authorization. Each proof is the keyed digest of the fields it accompanies and of the
latest nonce of the other side.
-/

namespace Latchkey

inductive ClientKind where
  | app | bridge | fob | keypad
deriving DecidableEq, Repr

instance : Vocabulary UInt8 ClientKind where
  words := [.app, .bridge, .fob, .keypad]
  code
    | .app => 0x00 | .bridge => 0x01 | .fob => 0x02 | .keypad => 0x03
  label
    | .app => "App" | .bridge => "Bridge" | .fob => "Fob" | .keypad => "Keypad"

namespace Pairing

def nameLength : Nat := 32

def nonceLength : Nat := 32

/-- Proves knowledge of the shared key: the digest of both public keys and the challenge. -/
def authenticator (pair : KeyPair) (device : Key) (challenge : Bytes) : Command :=
  let tag := (pair.sharedKey device).authenticate [pair.publicKey.bytes, device.bytes, challenge]
  .of (.known .authorizationAuthenticator) tag

structure Applicant where
  kind : ByteCode ClientKind
  id : UInt32
  name : String

/-- The fields by which a client introduces itself: `kind ‖ id:4 ‖ name:32 ‖ nonce`. -/
def Applicant.fields (who : Applicant) (nonce : Bytes) : Bytes :=
  who.kind.code :: Bytes.ofWord32 who.id ++ Padded.encode nameLength who.name ++ nonce

/-- Introduces the client, with the digest of the introduction and the challenge in front. -/
def introduction (pair : KeyPair) (device : Key) (challenge : Bytes) (who : Applicant) (nonce : Bytes) :
    Command :=
  let fields := who.fields nonce
  .of (.known .authorizationData) ((pair.sharedKey device).authenticate [fields, challenge] ++ fields)

/-- Accepts the assigned authorization, with the digest of it and the challenge in front. -/
def confirmation (pair : KeyPair) (device : Key) (challenge : Bytes) (authorization : UInt32) :
    Command :=
  let id := Bytes.ofWord32 authorization
  .of (.known .authorizationIdConfirmation)
    ((pair.sharedKey device).authenticate [id, challenge] ++ id)

/-- Checks the device's proof, which covers the assigned authorization, the device and the nonces of both
sides. -/
def verify (report : AuthorizationReport) (shared : SharedKey) (nonce : Bytes) : Except WireError Unit :=
  shared.verify [Bytes.ofWord32 report.authorization, report.uuid, report.nonce, nonce]
    report.authenticator

end Pairing

end Latchkey

namespace Latchkey.Session

/-- Pairs with a device that is ready for it, and installs the credentials. -/
def pair (keys : KeyPair) (who : Pairing.Applicant) : Act Credentials := do
  let s ← get
  let some general := s.general | throw .notConnected
  sendStep "requesting public key" general (Request.data (.known .publicKey)).command
  let reply ← waitStep "waiting for public key" general .publicKey
  let device ← readStep "reading public key" publicKeyReport reply
  sendStep "sending public key" general (Request.publicKey keys.publicKey).command
  let reply ← waitStep "waiting for first challenge" general .challenge
  let challenge ← readStep "reading first challenge" challengeReport reply
  sendStep "sending authorization authenticator" general (Pairing.authenticator keys device challenge)
  let reply ← waitStep "waiting for second challenge" general .challenge
  let challenge ← readStep "reading second challenge" challengeReport reply
  let nonce ← Act.onAir (Radio.drawNonce Pairing.nonceLength)
  sendStep "sending authorization data" general
    (Pairing.introduction keys device challenge who nonce)
  let reply ← waitStep "waiting for authorization id" general .authorizationId
  let assigned ← readStep "reading authorization id" authorizationReport reply
  if s.options.verifyDevice then
    Act.step "verifying authorization id"
      (Act.settle ((Pairing.verify assigned (keys.sharedKey device) nonce).mapError
        fun _ => .authenticatorMismatch))
  sendStep "sending authorization id confirmation" general
    (Pairing.confirmation keys device assigned.nonce assigned.authorization)
  let reply ← waitStep "waiting for pairing status" general .status
  expectStatus "completing pairing" reply .complete
  let credentials : Credentials := {
    authorization := assigned.authorization
    clientSecret := keys.secretKey
    devicePublic := device }
  authenticate credentials
  return credentials

end Latchkey.Session
