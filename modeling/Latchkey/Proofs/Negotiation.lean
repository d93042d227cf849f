import Latchkey.Proofs.Conversations

/-!
# Negotiating an authorization

Pairing falls into two parts. In the first, client and device exchange keys and challenges until the device
assigns an authorization; in the second, the client checks what it has been assigned, confirms it and
installs the credentials.
-/

namespace Latchkey.Session

/-- What a client has when it has been assigned an authorization. -/
structure Assigned where
  device : Key
  report : AuthorizationReport
  nonce : Bytes

/-- The part of pairing in which the device assigns an authorization. -/
def negotiate (keys : KeyPair) (who : Pairing.Applicant) (general : Channel) : Act Assigned := do
  let device ← exchange "requesting public key" "waiting for public key" "reading public key"
    publicKeyReport general (Request.data (.known .publicKey)).command
  let challenge ← exchange "sending public key" "waiting for first challenge" "reading first challenge"
    challengeReport general (Request.publicKey keys.publicKey).command
  let challenge ← exchange "sending authorization authenticator" "waiting for second challenge"
    "reading second challenge" challengeReport general (Pairing.authenticator keys device challenge)
  let nonce ← Act.onAir (Radio.drawNonce Pairing.nonceLength)
  let report ← exchange "sending authorization data" "waiting for authorization id"
    "reading authorization id" authorizationReport general
    (Pairing.introduction keys device challenge who nonce)
  return { device, report, nonce }

/-- What a client does when it has confirmed an authorization. -/
def complete (keys : KeyPair) (general : Channel) (assigned : Assigned) : Act Credentials := do
  let reply ← waitStep "waiting for pairing status" general .status
  expectStatus "completing pairing" reply .complete
  let credentials : Credentials := {
    authorization := assigned.report.authorization
    clientSecret := keys.secretKey
    devicePublic := assigned.device }
  authenticate credentials
  return credentials

/-- The part of pairing in which the client confirms what it has been assigned. -/
def confirm (keys : KeyPair) (general : Channel) (assigned : Assigned) : Act Credentials := do
  sendStep "sending authorization id confirmation" general
    (Pairing.confirmation keys assigned.device assigned.report.nonce assigned.report.authorization)
  complete keys general assigned

/-- Checks that the device knows the shared key. -/
def verifyAssigned (keys : KeyPair) (assigned : Assigned) : Act Unit :=
  Act.step "verifying authorization id"
    (Act.settle ((Pairing.verify assigned.report (keys.sharedKey assigned.device) assigned.nonce).mapError
      fun _ => .authenticatorMismatch))

theorem pair_of_none {keys : KeyPair} {who : Pairing.Applicant} {s : Session} (h : s.general = none) :
    pair keys who s = (.error .notConnected, s) := by
  rw [pair, run_bind, run_get]
  simp only [h]
  rfl

theorem pair_of_some {keys : KeyPair} {who : Pairing.Applicant} {s : Session} {general : Channel}
    (h : s.general = some general) :
    pair keys who s = (do
      let assigned ← negotiate keys who general
      if s.options.verifyDevice then verifyAssigned keys assigned
      confirm keys general assigned) s := by
  rw [pair, run_bind, run_get]
  simp only [h, negotiate, exchange, bind_assoc, pure_bind]
  rfl

/-- Pairing up to the point where the credentials can be installed. -/
def enrol (keys : KeyPair) (who : Pairing.Applicant) (verifies : Bool) (general : Channel) :
    Act Credentials := do
  let assigned ← negotiate keys who general
  if verifies then verifyAssigned keys assigned
  sendStep "sending authorization id confirmation" general
    (Pairing.confirmation keys assigned.device assigned.report.nonce assigned.report.authorization)
  let reply ← waitStep "waiting for pairing status" general .status
  expectStatus "completing pairing" reply .complete
  return {
    authorization := assigned.report.authorization
    clientSecret := keys.secretKey
    devicePublic := assigned.device }

theorem pair_eq {keys : KeyPair} {who : Pairing.Applicant} {s : Session} {general : Channel}
    (h : s.general = some general) :
    pair keys who s = (do
      let credentials ← enrol keys who s.options.verifyDevice general
      authenticate credentials
      return credentials) s := by
  rw [pair_of_some h, enrol]
  cases s.options.verifyDevice with
  | false => simp [confirm, complete]
  | true => simp [confirm, complete]

private theorem conversation_negotiate (keys : KeyPair) (who : Pairing.Applicant) (general : Channel) :
    Conversation true none general false true (negotiate keys who general) := by
  apply Conversation.bind (.exchange _ _ _ _ _)
  intro device
  apply Conversation.bind (.exchange _ _ _ _ _)
  intro challenge
  apply Conversation.bind (.exchange _ _ _ _ _)
  intro challenge
  apply Conversation.bind (.draw rfl true _)
  intro nonce
  exact .bind (.exchange _ _ _ _ _) fun report => .pure true _

theorem conversation_enrol (keys : KeyPair) (who : Pairing.Applicant) (verifies : Bool)
    (general : Channel) : Conversation true none general false true (enrol keys who verifies general) := by
  apply Conversation.bind (conversation_negotiate keys who general)
  intro assigned
  have hverify : Conversation true none general true true (verifyAssigned keys assigned) := by
    apply Conversation.settle
    intro e he
    obtain ⟨_, -, rfl⟩ := exists_of_mapError he
    trivial
  have hconfirm : Conversation true none general true true (do
      sendStep "sending authorization id confirmation" general
        (Pairing.confirmation keys assigned.device assigned.report.nonce assigned.report.authorization)
      let reply ← waitStep "waiting for pairing status" general .status
      expectStatus "completing pairing" reply .complete
      return ({
        authorization := assigned.report.authorization
        clientSecret := keys.secretKey
        devicePublic := assigned.device } : Credentials)) := by
    apply Conversation.send_wait
    intro reply
    exact .bind (.expectStatus _ reply _) fun _ => .pure true _
  dsimp only
  split
  · exact .bind hverify fun _ => hconfirm
  · exact hconfirm

section Frames

variable {R : Session → Session → Prop}

theorem keeps_complete (hR : Attentive R) (hauthenticate : ∀ c, Keeps R (authenticate c)) (keys : KeyPair)
    (general : Channel) (assigned : Assigned) : Keeps R (complete keys general assigned) := by
  refine keeps_waitStep_bind hR _ general _ fun reply => ?_
  refine hR.lasting.bind (keeps_expectStatus hR.lasting _ reply _) fun _ => ?_
  exact hR.lasting.bind (hauthenticate _) fun _ => hR.lasting.pure _

theorem keeps_pair (hR : Talkative R) (hauthenticate : ∀ c, Keeps R (authenticate c)) (keys : KeyPair)
    (who : Pairing.Applicant) : Keeps R (pair keys who) := by
  intro s
  cases hgeneral : s.general with
  | none =>
    rw [pair_of_none hgeneral]
    exact hR.lasting.refl s
  | some general =>
    have henrol : Keeps R (enrol keys who s.options.verifyDevice general) := fun s =>
      (conversation_enrol keys who _ general).keeps hR (knows_none s)
    rw [pair_eq hgeneral]
    exact hR.lasting.bind henrol (fun c => hR.lasting.bind (hauthenticate c) fun _ => hR.lasting.pure c) s

end Frames

end Latchkey.Session
