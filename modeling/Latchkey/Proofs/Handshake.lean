import Latchkey.Proofs.Answering
import Latchkey.Proofs.Clocks
import Latchkey.Proofs.Installation

/-!
# Pairing with a device that is ready

Where client and device derive the same key from each other's public keys, each recomputes the digests of the
other from the same fields. So a device that is ready to be paired with, and does not fail, is paired with.
-/

namespace Latchkey

private theorem Channel.Served.answered_plain {ch : Channel} {exposed : List Uuid} {script : List (List Bytes)}
    {inbox : List Arrival} {s : Scene} {reply : Command} (hplain : ch.codec = .plain)
    (h : ch.Served exposed ([reply.encode] :: script) inbox s) (timeout : Span) (c : Command)
    (name : CommandName) (hcarries : reply.Carries (.known name)) :
    ∃ s', ch.Answered timeout c name reply s s' ∧ ch.Wrote [c.encode] s s' ∧ s'.nonces = s.nonces ∧
      ch.Served exposed script [] s' := by
  have hencode : ch.codec.encode c s.nonces = (.ok c.encode, s.nonces) := by
    rw [hplain]
    rfl
  have hdecode : ch.codec.decode reply.encode = .ok reply := by
    rw [hplain, Codec.decode, Command.decode_encode]
    rfl
  have hanswered := h.answered (c := c) timeout (congrArg Prod.fst hencode) hdecode hcarries
  rw [hencode] at hanswered
  exact hanswered

namespace Pairing

/-- A device that is ready to be paired with, and what it is going to send. -/
structure Partner where
  keys : KeyPair
  first : Bytes
  second : Bytes
  authorization : UInt32
  uuid : Bytes
  nonce : Bytes
  length_first : first.length = 32
  length_second : second.length = 32
  length_uuid : uuid.length = 16
  length_nonce : nonce.length = 32

namespace Partner

/-- The key that the device derives for a client. -/
def shared (partner : Partner) (client : Key) : SharedKey := partner.keys.sharedKey client

/-- What the device assigns: `authorization:4 ‖ uuid:16 ‖ nonce:32`. -/
def fields (partner : Partner) : Bytes :=
  Bytes.ofWord32 partner.authorization ++ (partner.uuid ++ partner.nonce)

/-- The assignment, with the digest of it and of the nonce of the client in front. -/
def assignment (partner : Partner) (client : Key) (nonce : Bytes) : Command :=
  .of (.known .authorizationId)
    ((partner.shared client).authenticate [partner.fields, nonce] ++ partner.fields)

/-- The replies of the device to a client with this public key and this nonce. -/
def replies (partner : Partner) (client : Key) (nonce : Bytes) : List Command := [
  .of (.known .publicKey) partner.keys.publicKey.bytes,
  .of (.known .challenge) partner.first,
  .of (.known .challenge) partner.second,
  partner.assignment client nonce,
  .of (.known .status) [(Coded.known Completion.complete : ByteCode Completion).code]]

/-- The commands that the device replies to, with the digests as it computes them itself. -/
def expected (partner : Partner) (client : Key) (who : Applicant) (nonce : Bytes) : List Command :=
  let shared := partner.shared client
  let name := who.fields nonce
  let id := Bytes.ofWord32 partner.authorization
  [ (Request.data (.known .publicKey)).command,
    (Request.publicKey client).command,
    .of (.known .authorizationAuthenticator)
      (shared.authenticate [client.bytes, partner.keys.publicKey.bytes, partner.first]),
    .of (.known .authorizationData) (shared.authenticate [name, partner.second] ++ name),
    .of (.known .authorizationIdConfirmation) (shared.authenticate [id, partner.nonce] ++ id)]

/-- The course of a pairing in which the client has introduced itself with `nonce` and the digest of the device
covers the nonce `covered`. -/
def course (partner : Partner) (keys : KeyPair) (who : Applicant) (nonce covered : Bytes) : Course where
  publicKey := .of (.known .publicKey) partner.keys.publicKey.bytes
  first := .of (.known .challenge) partner.first
  second := .of (.known .challenge) partner.second
  introduction := introduction keys partner.keys.publicKey partner.second who nonce
  assignment := partner.assignment keys.publicKey covered

/-- What the client has of the device when the pairing is complete. -/
def grant (partner : Partner) (keys : KeyPair) (who : Applicant) (nonce : Bytes) : Grant where
  device := partner.keys.publicKey
  course := partner.course keys who nonce nonce
  report := {
    authenticator := (partner.shared keys.publicKey).authenticate [partner.fields, nonce]
    authorization := partner.authorization
    uuid := partner.uuid
    nonce := partner.nonce }
  outcome := .of (.known .status) [(Coded.known Completion.complete : ByteCode Completion).code]

section Agreement

variable {partner : Partner} {keys : KeyPair} {who : Applicant} {nonce covered : Bytes}

private theorem read_assignment (partner : Partner) (keys : KeyPair) (who : Applicant) (nonce : Bytes) :
    authorizationReport.read (partner.grant keys who nonce).course.assignment =
      .ok (partner.grant keys who nonce).report :=
  authorizationReport_of _ partner.authorization partner.uuid partner.nonce (by simp) partner.length_uuid

theorem proved_iff (hagree : keys.sharedKey partner.keys.publicKey = partner.shared keys.publicKey) :
    (partner.course keys who nonce covered).Proved keys partner.keys.publicKey ↔
      (partner.shared keys.publicKey).authenticate [partner.fields, covered] =
        (partner.shared keys.publicKey).authenticate [partner.fields, nonce] := by
  have htag : ((partner.shared keys.publicKey).authenticate [partner.fields, covered]).length = 32 :=
    SharedKey.length_authenticate ..
  have hdigest : Hmac.tag (partner.shared keys.publicKey).key.bytes (partner.fields ++ nonce) =
      (partner.shared keys.publicKey).authenticate [partner.fields, nonce] := by
    simp [SharedKey.authenticate]
  rw [Course.Proved]
  simp only [course, introduction_nonce, hagree, assignment, Command.of, List.take_left' htag,
    List.drop_left' htag, hdigest]

private theorem commands_eq (hagree : keys.sharedKey partner.keys.publicKey = partner.shared keys.publicKey) :
    (partner.course keys who nonce nonce).commands keys partner.keys.publicKey ++
        [(partner.grant keys who nonce).confirmation keys] =
      partner.expected keys.publicKey who nonce := by
  simp only [Course.commands, Grant.confirmation, grant, course, authenticator, introduction, confirmation, hagree,
    expected, Command.of, List.cons_append, List.nil_append]

end Agreement

/-- The script of the device, one message in each reply. -/
def script (partner : Partner) (client : Key) (nonce : Bytes) : List (List Bytes) :=
  (partner.replies client nonce).map fun reply => [reply.encode]

section Course

variable {partner : Partner} {keys : KeyPair} {nonce covered : Bytes} {general : Channel} {exposed : List Uuid}
  {later : List (List Bytes)} {inbox : List Arrival}

/-- The client goes through the course with a device that is ready, whichever nonce the device has answered to, and
the report that the pairing is complete is still to come. -/
theorem ran (who : Applicant) (timeout : Span) {s : Scene} (hplain : general.codec = .plain)
    (hnonce : (s.nonces.draw nonceLength).1 = nonce)
    (hserved : general.Served exposed (partner.script keys.publicKey covered ++ later) inbox s) :
    ∃ s', (partner.course keys who nonce covered).Ran keys who general timeout s s' partner.keys.publicKey ∧
      general.Wrote (((partner.course keys who nonce covered).commands keys partner.keys.publicKey).map
        Command.encode) s s' ∧
      general.Served exposed ([(partner.grant keys who nonce).outcome.encode] :: later) [] s' := by
  have hintroduction : (partner.course keys who nonce covered).introduction =
      introduction keys partner.keys.publicKey partner.second who nonce := rfl
  obtain ⟨s₁, hkey, hwrote₁, hnonces₁, hserved₁⟩ := hserved.answered_plain hplain timeout
    (Request.data (.known .publicKey)).command .publicKey rfl
  obtain ⟨s₂, hfirst, hwrote₂, hnonces₂, hserved₂⟩ := hserved₁.answered_plain hplain timeout
    (Request.publicKey keys.publicKey).command .challenge rfl
  obtain ⟨s₃, hsecond, hwrote₃, hnonces₃, hserved₃⟩ := hserved₂.answered_plain hplain timeout
    (authenticator keys partner.keys.publicKey partner.first) .challenge rfl
  have hdrawn : (s₃.nonces.draw nonceLength).1 = nonce := by
    rw [hnonces₃, hnonces₂, hnonces₁, hnonce]
  have hserved₃' : general.Served exposed _ [] { s₃ with nonces := (s₃.nonces.draw nonceLength).2 } :=
    ⟨hserved₃.link_lt, hserved₃.ready, hserved₃.tidy, hserved₃.waiting⟩
  have hwrote₃' := general.wrote_of_quiet (Radio.quiet_drawNonce nonceLength s₃)
  obtain ⟨s₄, hassigned, hwrote₄, -, hserved₄⟩ := hserved₃'.answered_plain hplain timeout
    (introduction keys partner.keys.publicKey partner.second who nonce) .authorizationId rfl
  refine ⟨s₄, ⟨?_, ?_, ?_, s₁, s₂, s₃, hkey, hfirst, hsecond, ?_, hassigned⟩, ?_, hserved₄⟩
  · exact (List.take_of_length_le (Nat.le_of_eq partner.keys.publicKey.length_bytes)).symm
  · exact Nat.le_of_eq partner.length_first.symm
  · exact Nat.le_of_eq partner.length_second.symm
  · rw [hintroduction, hdrawn]
    rfl
  · exact hwrote₁.trans (hwrote₂.trans (hwrote₃.trans (hwrote₃'.trans hwrote₄)))

/-- A device that is ready goes through the pairing with the client until it reports it complete. -/
theorem received {s : Session} (who : Applicant)
    (hagree : keys.sharedKey partner.keys.publicKey = partner.shared keys.publicKey)
    (hgeneral : s.general = some general) (hplain : general.codec = .plain)
    (hnonce : (s.scene.nonces.draw nonceLength).1 = nonce)
    (hserved : general.Served exposed (partner.script keys.publicKey nonce ++ later) inbox s.scene) :
    ∃ scene, (partner.grant keys who nonce).Received keys who s general scene ∧
      general.Wrote ((partner.expected keys.publicKey who nonce).map Command.encode) s.scene scene ∧
      general.Served exposed later [] scene := by
  obtain ⟨assigned, hran, hwrote, hserved'⟩ := partner.ran who s.options.timeout hplain hnonce hserved
  obtain ⟨scene, hcompleted, hwrote', -, hserved''⟩ := hserved'.answered_plain hplain s.options.timeout
    ((partner.grant keys who nonce).confirmation keys) .status rfl
  refine ⟨scene, ⟨hgeneral, partner.read_assignment keys who nonce, fun _ => (proved_iff hagree).mpr rfl, rfl,
    assigned, hran, hcompleted⟩, ?_, hserved''⟩
  have hboth := hwrote.trans hwrote'
  rw [← List.map_singleton, ← List.map_append, commands_eq hagree] at hboth
  exact hboth

end Course

end Partner

end Pairing

namespace Session

variable {s : Session} {link : Nat}

private theorem authenticate_works (c : Credentials) (hlink : s.link = some link)
    (hworks : (s.scene.link link).failing = [])
    (hexposes : ∃ profile ∈ Profile.all, profile.user ∈ (s.scene.link link).exposed) :
    (authenticate c s).1 = .ok () := by
  obtain ⟨hexposed, hfailing⟩ := sameDevices_scenic.keeps_withoutUser s link
  have hfound : (Profile.find? (s.withoutUser.link link).exposed .user).isSome := by
    obtain ⟨profile, hprofile, huser⟩ := hexposes
    rw [Profile.find?, List.find?_isSome, hexposed]
    exact ⟨profile, hprofile, decide_eq_true huser⟩
  obtain ⟨profile, hprofile⟩ := Option.isSome_iff_exists.mp hfound
  have hsubscribes : Operation.subscribe ∉ (s.withoutUser.link link).failing := by
    rw [hfailing, hworks]
    exact List.not_mem_nil
  rw [authenticate_eq, if_pos (Option.isSome_of_eq_some hlink)]
  obtain ⟨user, hrun⟩ := openUser_works (s := { s with
    user := none, credentials := some c, scene := s.withoutUser }) hlink rfl hsubscribes hprofile
  rw [hrun]

/-- Where the user channel can be opened, what has been granted is installed and pairing succeeds. -/
theorem pair_of_received_works {keys : KeyPair} {who : Pairing.Applicant} {grant : Pairing.Grant}
    {general : Channel} {scene : Scene} (hreceived : grant.Received keys who s general scene)
    (hlink : s.link = some general.link) (hworks : (scene.link general.link).failing = [])
    (hexposes : ∃ profile ∈ Profile.all, profile.user ∈ (scene.link general.link).exposed) :
    ∃ after, pair keys who s = (.ok (grant.credentials keys), after) ∧
      after.credentials = some (grant.credentials keys) ∧ after.user.isSome ∧ scene.Quiet after.scene := by
  let completed : Session := { s with scene }
  have hinstalled : authenticate (grant.credentials keys) completed =
      (.ok (), (authenticate (grant.credentials keys) completed).2) :=
    Prod.ext (authenticate_works (s := completed) _ hlink hworks hexposes) rfl
  have hlinked : completed.link.isSome := Option.isSome_of_eq_some hlink
  have hquiet := hushed_authenticate (grant.credentials keys) completed
  refine ⟨_, (pair_of_received hreceived).trans (run_bind_ok hinstalled), ?_, ?_, hquiet⟩
  · exact (authenticate_cases _ hlinked).1
  · obtain ⟨-, ⟨-, huser⟩ | ⟨⟨e, herror⟩, -⟩⟩ := authenticate_cases (grant.credentials keys) hlinked
    · exact huser
    · rw [hinstalled] at herror
      cases herror

end Session

/-- A client is paired with a device that is ready, derives the same key as the client and does not fail:
afterwards it has the credentials that the device has assigned, and the user channel is open. It has then
sent exactly the five commands that the device expected, with the digests that the device computes itself. By a clock
its waits are what they are here if the clock can show when their time is up; otherwise there are none. -/
theorem pair_completes {s : Session} (hs : Reachable s) {keys : KeyPair} (who : Pairing.Applicant)
    {partner : Pairing.Partner}
    (hagree : keys.sharedKey partner.keys.publicKey = partner.keys.sharedKey keys.publicKey)
    {general : Channel} (hgeneral : s.general = some general) (hopen : general.Open s.scene)
    (hidle : (general.unfinished s.scene).pending = 0)
    (hworks : (s.scene.link general.link).failing = [])
    (hexposes : ∃ profile ∈ Profile.all, profile.user ∈ (s.scene.link general.link).exposed)
    {later : List (List Bytes)} (hscript : (s.scene.link general.link).script =
      partner.script keys.publicKey (s.scene.nonces.draw Pairing.nonceLength).1 ++ later)
    {cancelAt : Option Nat} (hcancel : cancelAt ≠ some 0) (agenda : List Appointment) :
    let before := s.begin cancelAt agenda
    let outcome := Session.pair keys who before
    let nonce := (s.scene.nonces.draw Pairing.nonceLength).1
    let credentials : Credentials :=
      { authorization := partner.authorization
        clientSecret := keys.secretKey
        devicePublic := partner.keys.publicKey }
    outcome.1 = .ok credentials ∧
      outcome.2.credentials = some credentials ∧ outcome.2.user.isSome ∧
      general.Wrote ((partner.expected keys.publicKey who nonce).map Command.encode)
        before.scene outcome.2.scene ∧
      ∀ (r : ClockReading) (id : CommandId) (t : Scene), general.waitForBy? r id s.options.timeout t =
        if r.total + s.options.timeout.nanoseconds < ClockReading.limit
        then some (general.waitFor id s.options.timeout t) else none := by
  intro before outcome nonce credentials
  have hsound : before.Sound := Session.sound_begin cancelAt agenda (Session.sound_of_reachable hs)
  have hlink : s.link = some general.link := by
    rw [Session.linked_of_reachable hs, hgeneral]
    rfl
  obtain ⟨hlt, hplain⟩ := hsound.general general hgeneral
  have hserved := hopen.served (s := before.scene) hidle hworks hsound.tidy (decide_eq_false hcancel)
  have hreplies : (before.scene.link general.link).script =
      partner.script keys.publicKey nonce ++ later := hscript
  rw [hreplies] at hserved
  obtain ⟨scene, hreceived, hwrote, hleft⟩ :=
    partner.received (s := before) who hagree hgeneral hplain rfl hserved
  have hexposes' : ∃ profile ∈ Profile.all, profile.user ∈ (scene.link general.link).exposed := by
    rw [hleft.ready.exposes]
    exact hexposes
  obtain ⟨after, hrun, hcredentials, huser, hquiet⟩ :=
    Session.pair_of_received_works hreceived hlink hleft.ready.works hexposes'
  have houtcome : outcome = (.ok credentials, after) := hrun
  have hsent := hwrote.trans (general.wrote_of_quiet hquiet)
  rw [List.append_nil] at hsent
  rw [houtcome]
  exact ⟨rfl, hcredentials, huser, hsent, fun r id t => general.waitForBy?_eq r id s.options.timeout t⟩

/-- A client without credentials that has just connected to a lock with this script. -/
def Session.beforeLock (script : List (List Bytes)) (nonces : Nonces) : Session :=
  let lock : Peripheral := { exposed := [Profile.smartLock.general, Profile.smartLock.user], script }
  (Event.call none [] (.connect 0)).apply { options := {}, scene := { links := [lock], nonces } }

theorem reachable_beforeLock (script : List (List Bytes)) (nonces : Nonces) :
    Reachable (Session.beforeLock script nonces) := by
  exact (@Reachable.start {} _ _ (Scene.unused_alone _ script nonces) rfl).event (.call none [] (.connect 0))

theorem beforeLock_spec (script : List (List Bytes)) (nonces : Nonces) :
    let s := Session.beforeLock script nonces
    s.scene.nonces = nonces ∧ ∃ general, s.general = some general ∧ general.Open s.scene ∧
      (general.unfinished s.scene).pending = 0 ∧ (s.scene.link general.link).failing = [] ∧
      Profile.smartLock.user ∈ (s.scene.link general.link).exposed ∧
      (s.scene.link general.link).script = script := by
  intro s
  refine ⟨rfl, ⟨0, Profile.smartLock.general, .smartLock, .plain⟩, rfl, ?_, rfl, rfl, ?_, rfl⟩
  · exact Channel.open_opened Nat.zero_lt_one
  · exact List.mem_cons_of_mem _ List.mem_cons_self

/-- A visitor with a key of their own is paired with a lock. -/
theorem pair_completes_beforeLock :
    let keys : KeyPair := ⟨⟨List.replicate 32 1, rfl⟩⟩
    let who : Pairing.Applicant := { kind := .known .app, id := 1, name := "visitor" }
    let partner : Pairing.Partner :=
      { keys := ⟨⟨List.replicate 32 2, rfl⟩⟩
        first := List.replicate 32 0x11
        second := List.replicate 32 0x22
        authorization := 7
        uuid := List.replicate 16 0x33
        nonce := List.replicate 32 0x44
        length_first := rfl
        length_second := rfl
        length_uuid := rfl
        length_nonce := rfl }
    let nonces : Nonces := { bytes := [0x55] }
    let s := Session.beforeLock
      (partner.script keys.publicKey (nonces.draw Pairing.nonceLength).1) nonces
    Reachable s ∧ keys.sharedKey partner.keys.publicKey = partner.keys.sharedKey keys.publicKey ∧
      (∃ general, s.general = some general ∧ general.Open s.scene ∧
        (general.unfinished s.scene).pending = 0) ∧
      (Session.pair keys who (s.begin none [])).1 = .ok {
        authorization := 7, clientSecret := keys.secretKey, devicePublic := partner.keys.publicKey } ∧
      (Session.pair keys who (s.begin none [])).2.user.isSome := by
  intro keys who partner nonces s
  have hs : Reachable s := reachable_beforeLock _ nonces
  have hagree : keys.sharedKey partner.keys.publicKey = partner.keys.sharedKey keys.publicKey := by
    decide +kernel
  obtain ⟨hnonces, general, hgeneral, hopen, hidle, hworks, huser, hscript⟩ := beforeLock_spec
    (partner.script keys.publicKey (nonces.draw Pairing.nonceLength).1) nonces
  have hreplies : (s.scene.link general.link).script =
      partner.script keys.publicKey (s.scene.nonces.draw Pairing.nonceLength).1 ++ [] := by
    rw [List.append_nil, hscript, hnonces]
  have hwaiting : (none : Option Nat) ≠ some 0 := by decide
  obtain ⟨hok, -, huser, -⟩ := pair_completes hs who hagree hgeneral hopen hidle hworks
    ⟨Profile.smartLock, List.mem_cons_self, huser⟩ hreplies hwaiting []
  exact ⟨hs, hagree, ⟨general, hgeneral, hopen, hidle⟩, hok, huser⟩

end Latchkey
