import Latchkey.Proofs.Reachable

/-!
# Pairing with a device that knows the key

A client that requires the device to prove itself confirms an authorization only after the device has shown
that it knows the shared key, by the keyed digest of everything it assigned and of the nonce of the client.
-/

namespace Latchkey

theorem Command.not_carries_of {name other : CommandName} {payload : Bytes}
    (h : (Coded.known name : CommandId).code ≠ (Coded.known other : CommandId).code) :
    ¬ (Command.of (.known name) payload).Carries (.known other) := h

namespace Pairing

/-- The replies of a device up to the assignment of an authorization, and the introduction of the client in
between. -/
structure Course where
  publicKey : Command
  first : Command
  second : Command
  introduction : Command
  assignment : Command

/-- The commands by which the client leads the device through the course. -/
def Course.commands (keys : KeyPair) (device : Key) (course : Course) : List Command :=
  [(Request.data (.known .publicKey)).command, (Request.publicKey keys.publicKey).command,
    authenticator keys device course.first.payload, course.introduction]

/-- Between the two scenes the course has been gone through with a device of this public key. -/
structure Course.Ran (keys : KeyPair) (who : Applicant) (general : Channel) (timeout : Span) (s s' : Scene)
    (device : Key) (course : Course) : Prop where
  device_bytes : device.bytes = course.publicKey.payload.take 32
  first_length : 32 ≤ course.first.payload.length
  second_length : 32 ≤ course.second.payload.length
  exchanges : ∃ s₁ s₂ s₃,
    general.Answered timeout (Request.data (.known .publicKey)).command .publicKey course.publicKey s s₁ ∧
    general.Answered timeout (Request.publicKey keys.publicKey).command .challenge course.first s₁ s₂ ∧
    general.Answered timeout (authenticator keys device course.first.payload) .challenge course.second
      s₂ s₃ ∧
    course.introduction =
      Pairing.introduction keys device course.second.payload who (s₃.nonces.draw nonceLength).1 ∧
    general.Answered timeout course.introduction .authorizationId course.assignment
      { s₃ with nonces := (s₃.nonces.draw nonceLength).2 } s'

/-- The assignment carries the keyed digest of itself and of the nonce in the introduction. -/
def Course.Proved (keys : KeyPair) (device : Key) (course : Course) : Prop :=
  course.assignment.payload.take 32 = Hmac.tag (keys.sharedKey device).key.bytes
    (course.assignment.payload.drop 32 ++ course.introduction.payload.drop 69)

theorem introduction_nonce (keys : KeyPair) (device : Key) (challenge : Bytes) (who : Applicant)
    (nonce : Bytes) : (introduction keys device challenge who nonce).payload.drop 69 = nonce := by
  have hlength : ((keys.sharedKey device).authenticate [who.fields nonce, challenge] ++
      (who.kind.code :: Bytes.ofWord32 who.id ++ Padded.encode nameLength who.name)).length = 69 := by
    simp [nameLength]
  have hpayload : (introduction keys device challenge who nonce).payload =
      ((keys.sharedKey device).authenticate [who.fields nonce, challenge] ++
        (who.kind.code :: Bytes.ofWord32 who.id ++ Padded.encode nameLength who.name)) ++ nonce := by
    simp [introduction, Command.of, Applicant.fields]
  rw [hpayload, List.drop_left' hlength]

private theorem verify_of_fields {report : AuthorizationReport} {payload : Bytes} (shared : SharedKey)
    (nonce : Bytes) (hauthenticator : report.authenticator = payload.take 32)
    (hfields : Bytes.ofWord32 report.authorization ++ (report.uuid ++ report.nonce) = payload.drop 32) :
    verify report shared nonce =
      if payload.take 32 = Hmac.tag shared.key.bytes (payload.drop 32 ++ nonce) then .ok ()
      else .error .authenticatorMismatch := by
  have hparts : [Bytes.ofWord32 report.authorization, report.uuid, report.nonce, nonce].flatten =
      payload.drop 32 ++ nonce := by
    rw [← hfields]
    simp
  rw [verify, SharedKey.verify, SharedKey.authenticate, hparts, hauthenticator]
  simp only [eq_comm]

section Course

variable {keys : KeyPair} {who : Applicant} {general : Channel} {timeout : Span} {s s' : Scene}
  {device : Key} {course : Course}

theorem Course.Ran.sent (h : course.Ran keys who general timeout s s' device)
    (hlink : general.link < s.links.length) (htidy : s.Tidy) :
    general.Sent (course.commands keys device) s s' := by
  obtain ⟨s₁, s₂, s₃, hkey, hfirst, hsecond, -, hassigned⟩ := h.exchanges
  have hdrawn : s₃.Quiet { s₃ with nonces := (s₃.nonces.draw nonceLength).2 } :=
    Radio.quiet_drawNonce nonceLength s₃
  have hsent₁ := hkey.sent hlink htidy
  have hsent₂ := hsent₁.trans (hfirst.sent (by rw [hsent₁.length]; exact hlink) (hsent₁.tidy htidy))
  have hsent₃ := hsent₂.trans (hsecond.sent (by rw [hsent₂.length]; exact hlink) (hsent₂.tidy htidy))
  have hsent₃ := hsent₃.append_quiet hdrawn
  exact hsent₃.trans (hassigned.sent (by rw [hsent₃.length]; exact hlink) (hsent₃.tidy htidy))

theorem Course.Ran.carries (h : course.Ran keys who general timeout s s' device) :
    course.assignment.Carries (.known .authorizationId) := by
  obtain ⟨s₁, s₂, s₃, -, -, -, -, hassigned⟩ := h.exchanges
  exact hassigned.carries

theorem Course.Ran.nonce_length (h : course.Ran keys who general timeout s s' device) :
    (course.introduction.payload.drop 69).length = 32 := by
  obtain ⟨s₁, s₂, s₃, -, -, -, hintroduction, -⟩ := h.exchanges
  rw [hintroduction, introduction_nonce]
  exact Nonces.length_draw ..

theorem Course.Ran.confirms_nothing (h : course.Ran keys who general timeout s s' device) :
    ∀ c ∈ course.commands keys device, ¬ c.Carries (.known .authorizationIdConfirmation) := by
  obtain ⟨s₁, s₂, s₃, -, -, -, hintroduction, -⟩ := h.exchanges
  simp only [Course.commands, List.forall_mem_cons]
  refine ⟨by decide, Command.not_carries_of (by decide), Command.not_carries_of (by decide), ?_, ?_⟩
  · rw [hintroduction]
    exact Command.not_carries_of (by decide)
  · simp

end Course

end Pairing

namespace Session

variable {α β : Type} {s : Session} {general : Channel}

/-- The act has failed, and what it has sent so far confirms nothing. -/
def Broke (general : Channel) (s : Session) (outcome : Except Failure α × Session) : Prop :=
  ∃ e commands scene, outcome = (.error e, { s with scene }) ∧
    general.Sent commands s.scene scene ∧
    ∀ c ∈ commands, ¬ c.Carries (.known .authorizationIdConfirmation)

private theorem Broke.after {scene : Scene} {c : Command} {outcome : Except Failure α × Session}
    (hsent : general.Sent [c] s.scene scene) (hc : ¬ c.Carries (.known .authorizationIdConfirmation))
    (h : Broke general { s with scene } outcome) : Broke general s outcome := by
  obtain ⟨e, commands, scene', houtcome, hsent', hcommands⟩ := h
  refine ⟨e, c :: commands, scene', houtcome, hsent.trans hsent', ?_⟩
  intro d hd
  rcases List.mem_cons.mp hd with rfl | hd
  · exact hc
  · exact hcommands d hd

private theorem exchange_bind (sending waiting reading : String) (layout : Layout α) (c : Command)
    (next : α → Act β) (hlink : general.link < s.scene.links.length) (htidy : s.scene.Tidy)
    (hc : ¬ c.Carries (.known .authorizationIdConfirmation)) :
    Broke general s ((exchange sending waiting reading layout general c >>= next) s) ∨
      ∃ reply report scene, (exchange sending waiting reading layout general c >>= next) s =
          next report { s with scene } ∧
        general.Answered s.options.timeout c layout.name reply s.scene scene ∧
        layout.read reply = .ok report ∧
        general.Sent [c] s.scene scene ∧ general.link < scene.links.length ∧ scene.Tidy := by
  rcases exchange_cases sending waiting reading layout c hlink htidy with
    ⟨e, commands, scene, hrun, hcommands, hsent⟩ | ⟨reply, report, scene, hrun, hanswered, hread, hsent⟩
  · rw [run_bind_error hrun]
    refine .inl ⟨e, commands, scene, rfl, hsent, fun d hd => ?_⟩
    rw [List.mem_singleton.mp (hcommands.subset hd)]
    exact hc
  · refine .inr ⟨reply, report, scene, run_bind_ok hrun, hanswered, hread, hsent, ?_, hsent.tidy htidy⟩
    rw [hsent.length]
    exact hlink

section Negotiation

open Pairing (Course)

variable {keys : KeyPair} {who : Pairing.Applicant} {device : Key} {course : Course} {scene : Scene}

private theorem negotiate_of_ran
    (h : course.Ran keys who general s.options.timeout s.scene scene device) :
    negotiate keys who general s =
      (match authorizationReport.read course.assignment with
        | .ok report => .ok ⟨device, report, course.introduction.payload.drop 69⟩
        | .error e => .error (.during "reading authorization id" (.wire e)), { s with scene }) := by
  obtain ⟨s₁, s₂, s₃, hkey, hfirst, hsecond, hintroduction, hassigned⟩ := h.exchanges
  have hkeyRead := (publicKeyReport_read hkey.carries).mpr h.device_bytes
  have hfirstRead := (challengeReport_read hfirst.carries).mpr ⟨h.first_length, rfl⟩
  have hsecondRead := (challengeReport_read hsecond.carries).mpr ⟨h.second_length, rfl⟩
  have hnonce : course.introduction.payload.drop 69 = (s₃.nonces.draw Pairing.nonceLength).1 := by
    rw [hintroduction, Pairing.introduction_nonce]
  have hdrawn : Act.onAir (Radio.drawNonce Pairing.nonceLength) { s with scene := s₃ } =
      (.ok (s₃.nonces.draw Pairing.nonceLength).1,
        { s with scene := { s₃ with nonces := (s₃.nonces.draw Pairing.nonceLength).2 } }) := by
    rw [Act.run_onAir, Radio.run_drawNonce]
  rw [negotiate, run_bind_ok (exchange_of_read _ _ _ publicKeyReport hkey hkeyRead),
    run_bind_ok (exchange_of_read (s := { s with scene := s₁ }) _ _ _ challengeReport hfirst hfirstRead),
    run_bind_ok (exchange_of_read (s := { s with scene := s₂ }) _ _ _ challengeReport hsecond hsecondRead),
    run_bind_ok hdrawn, ← hintroduction, run_bind, hnonce]
  rw [exchange_of_answered (s := { s with scene := { s₃ with
    nonces := (s₃.nonces.draw Pairing.nonceLength).2 } }) _ _ _ authorizationReport hassigned]
  cases authorizationReport.read course.assignment with
  | ok report => rfl
  | error e => rfl

theorem negotiate_cases (keys : KeyPair) (who : Pairing.Applicant)
    (hlink : general.link < s.scene.links.length) (htidy : s.scene.Tidy) :
    Broke general s (negotiate keys who general s) ∨
      ∃ device course scene, Course.Ran keys who general s.options.timeout s.scene scene device course ∧
        52 ≤ course.assignment.payload.length := by
  -- Where an exchange breaks off, what has been sent is what the exchanges before it sent.
  rw [negotiate]
  rcases exchange_bind "requesting public key" "waiting for public key" "reading public key"
      publicKeyReport (Request.data (.known .publicKey)).command _ hlink htidy (by decide) with
    hbroke | ⟨publicKey, device, s₁, hrun, hkey, hkeyRead, hsent₁, hlink₁, htidy₁⟩
  · exact .inl hbroke
  rw [hrun]
  rcases exchange_bind (s := { s with scene := s₁ }) "sending public key" "waiting for first challenge"
      "reading first challenge" challengeReport (Request.publicKey keys.publicKey).command _ hlink₁ htidy₁
      (Command.not_carries_of (by decide)) with
    hbroke | ⟨first, challenge, s₂, hrun, hfirst, hfirstRead, hsent₂, hlink₂, htidy₂⟩
  · exact .inl (hbroke.after hsent₁ (by decide))
  rw [hrun]
  rcases exchange_bind (s := { s with scene := s₂ }) "sending authorization authenticator"
      "waiting for second challenge" "reading second challenge" challengeReport
      (Pairing.authenticator keys device challenge) _ hlink₂ htidy₂ (Command.not_carries_of (by decide)) with
    hbroke | ⟨second, challenge', s₃, hrun, hsecond, hsecondRead, hsent₃, hlink₃, htidy₃⟩
  · refine .inl (Broke.after hsent₁ (by decide) ?_)
    exact Broke.after (s := { s with scene := s₁ }) hsent₂ (Command.not_carries_of (by decide)) hbroke
  have hdrawn : Act.onAir (Radio.drawNonce Pairing.nonceLength) { s with scene := s₃ } =
      (.ok (s₃.nonces.draw Pairing.nonceLength).1,
        { s with scene := { s₃ with nonces := (s₃.nonces.draw Pairing.nonceLength).2 } }) := by
    rw [Act.run_onAir, Radio.run_drawNonce]
  have hquiet := Radio.quiet_drawNonce Pairing.nonceLength s₃
  rw [hrun, run_bind_ok hdrawn]
  rcases exchange_bind
      (s := { s with scene := { s₃ with nonces := (s₃.nonces.draw Pairing.nonceLength).2 } })
      "sending authorization data" "waiting for authorization id" "reading authorization id"
      authorizationReport (Pairing.introduction keys device challenge' who
        (s₃.nonces.draw Pairing.nonceLength).1) _ hlink₃ htidy₃ (Command.not_carries_of (by decide)) with
    hbroke | ⟨assignment, report, s₄, -, hassigned, hread, -⟩
  · refine .inl (Broke.after hsent₁ (by decide) ?_)
    refine Broke.after (s := { s with scene := s₁ }) hsent₂ (Command.not_carries_of (by decide)) ?_
    exact Broke.after (s := { s with scene := s₂ }) (hsent₃.append_quiet hquiet)
      (Command.not_carries_of (by decide)) hbroke
  · have hfirst' := (challengeReport_read hfirst.carries).mp hfirstRead
    have hsecond' := (challengeReport_read hsecond.carries).mp hsecondRead
    -- A shorter assignment cannot be read, but it was.
    have hlong : 52 ≤ assignment.payload.length := by
      refine Nat.not_lt.mp fun hshort => ?_
      rw [authorizationReport_short hassigned.carries hshort] at hread
      cases hread
    obtain ⟨hfirstLength, rfl⟩ := hfirst'
    obtain ⟨hsecondLength, rfl⟩ := hsecond'
    refine .inr ⟨device, ⟨publicKey, first, second, _, assignment⟩, s₄, ⟨?_, hfirstLength, hsecondLength,
      s₁, s₂, s₃, hkey, hfirst, hsecond, rfl, hassigned⟩, hlong⟩
    exact (publicKeyReport_read hkey.carries).mp hkeyRead

theorem confirm_sent (keys : KeyPair) (assigned : Assigned) (hlink : general.link < s.scene.links.length)
    (htidy : s.scene.Tidy) :
    ∃ commands, general.Sent commands s.scene (confirm keys general assigned s).2.scene := by
  rw [confirm]
  rcases general.send_cases (Pairing.confirmation keys assigned.device assigned.report.nonce
    assigned.report.authorization) hlink htidy with ⟨scene, hsend, hsent⟩ | ⟨e, scene, hsend, hquiet⟩
  · rw [run_bind_ok (sendStep_of_ok _ hsend)]
    have hquiet := keeps_complete hushed_airy.attentive hushed_authenticate keys general assigned
      { s with scene }
    exact ⟨_, hsent.append_quiet hquiet⟩
  · rw [run_bind_error (sendStep_of_error _ hsend)]
    exact ⟨[], general.sent_of_quiet hquiet⟩

private theorem run_verifyAssigned {report : AuthorizationReport} {payload nonce : Bytes}
    (hauthenticator : report.authenticator = payload.take 32)
    (hfields : Bytes.ofWord32 report.authorization ++ (report.uuid ++ report.nonce) = payload.drop 32) :
    verifyAssigned keys ⟨device, report, nonce⟩ s =
      (if payload.take 32 = Hmac.tag (keys.sharedKey device).key.bytes (payload.drop 32 ++ nonce)
        then .ok () else .error (.during "verifying authorization id" .authenticatorMismatch), s) := by
  rw [verifyAssigned, Act.run_step, Act.run_settle,
    Pairing.verify_of_fields (keys.sharedKey device) nonce hauthenticator hfields]
  split <;> rfl

/-- The failure of a pairing whose assignment carries no proof. -/
def refusal (assignment : Command) : Failure :=
  if 52 ≤ assignment.payload.length then .during "verifying authorization id" .authenticatorMismatch
  else .during "reading authorization id" (.wire (.tooShort 52 assignment.payload.length))

/-- A pairing whose assignment carries no proof ends there. -/
theorem pair_of_unproved (hgeneral : s.general = some general) (hverify : s.options.verifyDevice = true)
    (hran : course.Ran keys who general s.options.timeout s.scene scene device)
    (hunproved : ¬ course.Proved keys device) :
    pair keys who s = (.error (refusal course.assignment), { s with scene }) := by
  have hnegotiated := negotiate_of_ran hran
  rw [Course.Proved] at hunproved
  rw [pair_of_some hgeneral]
  by_cases hlong : 52 ≤ course.assignment.payload.length
  · obtain ⟨report, hread, hauthenticator, hfields⟩ := authorizationReport_read hran.carries hlong
    rw [hread] at hnegotiated
    rw [run_bind_ok hnegotiated, if_pos hverify, run_bind, run_verifyAssigned hauthenticator hfields,
      if_neg hunproved, refusal, if_pos hlong]
  · rw [authorizationReport_short hran.carries (Nat.not_le.mp hlong)] at hnegotiated
    rw [run_bind_error hnegotiated, refusal, if_neg hlong]

theorem pair_of_accepted {report : AuthorizationReport} (hgeneral : s.general = some general)
    (hran : course.Ran keys who general s.options.timeout s.scene scene device)
    (hread : authorizationReport.read course.assignment = .ok report)
    (hproved : s.options.verifyDevice = true → course.Proved keys device) :
    pair keys who s =
      confirm keys general ⟨device, report, course.introduction.payload.drop 69⟩ { s with scene } := by
  have hnegotiated := negotiate_of_ran hran
  obtain ⟨-, hauthenticator, hfields⟩ := authorizationReport_ok hran.carries hread
  rw [hread] at hnegotiated
  rw [pair_of_some hgeneral, run_bind_ok hnegotiated]
  cases hverify : s.options.verifyDevice with
  | false => rfl
  | true =>
    have hdigest := hproved hverify
    rw [Course.Proved] at hdigest
    rw [if_pos rfl, run_bind, run_verifyAssigned hauthenticator hfields, if_pos hdigest]

/-- A pairing whose assignment carries the proof goes on to confirm it. -/
theorem pair_of_proved (hgeneral : s.general = some general)
    (hran : course.Ran keys who general s.options.timeout s.scene scene device)
    (hlong : 52 ≤ course.assignment.payload.length) (hproved : course.Proved keys device) :
    ∃ assigned, pair keys who s = confirm keys general assigned { s with scene } := by
  obtain ⟨report, hread, -⟩ := authorizationReport_read hran.carries hlong
  exact ⟨_, pair_of_accepted hgeneral hran hread fun _ => hproved⟩

/-- Pairing breaks off before anything is confirmed, or the device has proved that it knows the key. -/
theorem pair_cases (keys : KeyPair) (who : Pairing.Applicant) (hgeneral : s.general = some general)
    (hverify : s.options.verifyDevice = true) (hlink : general.link < s.scene.links.length)
    (htidy : s.scene.Tidy) :
    Broke general s (pair keys who s) ∨
      ∃ device course scene, Course.Ran keys who general s.options.timeout s.scene scene device course ∧
        52 ≤ course.assignment.payload.length ∧ course.Proved keys device := by
  rcases negotiate_cases keys who hlink htidy with
    ⟨e, commands, scene, hrun, hsent, hcommands⟩ | ⟨device, course, scene, hran, hlong⟩
  · rw [pair_of_some hgeneral, run_bind_error hrun]
    exact .inl ⟨e, commands, scene, rfl, hsent, hcommands⟩
  · by_cases hproved : course.Proved keys device
    · exact .inr ⟨device, course, scene, hran, hlong, hproved⟩
    · refine .inl ⟨_, course.commands keys device, scene,
        pair_of_unproved hgeneral hverify hran hproved, hran.sent hlink htidy, ?_⟩
      exact hran.confirms_nothing

end Negotiation

end Session

end Latchkey
