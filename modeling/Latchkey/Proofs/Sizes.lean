import Latchkey.Proofs.Actions
import Latchkey.Proofs.Layouts

/-!
# How long challenges and actions are

A challenge takes as many bytes as the device sends, if they are 32 at least, and the nonce of an assigned
authorization takes what is left, which may be nothing. All of a challenge goes into the next action, so an action is
as long as the device makes it.
-/

namespace Latchkey

private theorem AuthorizationReport.nonce_of_at? {payload : Bytes} {report : AuthorizationReport}
    (hlong : 52 ≤ payload.length) (h : at? payload = some report) : report.nonce = payload.drop 52 := by
  rw [at?] at h
  obtain ⟨authenticator, -, h⟩ := Option.bind_eq_some_iff.mp h
  obtain ⟨authorization, -, h⟩ := Option.bind_eq_some_iff.mp h
  obtain ⟨uuid, -, h⟩ := Option.bind_eq_some_iff.mp h
  obtain ⟨nonce, hnonce, h⟩ := Option.bind_eq_some_iff.mp h
  cases h
  rw [Bytes.slice?_back (by omega)] at hnonce
  exact (Option.some.inj hnonce).symm

namespace Request

/-- An action without a suffix is the same as one with a suffix exactly if its challenge begins with the field of the
suffix. -/
theorem actionPayload_none_eq_iff {code code' : UInt8} {app app' : UInt32} {flags flags' : UInt8}
    {bare challenge : Bytes} {text : String} :
    actionPayload code app flags none bare = actionPayload code' app' flags' (some text) challenge ↔
      code = code' ∧ app = app' ∧ flags = flags' ∧ bare = Padded.encode suffixLength text ++ challenge := by
  constructor
  · intro h
    simp only [actionPayload, List.cons_append, List.nil_append, List.append_assoc, List.cons.injEq] at h
    obtain ⟨hcode, h⟩ := h
    obtain ⟨happ, h⟩ := List.append_inj h (by rw [Bytes.length_ofWord32, Bytes.length_ofWord32])
    obtain ⟨hflags, hrest⟩ := List.cons.inj h
    have hword := congrArg Bytes.toWord32 happ
    rw [Bytes.toWord32_ofWord32, Bytes.toWord32_ofWord32] at hword
    exact ⟨hcode, hword, hflags, hrest⟩
  · rintro ⟨rfl, rfl, rfl, rfl⟩
    simp [actionPayload]

end Request

/-- How many bytes an action has to have: 38, or 58 with a suffix. -/
def Options.actionLength (o : Options) : Nat := if o.suffix.isSome then 58 else 38

/-- During an errand about an action a client asks for a challenge, and the action that may follow is as much too long
as the challenge. -/
theorem Session.Sound.sends_action {s : Session} (hs : s.Sound) {errand : Errand} (hacts : errand.Acts) {user : Channel}
    (huser : s.user = some user) :
    ∃ commands, user.Sent commands s.scene (errand.act s).2.scene ∧
      (commands <+: [asking] ∨ ∃ challenge action,
        user.firstReply? .challenge (user.send asking (user.putInbox [] s.scene)).2 = some challenge ∧
          32 ≤ challenge.payload.length ∧ commands = [asking, action] ∧ action.Carries (.known .lockAction) ∧
          action.payload.length = s.options.actionLength + (challenge.payload.length - 32)) := by
  obtain ⟨hlink, -⟩ := hs.user user huser
  rcases errand.act_cases s with hsame | ⟨act, hprotects, hrun⟩
  · rw [hsame]
    exact ⟨[], user.sent_of_quiet (Scene.quiet_lasting.refl s.scene), .inl List.nil_prefix⟩
  · obtain ⟨commands, hsent, hcommands⟩ := hprotects.sends huser hlink hs.tidy
    rw [hrun]
    refine ⟨commands, hsent, hcommands.imp_right ?_⟩
    rintro ⟨-, challenge, hfirst, hlong, hrequested⟩
    obtain ⟨code, hrequest⟩ := Errand.request_of_acts hacts s.options
    rw [hrequest] at hrequested
    refine ⟨challenge, _, hfirst, hlong, hrequested, rfl, ?_⟩
    show (Request.actionPayload ..).length = _
    rw [Request.length_actionPayload, Request.suffixLength, Options.actionLength]
    split
    · omega
    · omega

/-- What is read as a challenge is the whole payload if that has 32 bytes or more, and the nonce of an assigned
authorization is what is behind the first 52 bytes, of which none may be missing; so they have 32 bytes just if the
payload has 32 or 84. An action has as many bytes too many as the challenge, so it is as long as it has to be just if
the challenge has 32. And an action without a suffix is the same as one with a suffix just if its challenge is the
field of the suffix with the other challenge behind it; then it has twenty bytes more than that one. -/
theorem action_sizes (reply : Command) {s : Session} (hs : Reachable s) {errand : Errand} (hacts : errand.Acts)
    (cancelAt : Option Nat) (agenda : List Appointment) :
    let before := s.begin cancelAt agenda
    let after := (errand.act before).2
    ((∃ nonce, challengeReport.read reply = .ok nonce) ↔
        reply.Carries (.known .challenge) ∧ 32 ≤ reply.payload.length) ∧
      (∀ nonce, challengeReport.read reply = .ok nonce →
        nonce = reply.payload ∧ (nonce.length = 32 ↔ reply.payload.length = 32)) ∧
      ((∃ report, authorizationReport.read reply = .ok report) ↔
        reply.Carries (.known .authorizationId) ∧ 52 ≤ reply.payload.length) ∧
      (∀ report, authorizationReport.read reply = .ok report →
        report.nonce = reply.payload.drop 52 ∧ (report.nonce.length = 32 ↔ reply.payload.length = 84)) ∧
      (match s.user with
        | none => after = before
        | some user => ∃ commands, user.Sent commands before.scene after.scene ∧
          (commands <+: [asking] ∨ ∃ challenge action,
            user.firstReply? .challenge (user.send asking (user.putInbox [] before.scene)).2 = some challenge ∧
              32 ≤ challenge.payload.length ∧ commands = [asking, action] ∧ action.Carries (.known .lockAction) ∧
              action.payload.length = s.options.actionLength + (challenge.payload.length - 32) ∧
              (action.payload.length = s.options.actionLength ↔ challenge.payload.length = 32))) ∧
      ∀ (code code' : UInt8) (app app' : UInt32) (flags flags' : UInt8) (text : String) (bare challenge : Bytes),
        Request.actionPayload code app flags none bare =
            Request.actionPayload code' app' flags' (some text) challenge ↔
          code = code' ∧ app = app' ∧ flags = flags' ∧
            bare = Padded.encode Request.suffixLength text ++ challenge := by
  intro before after
  obtain ⟨hchallenge, hpayload⟩ := challengeReport.read_iff tells_challenge reply
  obtain ⟨hassigned, hreport⟩ := authorizationReport.read_iff AuthorizationReport.tells reply
  refine ⟨hchallenge, fun nonce hread => ?_, hassigned, fun report hread => ?_, ?_,
    fun _ _ _ _ _ _ _ _ _ => Request.actionPayload_none_eq_iff⟩
  · obtain rfl : reply.payload = nonce := Option.some.inj (hpayload nonce hread)
    exact ⟨rfl, Iff.rfl⟩
  · have hlong : 52 ≤ reply.payload.length := (hassigned.mp ⟨report, hread⟩).2
    have hnonce := AuthorizationReport.nonce_of_at? hlong (hreport report hread)
    refine ⟨hnonce, ?_⟩
    rw [hnonce, List.length_drop]
    omega
  · have hsound : before.Sound := Session.sound_begin cancelAt agenda (Session.sound_of_reachable hs)
    cases huser : s.user with
    | none => exact errand.act_of_none huser
    | some user =>
      obtain ⟨commands, hsent, hcommands⟩ := hsound.sends_action hacts huser
      refine ⟨commands, hsent, hcommands.imp_right ?_⟩
      rintro ⟨challenge, action, hfirst, hlong, hrequested, hcarries, hlength⟩
      have hlength : action.payload.length = s.options.actionLength + (challenge.payload.length - 32) := hlength
      exact ⟨challenge, action, hfirst, hlong, hrequested, hcarries, hlength, by omega⟩

/-- A challenge of 33 bytes makes an action of 39. -/
theorem action_sizes_long :
    let key : Key := ⟨List.replicate 32 1, rfl⟩
    let credentials : Credentials := { authorization := 7, clientSecret := key, devicePublic := key }
    let user : Channel := ⟨0, Profile.smartLock.user, .smartLock, .sealed 7 credentials.sharedKey⟩
    let challenge := Command.of (.known .challenge) (List.replicate 33 0x11)
    let message := user.codec.message { bytes := [0x66] } challenge
    let s := Session.facingLock {} credentials [[message], []]
    let errand := Errand.lockAction (.known .unlock)
    Reachable s ∧ errand.Acts ∧ s.user = some user ∧
      challengeReport.read challenge = .ok (List.replicate 33 0x11) ∧ ∃ action,
      user.Sent [asking, action] (s.begin none []).scene (errand.act (s.begin none [])).2.scene ∧
        action.Carries (.known .lockAction) ∧ action.payload.length = 39 := by
  intro key credentials user challenge message s errand
  obtain ⟨hs, hoptions, huser, exposed, inbox, hserved⟩ :
      Reachable s ∧ s.options = {} ∧ s.user = some user ∧
        ∃ exposed inbox, user.Served exposed [[message], []] inbox (s.begin none []).scene :=
    facingLock_spec rfl credentials [[message], []]
  have hacts : errand.Acts := trivial
  have hsuits : errand.Suits (s.begin none []) := by rfl
  -- From here on the session is one of which this is known.
  clear_value s
  obtain ⟨act, hprotects, hrun⟩ := Errand.act_of_suits hsuits
  have hread : user.codec.decode message = .ok challenge := user.codec.decode_message { bytes := [0x66] } (by decide)
  have hfits : (errand.request s.options challenge.payload).payload.length ≤ 65511 := by
    rw [hoptions]
    decide
  have hmade := hprotects.makes (s := s.begin none []) huser hserved hread rfl (by decide) hfits
  rw [← hrun] at hmade
  obtain ⟨hchallenge, hpayload, -, -, hsent, -⟩ := action_sizes challenge hs hacts none []
  obtain ⟨nonce, hnonce⟩ := hchallenge.mpr ⟨rfl, by decide⟩
  obtain ⟨rfl, -⟩ := hpayload nonce hnonce
  rw [huser] at hsent
  obtain ⟨commands, hsent, hcommands⟩ := hsent
  obtain rfl := hmade.unique hsent
  rcases hcommands with hprefix | ⟨_, action, -, -, hrequested, hcarries, -⟩
  · exact absurd hprefix.length_le (Nat.not_succ_le_self 1)
  · refine ⟨hs, hacts, huser, hnonce, action, ?_, hcarries, ?_⟩
    · rw [← hrequested]
      exact hsent
    · have haction : errand.request s.options challenge.payload = action :=
        (List.cons.inj (List.cons.inj hrequested).2).1
      rw [← haction, hoptions]
      rfl

/-- Neither a challenge nor the nonce of an assigned authorization need have 32 bytes, and an action without a suffix
can be the same as one with an empty suffix. -/
theorem action_sizes_vary :
    challengeReport.read (.of (.known .challenge) (List.replicate 33 0x11)) = .ok (List.replicate 33 0x11) ∧
      (authorizationReport.read (.of (.known .authorizationId) (List.replicate 52 0x11))).map
          AuthorizationReport.nonce = .ok [] ∧
      Request.actionPayload 1 7 0 none (List.replicate 20 0 ++ List.replicate 32 0x11) =
        Request.actionPayload 1 7 0 (some "") (List.replicate 32 0x11) := by
  refine ⟨rfl, rfl, rfl⟩

end Latchkey
