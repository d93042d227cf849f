import Latchkey.Proofs.Confirmations

/-!
# Requests

In whatever state a client is and whatever a device does, a request is sent with the first challenge that
the device delivers after it has been asked for one in the same operation, and with no other. A client whose
device answers with a challenge makes its request with it, and the device can read the request. For every kind of
options there is such a client.
-/

namespace Latchkey

namespace Session

/-- A client that is answered with a challenge makes its request. -/
theorem Protects.makes {α : Type} {request : Bytes → Command} {act : Act α} {s : Session} {user : Channel}
    {exposed : List Uuid} {replies : List Bytes} {script : List (List Bytes)} {inbox : List Arrival}
    {message : Bytes} {reply : Command} (h : Protects request act) (huser : s.user = some user)
    (hserved : user.Served exposed ([message] :: replies :: script) inbox s.scene)
    (hdecode : user.codec.decode message = .ok reply) (hcarries : reply.Carries (.known .challenge))
    (hlong : 32 ≤ reply.payload.length) (hfits : (request reply.payload).payload.length ≤ 65511) :
    user.Sent [asking, request reply.payload] s.scene (act s).2.scene := by
  obtain ⟨name, tail, rfl, htail⟩ := h
  obtain ⟨asked, hrun, hasked, hserved', -⟩ := challenge_answered huser hserved hdecode hcarries hlong
  obtain ⟨bytes, hencode⟩ := user.codec.encode_of_le hfits asked.nonces
  obtain ⟨sent, hsend, -, -, -⟩ := hserved'.send hencode
  have hchannel : userChannel { s with scene := asked } = (.ok user, { s with scene := asked }) :=
    userChannel_of_some huser
  have hrequested := Channel.sent_of_send hserved'.link_lt hserved'.tidy hsend
  have hquiet := htail user Hushed hushed_airy.attentive hushed_close { s with scene := sent }
  rw [run_bind_ok hrun, run_bind_ok hchannel,
    run_bind_ok (sendStep_of_ok (s := { s with scene := asked }) name hsend)]
  exact (hasked.trans hrequested).append_quiet hquiet

end Session

/-- A client with these options and credentials that has just connected to a lock with this script. -/
def Session.facingLock (options : Options) (credentials : Credentials) (script : List (List Bytes)) : Session :=
  let lock : Peripheral := { exposed := [Profile.smartLock.general, Profile.smartLock.user], script }
  let connected := (Event.call none [] (.connect 0)).apply
    { options, scene := { links := [lock], nonces := { bytes := [0x55] } } }
  (Event.call none [] (.authenticate credentials)).apply connected

theorem facingLock_spec {options : Options} (hvalid : options.validate = .ok ()) (credentials : Credentials)
    (script : List (List Bytes)) :
    let s := Session.facingLock options credentials script
    let user : Channel := ⟨0, Profile.smartLock.user, .smartLock,
      .sealed credentials.authorization credentials.sharedKey⟩
    Reachable s ∧ s.options = options ∧ s.user = some user ∧
      ∃ exposed inbox, user.Served exposed script inbox (s.begin none []).scene := by
  intro s user
  let lock : Peripheral := { exposed := [Profile.smartLock.general, Profile.smartLock.user], script }
  let start : Session := { options, scene := { links := [lock], nonces := { bytes := [0x55] } } }
  let connected := (Event.call none [] (.connect 0)).apply start
  have hunused : start.scene.Unused := Scene.unused_alone _ script _
  have hstart : Session.start options start.scene = .ok start := by
    rw [Session.start, hvalid]
    rfl
  have hs : Reachable s :=
    ((Reachable.start hunused hstart).event (.call none [] (.connect 0))).event
      (.call none [] (.authenticate credentials))
  have hlink : user.link < connected.scene.links.length := Nat.zero_lt_one
  have hscene : s.scene = user.opened connected.scene := rfl
  have hidle : (user.unfinished s.scene).pending = 0 := by
    rw [hscene, Channel.unfinished_opened hlink]
    rfl
  have hopen : user.Open (s.begin none []).scene := Channel.open_opened hlink
  have htidy := (Session.sound_begin none [] (Session.sound_of_reachable hs)).tidy
  have hserved := hopen.served hidle (by rfl) htidy rfl
  exact ⟨hs, rfl, rfl, _, _, hserved⟩

/-- During an errand a client asks for a challenge and then makes its request with the answer, over the
user channel and sealed for the credentials installed. It stops early if there is no answer; it does not
even get to the request if it has given up before; and without a user channel it does nothing at all. -/
theorem challenge_fresh {s : Session} (hs : Reachable s) (errand : Errand) (cancelAt : Option Nat)
    (agenda : List Appointment) :
    let before := s.begin cancelAt agenda
    let after := (errand.act before).2
    match s.user with
    | none => after = before
    | some user =>
      (∃ c ∈ s.credentials, user.codec = .sealed c.authorization c.sharedKey) ∧
        ∃ commands, user.Sent commands before.scene after.scene ∧
          (commands <+: [asking] ∨
            cancelAt ≠ some 0 ∧ ∃ challenge,
              user.firstReply? .challenge (user.send asking (user.putInbox [] before.scene)).2 =
                  some challenge ∧
                commands = [asking, errand.request s.options challenge.payload]) := by
  intro before after
  have hsound : before.Sound := Session.sound_begin cancelAt agenda (Session.sound_of_reachable hs)
  cases huser : s.user with
  | none =>
    rcases errand.act_cases before with hsame | ⟨act, hprotects, hrun⟩
    · exact hsame
    · have hrefuses : (act before).2 = before := hprotects.refuses huser
      rw [← hrefuses, ← hrun]
  | some user =>
    obtain ⟨hlink, c, hcredentials, hcodec⟩ := hsound.user user huser
    have hasks : user.Asks (errand.request s.options) before.scene after.scene := by
      rcases errand.act_cases before with hsame | ⟨act, hprotects, hrun⟩
      · have hquiet := Scene.quiet_lasting.refl before.scene
        have hafter : after = before := hsame
        rw [hafter]
        exact Channel.asks_of_quiet _ hquiet
      · have hafter : after = (act before).2 := congrArg Prod.snd hrun
        rw [hafter]
        exact hprotects.asks huser hlink hsound.tidy
    obtain ⟨commands, hsent, hcommands⟩ := hasks
    refine ⟨⟨c, hcredentials, hcodec⟩, commands, hsent, ?_⟩
    rcases hcommands with hprefix | ⟨hcancelled, hrequested⟩
    · exact .inl hprefix
    · refine .inr ⟨?_, hrequested⟩
      rintro rfl
      cases hcancelled

/-- A lock that answers with a challenge gets the request with that challenge. -/
theorem challenge_fresh_facingLock :
    let key : Key := ⟨List.replicate 32 1, rfl⟩
    let credentials : Credentials := { authorization := 7, clientSecret := key, devicePublic := key }
    let user : Channel := ⟨0, Profile.smartLock.user, .smartLock, .sealed 7 credentials.sharedKey⟩
    let challenge := Command.of (.known .challenge) (List.replicate 32 0x11)
    let message := user.codec.message { bytes := [0x66] } challenge
    let s := Session.facingLock {} credentials [[message], []]
    let before := s.begin none []
    Reachable s ∧ s.user = some user ∧
      user.Sent [asking, (Request.config challenge.payload).command] before.scene
        (Errand.readConfig.act before).2.scene ∧
      ∃ answer, user.firstReply? .challenge (user.send asking (user.putInbox [] before.scene)).2 = some answer ∧
        answer.payload = challenge.payload := by
  intro key credentials user challenge message s before
  obtain ⟨hs, -, huser, exposed, inbox, hserved⟩ :
      Reachable s ∧ s.options = {} ∧ s.user = some user ∧
        ∃ exposed inbox, user.Served exposed [[message], []] inbox (s.begin none []).scene :=
    facingLock_spec rfl credentials [[message], []]
  -- From here on the session is one of which this is known.
  clear_value s
  obtain ⟨act, hprotects, hrun⟩ := Errand.readConfig.act_of_suits (s := before) trivial
  have hread : user.codec.decode message = .ok challenge := user.codec.decode_message { bytes := [0x66] } (by decide)
  have hfits : (Request.config challenge.payload).command.payload.length ≤ 65511 := by decide
  have hmade := hprotects.makes (s := before) huser hserved hread rfl (by decide) hfits
  rw [← hrun] at hmade
  have hfresh := challenge_fresh hs .readConfig none []
  rw [huser] at hfresh
  obtain ⟨-, commands, hsent, hcommands⟩ := hfresh
  obtain rfl := hmade.unique hsent
  rcases hcommands with hprefix | ⟨-, answer, hfirst, hrequested⟩
  · exact absurd hprefix.length_le (Nat.not_succ_le_self 1)
  · have hrequest : (Request.config challenge.payload).command = (Request.config answer.payload).command :=
      (List.cons.inj (List.cons.inj hrequested).2).1
    exact ⟨hs, huser, hmade, answer, hfirst, (congrArg Command.payload hrequest).symm⟩

end Latchkey
