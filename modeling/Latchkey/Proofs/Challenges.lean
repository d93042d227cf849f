import Latchkey.Proofs.Exchanges
import Latchkey.Proofs.Replies

/-!
# Requests with a challenge

Every operation that makes a device do something asks it for a challenge first and sends the request with
the payload of the challenge second. Nothing else is sent, whatever becomes of the operation afterwards.
-/

namespace Latchkey

/-- The command that asks for a challenge. -/
def asking : Command := (Request.data (.known .challenge)).command

/-- Over the channel a challenge has been asked for, and the request may have been made with the first one
delivered from then on, unless the caller had given up already; nothing else has been sent. What was in the
inbox before does not count as delivered. -/
def Channel.Asks (ch : Channel) (request : Bytes → Command) (s s' : Scene) : Prop :=
  ∃ commands, ch.Sent commands s s' ∧
    (commands <+: [asking] ∨
      s.cancelled = false ∧ ∃ challenge,
        ch.firstReply? .challenge (ch.send asking (ch.putInbox [] s)).2 = some challenge ∧
          commands = [asking, request challenge.payload])

theorem Channel.asks_of_quiet {ch : Channel} {s s' : Scene} (request : Bytes → Command)
    (h : s.Quiet s') : ch.Asks request s s' := ⟨[], ch.sent_of_quiet h, .inl List.nil_prefix⟩

namespace Session

variable {α β : Type} {request : Bytes → Command} {act : Act α} {s : Session} {user : Channel}

theorem challenge_of_some (h : s.user = some user) :
    challenge s = exchange "requesting challenge" "waiting for challenge" "reading challenge"
      challengeReport user asking s := by
  change (userChannel >>= fun user => exchange "requesting challenge" "waiting for challenge"
    "reading challenge" challengeReport user asking) s = _
  rw [run_bind_ok (userChannel_of_some h)]

theorem challenge_of_none (h : s.user = none) : challenge s = (.error s.missing, s) :=
  run_bind_error (userChannel_of_none h)

/-- The act asks for a challenge, makes the request with it, and writes nothing after that. -/
def Protects (request : Bytes → Command) (act : Act α) : Prop :=
  ∃ name, ∃ tail : Channel → Act α,
    act = (do
      let challenge ← challenge
      let user ← userChannel
      sendStep name user (request challenge)
      tail user) ∧
    ∀ user R, Attentive R → Keeps R close → Keeps R (tail user)

theorem Protects.bind (h : Protects request act) {next : α → Act β}
    (hnext : ∀ a R, Attentive R → Keeps R close → Keeps R (next a)) : Protects request (act >>= next) := by
  obtain ⟨name, tail, rfl, htail⟩ := h
  refine ⟨name, fun user => tail user >>= next, ?_, fun user R hR hclose => ?_⟩
  · simp only [bind_assoc]
  · exact hR.lasting.bind (htail user R hR hclose) fun a => hnext a R hR hclose

/-- A relation that holds over exchanges and over closing holds over every such act. -/
theorem Protects.keeps {R : Session → Session → Prop} (h : Protects request act) (hR : Talkative R)
    (hclose : Keeps R close) : Keeps R act := by
  obtain ⟨name, tail, rfl, htail⟩ := h
  refine hR.lasting.bind (keeps_challenge hR) fun challenge => ?_
  refine hR.lasting.bind (keeps_userChannel hR.lasting) fun user => ?_
  exact keeps_sendStep_bind hR name user _ fun _ => htail user R hR.toAttentive hclose

theorem Protects.refuses (h : Protects request act) (hnone : s.user = none) : (act s).2 = s := by
  obtain ⟨name, tail, rfl, -⟩ := h
  rw [run_bind_error (challenge_of_none hnone)]

/-- Such an act sends the request only with the challenge it has just asked for, and only if that is long enough. -/
theorem Protects.sends (h : Protects request act) (hsome : s.user = some user)
    (hlink : user.link < s.scene.links.length) (htidy : s.scene.Tidy) :
    ∃ commands, user.Sent commands s.scene (act s).2.scene ∧
      (commands <+: [asking] ∨
        s.scene.cancelled = false ∧ ∃ challenge,
          user.firstReply? .challenge (user.send asking (user.putInbox [] s.scene)).2 = some challenge ∧
            32 ≤ challenge.payload.length ∧ commands = [asking, request challenge.payload]) := by
  obtain ⟨name, tail, rfl, htail⟩ := h
  rcases exchange_cases "requesting challenge" "waiting for challenge" "reading challenge"
      challengeReport asking hlink htidy with
    ⟨e, commands, scene, hrun, hcommands, hsent⟩ | ⟨reply, payload, scene, hrun, hanswered, hread, hsent⟩
  all_goals rw [← challenge_of_some hsome] at hrun
  · -- No challenge was received.
    rw [run_bind_error hrun]
    exact ⟨commands, hsent, .inl hcommands⟩
  · -- The challenge is the first one delivered; the request either follows or not.
    obtain ⟨hlong, rfl⟩ := (challengeReport_read hanswered.carries).mp hread
    have huser : userChannel { s with scene } = (.ok user, { s with scene }) := userChannel_of_some hsome
    have hcancelled := hanswered.not_cancelled hlink htidy
    have hfirst : user.firstReply? .challenge (user.send asking (user.putInbox [] s.scene)).2 =
        some reply := by
      obtain ⟨sent, hsend, hfirst, -⟩ := hanswered
      rw [user.send_putInbox, hsend]
      exact hfirst
    rw [run_bind_ok hrun, run_bind_ok huser]
    rcases user.send_cases (request reply.payload) (s := scene) (by rw [hsent.length]; exact hlink)
        (hsent.tidy htidy) with ⟨scene', hsend, hsent'⟩ | ⟨e, scene', hsend, hquiet⟩
    · rw [run_bind_ok (sendStep_of_ok (s := { s with scene }) name hsend)]
      have hquiet := htail user Hushed hushed_airy.attentive hushed_close { s with scene := scene' }
      exact ⟨_, (hsent.trans hsent').append_quiet hquiet, .inr ⟨hcancelled, reply, hfirst, hlong, rfl⟩⟩
    · rw [run_bind_error (sendStep_of_error (s := { s with scene }) name hsend)]
      exact ⟨[asking], hsent.append_quiet hquiet, .inl (List.prefix_refl _)⟩

theorem Protects.asks (h : Protects request act) (hsome : s.user = some user)
    (hlink : user.link < s.scene.links.length) (htidy : s.scene.Tidy) :
    user.Asks request s.scene (act s).2.scene := by
  obtain ⟨commands, hsent, hcommands⟩ := h.sends hsome hlink htidy
  refine ⟨commands, hsent, hcommands.imp_right ?_⟩
  rintro ⟨hcancelled, challenge, hfirst, -, hrequested⟩
  exact ⟨hcancelled, challenge, hfirst, hrequested⟩

end Session

end Latchkey
