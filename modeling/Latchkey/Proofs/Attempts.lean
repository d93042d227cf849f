import Latchkey.Proofs.Enrolment
import Latchkey.Proofs.Streams

/-!
# Attempts to send

Bytes are drawn from the source of nonces only to seal a command and to introduce a client that is paired, and
they are drawn whether or not the command gets through. What has happened in a scene comes down to a list of
attempts to send, and every attempt uses the piece of the stream behind those of the attempts before it.
-/

namespace Latchkey

namespace Scene

/-- Nothing has been written and no byte been drawn. -/
structure Still (s s' : Scene) : Prop where
  length : s'.links.length = s.links.length
  messages (i : Nat) : (s'.link i).messages = (s.link i).messages
  outbound (i : Nat) : (s'.link i).outbound = (s.link i).outbound
  nonces : s'.nonces = s.nonces

theorem still_lasting : Lasting Still where
  refl _ := ⟨rfl, fun _ => rfl, fun _ => rfl, rfl⟩
  trans h h' := ⟨h'.length.trans h.length, fun i => (h'.messages i).trans (h.messages i),
    fun i => (h'.outbound i).trans (h.outbound i), h'.nonces.trans h.nonces⟩

theorem Quiet.still {s s' : Scene} (h : s.Quiet s') (hnonces : s'.nonces = s.nonces) : s.Still s' :=
  ⟨h.length, h.messages, h.outbound, hnonces⟩

private theorem Still.tidy {s s' : Scene} (h : s.Still s') (htidy : s.Tidy) : s'.Tidy := by
  intro i u
  rw [h.outbound i]
  exact htidy i u

private theorem nonces_happen (s : Scene) (x : Happening) : (s.happen x).nonces = s.nonces := by cases x <;> rfl

theorem still_happen (s : Scene) (x : Happening) : s.Still (s.happen x) :=
  (s.quiet_happen x).still (s.nonces_happen x)

end Scene

theorem Radio.nonces_onLink (i : Nat) (use : Peripheral → Except Failure Peripheral) :
    Keeps (fun s s' : Scene => s'.nonces = s.nonces) (onLink i use) := by
  intro s
  rw [onLink]
  cases use (s.link i) <;> rfl

/-- How many bytes are drawn for a command. -/
def Codec.cost : Codec → Nat
  | plain => 0
  | sealed .. => Sealed.nonceLength

private theorem Codec.nonces_encode (codec : Codec) (c : Command) (nonces : Nonces) :
    (codec.encode c nonces).2 = nonces.skip codec.cost := by
  cases codec with
  | plain => rfl
  | sealed authorization shared => rw [encode, Sealed.encodeNext, cost, Nonces.skip]

namespace Channel

private theorem nonces_lasting : Lasting fun s s' : Scene => s'.nonces = s.nonces where
  refl _ := rfl
  trans h h' := h'.trans h

private theorem nonces_send (ch : Channel) (c : Command) (s : Scene) :
    (ch.send c s).2.nonces = s.nonces.skip ch.codec.cost := by
  have hreadied : (ch.readied c s).nonces = s.nonces.skip ch.codec.cost := ch.codec.nonces_encode c s.nonces
  rw [send_eq]
  cases (ch.codec.encode c s.nonces).1 with
  | error e => exact hreadied
  | ok message =>
    have hwritten := keeps_writeAll nonces_lasting (fun chunk => Radio.nonces_onLink ch.link _)
      (Chunk.split message) (ch.readied c s)
    exact hwritten.trans hreadied

theorem still_listen {σ α : Type} (ch : Channel) (hear : σ → Arrival → Heard σ α) (timeout : Span)
    (state : σ) (s : Scene) : s.Still (ch.listen hear timeout state s).2 := by
  have hnonces : (ch.listen hear timeout state s).2.nonces = s.nonces :=
    keeps_listenOn nonces_lasting (fun _ _ _ => rfl) (fun _ _ _ _ => rfl)
      (fun appointment agenda s _ =>
        Scene.nonces_happen { s with now := appointment.time, agenda } appointment.happening)
      s.agenda (s.now + patience timeout) rfl
  exact (ch.quiet_listen hear timeout state s).still hnonces

end Channel

/-- A command that was to be sent over a channel, and the message of it if that has been written. -/
structure Attempt where
  channel : Channel
  command : Command
  message : Option Bytes

namespace Attempt

/-- How many bytes are drawn for the attempt: those of the nonce that seals the command, or of the nonce by
which a client introduces itself. -/
def cost (a : Attempt) : Nat :=
  match a.channel.codec with
  | .sealed .. => Sealed.nonceLength
  | .plain => if a.command.Carries (.known .authorizationData) then Pairing.nonceLength else 0

/-- The nonce of the attempt is this one: the message is sealed under it and begins with it, or it ends the
introduction. -/
def Uses (a : Attempt) (nonce : Bytes) : Prop :=
  match a.channel.codec with
  | .sealed authorization shared =>
    ∀ message ∈ a.message, Sealed.encode authorization shared a.command nonce = .ok message ∧
      message.take Sealed.nonceLength = nonce
  | .plain =>
    (∀ message ∈ a.message, message = a.command.encode) ∧
      (a.command.Carries (.known .authorizationData) → a.command.payload.drop 69 = nonce)

/-- What the attempt adds to the record of a link. -/
def recorded? (i : Nat) (a : Attempt) : Option (Uuid × Bytes) :=
  if i = a.channel.link then a.message.map fun message => (a.channel.characteristic, message) else none

/-- Sending the command has led from one scene to the other. -/
structure Runs (a : Attempt) (s s' : Scene) : Prop where
  result : (a.channel.send a.command s).2 = s'
  wrote : a.channel.Wrote a.message.toList s s'
  encoded : ∀ message ∈ a.message, (a.channel.codec.encode a.command s.nonces).1 = .ok message

private theorem exists_runs (ch : Channel) (c : Command) {s : Scene} (htidy : s.Tidy) :
    ∃ message, Runs ⟨ch, c, message⟩ s (ch.send c s).2 := by
  have hquiet := ch.quiet_readied c s
  have hnothing (h : (ch.send c s).2 = ch.readied c s) : Runs ⟨ch, c, none⟩ s (ch.send c s).2 := by
    refine ⟨rfl, ?_, fun _ hmessage => nomatch hmessage⟩
    rw [h]
    exact ch.wrote_of_quiet hquiet
  cases hencode : (ch.codec.encode c s.nonces).1 with
  | error e => exact ⟨none, hnothing (by rw [ch.send_eq, hencode])⟩
  | ok message =>
    by_cases hlink : ch.link < s.links.length
    · by_cases hworks : Operation.write ∈ (s.link ch.link).failing
      · exact ⟨none, hnothing (by rw [Channel.send_refused hencode hworks])⟩
      · obtain ⟨s', hsend, hwrote, -⟩ := Channel.send_wrote hencode hlink hworks htidy
        refine ⟨some message, rfl, ?_, ?_⟩
        · rw [hsend]
          exact hwrote
        · rintro _ ⟨⟩
          exact hencode
    · have hnowhere : (ch.writeAll (Chunk.split message) (ch.readied c s)).2 = ch.readied c s :=
        Channel.writeAll_nowhere _ (by rw [hquiet.length]; exact Nat.not_lt.mp hlink)
      exact ⟨none, hnothing (by rw [ch.send_eq, hencode]; exact hnowhere)⟩

/-- The attempt has led from one scene to the other. The nonce of an introduction is drawn right before it is
sent. -/
inductive Made (a : Attempt) : Scene → Scene → Prop where
  | send {s s' : Scene}
    (ordinary : a.channel.codec = .plain → ¬ a.command.Carries (.known .authorizationData))
    (runs : a.Runs s s') : Made a s s'
  | introduce {s s' : Scene} {keys : KeyPair} {device : Key} {challenge : Bytes} {who : Pairing.Applicant}
    (plain : a.channel.codec = .plain)
    (command : a.command =
      Pairing.introduction keys device challenge who (s.nonces.draw Pairing.nonceLength).1)
    (runs : a.Runs { s with nonces := s.nonces.skip Pairing.nonceLength } s') : Made a s s'

variable {a : Attempt} {s s' : Scene}

private theorem Made.nonces (h : a.Made s s') : s'.nonces = s.nonces.skip a.cost := by
  cases h with
  | send ordinary runs =>
    rw [← runs.result, Channel.nonces_send, cost]
    cases hcodec : a.channel.codec with
    | sealed authorization shared => rfl
    | plain => simp only [Codec.cost, if_neg (ordinary hcodec)]
  | introduce plain command runs =>
    have hcarries : a.command.Carries (.known .authorizationData) := by
      rw [command]
      rfl
    rw [← runs.result, Channel.nonces_send, cost, plain]
    simp only [if_pos hcarries]
    rfl

private theorem Made.uses (h : a.Made s s') : a.Uses (s.nonces.segment 0 a.cost) := by
  cases h with
  | send ordinary runs =>
    rw [Uses, cost]
    cases hcodec : a.channel.codec with
    | sealed authorization shared =>
      intro message hmessage
      have hencoded := runs.encoded message hmessage
      rw [hcodec, Codec.encode, Sealed.encodeNext_fst, Nonces.draw_fst] at hencoded
      exact ⟨hencoded, Sealed.take_of_encode (Nonces.length_segment ..) hencoded⟩
    | plain =>
      refine ⟨fun message hmessage => ?_, fun hcarries => absurd hcarries (ordinary hcodec)⟩
      have hencoded := runs.encoded message hmessage
      rw [hcodec] at hencoded
      exact (Except.ok.inj hencoded).symm
  | introduce plain command runs =>
    have hcarries : a.command.Carries (.known .authorizationData) := by
      rw [command]
      rfl
    rw [Uses, cost, plain]
    simp only [if_pos hcarries]
    refine ⟨fun message hmessage => ?_, fun _ => ?_⟩
    · have hencoded := runs.encoded message hmessage
      rw [plain] at hencoded
      exact (Except.ok.inj hencoded).symm
    · rw [command, Pairing.introduction_nonce, Nonces.draw_fst]

private theorem Runs.messages (h : a.Runs s s') (i : Nat) :
    (s'.link i).messages.toList = (s.link i).messages.toList ++ (a.recorded? i).toList := by
  rw [h.wrote.messages, recorded?]
  split
  · cases a.message <;> rfl
  · rfl

private theorem Made.messages (h : a.Made s s') (i : Nat) :
    (s'.link i).messages.toList = (s.link i).messages.toList ++ (a.recorded? i).toList := by
  cases h with
  | send ordinary runs => exact runs.messages i
  | introduce plain command runs => exact runs.messages i

private theorem Made.decodes (h : a.Made s s') :
    ∀ message ∈ a.message, a.channel.codec.decode message = .ok a.command := by
  intro message hmessage
  cases h with
  | send ordinary runs => exact Codec.decode_of_encode (runs.encoded message hmessage)
  | introduce plain command runs => exact Codec.decode_of_encode (runs.encoded message hmessage)

end Attempt

/-- How many bytes are drawn for the attempts. -/
def spent : List Attempt → Nat
  | [] => 0
  | a :: attempts => a.cost + spent attempts

/-- The attempts have been made one after the other, and apart from them nothing has been written and no byte
been drawn. -/
inductive Attempts : List Attempt → Scene → Scene → Prop where
  | nil {s s' : Scene} (still : s.Still s') : Attempts [] s s'
  | cons {s t t' s' : Scene} {a : Attempt} {attempts : List Attempt} (still : s.Still t) (made : a.Made t t')
    (rest : Attempts attempts t' s') : Attempts (a :: attempts) s s'

namespace Attempts

variable {attempts later : List Attempt} {s s' s'' : Scene}

theorem after_still (hstill : s.Still s') (h : Attempts attempts s' s'') : Attempts attempts s s'' := by
  cases h with
  | nil still => exact .nil (Scene.still_lasting.trans hstill still)
  | cons still made rest => exact .cons (Scene.still_lasting.trans hstill still) made rest

theorem append (h : Attempts attempts s s') (h' : Attempts later s' s'') :
    Attempts (attempts ++ later) s s'' := by
  induction h with
  | nil still => exact h'.after_still still
  | cons still made rest ih => exact .cons still made (ih h')

/-- What the links have recorded in the meantime are the messages of the attempts. -/
theorem messages (h : Attempts attempts s s') (i : Nat) :
    (s'.link i).messages.toList =
      (s.link i).messages.toList ++ attempts.filterMap (Attempt.recorded? i) := by
  induction h with
  | nil still => rw [still.messages, List.filterMap_nil, List.append_nil]
  | @cons s t t' s' a attempts still made rest ih =>
    have hcons : (a :: attempts).filterMap (Attempt.recorded? i) =
        (a.recorded? i).toList ++ attempts.filterMap (Attempt.recorded? i) := by
      rw [List.filterMap_cons]
      cases a.recorded? i <;> rfl
    rw [ih, made.messages, still.messages, hcons, List.append_assoc]

theorem decodes (h : Attempts attempts s s') {a : Attempt} (ha : a ∈ attempts) :
    ∀ message ∈ a.message, a.channel.codec.decode message = .ok a.command := by
  induction h with
  | nil still => exact absurd ha List.not_mem_nil
  | cons still made rest ih =>
    rcases List.mem_cons.mp ha with rfl | ha
    · exact made.decodes
    · exact ih ha

theorem nonces (h : Attempts attempts s s') : s'.nonces = s.nonces.skip (spent attempts) := by
  induction h with
  | nil still => exact still.nonces
  | cons still made rest ih =>
    rw [ih, made.nonces, still.nonces, Nonces.skip_skip]
    rfl

/-- Every attempt uses the piece of the stream behind those of the attempts before it. -/
theorem uses (h : Attempts attempts s s') {k : Nat} {a : Attempt} (ha : attempts[k]? = some a) :
    a.Uses (s.nonces.segment (spent (attempts.take k)) a.cost) := by
  induction h generalizing k with
  | nil still => cases ha
  | @cons s t t' s' first attempts still made rest ih =>
    cases k with
    | zero =>
      cases ha
      rw [← still.nonces]
      exact made.uses
    | succ k =>
      have hlater := ih ha
      rw [made.nonces, still.nonces, Nonces.segment_skip] at hlater
      exact hlater

end Attempts

section Spent

variable {attempts : List Attempt} {a : Attempt} {j k : Nat}

private theorem spent_append (attempts later : List Attempt) :
    spent (attempts ++ later) = spent attempts + spent later := by
  induction attempts with
  | nil => exact (Nat.zero_add _).symm
  | cons a attempts ih => rw [List.cons_append, spent, spent, ih, Nat.add_assoc]

theorem spent_take_succ (ha : attempts[k]? = some a) :
    spent (attempts.take (k + 1)) = spent (attempts.take k) + a.cost := by
  have hlast : spent [a] = a.cost := Nat.add_zero _
  rw [List.take_add_one, ha, Option.toList_some, spent_append, hlast]

theorem spent_take_le (hjk : j < k) (ha : attempts[j]? = some a) :
    spent (attempts.take j) + a.cost ≤ spent (attempts.take k) := by
  obtain ⟨between, hbetween⟩ : attempts.take (j + 1) <+: attempts.take k := List.take_prefix_take_left hjk
  rw [← spent_take_succ ha, ← hbetween, spent_append]
  exact Nat.le_add_right _ _

end Spent

namespace Channel

/-- These commands were to be sent over the channel, in this order and no others, whatever has come of it. -/
def Tried (ch : Channel) (commands : List Command) (s s' : Scene) : Prop :=
  s.Tidy → s'.Tidy ∧ ∃ attempts, Attempts attempts s s' ∧ attempts.map Attempt.command = commands ∧
    ∀ a ∈ attempts, a.channel = ch

variable {ch : Channel} {commands later : List Command} {s s' s'' : Scene}

theorem tried_of_still (ch : Channel) (h : s.Still s') : ch.Tried [] s s' :=
  fun htidy => ⟨h.tidy htidy, [], .nil h, rfl, fun _ hnone => absurd hnone List.not_mem_nil⟩

theorem Tried.trans (h : ch.Tried commands s s') (h' : ch.Tried later s' s'') :
    ch.Tried (commands ++ later) s s'' := by
  intro htidy
  obtain ⟨htidy', attempts, hmade, hcommands, hchannel⟩ := h htidy
  obtain ⟨htidy'', attempts', hmade', hcommands', hchannel'⟩ := h' htidy'
  refine ⟨htidy'', attempts ++ attempts', hmade.append hmade', ?_, ?_⟩
  · rw [List.map_append, hcommands, hcommands']
  · intro a ha
    rcases List.mem_append.mp ha with ha | ha
    · exact hchannel a ha
    · exact hchannel' a ha

theorem Tried.append_still (h : ch.Tried commands s s') (h' : s'.Still s'') : ch.Tried commands s s'' := by
  have hboth := h.trans (ch.tried_of_still h')
  rwa [List.append_nil] at hboth

private theorem tried_of_made {c : Command}
    (h : s.Tidy → s'.Tidy ∧ ∃ message, Attempt.Made ⟨ch, c, message⟩ s s') : ch.Tried [c] s s' := by
  intro htidy
  obtain ⟨htidy', message, hmade⟩ := h htidy
  have hattempts : Attempts [⟨ch, c, message⟩] s s' :=
    .cons (Scene.still_lasting.refl s) hmade (.nil (Scene.still_lasting.refl s'))
  refine ⟨htidy', _, hattempts, rfl, fun a ha => ?_⟩
  rw [List.mem_singleton.mp ha]

theorem tried_send (ch : Channel) (c : Command) (s : Scene)
    (hordinary : ch.codec = .plain → ¬ c.Carries (.known .authorizationData)) :
    ch.Tried [c] s (ch.send c s).2 := by
  apply tried_of_made
  intro htidy
  obtain ⟨message, hruns⟩ := Attempt.exists_runs ch c htidy
  exact ⟨(ch.settled_send c s htidy).1, message, .send hordinary hruns⟩

theorem tried_introduce (hplain : ch.codec = .plain) (keys : KeyPair) (device : Key) (challenge : Bytes)
    (who : Pairing.Applicant) (s : Scene) :
    let c := Pairing.introduction keys device challenge who (s.nonces.draw Pairing.nonceLength).1
    ch.Tried [c] s (ch.send c { s with nonces := s.nonces.skip Pairing.nonceLength }).2 := by
  intro c
  apply tried_of_made
  intro htidy
  have htidy' : Scene.Tidy { s with nonces := s.nonces.skip Pairing.nonceLength } := htidy
  obtain ⟨message, hruns⟩ := Attempt.exists_runs ch c htidy'
  exact ⟨(ch.settled_send c _ htidy').1, message, .introduce hplain rfl hruns⟩

end Channel

end Latchkey
