import Latchkey.Proofs.Attempts
import Latchkey.Proofs.Preflight

/-!
# Nonces are used once

An operation tries to send certain commands over one channel, or else it draws nothing. So the nonces of a
client are pieces of its source that follow one another, whatever operations it goes through and whatever
becomes of them, and two messages can have the same nonce only if the source repeats itself.
-/

namespace Latchkey

namespace Session

/-- Nothing has been written in the scene and no byte been drawn. -/
def Still (s s' : Session) : Prop := s.scene.Still s'.scene

private theorem still_attentive : Attentive Still where
  lasting :=
    { refl := fun _ => Scene.still_lasting.refl _
      trans := fun h h' => Scene.still_lasting.trans h h' }
  listens ch hear timeout state s := ch.still_listen hear timeout state s.scene

private theorem still_scenic : Scenic Scene.Still where
  lasting := Scene.still_lasting
  opens ch s := (ch.quiet_opened s).still rfl
  closes ch s := (ch.quiet_close s).still (Radio.nonces_onLink ch.link _ s)
  closesLink link s := (Radio.quiet_closeLink link s).still (Radio.nonces_onLink link _ s)

section Trying

variable {α β : Type} {ch : Channel} {c : Command} {commands : List Command} {s : Session} {t : Scene}

private theorem tried_bind (act : Act α) {next : α → Act β} (h : ch.Tried commands t (act s).2.scene)
    (hnext : ∀ a, Keeps Still (next a)) : ch.Tried commands t ((act >>= next) s).2.scene := by
  rcases hrun : act s with ⟨e | a, s'⟩
  all_goals rw [hrun] at h
  · rw [run_bind_error hrun]
    exact h
  · rw [run_bind_ok hrun]
    exact h.append_still (hnext a s')

private theorem tried_exchange_bind (sending waiting reading : String) (layout : Layout α) {next : α → Act β}
    {P : List Command → Prop} (Q : α → List Command → Prop) (h : ch.Tried [c] t (ch.send c s.scene).2)
    (hstop : P [c]) (hmore : ∀ a rest, Q a rest → P (c :: rest))
    (hnext : ∀ a scene, ∃ rest, Q a rest ∧ ch.Tried rest scene (next a { s with scene }).2.scene) :
    ∃ commands, P commands ∧
      ch.Tried commands t ((exchange sending waiting reading layout ch c >>= next) s).2.scene := by
  have hexchange : ch.Tried [c] t (exchange sending waiting reading layout ch c s).2.scene := by
    refine tried_bind (sendStep sending ch c) h fun _ => ?_
    exact keeps_waitStep_bind still_attentive waiting ch layout.name fun reply =>
      keeps_readStep still_attentive.lasting reading layout reply
  have hconversation : Conversation true none ch false true
    (exchange sending waiting reading layout ch c) := .exchange _ _ _ _ _
  have hscenery := hconversation.scenery (knows_none s)
  rcases hrun : exchange sending waiting reading layout ch c s with ⟨e | a, s'⟩
  all_goals rw [hrun] at hexchange hscenery
  · rw [run_bind_error hrun]
    exact ⟨[c], hstop, hexchange⟩
  · obtain ⟨rest, hrest, htried⟩ := hnext a s'.scene
    have hstate : s' = { s with scene := s'.scene } := hscenery
    rw [← hstate] at htried
    rw [run_bind_ok hrun]
    exact ⟨c :: rest, hmore a rest hrest, hexchange.trans htried⟩

end Trying

/-- The commands by which a request is made: one to ask for a challenge, and the request if there is one. -/
def Challenged (request : Bytes → Command) (commands : List Command) : Prop :=
  commands = [asking] ∨ ∃ challenge, commands = [asking, request challenge]

private theorem Protects.tried {α : Type} {request : Bytes → Command} {act : Act α} {s : Session} {user : Channel}
    (h : Protects request act) (huser : s.user = some user) (hsealed : user.codec ≠ .plain) :
    ∃ commands, Challenged request commands ∧ user.Tried commands s.scene (act s).2.scene := by
  obtain ⟨name, tail, rfl, htail⟩ := h
  have hsend (c : Command) (s : Scene) : user.Tried [c] s (user.send c s).2 :=
    user.tried_send c s fun hplain => absurd hplain hsealed
  rw [run_bind, challenge_of_some huser, ← run_bind]
  refine tried_exchange_bind _ _ _ _ (fun challenge rest => rest = [request challenge]) (hsend asking s.scene)
    (.inl rfl) ?_ fun challenge scene => ⟨_, rfl, ?_⟩
  · rintro challenge _ rfl
    exact .inr ⟨challenge, rfl⟩
  · have hfound : userChannel { s with scene } = (.ok user, { s with scene }) := userChannel_of_some huser
    rw [run_bind_ok hfound]
    refine tried_bind (sendStep name user _) (hsend _ scene) fun _ => ?_
    exact htail user Still still_attentive still_scenic.keeps_close

/-- The command that asks for the states. -/
def inquiring : Command := (Request.data (.known .keyturnerStates)).command

private theorem tried_readStates {s : Session} {user : Channel} (huser : s.user = some user)
    (hsealed : user.codec ≠ .plain) : user.Tried [inquiring] s.scene (readStates s).2.scene := by
  have hsend : user.Tried [inquiring] s.scene (user.send inquiring s.scene).2 :=
    user.tried_send inquiring s.scene fun hplain => absurd hplain hsealed
  rw [readStates, run_bind_ok (userChannel_of_some huser)]
  refine tried_bind (sendStep "requesting device states" user inquiring) hsend fun _ => ?_
  refine keeps_waitStep_bind still_attentive _ user _ fun reply => ?_
  exact still_attentive.lasting.bind (Act.keeps_step _ (Act.keeps_settle still_attentive.lasting _)) fun _ =>
    still_attentive.lasting.pure reply

end Session

/-- The commands by which a client is paired with a device that sends these challenges. -/
def Pairing.steps (keys : KeyPair) (who : Applicant) (device : Key) (first second nonce last : Bytes)
    (authorization : UInt32) : List Command := [
  (Request.data (.known .publicKey)).command,
  (Request.publicKey keys.publicKey).command,
  authenticator keys device first,
  introduction keys device second who nonce,
  confirmation keys device last authorization]

/-- The commands by which a client is paired, up to some of them. -/
def Pairing.Sends (keys : KeyPair) (who : Applicant) (commands : List Command) : Prop :=
  commands ≠ [] ∧ ∃ device first second nonce last authorization,
    commands <+: steps keys who device first second nonce last authorization

namespace Session

variable {s : Session} {general : Channel}

private theorem tried_confirm (keys : KeyPair) (verifies : Bool) (assigned : Assigned) : ∃ commands,
    (∃ last authorization,
      commands <+: [Pairing.confirmation keys assigned.device last authorization]) ∧
    general.Tried commands s.scene ((do
      if verifies then verifyAssigned keys assigned
      confirm keys general assigned : Act Credentials) s).2.scene := by
  have hconfirm : general.Tried [Pairing.confirmation keys assigned.device assigned.report.nonce
      assigned.report.authorization] s.scene (confirm keys general assigned s).2.scene := by
    have hsend := general.tried_send (Pairing.confirmation keys assigned.device
      assigned.report.nonce assigned.report.authorization) s.scene
      fun _ => Command.not_carries_of (by decide)
    refine tried_bind (sendStep "sending authorization id confirmation" general _) hsend fun _ => ?_
    exact keeps_complete still_attentive still_scenic.keeps_authenticate keys general assigned
  cases verifies with
  | false => exact ⟨_, ⟨_, _, List.prefix_refl _⟩, hconfirm⟩
  | true =>
    simp only [if_true]
    rw [run_bind, verifyAssigned, Act.run_step, Act.run_settle]
    cases (Pairing.verify assigned.report (keys.sharedKey assigned.device) assigned.nonce).mapError
        fun _ => Failure.authenticatorMismatch with
    | error e =>
      exact ⟨[], ⟨[], 0, List.nil_prefix⟩, general.tried_of_still (Scene.still_lasting.refl s.scene)⟩
    | ok _ => exact ⟨_, ⟨_, _, List.prefix_refl _⟩, hconfirm⟩

private theorem tried_pair (hgeneral : s.general = some general) (hplain : general.codec = .plain) (keys : KeyPair)
    (who : Pairing.Applicant) : ∃ commands, Pairing.Sends keys who commands ∧
      general.Tried commands s.scene (pair keys who s).2.scene := by
  have hsend {c : Command} (s : Scene) (hc : ¬ c.Carries (.known .authorizationData)) :
      general.Tried [c] s (general.send c s).2 := general.tried_send c s fun _ => hc
  have hfront (c : Command) (commands : List Command) : [c] <+: c :: commands :=
    List.cons_prefix_cons.mpr ⟨rfl, List.nil_prefix⟩
  rw [pair_of_some hgeneral]
  simp only [negotiate, bind_assoc, pure_bind]
  -- What follows an exchange is a front part of the steps behind it, whatever the device replies.
  refine tried_exchange_bind _ _ _ _ (fun device rest => ∃ first second nonce last authorization,
      rest <+: (Pairing.steps keys who device first second nonce last authorization).drop 1)
    (hsend s.scene (by decide)) ?_ ?_ fun device scene => ?_
  · exact ⟨List.cons_ne_nil _ _, keys.publicKey, [], [], [], [], 0, hfront _ _⟩
  · rintro device rest ⟨first, second, nonce, last, authorization, hrest⟩
    exact ⟨List.cons_ne_nil _ _, device, first, second, nonce, last, authorization,
      List.cons_prefix_cons.mpr ⟨rfl, hrest⟩⟩
  refine tried_exchange_bind _ _ _ _ (fun first rest => ∃ second nonce last authorization,
      rest <+: (Pairing.steps keys who device first second nonce last authorization).drop 2)
    (hsend scene (Command.not_carries_of (by decide))) ?_ ?_ fun first scene => ?_
  · exact ⟨[], [], [], [], 0, hfront _ _⟩
  · rintro first rest ⟨second, nonce, last, authorization, hrest⟩
    exact ⟨first, second, nonce, last, authorization, List.cons_prefix_cons.mpr ⟨rfl, hrest⟩⟩
  refine tried_exchange_bind _ _ _ _ (fun second rest => ∃ nonce last authorization,
      rest <+: (Pairing.steps keys who device first second nonce last authorization).drop 3)
    (hsend scene (Command.not_carries_of (by decide))) ?_ ?_ fun second scene => ?_
  · exact ⟨[], [], [], 0, hfront _ _⟩
  · rintro second rest ⟨nonce, last, authorization, hrest⟩
    exact ⟨second, nonce, last, authorization, List.cons_prefix_cons.mpr ⟨rfl, hrest⟩⟩
  have hdrawn : Act.onAir (Radio.drawNonce Pairing.nonceLength) { s with scene } =
      (.ok (scene.nonces.draw Pairing.nonceLength).1,
        { s with scene := { scene with nonces := scene.nonces.skip Pairing.nonceLength } }) := by
    rw [Act.run_onAir, Radio.run_drawNonce, Nonces.skip]
  rw [run_bind_ok hdrawn]
  refine tried_exchange_bind _ _ _ _ (fun _ rest => ∃ last authorization,
      rest <+: [Pairing.confirmation keys device last authorization])
    (Channel.tried_introduce hplain keys device second who scene) ?_ ?_ fun report scene => ?_
  · exact ⟨_, [], 0, hfront _ _⟩
  · rintro _ rest ⟨last, authorization, hrest⟩
    exact ⟨_, last, authorization, List.cons_prefix_cons.mpr ⟨rfl, hrest⟩⟩
  · exact tried_confirm (s := { s with scene }) keys s.options.verifyDevice ⟨device, report, _⟩

private theorem user_of_present (h : s.missing? = none) : ∃ user, s.user = some user := by
  cases huser : s.user with
  | some user => exact ⟨user, rfl⟩
  | none =>
    rw [missing?, huser] at h
    cases h

end Session

private theorem Errand.suits_of_unrefused {errand : Errand} {s : Session}
    (h : (Call.errand errand).refusal? s = none) :
    errand.Suits s ∧ ∃ user, s.user = some user := by
  have huser {required : Family} (hsuited : s.unsuited? required = none) : ∃ user, s.user = some user := by
    obtain ⟨user, huser, -⟩ := Session.user_of_suited hsuited
    exact ⟨user, huser⟩
  cases errand with
  | lockAction action => exact ⟨h, huser h⟩
  | openAction action => exact ⟨h, huser h⟩
  | lockActionConfirmed action =>
    obtain ⟨hsuited, hunfollowed⟩ := Option.or_eq_none_iff.mp h
    refine ⟨⟨hsuited, fun hnone => ?_⟩, huser hsuited⟩
    rw [Session.unfollowed?, hnone] at hunfollowed
    cases hunfollowed
  | _ => exact ⟨trivial, Session.user_of_present h⟩

namespace Call

/-- The channel over which the operation sends. -/
def channel? (s : Session) : Call → Option Channel
  | connect _ | authenticate _ | close => none
  | pair .. => s.general
  | errand _ | perform _ | readStates | readLogEntries .. => s.user

/-- The commands that the operation tries to send if it is not refused. -/
def Sends (o : Options) (commands : List Command) : Call → Prop
  | connect _ | authenticate _ | close => commands = []
  | pair keys who => Pairing.Sends keys who commands
  | errand e => Session.Challenged (e.request o) commands
  | perform request => Session.Challenged request commands
  | readStates => commands = [Session.inquiring]
  | readLogEntries range pin => Session.Challenged ((Errand.streamLogEntries range pin).request o) commands

variable {call : Call} {s : Session}

private theorem still_of_lifecycle (h : ¬ call.Converses) : s.scene.Still (call.act s).2.scene := by
  cases call with
  | connect link => exact Session.still_scenic.keeps_connect link s
  | authenticate credentials => exact Session.still_scenic.keeps_authenticate credentials s
  | close => exact Session.still_scenic.keeps_close s
  | _ => exact absurd trivial h

private theorem tried (hs : s.Sound) (hcall : call.Converses) (h : call.refusal? s = none) :
    ∃ ch commands, call.channel? s = some ch ∧ call.Sends s.options commands ∧
      ch.Tried commands s.scene (call.act s).2.scene := by
  -- The user channel is sealed, so whatever is sent over it is one attempt.
  have hsealed {user : Channel} (huser : s.user = some user) : user.codec ≠ .plain := by
    obtain ⟨-, c, -, hcodec⟩ := hs.user user huser
    rw [hcodec]
    exact fun hplain => nomatch hplain
  have hprotected {request : Bytes → Command} {act : Act Unit} {user : Channel}
      (hprotects : Session.Protects request act) (huser : s.user = some user) :
      ∃ ch commands, s.user = some ch ∧ Session.Challenged request commands ∧
        ch.Tried commands s.scene (act s).2.scene := by
    obtain ⟨commands, hcommands, htried⟩ := hprotects.tried huser (hsealed huser)
    exact ⟨user, commands, huser, hcommands, htried⟩
  cases call with
  | connect link => exact hcall.elim
  | authenticate credentials => exact hcall.elim
  | close => exact hcall.elim
  | pair keys who =>
    cases hgeneral : s.general with
    | none =>
      rw [refusal?, hgeneral] at h
      cases h
    | some general =>
      obtain ⟨-, hplain⟩ := hs.general general hgeneral
      obtain ⟨commands, hcommands, htried⟩ := Session.tried_pair hgeneral hplain keys who
      refine ⟨general, commands, hgeneral, hcommands, ?_⟩
      exact Session.tried_bind (Session.pair keys who) htried fun _ =>
        Session.still_attentive.lasting.pure ()
  | perform request =>
    obtain ⟨user, huser⟩ := Session.user_of_present h
    exact hprotected (Session.requests_perform request).protects huser
  | errand errand =>
    obtain ⟨hsuits, user, huser⟩ := Errand.suits_of_unrefused h
    obtain ⟨act, hprotects, hrun⟩ := Errand.act_of_suits hsuits
    have hact : (Call.errand errand).act s = act s := hrun
    rw [hact]
    exact hprotected hprotects huser
  | readStates =>
    obtain ⟨user, huser⟩ := Session.user_of_present h
    refine ⟨user, _, huser, rfl, ?_⟩
    exact Session.tried_bind Session.readStates (Session.tried_readStates huser (hsealed huser))
      fun _ => Session.still_attentive.lasting.pure ()
  | readLogEntries range pin =>
    obtain ⟨user, huser⟩ := Session.user_of_present h
    obtain ⟨ch, commands, hch, hcommands, htried⟩ :=
      hprotected (Session.protects_streamLogEntries range pin) huser
    refine ⟨ch, commands, hch, hcommands, ?_⟩
    exact Session.tried_bind (Session.readLogEntries range pin) htried fun _ =>
      Session.still_attentive.lasting.pure ()

end Call

/-- What is tried to be sent in the course of an event. -/
def Event.Tries (s : Session) (attempts : List Attempt) : Event → Prop
  | call _ _ c =>
    if (c.refusal? s).isSome then attempts = []
    else c.Sends s.options (attempts.map Attempt.command) ∧
      ∀ a ∈ attempts, c.channel? s = some a.channel
  | happening _ | expose _ _ => attempts = []

/-- These are the attempts in the course of the events, in the order in which they have been made. -/
inductive Attempted : Session → List Event → List Attempt → Prop where
  | nil (s : Session) : Attempted s [] []
  | cons {s : Session} {event : Event} {events : List Event} {attempts later : List Attempt}
    (made : Attempts attempts s.scene (event.apply s).scene) (tries : event.Tries s attempts)
    (rest : Attempted (event.apply s) events later) : Attempted s (event :: events) (attempts ++ later)

theorem Attempted.attempts {s : Session} {events : List Event} {attempts : List Attempt}
    (h : Attempted s events attempts) : Attempts attempts s.scene (events.foldl Event.apply s).scene := by
  induction h with
  | nil s => exact .nil (Scene.still_lasting.refl s.scene)
  | cons made tries rest ih => exact made.append ih

/-- In the course of an event certain commands are tried to be sent, and nothing else is. -/
theorem Event.exists_attempts {s : Session} (hs : Reachable s) (event : Event) :
    ∃ attempts, Attempts attempts s.scene (event.apply s).scene ∧ event.Tries s attempts := by
  cases event with
  | happening x => exact ⟨[], .nil (s.scene.still_happen x), rfl⟩
  | expose link u =>
    have hquiet : s.scene.Quiet ((Event.expose link u).apply s).scene := Scene.quiet_putLink rfl rfl
    exact ⟨[], .nil (hquiet.still rfl), rfl⟩
  | call cancelAt agenda c =>
    have hbegun : s.scene.Still (s.begin cancelAt agenda).scene := ⟨rfl, fun _ => rfl, fun _ => rfl, rfl⟩
    have hrefusal : c.refusal? (s.begin cancelAt agenda) = c.refusal? s := c.refusal?_begin s cancelAt agenda
    by_cases hcall : c.Converses
    · cases hreason : c.refusal? s with
      | some e =>
        have hlegible := Session.boxes_of_reachable Mailbox.legible_postal hs
        have hlinked := Session.linked_of_reachable hs
        have hgated := Call.gated (s := s.begin cancelAt agenda) hlegible hlinked c hcall
        rw [hrefusal, hreason] at hgated
        obtain ⟨-, hrun⟩ := hgated
        refine ⟨[], .nil ?_, ?_⟩
        · show s.scene.Still (c.act (s.begin cancelAt agenda)).2.scene
          rw [hrun]
          exact hbegun
        · rw [Event.Tries, hreason]
          rfl
      | none =>
        have hsound := Session.sound_begin cancelAt agenda (Session.sound_of_reachable hs)
        obtain ⟨ch, commands, hch, hcommands, htried⟩ := Call.tried hsound hcall (hrefusal.trans hreason)
        obtain ⟨-, attempts, hmade, hmap, hchannel⟩ := htried hsound.tidy
        refine ⟨attempts, hmade.after_still hbegun, ?_⟩
        have hsame : c.channel? s = some ch := by
          rw [← hch]
          cases c <;> rfl
        simp only [Event.Tries, hreason, Option.isSome_none, Bool.false_eq_true, if_false, hmap]
        refine ⟨hcommands, fun a ha => ?_⟩
        rw [hsame, hchannel a ha]
    · refine ⟨[], .nil (Scene.still_lasting.trans hbegun (Call.still_of_lifecycle hcall)), ?_⟩
      cases c with
      | connect link => exact ⟨rfl, fun _ hnone => absurd hnone List.not_mem_nil⟩
      | authenticate credentials => exact ⟨rfl, fun _ hnone => absurd hnone List.not_mem_nil⟩
      | close => exact ⟨rfl, fun _ hnone => absurd hnone List.not_mem_nil⟩
      | _ => exact absurd trivial hcall

theorem exists_attempted {s : Session} (hs : Reachable s) (events : List Event) :
    ∃ attempts, Attempted s events attempts := by
  induction events generalizing s with
  | nil => exact ⟨[], .nil s⟩
  | cons event events ih =>
    obtain ⟨attempts, hmade, htries⟩ := event.exists_attempts hs
    obtain ⟨later, hlater⟩ := ih (hs.event event)
    exact ⟨attempts ++ later, .cons hmade htries hlater⟩

/-- Whatever a client goes through comes down to attempts to send, each of which uses the piece of the source
behind those that the attempts before it have used: a nonce of 24 bytes if the command is to be sealed, one of
32 bytes if it introduces the client, and nothing otherwise. Nothing else is drawn and nothing else is
recorded. So the nonces do not overlap, and two sealed messages begin with the same one only if the source
repeats itself. -/
theorem nonces_consecutive {s : Session} (hs : Reachable s) (events : List Event) :
    let source := s.scene.nonces
    let after := (events.foldl Event.apply s).scene
    ∃ attempts, Attempted s events attempts ∧
      (∀ i, (after.link i).messages.toList =
        (s.scene.link i).messages.toList ++ attempts.filterMap (Attempt.recorded? i)) ∧
      after.nonces = source.skip (spent attempts) ∧
      (∀ k a, attempts[k]? = some a →
        a.Uses (source.segment (spent (attempts.take k)) a.cost) ∧
        spent (attempts.take (k + 1)) = spent (attempts.take k) + a.cost) ∧
      ∀ j k a b, j < k → attempts[j]? = some a → attempts[k]? = some b →
        spent (attempts.take j) + a.cost ≤ spent (attempts.take k) ∧
        ∀ message ∈ a.message, ∀ message' ∈ b.message,
          a.channel.codec ≠ .plain → b.channel.codec ≠ .plain →
          message.take Sealed.nonceLength = message'.take Sealed.nonceLength →
          ∀ i < Sealed.nonceLength,
            source.stream (spent (attempts.take j) + i) = source.stream (spent (attempts.take k) + i) := by
  intro source after
  obtain ⟨attempts, hattempted⟩ := exists_attempted hs events
  have hmade := hattempted.attempts
  have hnonce {k : Nat} {a : Attempt} {message : Bytes} (ha : attempts[k]? = some a)
      (hmessage : message ∈ a.message) (hsealed : a.channel.codec ≠ .plain) :
      message.take Sealed.nonceLength = source.segment (spent (attempts.take k)) Sealed.nonceLength := by
    have huses := hmade.uses ha
    rw [Attempt.Uses, Attempt.cost] at huses
    cases hcodec : a.channel.codec with
    | plain => exact absurd hcodec hsealed
    | sealed authorization shared =>
      rw [hcodec] at huses
      exact (huses message hmessage).2
  refine ⟨attempts, hattempted, hmade.messages, hmade.nonces, ?_, ?_⟩
  · intro k a ha
    exact ⟨hmade.uses ha, spent_take_succ ha⟩
  · intro j k a b hjk ha hb
    refine ⟨spent_take_le hjk ha, ?_⟩
    intro message hmessage message' hmessage' hsealed hsealed' hsame
    rw [hnonce ha hmessage hsealed, hnonce hb hmessage' hsealed'] at hsame
    exact source.segment_eq_iff.mp hsame

/-- To ask for the states is one attempt, and 24 bytes are drawn for it. -/
theorem nonces_consecutive_atLock :
    let inquire : Event := .call none [] .readStates
    let source := Session.atLock.scene.nonces
    Reachable Session.atLock ∧ ∃ a, Attempted Session.atLock [inquire] [a] ∧
      Session.atLock.user = some a.channel ∧ a.command = Session.inquiring ∧
      a.Uses (source.segment 0 24) ∧ (inquire.apply Session.atLock).scene.nonces = source.skip 24 := by
  intro inquire source
  obtain ⟨attempts, hattempted, -, hnonces, huses, -⟩ := nonces_consecutive reachable_atLock [inquire]
  have hunrefused : ((Call.readStates).refusal? Session.atLock).isSome = false := rfl
  cases hattempted with
  | @cons _ _ _ attempts _ made tries rest =>
    cases rest
    obtain ⟨hcommands, hchannel⟩ : attempts.map Attempt.command = [Session.inquiring] ∧
        ∀ a ∈ attempts, Session.atLock.user = some a.channel := by
      simp only [inquire, Event.Tries, hunrefused] at tries
      exact tries
    obtain ⟨a, rfl, hcommand⟩ := List.map_eq_singleton_iff.mp hcommands
    have huser := hchannel a List.mem_cons_self
    obtain ⟨-, c, -, hcodec⟩ := (Session.sound_of_reachable reachable_atLock).user a.channel huser
    have hcost : a.cost = 24 := by rw [Attempt.cost, hcodec]; rfl
    have hused := (huses 0 a rfl).1
    rw [hcost] at hused
    have hspent : spent ([a] ++ []) = 24 := hcost
    rw [hspent] at hnonces
    exact ⟨reachable_atLock, a, .cons made tries (.nil _), huser, hcommand, hused, hnonces⟩

end Latchkey
