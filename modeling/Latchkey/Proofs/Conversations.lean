import Latchkey.Proofs.Challenges

/-!
# Conversations

Apart from opening and closing channels everything a client does is a conversation over one of them: it
sends, waits, draws nonces and judges what it has heard, and it never waits before it has sent something.
-/

namespace Latchkey

namespace Failure

/-- There is no step around the failure. -/
def Bare : Failure → Prop
  | during .. => False
  | _ => True

/-- There is no step around the failure either, and it is not that the time is up. -/
def Timeless : Failure → Prop
  | timeout _ | during .. => False
  | _ => True

theorem Timeless.bare {e : Failure} (h : e.Timeless) : e.Bare := by
  cases e with
  | during name cause => exact h
  | _ => trivial

end Failure

namespace Session

/-- Conversations over a channel, of a client of which the user channel may be known. In some of them nothing
may be written. The flags in the end say whether something has been sent before and by the end. -/
inductive Conversation (writes : Bool) (user : Option Channel) (ch : Channel) :
    Bool → Bool → {α : Type} → Act α → Prop where
  | pure {α : Type} (sent : Bool) (a : α) : Conversation writes user ch sent sent (Pure.pure a : Act α)
  /-- A step that only judges what is known. -/
  | settle {α : Type} (sent : Bool) (name : String) {result : Except Failure α}
    (bare : ∀ e, result = .error e → e.Bare) :
    Conversation writes user ch sent sent (Act.step name (Act.settle result))
  | draw (allowed : writes = true) (sent : Bool) (count : Nat) :
    Conversation writes user ch sent sent (Act.onAir (Radio.drawNonce count))
  | send (allowed : writes = true) (sent : Bool) (name : String) (c : Command) :
    Conversation writes user ch sent true (sendStep name ch c)
  | wait (name : String) (id : CommandName) : Conversation writes user ch true true (waitStep name ch id)
  /-- The channel may be looked up if it is the user channel. -/
  | lookup {α : Type} {sent sent' : Bool} {next : Channel → Act α} (known : user = some ch)
    (rest : Conversation writes user ch sent sent' (next ch)) :
    Conversation writes user ch sent sent' (userChannel >>= next)
  | bind {α β : Type} {sent sent' sent'' : Bool} {act : Act α} {next : α → Act β}
    (opening : Conversation writes user ch sent sent' act)
    (rest : ∀ a, Conversation writes user ch sent' sent'' (next a)) :
    Conversation writes user ch sent sent'' (act >>= next)

/-- What is known about the user channel is true. -/
def Knows (user : Option Channel) (s : Session) : Prop := ∀ ch, user = some ch → s.user = some ch

theorem knows_none (s : Session) : Knows none s := fun _ h => nomatch h

theorem knows_some {user : Channel} {s : Session} (h : s.user = some user) : Knows (some user) s := by
  rintro ch ⟨⟩
  exact h

theorem timeless_of_statusVerdict {c : Command} {expected : Completion} {e : Failure}
    (h : statusVerdict c expected = .error e) : e.Timeless := by
  rw [statusVerdict] at h
  split at h
  · cases h
    trivial
  · split at h
    · cases h
    · cases h
      trivial

theorem bare_of_statusVerdict (c : Command) (expected : Completion) (e : Failure)
    (h : statusVerdict c expected = .error e) : e.Bare := (timeless_of_statusVerdict h).bare

namespace Conversation

variable {writes : Bool} {user : Option Channel} {ch : Channel} {sent sent' : Bool} {α : Type} {act : Act α}
  {R : Session → Session → Prop}

private theorem keeps_both (h : Conversation writes user ch sent sent' act) (hR : Attentive R)
    (hwrites : writes = true → Talkative R) {s : Session} (huser : Knows user s) :
    R s (act s).2 ∧ (act s).2 = { s with scene := (act s).2.scene } := by
  induction h generalizing s with
  | pure sent a => exact ⟨hR.lasting.refl s, rfl⟩
  | settle sent name bare => exact ⟨hR.lasting.refl s, rfl⟩
  | draw allowed sent count => exact ⟨(hwrites allowed).draws count s, rfl⟩
  | send allowed sent name c => exact ⟨keeps_sendStep (hwrites allowed) name ch c s, rfl⟩
  | wait name id => exact ⟨keeps_waitStep hR name ch id s, rfl⟩
  | lookup known rest ih =>
    rw [run_bind_ok (userChannel_of_some (huser ch known))]
    exact ih huser
  | @bind α β sent sent' sent'' act next opening rest ih ih' =>
    obtain ⟨hopening, hscene⟩ := ih huser
    rcases hrun : act s with ⟨e | a, s'⟩
    all_goals rw [hrun] at hopening hscene
    · rw [run_bind_error hrun]
      exact ⟨hopening, hscene⟩
    · obtain ⟨options, link, general, user', credentials, scene⟩ := s'
      cases hscene
      obtain ⟨hrest, hscene'⟩ := ih' a (s := { s with scene }) huser
      rw [run_bind_ok hrun]
      exact ⟨hR.lasting.trans hopening hrest, hscene'⟩

theorem keeps (h : Conversation writes user ch sent sent' act) (hR : Talkative R) {s : Session}
    (huser : Knows user s) : R s (act s).2 := (keeps_both h hR.toAttentive (fun _ => hR) huser).1

private theorem keeps_listening (h : Conversation false none ch sent sent' act) (hR : Attentive R) : Keeps R act :=
  fun s => (keeps_both h hR (fun hwrites => by cases hwrites) (knows_none s)).1

theorem scenery (h : Conversation writes user ch sent sent' act) {s : Session} (huser : Knows user s) :
    (act s).2 = { s with scene := (act s).2.scene } :=
  (keeps_both h links_talkative.toAttentive (fun _ => links_talkative) huser).2

theorem keeps_knows (h : Conversation writes user ch sent sent' act) {s : Session} (huser : Knows user s) :
    Knows user (act s).2 := by
  rw [h.scenery huser]
  exact huser

private theorem relax (h : Conversation writes none ch sent sent' act) :
    Conversation true user ch sent sent' act := by
  induction h with
  | pure sent a => exact .pure sent a
  | settle sent name bare => exact .settle sent name bare
  | draw allowed sent count => exact .draw rfl sent count
  | send allowed sent name c => exact .send rfl sent name c
  | wait name id => exact .wait name id
  | lookup known rest ih => cases known
  | bind opening rest ih ih' => exact .bind ih ih'

theorem fail (name : String) {e : Failure} (h : e.Bare) :
    Conversation writes user ch sent sent (throw (.during name e) : Act α) :=
  .settle sent name (fun cause (hcause : (.error e : Except Failure α) = .error cause) => by
    cases hcause
    exact h)

theorem ofWire (name : String) (result : Except WireError α) :
    Conversation writes user ch sent sent (Act.step name (Act.ofWire result)) := by
  apply settle
  intro e he
  obtain ⟨wire, -, rfl⟩ := exists_of_mapError he
  trivial

theorem read (name : String) (layout : Layout α) (c : Command) :
    Conversation writes user ch sent sent (readStep name layout c) := ofWire name (layout.read c)

theorem expectStatus (name : String) (c : Command) (expected : Completion) :
    Conversation writes user ch sent sent (Session.expectStatus name c expected) := by
  rw [expectStatus_eq]
  exact .settle sent name (bare_of_statusVerdict c expected)

theorem send_wait (sending waiting : String) (c : Command) (id : CommandName) {next : Command → Act α}
    (h : ∀ reply, Conversation true user ch true sent' (next reply)) :
    Conversation true user ch sent sent' (do
      sendStep sending ch c
      let reply ← waitStep waiting ch id
      next reply) := .bind (.send rfl sent sending c) fun _ => .bind (.wait waiting id) h

theorem exchange (sending waiting reading : String) (layout : Layout α) (c : Command) :
    Conversation true user ch sent true (Session.exchange sending waiting reading layout ch c) :=
  .send_wait sending waiting c layout.name fun reply => .read reading layout reply

end Conversation

/-- What is made of a command that has to report a certain state of the lock. -/
def lockVerdict (reply : Command) (expected : LockState) : Except Failure Unit :=
  match StateReport.read reply with
  | .error e => .error (.wire e)
  | .ok report =>
    if report.lock = .known expected then .ok ()
    else .error (.unexpectedLockState (.known expected) report.lock)

theorem expectLock_eq (name : String) (user : Channel) (expected : LockState) :
    expectLock name user expected = (do
      let reply ← waitStep name user .keyturnerStates
      Act.step name (Act.settle (lockVerdict reply expected))) := by
  rw [expectLock]
  congr 1
  funext reply s
  rw [Act.run_step, Act.run_step, Act.run_settle, lockVerdict]
  cases StateReport.read reply with
  | error e => rfl
  | ok report =>
    have hread : Act.ofWire (.ok report) s = (.ok report, s) := rfl
    rw [run_bind_ok hread]
    by_cases hlock : report.lock = .known expected
    · rw [if_neg (not_not_intro hlock)]
      simp only [if_pos hlock]
      rfl
    · rw [if_pos hlock]
      simp only [if_neg hlock]
      rfl

theorem timeless_of_lockVerdict {reply : Command} {expected : LockState} {e : Failure}
    (h : lockVerdict reply expected = .error e) : e.Timeless := by
  rw [lockVerdict] at h
  split at h
  · cases h
    trivial
  · split at h
    · cases h
    · cases h
      trivial

theorem bare_of_lockVerdict (reply : Command) (expected : LockState) (e : Failure)
    (h : lockVerdict reply expected = .error e) : e.Bare := (timeless_of_lockVerdict h).bare

theorem Conversation.expectLock {writes : Bool} {user : Option Channel} {ch : Channel} (name : String)
    (expected : LockState) : Conversation writes user ch true true (Session.expectLock name ch expected) := by
  rw [expectLock_eq]
  apply Conversation.bind (.wait name _)
  intro reply
  exact .settle true name (bare_of_lockVerdict reply expected)

theorem Conversation.challenge {ch : Channel} :
    Conversation true (some ch) ch false true Session.challenge := by
  have hchallenge : Session.challenge = userChannel >>= fun user => Session.exchange "requesting challenge"
      "waiting for challenge" "reading challenge" challengeReport user asking := rfl
  rw [hchallenge]
  exact .lookup rfl (.exchange _ _ _ _ _)

section Dialogues

variable {α β : Type} {act : Act α} {request : Bytes → Command}

/-- A conversation over the user channel, which is refused if there is none. -/
structure Dialogue (act : Act α) : Prop where
  refuses (s : Session) : s.user = none → act s = (.error s.missing, s)
  converses (user : Channel) : Conversation true (some user) user false true act

theorem Dialogue.keeps {R : Session → Session → Prop} (h : Dialogue act) (hR : Talkative R) : Keeps R act := by
  intro s
  cases huser : s.user with
  | none =>
    rw [h.refuses s huser]
    exact hR.lasting.refl s
  | some user => exact (h.converses user).keeps hR (knows_some huser)

/-- The act makes the request with a challenge, and only listens after that. -/
def Requests (request : Bytes → Command) (act : Act α) : Prop :=
  ∃ name, ∃ tail : Channel → Act α,
    act = (do
      let challenge ← Session.challenge
      let user ← userChannel
      sendStep name user (request challenge)
      tail user) ∧
    ∀ user, Conversation false none user true true (tail user)

theorem Requests.protects (h : Requests request act) : Protects request act := by
  obtain ⟨name, tail, hact, htail⟩ := h
  exact ⟨name, tail, hact, fun user R hR _ => (htail user).keeps_listening hR⟩

theorem Requests.dialogue (h : Requests request act) : Dialogue act := by
  obtain ⟨name, tail, rfl, htail⟩ := h
  refine ⟨fun s hnone => run_bind_error (challenge_of_none hnone), fun user => ?_⟩
  apply Conversation.bind .challenge
  intro challenge
  apply Conversation.lookup rfl
  apply Conversation.bind (.send rfl true name _)
  intro _
  exact (htail user).relax

end Dialogues

end Session

end Latchkey
