import Latchkey.Proofs.Actions
import Latchkey.Proofs.Deadlines
import Latchkey.Proofs.Preflight
import Latchkey.Proofs.States

/-!
# What is told when the time is up

Only a wait can run out of time, so whatever a client does, a failure that tells how long it has waited tells the
timeout of its options. It tells it in whole milliseconds, of which a word of 64 bits keeps the lowest bits.
-/

namespace Latchkey

private theorem Span.millis_mod_eq_iff (span : Span) :
    span.millis % UInt64.size = span.millis ↔ span.nanoseconds < UInt64.size * 1000000 := by
  rw [Nat.mod_eq_iff_lt (by decide), millis]
  exact Nat.div_lt_iff_lt_mul (by decide)

namespace Failure

variable {timeout : Span} {e : Failure}

/-- If the failure is that the time is up, then this timeout is told. -/
def Tells (timeout : Span) (e : Failure) : Prop :=
  ∀ milliseconds, e.root = .timeout milliseconds → milliseconds = timeout.millis % UInt64.size

private theorem Timeless.tells (h : e.Timeless) : e.Tells timeout := by
  intro milliseconds hroot
  rw [h.bare.root] at hroot
  rw [hroot] at h
  exact h.elim

private theorem tells_tooLate (timeout : Span) : (Channel.tooLate timeout).Tells timeout := by
  rintro milliseconds ⟨⟩
  rfl

private theorem tells_of_vain {α : Type} (h : Channel.Vain timeout (.error e : Except Failure α)) :
    e.Tells timeout := by
  rcases h with h | h | h
  · cases h
    exact Timeless.tells trivial
  · cases h
    exact Timeless.tells trivial
  · cases h
    exact tells_tooLate timeout

private theorem Tells.during (h : e.Tells timeout) (name : String) : (Failure.during name e).Tells timeout := h

end Failure

/-- Nothing in the mailboxes says that time was up. -/
def Scene.Fresh (s : Scene) : Prop := s.Boxes (Mailbox.Damaged Failure.Timeless)

private theorem Scene.postal_fresh :
    Postal (Mailbox.Damaged Failure.Timeless) fun _ => True := Mailbox.damaged_postal id

section Radios

variable {timeout : Span} {ch : Channel}

private theorem Radio.confined_of_timeless {α : Type} {r : Radio α}
    (hkeeps : Keeps (Scene.Posts (Mailbox.Damaged Failure.Timeless) fun _ => True) r)
    (hfails : ∀ s e, (r s).1 = .error e → e.Timeless) :
    Confined Scene.Fresh (Failure.Tells timeout) r :=
  fun s hs => ⟨(hkeeps s s.expects_anything hs).2, fun e he => (hfails s e he).tells⟩

private theorem Channel.confined_send (ch : Channel) (c : Command) :
    Confined Scene.Fresh (Failure.Tells timeout) (ch.send c) :=
  Radio.confined_of_timeless (ch.posts_send Scene.postal_fresh c) fun _ _ => timeless_of_send

private theorem Radio.confined_drawNonce (count : Nat) :
    Confined Scene.Fresh (Failure.Tells timeout) (Radio.drawNonce count) := fun _ hs => ⟨hs, nofun⟩

/-- A listener that fails at what is damaged, at once, or in vain tells its own timeout. -/
theorem Channel.tells_of_listen {σ α : Type} {hear : σ → Arrival → Heard σ α} {state : σ} {s : Scene}
    {e : Failure}
    (hhear : ∀ state arrival, hear state arrival = .done (.error e) → arrival = .error e ∨ e.Timeless)
    (hs : s.Fresh) (h : (ch.listen hear timeout state s).1.2 = .error e) : e.Tells timeout := by
  rcases error_of_listen h with ⟨state, arrival, hmem, hdone⟩ | hvain
  · rcases hhear state arrival hdone with rfl | htimeless
    · exact (damaged_deliveries (fun h => h) hs _ hmem e rfl).tells
    · exact htimeless.tells
  · exact Failure.tells_of_vain hvain

private theorem Channel.confined_waitFor (ch : Channel) (id : CommandId) :
    Confined Scene.Fresh (Failure.Tells timeout) (ch.waitFor id timeout) := by
  intro s hs
  rw [waitFor_eq]
  exact ⟨(ch.posts_listen Scene.postal_fresh _ timeout () s s.expects_anything hs).2,
    fun e => tells_of_listen (fun _ _ => error_of_hearFor) hs⟩

private theorem Channel.confined_attach (link : Nat) (codec : Codec) :
    Confined Scene.Fresh (Failure.Tells timeout) (Channel.attach link codec) := by
  refine Radio.confined_of_timeless (fun s => ?_) fun _ _ => timeless_of_attach
  rcases attach_cases link codec s with ⟨e, hattach⟩ | ⟨ch, hattach, -⟩
  · rw [hattach]
    exact Scene.posts_lasting.refl s
  · rw [hattach]
    exact ch.posts_opened Scene.postal_fresh s

end Radios

namespace Session

/-- The client waits this long, and nothing in its mailboxes says that time was up. -/
def Waits (timeout : Span) (s : Session) : Prop := s.options.timeout = timeout ∧ s.scene.Fresh

/-- If the act fails because the time is up, it tells this timeout; the client goes on waiting as long. -/
abbrev Tells {α : Type} (timeout : Span) (act : Act α) : Prop :=
  Confined (Waits timeout) (Failure.Tells timeout) act

variable {α β : Type} {timeout : Span} {act : Act α}

private theorem tells_onAir {r : Radio α} (h : Confined Scene.Fresh (Failure.Tells timeout) r) :
    Tells timeout (Act.onAir r) := by
  rintro s ⟨htimeout, hfresh⟩
  obtain ⟨hfresh', hfails⟩ := h s.scene hfresh
  exact ⟨⟨htimeout, hfresh'⟩, hfails⟩

private theorem Tells.step (h : Tells timeout act) (name : String) : Tells timeout (Act.step name act) := by
  intro s hs
  obtain ⟨hs', hfails⟩ := h s hs
  refine ⟨hs', fun e he => ?_⟩
  obtain ⟨cause, hresult, rfl⟩ := exists_of_mapError he
  exact (hfails cause hresult).during name

private theorem tells_settle {result : Except Failure α} (h : ∀ e, result = .error e → e.Timeless) :
    Tells timeout (Act.settle result) := fun _ hs => ⟨hs, fun e he => (h e he).tells⟩

private theorem tells_ofWire (result : Except WireError α) : Tells timeout (Act.ofWire result) := by
  apply tells_settle
  intro e he
  obtain ⟨wire, -, rfl⟩ := exists_of_mapError he
  trivial

private theorem tells_readStep (name : String) (layout : Layout α) (c : Command) :
    Tells timeout (readStep name layout c) := (tells_ofWire _).step name

private theorem tells_sendStep (name : String) (ch : Channel) (c : Command) : Tells timeout (sendStep name ch c) :=
  (tells_onAir (ch.confined_send c)).step name

private theorem tells_waitStep (name : String) (ch : Channel) (id : CommandName) :
    Tells timeout (waitStep name ch id) := by
  apply Confined.get_bind
  rintro s ⟨htimeout, -⟩
  dsimp only
  rw [htimeout]
  exact (tells_onAir (ch.confined_waitFor (.known id))).step name

private theorem tells_expectStatus (name : String) (c : Command) (expected : Completion) :
    Tells timeout (expectStatus name c expected) := by
  rw [expectStatus_eq]
  exact (tells_settle fun _ => timeless_of_statusVerdict).step name

private theorem tells_expectLock (name : String) (ch : Channel) (expected : LockState) :
    Tells timeout (expectLock name ch expected) := by
  rw [expectLock_eq]
  apply (tells_waitStep name ch _).bind
  intro reply
  exact (tells_settle fun _ => timeless_of_lockVerdict).step name

private theorem tells_exchange (sending waiting reading : String) (layout : Layout α) (ch : Channel) (c : Command) :
    Tells timeout (exchange sending waiting reading layout ch c) := by
  apply (tells_sendStep sending ch c).bind
  intro _
  apply (tells_waitStep waiting ch layout.name).bind
  intro reply
  exact tells_readStep reading layout reply

private theorem tells_userChannel : Tells timeout userChannel := by
  intro s hs
  cases huser : s.user with
  | none =>
    rw [userChannel_of_none huser]
    exact confined_throw s.timeless_missing.tells s hs
  | some user =>
    rw [userChannel_of_some huser]
    exact ⟨hs, nofun⟩

private theorem tells_requireFamily (required : Family) : Tells timeout (requireFamily required) := by
  apply tells_userChannel.bind
  intro user
  dsimp only
  split
  · exact confined_throw (Failure.Timeless.tells trivial)
  · exact confined_pure ()

private theorem tells_challenge : Tells timeout Session.challenge := by
  apply tells_userChannel.bind
  intro user
  exact tells_exchange "requesting challenge" "waiting for challenge" "reading challenge" challengeReport user asking

private theorem tells_request (name : String) (request : Bytes → Command) {tail : Channel → Act α}
    (h : ∀ user, Tells timeout (tail user)) :
    Tells timeout (do
      let challenge ← Session.challenge
      let user ← userChannel
      sendStep name user (request challenge)
      tail user) := by
  apply tells_challenge.bind
  intro challenge
  apply tells_userChannel.bind
  intro user
  exact (tells_sendStep name user _).bind fun _ => h user

private theorem tells_perform (request : Bytes → Command) : Tells timeout (perform request) := by
  apply tells_request
  intro user
  apply (tells_waitStep _ user _).bind
  intro reply
  apply (tells_readStep _ _ reply).bind
  intro status
  split
  · exact confined_pure ()
  · apply (tells_waitStep _ user _).bind
    intro reply
    exact tells_expectStatus _ reply _
  · have hstatus : (Failure.unexpectedStatus (.known .accepted) status).Timeless := trivial
    exact confined_throw (hstatus.tells.during _)

private theorem tells_action (required : Family) (request : Options → Bytes → Command) :
    Tells timeout (do
      requireFamily required
      let o := (← get).options
      perform (request o)) := by
  apply (tells_requireFamily required).bind
  intro _
  exact Confined.get_bind fun s _ => tells_perform (request s.options)

private theorem tells_lockActionConfirmed (action : ByteCode LockAction) :
    Tells timeout (lockActionConfirmed action) := by
  apply (tells_requireFamily _).bind
  intro _
  dsimp only
  split
  · apply Confined.get_bind
    intro s _
    apply tells_request
    intro user
    apply (tells_waitStep _ user _).bind
    intro reply
    apply (tells_expectStatus _ reply _).bind
    intro _
    apply (tells_expectLock _ user _).bind
    intro _
    apply (tells_expectLock _ user _).bind
    intro _
    apply (tells_waitStep _ user _).bind
    intro reply
    exact tells_expectStatus _ reply _
  · exact confined_throw (Failure.Timeless.tells trivial)

private theorem tells_readStates : Tells timeout readStates := by
  apply tells_userChannel.bind
  intro user
  apply (tells_sendStep _ user _).bind
  intro _
  apply (tells_waitStep _ user _).bind
  intro reply
  exact ((tells_ofWire _).step _).bind fun _ => confined_pure reply

private theorem tells_readConfig : Tells timeout readConfig := by
  apply tells_request _ fun challenge => (Request.config challenge).command
  intro user
  apply (tells_waitStep _ user _).bind
  intro reply
  exact ((tells_ofWire _).step _).bind fun _ => confined_pure reply

private theorem tells_readLogEntryCount (pin : Pin) : Tells timeout (readLogEntryCount pin) := by
  apply tells_request _ fun challenge => (Request.logEntryCount pin challenge).command
  intro user
  apply (tells_waitStep _ user _).bind
  intro count
  apply (tells_readStep _ _ count).bind
  intro _
  apply (tells_waitStep _ user _).bind
  intro reply
  exact (tells_expectStatus _ reply _).bind fun _ => confined_pure count

private theorem tells_requestLogEntries (range : LogRange) (pin : Pin) :
    Tells timeout (requestLogEntries range pin) :=
  tells_request _ (fun challenge => (Request.logEntries range.start range.count range.order pin challenge).command)
    confined_pure

private theorem tells_gather (user : Channel) : Tells timeout (gather user) := by
  rintro s ⟨htimeout, hfresh⟩
  have hposts := user.posts_listen Scene.postal_fresh (hearEntry user) s.options.timeout [] s.scene
  refine ⟨⟨htimeout, (hposts s.scene.expects_anything hfresh).2⟩, fun e he => ?_⟩
  rcases error_of_gather he with ⟨wire, rfl⟩ | ⟨cause, rfl, hresult⟩
  · have hwire : (Failure.wire wire).Timeless := trivial
    exact hwire.tells.during _
  · rw [htimeout] at hresult
    exact (Channel.tells_of_listen (fun _ _ => error_of_hearEntry) hfresh hresult).during _

private theorem tells_streamLogEntries (range : LogRange) (pin : Pin) :
    Tells timeout (Errand.outcome (streamLogEntries range pin)) := by
  rw [outcome_streamLogEntries]
  exact (tells_requestLogEntries range pin).bind tells_gather

private theorem tells_readLogEntries (range : LogRange) (pin : Pin) : Tells timeout (readLogEntries range pin) := by
  intro s hs
  obtain ⟨hs', hfails⟩ := tells_streamLogEntries range pin s hs
  refine ⟨hs', fun e he => hfails e ?_⟩
  change (Except.map _ (Errand.outcome (streamLogEntries range pin) s).1) = _ at he
  cases hresult : (Errand.outcome (streamLogEntries range pin) s).1 with
  | ok _ =>
    rw [hresult] at he
    cases he
  | error cause =>
    rw [hresult] at he
    cases he
    rfl

private theorem tells_close : Tells timeout close := by
  rintro s ⟨htimeout, hfresh⟩
  have hscene := (posts_scenic Scene.postal_fresh).keeps_close s s.scene.expects_anything hfresh
  refine ⟨⟨?_, hscene.2⟩, fun e he => ?_⟩
  · rw [close_state]
    exact htimeout
  · rw [run_close, closingVerdict] at he
    dsimp only at he
    split at he
    · cases he
    · cases he
      exact Failure.Timeless.tells trivial

private theorem tells_openUser : Tells timeout openUser := by
  apply Confined.get_bind
  intro s _
  split
  · exact confined_throw (Failure.Timeless.tells trivial)
  · exact confined_throw (Failure.Timeless.tells trivial)
  · apply ((tells_onAir (Channel.confined_attach _ _)).step _).bind
    intro user
    exact confined_modify fun _ hs => hs

private theorem tells_authenticate (c : Credentials) : Tells timeout (authenticate c) := by
  rintro s ⟨htimeout, hfresh⟩
  have hwithout := (posts_scenic Scene.postal_fresh).keeps_withoutUser s s.scene.expects_anything hfresh
  rw [authenticate_eq]
  split
  · exact tells_openUser _ ⟨htimeout, hwithout.2⟩
  · exact confined_pure () _ ⟨htimeout, hwithout.2⟩

private theorem tells_engage (link : Nat) : Tells timeout (engage link) := by
  apply ((tells_onAir (Channel.confined_attach link .plain)).step _).bind
  intro general
  refine Confined.bind (confined_modify fun _ hs => ?_) fun _ => Confined.get_bind fun s _ => ?_
  · exact hs
  · split
    · exact tells_openUser
    · exact confined_pure ()

private theorem tells_connect (link : Nat) : Tells timeout (connect link) := by
  intro s hs
  rcases connect_cases link s with ⟨-, hrun⟩ | ⟨hrun, -⟩ | hrun
  · rw [hrun]
    exact tells_engage link s hs
  · rw [hrun]
    exact tells_close s hs
  · rw [hrun]
    exact tells_engage link _ (tells_close s hs).1

private theorem tells_reboot (pin : Pin) : Tells timeout (reboot pin) := by
  apply tells_request _ fun challenge => (Request.reboot pin challenge).command
  intro user
  -- Ending the connection is only attempted, so what goes wrong with it is not told.
  apply (confined_lift fun s hs => ?_).bind
  · exact fun _ => confined_pure ()
  · rw [Act.run_failureOf]
    exact (tells_close s hs).1

private theorem tells_negotiate (keys : KeyPair) (who : Pairing.Applicant) (general : Channel) :
    Tells timeout (negotiate keys who general) := by
  apply (tells_exchange _ _ _ _ general _).bind
  intro device
  apply (tells_exchange _ _ _ _ general _).bind
  intro challenge
  apply (tells_exchange _ _ _ _ general _).bind
  intro challenge
  apply (tells_onAir (Radio.confined_drawNonce _)).bind
  intro nonce
  exact (tells_exchange _ _ _ _ general _).bind fun report => confined_pure _

private theorem tells_verifyAssigned (keys : KeyPair) (assigned : Assigned) :
    Tells timeout (verifyAssigned keys assigned) := by
  apply Tells.step
  apply tells_settle
  intro e he
  obtain ⟨_, -, rfl⟩ := exists_of_mapError he
  trivial

private theorem tells_confirm (keys : KeyPair) (general : Channel) (assigned : Assigned) :
    Tells timeout (confirm keys general assigned) := by
  apply (tells_sendStep _ general _).bind
  intro _
  apply (tells_waitStep _ general _).bind
  intro reply
  apply (tells_expectStatus _ reply _).bind
  intro _
  exact (tells_authenticate _).bind fun _ => confined_pure _

private theorem tells_pair (keys : KeyPair) (who : Pairing.Applicant) : Tells timeout (pair keys who) := by
  intro s hs
  cases hgeneral : s.general with
  | none =>
    have hrefused : Failure.notConnected.Timeless := trivial
    rw [pair_of_none hgeneral]
    exact ⟨hs, fun e he => Except.error.inj he ▸ hrefused.tells⟩
  | some general =>
    rw [pair_of_some hgeneral]
    refine Confined.bind (tells_negotiate keys who general) (fun assigned => ?_) s hs
    dsimp only
    split
    · exact (tells_verifyAssigned keys assigned).bind fun _ => tells_confirm keys general assigned
    · exact tells_confirm keys general assigned

end Session

private theorem Errand.tells {timeout : Span} (errand : Errand) : Session.Tells timeout errand.act := by
  cases errand with
  | lockAction action =>
    exact Session.tells_action .smartLock fun o challenge =>
      (Request.lockAction action o.app 0 o.suffix challenge).command
  | openAction action =>
    exact Session.tells_action .opener fun o challenge =>
      (Request.openAction action o.app 0 o.suffix challenge).command
  | lockActionConfirmed action => exact Session.tells_lockActionConfirmed action
  | readConfig => exact Session.tells_readConfig.bind fun _ => confined_pure ()
  | setLogging enable pin => exact Session.tells_perform _
  | updateTime time pin => exact Session.tells_perform _
  | reboot pin => exact Session.tells_reboot pin
  | readLogEntryCount pin => exact (Session.tells_readLogEntryCount pin).bind fun _ => confined_pure ()
  | streamLogEntries range pin => exact Session.tells_streamLogEntries range pin

private theorem Call.tells {timeout : Span} (call : Call) : Session.Tells timeout call.act := by
  cases call with
  | connect link => exact Session.tells_connect link
  | authenticate credentials => exact Session.tells_authenticate credentials
  | pair keys who => exact (Session.tells_pair keys who).bind fun _ => confined_pure ()
  | close => exact Session.tells_close
  | perform request => exact Session.tells_perform request
  | errand errand => exact errand.tells
  | readStates => exact Session.tells_readStates.bind fun _ => confined_pure ()
  | readLogEntries range pin => exact (Session.tells_readLogEntries range pin).bind fun _ => confined_pure ()

/-- Whatever a client goes through, its mailboxes say nothing about time. -/
theorem Session.waits_of_reachable {s : Session} (h : Reachable s) : Waits s.options.timeout s :=
  ⟨rfl, boxes_of_reachable Scene.postal_fresh h⟩

private theorem Session.readStates_silent {o : Options} (ho : o.validate = .ok ()) (credentials : Credentials) :
    let s := facingLock o credentials [[]]
    Reachable s ∧ s.options = o ∧
      ∃ (user : Channel) (sent : Scene) (result : Except Failure Command) (after : Scene), sent.Punctual ∧
        user.waitFor (.known .keyturnerStates) o.timeout sent = (result, after) ∧
        user.Unanswered (Arrival.Passed (.known .keyturnerStates)) sent after ∧
        (readStates (s.begin none [])).1 = reportedStates result := by
  intro s
  let user : Channel := ⟨0, Profile.smartLock.user, .smartLock,
    .sealed credentials.authorization credentials.sharedKey⟩
  obtain ⟨hs, hoptions, huser, exposed, inbox, hserved⟩ :
      Reachable s ∧ s.options = o ∧ s.user = some user ∧
        ∃ exposed inbox, user.Served exposed [[]] inbox (s.begin none []).scene :=
    facingLock_spec ho credentials [[]]
  have hagenda : (s.begin none []).scene.agenda = [] := s.scene.agenda_begin_nil
  have hpunctual : (s.begin none []).scene.Punctual := s.scene.punctual_begin none []
  -- From here on the session is one of which this is known.
  clear_value s
  obtain ⟨bytes, hencode⟩ := user.codec.encode_of_le (c := askingStates) (by decide) (s.begin none []).scene.nonces
  obtain ⟨sent, hsend, -, -, hserved'⟩ := hserved.send hencode
  have hinstant := user.instant_send askingStates (s.begin none []).scene
  rw [hsend] at hinstant
  have hagenda' : sent.agenda = [] := hinstant.agenda.trans hagenda
  have hnone : ∀ appointment ∈ sent.agenda, False := by
    rw [hagenda']
    exact fun _ h => absurd h List.not_mem_nil
  refine ⟨hs, hoptions, user, sent, _, _, (hinstant.timely hpunctual).1, rfl, ?_, ?_⟩
  · apply Channel.unanswered_of_bypasses hserved'.waiting
    · rw [Channel.subscribed_iff, Channel.mailbox?, hserved'.ready.mailbox]
      rfl
    · rw [hserved'.inbox_eq]
      exact fun _ h => absurd h List.not_mem_nil
    · exact fun appointment hmem => (hnone appointment hmem).elim
    · exact fun appointment hmem => (hnone appointment hmem).elim
  · rw [readStates_of_sent (s := s.begin none []) huser hsend]
    exact congrArg (fun o : Options => reportedStates (user.waitFor _ o.timeout sent).1) hoptions

/-- Every timeout but zero is accepted. A clock can show the moment at which a timeout will have passed just where
the seconds of that moment fit its word; only then is there a wait by the clock, and one that is not answered ends
in the first millisecond in which the clock shows that moment. Such a wait tells the milliseconds of the timeout as
far as a word of 64 bits can hold them, and so does everything else that a client does and that runs out of time.
The word can hold them just if the timeout is shorter than as many milliseconds as the word has values. -/
theorem timeouts_told {o : Options} (ho : o.validate = .ok ()) :
    let told := o.timeout.millis % UInt64.size
    (∀ timeout : Span, { o with timeout }.validate = .ok () ↔ 0 < timeout.nanoseconds) ∧
      (∀ r : ClockReading, r.add? o.timeout = none ↔ ClockReading.limit ≤ r.total + o.timeout.nanoseconds) ∧
      (∀ r due : ClockReading, r.add? o.timeout = some due →
        due.total = r.total + o.timeout.nanoseconds ∧
          ∀ (ch : Channel) (id : CommandId) (t : Scene), t.Punctual → ∀ result after,
            (ch.waitFor id o.timeout t = (result, after) → ch.Unanswered (Arrival.Passed id) t after →
              result = .error (.timeout told) ∧ r.Reaches due t after) ∧
            (ch.wait o.timeout t = (result, after) → ch.Unanswered (fun _ => False) t after →
              result = .error (.timeout told) ∧ r.Reaches due t after)) ∧
      (∀ (r : ClockReading) (ch : Channel) (t : Scene),
        (∀ id : CommandId, ch.waitForBy? r id o.timeout t =
          if r.total + o.timeout.nanoseconds < ClockReading.limit then some (ch.waitFor id o.timeout t) else none) ∧
        ch.waitBy? r o.timeout t =
          if r.total + o.timeout.nanoseconds < ClockReading.limit then some (ch.wait o.timeout t) else none) ∧
      (∀ s : Session, Reachable s → s.options = o →
        ∀ (call : Call) (cancelAt : Option Nat) (agenda : List Appointment) (e : Failure) (milliseconds : Nat),
          (call.act (s.begin cancelAt agenda)).1 = .error e → e.root = .timeout milliseconds →
            milliseconds = told) ∧
      (told = o.timeout.millis ↔ o.timeout.nanoseconds < UInt64.size * 1000000) := by
  intro told
  refine ⟨fun timeout => Options.validate_timeout ho, fun r => ClockReading.add?_eq_none_iff, ?_,
    fun r ch t => ⟨fun id => ch.waitForBy?_eq r id o.timeout t, ch.waitBy?_eq r o.timeout t⟩, ?_,
    o.timeout.millis_mod_eq_iff⟩
  · intro r due hdue
    refine ⟨ClockReading.total_of_add? hdue, fun ch id t hpunctual result after => ⟨?_, ?_⟩⟩
    · intro hwait hvain
      obtain ⟨hresult, hnow⟩ := Channel.waitFor_unanswered hpunctual hwait hvain
      exact ⟨hresult, Channel.reaches_of_add? hdue hnow⟩
    · intro hwait hvain
      obtain ⟨hresult, hnow⟩ := Channel.wait_unanswered hpunctual hwait hvain
      exact ⟨hresult, Channel.reaches_of_add? hdue hnow⟩
  · rintro s hs rfl call cancelAt agenda e milliseconds he
    have hwaits := Session.waits_of_reachable hs
    exact (call.tells (s.begin cancelAt agenda) hwaits).2 e he milliseconds

/-- A lock that does not answer is waited for a minute and a half. -/
theorem timeouts_told_atSilentLock :
    let o : Options := { timeout := Span.of 90 0 }
    let key : Key := ⟨List.replicate 32 1, rfl⟩
    let credentials : Credentials := { authorization := 7, clientSecret := key, devicePublic := key }
    let s := Session.facingLock o credentials [[]]
    o.validate = .ok () ∧ Reachable s ∧ s.options = o ∧
      (∃ (r due : ClockReading) (ch : Channel) (sent after : Scene), r.add? o.timeout = some due ∧ sent.Punctual ∧
        ch.waitFor (.known .keyturnerStates) o.timeout sent = (.error (.timeout 90000), after) ∧
        r.Reaches due sent after) ∧
      (Session.readStates (s.begin none [])).1 = .error (.during "waiting for device states" (.timeout 90000)) := by
  intro o key credentials s
  have ho : o.validate = .ok () := Options.validate_eq_ok_iff.mpr ⟨by decide, nofun⟩
  let r : ClockReading := ⟨5, 0, by decide⟩
  let due : ClockReading := ⟨95, 0, by decide⟩
  have hdue : r.add? o.timeout = some due := by decide
  have htold : o.timeout.millis % UInt64.size = 90000 := by decide
  obtain ⟨hs, hoptions, ch, sent, result, after, hpunctual, hwait, hvain, hread⟩ :=
    Session.readStates_silent ho credentials
  obtain ⟨-, -, hwaits, -⟩ := timeouts_told ho
  obtain ⟨-, hends⟩ := hwaits r due hdue
  obtain ⟨hresult, hreaches⟩ := (hends ch _ sent hpunctual result after).1 hwait hvain
  rw [htold] at hresult
  rw [hresult] at hwait hread
  exact ⟨ho, hs, hoptions, ⟨r, due, ch, sent, after, hdue, hpunctual, hwait, hreaches⟩, hread⟩

/-- A timeout of as many seconds as the word of a clock can hold is accepted, and a clock that shows a minute
cannot show the moment at which it will have passed, so by this clock there is no wait. A timeout of more than five
hundred million years is accepted, and 384 milliseconds are told. -/
theorem timeouts_unusable :
    (let o : Options := { timeout := Span.of 9223372036854775807 999999999 }
      let r : ClockReading := ⟨60, 0, by decide⟩
      o.timeout.Fits ∧ o.validate = .ok () ∧ r.add? o.timeout = none ∧
        ∀ (ch : Channel) (id : CommandId) (t : Scene), ch.waitForBy? r id o.timeout t = none) ∧
      (let o : Options := { timeout := Span.of 18446744073709552 0 }
        let key : Key := ⟨List.replicate 32 1, rfl⟩
        let credentials : Credentials := { authorization := 7, clientSecret := key, devicePublic := key }
        let s := Session.facingLock o credentials [[]]
        o.timeout.Fits ∧ o.validate = .ok () ∧ Reachable s ∧ s.options = o ∧
          (Session.readStates (s.begin none [])).1 = .error (.during "waiting for device states" (.timeout 384)) ∧
          o.timeout.millis = 18446744073709552000) := by
  constructor
  · intro o r
    have ho : o.validate = .ok () := Options.validate_eq_ok_iff.mpr ⟨by decide, nofun⟩
    have hlate : ¬ r.total + o.timeout.nanoseconds < ClockReading.limit := by decide
    refine ⟨by decide, ho, ClockReading.add?_eq_none_iff.mpr (Int.not_lt.mp hlate), fun ch id t => ?_⟩
    rw [Channel.waitForBy?_eq, if_neg hlate]
  · intro o key credentials s
    have ho : o.validate = .ok () := Options.validate_eq_ok_iff.mpr ⟨by decide, nofun⟩
    have htold : Channel.tooLate o.timeout = .timeout 384 := congrArg Failure.timeout (by decide)
    obtain ⟨hs, hoptions, ch, sent, result, after, hpunctual, hwait, hvain, hread⟩ :=
      Session.readStates_silent ho credentials
    obtain ⟨hresult, -⟩ := Channel.waitFor_unanswered hpunctual hwait hvain
    rw [hresult, htold] at hread
    exact ⟨by decide, ho, hs, hoptions, hread, by decide⟩

end Latchkey
