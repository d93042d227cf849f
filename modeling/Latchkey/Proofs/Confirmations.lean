import Latchkey.Proofs.Handshake
import Latchkey.Proofs.Verdicts

/-!
# Waiting for confirmation

A device that is asked to do something reports either that it has done it or that it is going to, and in the
second case reports once more when it has. Whatever else arrives meanwhile, it is these reports that decide
whether the request has been carried out.
-/

namespace Latchkey

/-- The arrival is a command that says nothing about a request. -/
def Arrival.Foreign : Arrival → Prop
  | .ok c => ¬ c.Carries (.known .status) ∧ ¬ c.Carries (.known .errorReport)
  | .error _ => False

/-- The code of the first status among arrivals and what is behind it, or what goes wrong before; `late` is
what goes wrong when nothing else arrives. -/
def statusAmong (family : Family) (late : Failure) :
    List Arrival → Except Failure (UInt8 × List Arrival)
  | [] => .error late
  | .error e :: _ => .error e
  | .ok c :: arrivals =>
    if c.Carries (.known .status) then
      match c.payload with
      | [] => .error (.wire (.tooShort 1 0))
      | code :: _ => .ok (code, arrivals)
    else if c.Carries (.known .errorReport) then .error (.device (c.reported family))
    else statusAmong family late arrivals

/-- What becomes of a request that has been accepted before these arrivals come. -/
def completion (family : Family) (late : Failure) (arrivals : List Arrival) : Except Failure Unit :=
  match statusAmong family late arrivals with
  | .error e => .error e
  | .ok (code, _) =>
    if code = 0 then .ok () else .error (.unexpectedStatus (.known .complete) (Coded.ofCode code))

/-- What becomes of a request after which these arrivals come. -/
def confirmation (family : Family) (late : Failure) (arrivals : List Arrival) : Except Failure Unit :=
  match statusAmong family late arrivals with
  | .error e => .error e
  | .ok (code, later) =>
    if code = 0 then .ok ()
    else if code = 1 then completion family late later
    else .error (.unexpectedStatus (.known .accepted) (Coded.ofCode code))

/-- The arrivals begin with foreign ones and then a status with this code, and the others come later. -/
def Heralds (code : UInt8) (arrivals later : List Arrival) : Prop :=
  ∃ foreign c, arrivals = foreign ++ .ok c :: later ∧ (∀ arrival ∈ foreign, arrival.Foreign) ∧
    c.Carries (.known .status) ∧ c.payload.head? = some code

/-- The arrivals say that a request has been carried out, at once or after it has been accepted. -/
def Confirms (arrivals : List Arrival) : Prop :=
  (∃ later, Heralds 0 arrivals later) ∨ ∃ later later', Heralds 1 arrivals later ∧ Heralds 0 later later'

section Reports

variable {family : Family} {late : Failure} {code : UInt8} {arrivals later : List Arrival}

private theorem Arrival.foreign_iff (arrival : Arrival) : arrival.Foreign ↔ arrival.Passed (.known .status) := by
  cases arrival with
  | ok c => exact Iff.rfl
  | error e => exact Iff.rfl

theorem heralds_iff : Heralds code arrivals later ↔
    ∃ c, Brings (.known .status) c arrivals later ∧ c.payload.head? = some code := by
  constructor
  · rintro ⟨foreign, c, rfl, hforeign, hstatus, hcode⟩
    have hpassed : ∀ arrival ∈ foreign, arrival.Passed (.known .status) :=
      fun arrival hmem => arrival.foreign_iff.mp (hforeign arrival hmem)
    exact ⟨c, ⟨foreign, rfl, hpassed, hstatus⟩, hcode⟩
  · rintro ⟨c, ⟨passed, rfl, hpassed, hstatus⟩, hcode⟩
    have hforeign : ∀ arrival ∈ passed, arrival.Foreign :=
      fun arrival hmem => arrival.foreign_iff.mpr (hpassed arrival hmem)
    exact ⟨passed, c, rfl, hforeign, hstatus, hcode⟩

private theorem statusAmong_eq (family : Family) (late : Failure) (arrivals : List Arrival) :
    statusAmong family late arrivals =
      match firstAmong (.known .status) family late arrivals with
      | .error e => .error e
      | .ok (c, later) =>
        match c.payload with
        | [] => .error (.wire (.tooShort 1 0))
        | code :: _ => .ok (code, later) := by
  induction arrivals with
  | nil => rfl
  | cons arrival arrivals ih =>
    by_cases hpassed : arrival.Passed (.known .status)
    · rw [firstAmong_cons_of_passed hpassed, ← ih]
      cases arrival with
      | error e => exact hpassed.elim
      | ok c => rw [statusAmong, if_neg hpassed.1, if_neg hpassed.2]
    · rw [firstAmong_cons hpassed]
      cases arrival with
      | error e => rfl
      | ok c =>
        rw [statusAmong, Arrival.answerFor]
        by_cases hstatus : c.Carries (.known .status)
        · rw [if_pos hstatus, if_pos hstatus]
          rfl
        · have hreport : c.Carries (.known .errorReport) :=
            Classical.not_not.mp fun hreport => hpassed ⟨hstatus, hreport⟩
          rw [if_neg hstatus, if_neg hstatus, if_pos hreport]
          rfl

private theorem statusAmong_of_error {e : Failure}
    (h : firstAmong (.known .status) family late arrivals = .error e) :
    statusAmong family late arrivals = .error e := by
  rw [statusAmong_eq, h]

private theorem statusAmong_of_ok {c : Command}
    (h : firstAmong (.known .status) family late arrivals = .ok (c, later)) :
    statusAmong family late arrivals =
      match c.payload with
      | [] => .error (.wire (.tooShort 1 0))
      | code :: _ => .ok (code, later) := by
  rw [statusAmong_eq, h]

private theorem statusAmong_ok_iff (family : Family) (late : Failure) :
    statusAmong family late arrivals = .ok (code, later) ↔ Heralds code arrivals later := by
  simp only [heralds_iff, ← firstAmong_ok_iff family late]
  constructor
  · intro h
    cases hfirst : firstAmong (.known .status) family late arrivals with
    | error e =>
      rw [statusAmong_of_error hfirst] at h
      cases h
    | ok first =>
      obtain ⟨c, rest⟩ := first
      rw [statusAmong_of_ok hfirst] at h
      cases hpayload : c.payload with
      | nil =>
        rw [hpayload] at h
        cases h
      | cons code' payload =>
        rw [hpayload] at h
        cases h
        exact ⟨c, rfl, by rw [hpayload]; rfl⟩
  · rintro ⟨c, hfirst, hcode⟩
    obtain ⟨payload, hpayload⟩ := List.head?_eq_some_iff.mp hcode
    rw [statusAmong_of_ok hfirst, hpayload]

private theorem completion_ok_iff (family : Family) (late : Failure) :
    completion family late arrivals = .ok () ↔ ∃ later, Heralds 0 arrivals later := by
  simp only [← statusAmong_ok_iff family late]
  rw [completion]
  rcases statusAmong family late arrivals with e | ⟨code, later⟩
  · simp
  · by_cases hcomplete : code = 0
    · simp [hcomplete]
    · simp [hcomplete]

/-- A request counts as carried out exactly if what arrives says so. -/
theorem confirmation_ok_iff (family : Family) (late : Failure) :
    confirmation family late arrivals = .ok () ↔ Confirms arrivals := by
  simp only [Confirms, exists_and_left, ← statusAmong_ok_iff family late]
  rw [confirmation]
  rcases statusAmong family late arrivals with e | ⟨code, later⟩
  · simp
  · by_cases hcomplete : code = 0
    · simp [hcomplete]
    · by_cases haccepted : code = 1
      · simp [haccepted, completion_ok_iff, statusAmong_ok_iff]
      · simp [hcomplete, haccepted]

end Reports

namespace Session

variable {s : Session} {user : Channel}

/-- Waiting until an accepted request has been carried out. -/
def awaitCompletion (user : Channel) : Act Unit := do
  let reply ← waitStep "waiting for completion" user .status
  expectStatus "completing action" reply .complete

/-- Going on after the first status. -/
def proceed (user : Channel) : ByteCode Completion → Act Unit
  | .known .complete => return ()
  | .known .accepted => awaitCompletion user
  | got => throw (.during "reading status" (.unexpectedStatus (.known .accepted) got))

private theorem run_proceed_of_ne (user : Channel) {got : ByteCode Completion} (hcomplete : got ≠ .known .complete)
    (haccepted : got ≠ .known .accepted) (s : Session) :
    proceed user got s =
      (.error (.during "reading status" (.unexpectedStatus (.known .accepted) got)), s) := by
  cases got with
  | unknown code => rfl
  | known value =>
    cases value with
    | complete => exact absurd rfl hcomplete
    | accepted => exact absurd rfl haccepted

/-- Waiting until a request has been carried out. -/
def awaitConfirmation (user : Channel) : Act Unit := do
  let reply ← waitStep "waiting for status" user .status
  let status ← readStep "reading status" statusReport reply
  proceed user status

private theorem perform_eq (request : Bytes → Command) :
    perform request = (do
      let challenge ← challenge
      let user ← userChannel
      sendStep "sending action" user (request challenge)
      awaitConfirmation user) := rfl

private theorem completion_awaited (user : Channel) (hs : s.scene.Awaiting) :
    Judges completion user s (awaitCompletion user s) := by
  apply Judges.wait _ _ hs
  · intro late arrivals e he
    rw [completion, statusAmong_of_error he]
  intro c taken scene hstatus hfirst htook hscene _
  rw [expectStatus_eq, Act.run_step, Act.run_settle]
  refine Judges.of_took htook hscene.punctual fun late later => ?_
  rw [completion, statusAmong_of_ok (hfirst late later), statusVerdict, statusReport_read hstatus]
  cases c.payload with
  | nil => rfl
  | cons code rest =>
    by_cases hcomplete : code = 0
    · subst hcomplete
      rfl
    · have hgot : (Coded.ofCode code : ByteCode Completion) ≠ .known .complete :=
        fun h => hcomplete (Coded.code_of_known h)
      dsimp only
      rw [if_neg hgot, if_neg hcomplete]
      rfl

private theorem confirmation_awaited (user : Channel) (hs : s.scene.Awaiting) :
    Judges confirmation user s (awaitConfirmation user s) := by
  apply Judges.wait _ _ hs
  · intro late arrivals e he
    rw [confirmation, statusAmong_of_error he]
  intro c taken scene hstatus hfirst htook hscene hnow
  have hread := run_readStep "reading status" statusReport c { s with scene }
  rw [statusReport_read hstatus] at hread
  cases hpayload : c.payload with
  | nil =>
    rw [hpayload] at hread
    rw [run_bind_error hread]
    refine Judges.of_took htook hscene.punctual fun late later => ?_
    rw [confirmation, statusAmong_of_ok (hfirst late later), hpayload]
    rfl
  | cons code rest =>
    have hcode (late : Failure) (later : List Arrival) :
        statusAmong user.family late (taken ++ later) = .ok (code, later) := by
      rw [statusAmong_of_ok (hfirst late later), hpayload]
    rw [hpayload] at hread
    rw [run_bind_ok hread]
    by_cases hcomplete : code = 0
    · subst hcomplete
      have hrun : proceed user (Coded.ofCode 0) { s with scene } = (.ok (), { s with scene }) := rfl
      rw [hrun]
      refine Judges.of_took htook hscene.punctual fun late later => ?_
      rw [confirmation, hcode]
      rfl
    by_cases haccepted : code = 1
    · subst haccepted
      have hrun : proceed user (Coded.ofCode 1) = awaitCompletion user := rfl
      rw [hrun]
      refine (completion_awaited (s := { s with scene }) user hscene).after htook hnow fun late later => ?_
      rw [confirmation, hcode]
      dsimp only
      rw [if_neg hcomplete, if_pos rfl]
    · have hrun := run_proceed_of_ne user (fun h => hcomplete (Coded.code_of_known h))
        (fun h => haccepted (Coded.code_of_known h)) { s with scene }
      rw [hrun]
      refine Judges.of_took htook hscene.punctual fun late later => ?_
      rw [confirmation, hcode]
      dsimp only
      rw [if_neg hcomplete, if_neg haccepted]
      rfl

end Session

/-- Once a challenge has been obtained and the request sent, the request counts as carried out exactly if what
is delivered from then on, up to the end, confirms it; otherwise it fails, and the cause is what is wrong with
the first arrival that decides the matter. Nothing that is delivered later could change that, or else nothing
decides the matter and the wait is over: everything that was to happen before has happened, and unless somebody
else closes the link or the caller gives up, the time is up. -/
theorem perform_confirmed {s : Session} (hs : Reachable s) (request : Bytes → Command)
    (cancelAt : Option Nat) (agenda : List Appointment) {user : Channel} {challenge : Bytes}
    {asked : Session} {sent : Scene} (huser : s.user = some user)
    (hchallenge : Session.challenge (s.begin cancelAt agenda) = (.ok challenge, asked))
    (hsend : user.send (request challenge) asked.scene = (.ok (), sent)) :
    let outcome := Session.perform request (s.begin cancelAt agenda)
    let heard := user.delivered sent outcome.2.scene
    let late := user.silence s.options.timeout outcome.2.scene
    (outcome.1 = .ok () ↔ Confirms heard) ∧
      outcome.1.mapError Failure.root = confirmation user.family late heard ∧
      ((∀ late' more, confirmation user.family late' (heard ++ more) = outcome.1.mapError Failure.root) ∨
        outcome.1.mapError Failure.root = .error late ∧
          (late = Channel.tooLate s.options.timeout →
            sent.now + Channel.patience s.options.timeout ≤ outcome.2.scene.now)) ∧
      (∀ appointment ∈ outcome.2.scene.agenda, outcome.2.scene.now ≤ appointment.time) ∧
      (Exclusive s → (∀ appointment ∈ agenda, appointment.happening.Spares) →
        late = if outcome.2.scene.cancelled then .cancelled else Channel.tooLate s.options.timeout) := by
  intro outcome heard late
  have hsound := Session.sound_begin cancelAt agenda (Session.sound_of_reachable hs)
  have hlegible : s.scene.Boxes Mailbox.Legible := Session.boxes_of_reachable Mailbox.legible_postal hs
  have hknows := Session.knows_some (s := s.begin cancelAt agenda) huser
  have hasked := Session.awaiting_of_challenge (s := s.begin cancelAt agenda) huser
    (hsound.user user huser).1 hsound.tidy (s.scene.punctual_begin cancelAt agenda) hlegible hchallenge
  have hscenery := Session.Conversation.challenge.scenery hknows
  rw [hchallenge] at hscenery
  obtain ⟨options, link, general, user', credentials, scene⟩ := asked
  cases hscenery
  -- Apart from the scene the session is as it was when the confirmation is waited for.
  let waiting : Session := { s with scene := sent }
  have hrun : outcome = Session.awaitConfirmation user waiting := by
    have hchannel := Session.userChannel_of_some (s := { s with scene }) huser
    have hsent := Session.sendStep_of_ok (s := { s with scene }) "sending action" hsend
    have houtcome : outcome = _ := congrFun (Session.perform_eq request) (s.begin cancelAt agenda)
    rw [houtcome, run_bind_ok hchallenge]
    exact (run_bind_ok hchannel).trans (run_bind_ok hsent)
  have hjudges := Session.confirmation_awaited (s := waiting) user (hasked.send hsend)
  rw [← hrun] at hjudges
  have hroot : outcome.1.mapError Failure.root = confirmation user.family late heard := hjudges.root
  refine ⟨?_, hroot, ?_, hjudges.punctual.now_le, fun hexclusive hspares => ?_⟩
  · rw [← confirmation_ok_iff user.family late, ← hroot]
    cases outcome.1 with
    | ok done => exact ⟨fun _ => rfl, fun _ => rfl⟩
    | error e => exact ⟨(fun h => by cases h), (fun h => by cases h)⟩
  · rcases hjudges.judged with hdecided | ⟨-, hvain, hlate⟩
    · exact .inl hdecided
    · exact .inr ⟨hvain, hlate⟩
  · have hevent : (Event.call cancelAt agenda (.perform request)).Spares := hspares
    have hcoherent : outcome.2.Coherent :=
      Session.coherent_event (Session.coherent_of_exclusive hexclusive) hevent
    have hperformed := ((Session.requests_perform request).dialogue.converses user).scenery hknows
    have huser' : outcome.2.user = some user := (congrArg Session.user hperformed).trans huser
    obtain ⟨-, -, -, hopen⟩ := hcoherent.user user huser'
    exact Channel.silence_of_open s.options.timeout hopen

theorem Session.challenge_answered {s : Session} {user : Channel} {exposed : List Uuid}
    {script : List (List Bytes)} {inbox : List Arrival} {message : Bytes} {reply : Command}
    (huser : s.user = some user) (hserved : user.Served exposed ([message] :: script) inbox s.scene)
    (hdecode : user.codec.decode message = .ok reply) (hcarries : reply.Carries (.known .challenge))
    (hlong : 32 ≤ reply.payload.length) :
    ∃ scene, Session.challenge s = (.ok reply.payload, { s with scene }) ∧
      user.Sent [asking] s.scene scene ∧ user.Served exposed script [] scene ∧
      scene.agenda <:+ s.scene.agenda := by
  obtain ⟨request, hencode⟩ := user.codec.encode_of_le (c := asking) (by decide) s.scene.nonces
  obtain ⟨scene, hanswered, hwrote, -, hserved'⟩ := hserved.answered s.options.timeout hencode hdecode hcarries
  have hread := (challengeReport_read hcarries).mpr ⟨hlong, rfl⟩
  refine ⟨scene, ?_, ⟨⟨[request], hwrote, ?_⟩, fun _ => hserved'.tidy⟩, hserved', hanswered.agenda⟩
  · rw [challenge_of_some huser]
    exact exchange_of_read _ _ _ challengeReport hanswered hread
  · rw [List.map_singleton, List.map_singleton, Codec.decode_of_encode hencode]

private theorem Session.challenge_served {s : Session} {user : Channel} {exposed : List Uuid}
    {script : List (List Bytes)} {inbox : List Arrival} {message : Bytes} {reply : Command}
    (huser : s.user = some user) (hserved : user.Served exposed ([message] :: script) inbox s.scene)
    (hdecode : user.codec.decode message = .ok reply) (hcarries : reply.Carries (.known .challenge))
    (hlong : 32 ≤ reply.payload.length) :
    ∃ scene, Session.challenge s = (.ok reply.payload, { s with scene }) ∧
      user.Served exposed script [] scene ∧ scene.agenda <:+ s.scene.agenda := by
  obtain ⟨scene, hrun, -, hserved', hagenda⟩ := challenge_answered huser hserved hdecode hcarries hlong
  exact ⟨scene, hrun, hserved', hagenda⟩

/-- A client with credentials for a lock with this script. -/
def Session.beforeReplies (credentials : Credentials) (script : List (List Bytes)) : Session :=
  (Event.call none [] (.authenticate credentials)).apply (Session.beforeLock script { bytes := [0x55] })

private theorem beforeReplies_spec (credentials : Credentials) (script : List (List Bytes)) :
    let s := Session.beforeReplies credentials script
    let user : Channel := ⟨0, Profile.smartLock.user, .smartLock,
      .sealed credentials.authorization credentials.sharedKey⟩
    Reachable s ∧ s.user = some user ∧ user.Open s.scene ∧ (user.unfinished s.scene).pending = 0 ∧
      (s.scene.link user.link).failing = [] ∧ (s.scene.link user.link).script = script := by
  intro s user
  let before := (Session.beforeLock script { bytes := [0x55] }).scene
  have hlink : user.link < before.links.length := Nat.zero_lt_one
  have hscene : s.scene = user.opened before := rfl
  refine ⟨(reachable_beforeLock _ _).event _, rfl, ?_⟩
  rw [hscene]
  refine ⟨Channel.open_opened hlink, ?_, rfl, rfl⟩
  rw [Channel.unfinished_opened hlink]
  rfl

theorem beforeReplies_served (credentials : Credentials) (script : List (List Bytes)) :
    let s := Session.beforeReplies credentials script
    let user : Channel := ⟨0, Profile.smartLock.user, .smartLock,
      .sealed credentials.authorization credentials.sharedKey⟩
    Reachable s ∧ s.user = some user ∧
      ∃ exposed inbox, user.Served exposed script inbox (s.begin none []).scene := by
  intro s user
  obtain ⟨hs, huser, hopen, hidle, hworks, hscript⟩ := beforeReplies_spec credentials script
  have hopen' : user.Open (s.begin none []).scene := hopen
  have htidy := (Session.sound_begin none [] (Session.sound_of_reachable hs)).tidy
  have hserved := hopen'.served hidle hworks htidy rfl
  have hscript' : ((s.begin none []).scene.link user.link).script = script := hscript
  rw [hscript'] at hserved
  exact ⟨hs, huser, _, _, hserved⟩

theorem Channel.Served.delivers {ch : Channel} {exposed : List Uuid} {script : List (List Bytes)}
    {inbox : List Arrival} {s : Scene} {c : Command} {replies : List Command} (nonces : Nonces)
    (h : ch.Served exposed (replies.map (ch.codec.message nonces) :: script) inbox s) (hagenda : s.agenda = [])
    (hfits : c.payload.length ≤ 65511) (hreplies : ∀ reply ∈ replies, reply.payload.length ≤ 65511) :
    ∃ sent, ch.send c s = (.ok (), sent) ∧ ∀ later, ch.delivered sent later = replies.map .ok := by
  obtain ⟨bytes, hencode⟩ := ch.codec.encode_of_le hfits s.nonces
  obtain ⟨sent, hsend, -, -, hserved⟩ := h.send hencode
  have hinstant := ch.instant_send c s
  rw [hsend] at hinstant
  have hagenda' : sent.agenda = [] := hinstant.agenda.trans hagenda
  refine ⟨sent, hsend, fun later => ?_⟩
  rw [Channel.delivered, Scene.unheard_of_nil hagenda', hserved.inbox_eq, List.map_map]
  apply List.map_congr_left
  intro reply hreply
  exact ch.codec.decode_message nonces (hreplies reply hreply)

/-- A client obtains a challenge, sends its request, and what the lock replies to it is all that is delivered. -/
theorem replies_delivered (credentials : Credentials) (request : Bytes → Command) (replies : List Command)
    (hrequest : (request (List.replicate 32 0x11)).payload.length ≤ 65511)
    (hreplies : ∀ c ∈ replies, c.payload.length ≤ 65511) :
    let user : Channel := ⟨0, Profile.smartLock.user, .smartLock,
      .sealed credentials.authorization credentials.sharedKey⟩
    let message := user.codec.message { bytes := [0x66] }
    let challenge := Command.of (.known .challenge) (List.replicate 32 0x11)
    let s := Session.beforeReplies credentials [[message challenge], replies.map message]
    Reachable s ∧ s.user = some user ∧ ∃ asked sent,
      Session.challenge (s.begin none []) = (.ok challenge.payload, asked) ∧
      user.send (request challenge.payload) asked.scene = (.ok (), sent) ∧
      ∀ later, user.delivered sent later = replies.map .ok := by
  intro user message challenge s
  obtain ⟨hs, huser, exposed, inbox, hserved⟩ :=
    beforeReplies_served credentials [[message challenge], replies.map message]
  obtain ⟨scene, hchallenge, hserved', hlater⟩ := Session.challenge_served (s := s.begin none []) huser
    hserved (user.codec.decode_message { bytes := [0x66] } (c := challenge) (by decide)) rfl (by decide)
  have hnothing : (s.begin none []).scene.agenda = [] := s.scene.agenda_begin_nil
  rw [hnothing] at hlater
  obtain ⟨sent, hsend, hdelivered⟩ :=
    hserved'.delivers { bytes := [0x66] } (List.suffix_nil.mp hlater) hrequest hreplies
  exact ⟨hs, huser, { s.begin none [] with scene }, sent, hchallenge, hsend, hdelivered⟩

/-- A lock accepts a request and carries it out, and says something else in between. -/
theorem perform_confirmed_accepted :
    let key : Key := ⟨List.replicate 32 1, rfl⟩
    let credentials : Credentials := { authorization := 7, clientSecret := key, devicePublic := key }
    let user : Channel :=
      ⟨0, Profile.smartLock.user, .smartLock, .sealed 7 credentials.sharedKey⟩
    let message := user.codec.message { bytes := [0x66] }
    let challenge := Command.of (.known .challenge) (List.replicate 32 0x11)
    let replies : List Command :=
      [.of (.known .status) [1], .of (.known .keyturnerStates) [], .of (.known .status) [0]]
    let script := [[message challenge], replies.map message]
    let s := Session.beforeReplies credentials script
    let request (challenge : Bytes) : Command :=
      (Request.lockAction (.known .unlock) 0 0 none challenge).command
    Reachable s ∧ s.user = some user ∧ ∃ asked sent,
      Session.challenge (s.begin none []) = (.ok challenge.payload, asked) ∧
      user.send (request challenge.payload) asked.scene = (.ok (), sent) ∧
      (Session.perform request (s.begin none [])).1 = .ok () := by
  intro key credentials user message challenge replies script s request
  obtain ⟨hs, huser, hopen, hidle, hworks, hscript⟩ : Reachable s ∧ s.user = some user ∧
      user.Open s.scene ∧ (user.unfinished s.scene).pending = 0 ∧
      (s.scene.link user.link).failing = [] ∧ (s.scene.link user.link).script = script :=
    beforeReplies_spec credentials script
  -- From here on the session is one of which this is known.
  clear_value s
  have hopen' : user.Open (s.begin none []).scene := hopen
  have hscript' : ((s.begin none []).scene.link user.link).script = script := hscript
  have htidy := (Session.sound_begin none [] (Session.sound_of_reachable hs)).tidy
  have hserved := hopen'.served hidle hworks htidy rfl
  rw [hscript'] at hserved
  have hdecode {c : Command} (hfits : c.payload.length ≤ 65511) : user.codec.decode (message c) = .ok c :=
    user.codec.decode_message { bytes := [0x66] } hfits
  obtain ⟨scene, hchallenge, hserved', hlater⟩ := Session.challenge_served (s := s.begin none []) huser
    hserved (hdecode (c := challenge) (by decide)) rfl (by decide)
  obtain ⟨bytes, hencode⟩ :=
    user.codec.encode_of_le (c := request challenge.payload) (by decide) scene.nonces
  obtain ⟨sent, hsend, -, -, hserved''⟩ := hserved'.send hencode
  obtain ⟨hiff, -⟩ := perform_confirmed hs request none [] huser hchallenge hsend
  refine ⟨hs, huser, { s.begin none [] with scene }, sent, hchallenge, hsend, hiff.mpr ?_⟩
  -- Nothing is to happen later, so the replies are all that is delivered.
  have hagenda : sent.agenda = [] := by
    have hinstant := user.instant_send (request challenge.payload) scene
    have hnothing : (s.begin none []).scene.agenda = [] := s.scene.agenda_begin_nil
    rw [hsend] at hinstant
    rw [hnothing] at hlater
    exact hinstant.agenda.trans (List.suffix_nil.mp hlater)
  have hheard : (replies.map message).map (fun reply => user.codec.decode reply) = replies.map .ok := by
    have hfits : ∀ c ∈ replies, c.payload.length ≤ 65511 := by decide
    rw [List.map_map]
    apply List.map_congr_left
    intro c hc
    rw [Function.comp_apply, hdecode (hfits c hc)]
  have hconfirms : Confirms (replies.map .ok) := by
    let moving : Arrival := .ok (.of (.known .keyturnerStates) [])
    have hforeign : ∀ arrival ∈ [moving], arrival.Foreign := by
      rw [List.forall_mem_singleton]
      exact ⟨by decide, by decide⟩
    have hnone : ∀ arrival ∈ ([] : List Arrival), arrival.Foreign := fun _ h => absurd h List.not_mem_nil
    have haccepted : Heralds 1 (replies.map .ok) [moving, .ok (.of (.known .status) [0])] :=
      ⟨[], .of (.known .status) [1], rfl, hnone, rfl, rfl⟩
    have hcomplete : Heralds 0 [moving, .ok (.of (.known .status) [0])] [] :=
      ⟨[moving], .of (.known .status) [0], rfl, hforeign, rfl, rfl⟩
    exact .inr ⟨_, _, haccepted, hcomplete⟩
  rw [Channel.delivered, Scene.unheard_of_nil hagenda, hserved''.inbox_eq, hheard]
  exact hconfirms

end Latchkey
