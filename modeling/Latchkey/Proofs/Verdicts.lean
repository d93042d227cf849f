import Latchkey.Proofs.Coherence
import Latchkey.Proofs.Legibility
import Latchkey.Proofs.Selection

/-!
# Verdicts

Once a request has been sent, a client waits for one command after the other and judges each of them. What comes
of the request is settled by what is delivered meanwhile, up to the first arrival that decides the matter.
-/

namespace Latchkey

namespace Scene

/-- Nobody has given up, nothing has been missed, and what has arrived is legible. -/
structure Awaiting (s : Scene) : Prop where
  waiting : s.cancelled = false
  punctual : s.Punctual
  legible : s.Boxes Mailbox.Legible

theorem Awaiting.send {ch : Channel} {c : Command} {s s' : Scene} {result : Except Failure Unit}
    (h : s.Awaiting) (hsend : ch.send c s = (result, s')) : s'.Awaiting := by
  have hinstant := ch.instant_send c s
  have hposts := (ch.posts_send Mailbox.legible_postal c s s.expects_anything h.legible).2
  rw [hsend] at hinstant hposts
  exact ⟨hinstant.cancelled.trans h.waiting, (hinstant.timely h.punctual).1, hposts⟩

end Scene

private theorem Channel.cancelled_of_waitFor {ch : Channel} {id : CommandId} {timeout : Span} {c : Command}
    {s s' : Scene} (h : ch.waitFor id timeout s = (.ok c, s')) : s'.cancelled = false := by
  obtain ⟨heard, -, hends⟩ := ch.settles_listen (ch.hearFor id) timeout () s
  rw [waitFor_eq, Prod.mk.injEq] at h
  obtain ⟨hok, rfl⟩ := h
  rcases hends with ⟨arrival, -, hwaiting, -⟩ | ⟨hvain, -⟩
  · exact hwaiting
  · rw [hok] at hvain
    cases hvain

theorem Act.mapError_ok_iff {result : Except Failure Unit} {explain : Failure → Failure} :
    result.mapError explain = .ok () ↔ result = .ok () := by
  cases result with
  | ok done => exact ⟨fun _ => rfl, fun _ => rfl⟩
  | error e => exact ⟨nofun, nofun⟩

namespace Session

variable {s : Session} {user : Channel}

/-- What has been delivered by the end of a wait says what comes of it. Either nothing that comes later would
change that, or nothing of it decides the matter and the wait is over. -/
structure Judges (judge : Family → Failure → List Arrival → Except Failure Unit) (user : Channel)
    (s : Session) (outcome : Except Failure Unit × Session) : Prop where
  took : ∃ taken, user.Took taken s.scene outcome.2.scene
  punctual : outcome.2.scene.Punctual
  judged :
    (∀ late more, judge user.family late (user.delivered s.scene outcome.2.scene ++ more) =
      outcome.1.mapError Failure.root) ∨
    (∀ late, judge user.family late (user.delivered s.scene outcome.2.scene) = .error late) ∧
      outcome.1.mapError Failure.root = .error (user.silence s.options.timeout outcome.2.scene) ∧
      (user.silence s.options.timeout outcome.2.scene = Channel.tooLate s.options.timeout →
        s.scene.now + Channel.patience s.options.timeout ≤ outcome.2.scene.now)

namespace Judges

variable {judge judge' : Family → Failure → List Arrival → Except Failure Unit}
  {outcome : Except Failure Unit × Session} {taken : List Arrival} {scene : Scene}

theorem root (h : Judges judge user s outcome) :
    outcome.1.mapError Failure.root = judge user.family (user.silence s.options.timeout outcome.2.scene)
      (user.delivered s.scene outcome.2.scene) := by
  rcases h.judged with hdecided | ⟨hundecided, hvain, -⟩
  · rw [← hdecided (user.silence s.options.timeout outcome.2.scene) [], List.append_nil]
  · rw [hvain, hundecided]

theorem ok_iff (h : Judges judge user s outcome) :
    outcome.1 = .ok () ↔ judge user.family (user.silence s.options.timeout outcome.2.scene)
      (user.delivered s.scene outcome.2.scene) = .ok () := by
  rw [← h.root, Act.mapError_ok_iff]

theorem of_took {result : Except Failure Unit} (htook : user.Took taken s.scene scene)
    (hpunctual : scene.Punctual)
    (hjudge : ∀ late later, judge user.family late (taken ++ later) = result.mapError Failure.root) :
    Judges judge user s (result, { s with scene }) := by
  refine ⟨⟨taken, htook⟩, hpunctual, .inl fun late more => ?_⟩
  rw [htook.delivered, List.append_assoc]
  exact hjudge ..

theorem after (h : Judges judge' user { s with scene } outcome) (htook : user.Took taken s.scene scene)
    (hnow : s.scene.now ≤ scene.now)
    (hjudge : ∀ late later, judge user.family late (taken ++ later) = judge' user.family late later) :
    Judges judge user s outcome := by
  obtain ⟨taken', htook'⟩ := h.took
  have hdelivered : user.delivered s.scene outcome.2.scene =
      taken ++ user.delivered scene outcome.2.scene := htook.delivered_append htook'
  refine ⟨⟨taken ++ taken', htook.trans htook'⟩, h.punctual, ?_⟩
  rw [hdelivered]
  rcases h.judged with hdecided | ⟨hundecided, hvain, hlate⟩
  · refine .inl fun late more => ?_
    rw [List.append_assoc, hjudge]
    exact hdecided late more
  · refine .inr ⟨fun late => ?_, hvain, fun htimeout => ?_⟩
    · rw [hjudge]
      exact hundecided late
    · exact Nat.le_trans (Nat.add_le_add_right hnow _) (hlate htimeout)

/-- A wait for an id either fails as the first command with this id among what is delivered does, or it is up
to what comes next. -/
theorem wait (name : String) (user : Channel) {id : CommandName} {next : Command → Act Unit}
    (hs : s.scene.Awaiting)
    (herror : ∀ late arrivals e, firstAmong (.known id) user.family late arrivals = .error e →
      judge user.family late arrivals = .error e)
    (hnext : ∀ (c : Command) (taken : List Arrival) (scene : Scene), c.Carries (.known id) →
      (∀ late later, firstAmong (.known id) user.family late (taken ++ later) = .ok (c, later)) →
      user.Took taken s.scene scene → scene.Awaiting → s.scene.now ≤ scene.now →
      Judges judge user s (next c { s with scene })) :
    Judges judge user s ((waitStep name user id >>= next) s) := by
  obtain ⟨taken, htook, hends⟩ :=
    user.selects_waitFor (.known id) s.options.timeout hs.punctual hs.waiting
  have hlegible := user.legible_waitFor (.known id) s.options.timeout hs.legible
  obtain ⟨hpunctual, hnow⟩ := user.timely_waitFor (.known id) s.options.timeout s.scene hs.punctual
  rcases hwait : user.waitFor (.known id) s.options.timeout s.scene with ⟨e | c, scene⟩
  all_goals rw [hwait] at htook hends hlegible hpunctual hnow
  · have hbare : e.Bare := Channel.bare_of_waitFor hs.legible (congrArg Prod.fst hwait)
    have hroot : (Except.error (.during name e) : Except Failure Unit).mapError Failure.root = .error e :=
      congrArg Except.error hbare.root
    rw [run_bind_error (waitStep_of_error name hwait)]
    rcases hends with ⟨passed, arrival, rfl, hpassed, hstops, hanswer⟩ | ⟨hpassed, hvain, hnothing, hlate⟩
    · refine of_took htook hpunctual fun late later => ?_
      rw [hroot]
      apply herror
      rw [firstAmong_decided hpassed hstops, ← hanswer]
      rfl
    · refine ⟨⟨taken, htook⟩, hpunctual, .inr ⟨fun late => ?_, hroot.trans (congrArg _ ?_), hlate⟩⟩
      · rw [htook.delivered, hnothing, List.append_nil]
        exact herror _ _ _ (firstAmong_of_passed hpassed)
      · exact Except.error.inj hvain
  · rw [run_bind_ok (waitStep_of_ok name hwait)]
    rcases hends with ⟨passed, arrival, rfl, hpassed, hstops, hanswer⟩ | ⟨-, hvain, -⟩
    · have hscene : scene.Awaiting := ⟨Channel.cancelled_of_waitFor hwait, hpunctual, hlegible⟩
      refine hnext c _ scene (Channel.waitFor_ok hwait).1 (fun late later => ?_) htook hscene hnow
      rw [firstAmong_decided hpassed hstops, ← hanswer]
      rfl
    · cases hvain

end Judges

theorem awaiting_of_challenge {challenge : Bytes} {s' : Session} (huser : s.user = some user)
    (hlink : user.link < s.scene.links.length) (htidy : s.scene.Tidy) (hpunctual : s.scene.Punctual)
    (hlegible : s.scene.Boxes Mailbox.Legible) (h : Session.challenge s = (.ok challenge, s')) :
    s'.scene.Awaiting := by
  have hlegible' := Session.Conversation.challenge.legible (knows_some huser) hlegible
  rw [h] at hlegible'
  rcases exchange_cases "requesting challenge" "waiting for challenge" "reading challenge" challengeReport
      asking hlink htidy with ⟨e, commands, scene, hrun, -⟩ | ⟨reply, payload, scene, hrun, hanswered, -⟩
  all_goals rw [← challenge_of_some huser, h] at hrun
  · cases hrun
  · cases hrun
    obtain ⟨sent, hsend, -, hwait⟩ := hanswered
    have hsent := (user.instant_send asking s.scene).timely hpunctual
    rw [hsend] at hsent
    have hwaited := user.timely_waitFor (.known challengeReport.name) s.options.timeout sent hsent.1
    rw [hwait] at hwaited
    exact ⟨Channel.cancelled_of_waitFor hwait, hwaited.1, hlegible'⟩

/-- Once a challenge has been obtained and the request sent, the operation is up to what it does next. -/
theorem requested (hs : Reachable s) (request : Bytes → Command) (cancelAt : Option Nat)
    (agenda : List Appointment) {challenge : Bytes} {asked : Session} {sent : Scene} (huser : s.user = some user)
    (hchallenge : Session.challenge (s.begin cancelAt agenda) = (.ok challenge, asked))
    (hsend : user.send (request challenge) asked.scene = (.ok (), sent)) :
    sent.Awaiting ∧ ∀ {α : Type} (name : String) (tail : Channel → Act α),
      (do
        let challenge ← Session.challenge
        let user ← userChannel
        sendStep name user (request challenge)
        tail user : Act α) (s.begin cancelAt agenda) = tail user { s with scene := sent } := by
  have hsound := sound_begin cancelAt agenda (sound_of_reachable hs)
  have hlegible : s.scene.Boxes Mailbox.Legible := boxes_of_reachable Mailbox.legible_postal hs
  have hasked := awaiting_of_challenge (s := s.begin cancelAt agenda) huser
    (hsound.user user huser).1 hsound.tidy (s.scene.punctual_begin cancelAt agenda) hlegible hchallenge
  have hscenery := Conversation.challenge.scenery (knows_some (s := s.begin cancelAt agenda) huser)
  rw [hchallenge] at hscenery
  obtain ⟨options, link, general, user', credentials, scene⟩ := asked
  cases hscenery
  refine ⟨hasked.send hsend, fun name tail => ?_⟩
  rw [run_bind_ok hchallenge]
  have hchannel := userChannel_of_some (s := { s with scene }) huser
  exact (run_bind_ok hchannel).trans (run_bind_ok (sendStep_of_ok (s := { s with scene }) name hsend))

theorem silence_of_exclusive (hs : Exclusive s) (call : Call) (cancelAt : Option Nat)
    {agenda : List Appointment} (hspares : ∀ appointment ∈ agenda, appointment.happening.Spares)
    (huser : (call.act (s.begin cancelAt agenda)).2.user = some user) (timeout : Span) :
    user.silence timeout (call.act (s.begin cancelAt agenda)).2.scene =
      if (call.act (s.begin cancelAt agenda)).2.scene.cancelled then .cancelled else Channel.tooLate timeout := by
  have hevent : (Event.call cancelAt agenda call).Spares := hspares
  have hcoherent := coherent_event (coherent_of_exclusive hs) hevent
  obtain ⟨-, -, -, hopen⟩ := hcoherent.user user huser
  exact Channel.silence_of_open timeout hopen

end Session

/-- A wait for a command with a certain id, which is then judged. -/
structure Stage where
  name : String
  id : CommandName
  verdict : Command → Except Failure Unit
  bare : ∀ c e, verdict c = .error e → e.Bare

namespace Stage

def act (user : Channel) (stage : Stage) : Act Unit := do
  let c ← Session.waitStep stage.name user stage.id
  Act.step stage.name (Act.settle (stage.verdict c))

/-- One stage after the other, as long as none fails. -/
def actAll (user : Channel) : List Stage → Act Unit
  | [] => return ()
  | stage :: stages => do
    stage.act user
    actAll user stages

theorem conversation_actAll (user : Channel) (stages : List Stage) :
    Session.Conversation false none user true true (actAll user stages) := by
  induction stages with
  | nil => exact .pure true ()
  | cons stage stages ih =>
    apply Session.Conversation.bind
    · exact .bind (.wait stage.name stage.id) fun c => .settle true stage.name (stage.bare c)
    · exact fun _ => ih

/-- What the stages make of these arrivals: each takes out what its wait goes through and leaves the others to
the next one. -/
def through (family : Family) (late : Failure) : List Stage → List Arrival → Except Failure Unit
  | [], _ => .ok ()
  | stage :: stages, arrivals =>
    match firstAmong (.known stage.id) family late arrivals with
    | .error e => .error e
    | .ok (c, later) =>
      match stage.verdict c with
      | .error e => .error e
      | .ok () => through family late stages later

/-- The arrivals bring a command that the stage takes, and the others come later. -/
def Accepts (stage : Stage) (arrivals later : List Arrival) : Prop :=
  ∃ c, Brings (.known stage.id) c arrivals later ∧ stage.verdict c = .ok ()

/-- The arrivals bring one command for each stage, in order. -/
def Passes : List Stage → List Arrival → Prop
  | [], _ => True
  | stage :: stages, arrivals => ∃ later, stage.Accepts arrivals later ∧ Passes stages later

variable {family : Family} {late : Failure} {stage : Stage} {stages : List Stage} {arrivals later : List Arrival}

theorem accepts_iff {P : Command → Prop}
    (h : ∀ c : Command, c.Carries (.known stage.id) → (stage.verdict c = .ok () ↔ P c)) :
    stage.Accepts arrivals later ↔ ∃ c, Brings (.known stage.id) c arrivals later ∧ P c := by
  constructor
  · rintro ⟨c, hbrings, hverdict⟩
    exact ⟨c, hbrings, (h c hbrings.carries).mp hverdict⟩
  · rintro ⟨c, hbrings, hc⟩
    exact ⟨c, hbrings, (h c hbrings.carries).mpr hc⟩

theorem through_of_accepts (h : stage.Accepts arrivals later) :
    through family late (stage :: stages) arrivals = through family late stages later := by
  obtain ⟨c, hbrings, hverdict⟩ := h
  rw [through, (firstAmong_ok_iff family late).mpr hbrings]
  dsimp only
  rw [hverdict]

theorem through_of_passed {arrival : Arrival} (h : arrival.Passed (.known stage.id)) :
    through family late (stage :: stages) (arrival :: arrivals) =
      through family late (stage :: stages) arrivals := by
  rw [through, firstAmong_cons_of_passed h, through]

theorem through_of_error {c : Command} {e : Failure} (hbrings : Brings (.known stage.id) c arrivals later)
    (hverdict : stage.verdict c = .error e) : through family late (stage :: stages) arrivals = .error e := by
  rw [through, (firstAmong_ok_iff family late).mpr hbrings]
  dsimp only
  rw [hverdict]

/-- The stages are gone through exactly if there is a command for each of them. -/
theorem through_ok_iff (family : Family) (late : Failure) :
    through family late stages arrivals = .ok () ↔ Passes stages arrivals := by
  induction stages generalizing arrivals with
  | nil => exact ⟨fun _ => trivial, fun _ => rfl⟩
  | cons stage stages ih =>
    constructor
    · intro h
      cases hfirst : firstAmong (.known stage.id) family late arrivals with
      | error e =>
        rw [through, hfirst] at h
        cases h
      | ok first =>
        obtain ⟨c, later⟩ := first
        have hbrings := (firstAmong_ok_iff family late).mp hfirst
        cases hverdict : stage.verdict c with
        | error e =>
          rw [through_of_error hbrings hverdict] at h
          cases h
        | ok _ =>
          rw [through_of_accepts ⟨c, hbrings, hverdict⟩] at h
          exact ⟨later, ⟨c, hbrings, hverdict⟩, ih.mp h⟩
    · rintro ⟨later, haccepts, hpasses⟩
      rw [through_of_accepts haccepts]
      exact ih.mpr hpasses

/-- What comes of the stages is what they make of the arrivals that are delivered meanwhile. -/
theorem all_awaited (user : Channel) (stages : List Stage) {s : Session} (hs : s.scene.Awaiting) :
    Session.Judges (through · · stages) user s (actAll user stages s) := by
  induction stages generalizing s with
  | nil => exact .of_took (.refl user s.scene) hs.punctual fun _ _ => rfl
  | cons stage stages ih =>
    rw [actAll, act, bind_assoc]
    apply Session.Judges.wait _ _ hs
    · intro late arrivals e he
      rw [through, he]
    intro c taken scene _ hfirst htook hscene hnow
    cases hverdict : stage.verdict c with
    | error e =>
      have hroot := (stage.bare c e hverdict).root
      refine .of_took htook hscene.punctual fun late later => ?_
      rw [through, hfirst]
      dsimp only
      rw [hverdict]
      exact congrArg Except.error hroot.symm
    | ok _ =>
      refine (ih (s := { s with scene }) hscene).after htook hnow fun late later => ?_
      rw [through, hfirst]
      dsimp only
      rw [hverdict]

end Stage

end Latchkey
