import Latchkey.Proofs.Preflight
import Latchkey.Proofs.Twins

/-!
# Two histories of a client

Two clients that are in the same state, and whose scenes differ only in what lies in the inboxes, go the same
way. A conversation throws away what lies in the inbox before it waits for anything, and opening or closing a
channel does not look into it.
-/

namespace Latchkey

namespace Session

/-- One of the channels of the client is on this characteristic. -/
def Uses (s : Session) (i : Nat) (u : Uuid) : Prop :=
  ∃ ch : Channel, (s.general = some ch ∨ s.user = some ch) ∧ ch.On i u

/-- The clients are in the same state, and their scenes are twins as far as the client uses them. -/
structure Twin (heard : Nat → Uuid → Prop) (first second : Nat → List (Uuid × Bytes)) (s t : Session) :
    Prop where
  options : s.options = t.options
  link : s.link = t.link
  general : s.general = t.general
  user : s.user = t.user
  credentials : s.credentials = t.credentials
  scene : s.scene.Twin s.Uses heard first second t.scene

variable {heard : Nat → Uuid → Prop} {first second : Nat → List (Uuid × Bytes)} {s t : Session} {α : Type}

private theorem Twin.of_scene {heard' : Nat → Uuid → Prop} {scene scene' : Scene}
    (h : Twin heard first second s t) (hscene : scene.Twin s.Uses heard' first second scene') :
    Twin heard' first second { s with scene } { t with scene := scene' } :=
  ⟨h.options, h.link, h.general, h.user, h.credentials, hscene⟩

/-- The sessions are twins whatever the inboxes hold. -/
abbrev Resting (first second : Nat → List (Uuid × Bytes)) : Session → Session → Prop :=
  Twin (fun _ _ => False) first second

private theorem Twin.resting (h : Twin heard first second s t) : Resting first second s t :=
  ⟨h.options, h.link, h.general, h.user, h.credentials, h.scene.hear fun _ _ => False.elim⟩

/-- A conversation goes the same way in both sessions. What the inbox holds has to be the same only if
nothing is sent any more, and it is the same when something has been sent. -/
theorem Conversation.twin {writes : Bool} {user : Option Channel} {ch : Channel} {sent sent' : Bool}
    {act : Act α}
    (h : Conversation writes user ch sent sent' act) (htwin : Twin heard first second s t)
    (huser : Knows user s)
    (hch : s.Uses ch.link ch.characteristic) (hheard : sent = true → heard ch.link ch.characteristic) :
    (act s).1 = (act t).1 ∧ ∃ heard', Twin heard' first second (act s).2 (act t).2 ∧
      (sent' = true → (∃ a, (act s).1 = .ok a) → heard' ch.link ch.characteristic) := by
  induction h generalizing s t heard with
  | pure sent a => exact ⟨rfl, heard, htwin, fun hsent _ => hheard hsent⟩
  | settle sent name bare => exact ⟨rfl, heard, htwin, fun hsent _ => hheard hsent⟩
  | draw allowed sent count =>
    obtain ⟨hresult, hscene⟩ := Radio.parallel_drawNonce count _ _ htwin.scene
    rw [Act.run_onAir, Act.run_onAir]
    exact ⟨hresult, heard, htwin.of_scene hscene, fun hsent _ => hheard hsent⟩
  | send allowed sent name c =>
    obtain ⟨hresult, hscene⟩ := ch.twin_send c htwin.scene hch
    rw [run_sendStep, run_sendStep, hresult]
    exact ⟨rfl, ch.On, htwin.of_scene hscene, fun _ _ => ⟨rfl, rfl⟩⟩
  | wait name id =>
    obtain ⟨hresult, hscene⟩ := ch.twin_waitFor (.known id) s.options.timeout htwin.scene (hheard rfl)
    have htimeout : t.options.timeout = s.options.timeout := by rw [htwin.options]
    rw [run_waitStep, run_waitStep, htimeout, hresult]
    exact ⟨rfl, heard, htwin.of_scene hscene, fun _ _ => hheard rfl⟩
  | lookup known rest ih =>
    have hs := userChannel_of_some (huser ch known)
    have ht := userChannel_of_some (htwin.user.symm.trans (huser ch known))
    rw [run_bind_ok hs, run_bind_ok ht]
    exact ih htwin huser hch hheard
  | @bind α β sent sent' sent'' act next opening rest ih ih' =>
    obtain ⟨hresult, heard', htwin', hheard'⟩ := ih htwin huser hch hheard
    have hscene := opening.scenery huser
    rcases hs : act s with ⟨e | a, s'⟩
    all_goals rcases ht : act t with ⟨e' | a', t'⟩
    all_goals rw [hs, ht] at hresult htwin'
    · rw [run_bind_error hs, run_bind_error ht]
      refine ⟨congrArg Except.error (Except.error.inj hresult), heard', htwin', fun _ hok => ?_⟩
      obtain ⟨b, hb⟩ := hok
      cases hb
    · cases hresult
    · cases hresult
    · cases hresult
      rw [hs] at hheard' hscene
      have huser' : Knows user s' := by
        have hknows := opening.keeps_knows huser
        rw [hs] at hknows
        exact hknows
      have hch' : s'.Uses ch.link ch.characteristic := by
        obtain ⟨options, link, general, user', credentials, scene⟩ := s'
        cases hscene
        exact hch
      rw [run_bind_ok hs, run_bind_ok ht]
      exact ih' a htwin' huser' hch' fun hsent => hheard' hsent ⟨a, rfl⟩

theorem Dialogue.parallel {act : Act α} (h : Dialogue act) : Parallel (Resting first second) act := by
  intro s t htwin
  cases huser : s.user with
  | none =>
    have huser' : t.user = none := htwin.user.symm.trans huser
    have hmissing : s.missing = t.missing := by rw [missing, missing, htwin.link]
    rw [h.refuses s huser, h.refuses t huser', hmissing]
    exact ⟨rfl, htwin⟩
  | some user =>
    obtain ⟨hresult, heard, htwin', -⟩ := (h.converses user).twin htwin (knows_some huser)
      ⟨user, .inr huser, rfl, rfl⟩ (by simp)
    exact ⟨hresult, htwin'.resting⟩

private theorem parallel_onAir {r : Radio α}
    (hr : ∀ known, Parallel (Scene.Twin known (fun _ _ => False) first second) r) :
    Parallel (Resting first second) (Act.onAir r) := by
  intro s t h
  obtain ⟨hresult, hscene⟩ := hr s.Uses _ _ h.scene
  exact ⟨hresult, h.of_scene hscene⟩

private theorem parallel_attempt {R : Session → Session → Prop} {act : Act Unit} (h : Parallel R act) :
    Parallel R (liftM (Act.failureOf act) : Act (Option Failure)) := by
  intro s t hst
  obtain ⟨hresult, hstate⟩ := h s t hst
  rw [run_lift, run_lift, Act.failureOf_eq, Act.failureOf_eq, hresult]
  exact ⟨rfl, hstate⟩

private theorem parallel_attempts {runs : List (Radio Unit)}
    (h : ∀ run ∈ runs, ∀ known, Parallel (Scene.Twin known (fun _ _ => False) first second) run) :
    Parallel (Resting first second)
      (runs.mapM fun run => liftM (Act.failureOf (Act.onAir run)) : Act (List (Option Failure))) := by
  induction runs with
  | nil => exact parallel_pure []
  | cons run runs ih =>
    rw [List.forall_mem_cons] at h
    rw [List.mapM_cons]
    apply (parallel_attempt (parallel_onAir h.1)).bind
    intro outcome
    exact (ih h.2).bind fun outcomes => parallel_pure (outcome :: outcomes)

theorem parallel_close : Parallel (Resting first second) close := by
  intro s t h
  have hclosings : s.closings = t.closings := by rw [closings, closings, h.general, h.user, h.link]
  have hbare : Resting first second { s with link := none, general := none, user := none }
      { t with link := none, general := none, user := none } := by
    refine ⟨h.options, rfl, rfl, rfl, h.credentials, h.scene.know ?_⟩
    rintro i u ⟨ch, hnone | hnone, -⟩
    · cases hnone
    · cases hnone
  rw [close_eq, close_eq, hclosings]
  apply (parallel_attempts ?_).bind ?_ _ _ hbare
  · exact forall_closings (fun ch _ => ch.parallel_close) (fun link _ => Radio.parallel_closeLink link) t
  · intro outcomes
    split
    · exact parallel_pure ()
    · exact parallel_throw _

private theorem twin_attach {known heard : Nat → Uuid → Prop} {s t : Scene} (link : Nat) (codec : Codec)
    (h : s.Twin known heard first second t) :
    (∃ e, Channel.attach link codec s = (.error e, s) ∧ Channel.attach link codec t = (.error e, t)) ∨
      ∃ ch : Channel, Channel.attach link codec s = (.ok ch, ch.opened s) ∧
        Channel.attach link codec t = (.ok ch, ch.opened t) := by
  obtain ⟨hexposed, hfailing, -⟩ := (h.link link).toAlike
  rw [Channel.attach_eq, Channel.attach_eq, hexposed, hfailing]
  split
  · exact .inl ⟨_, rfl, rfl⟩
  · dsimp only
    split
    · exact .inl ⟨_, rfl, rfl⟩
    · exact .inr ⟨_, rfl, rfl⟩

private theorem parallel_openUser : Parallel (Resting first second) openUser := by
  intro s t h
  cases hlink : s.link with
  | none =>
    rw [openUser_unlinked hlink, openUser_unlinked (h.link.symm.trans hlink)]
    exact ⟨rfl, h⟩
  | some link =>
    have hsome : s.link.isSome := Option.isSome_of_eq_some hlink
    cases hcredentials : s.credentials with
    | none =>
      rw [openUser_anonymous hsome hcredentials,
        openUser_anonymous (h.link ▸ hsome) (h.credentials.symm.trans hcredentials)]
      exact ⟨rfl, h⟩
    | some c =>
      have hlink' : t.link = some link := h.link.symm.trans hlink
      have hcredentials' : t.credentials = some c := h.credentials.symm.trans hcredentials
      rw [openUser_eq hlink hcredentials, openUser_eq hlink' hcredentials']
      rcases twin_attach link (.sealed c.authorization c.sharedKey) h.scene with
        ⟨e, hs, ht⟩ | ⟨user, hs, ht⟩
      · rw [hs, ht]
        exact ⟨rfl, h⟩
      · rw [hs, ht]
        refine ⟨rfl, h.options, h.link, h.general, rfl, h.credentials, user.twin_opened h.scene ?_⟩
        rintro i u ⟨ch, hch | ⟨⟨⟩⟩, hon⟩
        · exact .inl ⟨ch, .inl hch, hon⟩
        · exact .inr hon

theorem parallel_authenticate (c : Credentials) : Parallel (Resting first second) (authenticate c) := by
  intro s t h
  have hwithout : s.withoutUser.Twin s.Uses (fun _ _ => False) first second t.withoutUser := by
    rw [withoutUser, withoutUser, ← h.user]
    cases s.user with
    | none => exact h.scene
    | some user => exact (user.parallel_close _ _ h.scene).2
  have hbare : Resting first second
      { s with user := none, credentials := some c, scene := s.withoutUser }
      { t with user := none, credentials := some c, scene := t.withoutUser } := by
    refine ⟨h.options, h.link, h.general, rfl, rfl, hwithout.know ?_⟩
    rintro i u ⟨ch, hch | ⟨⟨⟩⟩, hon⟩
    exact (hwithout.link i).known u ⟨ch, .inl hch, hon⟩
  have hlink : t.link.isSome = s.link.isSome := by rw [h.link]
  rw [authenticate_eq, authenticate_eq, hlink]
  split
  · exact parallel_openUser _ _ hbare
  · exact parallel_pure () _ _ hbare

private theorem parallel_engage (link : Nat) : Parallel (Resting first second) (engage link) := by
  intro s t h
  have hrun (s : Session) : engage link s =
      match Channel.attach link .plain s.scene with
      | (.error e, scene) =>
        (.error (.during "opening general data input output" e), { s with scene })
      | (.ok general, scene) => (if s.credentials.isSome then openUser else pure ())
          { s with link := some link, general := some general, scene } := by
    rw [engage, run_bind, Act.run_step, Act.run_onAir]
    rcases Channel.attach link .plain s.scene with ⟨e | general, scene⟩
    · rfl
    · rfl
  rw [hrun, hrun]
  rcases twin_attach link .plain h.scene with ⟨e, hs, ht⟩ | ⟨general, hs, ht⟩
  · rw [hs, ht]
    exact ⟨rfl, h⟩
  · have hopened : Resting first second
        { s with link := some link, general := some general, scene := general.opened s.scene }
        { t with link := some link, general := some general, scene := general.opened t.scene } := by
      refine ⟨h.options, rfl, rfl, h.user, h.credentials, general.twin_opened h.scene ?_⟩
      rintro i u ⟨ch, ⟨⟨⟩⟩ | hch, hon⟩
      · exact .inr hon
      · exact .inl ⟨ch, .inr hch, hon⟩
    have hcredentials : t.credentials.isSome = s.credentials.isSome := by rw [h.credentials]
    rw [hs, ht]
    dsimp only
    rw [hcredentials]
    split
    · exact parallel_openUser _ _ hopened
    · exact parallel_pure () _ _ hopened

theorem parallel_connect (link : Nat) : Parallel (Resting first second) (connect link) := by
  intro s t h
  have hrun (s : Session) :
      connect link s = (if s.link.isSome then (do close; engage link) else engage link) s := by
    have hconnect : connect link = get >>= fun s : Session =>
        if s.link.isSome then (do close; engage link) else engage link := rfl
    rw [hconnect, run_get_bind]
  have hlink : t.link.isSome = s.link.isSome := by rw [h.link]
  rw [hrun, hrun, hlink]
  split
  · exact (parallel_close.bind fun _ => parallel_engage link) s t h
  · exact parallel_engage link s t h

theorem parallel_pair (keys : KeyPair) (who : Pairing.Applicant) :
    Parallel (Resting first second) (pair keys who) := by
  intro s t h
  cases hgeneral : s.general with
  | none =>
    rw [pair_of_none hgeneral, pair_of_none (h.general.symm.trans hgeneral)]
    exact ⟨rfl, h⟩
  | some general =>
    have henrol := conversation_enrol keys who s.options.verifyDevice general
    obtain ⟨hresult, heard, htwin, -⟩ := henrol.twin h (knows_none s) ⟨general, .inl hgeneral, rfl, rfl⟩
      (by simp)
    have hverify : t.options.verifyDevice = s.options.verifyDevice := by rw [h.options]
    rw [pair_eq hgeneral, pair_eq (h.general.symm.trans hgeneral), hverify]
    apply parallel_bind ⟨hresult, htwin.resting⟩
    intro c
    exact (parallel_authenticate c).bind fun _ => parallel_pure c

private theorem parallel_requireFamily (required : Family) :
    Parallel (Resting first second) (requireFamily required) := by
  intro s t h
  have hunsuited : s.unsuited? required = t.unsuited? required := by
    rw [unsuited?, unsuited?, missing, missing, h.user, h.link]
  rw [run_requireFamily, run_requireFamily, hunsuited]
  cases t.unsuited? required with
  | none => exact ⟨rfl, h⟩
  | some e => exact ⟨rfl, h⟩

theorem parallel_action (required : Family) (request : Options → Bytes → Command) :
    Parallel (Resting first second) (do
      requireFamily required
      let o := (← get).options
      perform (request o)) := by
  apply (parallel_requireFamily required).bind
  intro _ s t hst
  rw [run_get_bind, run_get_bind, hst.options]
  exact (requests_perform (request t.options)).dialogue.parallel s t hst

theorem parallel_lockActionConfirmed (action : ByteCode LockAction) :
    Parallel (Resting first second) (lockActionConfirmed action) := by
  apply (parallel_requireFamily .smartLock).bind
  intro _
  cases transition? action with
  | none => exact parallel_throw _
  | some states =>
    obtain ⟨passing, final⟩ := states
    intro s t hst
    have hfollowed := (requests_followed
      (fun challenge => (Request.lockAction action t.options.app 0 t.options.suffix challenge).command)
      passing final).dialogue
    dsimp only
    rw [run_get_bind, run_get_bind, hst.options]
    exact hfollowed.parallel s t hst

theorem parallel_reboot (pin : Pin) : Parallel (Resting first second) (reboot pin) := by
  rw [reboot_eq]
  apply (requests_requestReboot pin).dialogue.parallel.bind
  intro _
  exact (parallel_attempt parallel_close).bind fun _ => parallel_pure ()

private theorem requestLogEntries_ok {range : LogRange} {pin : Pin} {user user' : Channel} {s' : Session}
    (huser : s.user = some user) (h : requestLogEntries range pin s = (.ok user', s')) : user' = user := by
  rw [requestLogEntries, run_bind] at h
  have hasked : Conversation true (some user) user false true challenge := .challenge
  have hkept := hasked.keeps_knows (knows_some huser) user rfl
  rcases hchallenge : challenge s with ⟨e | challenge, s₁⟩
  all_goals rw [hchallenge] at h hkept
  · cases h
  · dsimp only at h
    rw [run_bind_ok (userChannel_of_some hkept), run_bind, run_sendStep] at h
    cases hsend : (user.send (Request.logEntries range.start range.count range.order pin challenge).command
      s₁.scene).1 with
    | error e =>
      rw [hsend] at h
      cases h
    | ok _ =>
      rw [hsend] at h
      cases h
      rfl

theorem twin_streamLogEntries (range : LogRange) (pin : Pin) (h : Resting first second s t) :
    (streamLogEntries range pin s).1 = (streamLogEntries range pin t).1 ∧
      Resting first second (streamLogEntries range pin s).2 (streamLogEntries range pin t).2 := by
  have hrequest := (requests_requestLogEntries range pin).dialogue
  cases huser : s.user with
  | none =>
    obtain ⟨hresult, hstate⟩ := hrequest.parallel s t h
    have hs := hrequest.refuses s huser
    have ht := hrequest.refuses t (h.user.symm.trans huser)
    rw [hs, ht] at hresult hstate
    rw [streamLogEntries, streamLogEntries, hs, ht]
    exact ⟨by rw [Except.error.inj hresult], hstate⟩
  | some user =>
    obtain ⟨hresult, heard, htwin, hheard⟩ := (hrequest.converses user).twin h (knows_some huser)
      ⟨user, .inr huser, rfl, rfl⟩ (by simp)
    rw [streamLogEntries, streamLogEntries]
    rcases hs : requestLogEntries range pin s with ⟨e | user', s'⟩
    all_goals rcases ht : requestLogEntries range pin t with ⟨e' | user'', t'⟩
    all_goals rw [hs, ht] at hresult htwin
    · exact ⟨by rw [Except.error.inj hresult], htwin.resting⟩
    · cases hresult
    · cases hresult
    · cases hresult
      obtain rfl : user = user' := (requestLogEntries_ok huser hs).symm
      have hafter : Twin heard first second s' t' := htwin
      have hsame : heard user.link user.characteristic := hheard rfl ⟨user, congrArg Prod.fst hs⟩
      obtain ⟨hboth, hscene⟩ := user.twin_listen (hearEntry user) s'.options.timeout [] hafter.scene hsame
      have htimeout : t'.options.timeout = s'.options.timeout := by rw [hafter.options]
      dsimp only
      rw [htimeout]
      rcases hgathered : user.listen (hearEntry user) s'.options.timeout [] s'.scene with ⟨gathered, scene⟩
      rcases hgathered' : user.listen (hearEntry user) s'.options.timeout [] t'.scene with ⟨gathered', scene'⟩
      rw [hgathered, hgathered'] at hboth hscene
      obtain rfl : gathered = gathered' := hboth
      exact ⟨rfl, (hafter.of_scene hscene).resting⟩

theorem parallel_readLogEntries (range : LogRange) (pin : Pin) :
    Parallel (Resting first second) (readLogEntries range pin) := by
  intro s t h
  obtain ⟨hresult, hstate⟩ := twin_streamLogEntries range pin h
  rw [readLogEntries, readLogEntries]
  rcases hs : streamLogEntries range pin s with ⟨outcome, s'⟩
  rcases ht : streamLogEntries range pin t with ⟨outcome', t'⟩
  rw [hs, ht] at hresult hstate
  obtain rfl : outcome = outcome' := hresult
  exact ⟨rfl, hstate⟩

end Session

end Latchkey
