import Latchkey.Proofs.Legibility

/-!
# What an operation needs

An operation that works over a channel is refused at once if the channel is not there, if the device is not
of the right family, or if the action cannot be followed. That changes nothing at all, and such a refusal is
the only failure without a step around it.
-/

namespace Latchkey

namespace Session

/-- What is wrong if there is no user channel. -/
def missing? (s : Session) : Option Failure := if s.user.isNone then some s.missing else none

/-- What is wrong if the action passes through no states. -/
def unfollowed? (action : ByteCode LockAction) : Option Failure :=
  if (transition? action).isNone then some (.unsupportedAction action) else none

end Session

/-- Why the operation is refused, if it is. -/
def Call.refusal? (s : Session) : Call → Option Failure
  | connect _ | authenticate _ | close => none
  | pair .. => if s.general.isNone then some .notConnected else none
  | errand (.lockAction _) => s.unsuited? .smartLock
  | errand (.openAction _) => s.unsuited? .opener
  | errand (.lockActionConfirmed action) => (s.unsuited? .smartLock).or (Session.unfollowed? action)
  | errand _ | perform _ | readStates | readLogEntries .. => s.missing?

/-- The operation works over a channel that is there already. -/
def Call.Converses : Call → Prop
  | connect _ | authenticate _ | close => False
  | pair .. | errand _ | perform _ | readStates | readLogEntries .. => True

namespace Session

variable {α : Type} {act : Act α} {refusal? : Option Failure} {s : Session}

/-- The act is refused for this reason and changes nothing; or there is no reason, and if it fails, it fails
in exactly one step. -/
def Gated (refusal? : Option Failure) (act : Act α) (s : Session) : Prop :=
  match refusal? with
  | some e => e.Bare ∧ act s = (.error e, s)
  | none => Locates act s

theorem timeless_missing (s : Session) : s.missing.Timeless := by
  rw [missing]
  split <;> trivial

private theorem bare_missing (s : Session) : s.missing.Bare := s.timeless_missing.bare

private theorem gated_of_user (hnone : s.user = none → act s = (.error s.missing, s))
    (hsome : ∀ user, s.user = some user → Locates act s) : Gated s.missing? act s := by
  rw [missing?]
  cases huser : s.user with
  | none => exact ⟨s.bare_missing, hnone huser⟩
  | some user => exact hsome user huser

private theorem Dialogue.gated (h : Dialogue act) (hs : s.scene.Boxes Mailbox.Legible) :
    Gated s.missing? act s :=
  gated_of_user (h.refuses s) fun user huser => (h.converses user).locates (knows_some huser) hs

private theorem Gated.discard (h : Gated refusal? act s) : Gated refusal? (discard act) s := by
  cases refusal? with
  | none => exact Locates.bind h fun _ _ _ e he => nomatch he
  | some e =>
    obtain ⟨hbare, hrun⟩ := h
    exact ⟨hbare, run_bind_error hrun⟩

theorem user_of_suited {required : Family} (h : s.unsuited? required = none) :
    ∃ user, s.user = some user ∧ user.family = required := by
  rw [unsuited?] at h
  cases huser : s.user with
  | none =>
    rw [huser] at h
    cases h
  | some user =>
    rw [huser] at h
    dsimp only at h
    split at h
    · exact ⟨user, rfl, ‹_›⟩
    · cases h

private theorem gated_requireFamily {required : Family} {next : Act α}
    (h : ∀ user, s.user = some user → Gated refusal? next s) :
    Gated ((s.unsuited? required).or refusal?) (do requireFamily required; next) s := by
  cases hunsuited : s.unsuited? required with
  | none =>
    obtain ⟨user, huser, -⟩ := user_of_suited hunsuited
    have hnext := h user huser
    have hsame := run_suited hunsuited next
    cases refusal? with
    | none =>
      show Locates _ s
      rw [Locates, hsame]
      exact hnext
    | some e => exact ⟨hnext.1, hsame.trans hnext.2⟩
  | some e =>
    have hrun := run_requireFamily required s
    rw [hunsuited] at hrun
    have hbare : e.Bare := by
      rw [unsuited?] at hunsuited
      split at hunsuited
      · cases hunsuited
        exact s.bare_missing
      · split at hunsuited
        · cases hunsuited
        · cases hunsuited
          trivial
    exact ⟨hbare, run_bind_error hrun⟩

private theorem gated_reboot (hs : s.scene.Boxes Mailbox.Legible) (pin : Pin) : Gated s.missing? (reboot pin) s := by
  have hrequest := (requests_requestReboot pin).dialogue
  rw [reboot_eq]
  apply gated_of_user
  · intro hnone
    exact run_bind_error (hrequest.refuses s hnone)
  · intro user huser
    -- Ending the connection is only attempted, so it is the request that fails.
    apply ((hrequest.converses user).locates (knows_some huser) hs).bind
    intro _ s' _ e he
    rw [run_bind, run_lift] at he
    cases he

private theorem ending_of_hearEntry {user : Channel} {records : List LogRecord} {arrival : Arrival} {e : Failure}
    (h : hearEntry user records arrival = .done (.ok (.error e))) :
    ∃ wire, e = .during "reading log entry" (.wire wire) := by
  cases arrival with
  | error cause => cases h
  | ok c =>
    rw [hearEntry] at h
    split at h
    · cases h
    · split at h
      · split at h
        · cases h
        · cases h
          exact ⟨_, rfl⟩
      · cases h
      · cases h

theorem error_of_hearEntry {user : Channel} {records : List LogRecord} {arrival : Arrival} {e : Failure}
    (h : hearEntry user records arrival = .done (.error e)) : arrival = .error e ∨ e.Timeless := by
  cases arrival with
  | error cause =>
    cases h
    exact .inl rfl
  | ok c =>
    rw [hearEntry] at h
    split at h
    · rename_i hfault
      cases h
      exact .inr (Channel.timeless_of_refuseFault hfault)
    · split at h
      · split at h <;> cases h
      · cases h
      · cases h
        exact .inr trivial

private theorem bare_of_hearEntry {user : Channel} {records : List LogRecord} {arrival : Arrival} {e : Failure}
    (hlegible : arrival.Legible) (h : hearEntry user records arrival = .done (.error e)) : e.Bare := by
  rcases error_of_hearEntry h with rfl | htimeless
  · exact hlegible e rfl
  · exact htimeless.bare

theorem error_of_gather {user : Channel} {e : Failure} (h : (gather user s).1 = .error e) :
    (∃ wire, e = .during "reading log entry" (.wire wire)) ∨
      ∃ cause, e = .during "waiting for log entry" cause ∧
        (user.listen (hearEntry user) s.options.timeout [] s.scene).1.2 = .error cause := by
  rw [gather] at h
  dsimp only at h
  cases hresult : (user.listen (hearEntry user) s.options.timeout [] s.scene).1.2 with
  | ok result =>
    rw [hresult] at h
    obtain ⟨heard, -, ⟨arrival, hdone, -⟩ | ⟨hvain, -⟩⟩ :=
      user.heeds_listen (hearEntry user) s.options.timeout [] s.scene
    · rw [hresult, show result = .error e from h] at hdone
      exact .inl (ending_of_hearEntry hdone)
    · rw [hresult] at hvain
      rcases hvain with hvain | hvain | hvain <;> cases hvain
  | error cause =>
    rw [hresult] at h
    exact .inr ⟨cause, (Except.error.inj h).symm, rfl⟩

private theorem located_of_gather {user : Channel} {e : Failure} (hs : s.scene.Boxes Mailbox.Legible)
    (he : (gather user s).1 = .error e) : e.Located := by
  rcases error_of_gather he with ⟨wire, rfl⟩ | ⟨cause, rfl, hresult⟩
  · exact ⟨_, _, rfl, trivial⟩
  · exact ⟨_, cause, rfl, Channel.bare_of_listen (fun _ _ _ => bare_of_hearEntry) hs hresult⟩

private theorem gated_streamLogEntries (hs : s.scene.Boxes Mailbox.Legible) (range : LogRange) (pin : Pin) :
    Gated s.missing? (Errand.outcome (streamLogEntries range pin)) s := by
  have hrequest := (requests_requestLogEntries range pin).dialogue
  rw [outcome_streamLogEntries]
  apply gated_of_user
  · intro hnone
    exact run_bind_error (hrequest.refuses s hnone)
  · intro user huser
    apply ((hrequest.converses user).locates (knows_some huser) hs).bind
    intro user' s' hrun e he
    have hs' := (hrequest.converses user).legible (knows_some huser) hs
    rw [hrun] at hs'
    exact located_of_gather hs' he

private theorem gated_readLogEntries (hs : s.scene.Boxes Mailbox.Legible) (range : LogRange) (pin : Pin) :
    Gated s.missing? (readLogEntries range pin) s := by
  have hread : readLogEntries range pin s =
      ((Errand.outcome (streamLogEntries range pin) s).1.map fun () => (streamLogEntries range pin s).1.1,
        (Errand.outcome (streamLogEntries range pin) s).2) := rfl
  have hstream := gated_streamLogEntries hs range pin
  cases hmissing : s.missing? with
  | none =>
    rw [hmissing] at hstream
    intro e he
    rw [hread] at he
    cases hresult : (Errand.outcome (streamLogEntries range pin) s).1 with
    | ok _ =>
      rw [hresult] at he
      cases he
    | error cause =>
      rw [hresult] at he
      cases he
      exact hstream e hresult
  | some e =>
    rw [hmissing] at hstream
    obtain ⟨hbare, hrun⟩ := hstream
    rw [hrun] at hread
    exact ⟨hbare, hread⟩

private theorem gated_action (hs : s.scene.Boxes Mailbox.Legible) (required : Family)
    (request : Options → Bytes → Command) :
    Gated (s.unsuited? required) (do
      requireFamily required
      let o := (← get).options
      perform (request o)) s := by
  rw [← @Option.or_none _ (s.unsuited? required)]
  apply gated_requireFamily
  intro user huser
  show Locates _ s
  rw [Locates, run_get_bind]
  exact ((requests_perform (request s.options)).dialogue.converses user).locates (knows_some huser) hs

private theorem gated_lockActionConfirmed (hs : s.scene.Boxes Mailbox.Legible) (action : ByteCode LockAction) :
    Gated ((s.unsuited? .smartLock).or (unfollowed? action)) (lockActionConfirmed action) s := by
  apply gated_requireFamily
  intro user huser
  rw [unfollowed?]
  cases transition? action with
  | none => exact ⟨trivial, rfl⟩
  | some states =>
    obtain ⟨passing, final⟩ := states
    have hfollowed := (requests_followed
      (fun challenge => (Request.lockAction action s.options.app 0 s.options.suffix challenge).command)
      passing final).dialogue
    show Locates _ s
    dsimp only
    rw [Locates, run_get_bind]
    exact (hfollowed.converses user).locates (knows_some huser) hs

private theorem locates_authenticate (c : Credentials) (hlink : s.link.isSome) : Locates (authenticate c) s := by
  intro e he
  rw [authenticate_eq, if_pos hlink] at he
  obtain ⟨link, hlink⟩ := Option.isSome_iff_exists.mp hlink
  rw [openUser_eq (s := { s with user := none, credentials := some c, scene := s.withoutUser }) hlink rfl]
    at he
  rcases hattach : Channel.attach link (.sealed c.authorization c.sharedKey) s.withoutUser with
    ⟨cause | user, scene⟩
  · rw [hattach] at he
    cases he
    exact ⟨_, cause, rfl, Channel.bare_of_attach (congrArg Prod.fst hattach)⟩
  · rw [hattach] at he
    cases he

private theorem gated_pair (hs : s.scene.Boxes Mailbox.Legible) (hlinked : s.Linked) (keys : KeyPair)
    (who : Pairing.Applicant) :
    Gated (if s.general.isNone then some .notConnected else none) (pair keys who) s := by
  cases hgeneral : s.general with
  | none => exact ⟨trivial, pair_of_none hgeneral⟩
  | some general =>
    show Locates (pair keys who) s
    have henrol := conversation_enrol keys who s.options.verifyDevice general
    rw [Locates, pair_eq hgeneral]
    apply (henrol.locates (knows_none s) hs).bind
    intro c s' hrun
    have hlink : s'.link.isSome := by
      have hscene := congrArg Session.link (henrol.scenery (knows_none s))
      rw [hrun] at hscene
      rw [show s'.link = s.link from hscene, hlinked, hgeneral]
      rfl
    apply (locates_authenticate c hlink).bind
    intro _ _ _ e he
    cases he

end Session

/-- Whatever the operation, it is refused for its reason and changes nothing, or fails in one step. -/
theorem Call.gated {s : Session} (hs : s.scene.Boxes Mailbox.Legible) (hlinked : s.Linked) (call : Call)
    (hcall : call.Converses) : Session.Gated (call.refusal? s) call.act s := by
  cases call with
  | connect link => exact hcall.elim
  | authenticate credentials => exact hcall.elim
  | close => exact hcall.elim
  | pair keys who => exact (Session.gated_pair hs hlinked keys who).discard
  | perform request => exact (Session.requests_perform request).dialogue.gated hs
  | readStates => exact (Session.dialogue_readStates.gated hs).discard
  | readLogEntries range pin => exact (Session.gated_readLogEntries hs range pin).discard
  | errand errand =>
    cases errand with
    | lockAction action =>
      exact Session.gated_action hs .smartLock fun o challenge =>
        (Request.lockAction action o.app 0 o.suffix challenge).command
    | openAction action =>
      exact Session.gated_action hs .opener fun o challenge =>
        (Request.openAction action o.app 0 o.suffix challenge).command
    | lockActionConfirmed action => exact Session.gated_lockActionConfirmed hs action
    | readConfig => exact (Session.requests_readConfig.dialogue.gated hs).discard
    | setLogging enable pin => exact (Session.requests_perform _).dialogue.gated hs
    | updateTime time pin => exact (Session.requests_perform _).dialogue.gated hs
    | reboot pin => exact Session.gated_reboot hs pin
    | readLogEntryCount pin => exact ((Session.requests_readLogEntryCount pin).dialogue.gated hs).discard
    | streamLogEntries range pin => exact Session.gated_streamLogEntries hs range pin

theorem Call.refusal?_begin (call : Call) (s : Session) (cancelAt : Option Nat)
    (agenda : List Appointment) : call.refusal? (s.begin cancelAt agenda) = call.refusal? s := by
  cases call with
  | errand errand => cases errand <;> rfl
  | _ => rfl

/-- An operation over an open channel fails without a step around the failure exactly if there is a reason
to refuse it. Then it fails for this reason, and neither client nor scene have changed. Every other failure
has exactly one step around it. -/
theorem refused_exactly {s : Session} (hs : Reachable s) {call : Call} (hcall : call.Converses)
    (cancelAt : Option Nat) (agenda : List Appointment) :
    let before := s.begin cancelAt agenda
    let outcome := call.act before
    ((∃ e, outcome.1 = .error e ∧ e.Bare) ↔ ∃ e, call.refusal? s = some e) ∧
      (∀ e, call.refusal? s = some e → outcome = (.error e, before)) ∧
      ∀ e, outcome.1 = .error e → call.refusal? s = none → e.Located := by
  intro before outcome
  have hlegible := Session.boxes_of_reachable Mailbox.legible_postal hs
  have hlinked := Session.linked_of_reachable hs
  have hgated := Call.gated (s := before) hlegible hlinked call hcall
  rw [Call.refusal?_begin] at hgated
  cases hrefusal : call.refusal? s with
  | some reason =>
    rw [hrefusal] at hgated
    obtain ⟨hbare, hrun⟩ := hgated
    have hresult : outcome = (.error reason, before) := hrun
    refine ⟨⟨fun _ => ⟨reason, rfl⟩, fun _ => ⟨reason, congrArg Prod.fst hresult, hbare⟩⟩, ?_, ?_⟩
    · rintro e ⟨⟩
      exact hresult
    · intro e _ hnone
      cases hnone
  | none =>
    rw [hrefusal] at hgated
    refine ⟨⟨?_, fun h => ?_⟩, ?_, fun e he _ => hgated e he⟩
    · rintro ⟨e, he, hbare⟩
      exact absurd hbare (hgated e he).not_bare
    · obtain ⟨e, he⟩ := h
      cases he
    · intro e he
      cases he

/-- A lock is not asked to let anybody in as an opener is. -/
theorem refused_exactly_atLock :
    let call : Call := .errand (.openAction (.known .electricStrikeActuation))
    let before := Session.atLock.begin none []
    Reachable Session.atLock ∧ call.Converses ∧
      call.act before = (.error (.unsupportedFamily .opener .smartLock), before) := by
  intro call before
  have hcall : call.Converses := trivial
  have hrefusal : call.refusal? Session.atLock = some (.unsupportedFamily .opener .smartLock) := rfl
  obtain ⟨-, hrefused, -⟩ := refused_exactly reachable_atLock hcall none []
  exact ⟨reachable_atLock, hcall, hrefused _ hrefusal⟩

end Latchkey
