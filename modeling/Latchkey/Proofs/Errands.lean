import Latchkey.Proofs.Conversations

/-!
# Errands

The operations that make a device do something. Each of them may refuse before it has done anything; beyond
that they differ only in the request they make and in what they wait for afterwards.
-/

namespace Latchkey

/-- An operation that makes a request with a challenge. -/
inductive Errand where
  | lockAction (action : ByteCode LockAction)
  | openAction (action : ByteCode OpenAction)
  | lockActionConfirmed (action : ByteCode LockAction)
  | readConfig
  | setLogging (enable : Bool) (pin : Pin)
  | updateTime (time : Moment) (pin : Pin)
  | reboot (pin : Pin)
  | readLogEntryCount (pin : Pin)
  | streamLogEntries (range : LogRange) (pin : Pin)

namespace Errand

/-- The request that is made with a challenge. -/
def request (o : Options) : Errand → Bytes → Command
  | lockAction action, challenge | lockActionConfirmed action, challenge =>
    (Request.lockAction action o.app 0 o.suffix challenge).command
  | openAction action, challenge => (Request.openAction action o.app 0 o.suffix challenge).command
  | readConfig, challenge => (Request.config challenge).command
  | setLogging enable pin, challenge => (Request.logging enable pin challenge).command
  | updateTime time pin, challenge => (Request.updateTime time pin challenge).command
  | reboot pin, challenge => (Request.reboot pin challenge).command
  | readLogEntryCount pin, challenge => (Request.logEntryCount pin challenge).command
  | streamLogEntries range pin, challenge =>
    (Request.logEntries range.start range.count range.order pin challenge).command

/-- What is left of a stream of entries apart from the entries. -/
def outcome {α : Type} (act : StateM Session (α × Except Failure Unit)) : Act Unit := fun s =>
  ((act s).1.2, (act s).2)

/-- The operation, apart from what it returns. -/
def act : Errand → Act Unit
  | lockAction action => Session.lockAction action
  | openAction action => Session.openAction action
  | lockActionConfirmed action => Session.lockActionConfirmed action
  | readConfig => discard Session.readConfig
  | setLogging enable pin => Session.setLogging enable pin
  | updateTime time pin => Session.updateTime time pin
  | reboot pin => Session.reboot pin
  | readLogEntryCount pin => discard (Session.readLogEntryCount pin)
  | streamLogEntries range pin => outcome (Session.streamLogEntries range pin)

end Errand

namespace Session

theorem requests_perform (request : Bytes → Command) : Requests request (perform request) := by
  refine ⟨"sending action", _, rfl, fun user => ?_⟩
  apply Conversation.bind (.wait _ _)
  intro reply
  apply Conversation.bind (.read _ _ reply)
  intro status
  split
  · exact .pure true ()
  · exact .bind (.wait _ _) fun reply => .expectStatus _ reply _
  · exact .fail _ trivial

theorem requests_readConfig :
    Requests (fun challenge => (Request.config challenge).command) readConfig := by
  refine ⟨"requesting config", _, rfl, fun user => ?_⟩
  apply Conversation.bind (.wait _ _)
  intro reply
  exact .bind (.ofWire _ _) fun _ => .pure true reply

theorem requests_readLogEntryCount (pin : Pin) :
    Requests (fun challenge => (Request.logEntryCount pin challenge).command) (readLogEntryCount pin) := by
  refine ⟨"requesting log entry count", _, rfl, fun user => ?_⟩
  apply Conversation.bind (.wait _ _)
  intro count
  apply Conversation.bind (.read _ _ count)
  intro _
  apply Conversation.bind (.wait _ _)
  intro reply
  exact .bind (.expectStatus _ reply _) fun _ => .pure true count

theorem requests_requestLogEntries (range : LogRange) (pin : Pin) :
    Requests (fun challenge =>
      (Request.logEntries range.start range.count range.order pin challenge).command)
      (requestLogEntries range pin) :=
  ⟨"requesting log entries", _, rfl, fun user => .pure true user⟩

/-- Asking a device to restart, without ending the connection. -/
def requestReboot (pin : Pin) : Act Unit := do
  let challenge ← challenge
  let user ← userChannel
  sendStep "sending reboot request" user (Request.reboot pin challenge).command
  return ()

theorem requests_requestReboot (pin : Pin) :
    Requests (fun challenge => (Request.reboot pin challenge).command) (requestReboot pin) :=
  ⟨"sending reboot request", _, rfl, fun _ => .pure true ()⟩

theorem reboot_eq (pin : Pin) :
    reboot pin = (do
      requestReboot pin
      let _ ← Act.failureOf close) := by
  simp only [reboot, requestReboot, bind_assoc, pure_bind]

private theorem protects_reboot (pin : Pin) :
    Protects (fun challenge => (Request.reboot pin challenge).command) (reboot pin) := by
  rw [reboot_eq]
  apply (requests_requestReboot pin).protects.bind
  intro _ R hR hclose
  exact hR.lasting.bind (Act.keeps_attempt hclose) fun _ => hR.lasting.pure ()

/-- Gathering the entries that were asked for. -/
def gather (user : Channel) : Act Unit := fun s =>
  let heard := user.listen (hearEntry user) s.options.timeout [] s.scene
  (match heard.1.2 with
    | .ok result => result
    | .error e => .error (.during "waiting for log entry" e),
    { s with scene := heard.2 })

theorem outcome_streamLogEntries (range : LogRange) (pin : Pin) :
    Errand.outcome (streamLogEntries range pin) = requestLogEntries range pin >>= gather := by
  funext s
  rw [run_bind, Errand.outcome, streamLogEntries]
  rcases requestLogEntries range pin s with ⟨e | user, s'⟩
  · rfl
  · rfl

theorem protects_streamLogEntries (range : LogRange) (pin : Pin) :
    Protects (fun challenge =>
      (Request.logEntries range.start range.count range.order pin challenge).command)
      (Errand.outcome (streamLogEntries range pin)) := by
  rw [outcome_streamLogEntries]
  apply (requests_requestLogEntries range pin).protects.bind
  intro user R hR _ s
  exact hR.listens user (hearEntry user) s.options.timeout [] s

theorem requests_followed (request : Bytes → Command) (passing final : LockState) :
    Requests request (do
      let challenge ← challenge
      let user ← userChannel
      sendStep "sending lock action" user (request challenge)
      let reply ← waitStep "waiting for acceptance" user .status
      expectStatus "waiting for acceptance" reply .accepted
      expectLock "waiting for transitional state" user passing
      expectLock "waiting for final state" user final
      let reply ← waitStep "waiting for completion" user .status
      expectStatus "waiting for completion" reply .complete) := by
  refine ⟨"sending lock action", _, rfl, fun user => ?_⟩
  apply Conversation.bind (.wait _ _)
  intro reply
  apply Conversation.bind (.expectStatus _ reply _)
  intro _
  apply Conversation.bind (.expectLock _ passing)
  intro _
  apply Conversation.bind (.expectLock _ final)
  intro _
  exact .bind (.wait _ _) fun reply => .expectStatus _ reply _

theorem dialogue_readStates : Dialogue readStates where
  refuses _ hnone := run_bind_error (userChannel_of_none hnone)
  converses user := by
    apply Conversation.lookup rfl
    apply Conversation.send_wait
    intro reply
    exact .bind (.ofWire _ _) fun _ => .pure true reply

section Families

variable {α : Type} {required : Family} {s : Session}

theorem run_suited (h : s.unsuited? required = none) (next : Act α) :
    ((do requireFamily required; next) : Act α) s = next s := by
  have hrun := run_requireFamily required s
  rw [h] at hrun
  exact run_bind_ok hrun

private theorem run_unsuited (h : s.unsuited? required ≠ none) (next : Act α) :
    (((do requireFamily required; next) : Act α) s).2 = s := by
  have hrun := run_requireFamily required s
  obtain ⟨e, he⟩ := Option.ne_none_iff_exists'.mp h
  rw [he] at hrun
  rw [run_bind_error hrun]

end Families

end Session

namespace Errand

/-- Nothing speaks against the errand, except that there may be no user channel. -/
def Suits (s : Session) : Errand → Prop
  | lockAction _ => s.unsuited? .smartLock = none
  | openAction _ => s.unsuited? .opener = none
  | lockActionConfirmed action => s.unsuited? .smartLock = none ∧ Session.transition? action ≠ none
  | _ => True

variable {errand : Errand} {s : Session}

/-- An errand that nothing speaks against makes its request with a challenge. -/
theorem act_of_suits (h : errand.Suits s) :
    ∃ act : Act Unit, Session.Protects (errand.request s.options) act ∧ errand.act s = act s := by
  cases errand with
  | lockAction action =>
    rw [act, Session.lockAction, Session.run_suited h, run_get_bind]
    exact ⟨_, (Session.requests_perform _).protects, rfl⟩
  | openAction action =>
    rw [act, Session.openAction, Session.run_suited h, run_get_bind]
    exact ⟨_, (Session.requests_perform _).protects, rfl⟩
  | lockActionConfirmed action =>
    obtain ⟨hsuited, hfollowed⟩ := h
    obtain ⟨⟨passing, final⟩, hstates⟩ := Option.ne_none_iff_exists'.mp hfollowed
    rw [act, Session.lockActionConfirmed, Session.run_suited hsuited, hstates]
    exact ⟨_, (Session.requests_followed _ passing final).protects, run_get_bind _ s⟩
  | readConfig => exact ⟨_, Session.requests_readConfig.protects.bind fun _ R hR _ => hR.lasting.pure _, rfl⟩
  | setLogging enable pin => exact ⟨_, (Session.requests_perform _).protects, rfl⟩
  | updateTime time pin => exact ⟨_, (Session.requests_perform _).protects, rfl⟩
  | reboot pin => exact ⟨_, Session.protects_reboot pin, rfl⟩
  | readLogEntryCount pin =>
    have hprotects := (Session.requests_readLogEntryCount pin).protects
    exact ⟨_, hprotects.bind fun _ R hR _ => hR.lasting.pure _, rfl⟩
  | streamLogEntries range pin => exact ⟨_, Session.protects_streamLogEntries range pin, rfl⟩

private theorem act_of_not_suits (h : ¬ errand.Suits s) : (errand.act s).2 = s := by
  cases errand with
  | lockAction action => exact Session.run_unsuited h _
  | openAction action => exact Session.run_unsuited h _
  | lockActionConfirmed action =>
    by_cases hsuited : s.unsuited? .smartLock = none
    · have hunfollowed : Session.transition? action = none :=
        Classical.not_not.mp fun hfollowed => h ⟨hsuited, hfollowed⟩
      rw [act, Session.lockActionConfirmed, Session.run_suited hsuited, hunfollowed]
      rfl
    · exact Session.run_unsuited hsuited _
  | _ => exact absurd trivial h

/-- An errand refuses without having done anything, or it makes its request with a challenge. -/
theorem act_cases (errand : Errand) (s : Session) :
    (errand.act s).2 = s ∨
      ∃ act : Act Unit, Session.Protects (errand.request s.options) act ∧ errand.act s = act s := by
  by_cases h : errand.Suits s
  · exact .inr (act_of_suits h)
  · exact .inl (act_of_not_suits h)

theorem act_of_none (errand : Errand) (h : s.user = none) : (errand.act s).2 = s := by
  rcases errand.act_cases s with hsame | ⟨act, hprotects, hrun⟩
  · exact hsame
  · rw [hrun]
    exact hprotects.refuses h

end Errand

end Latchkey
