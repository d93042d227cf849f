import Latchkey.Proofs.Confirmations
import Latchkey.Proofs.Layouts

/-!
# Following a lock

A lock that is followed through an action reports four times: that it has accepted the request, that the bolt is
moving, that the bolt has come to rest, and that the request is complete. Each report is waited for on its own,
and whatever else arrives meanwhile is passed over, even a report that is waited for later.
-/

namespace Latchkey

/-- The arrivals begin with those that a wait for a state report passes over and then one with the lock in this
state, and the others come later. -/
def Shows (state : LockState) (arrivals later : List Arrival) : Prop :=
  ∃ c, Brings (.known .keyturnerStates) c arrivals later ∧ 19 ≤ c.payload.length ∧
    c.payload[1]? = some (Vocabulary.code state)

/-- The arrivals say that a lock has accepted an action, has passed through the one state into the other, and
has completed the action. -/
def Follows (passing final : LockState) (arrivals : List Arrival) : Prop :=
  ∃ accepted moved settled completed, Heralds 1 arrivals accepted ∧ Shows passing accepted moved ∧
    Shows final moved settled ∧ Heralds 0 settled completed

section Reports

variable {c : Command}

private theorem Completion.ofCode_code (value : Completion) :
    Coded.ofCode (Vocabulary.code value) = .known value := by
  cases value <;> rfl

private theorem LockState.ofCode_code (value : LockState) : Coded.ofCode (Vocabulary.code value) = .known value := by
  cases value <;> rfl

private theorem Session.statusVerdict_ok_iff (h : c.Carries (.known .status)) (expected : Completion) :
    statusVerdict c expected = .ok () ↔ c.payload.head? = some (Vocabulary.code expected) := by
  rw [statusVerdict_ok, statusReport_read h]
  cases c.payload with
  | nil => exact ⟨nofun, nofun⟩
  | cons code rest =>
    rw [List.head?_cons, Except.ok.injEq, Option.some.injEq]
    refine ⟨Coded.code_of_known, ?_⟩
    rintro rfl
    exact expected.ofCode_code

private theorem Session.lockVerdict_of_shown (h : c.Carries (.known .keyturnerStates)) (hlong : 19 ≤ c.payload.length)
    {got : LockState} (hgot : c.payload[1]? = some (Vocabulary.code got)) (expected : LockState) :
    lockVerdict c expected =
      if got = expected then .ok () else .error (.unexpectedLockState (.known expected) (.known got)) := by
  rcases StateReport.read_cases h with ⟨-, report, hread, hlock, -⟩ | ⟨hshort, -⟩
  · rw [hgot, Option.map_some, got.ofCode_code, Option.some.injEq] at hlock
    rw [lockVerdict, hread]
    dsimp only
    rw [← hlock]
    simp only [Coded.known.injEq]
  · omega

private theorem Session.lockVerdict_ok_iff (h : c.Carries (.known .keyturnerStates)) (expected : LockState) :
    lockVerdict c expected = .ok () ↔
      19 ≤ c.payload.length ∧ c.payload[1]? = some (Vocabulary.code expected) := by
  constructor
  · intro hok
    rcases StateReport.read_cases h with ⟨hlong, report, hread, hlock, -⟩ | ⟨-, hread⟩
    · rw [lockVerdict, hread] at hok
      dsimp only at hok
      split at hok
      · rename_i hexpected
        obtain ⟨code, hcode, hreport⟩ := Option.map_eq_some_iff.mp hlock
        rw [hexpected] at hreport
        exact ⟨hlong, hcode.trans (congrArg some (Coded.code_of_known hreport))⟩
      · cases hok
    · rw [lockVerdict, hread] at hok
      cases hok
  · rintro ⟨hlong, hcode⟩
    rw [lockVerdict_of_shown h hlong hcode, if_pos rfl]

end Reports

namespace Stage

/-- Waiting for a certain status. -/
def status (name : String) (expected : Completion) : Stage where
  name := name
  id := .status
  verdict c := Session.statusVerdict c expected
  bare c := Session.bare_of_statusVerdict c expected

/-- Waiting for the lock to be in a certain state. -/
def lock (name : String) (expected : LockState) : Stage where
  name := name
  id := .keyturnerStates
  verdict c := Session.lockVerdict c expected
  bare c := Session.bare_of_lockVerdict c expected

/-- What is waited for after a lock has been asked to act. -/
def followed (passing final : LockState) : List Stage := [
  status "waiting for acceptance" .accepted,
  lock "waiting for transitional state" passing,
  lock "waiting for final state" final,
  status "waiting for completion" .complete]

variable {arrivals later : List Arrival} {passing final : LockState}

private theorem status_accepts_iff (name : String) (expected : Completion) :
    (status name expected).Accepts arrivals later ↔ Heralds (Vocabulary.code expected) arrivals later :=
  (accepts_iff fun _ hcarries => Session.statusVerdict_ok_iff hcarries expected).trans heralds_iff.symm

private theorem lock_accepts_iff (name : String) (expected : LockState) :
    (lock name expected).Accepts arrivals later ↔ Shows expected arrivals later :=
  accepts_iff fun _ hcarries => Session.lockVerdict_ok_iff hcarries expected

/-- Who follows a lock is content with exactly those arrivals that say that it has acted. -/
theorem passes_followed_iff : Passes (followed passing final) arrivals ↔ Follows passing final arrivals := by
  simp only [followed, Passes, status_accepts_iff, lock_accepts_iff, and_true, Follows, exists_and_left]
  exact Iff.rfl

section Moved

variable {family : Family} {late : Failure} {accepted moved again : List Arrival}

private theorem through_followed_moved (haccepted : Heralds 1 arrivals accepted)
    (hmoved : Shows passing accepted moved) :
    through family late (followed passing final) arrivals =
      through family late [lock "waiting for final state" final, status "waiting for completion" .complete]
        moved := by
  rw [followed, through_of_accepts ((status_accepts_iff _ .accepted).mpr haccepted),
    through_of_accepts ((lock_accepts_iff _ passing).mpr hmoved)]

/-- A status that comes while the lock is moving changes nothing. -/
theorem through_premature {c : Command} (name : String) (stages : List Stage)
    (h : c.Carries (.known .status)) :
    through family late (lock name final :: stages) (.ok c :: moved) =
      through family late (lock name final :: stages) moved := by
  have hpassed : Arrival.Passed (.known .keyturnerStates) (.ok c) :=
    ⟨h.excludes (by decide), h.excludes (by decide)⟩
  exact through_of_passed hpassed

private theorem through_again (name : String) (stages : List Stage) (hdiffer : passing ≠ final)
    (hagain : Shows passing moved again) :
    through family late (lock name final :: stages) moved =
      .error (.unexpectedLockState (.known final) (.known passing)) := by
  obtain ⟨c, hbrings, hlong, hcode⟩ := hagain
  apply through_of_error hbrings
  have hverdict := Session.lockVerdict_of_shown hbrings.carries hlong hcode final
  rw [if_neg hdiffer] at hverdict
  exact hverdict

end Moved

end Stage

namespace Session

private theorem actAll_followed (user : Channel) (passing final : LockState) :
    Stage.actAll user (Stage.followed passing final) = (do
      let reply ← waitStep "waiting for acceptance" user .status
      expectStatus "waiting for acceptance" reply .accepted
      expectLock "waiting for transitional state" user passing
      expectLock "waiting for final state" user final
      let reply ← waitStep "waiting for completion" user .status
      expectStatus "waiting for completion" reply .complete) := by
  simp only [Stage.followed, Stage.actAll, Stage.act, Stage.status, Stage.lock, expectStatus_eq, expectLock_eq,
    bind_assoc, bind_pure_unit]

/-- Following a lock that can be followed comes down to the stages, once the request has been sent. -/
theorem run_lockActionConfirmed {s : Session} (hs : Reachable s) {action : LockAction} {passing final : LockState}
    (haction : transition? (.known action) = some (passing, final)) (cancelAt : Option Nat)
    (agenda : List Appointment) {user : Channel} {challenge : Bytes} {asked : Session} {sent : Scene}
    (huser : s.user = some user) (hfamily : user.family = .smartLock)
    (hchallenge : Session.challenge (s.begin cancelAt agenda) = (.ok challenge, asked))
    (hsend : user.send (Request.lockAction (.known action) s.options.app 0 s.options.suffix challenge).command
      asked.scene = (.ok (), sent)) :
    sent.Awaiting ∧ lockActionConfirmed (.known action) (s.begin cancelAt agenda) =
      Stage.actAll user (Stage.followed passing final) { s with scene := sent } := by
  obtain ⟨hawaiting, hrun⟩ := requested hs
    (fun challenge => (Request.lockAction (.known action) s.options.app 0 s.options.suffix challenge).command)
    cancelAt agenda huser hchallenge hsend
  refine ⟨hawaiting, ?_⟩
  have hsuited : (s.begin cancelAt agenda).unsuited? .smartLock = none := by
    have huser' : (s.begin cancelAt agenda).user = some user := huser
    rw [unsuited?, huser']
    exact if_pos hfamily
  rw [lockActionConfirmed, run_suited hsuited, haction]
  dsimp only
  rw [run_get_bind, actAll_followed]
  exact hrun "sending lock action" _

end Session

/-- Once an action that can be followed has been requested of a lock, following it succeeds exactly if what is
delivered from then on, up to the end, says that the lock has accepted it, has passed through the one state into
the other and has completed it; otherwise it fails at the first report that is amiss. Nothing that is delivered
later could change that, or else nothing decides the matter and the wait is over: everything that was to happen
before has happened, and unless somebody else closes the link or the caller gives up, the time is up. A status
that comes between the two state reports is passed over, and a lock that reports the first state twice has not
acted. -/
theorem lockActionConfirmed_follows {s : Session} (hs : Reachable s) {action : LockAction}
    {passing final : LockState}
    (haction : (action, passing, final) ∈ [(.unlock, .unlocking, .unlocked), (.lock, .locking, .locked),
      (.unlatch, .unlatching, .unlatched)])
    (cancelAt : Option Nat) (agenda : List Appointment) {user : Channel} {challenge : Bytes} {asked : Session}
    {sent : Scene} (huser : s.user = some user) (hfamily : user.family = .smartLock)
    (hchallenge : Session.challenge (s.begin cancelAt agenda) = (.ok challenge, asked))
    (hsend : user.send (Request.lockAction (.known action) s.options.app 0 s.options.suffix challenge).command
      asked.scene = (.ok (), sent)) :
    let outcome := Session.lockActionConfirmed (.known action) (s.begin cancelAt agenda)
    let heard := user.delivered sent outcome.2.scene
    let late := user.silence s.options.timeout outcome.2.scene
    (outcome.1 = .ok () ↔ Follows passing final heard) ∧
      outcome.1.mapError Failure.root = Stage.through user.family late (Stage.followed passing final) heard ∧
      ((∀ late' more, Stage.through user.family late' (Stage.followed passing final) (heard ++ more) =
          outcome.1.mapError Failure.root) ∨
        outcome.1.mapError Failure.root = .error late ∧
          (late = Channel.tooLate s.options.timeout →
            sent.now + Channel.patience s.options.timeout ≤ outcome.2.scene.now)) ∧
      (∀ appointment ∈ outcome.2.scene.agenda, outcome.2.scene.now ≤ appointment.time) ∧
      (Exclusive s → (∀ appointment ∈ agenda, appointment.happening.Spares) →
        late = if outcome.2.scene.cancelled then .cancelled else Channel.tooLate s.options.timeout) ∧
      (∀ accepted moved status, Heralds 1 heard accepted → Shows passing accepted (.ok status :: moved) →
        status.Carries (.known .status) →
        (outcome.1 = .ok () ↔ ∃ settled completed, Shows final moved settled ∧ Heralds 0 settled completed)) ∧
      ∀ accepted moved again, Heralds 1 heard accepted → Shows passing accepted moved →
        Shows passing moved again →
        outcome.1.mapError Failure.root = .error (.unexpectedLockState (.known final) (.known passing)) := by
  intro outcome heard late
  have htransition : Session.transition? (.known action) = some (passing, final) := by
    simp only [List.mem_cons, List.not_mem_nil, or_false, Prod.mk.injEq] at haction
    rcases haction with ⟨rfl, rfl, rfl⟩ | ⟨rfl, rfl, rfl⟩ | ⟨rfl, rfl, rfl⟩ <;> rfl
  have hdiffer : passing ≠ final := by
    simp only [List.mem_cons, List.not_mem_nil, or_false, Prod.mk.injEq] at haction
    rcases haction with ⟨-, rfl, rfl⟩ | ⟨-, rfl, rfl⟩ | ⟨-, rfl, rfl⟩ <;> nofun
  obtain ⟨hawaiting, hrun⟩ :=
    Session.run_lockActionConfirmed hs htransition cancelAt agenda huser hfamily hchallenge hsend
  have houtcome : outcome = _ := hrun
  have hjudges := Stage.all_awaited (s := { s with scene := sent }) user (Stage.followed passing final) hawaiting
  rw [← houtcome] at hjudges
  have hroot : outcome.1.mapError Failure.root =
      Stage.through user.family late (Stage.followed passing final) heard := hjudges.root
  have hok : outcome.1 = .ok () ↔
      Stage.through user.family late (Stage.followed passing final) heard = .ok () := hjudges.ok_iff
  refine ⟨?_, hroot, ?_, hjudges.punctual.now_le, fun hexclusive hspares => ?_, ?_, ?_⟩
  · rw [hok, Stage.through_ok_iff, Stage.passes_followed_iff]
  · rcases hjudges.judged with hdecided | ⟨-, hvain, hlate⟩
    · exact .inl hdecided
    · exact .inr ⟨hvain, hlate⟩
  · have hscenery := (Stage.conversation_actAll user (Stage.followed passing final)).scenery
      (Session.knows_none { s with scene := sent })
    rw [← houtcome] at hscenery
    have huser' : outcome.2.user = some user := (congrArg Session.user hscenery).trans huser
    exact Session.silence_of_exclusive hexclusive (.errand (.lockActionConfirmed (.known action))) cancelAt
      hspares huser' s.options.timeout
  · intro accepted moved status haccepted hmoved hstatus
    rw [hok, Stage.through_followed_moved haccepted hmoved, Stage.through_premature _ _ hstatus,
      Stage.through_ok_iff]
    simp only [Stage.Passes, Stage.lock_accepts_iff, Stage.status_accepts_iff, and_true, exists_and_left]
    exact Iff.rfl
  · intro accepted moved again haccepted hmoved hagain
    rw [hroot, Stage.through_followed_moved haccepted hmoved, Stage.through_again _ _ hdiffer hagain]

/-- A lock is unlocked, and says that it is done before the bolt has come to rest. -/
theorem lockActionConfirmed_follows_unlock :
    let key : Key := ⟨List.replicate 32 1, rfl⟩
    let credentials : Credentials := { authorization := 7, clientSecret := key, devicePublic := key }
    let user : Channel :=
      ⟨0, Profile.smartLock.user, .smartLock, .sealed 7 credentials.sharedKey⟩
    let message := user.codec.message { bytes := [0x66] }
    let status (code : UInt8) := Command.of (.known .status) [code]
    let states (lock : UInt8) := Command.of (.known .keyturnerStates) ([2, lock] ++ List.replicate 17 0)
    let challenge := Command.of (.known .challenge) (List.replicate 32 0x11)
    let replies : List Command := [status 1, states 2, status 0, states 3, status 0]
    let s := Session.beforeReplies credentials [[message challenge], replies.map message]
    Reachable s ∧ s.user = some user ∧ ∃ asked sent,
      Session.challenge (s.begin none []) = (.ok challenge.payload, asked) ∧
      user.send (Request.lockAction (.known .unlock) s.options.app 0 s.options.suffix challenge.payload).command
        asked.scene = (.ok (), sent) ∧
      (Session.lockActionConfirmed (.known .unlock) (s.begin none [])).1 = .ok () := by
  intro key credentials user message status states challenge replies s
  obtain ⟨hs, huser, asked, sent, hchallenge, hsend, hdelivered⟩ := replies_delivered credentials
    (fun challenge => (Request.lockAction (.known .unlock) 0 0 none challenge).command) replies (by decide)
    (by decide)
  have haction : (LockAction.unlock, LockState.unlocking, LockState.unlocked) ∈
      [(LockAction.unlock, LockState.unlocking, LockState.unlocked), (.lock, .locking, .locked),
        (.unlatch, .unlatching, .unlatched)] := List.mem_cons_self
  obtain ⟨hiff, -⟩ := lockActionConfirmed_follows hs haction none [] huser rfl hchallenge hsend
  refine ⟨hs, huser, asked, sent, hchallenge, hsend, hiff.mpr ?_⟩
  rw [hdelivered]
  let premature : List Arrival := [.ok (status 0)]
  have hnone (id : CommandId) : ∀ arrival ∈ ([] : List Arrival), arrival.Passed id :=
    fun _ h => absurd h List.not_mem_nil
  have hpremature : ∀ arrival ∈ premature, arrival.Passed (.known .keyturnerStates) := by
    rw [List.forall_mem_singleton]
    exact ⟨by decide, by decide⟩
  have haccepted : Heralds 1 (replies.map .ok) ([states 2, status 0, states 3, status 0].map .ok) :=
    heralds_iff.mpr ⟨status 1, ⟨[], rfl, hnone _, rfl⟩, rfl⟩
  have hmoved : Shows .unlocking ([states 2, status 0, states 3, status 0].map .ok)
      ([status 0, states 3, status 0].map .ok) :=
    ⟨states 2, ⟨[], rfl, hnone _, rfl⟩, by decide, rfl⟩
  have hsettled : Shows .unlocked ([status 0, states 3, status 0].map .ok) [.ok (status 0)] :=
    ⟨states 3, ⟨premature, rfl, hpremature, rfl⟩, by decide, rfl⟩
  have hcompleted : Heralds 0 [.ok (status 0)] [] :=
    heralds_iff.mpr ⟨status 0, ⟨[], rfl, hnone _, rfl⟩, rfl⟩
  exact ⟨_, _, _, _, haccepted, hmoved, hsettled, hcompleted⟩

end Latchkey
