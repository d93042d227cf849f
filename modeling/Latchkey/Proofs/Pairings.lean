import Latchkey.Proofs.Handshake

/-!
# What comes of a pairing

A client confirms an authorization only to a device that has proved that it knows the shared key, and has
credentials installed only when the device has completed the pairing. A device whose proof covers another nonce
than the one that the client has introduced itself with is refused.
-/

namespace Latchkey

namespace Pairing

/-- The keys of a visitor. -/
def visitorKeys : KeyPair := ⟨⟨List.replicate 32 8, rfl⟩⟩

def visitor : Applicant := { kind := .known .app, id := 1, name := "visitor" }

/-- A lock that visitors can be paired with. -/
def lock : Partner where
  keys := ⟨⟨List.replicate 32 9, rfl⟩⟩
  first := List.replicate 32 0x11
  second := List.replicate 32 0x22
  authorization := 7
  uuid := List.replicate 16 0x33
  nonce := List.replicate 32 0x44
  length_first := rfl
  length_second := rfl
  length_uuid := rfl
  length_nonce := rfl

private theorem visitorKeys_agree :
    visitorKeys.sharedKey lock.keys.publicKey = lock.shared visitorKeys.publicKey := by
  decide +kernel

/-- The nonce with which the visitor introduces themselves. -/
def visitorNonce : Bytes := List.replicate 32 0x55

end Pairing

/-- A visitor who has just connected to the lock. The digest that the lock is going to compute covers this nonce. -/
def Session.visiting (covered : Bytes) : Session :=
  Session.beforeLock (Pairing.lock.script Pairing.visitorKeys.publicKey covered) { bytes := [0x55] }

namespace Session

open Pairing (lock visitor visitorKeys visitorNonce)

variable (covered : Bytes)

private theorem reachable_visiting : Reachable (visiting covered) := reachable_beforeLock _ _

private theorem visiting_unpaired : (visiting covered).options.verifyDevice = true ∧
    (visiting covered).credentials = none ∧ (visiting covered).user = none := ⟨rfl, rfl, rfl⟩

private theorem visiting_nonce :
    (((visiting covered).begin none []).scene.nonces.draw Pairing.nonceLength).1 = visitorNonce := by
  obtain ⟨hnonces, -⟩ := beforeLock_spec (lock.script visitorKeys.publicKey covered) { bytes := [0x55] }
  have hscene : ((visiting covered).begin none []).scene.nonces = { bytes := [0x55] } := hnonces
  rw [hscene]
  decide

private theorem visiting_served : ∃ general inbox,
    (visiting covered).general = some general ∧ (visiting covered).link = some general.link ∧
      general.codec = .plain ∧ general.Served [Profile.smartLock.general, Profile.smartLock.user]
        (lock.script visitorKeys.publicKey covered ++ []) inbox ((visiting covered).begin none []).scene := by
  obtain ⟨-, general, hgeneral, hopen, hidle, hworks, -, hscript⟩ :=
    beforeLock_spec (lock.script visitorKeys.publicKey covered) { bytes := [0x55] }
  have hsound := sound_begin none [] (sound_of_reachable (reachable_visiting covered))
  have hlink : (visiting covered).link = some general.link := by
    rw [linked_of_reachable (reachable_visiting covered)]
    exact congrArg _ hgeneral
  have hopen' : general.Open ((visiting covered).begin none []).scene := hopen
  have hserved := hopen'.served hidle hworks hsound.tidy rfl
  have hscript' : (((visiting covered).begin none []).scene.link general.link).script =
      lock.script visitorKeys.publicKey covered := hscript
  rw [hscript', ← List.append_nil (lock.script visitorKeys.publicKey covered)] at hserved
  cases hgeneral
  exact ⟨_, _, rfl, hlink, rfl, hserved⟩

/-- The visitor goes through the course with the lock, whichever nonce the digest of the lock covers. -/
theorem visiting_ran : ∃ general scene, (visiting covered).general = some general ∧
    (lock.course visitorKeys visitor visitorNonce covered).Ran visitorKeys visitor general
      (visiting covered).options.timeout ((visiting covered).begin none []).scene scene lock.keys.publicKey := by
  obtain ⟨general, inbox, hgeneral, -, hplain, hserved⟩ := visiting_served covered
  obtain ⟨scene, hran, -⟩ :=
    lock.ran visitor (visiting covered).options.timeout hplain (visiting_nonce covered) hserved
  exact ⟨general, scene, hgeneral, hran⟩

private theorem visiting_given :
    (lock.grant visitorKeys visitor visitorNonce).Given visitorKeys visitor
        ((visiting visitorNonce).begin none []) ∧
      (∃ c, (pair visitorKeys visitor ((visiting visitorNonce).begin none [])).1 = .ok c) ∧
      (pair visitorKeys visitor ((visiting visitorNonce).begin none [])).2.user.isSome := by
  obtain ⟨general, inbox, hgeneral, hlink, hplain, hserved⟩ := visiting_served visitorNonce
  obtain ⟨scene, hreceived, -, hleft⟩ := lock.received (s := (visiting visitorNonce).begin none []) visitor
    Pairing.visitorKeys_agree hgeneral hplain (visiting_nonce visitorNonce) hserved
  have hexposes : ∃ profile ∈ Profile.all, profile.user ∈ (scene.link general.link).exposed := by
    rw [hleft.ready.exposes]
    exact ⟨Profile.smartLock, List.mem_cons_self, List.mem_cons_of_mem _ List.mem_cons_self⟩
  obtain ⟨after, hrun, -, huser, -⟩ := pair_of_received_works hreceived hlink hleft.ready.works hexposes
  rw [hrun]
  exact ⟨⟨general, scene, hreceived⟩, ⟨_, rfl⟩, huser⟩

end Session

/-- Pairing confirms an authorization, installs credentials or succeeds only with the device's proof that
it knows the key it shares with the client: the digest of everything behind it in the assignment and of the
nonce that the client has introduced itself with in this very run. Without the proof pairing ends when four
commands have been sent, and credentials and user channel are as before. -/
theorem pair_proved {s : Session} (hs : Reachable s) (hverify : s.options.verifyDevice = true)
    (keys : KeyPair) (who : Pairing.Applicant) (cancelAt : Option Nat) (agenda : List Appointment) :
    let before := s.begin cancelAt agenda
    let result := (Session.pair keys who before).1
    let after := (Session.pair keys who before).2
    match s.general with
    | none => result = .error .notConnected ∧ after = before
    | some general =>
      (∃ commands, general.Sent commands before.scene after.scene ∧
        ((∃ c ∈ commands, c.Carries (.known .authorizationIdConfirmation)) ∨
            after.credentials ≠ s.credentials ∨ after.user ≠ s.user ∨ (∃ c, result = .ok c) →
          ∃ device course scene,
            Pairing.Course.Ran keys who general s.options.timeout before.scene scene device course ∧
            course.commands keys device <+: commands ∧
            (course.introduction.payload.drop 69).length = 32 ∧ course.Proved keys device)) ∧
        ∀ device course scene,
          Pairing.Course.Ran keys who general s.options.timeout before.scene scene device course →
          ¬ course.Proved keys device →
          general.Sent (course.commands keys device) before.scene after.scene ∧
            after.credentials = s.credentials ∧ after.user = s.user ∧
            ∃ e, result = .error e ∧
              e.root = if 52 ≤ course.assignment.payload.length then .authenticatorMismatch
                else .wire (.tooShort 52 course.assignment.payload.length) := by
  intro before result after
  have hsound : before.Sound := Session.sound_begin cancelAt agenda (Session.sound_of_reachable hs)
  cases hgeneral : s.general with
  | none =>
    have hrun : Session.pair keys who before = (.error .notConnected, before) :=
      Session.pair_of_none hgeneral
    exact ⟨congrArg Prod.fst hrun, congrArg Prod.snd hrun⟩
  | some general =>
    obtain ⟨hlink, -⟩ := hsound.general general hgeneral
    refine ⟨?_, fun device course scene hran hunproved => ?_⟩
    · rcases Session.pair_cases (s := before) keys who hgeneral hverify hlink hsound.tidy with
        ⟨e, commands, scene, hrun, hsent, hcommands⟩ | ⟨device, course, scene, hran, hlong, hproved⟩
      · have hresult : result = .error e := congrArg Prod.fst hrun
        have hafter : after = { before with scene } := congrArg Prod.snd hrun
        rw [hafter, hresult]
        refine ⟨commands, hsent, ?_⟩
        rintro (⟨c, hc, hcarries⟩ | hcredentials | huser | ⟨c, hok⟩)
        · exact absurd hcarries (hcommands c hc)
        · exact absurd rfl hcredentials
        · exact absurd rfl huser
        · cases hok
      · obtain ⟨assigned, hrun⟩ := Session.pair_of_proved (s := before) hgeneral hran hlong hproved
        have hafter : after = (Session.confirm keys general assigned { before with scene }).2 :=
          congrArg Prod.snd hrun
        have hsent := hran.sent hlink hsound.tidy
        obtain ⟨commands, hconfirmed⟩ := Session.confirm_sent (s := { before with scene }) keys assigned
          (by rw [hsent.length]; exact hlink) (hsent.tidy hsound.tidy)
        rw [hafter]
        refine ⟨course.commands keys device ++ commands, hsent.trans hconfirmed, fun _ => ?_⟩
        exact ⟨device, course, scene, hran, List.prefix_append .., hran.nonce_length, hproved⟩
    · have hrun := Session.pair_of_unproved (s := before) hgeneral hverify hran hunproved
      have hresult : result = .error (Session.refusal course.assignment) := congrArg Prod.fst hrun
      have hafter : after = { before with scene } := congrArg Prod.snd hrun
      rw [hafter, hresult]
      refine ⟨hran.sent hlink hsound.tidy, rfl, rfl, _, rfl, ?_⟩
      rw [Session.refusal]
      split <;> rfl

/-- A lock whose digest covers the nonce of the visitor is confirmed. One whose digest covers another nonce is sent
the four commands of the course and no confirmation, and the visitor has no credentials for it. -/
theorem pair_proved_visiting :
    let keys := Pairing.visitorKeys
    let who := Pairing.visitor
    let proving := Session.visiting Pairing.visitorNonce
    let other : Bytes := List.replicate 32 0x66
    let unproving := Session.visiting other
    Reachable proving ∧ Reachable unproving ∧ proving.options.verifyDevice = true ∧
      unproving.options.verifyDevice = true ∧
      (∃ general commands, proving.general = some general ∧
        general.Sent commands (proving.begin none []).scene (Session.pair keys who (proving.begin none [])).2.scene ∧
        (∃ c, (Session.pair keys who (proving.begin none [])).1 = .ok c) ∧
        ∃ device course scene,
          Pairing.Course.Ran keys who general proving.options.timeout (proving.begin none []).scene scene
            device course ∧
          course.commands keys device <+: commands ∧ course.Proved keys device) ∧
      ∃ general commands, unproving.general = some general ∧
        general.Sent commands (unproving.begin none []).scene
          (Session.pair keys who (unproving.begin none [])).2.scene ∧
        commands.length = 4 ∧ (∀ c ∈ commands, ¬ c.Carries (.known .authorizationIdConfirmation)) ∧
        (Session.pair keys who (unproving.begin none [])).2.credentials = none ∧
        (Session.pair keys who (unproving.begin none [])).2.user = none ∧
        ∃ e, (Session.pair keys who (unproving.begin none [])).1 = .error e ∧
          e.root = .authenticatorMismatch := by
  intro keys who proving other unproving
  have hs : Reachable proving := Session.reachable_visiting _
  have hs' : Reachable unproving := Session.reachable_visiting _
  have hverify : proving.options.verifyDevice = true := (Session.visiting_unpaired _).1
  obtain ⟨hverify', hnone, hclosed⟩ := Session.visiting_unpaired other
  refine ⟨hs, hs', hverify, hverify', ?_, ?_⟩
  · obtain ⟨general, -, hgeneral, -⟩ := Session.visiting_ran Pairing.visitorNonce
    obtain ⟨-, hok, -⟩ := Session.visiting_given
    have hproved := pair_proved hs hverify keys who none []
    rw [hgeneral] at hproved
    obtain ⟨⟨commands, hsent, hconfirmed⟩, -⟩ := hproved
    obtain ⟨device, course, scene, hran, hcommands, -, hproof⟩ := hconfirmed (.inr (.inr (.inr hok)))
    exact ⟨general, commands, hgeneral, hsent, hok, device, course, scene, hran, hcommands, hproof⟩
  · obtain ⟨general, scene, hgeneral, hran⟩ := Session.visiting_ran other
    have hunproved : ¬ (Pairing.lock.course keys who Pairing.visitorNonce other).Proved keys
        Pairing.lock.keys.publicKey := by
      rw [Pairing.Partner.proved_iff Pairing.visitorKeys_agree]
      decide +kernel
    have hlong : 52 ≤ (Pairing.lock.course keys who Pairing.visitorNonce other).assignment.payload.length := by
      decide +kernel
    have hproved := pair_proved hs' hverify' keys who none []
    rw [hgeneral] at hproved
    obtain ⟨hsent, hcredentials, huser, e, he, hroot⟩ := hproved.2 _ _ scene hran hunproved
    rw [if_pos hlong] at hroot
    exact ⟨general, _, hgeneral, hsent, rfl, hran.confirms_nothing, hcredentials.trans hnone,
      huser.trans hclosed, e, he, hroot⟩

/-- Pairing installs credentials exactly if the device answers the confirmation by completing the pairing.
They are those that the replies of the device say, and they are installed even if the user channel cannot be
opened, which is what pairing fails with. In every other case pairing fails and leaves the credentials and the
user channel alone. So the credentials change only to those that have been granted, and pairing succeeds
exactly if something has been granted, it is installed, and the user channel is open. -/
theorem pair_installs {s : Session} (hs : Reachable s) (keys : KeyPair) (who : Pairing.Applicant)
    (cancelAt : Option Nat) (agenda : List Appointment) :
    let before := s.begin cancelAt agenda
    let result := (Session.pair keys who before).1
    let after := (Session.pair keys who before).2
    (∀ grant : Pairing.Grant, grant.Given keys who before →
        (∃ c, after.credentials = some c ∧
          Bytes.ofWord32 c.authorization = (grant.course.assignment.payload.drop 32).take 4 ∧
          c.clientSecret = keys.secretKey ∧
          c.devicePublic.bytes = grant.course.publicKey.payload.take 32) ∧
        (after.user.isSome ∨ (∃ e, result = .error e) ∧ after.user = none)) ∧
      ((∀ grant : Pairing.Grant, ¬ grant.Given keys who before) →
        (∃ e, result = .error e) ∧ after.credentials = s.credentials ∧ after.user = s.user) ∧
      (after.credentials ≠ s.credentials ↔
        ∃ grant : Pairing.Grant, grant.Given keys who before ∧
          s.credentials ≠ some (grant.credentials keys)) ∧
      ∀ c, result = .ok c ↔
        (∃ grant : Pairing.Grant, grant.Given keys who before) ∧
          after.credentials = some c ∧ after.user.isSome := by
  intro before result after
  have hsound : before.Sound := Session.sound_begin cancelAt agenda (Session.sound_of_reachable hs)
  have hlinked : s.Linked := Session.linked_of_reachable hs
  have hlink : ∀ ch ∈ before.general, ch.link < before.scene.links.length :=
    fun ch hch => (hsound.general ch hch).1
  refine ⟨?_, ?_, Session.pair_credentials_ne_iff (s := before) hlinked hlink hsound.tidy,
    Session.pair_ok_iff (s := before) hlinked hlink hsound.tidy⟩
  · intro grant hgiven
    obtain ⟨hcredentials, hends⟩ := Session.pair_of_given (s := before) hlinked hgiven
    obtain ⟨general, scene, hreceived⟩ := hgiven
    refine ⟨⟨_, hcredentials, hreceived.credentials_eq⟩, ?_⟩
    rcases hends with ⟨-, huser⟩ | hfailed
    · exact .inl huser
    · exact .inr hfailed
  · intro hnot
    obtain ⟨e, scene, hrun⟩ := Session.pair_of_not_given hlink hsound.tidy hnot
    have hresult : result = .error e := congrArg Prod.fst hrun
    have hafter : after = { before with scene } := congrArg Prod.snd hrun
    rw [hresult, hafter]
    exact ⟨⟨e, rfl⟩, rfl, rfl⟩

/-- A visitor is granted an authorization by the lock and has its credentials afterwards; one who gives up at once
has none. -/
theorem pair_installs_visiting :
    let keys := Pairing.visitorKeys
    let who := Pairing.visitor
    let grant := Pairing.lock.grant keys who Pairing.visitorNonce
    let s := Session.visiting Pairing.visitorNonce
    Reachable s ∧ grant.Given keys who (s.begin none []) ∧
      (∃ c, (Session.pair keys who (s.begin none [])).1 = .ok c ∧
        (Session.pair keys who (s.begin none [])).2.credentials = some c ∧
        (Session.pair keys who (s.begin none [])).2.user.isSome ∧
        Bytes.ofWord32 c.authorization = (grant.course.assignment.payload.drop 32).take 4 ∧
        c.clientSecret = keys.secretKey ∧ c.devicePublic.bytes = grant.course.publicKey.payload.take 32) ∧
      (∃ e, (Session.pair keys who (s.begin (some 0) [])).1 = .error e) ∧
      (Session.pair keys who (s.begin (some 0) [])).2.credentials = none ∧
      (Session.pair keys who (s.begin (some 0) [])).2.user = none := by
  intro keys who grant s
  have hs : Reachable s := Session.reachable_visiting _
  obtain ⟨-, hnone, hclosed⟩ := Session.visiting_unpaired Pairing.visitorNonce
  obtain ⟨hgiven, -, hopen⟩ := Session.visiting_given
  obtain ⟨hgranted, -, -, hok⟩ := pair_installs hs keys who none []
  obtain ⟨⟨c, hcredentials, hfields⟩, -⟩ := hgranted grant hgiven
  have hsound := Session.sound_begin (some 0) [] (Session.sound_of_reachable hs)
  have hnot := Session.not_given_of_cancelled keys who (fun ch hch => (hsound.general ch hch).1) hsound.tidy rfl
  obtain ⟨-, hrefused, -⟩ := pair_installs hs keys who (some 0) []
  obtain ⟨hfails, hcredentials', huser'⟩ := hrefused hnot
  exact ⟨hs, hgiven, ⟨c, (hok c).mpr ⟨⟨grant, hgiven⟩, hcredentials, hopen⟩, hcredentials, hopen, hfields⟩,
    hfails, hcredentials'.trans hnone, huser'.trans hclosed⟩

/-- After a pairing that has failed, an authorization from before is still there, and so is the user channel. -/
theorem installed_without_success :
    let keys : KeyPair := ⟨⟨List.replicate 32 2, rfl⟩⟩
    let who : Pairing.Applicant := { kind := .known .app, id := 1, name := "visitor" }
    let outcome := Session.pair keys who (Session.atLock.begin (some 0) [])
    Reachable Session.atLock ∧
      ∃ c, outcome.2.credentials = some c ∧ outcome.2.user.isSome ∧ outcome.1 ≠ .ok c := by
  intro keys who outcome
  have hsound := Session.sound_begin (some 0) [] (Session.sound_of_reachable reachable_atLock)
  have hnot := Session.not_given_of_cancelled keys who
    (fun ch hch => (hsound.general ch hch).1) hsound.tidy rfl
  obtain ⟨e, scene, hrun⟩ :=
    Session.pair_of_not_given (fun ch hch => (hsound.general ch hch).1) hsound.tidy hnot
  have houtcome : outcome = (.error e, { Session.atLock.begin (some 0) [] with scene }) := hrun
  rw [houtcome]
  exact ⟨reachable_atLock, _, rfl, rfl, by simp⟩

end Latchkey
