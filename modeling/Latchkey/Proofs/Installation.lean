import Latchkey.Proofs.Enrolment

/-!
# Credentials are installed with the authorization

A device assigns an authorization for good when it reports that the pairing is complete. From then on the
client has the credentials for it, even if the user channel cannot be opened; and unless the device does
so, pairing leaves the credentials and the user channel as they were.
-/

namespace Latchkey

namespace Pairing

/-- What a client has of a device that has completed the pairing. -/
structure Grant where
  device : Key
  course : Course
  report : AuthorizationReport
  outcome : Command

namespace Grant

def credentials (keys : KeyPair) (grant : Grant) : Credentials where
  authorization := grant.report.authorization
  clientSecret := keys.secretKey
  devicePublic := grant.device

/-- The command by which the client accepts the authorization. -/
def confirmation (keys : KeyPair) (grant : Grant) : Command :=
  Pairing.confirmation keys grant.device grant.report.nonce grant.report.authorization

/-- The device has assigned the authorization, with a proof where one is required, and the answer to the
confirmation is that the pairing is complete. -/
structure Received (keys : KeyPair) (who : Applicant) (s : Session) (grant : Grant) (general : Channel)
    (scene : Scene) : Prop where
  channel : s.general = some general
  read : authorizationReport.read grant.course.assignment = .ok grant.report
  proved : s.options.verifyDevice = true → grant.course.Proved keys grant.device
  completed : statusReport.read grant.outcome = .ok (.known .complete)
  exchanged : ∃ assigned,
    grant.course.Ran keys who general s.options.timeout s.scene assigned grant.device ∧
    general.Answered s.options.timeout (grant.confirmation keys) .status grant.outcome assigned scene

/-- Something has been granted in the pairing that begins in this session. -/
def Given (keys : KeyPair) (who : Applicant) (s : Session) (grant : Grant) : Prop :=
  ∃ general scene, grant.Received keys who s general scene

theorem Received.credentials_eq {keys : KeyPair} {who : Applicant} {s : Session} {grant : Grant}
    {general : Channel} {scene : Scene} (h : grant.Received keys who s general scene) :
    Bytes.ofWord32 (grant.credentials keys).authorization =
        (grant.course.assignment.payload.drop 32).take 4 ∧
      (grant.credentials keys).clientSecret = keys.secretKey ∧
      (grant.credentials keys).devicePublic.bytes = grant.course.publicKey.payload.take 32 := by
  obtain ⟨assigned, hran, -⟩ := h.exchanged
  obtain ⟨-, -, hfields⟩ := authorizationReport_ok hran.carries h.read
  have hfront : (grant.course.assignment.payload.drop 32).take 4 =
      Bytes.ofWord32 grant.report.authorization := by
    rw [← hfields]
    exact List.take_left' (Bytes.length_ofWord32 _)
  exact ⟨hfront.symm, rfl, hran.device_bytes⟩

end Grant

end Pairing

namespace Session

open Pairing (Grant)

variable {keys : KeyPair} {who : Pairing.Applicant} {s : Session} {general : Channel} {grant : Grant}

theorem authenticate_cases (c : Credentials) (hlink : s.link.isSome) :
    (authenticate c s).2.credentials = some c ∧
      ((authenticate c s).1 = .ok () ∧ (authenticate c s).2.user.isSome ∨
        (∃ e, (authenticate c s).1 = .error e) ∧ (authenticate c s).2.user = none) := by
  rw [authenticate_eq, if_pos hlink]
  rcases openUser_cases { s with user := none, credentials := some c, scene := s.withoutUser } with
    ⟨e, hrun⟩ | ⟨user, installed, -, -, -, -, -, hrun⟩
  · rw [hrun]
    exact ⟨rfl, .inr ⟨⟨e, rfl⟩, rfl⟩⟩
  · rw [hrun]
    exact ⟨rfl, .inl ⟨rfl, rfl⟩⟩

theorem pair_of_received {scene : Scene} (h : grant.Received keys who s general scene) :
    pair keys who s = (do
      authenticate (grant.credentials keys)
      return grant.credentials keys) { s with scene } := by
  obtain ⟨assigned, hran, sent, hsend, -, hwait⟩ := h.exchanged
  have hverdict := statusVerdict_ok.mpr h.completed
  have hsent : sendStep "sending authorization id confirmation" general (grant.confirmation keys)
      { s with scene := assigned } = (.ok (), { s with scene := sent }) := sendStep_of_ok _ hsend
  have hwaited : waitStep "waiting for pairing status" general .status { s with scene := sent } =
      (.ok grant.outcome, { s with scene }) := waitStep_of_ok _ hwait
  have hchecked : expectStatus "completing pairing" grant.outcome .complete { s with scene } =
      (.ok (), { s with scene }) := by
    rw [expectStatus_eq, Act.run_step, Act.run_settle, hverdict]
    rfl
  rw [pair_of_accepted h.channel hran h.read h.proved, confirm]
  change (sendStep _ general (grant.confirmation keys) >>= fun _ => complete keys general _) _ = _
  rw [run_bind_ok hsent, complete, run_bind_ok hwaited, run_bind_ok hchecked]
  rfl

private theorem confirm_refused {assigned : Assigned}
    (hnone : ∀ outcome scene, general.Answered s.options.timeout (Pairing.confirmation keys
        assigned.device assigned.report.nonce assigned.report.authorization) .status outcome s.scene scene →
      statusReport.read outcome ≠ .ok (.known .complete)) :
    ∃ e scene, confirm keys general assigned s = (.error e, { s with scene }) := by
  rw [confirm]
  rcases hsend : general.send (Pairing.confirmation keys assigned.device assigned.report.nonce
    assigned.report.authorization) s.scene with ⟨e | _, sent⟩
  · exact ⟨_, sent, run_bind_error (sendStep_of_error _ hsend)⟩
  rw [run_bind_ok (sendStep_of_ok _ hsend), complete]
  rcases hwait : general.waitFor (.known .status) s.options.timeout sent with ⟨e | outcome, scene⟩
  · have hfailed := waitStep_of_error (s := { s with scene := sent }) "waiting for pairing status" hwait
    exact ⟨_, scene, run_bind_error hfailed⟩
  have hwaited := waitStep_of_ok (s := { s with scene := sent }) "waiting for pairing status" hwait
  have hunfinished := hnone outcome scene ⟨sent, hsend, (Channel.waitFor_ok hwait).2, hwait⟩
  rw [run_bind_ok hwaited, expectStatus_eq]
  cases hverdict : statusVerdict outcome .complete with
  | error e => exact ⟨.during "completing pairing" e, scene, rfl⟩
  | ok _ => exact absurd (statusVerdict_ok.mp hverdict) hunfinished

/-- Where the device does not complete the pairing, nothing but the scene changes. -/
theorem pair_of_not_given (hlink : ∀ ch ∈ s.general, ch.link < s.scene.links.length)
    (htidy : s.scene.Tidy) (hnone : ∀ grant : Grant, ¬ grant.Given keys who s) :
    ∃ e scene, pair keys who s = (.error e, { s with scene }) := by
  rcases Option.eq_none_or_eq_some s.general with hgeneral | ⟨general, hgeneral⟩
  · exact ⟨.notConnected, s.scene, pair_of_none hgeneral⟩
  rcases negotiate_cases keys who (hlink general hgeneral) htidy with
    ⟨e, commands, scene, hrun, -, -⟩ | ⟨device, course, scene, hran, hlong⟩
  · rw [pair_of_some hgeneral, run_bind_error hrun]
    exact ⟨e, scene, rfl⟩
  obtain ⟨report, hread, -, -⟩ := authorizationReport_read hran.carries hlong
  by_cases hproved : s.options.verifyDevice = true → course.Proved keys device
  · rw [pair_of_accepted hgeneral hran hread hproved]
    apply confirm_refused (s := { s with scene })
    intro outcome after hanswered hcompleted
    apply hnone ⟨device, course, report, outcome⟩
    exact ⟨general, after, hgeneral, hread, hproved, hcompleted, scene, hran, hanswered⟩
  · obtain ⟨hverify, hunproved⟩ := Classical.not_imp.mp hproved
    exact ⟨_, scene, pair_of_unproved hgeneral hverify hran hunproved⟩

/-- Once the device has completed the pairing, the credentials are installed; the pairing then succeeds with
the user channel open, or fails without one. -/
theorem pair_of_given (hlinked : s.Linked) (h : grant.Given keys who s) :
    (pair keys who s).2.credentials = some (grant.credentials keys) ∧
      ((pair keys who s).1 = .ok (grant.credentials keys) ∧ (pair keys who s).2.user.isSome ∨
        (∃ e, (pair keys who s).1 = .error e) ∧ (pair keys who s).2.user = none) := by
  obtain ⟨general, scene, hreceived⟩ := h
  have hlink : s.link.isSome := by
    rw [hlinked, hreceived.channel]
    rfl
  have hcases := authenticate_cases (s := { s with scene }) (grant.credentials keys) hlink
  rw [pair_of_received hreceived, run_bind]
  rcases hrun : authenticate (grant.credentials keys) { s with scene } with ⟨e | _, installed⟩
  all_goals rw [hrun] at hcases
  · obtain ⟨hcredentials, ⟨hok, -⟩ | ⟨-, huser⟩⟩ := hcases
    · cases hok
    · exact ⟨hcredentials, .inr ⟨⟨e, rfl⟩, huser⟩⟩
  · obtain ⟨hcredentials, ⟨-, huser⟩ | ⟨⟨e, herror⟩, -⟩⟩ := hcases
    · exact ⟨hcredentials, .inl ⟨rfl, huser⟩⟩
    · cases herror

theorem pair_credentials_ne_iff (hlinked : s.Linked) (hlink : ∀ ch ∈ s.general, ch.link < s.scene.links.length)
    (htidy : s.scene.Tidy) :
    (pair keys who s).2.credentials ≠ s.credentials ↔
      ∃ grant : Grant, grant.Given keys who s ∧ s.credentials ≠ some (grant.credentials keys) := by
  constructor
  · intro hchanged
    by_cases hgrant : ∃ grant : Grant, grant.Given keys who s
    · obtain ⟨grant, hgiven⟩ := hgrant
      rw [(pair_of_given hlinked hgiven).1] at hchanged
      exact ⟨grant, hgiven, hchanged.symm⟩
    · obtain ⟨e, scene, hrun⟩ := pair_of_not_given hlink htidy (not_exists.mp hgrant)
      rw [hrun] at hchanged
      exact absurd rfl hchanged
  · rintro ⟨grant, hgiven, hother⟩
    rw [(pair_of_given hlinked hgiven).1]
    exact hother.symm

theorem pair_ok_iff (hlinked : s.Linked) (hlink : ∀ ch ∈ s.general, ch.link < s.scene.links.length)
    (htidy : s.scene.Tidy) (c : Credentials) :
    (pair keys who s).1 = .ok c ↔
      (∃ grant : Grant, grant.Given keys who s) ∧
        (pair keys who s).2.credentials = some c ∧ (pair keys who s).2.user.isSome := by
  constructor
  · intro hok
    by_cases hgrant : ∃ grant : Grant, grant.Given keys who s
    · obtain ⟨grant, hgiven⟩ := hgrant
      obtain ⟨hcredentials, ⟨hresult, huser⟩ | ⟨⟨e, herror⟩, -⟩⟩ := pair_of_given hlinked hgiven
      · rw [hok] at hresult
        cases hresult
        exact ⟨⟨grant, hgiven⟩, hcredentials, huser⟩
      · rw [hok] at herror
        cases herror
    · obtain ⟨e, scene, hrun⟩ := pair_of_not_given hlink htidy (not_exists.mp hgrant)
      rw [hrun] at hok
      cases hok
  · rintro ⟨⟨grant, hgiven⟩, hinstalled, hopen⟩
    obtain ⟨hcredentials, ⟨hresult, -⟩ | ⟨-, huser⟩⟩ := pair_of_given hlinked hgiven
    · rw [hcredentials] at hinstalled
      cases hinstalled
      exact hresult
    · rw [huser] at hopen
      cases hopen

theorem not_given_of_cancelled (keys : KeyPair) (who : Pairing.Applicant)
    (hlink : ∀ ch ∈ s.general, ch.link < s.scene.links.length) (htidy : s.scene.Tidy)
    (hcancelled : s.scene.cancelled = true) (grant : Grant) : ¬ grant.Given keys who s := by
  rintro ⟨general, scene, hreceived⟩
  obtain ⟨assigned, hran, -⟩ := hreceived.exchanged
  obtain ⟨s₁, s₂, s₃, hkey, -⟩ := hran.exchanges
  have hwaiting := hkey.not_cancelled (hlink general hreceived.channel) htidy
  rw [hcancelled] at hwaiting
  cases hwaiting

end Session

end Latchkey
