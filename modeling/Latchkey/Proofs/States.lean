import Latchkey.Proofs.Confirmations
import Latchkey.Proofs.Layouts

/-!
# Reading the states of a device

A client that asks a device for its states returns the first state report it gets, as long as it can be read. What
it is read as is up to the length of the report alone; the family of the device does not matter.
-/

namespace Latchkey

namespace Session

variable {s : Session} {user : Channel} {c : Command} {sent scene : Scene}

/-- The request for the states of a device. -/
def askingStates : Command := (Request.data (.known .keyturnerStates)).command

/-- What is returned of a wait for a state report: the report, if it can be read. -/
def reportedStates : Except Failure Command → Except Failure Command
  | .error e => .error (.during "waiting for device states" e)
  | .ok c =>
    match StateReport.read c with
    | .error e => .error (.during "reading device states" (.wire e))
    | .ok _ => .ok c

private theorem reportedStates_ok_iff {result : Except Failure Command}
    (h : ∀ c, result = .ok c → c.Carries (.known .keyturnerStates)) :
    reportedStates result = .ok c ↔ result = .ok c ∧ 19 ≤ c.payload.length := by
  cases result with
  | error e => exact ⟨nofun, nofun⟩
  | ok reply =>
    rw [reportedStates]
    rcases StateReport.read_cases (h reply rfl) with ⟨hlong, report, hread, -⟩ | ⟨hshort, hread⟩
    · rw [hread]
      refine ⟨fun hok => ?_, And.left⟩
      cases hok
      exact ⟨rfl, hlong⟩
    · rw [hread]
      refine ⟨nofun, ?_⟩
      rintro ⟨⟨⟩, hlong⟩
      omega

private theorem readStates_of_error {e : Failure} (huser : s.user = some user)
    (hsend : user.send askingStates s.scene = (.error e, sent)) :
    readStates s = (.error (.during "requesting device states" e), { s with scene := sent }) := by
  rw [readStates, run_bind_ok (userChannel_of_some huser)]
  exact run_bind_error (sendStep_of_error _ hsend)

theorem readStates_of_sent (huser : s.user = some user)
    (hsend : user.send askingStates s.scene = (.ok (), sent)) :
    readStates s = (reportedStates (user.waitFor (.known .keyturnerStates) s.options.timeout sent).1,
      { s with scene := (user.waitFor (.known .keyturnerStates) s.options.timeout sent).2 }) := by
  rw [readStates, run_bind_ok (userChannel_of_some huser)]
  refine (run_bind_ok (sendStep_of_ok _ hsend)).trans ?_
  rcases hwait : user.waitFor (.known .keyturnerStates) s.options.timeout sent with ⟨e | reply, scene⟩
  · exact run_bind_error (waitStep_of_error (s := { s with scene := sent }) _ hwait)
  · refine (run_bind_ok (waitStep_of_ok (s := { s with scene := sent }) _ hwait)).trans ?_
    rw [run_bind, Act.run_step, Act.ofWire, Act.run_settle, reportedStates]
    cases StateReport.read reply <;> rfl

/-- Reading the states returns the first state report that is delivered once they have been asked for, unless it
is too short. -/
theorem readStates_ok_iff (huser : s.user = some user) :
    (readStates s).1 = .ok c ↔ s.scene.cancelled = false ∧ ∃ sent later,
      user.send askingStates s.scene = (.ok (), sent) ∧
        Brings (.known .keyturnerStates) c (user.delivered sent (readStates s).2.scene) later ∧
        19 ≤ c.payload.length := by
  have hinstant := user.instant_send askingStates s.scene
  rcases hsend : user.send askingStates s.scene with ⟨e | _, sent⟩
  all_goals rw [hsend] at hinstant
  · rw [readStates_of_error huser hsend]
    exact ⟨nofun, nofun⟩
  rw [readStates_of_sent huser hsend, ← hinstant.cancelled]
  cases hcancelled : sent.cancelled with
  | true =>
    rw [user.waitFor_cancelled _ _ hcancelled]
    exact ⟨nofun, nofun⟩
  | false =>
    have hcarries (reply : Command)
        (h : (user.waitFor (.known .keyturnerStates) s.options.timeout sent).1 = .ok reply) :
        reply.Carries (.known .keyturnerStates) := (Channel.waitFor_ok (Prod.ext h rfl)).1
    rw [reportedStates_ok_iff hcarries, Channel.waitFor_ok_iff _ _ hcancelled]
    constructor
    · rintro ⟨⟨later, hbrings⟩, hlong⟩
      exact ⟨rfl, sent, later, rfl, hbrings, hlong⟩
    · rintro ⟨-, _, later, ⟨⟩, hbrings, hlong⟩
      exact ⟨⟨later, hbrings⟩, hlong⟩

private theorem readStates_answered (credentials : Credentials) (hcarries : c.Carries (.known .keyturnerStates))
    (hlong : 19 ≤ c.payload.length) (hfits : c.payload.length ≤ 65511) :
    let user : Channel := ⟨0, Profile.smartLock.user, .smartLock,
      .sealed credentials.authorization credentials.sharedKey⟩
    let s := beforeReplies credentials [[user.codec.message { bytes := [0x66] } c]]
    Reachable s ∧ s.user = some user ∧ (readStates (s.begin none [])).1 = .ok c := by
  intro user s
  obtain ⟨hs, huser, exposed, inbox, hserved⟩ :=
    beforeReplies_served credentials [[user.codec.message { bytes := [0x66] } c]]
  have hagenda : (s.begin none []).scene.agenda = [] := s.scene.agenda_begin_nil
  have hreplies : ∀ reply ∈ [c], reply.payload.length ≤ 65511 := List.forall_mem_singleton.mpr hfits
  obtain ⟨sent, hsend, hdelivered⟩ :=
    hserved.delivers { bytes := [0x66] } hagenda (c := askingStates) (by decide) hreplies
  refine ⟨hs, huser, (readStates_ok_iff (s := s.begin none []) huser).mpr ⟨rfl, sent, [], hsend, ?_, hlong⟩⟩
  rw [hdelivered]
  exact ⟨[], rfl, fun _ h => absurd h List.not_mem_nil, hcarries⟩

end Session

/-- Reading the states of a device returns the first state report that is delivered once they have been asked
for, if it has at least nineteen bytes and nothing goes wrong before. It can be read, and it is read as that of an
opener exactly from twenty-two bytes on, whichever family the device belongs to; so it is read as that of the
family of the device exactly if the device has kept to the length of its family. -/
theorem readStates_by_length {s : Session} {user : Channel} (huser : s.user = some user) :
    let outcome := Session.readStates s
    (∀ c, outcome.1 = .ok c ↔ s.scene.cancelled = false ∧ ∃ sent later,
      user.send (Request.data (.known .keyturnerStates)).command s.scene = (.ok (), sent) ∧
        Brings (.known .keyturnerStates) c (user.delivered sent outcome.2.scene) later ∧
        19 ≤ c.payload.length) ∧
      ∀ c, outcome.1 = .ok c → ∃ report, StateReport.read c = .ok report ∧
        report.family = (if 22 ≤ c.payload.length then .opener else .smartLock) ∧
        (user.family = .smartLock → (report.family = user.family ↔ c.payload.length < 22)) ∧
        (user.family = .opener → (report.family = user.family ↔ 22 ≤ c.payload.length)) := by
  intro outcome
  have hok (c : Command) := Session.readStates_ok_iff (c := c) huser
  refine ⟨hok, fun c hreturned => ?_⟩
  obtain ⟨-, _, _, -, hbrings, hlong⟩ := (hok c).mp hreturned
  rcases StateReport.read_cases hbrings.carries with ⟨-, report, hread, -, hfamily⟩ | ⟨hshort, -⟩
  · refine ⟨report, hread, hfamily, fun hlock => ?_, fun hopener => ?_⟩
    · rw [hfamily, hlock]
      by_cases hopener : 22 ≤ c.payload.length
      · simp [hopener]
      · simp [hopener, Nat.not_le.mp hopener]
    · rw [hfamily, hopener]
      by_cases hlonger : 22 ≤ c.payload.length
      · simp [hlonger]
      · simp [hlonger]
  · omega

/-- A lock that sends nineteen bytes is read as a lock. -/
theorem readStates_by_length_lock :
    let key : Key := ⟨List.replicate 32 1, rfl⟩
    let credentials : Credentials := { authorization := 7, clientSecret := key, devicePublic := key }
    let user : Channel :=
      ⟨0, Profile.smartLock.user, .smartLock, .sealed 7 credentials.sharedKey⟩
    let states := Command.of (.known .keyturnerStates) ([2, 1] ++ List.replicate 17 0)
    let s := Session.beforeReplies credentials [[user.codec.message { bytes := [0x66] } states]]
    Reachable s ∧ s.user = some user ∧ (Session.readStates (s.begin none [])).1 = .ok states ∧
      ∃ report, StateReport.read states = .ok report ∧ report.family = user.family := by
  intro key credentials user states s
  obtain ⟨hs, huser, hok⟩ : Reachable s ∧ s.user = some user ∧
      (Session.readStates (s.begin none [])).1 = .ok states :=
    Session.readStates_answered credentials rfl (by decide) (by decide)
  obtain ⟨-, hreturned⟩ := readStates_by_length (s := s.begin none []) huser
  obtain ⟨report, hread, -, hlock, -⟩ := hreturned states hok
  exact ⟨hs, huser, hok, report, hread, (hlock rfl).mpr (by decide)⟩

/-- A lock that sends twenty-two bytes is read as an opener. -/
theorem readStates_other_family :
    let key : Key := ⟨List.replicate 32 1, rfl⟩
    let credentials : Credentials := { authorization := 7, clientSecret := key, devicePublic := key }
    let user : Channel :=
      ⟨0, Profile.smartLock.user, .smartLock, .sealed 7 credentials.sharedKey⟩
    let states := Command.of (.known .keyturnerStates) ([2, 3] ++ List.replicate 20 0)
    let s := Session.beforeReplies credentials [[user.codec.message { bytes := [0x66] } states]]
    Reachable s ∧ s.user = some user ∧ (Session.readStates (s.begin none [])).1 = .ok states ∧
      ∃ report, StateReport.read states = .ok report ∧ report.family = .opener ∧
        user.family = .smartLock := by
  intro key credentials user states s
  obtain ⟨hs, huser, hok⟩ : Reachable s ∧ s.user = some user ∧
      (Session.readStates (s.begin none [])).1 = .ok states :=
    Session.readStates_answered credentials rfl (by decide) (by decide)
  rcases StateReport.read_cases (c := states) rfl with ⟨-, report, hread, -, hfamily⟩ | ⟨hshort, -⟩
  · exact ⟨hs, huser, hok, report, hread, hfamily, rfl⟩
  · exact absurd hshort (by decide)

end Latchkey
