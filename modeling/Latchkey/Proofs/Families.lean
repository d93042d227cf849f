import Latchkey.Proofs.Reconnection

/-!
# The family of a device

A client looks for a characteristic for every channel that it opens, and what it finds decides the family of the
channel. The family that it tells is the one of its general channel; what it refuses to do, and what the faults mean
that it hears, goes by the one of its user channel.
-/

namespace Latchkey

namespace Profile

private theorem family_of_find? {exposed : List Uuid} {kind : ChannelKind} {profile : Profile}
    (h : find? exposed kind = some profile) :
    profile.family = if smartLock.characteristic kind ∈ exposed then .smartLock else .opener := by
  rw [find?, all] at h
  split
  · rename_i hlock
    simp only [List.find?_cons, hlock, decide_true] at h
    cases h
    rfl
  · rename_i hlock
    simp only [List.find?_cons, hlock, decide_false] at h
    split at h
    · cases h
      rfl
    · cases h

/-- Two lookups find the same family exactly if both find a lock or neither does. -/
theorem family_eq_iff {a b : Prop} [Decidable a] [Decidable b] :
    (if a then Family.smartLock else .opener) = (if b then .smartLock else .opener) ↔ (a ↔ b) := by
  split <;> split <;> simp_all

end Profile

namespace Channel

private theorem FoundIn.family_eq {exposed : List Uuid} {ch : Channel} (h : ch.FoundIn exposed) :
    ch.family = if Profile.smartLock.characteristic ch.codec.kind ∈ exposed then .smartLock else .opener := by
  obtain ⟨profile, hprofile, -, hfamily⟩ := h
  rw [hfamily, Profile.family_of_find? hprofile]

private theorem FoundIn.map_family {exposed : List Uuid} {ch : Channel} (h : ch.FoundIn exposed) :
    (Profile.find? exposed ch.codec.kind).map Profile.family = some ch.family := by
  obtain ⟨profile, hprofile, -, hfamily⟩ := h
  rw [hprofile, Option.map_some, hfamily]

end Channel

private theorem exposed_linkwise : Linkwise fun p p' => p'.exposed = p.exposed where
  lasting :=
    { refl := fun _ => rfl
      trans := fun h h' => h'.trans h }
  fails _ _ := rfl
  adjusts _ _ _ := rfl
  ends _ := rfl
  writes _ _ _ := rfl
  answers _ _ _ := rfl

namespace Session

variable {R : List Uuid → List Uuid → Prop} {s : Session}

/-- Both channels have been found on the link in use, the user channel later than the general one. What a device
exposed at one moment is in the relation `R` to what it exposed at a later one. -/
structure Traced (R : List Uuid → List Uuid → Prop) (s : Session) : Prop where
  general : ∀ general ∈ s.general, s.link = some general.link ∧
    ∃ early, general.FoundIn early ∧ R early (s.scene.link general.link).exposed
  user : ∀ user ∈ s.user, s.link = some user.link ∧
    ∀ general ∈ s.general, ∃ early late, general.FoundIn early ∧ user.FoundIn late ∧ R early late ∧
      R late (s.scene.link user.link).exposed

def Traces (R : List Uuid → List Uuid → Prop) (s s' : Session) : Prop := s.Traced R → s'.Traced R

private theorem Traced.of_scene (h : s.Traced R) {scene : Scene}
    (hlater : ∀ i exposed, R exposed (s.scene.link i).exposed → R exposed (scene.link i).exposed) :
    Traced R { s with scene } := by
  refine ⟨fun general hgeneral => ?_, fun user huser => ?_⟩
  · obtain ⟨hlink, early, hfound, hearly⟩ := h.general general hgeneral
    exact ⟨hlink, early, hfound, hlater _ _ hearly⟩
  · obtain ⟨hlink, hpair⟩ := h.user user huser
    refine ⟨hlink, fun general hgeneral => ?_⟩
    obtain ⟨early, late, hearly, hlate, hbetween, hnow⟩ := hpair general hgeneral
    exact ⟨early, late, hearly, hlate, hbetween, hlater _ _ hnow⟩

private theorem traces_of_exposed {scene : Scene}
    (hscene : s.scene.EachLink (fun p p' => p'.exposed = p.exposed) scene) : s.Traces R { s with scene } :=
  fun hs => hs.of_scene fun i _ hexposed => (hscene i).symm ▸ hexposed

private theorem traces_talkative : Talkative (Traces R) where
  lasting :=
    { refl := fun _ => id
      trans := fun h h' hs => h' (h hs) }
  listens ch hear timeout state s := traces_of_exposed (exposed_linkwise.listen ch hear timeout state s.scene)
  sends ch c s := traces_of_exposed (exposed_linkwise.send ch c s.scene)
  draws _ s := traces_of_exposed (exposed_linkwise.eachLink.refl s.scene)

private theorem traced_close (s : Session) : (close s).2.Traced R := by
  rw [close_state]
  exact ⟨nofun, nofun⟩

section Opening

variable (hR : ∀ exposed, R exposed exposed)
include hR

private theorem traces_openUser : Keeps (Traces R) openUser := by
  intro s hs
  rcases openUser_cases s with ⟨e, hrun⟩ | ⟨user, c, hlink, -, -, hfound, -, hrun⟩
  · rw [hrun]
    exact hs
  · have hopened := traces_of_exposed (fun i => (user.sameDevices_opened s.scene i).1) hs
    have hexposed := (user.sameDevices_opened s.scene user.link).1
    rw [hrun]
    refine ⟨hopened.general, ?_⟩
    rintro _ ⟨⟩
    refine ⟨hlink, fun general hgeneral => ?_⟩
    obtain ⟨hused, early, hearly, hbefore⟩ := hs.general general hgeneral
    have hsame : general.link = user.link := Option.some_inj.mp (hused.symm.trans hlink)
    rw [hsame] at hbefore
    exact ⟨early, _, hearly, hfound, hbefore, hexposed.symm ▸ hR _⟩

private theorem traces_authenticate (c : Credentials) : Keeps (Traces R) (authenticate c) := by
  intro s hs
  have hclosed := traces_of_exposed (fun i => (sameDevices_scenic.keeps_withoutUser s i).1) hs
  have hbare : Traced R { s with user := none, credentials := some c, scene := s.withoutUser } :=
    ⟨hclosed.general, nofun⟩
  rw [authenticate_eq]
  split
  · exact traces_openUser hR _ hbare
  · exact hbare

private theorem traces_engage (link : Nat) (huser : s.user = none) : s.Traces R (engage link s).2 := by
  intro hs
  rcases engage_cases link s with hrun | ⟨general, rfl, -, hfound, -, hrun⟩
  · rw [hrun]
    exact hs
  · have hexposed := (general.sameDevices_opened s.scene general.link).1
    have hopened : Traced R { s with
        link := some general.link, general := some general, scene := general.opened s.scene } := by
      refine ⟨?_, ?_⟩
      · rintro _ ⟨⟩
        exact ⟨rfl, _, hfound, hexposed.symm ▸ hR _⟩
      · rw [huser]
        nofun
    rw [hrun]
    split
    · exact traces_openUser hR _ hopened
    · exact hopened

private theorem traces_connect (link : Nat) : Keeps (Traces R) (connect link) := by
  intro s hs
  rcases connect_cases link s with ⟨hnone, hrun⟩ | ⟨hrun, -⟩ | hrun
  · rw [hrun]
    exact traces_engage hR link (user_eq_none (fun ch hch => (hs.user ch hch).1) hnone) hs
  · rw [hrun]
    exact traced_close s
  · have huser : (close s).2.user = none := by rw [close_state]
    rw [hrun]
    exact traces_engage hR link huser (traced_close s)

private theorem traces_event (event : Event) (hevent : ∀ link u, event ≠ .expose link u) :
    s.Traces R (event.apply s) := by
  intro hs
  cases event with
  | call cancelAt agenda call =>
    have hbegun : (s.begin cancelAt agenda).Traced R := hs.of_scene fun _ _ => id
    exact keeps_call traces_talkative (traces_connect hR) (traces_authenticate hR) (fun s _ => traced_close s) call _
      hbegun
  | happening happening => exact traces_of_exposed (exposed_linkwise.happen s.scene happening) hs
  | expose link u => exact absurd rfl (hevent link u)

end Opening

end Session

/-- A session that events can lead to in which no device shows a characteristic that it did not show at first. -/
inductive Constant : Session → Prop where
  | start {options : Options} {scene : Scene} {s : Session} (unused : scene.Unused)
    (started : Session.start options scene = .ok s) : Constant s
  | event {s : Session} (before : Constant s) {event : Event} (same : ∀ link u, event ≠ .expose link u) :
    Constant (event.apply s)

private theorem Constant.reachable {s : Session} (h : Constant s) : Reachable s := by
  induction h with
  | start unused started => exact .start unused started
  | event before same ih => exact .event ih _

private theorem constant_atLock : Constant Session.atLock := by
  have hunused := Scene.unused_alone [Profile.smartLock.general, Profile.smartLock.user] [] { bytes := [] }
  have hstart := @Constant.start {} _ _ hunused rfl
  unfold Session.atLock
  refine (hstart.event ?_).event ?_ <;> nofun

namespace Session

variable {R : List Uuid → List Uuid → Prop} {s : Session}

private theorem traced_start {options : Options} {scene : Scene} (h : Session.start options scene = .ok s) :
    s.Traced R := by
  rw [start_eq h]
  exact ⟨nofun, nofun⟩

private theorem traced_of_constant (h : Constant s) : s.Traced Eq := by
  induction h with
  | start unused started => exact traced_start started
  | event before same ih => exact traces_event (fun _ => rfl) _ same ih

/-- Where a device shows more and more, what it exposed once is a part of what it exposes now. -/
theorem traced_of_reachable (h : Reachable s) : s.Traced (· <:+ ·) := by
  induction h with
  | start unused started => exact traced_start started
  | @event s before event ih =>
    cases event with
    | expose link u =>
      refine ih.of_scene fun i exposed hexposed => ?_
      rw [Scene.link_adjustLink]
      split
      · rename_i hlink
        obtain ⟨rfl, -⟩ := hlink
        exact hexposed.trans (List.suffix_cons _ _)
      · exact hexposed
    | call cancelAt agenda call => exact traces_event (fun exposed => List.suffix_refl exposed) _ nofun ih
    | happening happening => exact traces_event (fun exposed => List.suffix_refl exposed) _ nofun ih

private theorem exists_pair (hs : Reachable s) {user : Channel} (huser : s.user = some user) :
    user.codec.kind = .user ∧ ∃ general, s.general = some general ∧ general.codec.kind = .general ∧
      ∃ early late, general.FoundIn early ∧ user.FoundIn late ∧ early <:+ late ∧
        late <:+ (s.scene.link user.link).exposed ∧
        (Constant s → early = (s.scene.link user.link).exposed ∧ late = (s.scene.link user.link).exposed) := by
  have hsound := sound_of_reachable hs
  obtain ⟨-, c, -, hcodec⟩ := hsound.user user huser
  obtain ⟨hlink, hpair⟩ := (traced_of_reachable hs).user user huser
  have hlinked : s.general.map Channel.link = some user.link := (linked_of_reachable hs).symm.trans hlink
  obtain ⟨general, hgeneral, -⟩ := Option.map_eq_some_iff.mp hlinked
  refine ⟨by rw [hcodec]; rfl, general, hgeneral, by rw [(hsound.general general hgeneral).2]; rfl, ?_⟩
  -- The two traces need not name the same moments, so one of them is taken for each kind of session.
  by_cases hconstant : Constant s
  · obtain ⟨early, late, hearly, hlate, rfl, rfl⟩ :=
      ((traced_of_constant hconstant).user user huser).2 general hgeneral
    exact ⟨_, _, hearly, hlate, List.suffix_refl _, List.suffix_refl _, fun _ => ⟨rfl, rfl⟩⟩
  · obtain ⟨early, late, hearly, hlate, hbetween, hnow⟩ := hpair general hgeneral
    exact ⟨early, late, hearly, hlate, hbetween, hnow, fun h => absurd h hconstant⟩

private theorem requireFamily_fst {user : Channel} (huser : s.user = some user) (required : Family) :
    (requireFamily required s).1 =
      if user.family = required then .ok () else .error (.unsupportedFamily required user.family) := by
  rw [run_requireFamily, unsuited?, huser]
  by_cases hfamily : user.family = required
  · simp only [if_pos hfamily]
  · simp only [if_neg hfamily]

end Session

/-- What a device shows can tell one family by the general characteristics and another by those of the user. An
action for a family is refused, and a fault that is reported on the user channel is read, by what this channel was
found to be; the family that a client tells is the one its general channel was found to be, on the same link and not
later. The two are the same exactly if the device showed the general characteristic of a lock at the one moment and
the user characteristic of a lock at the other, or neither. All that it showed then it still shows, and that was the
same as now unless it has started to show more. -/
theorem families_found {s : Session} (hs : Reachable s) {user : Channel} (huser : s.user = some user) :
    s.link = some user.link ∧
      (∀ required, (Session.requireFamily required s).1 =
        if user.family = required then .ok () else .error (.unsupportedFamily required user.family)) ∧
      (∀ c : Command, c.Carries (.known .errorReport) →
        user.refuseFault c = .error (.device (c.reported user.family))) ∧
      ∃ early late, early <:+ late ∧ late <:+ (s.scene.link user.link).exposed ∧
        (Constant s →
          early = (s.scene.link user.link).exposed ∧ late = (s.scene.link user.link).exposed) ∧
        (Profile.find? early .general).map Profile.family = some s.family ∧
        (Profile.find? late .user).map Profile.family = some user.family ∧
        (s.family = user.family ↔ (Profile.smartLock.general ∈ early ↔ Profile.smartLock.user ∈ late)) := by
  obtain ⟨hsealed, general, hgeneral, hplain, early, late, hearly, hlate, hbetween, hnow, hconstant⟩ :=
    Session.exists_pair hs huser
  have hfamily : s.family = general.family := by
    rw [Session.family, hgeneral]
    rfl
  refine ⟨Session.link_of_uses hs (.inr huser), Session.requireFamily_fst huser, fun c hreport => ?_, early, late,
    hbetween, hnow, hconstant, ?_, ?_, ?_⟩
  · rw [Channel.refuseFault, Command.fault?_eq, if_pos hreport]
  · rw [hfamily, ← hplain]
    exact hearly.map_family
  · rw [← hsealed]
    exact hlate.map_family
  · have hgeneralFamily := hearly.family_eq
    have huserFamily := hlate.family_eq
    rw [hplain] at hgeneralFamily
    rw [hsealed] at huserFamily
    rw [hfamily, hgeneralFamily, huserFamily]
    exact Profile.family_eq_iff

/-- A lock that shows nothing but its own characteristics is one and the same to both channels. -/
theorem families_found_atLock :
    ∃ user, Session.atLock.user = some user ∧ Session.atLock.family = user.family := by
  obtain ⟨user, huser⟩ : ∃ user, Session.atLock.user = some user := ⟨_, rfl⟩
  obtain ⟨hlink, -, -, early, late, -, -, hconstant, -, -, hagree⟩ := families_found reachable_atLock huser
  have hzero : user.link = 0 := (Option.some_inj.mp (show some 0 = some user.link from hlink)).symm
  obtain ⟨rfl, rfl⟩ := hconstant constant_atLock
  have hexposed : (Session.atLock.scene.link 0).exposed = [Profile.smartLock.general, Profile.smartLock.user] := rfl
  refine ⟨user, huser, hagree.mpr ?_⟩
  rw [hzero, hexposed]
  simp

/-- A client with credentials at a device with the general characteristic of an opener and the user characteristic of
a lock. -/
def Session.atHybrid : Session :=
  let hybrid : Peripheral := { exposed := [Profile.opener.general, Profile.smartLock.user] }
  let key : Key := ⟨List.replicate 32 6, rfl⟩
  let credentials : Credentials := { authorization := 7, clientSecret := key, devicePublic := key }
  let connected := (Event.call none [] (.connect 0)).apply { options := {}, scene := { links := [hybrid] } }
  (Event.call none [] (.authenticate credentials)).apply connected

private theorem constant_atHybrid : Constant Session.atHybrid := by
  have hunused := Scene.unused_alone [Profile.opener.general, Profile.smartLock.user] [] { bytes := [] }
  have hstart := @Constant.start {} _ _ hunused rfl
  unfold Session.atHybrid
  refine (hstart.event ?_).event ?_ <;> nofun

/-- There the client tells the family of an opener, but what an opener can do is refused, and the device is said to
be a lock; a fault, too, is read as one of a lock. -/
theorem families_differ :
    Reachable Session.atHybrid ∧ Constant Session.atHybrid ∧ Session.atHybrid.family = .opener ∧
      ∃ user, Session.atHybrid.user = some user ∧ user.family = .smartLock ∧
        (∀ action, (Session.openAction action Session.atHybrid).1 =
          .error (.unsupportedFamily .opener .smartLock)) ∧
        ∃ c : Command, user.refuseFault c = .error (.device (.known .notCalibrated)) ∧
          c.fault? Session.atHybrid.family = some (.known .notTrained) := by
  let report : Command := .of (.known .errorReport) [0x47]
  exact ⟨constant_atHybrid.reachable, constant_atHybrid, rfl, _, rfl, rfl, fun _ => rfl, report, rfl, rfl⟩

end Latchkey
