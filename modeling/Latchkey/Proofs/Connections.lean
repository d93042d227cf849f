import Latchkey.Proofs.Frames
import Latchkey.Proofs.Subscriptions

/-!
# Channels come and go

Opening and closing channels writes nothing. A session stays sound: its channels are on links that exist,
the general one carries plain commands, and the user channel is sealed for the credentials installed.
-/

namespace Latchkey

namespace Scene

/-- The devices expose what they exposed before, and their links fail at what they failed at before. -/
def SameDevices (s s' : Scene) : Prop :=
  ∀ i, (s'.link i).exposed = (s.link i).exposed ∧ (s'.link i).failing = (s.link i).failing

theorem sameDevices_lasting : Lasting SameDevices where
  refl _ _ := ⟨rfl, rfl⟩
  trans h h' i := ⟨(h' i).1.trans (h i).1, (h' i).2.trans (h i).2⟩

private theorem sameDevices_putLink {s : Scene} {i : Nat} {p : Peripheral} (hexposed : p.exposed = (s.link i).exposed)
    (hfailing : p.failing = (s.link i).failing) : s.SameDevices (s.putLink i p) := by
  intro j
  rw [link_putLink]
  split
  · rename_i hlink
    rw [← hlink.1]
    exact ⟨hexposed, hfailing⟩
  · exact ⟨rfl, rfl⟩

end Scene

namespace Radio

private theorem quiet_onLink {i : Nat} {use : Peripheral → Except Failure Peripheral}
    (h : ∀ p p', use p = .ok p' → p'.messages = p.messages ∧ p'.outbound = p.outbound) :
    Keeps Scene.Quiet (onLink i use) := by
  refine keeps_onLink Scene.quiet_lasting fun s p huse => ?_
  obtain ⟨hmessages, houtbound⟩ := h _ _ huse
  exact Scene.quiet_putLink hmessages houtbound

theorem quiet_closeLink (i : Nat) : Keeps Scene.Quiet (closeLink i) := by
  refine quiet_onLink fun p p' h => ?_
  rw [Peripheral.close_ok h]
  exact ⟨rfl, rfl⟩

theorem sameDevices_closeLink (i : Nat) : Keeps Scene.SameDevices (closeLink i) := by
  refine keeps_onLink Scene.sameDevices_lasting fun s p h => ?_
  rw [Peripheral.close_ok h]
  exact Scene.sameDevices_putLink rfl rfl

end Radio

namespace Channel

theorem quiet_close (ch : Channel) : Keeps Scene.Quiet ch.close := by
  refine Radio.quiet_onLink fun p p' h => ?_
  rw [Peripheral.unsubscribe_ok h]
  exact ⟨rfl, rfl⟩

theorem close_eq (ch : Channel) (s : Scene) :
    ch.close s =
      if Operation.unsubscribe ∈ (s.link ch.link).failing then (.error (Peripheral.refusal .unsubscribe), s)
      else (.ok (), s.adjustLink ch.link fun p =>
        { p with mailboxes := p.mailboxes.adjust ch.characteristic Mailbox.detach }) := by
  rw [close, Radio.onLink, Peripheral.unsubscribe_eq]
  by_cases hfails : Operation.unsubscribe ∈ (s.link ch.link).failing
  · simp only [if_pos hfails]
  · simp only [if_neg hfails]
    rfl

theorem sameDevices_close (ch : Channel) : Keeps Scene.SameDevices ch.close := by
  refine Radio.keeps_onLink Scene.sameDevices_lasting fun s p h => ?_
  rw [Peripheral.unsubscribe_ok h]
  exact Scene.sameDevices_putLink rfl rfl

theorem quiet_opened (ch : Channel) (s : Scene) : s.Quiet (ch.opened s) := Scene.quiet_putLink rfl rfl

theorem sameDevices_opened (ch : Channel) (s : Scene) : s.SameDevices (ch.opened s) :=
  Scene.sameDevices_putLink rfl rfl

/-- The characteristic is one that a profile has for channels of this kind. -/
def Standard (ch : Channel) : Prop :=
  ∃ profile ∈ Profile.all, ch.characteristic = profile.characteristic ch.codec.kind

/-- The channel is the one to the first profile that shows among these characteristics. -/
def FoundIn (exposed : List Uuid) (ch : Channel) : Prop :=
  ∃ profile, Profile.find? exposed ch.codec.kind = some profile ∧
    ch.characteristic = profile.characteristic ch.codec.kind ∧ ch.family = profile.family

theorem FoundIn.standard {exposed : List Uuid} {ch : Channel} (h : ch.FoundIn exposed) : ch.Standard := by
  obtain ⟨profile, hprofile, hcharacteristic, -⟩ := h
  exact ⟨profile, List.mem_of_find?_eq_some hprofile, hcharacteristic⟩

theorem attach_eq (link : Nat) (codec : Codec) (s : Scene) :
    attach link codec s =
      match Profile.find? (s.link link).exposed codec.kind with
      | none => (.error (.characteristicNotFound codec.kind.display), s)
      | some profile =>
        let ch : Channel := ⟨link, profile.characteristic codec.kind, profile.family, codec⟩
        if Operation.subscribe ∈ (s.link link).failing then (.error (Peripheral.refusal .subscribe), s)
        else (.ok ch, ch.opened s) := by
  rw [attach, run_bind, run_get]
  cases hprofile : Profile.find? (s.link link).exposed codec.kind with
  | none =>
    simp only [hprofile]
    rfl
  | some profile =>
    have hexposed : profile.characteristic codec.kind ∈ (s.link link).exposed := by
      simpa using List.find?_some hprofile
    simp only [hprofile, run_bind, Radio.onLink, Peripheral.subscribe_eq codec hexposed]
    by_cases hfails : Operation.subscribe ∈ (s.link link).failing
    · simp only [if_pos hfails]
    · simp only [if_neg hfails]
      rfl

theorem attach_cases (link : Nat) (codec : Codec) (s : Scene) :
    (∃ e, attach link codec s = (.error e, s)) ∨
      ∃ ch : Channel, attach link codec s = (.ok ch, ch.opened s) ∧ ch.link = link ∧ ch.codec = codec ∧
        ch.FoundIn (s.link link).exposed ∧ link < s.links.length := by
  rw [attach_eq]
  cases hprofile : Profile.find? (s.link link).exposed codec.kind with
  | none => exact .inl ⟨_, rfl⟩
  | some profile =>
    have hlink : link < s.links.length := by
      refine Nat.not_le.mp fun hle => ?_
      rw [Scene.link_of_length_le hle] at hprofile
      cases codec <;> cases hprofile
    dsimp only
    split
    · exact .inl ⟨_, rfl⟩
    · exact .inr ⟨_, rfl, rfl, rfl, ⟨profile, hprofile, rfl, rfl⟩, hlink⟩

end Channel

namespace Radio

/-- Makes one attempt after the other, whatever fails. -/
def tryAll : List (Radio Unit) → Scene → List (Except Failure Unit) × Scene
  | [], s => ([], s)
  | run :: runs, s => ((run s).1 :: (tryAll runs (run s).2).1, (tryAll runs (run s).2).2)

theorem tryAll_snd (runs : List (Radio Unit)) (s : Scene) :
    (tryAll runs s).2 = runs.foldl (fun scene run => (run scene).2) s := by
  induction runs generalizing s with
  | nil => rfl
  | cons run runs ih => exact ih (run s).2

end Radio

namespace Session

theorem forall_mem_closings {P : Radio Unit → Prop} {s : Session}
    (hchannel : ∀ ch : Channel, s.general = some ch ∨ s.user = some ch → P ch.close)
    (hlink : ∀ link, s.link = some link → P (Radio.closeLink link)) : ∀ closing ∈ s.closings, P closing := by
  intro closing h
  rw [closings, List.mem_append, List.mem_map, List.mem_map] at h
  rcases h with ⟨ch, hch, rfl⟩ | ⟨link, hused, rfl⟩
  · rw [List.mem_append, Option.mem_toList, Option.mem_toList] at hch
    exact hchannel ch hch
  · exact hlink link (Option.mem_toList.mp hused)

theorem forall_closings {P : Radio Unit → Prop} (hchannel : ∀ ch : Channel, P ch.close)
    (hlink : ∀ link, P (Radio.closeLink link)) (s : Session) : ∀ closing ∈ s.closings, P closing :=
  forall_mem_closings (fun ch _ => hchannel ch) fun link _ => hlink link

private theorem run_tryAll (runs : List (Radio Unit)) (s : Session) :
    (runs.mapM fun run => liftM (Act.failureOf (Act.onAir run)) : Act _) s =
      (.ok ((Radio.tryAll runs s.scene).1.map Act.failure?),
        { s with scene := (Radio.tryAll runs s.scene).2 }) := by
  induction runs generalizing s with
  | nil => rfl
  | cons run runs ih =>
    rw [List.mapM_cons, run_bind, run_lift, Act.failureOf_eq, Act.run_onAir]
    dsimp only
    rw [run_bind_ok (ih { s with scene := (run s.scene).2 })]
    rfl

theorem close_eq (s : Session) :
    close s = (do
      let outcomes ← s.closings.mapM fun closing => Act.failureOf (Act.onAir closing)
      match outcomes.filterMap id with
      | [] => return ()
      | failures => throw (.closing failures) : Act Unit)
      { s with link := none, general := none, user := none } :=
  (run_get_bind _ s).trans (run_bind_ok (run_set s _))

/-- What closing comes to when its attempts have come to this. -/
def closingVerdict (outcomes : List (Except Failure Unit)) : Except Failure Unit :=
  match outcomes.filterMap Act.failure? with
  | [] => .ok ()
  | failures => .error (.closing failures)

/-- Closing makes all attempts, and whatever has failed, it leaves a client without link and channels. -/
theorem run_close (s : Session) :
    close s = (closingVerdict (Radio.tryAll s.closings s.scene).1, { s with
      link := none, general := none, user := none
      scene := (Radio.tryAll s.closings s.scene).2 }) := by
  rw [close_eq, run_bind_ok (run_tryAll s.closings _), List.filterMap_map, Function.id_comp,
    closingVerdict]
  cases (Radio.tryAll s.closings s.scene).1.filterMap Act.failure? with
  | nil => rfl
  | cons e failures => rfl

theorem close_state (s : Session) :
    (close s).2 = { s with
      link := none, general := none, user := none
      scene := s.closings.foldl (fun scene closing => (closing scene).2) s.scene } := by
  rw [run_close, Radio.tryAll_snd]

theorem openUser_unlinked {s : Session} (hlink : s.link = none) : openUser s = (.error .notConnected, s) := by
  obtain ⟨options, _, general, user, credentials, scene⟩ := s
  cases hlink
  rfl

theorem openUser_anonymous {s : Session} (hlink : s.link.isSome) (hcredentials : s.credentials = none) :
    openUser s = (.error .notAuthenticated, s) := by
  obtain ⟨options, _ | link, general, user, _, scene⟩ := s
  · cases hlink
  · cases hcredentials
    rfl

theorem openUser_eq {s : Session} {link : Nat} {c : Credentials} (hlink : s.link = some link)
    (hcredentials : s.credentials = some c) :
    openUser s =
      match Channel.attach link (.sealed c.authorization c.sharedKey) s.scene with
      | (.ok user, scene) => (.ok (), { s with user := some user, scene })
      | (.error e, scene) =>
        (.error (.during "opening user-specific data input output" e), { s with scene }) := by
  obtain ⟨options, _, general, user, _, scene⟩ := s
  cases hlink
  cases hcredentials
  rw [openUser, run_bind, run_get]
  dsimp only
  rw [run_bind, Act.run_step, Act.run_onAir]
  rcases Channel.attach link (.sealed c.authorization c.sharedKey) scene with ⟨e | user, scene⟩
  · rfl
  · rfl

/-- The user channel is opened on the link in use and sealed for the credentials installed, or nothing is
done. -/
theorem openUser_cases (s : Session) :
    (∃ e, openUser s = (.error e, s)) ∨
      ∃ (user : Channel) (c : Credentials), s.link = some user.link ∧ s.credentials = some c ∧
        user.codec = .sealed c.authorization c.sharedKey ∧ user.FoundIn (s.scene.link user.link).exposed ∧
        user.link < s.scene.links.length ∧
        openUser s = (.ok (), { s with user := some user, scene := user.opened s.scene }) := by
  obtain ⟨options, link, general, user, credentials, scene⟩ := s
  cases link with
  | none => exact .inl ⟨_, openUser_unlinked rfl⟩
  | some link =>
    cases credentials with
    | none => exact .inl ⟨_, openUser_anonymous rfl rfl⟩
    | some c =>
      rw [openUser_eq rfl rfl]
      rcases Channel.attach_cases link (.sealed c.authorization c.sharedKey) scene with
        ⟨e, hattach⟩ | ⟨user, hattach, rfl, hcodec, hfound, hlt⟩
      · rw [hattach]
        exact .inl ⟨_, rfl⟩
      · rw [hattach]
        exact .inr ⟨user, c, rfl, rfl, hcodec, hfound, hlt, rfl⟩

theorem openUser_works {s : Session} {link : Nat} {c : Credentials} {profile : Profile}
    (hlink : s.link = some link) (hcredentials : s.credentials = some c)
    (hworks : Operation.subscribe ∉ (s.scene.link link).failing)
    (hexposes : Profile.find? (s.scene.link link).exposed .user = some profile) :
    ∃ user : Channel, openUser s = (.ok (), { s with user := some user, scene := user.opened s.scene }) := by
  have hkind : (Codec.sealed c.authorization c.sharedKey).kind = .user := rfl
  rw [openUser_eq hlink hcredentials, Channel.attach_eq, hkind, hexposes]
  dsimp only
  rw [if_neg hworks]
  exact ⟨_, rfl⟩

/-- The scene after the user channel has been closed, if there is one. -/
def withoutUser (s : Session) : Scene :=
  match s.user with
  | some user => (user.close s.scene).2
  | none => s.scene

theorem authenticate_eq (c : Credentials) (s : Session) :
    authenticate c s = (if s.link.isSome then openUser else pure ())
      { s with user := none, credentials := some c, scene := s.withoutUser } := by
  obtain ⟨options, link, general, user, credentials, scene⟩ := s
  rw [authenticate, run_bind, run_get]
  dsimp only
  rw [run_bind, run_set]
  cases user with
  | none => cases link <;> rfl
  | some user =>
    dsimp only
    rw [run_bind, run_lift, Act.run_failureOf, Act.run_onAir]
    cases link <;> rfl

/-- Takes a link into use, without closing anything. -/
def engage (link : Nat) : Act Unit := do
  let general ← Act.step "opening general data input output" (Act.onAir (Channel.attach link .plain))
  modify fun s => { s with link := some link, general := some general }
  if (← get).credentials.isSome then openUser

/-- A link is taken into use with a general channel, and with credentials installed the user channel
follows; or nothing is done. -/
theorem engage_cases (link : Nat) (s : Session) :
    (engage link s).2 = s ∨
      ∃ general : Channel, general.link = link ∧ general.codec = .plain ∧
        general.FoundIn (s.scene.link link).exposed ∧ link < s.scene.links.length ∧
        engage link s = (if s.credentials.isSome then openUser else pure ())
          { s with link := some link, general := some general, scene := general.opened s.scene } := by
  rw [engage, run_bind, Act.run_step, Act.run_onAir]
  rcases Channel.attach_cases link .plain s.scene with
    ⟨e, hattach⟩ | ⟨general, hattach, hlink, hcodec, hfound, hlt⟩
  · rw [hattach]
    exact .inl rfl
  · rw [hattach]
    exact .inr ⟨general, hlink, hcodec, hfound, hlt, rfl⟩

theorem connect_unlinked {s : Session} (hlink : s.link = none) (link : Nat) : connect link s = engage link s := by
  obtain ⟨options, _, general, user, credentials, scene⟩ := s
  cases hlink
  rfl

/-- A link is taken into use when none is, or when the one in use has been closed without a failure. -/
theorem connect_cases (link : Nat) (s : Session) :
    s.link = none ∧ connect link s = engage link s ∨
      connect link s = close s ∧ (close s).1 ≠ .ok () ∨ connect link s = engage link (close s).2 := by
  have hconnect : connect link = get >>= fun s : Session =>
      if s.link.isSome then close >>= fun _ => engage link else engage link := rfl
  cases hlink : s.link with
  | none => exact .inl ⟨rfl, connect_unlinked hlink link⟩
  | some used =>
    rw [hconnect, run_get_bind, if_pos (Option.isSome_of_eq_some hlink), run_bind]
    rcases close s with ⟨e | _, bare⟩
    · exact .inr (.inl ⟨rfl, nofun⟩)
    · exact .inr (.inr rfl)

/-- A relation that lasts and holds over whatever opening and closing change in a session. -/
structure Furnishing (R : Session → Session → Prop) : Prop where
  lasting : Lasting R
  opensUser {s : Session} {user : Channel} (hlink : user.link < s.scene.links.length)
    (hsealed : ∃ c ∈ s.credentials, user.codec = .sealed c.authorization c.sharedKey) :
    R s { s with user := some user, scene := user.opened s.scene }
  dropsUser (s : Session) (c : Credentials) :
    R s { s with user := none, credentials := some c, scene := s.withoutUser }
  engages {s : Session} {general : Channel} (hlink : general.link < s.scene.links.length)
    (hplain : general.codec = .plain) :
    R s { s with link := some general.link, general := some general, scene := general.opened s.scene }
  closes : Keeps R close

namespace Furnishing

variable {R : Session → Session → Prop} (hR : Furnishing R)
include hR

private theorem keeps_openUser : Keeps R openUser := by
  intro s
  rcases openUser_cases s with ⟨e, hrun⟩ | ⟨user, c, -, hcredentials, hcodec, -, hlink, hrun⟩
  · rw [hrun]
    exact hR.lasting.refl s
  · rw [hrun]
    exact hR.opensUser hlink ⟨c, hcredentials, hcodec⟩

theorem keeps_authenticate (c : Credentials) : Keeps R (authenticate c) := by
  intro s
  rw [authenticate_eq]
  split
  · exact hR.lasting.trans (hR.dropsUser s c) (hR.keeps_openUser _)
  · exact hR.dropsUser s c

private theorem keeps_engage (link : Nat) : Keeps R (engage link) := by
  intro s
  rcases engage_cases link s with hrun | ⟨general, rfl, hplain, -, hlink, hrun⟩
  · rw [hrun]
    exact hR.lasting.refl s
  · have hengaged := hR.engages hlink hplain
    rw [hrun]
    split
    · exact hR.lasting.trans hengaged (hR.keeps_openUser _)
    · exact hengaged

theorem keeps_connect (link : Nat) : Keeps R (connect link) := by
  intro s
  rcases connect_cases link s with ⟨-, hrun⟩ | ⟨hrun, -⟩ | hrun
  · rw [hrun]
    exact hR.keeps_engage link s
  · rw [hrun]
    exact hR.closes s
  · rw [hrun]
    exact hR.lasting.trans (hR.closes s) (hR.keeps_engage link _)

end Furnishing

/-- A relation between scenes that lasts and holds over opening and closing. -/
structure Scenic (Q : Scene → Scene → Prop) : Prop where
  lasting : Lasting Q
  opens (ch : Channel) (s : Scene) : Q s (ch.opened s)
  closes (ch : Channel) : Keeps Q ch.close
  closesLink (link : Nat) : Keeps Q (Radio.closeLink link)

namespace Scenic

variable {Q : Scene → Scene → Prop} (hQ : Scenic Q)
include hQ

theorem keeps_withoutUser (s : Session) : Q s.scene s.withoutUser := by
  rw [Session.withoutUser]
  cases s.user with
  | none => exact hQ.lasting.refl s.scene
  | some user => exact hQ.closes user s.scene

theorem keeps_close : Keeps (fun s s' => Q s.scene s'.scene) close := by
  intro s
  rw [close_state]
  exact hQ.lasting.foldl (forall_closings hQ.closes hQ.closesLink s) s.scene

private theorem furnishing : Furnishing fun s s' => Q s.scene s'.scene where
  lasting :=
    { refl := fun s => hQ.lasting.refl s.scene
      trans := fun h h' => hQ.lasting.trans h h' }
  opensUser _ _ := hQ.opens ..
  dropsUser s _ := hQ.keeps_withoutUser s
  engages _ _ := hQ.opens ..
  closes := hQ.keeps_close

theorem keeps_authenticate (c : Credentials) : Keeps (fun s s' => Q s.scene s'.scene) (authenticate c) :=
  hQ.furnishing.keeps_authenticate c

theorem keeps_connect (link : Nat) : Keeps (fun s s' => Q s.scene s'.scene) (connect link) :=
  hQ.furnishing.keeps_connect link

end Scenic

theorem quiet_scenic : Scenic Scene.Quiet where
  lasting := Scene.quiet_lasting
  opens := Channel.quiet_opened
  closes := Channel.quiet_close
  closesLink := Radio.quiet_closeLink

theorem sameDevices_scenic : Scenic Scene.SameDevices where
  lasting := Scene.sameDevices_lasting
  opens := Channel.sameDevices_opened
  closes := Channel.sameDevices_close
  closesLink := Radio.sameDevices_closeLink

theorem hushed_authenticate (c : Credentials) : Keeps Hushed (authenticate c) := quiet_scenic.keeps_authenticate c

theorem hushed_close : Keeps Hushed close := quiet_scenic.keeps_close

/-- What holds of a session between any two operations. -/
structure Sound (s : Session) : Prop where
  tidy : s.scene.Tidy
  general : ∀ ch ∈ s.general, ch.link < s.scene.links.length ∧ ch.codec = .plain
  user : ∀ ch ∈ s.user, ch.link < s.scene.links.length ∧
    ∃ c ∈ s.credentials, ch.codec = .sealed c.authorization c.sharedKey

/-- A sound session stays sound. -/
def Upholds (s s' : Session) : Prop := s.Sound → s'.Sound

theorem upholds_settling : Settling Upholds where
  lasting :=
    { refl := fun _ => id
      trans := fun h h' hs => h' (h hs) }
  settled := fun h hs => by
    obtain ⟨htidy, hlength⟩ := h hs.tidy
    refine ⟨htidy, ?_, ?_⟩
    · rw [hlength]
      exact hs.general
    · rw [hlength]
      exact hs.user

theorem upholds_close : Keeps Upholds close := by
  intro s hs
  have hquiet := hushed_close s
  rw [Hushed, close_state] at hquiet
  have hscene := upholds_settling.airy.quiet hquiet hs
  rw [close_state]
  exact ⟨hscene.tidy, (fun ch hch => by cases hch), (fun ch hch => by cases hch)⟩

theorem upholds_furnishing : Furnishing Upholds where
  lasting := upholds_settling.lasting
  opensUser {s user} hlink hsealed hs := by
    have hscene := upholds_settling.airy.quiet (user.quiet_opened s.scene) hs
    refine ⟨hscene.tidy, hscene.general, ?_⟩
    rintro ch ⟨⟩
    rw [(user.quiet_opened s.scene).length]
    exact ⟨hlink, hsealed⟩
  -- In between there is no user channel that could be sealed for other credentials.
  dropsUser s c hs := by
    have hscene := upholds_settling.airy.quiet (quiet_scenic.keeps_withoutUser s) hs
    exact ⟨hscene.tidy, hscene.general, fun ch hch => by cases hch⟩
  engages {s general} hlink hplain hs := by
    have hscene := upholds_settling.airy.quiet (general.quiet_opened s.scene) hs
    refine ⟨hscene.tidy, ?_, hscene.user⟩
    rintro ch ⟨⟩
    rw [(general.quiet_opened s.scene).length]
    exact ⟨hlink, hplain⟩
  closes := upholds_close

/-- The link in use is the one of the general channel. -/
def Linked (s : Session) : Prop := s.link = s.general.map Channel.link

/-- A link stays in use exactly as long as there is a general channel on it. -/
def Links (s s' : Session) : Prop := s.Linked → s'.Linked

private theorem links_lasting : Lasting Links where
  refl _ := id
  trans h h' hs := h' (h hs)

theorem links_talkative : Talkative Links where
  lasting := links_lasting
  listens _ _ _ _ _ := id
  sends _ _ _ := id
  draws _ _ := id

private theorem linked_close (s : Session) : (close s).2.Linked := by
  rw [close_state]
  rfl

theorem links_furnishing : Furnishing Links where
  lasting := links_lasting
  opensUser _ _ := id
  dropsUser _ _ := id
  engages _ _ := fun _ => rfl
  closes s _ := linked_close s

end Session

end Latchkey
