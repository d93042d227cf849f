import Latchkey.Proofs.Closing
import Latchkey.Proofs.Coherence

/-!
# Connecting again

Whatever has failed before, a client can connect to a link that works. At most the link it was using cannot be
closed; that is reported, and the next attempt succeeds.
-/

namespace Latchkey

/-- Of the characteristics of all families the link exposes exactly those of this one. -/
def Peripheral.Offers (p : Peripheral) (profile : Profile) : Prop :=
  profile ∈ Profile.all ∧
    ∀ other ∈ Profile.all, ∀ kind, other.characteristic kind ∈ p.exposed ↔ other.family = profile.family

private theorem Profile.eq_of_family : ∀ p ∈ all, ∀ q ∈ all, p.family = q.family → p = q := by
  simp [all, smartLock, opener]

private theorem Peripheral.Offers.find? {p : Peripheral} {profile : Profile} (h : p.Offers profile)
    (kind : ChannelKind) : Profile.find? p.exposed kind = some profile := by
  obtain ⟨hprofile, hexposed⟩ := h
  have hexposes : (Profile.find? p.exposed kind).isSome := by
    rw [Profile.find?, List.find?_isSome]
    exact ⟨profile, hprofile, decide_eq_true ((hexposed profile hprofile kind).mpr rfl)⟩
  obtain ⟨found, hfound⟩ := Option.isSome_iff_exists.mp hexposes
  have hmem := List.mem_of_find?_eq_some hfound
  have hchosen := List.find?_some hfound
  simp only [decide_eq_true_eq] at hchosen
  have hfamily : found.family = profile.family := (hexposed found hmem kind).mp hchosen
  rw [hfound, Profile.eq_of_family found hmem profile hprofile hfamily]

/-- The channel with this codec on a link to a device of the family. -/
def Profile.channel (profile : Profile) (link : Nat) (codec : Codec) : Channel :=
  ⟨link, profile.characteristic codec.kind, profile.family, codec⟩

namespace Channel

variable (ch : Channel) {other : Channel} {s : Scene}

private theorem get?_opened (hlink : ch.link < s.links.length) (u : Uuid) :
    ((ch.opened s).link ch.link).mailboxes.get? u =
      if u = ch.characteristic then some { codec := ch.codec } else (s.link ch.link).mailboxes.get? u := by
  rw [opened, Scene.link_adjustLink, if_pos ⟨rfl, hlink⟩]
  exact Registry.get?_put _ _ _ _

private theorem subscribed_opened (hlink : ch.link < s.links.length) (u : Uuid) :
    ((ch.opened s).link ch.link).Subscribed u ↔ u = ch.characteristic ∨ (s.link ch.link).Subscribed u := by
  rw [Peripheral.Subscribed, ch.get?_opened hlink]
  by_cases hu : u = ch.characteristic
  · simp [hu]
  · simp [hu, Peripheral.Subscribed]

private theorem inbox_opened (hlink : ch.link < s.links.length) : ch.inbox (ch.opened s) = [] := by
  rw [inbox, mailbox?, ch.get?_opened hlink, if_pos rfl]
  rfl

private theorem inbox_opened_of_ne (hlink : ch.link < s.links.length) (hsame : other.link = ch.link)
    (hother : other.characteristic ≠ ch.characteristic) : other.inbox (ch.opened s) = other.inbox s := by
  rw [inbox, mailbox?, hsame, ch.get?_opened hlink, if_neg hother, ← hsame]
  rfl

end Channel

namespace Scene

/-- There is a device of this family at the link, and the link fails at nothing. -/
structure Welcomes (s : Scene) (link : Nat) (profile : Profile) : Prop where
  offers : (s.link link).Offers profile
  works : (s.link link).failing = []

variable {s s' : Scene} {link : Nat} {profile : Profile}

private theorem Welcomes.of_same (h : s.Welcomes link profile) (hsame : s.SameDevices s') :
    s'.Welcomes link profile := by
  obtain ⟨hexposed, hfailing⟩ := hsame link
  refine ⟨?_, hfailing.trans h.works⟩
  rw [Peripheral.Offers, hexposed]
  exact h.offers

private theorem Welcomes.lt (h : s.Welcomes link profile) : link < s.links.length := by
  refine Nat.not_le.mp fun hle => ?_
  have hexposed := (h.offers.2 profile h.offers.1 .general).mpr rfl
  rw [link_of_length_le hle] at hexposed
  cases hexposed

private theorem Welcomes.attach (h : s.Welcomes link profile) (codec : Codec) :
    Channel.attach link codec s =
      (.ok (profile.channel link codec), (profile.channel link codec).opened s) := by
  have hworks : Operation.subscribe ∉ (s.link link).failing := by
    rw [h.works]
    exact List.not_mem_nil
  rw [Channel.attach_eq, h.offers.find? codec.kind]
  exact if_neg hworks

end Scene

/-- A relation between a link before and after that holds over whatever is done to a link, except subscribing. -/
structure Linkwise (Q : Peripheral → Peripheral → Prop) : Prop where
  lasting : Lasting Q
  fails (p : Peripheral) (op : Operation) : Q p { p with failing := op :: p.failing }
  adjusts (p : Peripheral) (u : Uuid) (change : Mailbox → Mailbox) :
    Q p { p with mailboxes := p.mailboxes.adjust u change }
  ends (p : Peripheral) : Q p { p with closed := true, mailboxes := p.mailboxes.mapValues Mailbox.detach }
  writes (p : Peripheral) (written : Array (Uuid × Bytes)) (outbound : Registry Assembler) :
    Q p { p with written, outbound }
  answers (p : Peripheral) (messages : Array (Uuid × Bytes)) (script : List (List Bytes)) :
    Q p { p with messages, script }

/-- The relation holds of every link. -/
def Scene.EachLink (Q : Peripheral → Peripheral → Prop) (s s' : Scene) : Prop := ∀ i, Q (s.link i) (s'.link i)

namespace Linkwise

variable {Q : Peripheral → Peripheral → Prop} (hQ : Linkwise Q) {s : Scene} {i : Nat} {p p' : Peripheral}
include hQ

theorem eachLink : Lasting (Scene.EachLink Q) where
  refl s i := hQ.lasting.refl (s.link i)
  trans h h' i := hQ.lasting.trans (h i) (h' i)

private theorem putLink (h : Q (s.link i) p) : s.EachLink Q (s.putLink i p) := by
  intro j
  rw [Scene.link_putLink]
  split
  · rename_i hlink
    rw [← hlink.1]
    exact h
  · exact hQ.lasting.refl _

private theorem notifyAll (p : Peripheral) (u : Uuid) (chunks : List Bytes) : Q p (p.notifyAll u chunks) := by
  rw [Peripheral.notifyAll_eq]
  exact hQ.adjusts p u _

private theorem write {u : Uuid} {chunk : Bytes} (hwrite : p.write u chunk = .ok p') : Q p p' := by
  obtain ⟨written, outbound, rfl | ⟨message, rfl⟩⟩ := Peripheral.write_ok hwrite
  · exact hQ.writes p written outbound
  · refine hQ.lasting.trans (hQ.writes p written outbound) ?_
    rw [Peripheral.reply]
    dsimp only
    split
    · exact hQ.answers _ _ _
    · exact hQ.lasting.trans (hQ.answers _ _ _) (hQ.notifyAll _ u _)

private theorem onLink {use : Peripheral → Except Failure Peripheral} (h : ∀ p p', use p = .ok p' → Q p p') :
    Keeps (Scene.EachLink Q) (Radio.onLink i use) :=
  Radio.keeps_onLink hQ.eachLink fun _ p huse => hQ.putLink (h _ p huse)

theorem happen (s : Scene) (x : Happening) : s.EachLink Q (s.happen x) := by
  cases x with
  | cancel => exact hQ.eachLink.refl s
  | failure i op => exact hQ.putLink (hQ.fails _ op)
  | lost i =>
    apply hQ.putLink
    dsimp only
    rw [Peripheral.lost_eq]
    split
    · exact hQ.lasting.refl _
    · exact hQ.ends _
  | arrival i u chunks => exact hQ.putLink (hQ.notifyAll _ u chunks)

private theorem putInbox (ch : Channel) (inbox : List Arrival) (s : Scene) : s.EachLink Q (ch.putInbox inbox s) :=
  hQ.putLink (hQ.adjusts _ ch.characteristic _)

theorem listen {σ α : Type} (ch : Channel) (hear : σ → Arrival → Heard σ α) (timeout : Span) (state : σ)
    (s : Scene) : s.EachLink Q (ch.listen hear timeout state s).2 :=
  ch.keeps_listenOn hQ.eachLink (fun rest s _ => hQ.putInbox ch rest s)
    (fun _ s _ _ => hQ.eachLink.refl s)
    (fun appointment agenda s _ => hQ.happen { s with now := appointment.time, agenda } appointment.happening)
    s.agenda _ rfl

theorem send (ch : Channel) (c : Command) : Keeps (Scene.EachLink Q) (ch.send c) :=
  Channel.keeps_send hQ.eachLink (fun s => hQ.putInbox ch [] s) fun _ => hQ.onLink fun _ _ => hQ.write

private theorem close (ch : Channel) : Keeps (Scene.EachLink Q) ch.close := by
  refine hQ.onLink fun p p' hrun => ?_
  rw [Peripheral.unsubscribe_ok hrun]
  exact hQ.adjusts p ch.characteristic _

private theorem closeLink (i : Nat) : Keeps (Scene.EachLink Q) (Radio.closeLink i) := by
  refine hQ.onLink fun p p' hrun => ?_
  rw [Peripheral.close_ok hrun]
  exact hQ.ends p

end Linkwise

/-- No characteristic has been subscribed to that had not been before. -/
def Scene.NoneNew (s s' : Scene) : Prop :=
  ∀ i u, (s.link i).mailboxes.get? u = none → (s'.link i).mailboxes.get? u = none

private theorem noneNew_linkwise :
    Linkwise fun p p' => ∀ u, p.mailboxes.get? u = none → p'.mailboxes.get? u = none where
  lasting :=
    { refl := fun _ _ => id
      trans := fun h h' u hnone => h' u (h u hnone) }
  fails _ _ _ := id
  adjusts p v change u hnone := by
    dsimp only
    rw [Registry.get?_adjust, hnone, Option.map_none, ite_self]
  ends p u hnone := by
    dsimp only
    rw [Registry.get?_mapValues, hnone, Option.map_none]
  writes _ _ _ _ := id
  answers _ _ _ _ := id

namespace Session

variable {s : Session} {link : Nat} {profile : Profile}

/-- What failures cannot change: a user channel is one of the link in use, and without credentials none has ever
been opened. -/
structure Moored (s : Session) : Prop where
  user : ∀ ch ∈ s.user, s.link = some ch.link
  reserved : s.credentials = none →
    ∀ i, ∀ profile ∈ Profile.all, (s.scene.link i).mailboxes.get? profile.user = none

/-- A moored session stays moored. -/
def Moors (s s' : Session) : Prop := s.Moored → s'.Moored

private theorem moors_of_noneNew {scene : Scene} (h : s.scene.NoneNew scene) : s.Moors { s with scene } := fun hs =>
  ⟨hs.user, fun hcredentials i profile hprofile => h i profile.user (hs.reserved hcredentials i profile hprofile)⟩

private theorem moors_talkative : Talkative Moors where
  lasting :=
    { refl := fun _ => id
      trans := fun h h' hs => h' (h hs) }
  listens ch hear timeout state s := moors_of_noneNew (noneNew_linkwise.listen ch hear timeout state s.scene)
  sends ch c s := moors_of_noneNew (noneNew_linkwise.send ch c s.scene)
  draws _ _ hs := ⟨hs.user, hs.reserved⟩

private theorem moors_openUser : Keeps Moors openUser := by
  intro s hs
  rcases openUser_cases s with ⟨e, hrun⟩ | ⟨user, c, hlink, hcredentials, -, -, -, hrun⟩
  · rw [hrun]
    exact hs
  · rw [hrun]
    refine ⟨?_, fun hnone => ?_⟩
    · rintro ch ⟨⟩
      exact hlink
    · rw [show s.credentials = none from hnone] at hcredentials
      cases hcredentials

private theorem moors_authenticate (c : Credentials) : Keeps Moors (authenticate c) := by
  intro s _
  have hbare : Moored { s with user := none, credentials := some c, scene := s.withoutUser } :=
    ⟨nofun, nofun⟩
  rw [authenticate_eq]
  split
  · exact moors_openUser _ hbare
  · exact hbare

private theorem moors_close : Keeps Moors close := by
  intro s hs
  have hclosings := forall_closings noneNew_linkwise.close noneNew_linkwise.closeLink s
  have hscene := moors_of_noneNew (noneNew_linkwise.eachLink.foldl hclosings s.scene) hs
  rw [close_state]
  exact ⟨nofun, hscene.reserved⟩

private theorem moors_engage (link : Nat) (huser : s.user = none) : s.Moors (engage link s).2 := by
  intro hs
  rcases engage_cases link s with hrun | ⟨general, rfl, hplain, hfound, -, hrun⟩
  · rw [hrun]
    exact hs
  · have hopened : Moored { s with
        link := some general.link, general := some general, scene := general.opened s.scene } := by
      refine ⟨?_, fun hcredentials i profile hprofile => ?_⟩
      · rw [huser]
        nofun
      · obtain ⟨own, hown, hstandard⟩ := hfound.standard
        have hother : profile.user ≠ general.characteristic := by
          rw [hstandard, hplain]
          exact (Profile.general_ne_user own hown profile hprofile).symm
        dsimp only
        rw [Channel.opened, Scene.link_adjustLink]
        split
        · rw [Registry.get?_put, if_neg hother]
          exact hs.reserved hcredentials _ profile hprofile
        · exact hs.reserved hcredentials i profile hprofile
    rw [hrun]
    split
    · exact moors_openUser _ hopened
    · exact hopened

private theorem moors_connect (link : Nat) : Keeps Moors (connect link) := by
  intro s hs
  have hclosed := moors_close s hs
  rcases connect_cases link s with ⟨hnone, hrun⟩ | ⟨hrun, -⟩ | hrun
  · rw [hrun]
    exact moors_engage link (user_eq_none hs.user hnone) hs
  · rw [hrun]
    exact hclosed
  · have huser : (close s).2.user = none := by rw [close_state]
    rw [hrun]
    exact moors_engage link huser hclosed

private theorem Moored.begin (h : s.Moored) (cancelAt : Option Nat) (agenda : List Appointment) :
    (s.begin cancelAt agenda).Moored := ⟨h.user, h.reserved⟩

private theorem moored_of_reachable (h : Reachable s) : s.Moored := by
  induction h with
  | start unused started =>
    rw [start_eq started]
    refine ⟨nofun, fun _ i profile _ => ?_⟩
    exact Option.eq_none_iff_forall_not_mem.mpr fun box hbox =>
      (unused.boxes (P := fun _ => False)) i profile.user box hbox
  | event before event ih =>
    cases event with
    | call cancelAt agenda call =>
      have hbegun := ih.begin cancelAt agenda
      exact keeps_call moors_talkative moors_connect moors_authenticate moors_close call _ hbegun
    | happening happening => exact moors_of_noneNew (noneNew_linkwise.happen _ happening) ih
    | expose link u => exact moors_of_noneNew (noneNew_linkwise.putLink fun _ => id) ih

/-- What a client is that has connected to a link with such a device. -/
structure Joined (s : Session) (link : Nat) (profile : Profile) : Prop where
  uses : s.link = some link
  state : s.state = if s.credentials.isSome then .authenticated else .connected
  family : s.family = profile.family
  general : (s.scene.link link).Subscribed profile.general
  user : (s.scene.link link).Subscribed profile.user ↔ s.credentials.isSome
  idle : ∀ ch, s.general = some ch ∨ s.user = some ch → ch.inbox s.scene = []

/-- The client with the general channel to such a device just opened. -/
def greeted (s : Session) (link : Nat) (profile : Profile) : Session :=
  { s with
    link := some link
    general := some (profile.channel link .plain)
    scene := (profile.channel link .plain).opened s.scene }

/-- The client with the user channel to such a device just opened for the credentials. -/
def admitted (s : Session) (link : Nat) (profile : Profile) (c : Credentials) : Session :=
  let user := profile.channel link (.sealed c.authorization c.sharedKey)
  { s with user := some user, scene := user.opened s.scene }

private theorem welcomes_greeted (h : s.scene.Welcomes link profile) :
    (s.greeted link profile).scene.Welcomes link profile :=
  h.of_same (Channel.sameDevices_opened _ s.scene)

private theorem engage_welcomes (h : s.scene.Welcomes link profile) :
    engage link s = (if s.credentials.isSome then openUser else pure ()) (s.greeted link profile) := by
  rw [engage, run_bind, Act.run_step, Act.run_onAir, h.attach .plain]
  rfl

private theorem openUser_welcomes {c : Credentials} (h : s.scene.Welcomes link profile) (hlink : s.link = some link)
    (hcredentials : s.credentials = some c) : openUser s = (.ok (), s.admitted link profile c) := by
  rw [openUser_eq hlink hcredentials, h.attach]
  rfl

private theorem joined_greeted (hs : s.Moored) (huser : s.user = none) (hcredentials : s.credentials = none)
    (h : s.scene.Welcomes link profile) : (s.greeted link profile).Joined link profile := by
  let general := profile.channel link .plain
  have hsubscribed := general.subscribed_opened h.lt
  have hreserved : ¬ ((s.greeted link profile).scene.link link).Subscribed profile.user := by
    have hother := Profile.general_ne_user profile h.offers.1 profile h.offers.1
    rintro hstale
    rcases (hsubscribed profile.user).mp hstale with heq | ⟨box, hbox, -⟩
    · exact hother heq.symm
    · rw [show (s.scene.link general.link).mailboxes.get? profile.user = none from
        hs.reserved hcredentials link profile h.offers.1] at hbox
      cases hbox
  refine ⟨rfl, ?_, rfl, (hsubscribed profile.general).mpr (.inl rfl), iff_of_false hreserved ?_, ?_⟩
  · simp [state, greeted, huser, hcredentials]
  · simp [greeted, hcredentials]
  · rintro ch (⟨⟨⟩⟩ | hch)
    · exact general.inbox_opened h.lt
    · rw [greeted, huser] at hch
      cases hch

private theorem joined_admitted {c : Credentials} (hcredentials : s.credentials = some c)
    (h : s.scene.Welcomes link profile) :
    ((s.greeted link profile).admitted link profile c).Joined link profile := by
  let general := profile.channel link .plain
  let user := profile.channel link (.sealed c.authorization c.sharedKey)
  have hgreeted := (welcomes_greeted h).lt
  have hother : profile.general ≠ profile.user :=
    Profile.general_ne_user profile h.offers.1 profile h.offers.1
  have hgeneral := general.subscribed_opened h.lt
  have hboth := user.subscribed_opened hgreeted
  refine ⟨rfl, ?_, rfl, ?_, iff_of_true ?_ ?_, ?_⟩
  · simp [state, greeted, admitted, hcredentials]
  · exact (hboth profile.general).mpr (.inr ((hgeneral profile.general).mpr (.inl rfl)))
  · exact (hboth profile.user).mpr (.inl rfl)
  · exact Option.isSome_of_eq_some hcredentials
  · rintro ch (⟨⟨⟩⟩ | ⟨⟨⟩⟩)
    · have hidle : general.inbox (s.greeted link profile).scene = [] := general.inbox_opened h.lt
      have hlater : general.inbox (user.opened (s.greeted link profile).scene) = _ :=
        user.inbox_opened_of_ne hgreeted rfl hother
      exact hlater.trans hidle
    · exact user.inbox_opened hgreeted

private theorem joined_engage (hs : s.Moored) (huser : s.user = none) (h : s.scene.Welcomes link profile) :
    ∃ s', engage link s = (.ok (), s') ∧ s'.credentials = s.credentials ∧ s'.Joined link profile := by
  rw [engage_welcomes h]
  cases hcredentials : s.credentials with
  | none => exact ⟨_, rfl, hcredentials, joined_greeted hs huser hcredentials h⟩
  | some c =>
    have hadmitted := openUser_welcomes (welcomes_greeted h) rfl hcredentials
    exact ⟨_, hadmitted, hcredentials, joined_admitted hcredentials h⟩

theorem link_of_uses (hs : Reachable s) {ch : Channel} (hch : s.general = some ch ∨ s.user = some ch) :
    s.link = some ch.link := by
  rcases hch with hgeneral | huser
  · rw [linked_of_reachable hs, hgeneral, Option.map_some]
  · exact (moored_of_reachable hs).user ch huser

private theorem link_close (hchannels : ∀ ch : Channel, s.general = some ch ∨ s.user = some ch → ch.link ≠ link)
    (hlink : s.link ≠ some link) : (close s).2.scene.link link = s.scene.link link := by
  have hlasting : Lasting fun scene scene' : Scene => scene'.link link = scene.link link :=
    ⟨fun _ => rfl, fun h h' => h'.trans h⟩
  have hother {i : Nat} (hi : i ≠ link) (change : Peripheral → Peripheral) (scene : Scene) :
      (scene.adjustLink i change).link link = scene.link link := by
    rw [Scene.link_adjustLink, if_neg]
    rintro ⟨rfl, -⟩
    exact hi rfl
  rw [close_state]
  refine hlasting.foldl (forall_mem_closings (fun ch hch scene => ?_) fun i hi scene => ?_) s.scene
  · rw [Channel.close_eq]
    split
    · rfl
    · exact hother (hchannels ch hch) _ scene
  · rw [Radio.closeLink_eq]
    split
    · rfl
    · refine hother ?_ _ scene
      rintro rfl
      exact hlink hi

private theorem close_works (hchannels : ∀ ch : Channel, s.general = some ch ∨ s.user = some ch → ch.link = link)
    (hlink : s.link = some link) (hworks : (s.scene.link link).failing = []) : (close s).1 = .ok () := by
  have hcheck (op : Operation) : (s.scene.link link).check op = .ok () := by
    rw [Peripheral.check_eq_ok_iff, hworks]
    exact List.not_mem_nil
  rw [run_close]
  refine closingVerdict_eq_ok_iff.mpr ?_
  rw [Radio.tryAll_fst s.fated_closings, List.forall_mem_map]
  refine forall_mem_closings (fun ch hch => ?_) fun i hi => ?_
  · rw [ch.close_fst, hchannels ch hch]
    exact hcheck .unsubscribe
  · rw [hlink] at hi
    cases hi
    rw [Radio.closeLink_fst]
    exact hcheck .close

private theorem close_failed (h : (close s).1 ≠ .ok ()) :
    ∃ failures, failures ≠ [] ∧ (close s).1 = .error (.closing failures) := by
  rw [run_close] at h ⊢
  refine ⟨_, fun hnone => h ?_, closingVerdict_of_ne h⟩
  dsimp only
  rw [closingVerdict, hnone]

/-- A client either takes such a link into use, or it has failed to close another one, and then it has not touched
this one. -/
theorem connect_welcomes (hs : s.Moored) (h : s.scene.Welcomes link profile)
    (hchannels : ∀ ch : Channel, s.general = some ch ∨ s.user = some ch → s.link = some ch.link) :
    (∃ s', connect link s = (.ok (), s') ∧ s'.credentials = s.credentials ∧ s'.Joined link profile) ∨
      ∃ failures, failures ≠ [] ∧ (close s).1 = .error (.closing failures) ∧ connect link s = close s ∧
        (close s).2.scene.link link = s.scene.link link := by
  rcases connect_cases link s with ⟨hnone, hrun⟩ | ⟨hrun, hfailed⟩ | hrun
  · rw [hrun]
    exact .inl (joined_engage hs (user_eq_none hs.user hnone) h)
  · have hother : s.link ≠ some link := by
      intro hlink
      refine hfailed (close_works (fun ch hch => ?_) hlink h.works)
      exact Option.some_inj.mp ((hchannels ch hch).symm.trans hlink)
    have hunused (ch : Channel) (hch : s.general = some ch ∨ s.user = some ch) : ch.link ≠ link := by
      rintro rfl
      exact hother (hchannels ch hch)
    obtain ⟨failures, hfailures, hverdict⟩ := close_failed hfailed
    exact .inr ⟨failures, hfailures, hverdict, hrun, link_close hunused hother⟩
  · have hclosed := moors_close s hs
    have hwelcomes := h.of_same (sameDevices_scenic.keeps_close s)
    have hcredentials : (close s).2.credentials = s.credentials := by rw [close_state]
    have huser : (close s).2.user = none := by rw [close_state]
    rw [hrun, ← hcredentials]
    exact .inl (joined_engage hclosed huser hwelcomes)

private theorem connect_closed (hs : s.Moored) (h : s.scene.Welcomes link profile) (cancelAt : Option Nat)
    (agenda : List Appointment) :
    ∃ s', connect link ((close s).2.begin cancelAt agenda) = (.ok (), s') ∧
      s'.credentials = s.credentials ∧ s'.Joined link profile := by
  have hbare := (moors_close s hs).begin cancelAt agenda
  have hwelcomes := h.of_same (sameDevices_scenic.keeps_close s)
  have hnone : ((close s).2.begin cancelAt agenda).link = none := by
    rw [close_state]
    rfl
  have hcredentials : (close s).2.credentials = s.credentials := by rw [close_state]
  rw [connect_unlinked hnone, ← hcredentials]
  exact joined_engage hbare (user_eq_none hbare.user hnone) ⟨hwelcomes.offers, hwelcomes.works⟩

end Session

/-- A client, whatever has happened to it before, can connect to a link that fails at nothing and has a device of
one family: with credentials it is authenticated then and otherwise connected, it knows the family, it has
subscribed to the general characteristic and, exactly with credentials, to the one of the user, and nothing has
arrived yet. The only thing that can come in between is that the client cannot close what it has been using.
Then it reports exactly that, has nothing open any more, and has not touched the new link; and the next attempt
succeeds. -/
theorem connect_recovers {s : Session} (hs : Reachable s) {link : Nat} {profile : Profile}
    (hlink : s.scene.Welcomes link profile) (cancelAt : Option Nat) (agenda : List Appointment) :
    let outcome := Session.connect link (s.begin cancelAt agenda)
    outcome.2.credentials = s.credentials ∧
      (outcome.1 = .ok () ∧ outcome.2.Joined link profile ∨
        (∃ failures, failures ≠ [] ∧ outcome.1 = .error (.closing failures) ∧
          (Session.close (s.begin cancelAt agenda)).1 = .error (.closing failures)) ∧
        outcome.2.state = .disconnected ∧ outcome.2.scene.link link = s.scene.link link ∧
        ∀ cancelAt agenda,
          let second := Session.connect link (outcome.2.begin cancelAt agenda)
          second.1 = .ok () ∧ second.2.credentials = s.credentials ∧ second.2.Joined link profile) := by
  intro outcome
  have hmoored := (Session.moored_of_reachable hs).begin cancelAt agenda
  have hbegun : (s.begin cancelAt agenda).scene.Welcomes link profile := ⟨hlink.offers, hlink.works⟩
  rcases Session.connect_welcomes hmoored hbegun fun ch hch => Session.link_of_uses hs hch with
    ⟨s', hrun, hcredentials, hjoined⟩ | ⟨failures, hfailures, hverdict, hrun, huntouched⟩
  · have houtcome : outcome = (.ok (), s') := hrun
    rw [houtcome]
    exact ⟨hcredentials, .inl ⟨rfl, hjoined⟩⟩
  · have houtcome : outcome = Session.close (s.begin cancelAt agenda) := hrun
    have hstate := Session.close_state (s.begin cancelAt agenda)
    have hcredentials : outcome.2.credentials = s.credentials := by
      rw [houtcome, hstate]
      rfl
    refine ⟨hcredentials, .inr ⟨⟨failures, hfailures, ?_, hverdict⟩, ?_, ?_, fun cancelAt agenda => ?_⟩⟩
    · rw [houtcome, hverdict]
    · rw [houtcome, hstate]
      rfl
    · rw [houtcome]
      exact huntouched
    · obtain ⟨s', hagain, hjoined⟩ := Session.connect_closed hmoored hbegun cancelAt agenda
      rw [houtcome, hagain]
      exact ⟨rfl, hjoined⟩

/-- A client with credentials at a lock that it cannot close, with an opener in reach. -/
def Session.atStuckLock : Session :=
  let lock : Peripheral := { exposed := [Profile.smartLock.general, Profile.smartLock.user] }
  let opener : Peripheral := { exposed := [Profile.opener.general, Profile.opener.user] }
  let key : Key := ⟨List.replicate 32 2, rfl⟩
  let credentials : Credentials := { authorization := 7, clientSecret := key, devicePublic := key }
  let installed := (Event.call none [] (.authenticate credentials)).apply
    { options := {}, scene := { links := [lock, opener] } }
  let connected := (Event.call none [] (.connect 0)).apply installed
  (Event.happening (.failure 0 .close)).apply connected

private theorem reachable_atStuckLock : Reachable Session.atStuckLock := by
  have hunused : Scene.Unused { links := [
      { exposed := [Profile.smartLock.general, Profile.smartLock.user] },
      { exposed := [Profile.opener.general, Profile.opener.user] }] } := by
    intro p hp
    rcases List.mem_cons.mp hp with rfl | hp
    · exact ⟨rfl, rfl, rfl, rfl, rfl⟩
    · cases List.mem_singleton.mp hp
      exact ⟨rfl, rfl, rfl, rfl, rfl⟩
  have hstart := @Reachable.start {} _ _ hunused rfl
  unfold Session.atStuckLock
  exact ((hstart.event _).event _).event _

theorem connect_recovers_atStuckLock :
    let outcome := Session.connect 1 (Session.atStuckLock.begin none [])
    let second := Session.connect 1 (outcome.2.begin none [])
    Session.atStuckLock.scene.Welcomes 1 Profile.opener ∧
      outcome.1 = .error (.closing [Peripheral.refusal .close]) ∧ outcome.2.state = .disconnected ∧
      second.1 = .ok () ∧ second.2.Joined 1 Profile.opener := by
  intro outcome second
  have hexposed : (Session.atStuckLock.scene.link 1).exposed =
      [Profile.opener.general, Profile.opener.user] := rfl
  have hoffers : (Session.atStuckLock.scene.link 1).Offers Profile.opener := by
    refine ⟨by simp [Profile.all], fun other hother kind => ?_⟩
    rw [hexposed]
    rcases List.mem_cons.mp hother with rfl | hopener
    · cases kind <;> decide
    · cases List.mem_singleton.mp hopener
      cases kind <;> decide
  have hlink : Session.atStuckLock.scene.Welcomes 1 Profile.opener := ⟨hoffers, rfl⟩
  have hfailed : outcome.1 = .error (.closing [Peripheral.refusal .close]) := rfl
  obtain ⟨-, ⟨hok, -⟩ | ⟨-, hstate, -, hagain⟩⟩ := connect_recovers reachable_atStuckLock hlink none []
  · cases hfailed.symm.trans hok
  · obtain ⟨hsecond, -, hjoined⟩ := hagain none []
    exact ⟨hlink, hfailed, hstate, hsecond, hjoined⟩

end Latchkey
