import Latchkey.Proofs.Reachable
import Latchkey.Proofs.Subscriptions

/-!
# Coherent sessions

As long as nobody else closes its links, a client has a link in use exactly if it has a general channel, both
its channels are subscribed on that link, and the user channel is sealed for the credentials installed. This
holds between any two operations, wherever the ones before have failed.
-/

namespace Latchkey

theorem Profile.general_ne_user : ∀ p ∈ all, ∀ q ∈ all, p.general ≠ q.user := by decide

namespace Channel

variable {ch other : Channel} {s : Scene}

theorem Standard.ne {general user : Channel} {authorization : UInt32} {shared : SharedKey}
    (hgeneral : general.Standard) (huser : user.Standard) (hplain : general.codec = .plain)
    (hsealed : user.codec = .sealed authorization shared) :
    general.characteristic ≠ user.characteristic := by
  obtain ⟨p, hp, hpu⟩ := hgeneral
  obtain ⟨q, hq, hqu⟩ := huser
  rw [hpu, hqu, hplain, hsealed]
  exact Profile.general_ne_user p hp q hq

private theorem Open.close (h : other.Open s) (hother : other.characteristic ≠ ch.characteristic) :
    other.Open (ch.close s).2 := by
  rw [Channel.close, Radio.onLink]
  cases hrun : (s.link ch.link).unsubscribe ch.characteristic with
  | error e => exact h
  | ok p =>
    rw [Open, Scene.link_putLink]
    split
    · rename_i hlink
      rw [hlink.1] at hrun
      exact Peripheral.Receives.unsubscribe h hother hrun
    · exact h

end Channel

namespace Session

variable {s : Session}

/-- What holds of a client whose links nobody else closes, between any two operations. -/
structure Coherent (s : Session) : Prop where
  link : s.link = s.general.map Channel.link
  general : ∀ ch ∈ s.general, ch.codec = .plain ∧ ch.Standard ∧ ch.Open s.scene
  user : ∀ ch ∈ s.user, s.link = some ch.link ∧
    (∃ c ∈ s.credentials, ch.codec = .sealed c.authorization c.sharedKey) ∧ ch.Standard ∧ ch.Open s.scene

private theorem Coherent.general_of_link (h : s.Coherent) (hlink : s.link = none) : s.general = none := by
  have hmap := h.link
  rw [hlink] at hmap
  exact Option.map_eq_none_iff.mp hmap.symm

theorem user_eq_none (hused : ∀ ch ∈ s.user, s.link = some ch.link) (hlink : s.link = none) : s.user = none := by
  refine Option.eq_none_iff_forall_not_mem.mpr fun ch hch => ?_
  have hlinked := hused ch hch
  rw [hlink] at hlinked
  cases hlinked

private theorem Coherent.user_of_link (h : s.Coherent) (hlink : s.link = none) : s.user = none :=
  user_eq_none (fun ch hch => (h.user ch hch).1) hlink

private theorem Coherent.of_open (h : s.Coherent) {scene : Scene}
    (hopen : ∀ ch : Channel, ch.Open s.scene → ch.Open scene) : Coherent { s with scene } := by
  refine ⟨h.link, ?_, ?_⟩
  · intro ch hch
    obtain ⟨hcodec, hstandard, hbefore⟩ := h.general ch hch
    exact ⟨hcodec, hstandard, hopen ch hbefore⟩
  · intro ch hch
    obtain ⟨hlink, hcredentials, hstandard, hbefore⟩ := h.user ch hch
    exact ⟨hlink, hcredentials, hstandard, hopen ch hbefore⟩

/-- A coherent session stays coherent where no link will be lost, and then none will be. -/
def Coheres (s s' : Session) : Prop :=
  s.scene.Undisturbed → s.Coherent → s'.scene.Undisturbed ∧ s'.Coherent

private theorem coheres_of_steady {scene : Scene} (h : s.scene.Steady scene) : s.Coheres { s with scene } := by
  intro hs hcoherent
  obtain ⟨hscene, hopen⟩ := h hs
  exact ⟨hscene, hcoherent.of_open hopen⟩

private theorem coheres_lasting : Lasting Coheres where
  refl _ hs hcoherent := ⟨hs, hcoherent⟩
  trans h h' := by
    intro hs hcoherent
    obtain ⟨hs', hcoherent'⟩ := h hs hcoherent
    exact h' hs' hcoherent'

private theorem coheres_talkative : Talkative Coheres where
  lasting := coheres_lasting
  listens ch hear timeout state s := coheres_of_steady (ch.steady_listen hear timeout state s.scene)
  sends ch c s := coheres_of_steady (ch.steady_send c s.scene)
  draws count s := coheres_of_steady (Radio.steady_drawNonce count s.scene)

private theorem coheres_openUser : Keeps Coheres openUser := by
  intro s hs hcoherent
  rcases openUser_cases s with ⟨e, hrun⟩ | ⟨user, c, hlink, hcredentials, hcodec, hfound, hlt, hrun⟩
  · rw [hrun]
    exact ⟨hs, hcoherent⟩
  · rw [hrun]
    refine ⟨hs, hcoherent.link, ?_, ?_⟩
    · intro ch hch
      obtain ⟨hplain, hgeneral, hopen⟩ := hcoherent.general ch hch
      have hother := hgeneral.ne hfound.standard hplain hcodec
      exact ⟨hplain, hgeneral, hopen.opened hother⟩
    · rintro ch ⟨⟩
      exact ⟨hlink, ⟨c, hcredentials, hcodec⟩, hfound.standard, Channel.open_opened hlt⟩

private theorem undisturbed_withoutUser (hs : s.scene.Undisturbed) : s.withoutUser.Undisturbed := by
  rw [withoutUser]
  cases s.user with
  | none => exact hs
  | some user =>
    have hinstant : s.scene.Instant (user.close s.scene).2 := Radio.instant_onLink _ _ s.scene
    rw [Scene.Undisturbed, hinstant.agenda]
    exact hs

private theorem Coherent.withoutUser (h : s.Coherent) (credentials : Option Credentials) :
    Coherent { s with user := none, credentials, scene := s.withoutUser } := by
  refine ⟨h.link, ?_, fun ch hch => by cases hch⟩
  intro ch hch
  obtain ⟨hplain, hgeneral, hopen⟩ := h.general ch hch
  refine ⟨hplain, hgeneral, ?_⟩
  rw [Session.withoutUser]
  cases huser : s.user with
  | none => exact hopen
  | some user =>
    obtain ⟨-, ⟨c, -, hsealed⟩, hstandard, -⟩ := h.user user huser
    exact hopen.close (hgeneral.ne hstandard hplain hsealed)

private theorem coheres_authenticate (c : Credentials) : Keeps Coheres (authenticate c) := by
  intro s hs hcoherent
  have hundisturbed := undisturbed_withoutUser hs
  have hbare := hcoherent.withoutUser (some c)
  rw [authenticate_eq]
  split
  · exact coheres_openUser _ hundisturbed hbare
  · exact ⟨hundisturbed, hbare⟩

private theorem coherent_of_none (hlink : s.link = none) (hgeneral : s.general = none) (huser : s.user = none) :
    s.Coherent := by
  refine ⟨?_, ?_, ?_⟩
  · rw [hlink, hgeneral]
    rfl
  · rw [hgeneral]
    intro ch hch
    cases hch
  · rw [huser]
    intro ch hch
    cases hch

private theorem coheres_close : Keeps Coheres close := by
  intro s hs _
  have hinstant := forall_closings (fun ch => Radio.instant_onLink ch.link _)
    (fun link => Radio.instant_onLink link _) s
  rw [close_state]
  refine ⟨?_, coherent_of_none rfl rfl rfl⟩
  rw [Scene.Undisturbed, (Scene.instant_lasting.foldl hinstant s.scene).agenda]
  exact hs

private theorem coheres_engage (link : Nat) {s : Session} (huser : s.user = none) :
    s.Coheres (engage link s).2 := by
  intro hs hcoherent
  rcases engage_cases link s with hrun | ⟨general, rfl, hcodec, hfound, hlt, hrun⟩
  · rw [hrun]
    exact ⟨hs, hcoherent⟩
  · have hopened : Coherent { s with
        link := some general.link, general := some general, scene := general.opened s.scene } := by
      refine ⟨rfl, ?_, ?_⟩
      · rintro ch ⟨⟩
        exact ⟨hcodec, hfound.standard, Channel.open_opened hlt⟩
      · intro ch hch
        change s.user = some ch at hch
        rw [huser] at hch
        cases hch
    rw [hrun]
    split
    · exact coheres_openUser _ hs hopened
    · exact ⟨hs, hopened⟩

private theorem coheres_connect (link : Nat) : Keeps Coheres (connect link) := by
  intro s hs hcoherent
  obtain ⟨hclosed, hbare⟩ := coheres_close s hs hcoherent
  rcases connect_cases link s with ⟨hnone, hrun⟩ | ⟨hrun, -⟩ | hrun
  · rw [hrun]
    exact coheres_engage link (hcoherent.user_of_link hnone) hs hcoherent
  · rw [hrun]
    exact ⟨hclosed, hbare⟩
  · have huser : (close s).2.user = none := by rw [close_state]
    rw [hrun]
    exact coheres_engage link huser hclosed hbare

private theorem coherent_start {options : Options} {scene : Scene} {s : Session}
    (h : Session.start options scene = .ok s) : s.Coherent := by
  rw [start_eq h]
  exact coherent_of_none rfl rfl rfl

theorem coherent_event {s : Session} (h : s.Coherent) {event : Event} (hspares : event.Spares) :
    (event.apply s).Coherent := by
  cases event with
  | call cancelAt agenda call =>
    have hbegun : (s.begin cancelAt agenda).Coherent := h.of_open fun _ => id
    have hcall := keeps_call coheres_talkative coheres_connect coheres_authenticate coheres_close call
    exact (hcall _ (Scene.undisturbed_begin hspares cancelAt s.scene) hbegun).2
  | happening happening => exact h.of_open (Scene.open_happen hspares)
  | expose link u => exact h.of_open (Scene.open_putLink fun _ _ hreceives => hreceives)

theorem coherent_of_exclusive {s : Session} (h : Exclusive s) : s.Coherent := by
  induction h with
  | start unused started => exact coherent_start started
  | event before spares ih => exact coherent_event ih spares

end Session

/-- Between any two operations a client whose links nobody else closes has a general channel exactly if a link
is in use; its user channel seals and opens for the credentials installed; its channels are subscribed on the
link in use; and its state says which of this there is. -/
theorem channels_coherent {s : Session} (hs : Exclusive s) :
    (s.general.isSome ↔ s.link.isSome) ∧
      (∀ user, s.user = some user → s.link.isSome ∧ ∃ c, s.credentials = some c ∧
        user.codec = .sealed c.authorization c.sharedKey ∧
        (user.mailbox? s.scene).map Mailbox.codec = some (.sealed c.authorization c.sharedKey)) ∧
      (∀ ch, s.general = some ch ∨ s.user = some ch →
        s.link = some ch.link ∧ (s.scene.link ch.link).Subscribed ch.characteristic) ∧
      match s.state with
      | .authenticated => s.user.isSome ∧ s.general.isSome ∧ s.link.isSome
      | .connected => s.user = none ∧ s.general.isSome ∧ s.link.isSome
      | .disconnected => s.user = none ∧ s.general = none ∧ s.link = none := by
  have hcoherent := Session.coherent_of_exclusive hs
  have hgeneral : s.general.isSome ↔ s.link.isSome := by
    rw [hcoherent.link, Option.isSome_map]
  refine ⟨hgeneral, ?_, ?_, ?_⟩
  · intro user huser
    obtain ⟨hlink, ⟨c, hc, hcodec⟩, -, box, hbox, hreceiving⟩ := hcoherent.user user huser
    refine ⟨?_, c, hc, hcodec, ?_⟩
    · rw [hlink]
      rfl
    · rw [Channel.mailbox?, hbox, Option.map_some, hreceiving.decodes, hcodec]
  · rintro ch (hch | hch)
    · obtain ⟨-, -, hopen⟩ := hcoherent.general ch hch
      refine ⟨?_, hopen.subscribed⟩
      rw [hcoherent.link, hch]
      rfl
    · obtain ⟨hlink, -, -, hopen⟩ := hcoherent.user ch hch
      exact ⟨hlink, hopen.subscribed⟩
  · rw [Session.state]
    cases huser : s.user with
    | some user =>
      obtain ⟨hlink, -⟩ := hcoherent.user user huser
      rw [hgeneral, hlink]
      exact ⟨rfl, rfl, rfl⟩
    | none =>
      cases hlink : s.link with
      | some link =>
        rw [hgeneral, hlink]
        exact ⟨rfl, rfl, rfl⟩
      | none => exact ⟨rfl, hcoherent.general_of_link hlink, rfl⟩

theorem channels_coherent_atLock :
    Exclusive Session.atLock ∧ Session.atLock.state = .authenticated ∧ ∃ user c,
      Session.atLock.user = some user ∧ Session.atLock.credentials = some c ∧
        user.codec = .sealed c.authorization c.sharedKey ∧
        (Session.atLock.scene.link user.link).Subscribed user.characteristic := by
  obtain ⟨-, huser, hsubscribed, -⟩ := channels_coherent exclusive_atLock
  obtain ⟨-, c, hc, hcodec, -⟩ := huser _ rfl
  exact ⟨exclusive_atLock, rfl, _, c, rfl, hc, hcodec, (hsubscribed _ (.inr rfl)).2⟩

end Latchkey
