import Latchkey.Proofs.Leftovers
import Latchkey.Proofs.Reachable

/-!
# What holds of all mailboxes

Chunks get into a mailbox in one way only, and arrivals are only taken out of it from the front. So a
property of mailboxes that survives both holds of every mailbox of every link, whatever a client does.
-/

namespace Latchkey

namespace Registry

variable {α : Type}

/-- The property holds of whatever is kept under any characteristic. -/
def Holds (P : α → Prop) (registry : Registry α) : Prop := ∀ u value, registry.get? u = some value → P value

variable {P : α → Prop} {registry : Registry α}

private theorem Holds.put (h : registry.Holds P) (u : Uuid) {value : α} (hvalue : P value) :
    Holds P (registry.put u value) := by
  intro v found hfound
  rw [get?_put] at hfound
  split at hfound
  · cases hfound
    exact hvalue
  · exact h v found hfound

private theorem Holds.adjust (h : registry.Holds P) (u : Uuid) {change : α → α}
    (hchange : ∀ value, registry.get? u = some value → P value → P (change value)) :
    Holds P (registry.adjust u change) := by
  intro v found hfound
  rw [get?_adjust] at hfound
  split at hfound
  · rename_i hvu
    obtain ⟨value, hvalue, rfl⟩ := Option.map_eq_some_iff.mp hfound
    rw [hvu] at hvalue
    exact hchange value hvalue (h u value hvalue)
  · exact h v found hfound

private theorem Holds.mapValues (h : registry.Holds P) {change : α → α}
    (hchange : ∀ value, P value → P (change value)) : Holds P (registry.mapValues change) := by
  intro v found hfound
  rw [get?_mapValues] at hfound
  obtain ⟨value, hvalue, rfl⟩ := Option.map_eq_some_iff.mp hfound
  exact hchange value (h v value hvalue)

end Registry

/-- The property holds of new mailboxes and survives whatever is done to a mailbox, as long as only chunks of
this kind arrive; the messages of a script are of this kind. -/
structure Postal (P : Mailbox → Prop) (admitted : List Bytes → Prop) : Prop where
  new (codec : Codec) : P { codec }
  detach {box : Mailbox} : P box → P box.detach
  taken {box : Mailbox} {rest : List Arrival} : rest <:+ box.inbox → P box → P { box with inbox := rest }
  delivered {box : Mailbox} {chunks : List Bytes} :
    admitted chunks → P box → P (chunks.foldl Mailbox.deliver box)
  messages (messages : List Bytes) : admitted (messages.flatMap Chunk.split)

private theorem Peripheral.holds_reply {P : Mailbox → Prop} {admitted : List Bytes → Prop}
    (hP : Postal P admitted) {p : Peripheral} (h : p.mailboxes.Holds P) (u : Uuid) (message : Bytes) :
    (p.reply u message).mailboxes.Holds P := by
  rw [reply]
  cases p.script with
  | nil => exact h
  | cons replies script =>
    dsimp only
    rw [notifyAll_eq]
    exact h.adjust u fun _ _ => hP.delivered (hP.messages replies)

/-- What arrives, if anything does, is of this kind. -/
def Happening.Admits (admitted : List Bytes → Prop) : Happening → Prop
  | arrival _ _ chunks => admitted chunks
  | cancel | failure _ _ | lost _ => True

namespace Scene

/-- The property holds of all mailboxes of all links. -/
def Boxes (P : Mailbox → Prop) (s : Scene) : Prop := ∀ i, (s.link i).mailboxes.Holds P

/-- Whatever is still to arrive is of this kind. -/
def Expects (admitted : List Bytes → Prop) (s : Scene) : Prop :=
  ∀ appointment ∈ s.agenda, appointment.happening.Admits admitted

/-- Where it held of all mailboxes and nothing else is to arrive, it still does. -/
def Posts (P : Mailbox → Prop) (admitted : List Bytes → Prop) (s s' : Scene) : Prop :=
  s.Expects admitted → s.Boxes P → s'.Expects admitted ∧ s'.Boxes P

variable {P : Mailbox → Prop} {admitted : List Bytes → Prop} {s : Scene} {i : Nat} {p : Peripheral}

theorem Boxes.mailbox (h : s.Boxes P) {ch : Channel} {box : Mailbox} (hbox : ch.mailbox? s = some box) :
    P box := h ch.link ch.characteristic box hbox

private theorem Boxes.putLink (h : s.Boxes P) (hp : p.mailboxes.Holds P) : (s.putLink i p).Boxes P := by
  intro j
  rw [link_putLink]
  split
  · exact hp
  · exact h j

theorem posts_lasting : Lasting (Posts P admitted) where
  refl _ hexpects hboxes := ⟨hexpects, hboxes⟩
  trans h h' := by
    intro hexpects hboxes
    obtain ⟨hexpects', hboxes'⟩ := h hexpects hboxes
    exact h' hexpects' hboxes'

private theorem posts_putLink (h : (s.link i).mailboxes.Holds P → p.mailboxes.Holds P) :
    s.Posts P admitted (s.putLink i p) := fun hexpects hboxes => ⟨hexpects, hboxes.putLink (h (hboxes i))⟩

variable (hP : Postal P admitted)
include hP

theorem Boxes.happen (h : s.Boxes P) {x : Happening} (hx : x.Admits admitted) : (s.happen x).Boxes P := by
  cases x with
  | cancel => exact h
  | failure i op => exact h.putLink (h i)
  | lost i =>
    apply h.putLink
    show ((s.link i).close.toOption.getD (s.link i)).mailboxes.Holds P
    rw [Peripheral.lost_eq]
    split
    · exact h i
    · exact (h i).mapValues fun _ => hP.detach
  | arrival i u chunks =>
    apply h.putLink
    show ((s.link i).notifyAll u chunks).mailboxes.Holds P
    rw [Peripheral.notifyAll_eq]
    exact (h i).adjust u fun _ _ => hP.delivered hx

private theorem posts_keep {appointment : Appointment} {agenda : List Appointment}
    (h : s.agenda = appointment :: agenda) : s.Posts P admitted (s.keep appointment agenda) := by
  intro hexpects hboxes
  rw [Expects, h, List.forall_mem_cons] at hexpects
  refine ⟨?_, Boxes.happen (s := { s with now := appointment.time, agenda }) hP hboxes hexpects.1⟩
  rw [Expects, agenda_keep]
  exact hexpects.2

end Scene

section Keeping

variable {P : Mailbox → Prop} {admitted : List Bytes → Prop}

namespace Radio

private theorem posts_onLink {i : Nat} {use : Peripheral → Except Failure Peripheral}
    (h : ∀ p p', use p = .ok p' → p.mailboxes.Holds P → p'.mailboxes.Holds P) :
    Keeps (Scene.Posts P admitted) (onLink i use) :=
  keeps_onLink Scene.posts_lasting fun _ p huse => Scene.posts_putLink (h _ p huse)

variable (hP : Postal P admitted)
include hP

private theorem posts_closeLink (i : Nat) : Keeps (Scene.Posts P admitted) (closeLink i) := by
  apply posts_onLink
  intro p p' h hholds
  rw [Peripheral.close_ok h]
  exact hholds.mapValues fun _ => hP.detach

end Radio

namespace Channel

variable (hP : Postal P admitted)
include hP

private theorem posts_putInbox (ch : Channel) {rest : List Arrival} {s : Scene} (h : rest <:+ ch.inbox s) :
    s.Posts P admitted (ch.putInbox rest s) := by
  intro hexpects hboxes
  refine ⟨hexpects, hboxes.putLink ?_⟩
  show Registry.Holds P (Registry.adjust ch.characteristic (fun box => { box with inbox := rest })
    (s.link ch.link).mailboxes)
  apply (hboxes ch.link).adjust
  intro box hbox
  apply hP.taken
  rw [inbox, mailbox?, hbox] at h
  exact h

theorem posts_opened (ch : Channel) (s : Scene) : s.Posts P admitted (ch.opened s) :=
  Scene.posts_putLink fun h => h.put ch.characteristic (hP.new ch.codec)

private theorem posts_close (ch : Channel) : Keeps (Scene.Posts P admitted) ch.close := by
  apply Radio.posts_onLink
  intro p p' h hholds
  rw [Peripheral.unsubscribe_ok h]
  exact hholds.adjust ch.characteristic fun _ _ => hP.detach

theorem posts_listen {σ α : Type} (ch : Channel) (hear : σ → Arrival → Heard σ α) (timeout : Span)
    (state : σ) (s : Scene) : s.Posts P admitted (ch.listen hear timeout state s).2 :=
  keeps_listenOn Scene.posts_lasting (fun _ _ => posts_putInbox hP ch)
    (fun _ _ _ _ hexpects hboxes => ⟨hexpects, hboxes⟩) (fun _ _ _ => Scene.posts_keep hP) s.agenda _ rfl

theorem posts_send (ch : Channel) (c : Command) : Keeps (Scene.Posts P admitted) (ch.send c) := by
  apply keeps_send Scene.posts_lasting
  · intro s hexpects hboxes
    exact posts_putInbox hP ch List.nil_suffix hexpects hboxes
  · intro chunk
    apply Radio.posts_onLink
    intro p p' h hholds
    obtain ⟨written, outbound, rfl | ⟨message, rfl⟩⟩ := Peripheral.write_ok h
    · exact hholds
    · have hbefore : Registry.Holds P ({ p with written, outbound } : Peripheral).mailboxes := hholds
      exact Peripheral.holds_reply hP hbefore ch.characteristic message

end Channel

namespace Session

variable {s : Session}

/-- Where the property held of all mailboxes and nothing else is to arrive, it still does. -/
def Posts (P : Mailbox → Prop) (admitted : List Bytes → Prop) (s s' : Session) : Prop :=
  s.scene.Posts P admitted s'.scene

variable (hP : Postal P admitted)
include hP

theorem posts_talkative : Talkative (Posts P admitted) where
  lasting :=
    { refl := fun _ => Scene.posts_lasting.refl _
      trans := fun h h' => Scene.posts_lasting.trans h h' }
  listens ch hear timeout state s := ch.posts_listen hP hear timeout state s.scene
  sends ch c s := ch.posts_send hP c s.scene
  draws _ _ := fun hexpects hboxes => ⟨hexpects, hboxes⟩

theorem posts_scenic : Scenic (Scene.Posts P admitted) where
  lasting := Scene.posts_lasting
  opens ch s := ch.posts_opened hP s
  closes ch := ch.posts_close hP
  closesLink link := Radio.posts_closeLink hP link

theorem posts_call (call : Call) : Keeps (Posts P admitted) call.act :=
  keeps_call (posts_talkative hP) (posts_scenic hP).keeps_connect (posts_scenic hP).keeps_authenticate
    (posts_scenic hP).keeps_close call

end Session

end Keeping

theorem Scene.Unused.boxes {P : Mailbox → Prop} {s : Scene} (h : s.Unused) : s.Boxes P := by
  intro i u box hbox
  by_cases hi : i < s.links.length
  · have hlink : s.link i = s.links[i] := by
      rw [link, List.getD_eq_getElem?_getD, List.getElem?_eq_getElem hi, Option.getD_some]
    obtain ⟨-, hmailboxes, -⟩ := h _ (List.getElem_mem hi)
    rw [hlink, hmailboxes] at hbox
    cases hbox
  · rw [link_of_length_le (Nat.not_lt.mp hi)] at hbox
    cases hbox

theorem Scene.expects_anything (s : Scene) : s.Expects fun _ => True := by
  intro appointment _
  cases appointment.happening <;> trivial

/-- What survives whatever may arrive holds of all mailboxes in every session. -/
theorem Session.boxes_of_reachable {P : Mailbox → Prop} (hP : Postal P fun _ => True) {s : Session}
    (h : Reachable s) : s.scene.Boxes P := by
  induction h with
  | start unused started =>
    rw [start_eq started]
    exact unused.boxes
  | @event s before event ih =>
    cases event with
    | call cancelAt agenda call =>
      exact (posts_call hP call (s.begin cancelAt agenda) (Scene.expects_anything _) ih).2
    | happening x =>
      apply ih.happen hP
      cases x <;> trivial
    | expose link u => exact ih.putLink (ih link)

end Latchkey
