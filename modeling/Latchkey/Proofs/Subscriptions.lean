import Latchkey.Proofs.Listening
import Latchkey.Proofs.Reassembly

/-!
# Open channels

An open channel has a mailbox that takes in whatever arrives. It stays open whatever is sent, heard or waited
for over any channel, as long as nobody else closes its link.
-/

namespace Latchkey

namespace Mailbox

/-- The mailbox takes in chunks for this codec, and a message in progress consists of full chunks. -/
structure Receiving (codec : Codec) (box : Mailbox) : Prop where
  attached : box.attached = true
  decodes : box.codec = codec
  full : ∀ chunk ∈ box.assembler.backlog, chunk.length = Chunk.capacity

variable {codec : Codec} {box : Mailbox}

theorem receiving_new (codec : Codec) : Receiving codec { codec } :=
  ⟨rfl, rfl, fun _ h => absurd h List.not_mem_nil⟩

private theorem Receiving.push (h : box.Receiving codec) (chunk : Bytes) : (box.push chunk).Receiving codec := by
  by_cases hfull : chunk.length = Chunk.capacity
  · rw [push_full box hfull]
    refine ⟨h.attached, h.decodes, ?_⟩
    intro c hc
    rcases List.mem_cons.mp hc with rfl | hc
    · exact hfull
    · exact h.full c hc
  · rw [push_last box hfull]
    exact ⟨h.attached, h.decodes, fun _ hc => absurd hc List.not_mem_nil⟩

theorem Receiving.foldl_deliver (h : box.Receiving codec) (chunks : List Bytes) :
    chunks.foldl deliver box = chunks.foldl (fun box chunk => box.push chunk) box := by
  induction chunks generalizing box with
  | nil => rfl
  | cons chunk chunks ih =>
    rw [List.foldl_cons, List.foldl_cons, deliver, if_pos h.attached]
    exact ih (h.push chunk)

private theorem Receiving.foldl_push (h : box.Receiving codec) (chunks : List Bytes) :
    (chunks.foldl (fun box chunk => box.push chunk) box).Receiving codec := by
  induction chunks generalizing box with
  | nil => exact h
  | cons chunk chunks ih => exact ih (h.push chunk)

theorem Receiving.idle (h : box.Receiving codec) (hidle : box.assembler.pending = 0) :
    box.assembler = {} := by
  rcases hbox : box.assembler with ⟨_ | ⟨chunk, backlog⟩⟩
  · rfl
  · have hfull := h.full
    rw [hbox, List.forall_mem_cons] at hfull
    rw [hbox, Assembler.pending, List.flatten_cons, List.length_append, hfull.1, Chunk.capacity] at hidle
    omega

end Mailbox

namespace Peripheral

variable {codec : Codec} {u v : Uuid} {p p' : Peripheral}

/-- What arrives on the characteristic is taken in for this codec. -/
def Receives (codec : Codec) (u : Uuid) (p : Peripheral) : Prop :=
  ∃ box, p.mailboxes.get? u = some box ∧ box.Receiving codec

theorem Receives.subscribed (h : p.Receives codec u) : p.Subscribed u := by
  obtain ⟨box, hbox, hreceiving⟩ := h
  exact ⟨box, hbox, hreceiving.attached⟩

private theorem Receives.adjust (h : p.Receives codec u) (v : Uuid) {change : Mailbox → Mailbox}
    (hchange : ∀ box : Mailbox, box.Receiving codec → (change box).Receiving codec) :
    Receives codec u { p with mailboxes := p.mailboxes.adjust v change } := by
  obtain ⟨box, hbox, hreceiving⟩ := h
  by_cases huv : u = v
  · refine ⟨change box, ?_, hchange box hreceiving⟩
    rw [Registry.get?_adjust, if_pos huv, hbox]
    rfl
  · refine ⟨box, ?_, hreceiving⟩
    rw [Registry.get?_adjust, if_neg huv]
    exact hbox

private theorem Receives.notifyAll (h : p.Receives codec u) (v : Uuid) (chunks : List Bytes) :
    (p.notifyAll v chunks).Receives codec u := by
  rw [notifyAll_eq]
  refine h.adjust v ?_
  intro box hreceiving
  rw [hreceiving.foldl_deliver]
  exact hreceiving.foldl_push chunks

private theorem Receives.reply (h : p.Receives codec u) (v : Uuid) (message : Bytes) :
    (p.reply v message).Receives codec u := by
  rw [Peripheral.reply]
  cases p.script with
  | nil => exact h
  | cons replies script =>
    have hbefore : Receives codec u
        { p with messages := p.messages.push (v, message), script } := h
    exact hbefore.notifyAll v _

private theorem Receives.write (h : p.Receives codec u) {chunk : Bytes} (hwrite : p.write v chunk = .ok p') :
    p'.Receives codec u := by
  obtain ⟨written, outbound, rfl | ⟨message, rfl⟩⟩ := write_ok hwrite
  · exact h
  · have hbefore : Receives codec u { p with written, outbound } := h
    exact hbefore.reply v message

theorem Receives.unsubscribe (h : p.Receives codec u) (huv : u ≠ v) (hrun : p.unsubscribe v = .ok p') :
    p'.Receives codec u := by
  obtain ⟨box, hbox, hreceiving⟩ := h
  refine ⟨box, ?_, hreceiving⟩
  rw [unsubscribe_ok hrun, Registry.get?_adjust, if_neg huv]
  exact hbox

end Peripheral

namespace Happening

/-- The happening loses no link. -/
def Spares (h : Happening) : Prop := ∀ link, h ≠ .lost link

private theorem spares_cancel : Spares .cancel := fun _ h => nomatch h

theorem spares_arrival (i : Nat) (u : Uuid) (chunks : List Bytes) : Spares (.arrival i u chunks) :=
  fun _ h => nomatch h

end Happening

namespace Channel

/-- The channel can be heard from, and what arrives over it is read with its codec. -/
def Open (ch : Channel) (s : Scene) : Prop := (s.link ch.link).Receives ch.codec ch.characteristic

end Channel

namespace Scene

variable {s s' : Scene} {i : Nat}

theorem open_putLink {p : Peripheral} (h : ∀ codec u, (s.link i).Receives codec u → p.Receives codec u)
    (ch : Channel) (hopen : ch.Open s) : ch.Open (s.putLink i p) := by
  rw [Channel.Open, link_putLink]
  split
  · rename_i hlink
    rw [hlink.1] at h
    exact h _ _ hopen
  · exact hopen

theorem open_happen {x : Happening} (hspares : x.Spares) (ch : Channel) (hopen : ch.Open s) :
    ch.Open (s.happen x) := by
  cases x with
  | cancel => exact hopen
  | failure i op =>
    refine open_putLink ?_ ch hopen
    exact fun _ _ h => h
  | lost i => exact absurd rfl (hspares i)
  | arrival i u chunks =>
    refine open_putLink ?_ ch hopen
    exact fun _ _ h => h.notifyAll u chunks

/-- No link will be lost. -/
def Undisturbed (s : Scene) : Prop := ∀ appointment ∈ s.agenda, appointment.happening.Spares

theorem forall_begin {P : Happening → Prop} (hcancel : P .cancel) {agenda : List Appointment}
    (h : ∀ appointment ∈ agenda, P appointment.happening) (cancelAt : Option Nat) (s : Scene) :
    ∀ appointment ∈ (s.begin cancelAt agenda).agenda, P appointment.happening := by
  intro appointment hmem
  change appointment ∈ (agenda ++ _).mergeSort _ at hmem
  rw [List.mem_mergeSort, List.mem_append] at hmem
  rcases hmem with hmem | hmem
  · exact h appointment hmem
  · split at hmem
    · rw [List.mem_singleton.mp hmem]
      exact hcancel
    · cases hmem

theorem undisturbed_begin {agenda : List Appointment}
    (h : ∀ appointment ∈ agenda, appointment.happening.Spares) (cancelAt : Option Nat) (s : Scene) :
    (s.begin cancelAt agenda).Undisturbed := forall_begin Happening.spares_cancel h cancelAt s

/-- Where no link will be lost none is, and the channels that were open still are. -/
def Steady (s s' : Scene) : Prop :=
  s.Undisturbed → s'.Undisturbed ∧ ∀ ch : Channel, ch.Open s → ch.Open s'

private theorem steady_lasting : Lasting Steady where
  refl _ h := ⟨h, fun _ => id⟩
  trans h h' := by
    intro hs
    obtain ⟨hs', hopen⟩ := h hs
    obtain ⟨hs'', hopen'⟩ := h' hs'
    exact ⟨hs'', fun ch hch => hopen' ch (hopen ch hch)⟩

private theorem steady_putLink {p : Peripheral}
    (h : ∀ codec u, (s.link i).Receives codec u → p.Receives codec u) : s.Steady (s.putLink i p) :=
  fun hs => ⟨hs, open_putLink h⟩

private theorem steady_keep {appointment : Appointment} {agenda : List Appointment}
    (h : s.agenda = appointment :: agenda) : s.Steady (s.keep appointment agenda) := by
  intro hs
  rw [Undisturbed, h, List.forall_mem_cons] at hs
  refine ⟨?_, fun ch hopen => open_happen hs.1 ch hopen⟩
  rw [Undisturbed, agenda_keep]
  exact hs.2

end Scene

namespace Scene

/-- No time has passed, and nobody has given up meanwhile. -/
structure Instant (s s' : Scene) : Prop where
  now : s'.now = s.now
  cancelled : s'.cancelled = s.cancelled
  agenda : s'.agenda = s.agenda

theorem instant_lasting : Lasting Instant where
  refl _ := ⟨rfl, rfl, rfl⟩
  trans h h' := ⟨h'.now.trans h.now, h'.cancelled.trans h.cancelled, h'.agenda.trans h.agenda⟩

end Scene

namespace Radio

theorem instant_onLink (i : Nat) (use : Peripheral → Except Failure Peripheral) :
    Keeps Scene.Instant (onLink i use) :=
  keeps_onLink Scene.instant_lasting fun _ _ _ => ⟨rfl, rfl, rfl⟩

private theorem steady_onLink {i : Nat} {use : Peripheral → Except Failure Peripheral}
    (h : ∀ p p', use p = .ok p' → ∀ codec u, p.Receives codec u → p'.Receives codec u) :
    Keeps Scene.Steady (onLink i use) :=
  keeps_onLink Scene.steady_lasting fun _ p huse => Scene.steady_putLink (h _ p huse)

theorem steady_drawNonce (count : Nat) : Keeps Scene.Steady (drawNonce count) :=
  fun _ hs => ⟨hs, fun _ => id⟩

end Radio

namespace Channel

variable {σ α : Type}

private theorem steady_putInbox (ch : Channel) (inbox : List Arrival) (s : Scene) :
    s.Steady (ch.putInbox inbox s) :=
  Scene.steady_putLink fun _ _ h => h.adjust ch.characteristic fun _ hbox =>
    ⟨hbox.attached, hbox.decodes, hbox.full⟩

theorem steady_listen (ch : Channel) (hear : σ → Arrival → Heard σ α) (timeout : Span) (state : σ)
    (s : Scene) : s.Steady (ch.listen hear timeout state s).2 :=
  keeps_listenOn Scene.steady_lasting (fun rest s _ => steady_putInbox ch rest s)
    (fun _ _ _ _ hs => ⟨hs, fun _ => id⟩)
    (fun _ _ _ hagenda => Scene.steady_keep hagenda) s.agenda _ rfl

theorem keeps_writeAll {Q : Scene → Scene → Prop} (hQ : Lasting Q) {ch : Channel}
    (hwrite : ∀ chunk, Keeps Q (Radio.onLink ch.link (·.write ch.characteristic chunk)))
    (chunks : List Bytes) : Keeps Q (ch.writeAll chunks) := by
  induction chunks with
  | nil => exact hQ.pure ()
  | cons chunk chunks ih => exact hQ.bind (hwrite chunk) fun _ => ih

theorem keeps_send {Q : Scene → Scene → Prop} (hQ : Lasting Q) {ch : Channel} {c : Command}
    (hreadied : ∀ s, Q s (ch.readied c s))
    (hwrite : ∀ chunk, Keeps Q (Radio.onLink ch.link (·.write ch.characteristic chunk))) :
    Keeps Q (ch.send c) := by
  intro s
  rw [send_eq]
  cases (ch.codec.encode c s.nonces).1 with
  | error e => exact hreadied s
  | ok message => exact hQ.trans (hreadied s) (keeps_writeAll hQ hwrite _ _)

theorem instant_send (ch : Channel) (c : Command) : Keeps Scene.Instant (ch.send c) :=
  keeps_send Scene.instant_lasting (fun _ => ⟨rfl, rfl, rfl⟩) fun _ => Radio.instant_onLink _ _

theorem steady_send (ch : Channel) (c : Command) : Keeps Scene.Steady (ch.send c) :=
  keeps_send Scene.steady_lasting (fun s => steady_putInbox ch [] s) fun _ =>
    Radio.steady_onLink fun _ _ hrun _ _ h => h.write hrun

theorem silence_of_open {ch : Channel} {s : Scene} (timeout : Span) (hopen : ch.Open s) :
    ch.silence timeout s = if s.cancelled then .cancelled else tooLate timeout := by
  obtain ⟨box, hbox, hreceiving⟩ := hopen
  have hbox' : ch.mailbox? s = some box := hbox
  rw [silence, hbox', Option.map_some, Option.getD_some, hreceiving.attached, if_pos rfl]

/-- The scene in which the channel has just been opened. -/
def opened (ch : Channel) (s : Scene) : Scene :=
  s.adjustLink ch.link fun p =>
    { p with mailboxes := p.mailboxes.put ch.characteristic { codec := ch.codec } }

theorem open_opened {ch : Channel} {s : Scene} (hlink : ch.link < s.links.length) :
    ch.Open (ch.opened s) := by
  rw [Open, opened, Scene.link_adjustLink, if_pos ⟨rfl, hlink⟩]
  refine ⟨{ codec := ch.codec }, ?_, Mailbox.receiving_new ch.codec⟩
  rw [Registry.get?_put, if_pos rfl]

theorem Open.opened {ch other : Channel} {s : Scene} (h : other.Open s)
    (hother : other.characteristic ≠ ch.characteristic) : other.Open (ch.opened s) := by
  obtain ⟨box, hbox, hreceiving⟩ := h
  rw [Open, Channel.opened, Scene.link_adjustLink]
  split
  · refine ⟨box, ?_, hreceiving⟩
    rw [Registry.get?_put, if_neg hother]
    exact hbox
  · exact ⟨box, hbox, hreceiving⟩

end Channel

end Latchkey
