import Latchkey.Proofs.Mailboxes

/-!
# Scenes that cannot be told apart

Two scenes are twins if they differ in nothing but what lies in the inboxes, what has been written before,
and mailboxes nobody uses any more. Whatever is done over the links keeps twins what they are. A send throws
away what lies in the inbox, so after it both inboxes hold the same, and a listener hears the same in both.
-/

namespace Latchkey

section Parallel

variable {σ α β : Type} {m : ExceptT Failure (StateM σ) α} {f : α → ExceptT Failure (StateM σ) β}
  {R : σ → σ → Prop}

/-- From states so related the run has the same result, and it leads to states so related. -/
def Parallel (R : σ → σ → Prop) (m : ExceptT Failure (StateM σ) α) : Prop :=
  ∀ s t, R s t → (m s).1 = (m t).1 ∧ R (m s).2 (m t).2

theorem parallel_pure (a : α) : Parallel R (pure a : ExceptT Failure (StateM σ) α) :=
  fun _ _ h => ⟨rfl, h⟩

theorem parallel_throw (e : Failure) : Parallel R (throw e : ExceptT Failure (StateM σ) α) :=
  fun _ _ h => ⟨rfl, h⟩

theorem parallel_bind {s t : σ} (hm : (m s).1 = (m t).1 ∧ R (m s).2 (m t).2)
    (hf : ∀ a, Parallel R (f a)) :
    ((m >>= f) s).1 = ((m >>= f) t).1 ∧ R ((m >>= f) s).2 ((m >>= f) t).2 := by
  obtain ⟨hresult, hstate⟩ := hm
  rcases hs : m s with ⟨e | a, s'⟩
  all_goals rcases ht : m t with ⟨e' | a', t'⟩
  all_goals rw [hs, ht] at hresult hstate
  · rw [run_bind_error hs, run_bind_error ht]
    exact ⟨congrArg Except.error (Except.error.inj hresult), hstate⟩
  · cases hresult
  · cases hresult
  · rw [run_bind_ok hs, run_bind_ok ht, Except.ok.inj hresult]
    exact hf a' s' t' hstate

theorem Parallel.bind (hm : Parallel R m) (hf : ∀ a, Parallel R (f a)) : Parallel R (m >>= f) :=
  fun s t h => parallel_bind (hm s t h) hf

end Parallel

namespace Mailbox

/-- The mailbox when everything has been taken out of it. -/
def emptied (box : Mailbox) : Mailbox := { box with inbox := [] }

/-- What the change makes of the mailbox, apart from the inbox, does not depend on what is in the inbox. -/
def Heedless (change : Mailbox → Mailbox) : Prop :=
  ∀ box : Mailbox, (change box).emptied = (change box.emptied).emptied

private theorem heedless_detach : Heedless detach := fun _ => rfl

private theorem heedless_put (inbox : List Arrival) : Heedless fun box => { box with inbox } := fun _ => rfl

private theorem heedless_deliver (chunks : List Bytes) : Heedless fun box => chunks.foldl deliver box := by
  intro box
  have hbox : box.emptied.prepend box.inbox = box := by simp [prepend, emptied]
  have hfold := foldl_deliver_prepend box.inbox chunks box.emptied
  rw [hbox] at hfold
  show (chunks.foldl deliver box).emptied = _
  rw [hfold]
  rfl

private theorem Heedless.map {change : Mailbox → Mailbox} (hchange : Heedless change) {a b : Option Mailbox}
    (h : a.map emptied = b.map emptied) : (a.map change).map emptied = (b.map change).map emptied := by
  have hview (o : Option Mailbox) :
      (o.map change).map emptied = (o.map emptied).map fun box => (change box).emptied := by
    cases o with
    | none => rfl
    | some box => exact congrArg some (hchange box)
  rw [hview, hview, h]

end Mailbox

namespace Peripheral

/-- The devices are in the same state, and the mailboxes that are in use differ in the inbox alone. -/
structure Alike (known : Uuid → Prop) (p q : Peripheral) : Prop where
  exposed : p.exposed = q.exposed
  failing : p.failing = q.failing
  script : p.script = q.script
  known (u : Uuid) : known u →
    (p.mailboxes.get? u).map Mailbox.emptied = (q.mailboxes.get? u).map Mailbox.emptied

/-- The devices are alike; on some characteristics the inboxes hold the same too, and since the beginning, at
which these chunks had been written, the same has been written. -/
structure Twin (known heard : Uuid → Prop) (first second : List (Uuid × Bytes)) (p q : Peripheral) : Prop
    extends p.Alike known q where
  outbound (u : Uuid) : (p.outbound.get? u).getD {} = (q.outbound.get? u).getD {}
  heard (u : Uuid) : heard u → p.mailboxes.get? u = q.mailboxes.get? u
  written : ∃ chunks, p.written.toList = first ++ chunks ∧ q.written.toList = second ++ chunks

namespace Twin

variable {known heard : Uuid → Prop} {first second : List (Uuid × Bytes)} {p q : Peripheral}

private theorem adjust (h : p.Twin known heard first second q) (u : Uuid) {change : Mailbox → Mailbox}
    (hchange : Mailbox.Heedless change) :
    Twin known heard first second { p with mailboxes := p.mailboxes.adjust u change }
      { q with mailboxes := q.mailboxes.adjust u change } := by
  refine ⟨⟨h.exposed, h.failing, h.script, fun v hv => ?_⟩, h.outbound, fun v hv => ?_, h.written⟩
  · rw [Registry.get?_adjust, Registry.get?_adjust]
    split
    · exact hchange.map (h.known v hv)
    · exact h.known v hv
  · rw [Registry.get?_adjust, Registry.get?_adjust, h.heard v hv]

private theorem mapValues (h : p.Twin known heard first second q) {change : Mailbox → Mailbox}
    (hchange : Mailbox.Heedless change) :
    Twin known heard first second { p with mailboxes := p.mailboxes.mapValues change }
      { q with mailboxes := q.mailboxes.mapValues change } := by
  refine ⟨⟨h.exposed, h.failing, h.script, fun v hv => ?_⟩, h.outbound, fun v hv => ?_, h.written⟩
  · rw [Registry.get?_mapValues, Registry.get?_mapValues]
    exact hchange.map (h.known v hv)
  · rw [Registry.get?_mapValues, Registry.get?_mapValues, h.heard v hv]

private theorem put (h : p.Twin known heard first second q) (u : Uuid) (box : Mailbox) :
    Twin known heard first second { p with mailboxes := p.mailboxes.put u box }
      { q with mailboxes := q.mailboxes.put u box } := by
  refine ⟨⟨h.exposed, h.failing, h.script, fun v hv => ?_⟩, h.outbound, fun v hv => ?_, h.written⟩
  · rw [Registry.get?_put, Registry.get?_put]
    split
    · rfl
    · exact h.known v hv
  · rw [Registry.get?_put, Registry.get?_put, h.heard v hv]

private theorem closed (h : p.Twin known heard first second q) (b : Bool) :
    Twin known heard first second { p with closed := b } { q with closed := b } :=
  ⟨⟨h.exposed, h.failing, h.script, h.known⟩, h.outbound, h.heard, h.written⟩

private theorem fail (h : p.Twin known heard first second q) (op : Operation) :
    Twin known heard first second { p with failing := op :: p.failing }
      { q with failing := op :: q.failing } :=
  ⟨⟨h.exposed, congrArg (op :: ·) h.failing, h.script, h.known⟩, h.outbound, h.heard, h.written⟩

private theorem notifyAll (h : p.Twin known heard first second q) (u : Uuid) (chunks : List Bytes) :
    (p.notifyAll u chunks).Twin known heard first second (q.notifyAll u chunks) := by
  rw [notifyAll_eq, notifyAll_eq]
  exact h.adjust u (Mailbox.heedless_deliver chunks)

private theorem reply (h : p.Twin known heard first second q) (u : Uuid) (message : Bytes) :
    (p.reply u message).Twin known heard first second (q.reply u message) := by
  have hscript := h.script
  cases hp : p.script with
  | nil =>
    rw [hp] at hscript
    simp only [Peripheral.reply, hp, ← hscript]
    exact ⟨⟨h.exposed, h.failing, rfl, h.known⟩, h.outbound, h.heard, h.written⟩
  | cons replies script =>
    rw [hp] at hscript
    simp only [Peripheral.reply, hp, ← hscript]
    apply notifyAll
    exact ⟨⟨h.exposed, h.failing, rfl, h.known⟩, h.outbound, h.heard, h.written⟩

private theorem wrote (h : p.Twin known heard first second q) (u : Uuid) (chunk : Bytes) (assembler : Assembler) :
    Twin known heard first second
      { p with written := p.written.push (u, chunk), outbound := p.outbound.put u assembler }
      { q with written := q.written.push (u, chunk), outbound := q.outbound.put u assembler } := by
  obtain ⟨chunks, hp, hq⟩ := h.written
  refine ⟨⟨h.exposed, h.failing, h.script, h.known⟩, fun v => ?_, h.heard, chunks ++ [(u, chunk)], ?_, ?_⟩
  · rw [Registry.get?_put, Registry.get?_put]
    split
    · rfl
    · exact h.outbound v
  · rw [Array.toList_push, hp, List.append_assoc]
  · rw [Array.toList_push, hq, List.append_assoc]

end Twin

/-- What happens to twin devices is the same, and they are twins afterwards. -/
def Even (use : Peripheral → Except Failure Peripheral) : Prop :=
  ∀ {known heard first second p q}, Twin known heard first second p q →
    (∃ e, use p = .error e ∧ use q = .error e) ∨
      ∃ p' q', use p = .ok p' ∧ use q = .ok q' ∧ p'.Twin known heard first second q'

private theorem even_write (u : Uuid) (chunk : Bytes) : Even (·.write u chunk) := by
  intro known heard first second p q h
  by_cases hfails : Operation.write ∈ p.failing
  · have hfails' : Operation.write ∈ q.failing := h.failing ▸ hfails
    exact .inl ⟨_, write_refused u chunk hfails, write_refused u chunk hfails'⟩
  · have hworks : Operation.write ∉ q.failing := h.failing ▸ hfails
    by_cases hfull : chunk.length = Chunk.capacity
    · refine .inr ⟨_, _, write_full u hfails hfull, write_full u hworks hfull, ?_⟩
      rw [h.outbound]
      exact h.wrote u chunk _
    · refine .inr ⟨_, _, write_last u hfails hfull, write_last u hworks hfull, ?_⟩
      have hwrote := (h.wrote u chunk {}).reply u
        (chunk :: ((q.outbound.get? u).getD {}).backlog).reverse.flatten
      rw [h.outbound]
      simpa [completed] using hwrote

private theorem even_unsubscribe (u : Uuid) : Even (·.unsubscribe u) := by
  intro known heard first second p q h
  dsimp only
  rw [unsubscribe_eq, unsubscribe_eq]
  by_cases hfails : Operation.unsubscribe ∈ p.failing
  · have hfails' : Operation.unsubscribe ∈ q.failing := h.failing ▸ hfails
    rw [if_pos hfails, if_pos hfails']
    exact .inl ⟨_, rfl, rfl⟩
  · have hworks : Operation.unsubscribe ∉ q.failing := h.failing ▸ hfails
    rw [if_neg hfails, if_neg hworks]
    exact .inr ⟨_, _, rfl, rfl, h.adjust u Mailbox.heedless_detach⟩

private theorem even_close : Even close := by
  intro known heard first second p q h
  rw [close_eq, close_eq]
  by_cases hfails : Operation.close ∈ p.failing
  · have hfails' : Operation.close ∈ q.failing := h.failing ▸ hfails
    rw [if_pos hfails, if_pos hfails']
    exact .inl ⟨_, rfl, rfl⟩
  · have hworks : Operation.close ∉ q.failing := h.failing ▸ hfails
    rw [if_neg hfails, if_neg hworks]
    exact .inr ⟨_, _, rfl, rfl, (h.mapValues Mailbox.heedless_detach).closed true⟩

end Peripheral

namespace Scene

/-- The scenes are at the same moment and expect the same, and their devices are twins. -/
structure Twin (known heard : Nat → Uuid → Prop) (first second : Nat → List (Uuid × Bytes))
    (s t : Scene) : Prop where
  now : s.now = t.now
  cancelled : s.cancelled = t.cancelled
  agenda : s.agenda = t.agenda
  nonces : s.nonces = t.nonces
  length : s.links.length = t.links.length
  link (i : Nat) : (s.link i).Twin (known i) (heard i) (first i) (second i) (t.link i)

namespace Twin

variable {known heard known' heard' : Nat → Uuid → Prop} {first second : Nat → List (Uuid × Bytes)}
  {s t : Scene} {ch : Channel}

private theorem putLink (h : s.Twin known heard first second t) {i : Nat} {p q : Peripheral}
    (hp : p.Twin (known i) (heard i) (first i) (second i) q) :
    (s.putLink i p).Twin known heard first second (t.putLink i q) := by
  refine ⟨h.now, h.cancelled, h.agenda, h.nonces, ?_, fun j => ?_⟩
  · rw [length_putLink, length_putLink]
    exact h.length
  · rw [link_putLink, link_putLink, ← h.length]
    split
    · rename_i hij
      rw [← hij.1]
      exact hp
    · exact h.link j

theorem know (h : s.Twin known heard first second t) (hknown : ∀ i u, known' i u →
    ((s.link i).mailboxes.get? u).map Mailbox.emptied = ((t.link i).mailboxes.get? u).map Mailbox.emptied) :
    s.Twin known' heard first second t := by
  refine ⟨h.now, h.cancelled, h.agenda, h.nonces, h.length, fun i => ?_⟩
  obtain ⟨⟨hexposed, hfailing, hscript, -⟩, houtbound, hheard, hwritten⟩ := h.link i
  exact ⟨⟨hexposed, hfailing, hscript, hknown i⟩, houtbound, hheard, hwritten⟩

theorem hear (h : s.Twin known heard first second t) (hheard : ∀ i u, heard' i u →
    (s.link i).mailboxes.get? u = (t.link i).mailboxes.get? u) : s.Twin known heard' first second t := by
  refine ⟨h.now, h.cancelled, h.agenda, h.nonces, h.length, fun i => ?_⟩
  obtain ⟨halike, houtbound, -, hwritten⟩ := h.link i
  exact ⟨halike, houtbound, hheard i, hwritten⟩

private theorem happen (h : s.Twin known heard first second t) (x : Happening) :
    (s.happen x).Twin known heard first second (t.happen x) := by
  cases x with
  | cancel => exact ⟨h.now, rfl, h.agenda, h.nonces, h.length, h.link⟩
  | failure i op => exact h.putLink ((h.link i).fail op)
  | lost i =>
    apply h.putLink
    dsimp only
    rcases Peripheral.even_close (h.link i) with ⟨e, hp, hq⟩ | ⟨p, q, hp, hq, hclosed⟩
    · rw [hp, hq]
      exact h.link i
    · rw [hp, hq]
      exact hclosed
  | arrival i u chunks => exact h.putLink ((h.link i).notifyAll u chunks)

private theorem keep (h : s.Twin known heard first second t) (appointment : Appointment)
    (agenda : List Appointment) :
    (s.keep appointment agenda).Twin known heard first second (t.keep appointment agenda) := by
  have hnow : Twin known heard first second { s with now := appointment.time, agenda }
      { t with now := appointment.time, agenda } :=
    ⟨rfl, h.cancelled, rfl, h.nonces, h.length, h.link⟩
  exact hnow.happen appointment.happening

private theorem putInbox (h : s.Twin known heard first second t) (ch : Channel) (inbox : List Arrival) :
    (ch.putInbox inbox s).Twin known heard first second (ch.putInbox inbox t) :=
  h.putLink ((h.link ch.link).adjust ch.characteristic (Mailbox.heedless_put inbox))

end Twin

end Scene

section Running

variable {known heard : Nat → Uuid → Prop} {first second : Nat → List (Uuid × Bytes)}

private theorem Radio.parallel_onLink (i : Nat) {use : Peripheral → Except Failure Peripheral}
    (huse : Peripheral.Even use) : Parallel (Scene.Twin known heard first second) (onLink i use) := by
  intro s t h
  rw [onLink, onLink]
  rcases huse (h.link i) with ⟨e, hs, ht⟩ | ⟨p, q, hs, ht, hpq⟩
  · rw [hs, ht]
    exact ⟨rfl, h⟩
  · rw [hs, ht]
    exact ⟨rfl, h.putLink hpq⟩

theorem Radio.parallel_drawNonce (count : Nat) :
    Parallel (Scene.Twin known heard first second) (drawNonce count) := by
  intro s t h
  rw [run_drawNonce, run_drawNonce, h.nonces]
  exact ⟨rfl, h.now, h.cancelled, h.agenda, rfl, h.length, h.link⟩

namespace Channel

variable {ch : Channel} {s t : Scene}

/-- The characteristic the channel is on. -/
def On (ch : Channel) (i : Nat) (u : Uuid) : Prop := i = ch.link ∧ u = ch.characteristic

private theorem parallel_writeAll (ch : Channel) (chunks : List Bytes) :
    Parallel (Scene.Twin known heard first second) (ch.writeAll chunks) := by
  induction chunks with
  | nil => exact parallel_pure ()
  | cons chunk chunks ih =>
    exact (Radio.parallel_onLink ch.link (Peripheral.even_write ch.characteristic chunk)).bind fun _ => ih

/-- After a send the inbox holds the same in both scenes, whatever it held before. -/
theorem twin_send (ch : Channel) (c : Command) (h : s.Twin known heard first second t)
    (hknown : known ch.link ch.characteristic) :
    (ch.send c s).1 = (ch.send c t).1 ∧
      (ch.send c s).2.Twin known ch.On first second (ch.send c t).2 := by
  have hcleared : (ch.putInbox [] s).Twin known ch.On first second (ch.putInbox [] t) := by
    apply (h.putInbox ch []).hear
    rintro i u ⟨rfl, rfl⟩
    have hsame := (h.link ch.link).known ch.characteristic hknown
    have hs := mailbox?_putInbox ch [] s
    have ht := mailbox?_putInbox ch [] t
    exact hs.trans (hsame.trans ht.symm)
  have hreadied : (ch.readied c s).Twin known ch.On first second (ch.readied c t) := by
    rw [readied, readied, h.nonces]
    exact ⟨hcleared.now, hcleared.cancelled, hcleared.agenda, rfl, hcleared.length, hcleared.link⟩
  rw [send_eq, send_eq, h.nonces]
  cases (ch.codec.encode c t.nonces).1 with
  | error e => exact ⟨rfl, hreadied⟩
  | ok message => exact parallel_writeAll ch (Chunk.split message) _ _ hreadied

section Listening

variable {σ α : Type} {hear : σ → Arrival → Heard σ α} {timeout : Span}

private theorem twin_look (ch : Channel) (hear : σ → Arrival → Heard σ α) (timeout : Span) (state : σ)
    (deadline : Nat) (h : s.Twin known heard first second t) (hheard : heard ch.link ch.characteristic) :
    (ch.look hear timeout state deadline s).1 = (ch.look hear timeout state deadline t).1 ∧
      (ch.look hear timeout state deadline s).2.Twin known heard first second
        (ch.look hear timeout state deadline t).2 := by
  have hmailbox : ch.mailbox? s = ch.mailbox? t := (h.link ch.link).heard ch.characteristic hheard
  have hnow (rest : List Arrival) (s : Scene) : (ch.putInbox rest s).now = s.now := rfl
  rw [look, look, h.cancelled, hmailbox, h.now]
  split
  · exact ⟨rfl, h⟩
  · dsimp only
    rw [hnow, hnow, h.now]
    generalize drain hear state false (((ch.mailbox? t).map Mailbox.inbox).getD []) = drained
    have hput := h.putInbox ch drained.rest
    split
    · exact ⟨rfl, hput⟩
    · split
      · exact ⟨rfl, hput⟩
      · generalize (if drained.renewed = true then t.now + patience timeout else deadline) = deadline'
        split
        · exact ⟨rfl, hput⟩
        · exact ⟨rfl, hput⟩

private theorem twin_listenOn (agenda : List Appointment) (state : σ) (deadline : Nat)
    (h : s.Twin known heard first second t) (hheard : heard ch.link ch.characteristic) :
    (ch.listenOn hear timeout agenda state deadline s).1 =
        (ch.listenOn hear timeout agenda state deadline t).1 ∧
      (ch.listenOn hear timeout agenda state deadline s).2.Twin known heard first second
        (ch.listenOn hear timeout agenda state deadline t).2 := by
  induction agenda generalizing state deadline s t with
  | nil =>
    obtain ⟨hfound, hlooked⟩ := ch.twin_look hear timeout state deadline h hheard
    rw [listenOn, listenOn]
    rcases hs : ch.look hear timeout state deadline s with ⟨found, s'⟩
    rcases ht : ch.look hear timeout state deadline t with ⟨found', t'⟩
    rw [hs, ht] at hfound hlooked
    subst hfound
    cases found with
    | settled final result => exact ⟨rfl, hlooked⟩
    | pending final deadline' =>
      exact ⟨rfl, rfl, hlooked.cancelled, hlooked.agenda, hlooked.nonces, hlooked.length, hlooked.link⟩
  | cons appointment agenda ih =>
    obtain ⟨hfound, hlooked⟩ := ch.twin_look hear timeout state deadline h hheard
    rw [listenOn, listenOn]
    rcases hs : ch.look hear timeout state deadline s with ⟨found, s'⟩
    rcases ht : ch.look hear timeout state deadline t with ⟨found', t'⟩
    rw [hs, ht] at hfound hlooked
    subst hfound
    cases found with
    | settled final result => exact ⟨rfl, hlooked⟩
    | pending final deadline' =>
      dsimp only
      split
      · exact ih final deadline' (hlooked.keep appointment agenda)
      · exact ⟨rfl, rfl, hlooked.cancelled, hlooked.agenda, hlooked.nonces, hlooked.length, hlooked.link⟩

/-- Where the inbox holds the same, a listener hears the same. -/
theorem twin_listen (ch : Channel) (hear : σ → Arrival → Heard σ α) (timeout : Span) (state : σ)
    (h : s.Twin known heard first second t) (hheard : heard ch.link ch.characteristic) :
    (ch.listen hear timeout state s).1 = (ch.listen hear timeout state t).1 ∧
      (ch.listen hear timeout state s).2.Twin known heard first second
        (ch.listen hear timeout state t).2 := by
  rw [listen, listen, h.now, h.agenda]
  exact twin_listenOn t.agenda state _ h hheard

theorem twin_waitFor (ch : Channel) (id : CommandId) (timeout : Span)
    (h : s.Twin known heard first second t) (hheard : heard ch.link ch.characteristic) :
    (ch.waitFor id timeout s).1 = (ch.waitFor id timeout t).1 ∧
      (ch.waitFor id timeout s).2.Twin known heard first second (ch.waitFor id timeout t).2 := by
  obtain ⟨hresult, hscene⟩ := ch.twin_listen (ch.hearFor id) timeout () h hheard
  rw [waitFor_eq, waitFor_eq]
  exact ⟨congrArg Prod.snd hresult, hscene⟩

end Listening

theorem twin_opened {known' : Nat → Uuid → Prop} (ch : Channel) (h : s.Twin known heard first second t)
    (hknown : ∀ i u, known' i u → known i u ∨ ch.On i u) :
    (ch.opened s).Twin known' heard first second (ch.opened t) := by
  have hopened : (ch.opened s).Twin known heard first second (ch.opened t) :=
    h.putLink ((h.link ch.link).put ch.characteristic { codec := ch.codec })
  apply hopened.know
  intro i u hu
  rcases hknown i u hu with hbefore | ⟨rfl, rfl⟩
  · exact (hopened.link i).known u hbefore
  · have hmailbox : ch.mailbox? (ch.opened s) = ch.mailbox? (ch.opened t) := by
      rw [opened, mailbox?_adjustLink, opened, mailbox?_adjustLink, h.length]
      split
      · rw [Registry.get?_put, Registry.get?_put]
        simp
      · rename_i hnowhere
        have hlink : t.links.length ≤ ch.link := by
          simp only [true_and, Nat.not_lt] at hnowhere
          exact hnowhere
        rw [mailbox?_of_length_le (by rw [h.length]; exact hlink), mailbox?_of_length_le hlink]
    exact congrArg (Option.map Mailbox.emptied) hmailbox

theorem parallel_close (ch : Channel) : Parallel (Scene.Twin known heard first second) ch.close :=
  Radio.parallel_onLink ch.link (Peripheral.even_unsubscribe ch.characteristic)

end Channel

theorem Radio.parallel_closeLink (i : Nat) : Parallel (Scene.Twin known heard first second) (closeLink i) :=
  parallel_onLink i Peripheral.even_close

end Running

end Latchkey
