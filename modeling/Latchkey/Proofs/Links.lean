import Latchkey.Proofs.Acts

/-!
# What links record

A link records the messages that have been written completely. Sending a command adds exactly one message
to one characteristic, or none at all when the link refuses to be written to; nothing else that happens in
a scene adds any.
-/

namespace Latchkey

namespace Registry

variable {α : Type}

theorem get?_cons (u v : Uuid) (value : α) (registry : Registry α) :
    get? ((v, value) :: registry) u = if u = v then some value else registry.get? u := by
  by_cases h : u = v
  · simp [get?, h]
  · have hne : (u == v) = false := beq_eq_false_iff_ne.mpr h
    rw [get?, List.lookup_cons, hne, if_neg h]
    rfl

theorem get?_put (u v : Uuid) (value : α) (registry : Registry α) :
    (registry.put v value).get? u = if u = v then some value else registry.get? u := by
  induction registry with
  | nil =>
    rw [put, get?_cons]
  | cons entry registry ih =>
    obtain ⟨w, old⟩ := entry
    by_cases hvw : v = w
    · subst hvw
      by_cases huv : u = v
      · simp [put, get?_cons, huv]
      · simp [put, get?_cons, huv]
    · by_cases huw : u = w
      · subst huw
        simp [put, get?_cons, hvw, Ne.symm hvw]
      · simp [put, get?_cons, hvw, huw, ih]

theorem get?_adjust (u v : Uuid) (change : α → α) (registry : Registry α) :
    (registry.adjust v change).get? u =
      if u = v then (registry.get? u).map change else registry.get? u := by
  induction registry with
  | nil => simp [adjust, get?]
  | cons entry registry ih =>
    obtain ⟨w, value⟩ := entry
    simp only [adjust, List.map_cons] at ih ⊢
    rw [get?_cons, ih, get?_cons]
    by_cases huw : u = w
    · subst huw
      by_cases huv : u = v
      · simp [huv]
      · simp [huv, Ne.symm huv]
    · simp [huw]

theorem adjust_adjust (u : Uuid) (first second : α → α) (registry : Registry α) :
    (registry.adjust u first).adjust u second = registry.adjust u (second ∘ first) := by
  simp only [adjust, List.map_map]
  apply List.map_congr_left
  rintro ⟨w, value⟩ _
  by_cases h : u = w
  · simp [h]
  · simp [h]

private theorem adjust_id (u : Uuid) (registry : Registry α) : registry.adjust u id = registry := by
  simp [adjust]

private theorem put_put (u : Uuid) (first second : α) (registry : Registry α) :
    (registry.put u first).put u second = registry.put u second := by
  induction registry with
  | nil => simp [put]
  | cons entry registry ih =>
    obtain ⟨v, old⟩ := entry
    by_cases h : u = v
    · simp [put, h]
    · simp [put, h, ih]

end Registry

namespace Peripheral

theorem notifyAll_eq (u : Uuid) (chunks : List Bytes) (p : Peripheral) :
    p.notifyAll u chunks =
      { p with mailboxes := p.mailboxes.adjust u fun box => chunks.foldl Mailbox.deliver box } := by
  induction chunks generalizing p with
  | nil =>
    have h : p.mailboxes.adjust u (fun box => box) = p.mailboxes := Registry.adjust_id u p.mailboxes
    simp only [notifyAll, List.foldl_nil, h]
  | cons chunk chunks ih =>
    have h := ih (p.notify u chunk)
    simp only [notifyAll, List.foldl_cons] at h ⊢
    rw [h]
    simp only [notify, Registry.adjust_adjust]
    rfl

theorem reply_eq (u : Uuid) (message : Bytes) (p : Peripheral) :
    ∃ mailboxes script, p.reply u message =
      { p with mailboxes, script, messages := p.messages.push (u, message) } := by
  unfold reply
  dsimp only
  split
  · rename_i hscript
    exact ⟨p.mailboxes, p.script, rfl⟩
  · rename_i replies script hscript
    rw [notifyAll_eq]
    exact ⟨_, script, rfl⟩

/-- What becomes of an operation that fails. -/
def refusal (op : Operation) : Failure := .transport s!"injected {op.label} failure"

theorem subscribe_eq {u : Uuid} {p : Peripheral} (codec : Codec) (h : u ∈ p.exposed) :
    p.subscribe u codec = if Operation.subscribe ∈ p.failing then .error (refusal .subscribe)
      else .ok { p with mailboxes := p.mailboxes.put u { codec } } := by
  simp only [subscribe, check, if_pos h]
  split
  · rfl
  · rfl

theorem unsubscribe_eq (u : Uuid) (p : Peripheral) :
    p.unsubscribe u = if Operation.unsubscribe ∈ p.failing then .error (refusal .unsubscribe)
      else .ok { p with mailboxes := p.mailboxes.adjust u Mailbox.detach } := by
  simp only [unsubscribe, check]
  split
  · rfl
  · rfl

theorem close_eq (p : Peripheral) :
    p.close = if Operation.close ∈ p.failing then .error (refusal .close)
      else .ok { p with closed := true, mailboxes := p.mailboxes.mapValues Mailbox.detach } := by
  simp only [close, check]
  split
  · rfl
  · rfl

theorem lost_eq (p : Peripheral) :
    p.close.toOption.getD p = if Operation.close ∈ p.failing then p
      else { p with closed := true, mailboxes := p.mailboxes.mapValues Mailbox.detach } := by
  rw [close_eq]
  split
  · rfl
  · rfl

theorem unsubscribe_ok {p p' : Peripheral} {u : Uuid} (h : p.unsubscribe u = .ok p') :
    p' = { p with mailboxes := p.mailboxes.adjust u Mailbox.detach } := by
  rw [unsubscribe_eq] at h
  split at h
  · cases h
  · exact (Except.ok.inj h).symm

theorem close_ok {p p' : Peripheral} (h : p.close = .ok p') :
    p' = { p with closed := true, mailboxes := p.mailboxes.mapValues Mailbox.detach } := by
  rw [close_eq] at h
  split at h
  · cases h
  · exact (Except.ok.inj h).symm

theorem write_ok {p p' : Peripheral} {u : Uuid} {chunk : Bytes} (h : p.write u chunk = .ok p') :
    ∃ written outbound, p' = { p with written, outbound } ∨
      ∃ message, p' = { p with written, outbound }.reply u message := by
  simp only [write, check] at h
  split at h
  · cases h
  · dsimp only [bind, Except.bind] at h
    split at h
    · exact ⟨_, _, .inr ⟨_, (Except.ok.inj h).symm⟩⟩
    · exact ⟨_, _, .inl (Except.ok.inj h).symm⟩

theorem write_full {p : Peripheral} {chunk : Bytes} (u : Uuid) (hworks : Operation.write ∉ p.failing)
    (hchunk : chunk.length = Chunk.capacity) :
    p.write u chunk = .ok { p with
      written := p.written.push (u, chunk)
      outbound := p.outbound.put u ⟨chunk :: ((p.outbound.get? u).getD {}).backlog⟩ } := by
  simp only [write, check, if_neg hworks, Assembler.push, if_pos hchunk]
  rfl

/-- The device end when these chunks have completed this message. -/
def completed (u : Uuid) (chunks : List Bytes) (message : Bytes) (p : Peripheral) : Peripheral :=
  { p with
    written := p.written ++ (chunks.map fun chunk => (u, chunk)).toArray
    outbound := p.outbound.put u {} }.reply u message

theorem write_last {p : Peripheral} {chunk : Bytes} (u : Uuid) (hworks : Operation.write ∉ p.failing)
    (hchunk : chunk.length ≠ Chunk.capacity) :
    p.write u chunk = .ok (p.completed u [chunk]
      (chunk :: ((p.outbound.get? u).getD {}).backlog).reverse.flatten) := by
  have hwritten : p.written ++ ([chunk].map fun chunk => (u, chunk)).toArray =
      p.written.push (u, chunk) := by simp
  simp only [write, check, if_neg hworks, Assembler.push, if_neg hchunk, completed, hwritten]
  rfl

theorem completed_cons (u : Uuid) (chunk : Bytes) (chunks : List Bytes) (assembler : Assembler)
    (message : Bytes) (p : Peripheral) :
    { p with
      written := p.written.push (u, chunk)
      outbound := p.outbound.put u assembler }.completed u chunks message =
      p.completed u (chunk :: chunks) message := by
  simp [completed, Registry.put_put]

theorem completed_eq (u : Uuid) (chunks : List Bytes) (message : Bytes) (p : Peripheral) :
    ∃ mailboxes script, p.completed u chunks message = { p with
      mailboxes, script
      written := p.written ++ (chunks.map fun chunk => (u, chunk)).toArray
      outbound := p.outbound.put u {}
      messages := p.messages.push (u, message) } := by
  obtain ⟨mailboxes, script, hreply⟩ := reply_eq u message { p with
    written := p.written ++ (chunks.map fun chunk => (u, chunk)).toArray
    outbound := p.outbound.put u {} }
  exact ⟨mailboxes, script, hreply⟩

theorem completed_of_script {p : Peripheral} {replies : List Bytes} {script : List (List Bytes)} (u : Uuid)
    (chunks : List Bytes) (message : Bytes) (h : p.script = replies :: script) :
    p.completed u chunks message = { p with
      script
      written := p.written ++ (chunks.map fun chunk => (u, chunk)).toArray
      outbound := p.outbound.put u {}
      messages := p.messages.push (u, message)
      mailboxes := p.mailboxes.adjust u fun box =>
        (replies.flatMap Chunk.split).foldl Mailbox.deliver box } := by
  simp only [completed, reply, h, notifyAll_eq]

theorem write_refused {p : Peripheral} (u : Uuid) (chunk : Bytes) (hfails : Operation.write ∈ p.failing) :
    p.write u chunk = .error (refusal .write) := by
  simp only [write, check, if_pos hfails]
  rfl

theorem write_error {p : Peripheral} {u : Uuid} {chunk : Bytes} {e : Failure}
    (h : p.write u chunk = .error e) : e = refusal .write := by
  by_cases hfails : Operation.write ∈ p.failing
  · rw [write_refused u chunk hfails] at h
    exact (Except.error.inj h).symm
  · by_cases hfull : chunk.length = Chunk.capacity
    · rw [write_full u hfails hfull] at h
      cases h
    · rw [write_last u hfails hfull] at h
      cases h

end Peripheral

namespace Scene

theorem link_of_length_le {s : Scene} {i : Nat} (h : s.links.length ≤ i) : s.link i = {} := by
  rw [link, List.getD_eq_getElem?_getD, List.getElem?_eq_none h]
  rfl

@[simp] theorem length_putLink (i : Nat) (p : Peripheral) (s : Scene) :
    (s.putLink i p).links.length = s.links.length := List.length_set

theorem link_putLink (i j : Nat) (p : Peripheral) (s : Scene) :
    (s.putLink i p).link j = if i = j ∧ j < s.links.length then p else s.link j := by
  simp only [link, putLink, List.getD_eq_getElem?_getD, List.getElem?_set]
  by_cases hij : i = j
  · subst hij
    by_cases hlt : i < s.links.length
    · simp [hlt]
    · simp [hlt]
  · simp [hij]

theorem link_adjustLink (i j : Nat) (change : Peripheral → Peripheral) (s : Scene) :
    (s.adjustLink i change).link j =
      if i = j ∧ j < s.links.length then change (s.link j) else s.link j := by
  rw [adjustLink, link_putLink]
  by_cases h : i = j ∧ j < s.links.length
  · rw [if_pos h, if_pos h, h.1]
  · rw [if_neg h, if_neg h]

@[simp] theorem putLink_putLink (i : Nat) (p q : Peripheral) (s : Scene) :
    (s.putLink i p).putLink i q = s.putLink i q := by
  simp only [putLink, List.set_set]

theorem adjustLink_adjustLink (i : Nat) (first second : Peripheral → Peripheral) (s : Scene) :
    (s.adjustLink i first).adjustLink i second = s.adjustLink i (second ∘ first) := by
  simp only [adjustLink, putLink_putLink, link_putLink]
  by_cases hlink : i < s.links.length
  · simp [hlink]
  · simp only [putLink, List.set_eq_of_length_le (Nat.not_lt.mp hlink)]

/-- No chunk has been written to any link, and whoever had given up still has. -/
structure Quiet (s s' : Scene) : Prop where
  length : s'.links.length = s.links.length
  messages (i : Nat) : (s'.link i).messages = (s.link i).messages
  outbound (i : Nat) : (s'.link i).outbound = (s.link i).outbound
  cancelled : s.cancelled = true → s'.cancelled = true

theorem quiet_lasting : Lasting Quiet where
  refl _ := ⟨rfl, fun _ => rfl, fun _ => rfl, id⟩
  trans h h' := ⟨h'.length.trans h.length, fun i => (h'.messages i).trans (h.messages i),
    fun i => (h'.outbound i).trans (h.outbound i), fun hc => h'.cancelled (h.cancelled hc)⟩

theorem quiet_putLink {s : Scene} {i : Nat} {p : Peripheral}
    (hmessages : p.messages = (s.link i).messages) (houtbound : p.outbound = (s.link i).outbound) :
    s.Quiet (s.putLink i p) := by
  refine ⟨length_putLink .., fun j => ?_, fun j => ?_, id⟩
  · rw [link_putLink]
    split
    · rename_i h
      rw [hmessages, h.1]
    · rfl
  · rw [link_putLink]
    split
    · rename_i h
      rw [houtbound, h.1]
    · rfl

theorem quiet_happen (s : Scene) (h : Happening) : s.Quiet (s.happen h) := by
  cases h with
  | cancel => exact ⟨rfl, fun _ => rfl, fun _ => rfl, fun _ => rfl⟩
  | failure i op => exact quiet_putLink rfl rfl
  | lost i =>
    apply quiet_putLink
    · show ((s.link i).close.toOption.getD (s.link i)).messages = (s.link i).messages
      rw [Peripheral.lost_eq]
      split <;> rfl
    · show ((s.link i).close.toOption.getD (s.link i)).outbound = (s.link i).outbound
      rw [Peripheral.lost_eq]
      split <;> rfl
  | arrival i u chunks =>
    apply quiet_putLink
    · show ((s.link i).notifyAll u chunks).messages = (s.link i).messages
      rw [Peripheral.notifyAll_eq]
    · show ((s.link i).notifyAll u chunks).outbound = (s.link i).outbound
      rw [Peripheral.notifyAll_eq]

theorem quiet_keep (s : Scene) (appointment : Appointment) (agenda : List Appointment) :
    s.Quiet (s.keep appointment agenda) := by
  have h := quiet_happen { s with now := appointment.time, agenda } appointment.happening
  exact ⟨h.length, h.messages, h.outbound, h.cancelled⟩

theorem agenda_keep (s : Scene) (appointment : Appointment) (agenda : List Appointment) :
    (s.keep appointment agenda).agenda = agenda := by
  rw [keep]
  cases appointment.happening <;> rfl

theorem now_keep (s : Scene) (appointment : Appointment) (agenda : List Appointment) :
    (s.keep appointment agenda).now = appointment.time := by
  rw [keep]
  cases appointment.happening <;> rfl

/-- No message has been begun on any link without having been completed. -/
def Tidy (s : Scene) : Prop := ∀ i u, ((s.link i).outbound.get? u).getD {} = {}

/-- Where no message was in progress none is, and the links are still there. -/
def Settled (s s' : Scene) : Prop := s.Tidy → s'.Tidy ∧ s'.links.length = s.links.length

theorem Quiet.settled {s s' : Scene} (h : s.Quiet s') : s.Settled s' := by
  refine fun hs => ⟨fun i u => ?_, h.length⟩
  rw [h.outbound i]
  exact hs i u

end Scene

theorem Radio.keeps_onLink {R : Scene → Scene → Prop} (hR : Lasting R) {i : Nat}
    {use : Peripheral → Except Failure Peripheral}
    (h : ∀ s p, use (s.link i) = .ok p → R s (s.putLink i p)) : Keeps R (onLink i use) := by
  intro s
  rw [onLink]
  cases huse : use (s.link i) with
  | error e => exact hR.refl s
  | ok p => exact h s p huse

theorem Radio.run_drawNonce (count : Nat) (s : Scene) :
    drawNonce count s =
      (.ok (s.nonces.draw count).1, { s with nonces := (s.nonces.draw count).2 }) := rfl

theorem Radio.quiet_drawNonce (count : Nat) : Keeps Scene.Quiet (drawNonce count) :=
  fun _ => ⟨rfl, fun _ => rfl, fun _ => rfl, id⟩

end Latchkey
