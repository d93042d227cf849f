import Latchkey.Proofs.Framing
import Latchkey.Proofs.Links
import Latchkey.Proofs.Sealing

/-!
# What is sent

A link works for the whole of a message or for none of it, so a command that is sent is recorded as one
message, which decodes to that command, and a command that is not sent leaves no trace.
-/

namespace Latchkey

theorem Codec.decode_of_encode {codec : Codec} {c : Command} {nonces : Nonces} {message : Bytes}
    (h : (codec.encode c nonces).1 = .ok message) : codec.decode message = .ok c := by
  cases codec with
  | plain =>
    simp only [encode, Except.ok.injEq] at h
    rw [decode, ← h, Command.decode_encode]
    rfl
  | sealed authorization shared =>
    rw [encode, Sealed.encodeNext_fst] at h
    have hopen := Sealed.decode_of_encode (Nonces.length_draw ..) h
    simp [decode, hopen]

theorem Codec.encode_of_le (codec : Codec) {c : Command} (h : c.payload.length ≤ 65511) (nonces : Nonces) :
    ∃ message, (codec.encode c nonces).1 = .ok message := by
  cases codec with
  | plain => exact ⟨_, rfl⟩
  | sealed authorization shared =>
    have hencode := Sealed.encodeNext_fst authorization shared c nonces
    rw [Sealed.encode_eq, if_pos h] at hencode
    exact ⟨_, hencode⟩

/-- The message of a command as a device sends it that has the same key and its own source. -/
def Codec.message (codec : Codec) (nonces : Nonces) (c : Command) : Bytes :=
  (codec.encode c nonces).1.toOption.getD []

theorem Codec.decode_message (codec : Codec) (nonces : Nonces) {c : Command}
    (h : c.payload.length ≤ 65511) : codec.decode (codec.message nonces c) = .ok c := by
  obtain ⟨message, hencode⟩ := codec.encode_of_le h nonces
  have hmessage : codec.message nonces c = message := by
    rw [Codec.message, hencode]
    rfl
  rw [hmessage]
  exact decode_of_encode hencode

namespace Channel

/-- On the channel these messages have been written completely, and nothing else on any link. -/
structure Wrote (ch : Channel) (messages : List Bytes) (s s' : Scene) : Prop where
  length : s'.links.length = s.links.length
  messages (i : Nat) : (s'.link i).messages.toList = (s.link i).messages.toList ++
    if i = ch.link then messages.map fun message => (ch.characteristic, message) else []
  cancelled : s.cancelled = true → s'.cancelled = true

theorem Wrote.trans {ch : Channel} {first second : List Bytes} {s s' s'' : Scene}
    (h : ch.Wrote first s s') (h' : ch.Wrote second s' s'') : ch.Wrote (first ++ second) s s'' := by
  refine ⟨h'.length.trans h.length, fun i => ?_, fun hc => h'.cancelled (h.cancelled hc)⟩
  rw [h'.messages, h.messages, List.append_assoc]
  split
  · rw [List.map_append]
  · rfl

theorem wrote_of_quiet (ch : Channel) {s s' : Scene} (h : s.Quiet s') : ch.Wrote [] s s' := by
  refine ⟨h.length, fun i => ?_, h.cancelled⟩
  rw [h.messages]
  split <;> simp

section Writing

variable {ch : Channel} {s : Scene} {p : Peripheral}

private theorem writeAll_eq (message : Bytes) {backlog : List Bytes} (hlink : ch.link < s.links.length)
    (hworks : Operation.write ∉ (s.link ch.link).failing)
    (hbacklog : ((s.link ch.link).outbound.get? ch.characteristic).getD {} = ⟨backlog⟩) :
    ch.writeAll (Chunk.split message) s =
      (.ok (), s.putLink ch.link ((s.link ch.link).completed ch.characteristic (Chunk.split message)
        (backlog.reverse.flatten ++ message))) := by
  obtain ⟨full, last, hfull, hlast, rfl⟩ := Chunk.exists_split message
  rw [Chunk.split_full_append hfull hlast]
  -- What has been written of the message so far is the backlog.
  induction full generalizing backlog s with
  | nil =>
    have hwrite := Peripheral.write_last ch.characteristic hworks (Nat.ne_of_lt hlast)
    rw [hbacklog] at hwrite
    rw [List.nil_append, writeAll, run_bind, Radio.onLink, hwrite]
    simp [writeAll]
    rfl
  | cons chunk full ih =>
    rw [List.forall_mem_cons] at hfull
    have hwrite := Peripheral.write_full ch.characteristic hworks hfull.1
    rw [hbacklog] at hwrite
    rw [List.cons_append, writeAll, run_bind, Radio.onLink, hwrite]
    dsimp only
    generalize hp : ({ s.link ch.link with
      written := (s.link ch.link).written.push (ch.characteristic, chunk)
      outbound := (s.link ch.link).outbound.put ch.characteristic ⟨chunk :: backlog⟩ } : Peripheral) = p
    have hput : (s.putLink ch.link p).link ch.link = p := by
      rw [Scene.link_putLink, if_pos ⟨rfl, hlink⟩]
    have hbegun : ((((s.putLink ch.link p).link ch.link).outbound.get? ch.characteristic).getD {} :
        Assembler) = ⟨chunk :: backlog⟩ := by
      rw [hput, ← hp, Registry.get?_put, if_pos rfl, Option.getD_some]
    have hlater := ih (by rw [Scene.length_putLink]; exact hlink) (by rw [hput, ← hp]; exact hworks)
      hbegun hfull.2
    rw [hlater, hput, Scene.putLink_putLink, ← hp, Peripheral.completed_cons]
    simp

private theorem tidy_putLink (nonces : Nonces) (htidy : s.Tidy)
    (hp : p.outbound = (s.link ch.link).outbound.put ch.characteristic {}) :
    ({ s with nonces }.putLink ch.link p).Tidy := by
  intro i u
  rw [Scene.link_putLink]
  split
  · rw [hp, Registry.get?_put]
    split
    · rfl
    · exact htidy ch.link u
  · exact htidy i u

private theorem wrote_putLink (nonces : Nonces) (hlink : ch.link < s.links.length) {messages : List Bytes}
    (hp : p.messages.toList = (s.link ch.link).messages.toList ++
      messages.map fun message => (ch.characteristic, message)) :
    ch.Wrote messages s ({ s with nonces }.putLink ch.link p) := by
  refine ⟨Scene.length_putLink .., fun i => ?_, id⟩
  rw [Scene.link_putLink]
  by_cases hi : i = ch.link
  · subst hi
    rw [if_pos ⟨rfl, hlink⟩, hp, if_pos rfl]
  · rw [if_neg fun h => hi h.1.symm, if_neg hi, List.append_nil]
    rfl

end Writing

private theorem writeAll_refused {ch : Channel} {s : Scene} (message : Bytes)
    (hfails : Operation.write ∈ (s.link ch.link).failing) :
    ch.writeAll (Chunk.split message) s = (.error (Peripheral.refusal .write), s) := by
  have hrefused (chunk : Bytes) (chunks : List Bytes) :
      ch.writeAll (chunk :: chunks) s = (.error (Peripheral.refusal .write), s) := by
    rw [writeAll, run_bind, Radio.onLink, Peripheral.write_refused ch.characteristic chunk hfails]
  rw [Chunk.split_eq]
  split
  · exact hrefused message []
  · exact hrefused _ _

theorem writeAll_error {ch : Channel} {s : Scene} {chunks : List Bytes} {e : Failure}
    (h : (ch.writeAll chunks s).1 = .error e) : e = Peripheral.refusal .write := by
  induction chunks generalizing s with
  | nil => cases h
  | cons chunk chunks ih =>
    rw [writeAll, run_bind, Radio.onLink] at h
    cases hwrite : (s.link ch.link).write ch.characteristic chunk with
    | error refusal =>
      rw [hwrite] at h
      cases h
      exact Peripheral.write_error hwrite
    | ok p =>
      rw [hwrite] at h
      exact ih h

theorem writeAll_nowhere {ch : Channel} {s : Scene} (chunks : List Bytes)
    (hlink : s.links.length ≤ ch.link) : (ch.writeAll chunks s).2 = s := by
  induction chunks with
  | nil => rfl
  | cons chunk chunks ih =>
    have hput (p : Peripheral) : s.putLink ch.link p = s := by
      rw [Scene.putLink, List.set_eq_of_length_le hlink]
    rw [writeAll, run_bind, Radio.onLink]
    cases (s.link ch.link).write ch.characteristic chunk with
    | error e => rfl
    | ok p =>
      show (ch.writeAll chunks (s.putLink ch.link p)).2 = s
      rw [hput]
      exact ih

/-- Over the channel these commands have been sent, and nothing else has been written completely to any
link; nor has anything been begun. -/
structure Sent (ch : Channel) (commands : List Command) (s s' : Scene) : Prop where
  decoded : ∃ messages, ch.Wrote messages s s' ∧
    messages.map (Codec.decode · ch.codec) = commands.map .ok
  tidy : s.Tidy → s'.Tidy

theorem Sent.trans {ch : Channel} {first second : List Command} {s s' s'' : Scene}
    (h : ch.Sent first s s') (h' : ch.Sent second s' s'') : ch.Sent (first ++ second) s s'' := by
  obtain ⟨messages, hwrote, hdecoded⟩ := h.decoded
  obtain ⟨messages', hwrote', hdecoded'⟩ := h'.decoded
  refine ⟨⟨messages ++ messages', hwrote.trans hwrote', ?_⟩, fun hs => h'.tidy (h.tidy hs)⟩
  rw [List.map_append, hdecoded, hdecoded', List.map_append]

theorem Sent.unique {ch : Channel} {first second : List Command} {s s' : Scene}
    (h : ch.Sent first s s') (h' : ch.Sent second s s') : first = second := by
  obtain ⟨messages, hwrote, hdecoded⟩ := h.decoded
  obtain ⟨messages', hwrote', hdecoded'⟩ := h'.decoded
  have hboth := (hwrote.messages ch.link).symm.trans (hwrote'.messages ch.link)
  rw [if_pos rfl, if_pos rfl] at hboth
  have hmessages := (List.map_inj_right fun _ _ heq => (Prod.mk.inj heq).2).mp (List.append_cancel_left hboth)
  rw [hmessages, hdecoded'] at hdecoded
  exact (List.map_inj_right fun _ _ => Except.ok.inj).mp hdecoded.symm

theorem Sent.length {ch : Channel} {commands : List Command} {s s' : Scene}
    (h : ch.Sent commands s s') : s'.links.length = s.links.length := by
  obtain ⟨messages, hwrote, _⟩ := h.decoded
  exact hwrote.length

theorem sent_of_quiet (ch : Channel) {s s' : Scene} (h : s.Quiet s') : ch.Sent [] s s' :=
  ⟨⟨[], wrote_of_quiet ch h, rfl⟩, fun hs => (h.settled hs).1⟩

theorem Sent.append_quiet {ch : Channel} {commands : List Command} {s s' s'' : Scene}
    (h : ch.Sent commands s s') (h' : s'.Quiet s'') : ch.Sent commands s s'' := by
  have hsent := h.trans (sent_of_quiet ch h')
  rwa [List.append_nil] at hsent

theorem quiet_putInbox (ch : Channel) (inbox : List Arrival) (s : Scene) :
    s.Quiet (ch.putInbox inbox s) := Scene.quiet_putLink rfl rfl

theorem putInbox_putInbox (ch : Channel) (first second : List Arrival) (s : Scene) :
    ch.putInbox second (ch.putInbox first s) = ch.putInbox second s := by
  rw [putInbox, putInbox, Scene.adjustLink_adjustLink, putInbox]
  congr 1
  funext p
  simp only [Function.comp_apply, Registry.adjust_adjust]
  rfl

/-- The scene in which a message is written: the inbox is empty and the nonce used up. -/
def readied (ch : Channel) (c : Command) (s : Scene) : Scene :=
  { ch.putInbox [] s with nonces := (ch.codec.encode c s.nonces).2 }

theorem quiet_readied (ch : Channel) (c : Command) (s : Scene) : s.Quiet (ch.readied c s) := by
  have h := quiet_putInbox ch [] s
  exact ⟨h.length, h.messages, h.outbound, h.cancelled⟩

theorem send_eq (ch : Channel) (c : Command) (s : Scene) :
    ch.send c s =
      match (ch.codec.encode c s.nonces).1 with
      | .ok message => ch.writeAll (Chunk.split message) (ch.readied c s)
      | .error e => (.error (.wire e), ch.readied c s) := by
  have hnonces : (ch.putInbox [] s).nonces = s.nonces := rfl
  rw [send, run_bind, run_modify]
  dsimp only
  rw [run_bind, encode, hnonces]
  rcases hencode : ch.codec.encode c s.nonces with ⟨e | message, nonces⟩
  · simp only [readied, hencode]
    rfl
  · simp only [readied, hencode]
    rfl

theorem send_putInbox (ch : Channel) (c : Command) (inbox : List Arrival) (s : Scene) :
    ch.send c (ch.putInbox inbox s) = ch.send c s := by
  have hnonces : (ch.putInbox inbox s).nonces = s.nonces := rfl
  rw [send_eq, send_eq, readied, readied, putInbox_putInbox, hnonces]

/-- The device end of the channel when its inbox has been emptied. -/
def emptied (ch : Channel) (p : Peripheral) : Peripheral :=
  { p with mailboxes := p.mailboxes.adjust ch.characteristic fun box => { box with inbox := [] } }

section Encoded

variable {ch : Channel} {c : Command} {s : Scene} {message : Bytes}
  (hencode : (ch.codec.encode c s.nonces).1 = .ok message)
include hencode

theorem send_written (hlink : ch.link < s.links.length)
    (hworks : Operation.write ∉ (s.link ch.link).failing) (htidy : s.Tidy) :
    ch.send c s = (.ok (), { s with nonces := (ch.codec.encode c s.nonces).2 }.putLink ch.link
      ((ch.emptied (s.link ch.link)).completed ch.characteristic (Chunk.split message) message)) := by
  have hquiet := quiet_readied ch c s
  have hreadied : (ch.readied c s).link ch.link = ch.emptied (s.link ch.link) := by
    change (ch.putInbox [] s).link ch.link = _
    rw [putInbox, Scene.link_adjustLink, if_pos ⟨rfl, hlink⟩]
    rfl
  have hidle := (hquiet.settled htidy).1 ch.link ch.characteristic
  have hrun := writeAll_eq message (by rw [hquiet.length]; exact hlink)
    (by rw [hreadied]; exact hworks) hidle
  rw [List.reverse_nil, List.flatten_nil, List.nil_append, hreadied] at hrun
  have hput (p : Peripheral) : (ch.readied c s).putLink ch.link p =
      { s with nonces := (ch.codec.encode c s.nonces).2 }.putLink ch.link p :=
    Scene.putLink_putLink ch.link _ p { s with nonces := (ch.codec.encode c s.nonces).2 }
  rw [send_eq, hencode, ← hput]
  exact hrun

/-- On such a link a command is sent as one message. -/
theorem send_wrote (hlink : ch.link < s.links.length)
    (hworks : Operation.write ∉ (s.link ch.link).failing) (htidy : s.Tidy) :
    ∃ s', ch.send c s = (.ok (), s') ∧ ch.Wrote [message] s s' ∧ s'.Tidy := by
  have hrun := send_written hencode hlink hworks htidy
  obtain ⟨mailboxes, script, hcompleted⟩ := Peripheral.completed_eq ch.characteristic
    (Chunk.split message) message (ch.emptied (s.link ch.link))
  rw [hcompleted] at hrun
  exact ⟨_, hrun, wrote_putLink _ hlink (by simp [emptied]), tidy_putLink _ htidy rfl⟩

theorem send_refused (hfails : Operation.write ∈ (s.link ch.link).failing) :
    ch.send c s = (.error (Peripheral.refusal .write), ch.readied c s) := by
  have hfails' : Operation.write ∈ ((ch.readied c s).link ch.link).failing := by
    change Operation.write ∈ ((ch.putInbox [] s).link ch.link).failing
    rw [putInbox, Scene.link_adjustLink]
    split
    · exact hfails
    · exact hfails
  rw [send_eq, hencode]
  exact writeAll_refused message hfails'

end Encoded

/-- A command is sent as it is or not at all. -/
theorem send_cases (ch : Channel) (c : Command) {s : Scene} (hlink : ch.link < s.links.length)
    (htidy : s.Tidy) :
    (∃ s', ch.send c s = (.ok (), s') ∧ ch.Sent [c] s s') ∨
      ∃ e s', ch.send c s = (.error e, s') ∧ s.Quiet s' := by
  have hquiet := quiet_readied ch c s
  cases hencode : (ch.codec.encode c s.nonces).1 with
  | error e =>
    rw [send_eq, hencode]
    exact .inr ⟨_, _, rfl, hquiet⟩
  | ok message =>
    by_cases hworks : Operation.write ∈ (s.link ch.link).failing
    · exact .inr ⟨_, _, send_refused hencode hworks, hquiet⟩
    · have hdecode := Codec.decode_of_encode hencode
      obtain ⟨s', hrun, hwrote, htidy'⟩ := send_wrote hencode hlink hworks htidy
      refine .inl ⟨s', hrun, ⟨[message], hwrote, ?_⟩, fun _ => htidy'⟩
      simp [hdecode]

theorem sent_of_send {ch : Channel} {c : Command} {s s' : Scene} (hlink : ch.link < s.links.length)
    (htidy : s.Tidy) (h : ch.send c s = (.ok (), s')) : ch.Sent [c] s s' := by
  rcases ch.send_cases c hlink htidy with ⟨sent, hsend, hsent⟩ | ⟨e, sent, hsend, -⟩
  · rw [h] at hsend
    cases hsend
    exact hsent
  · rw [h] at hsend
    cases hsend

theorem settled_send (ch : Channel) (c : Command) (s : Scene) : s.Settled (ch.send c s).2 := by
  have hquiet := quiet_readied ch c s
  by_cases hlink : ch.link < s.links.length
  · intro htidy
    rcases send_cases ch c hlink htidy with ⟨s', hrun, hsent⟩ | ⟨e, s', hrun, hquiet'⟩
    · rw [hrun]
      exact ⟨hsent.tidy htidy, hsent.length⟩
    · rw [hrun]
      exact hquiet'.settled htidy
  · rw [send_eq]
    cases (ch.codec.encode c s.nonces).1 with
    | error e => exact hquiet.settled
    | ok message =>
      show s.Settled (ch.writeAll (Chunk.split message) (ch.readied c s)).2
      rw [writeAll_nowhere _ (by rw [hquiet.length]; omega)]
      exact hquiet.settled

end Channel

end Latchkey
