import Latchkey.Proofs.Chunks
import Latchkey.Proofs.Duplexes
import Latchkey.Proofs.Leftovers

/-!
# What a device receives

Commands that are sent over the two channels of a link in any order are recorded by the device as messages in the
same order, each on the characteristic of its channel, cut into chunks that the link can carry. What the device
reads from them are the commands that were sent. The chunks of sends on different characteristics may alternate,
since the device puts the messages of every characteristic together on their own.
-/

namespace Latchkey

namespace Peripheral

/-- What has been written of a message that is not complete yet. -/
def begun (p : Peripheral) (u : Uuid) : Assembler := (p.outbound.get? u).getD {}

/-- Writes chunks in the order in which they come, each on its own characteristic. -/
def writeEach : List (Uuid × Bytes) → Peripheral → Except Failure Peripheral
  | [], p => .ok p
  | (u, chunk) :: chunks, p => do
    let p ← p.write u chunk
    p.writeEach chunks

private theorem write_recorded (p : Peripheral) (u : Uuid) (chunk : Bytes) (hworks : Operation.write ∉ p.failing) :
    ∃ p', p.write u chunk = .ok p' ∧ p'.failing = p.failing ∧
      p'.written.toList = p.written.toList ++ [(u, chunk)] ∧
      p'.messages.toList = p.messages.toList ++ ((p.begun u).push chunk).1.toList.map (u, ·) ∧
      ∀ v, p'.begun v = if v = u then ((p.begun u).push chunk).2 else p.begun v := by
  have hput (assembler : Assembler) (v : Uuid) :
      ((p.outbound.put u assembler).get? v).getD {} = if v = u then assembler else p.begun v := by
    rw [Registry.get?_put]
    split <;> rfl
  simp only [write, check, if_neg hworks]
  rw [← begun]
  rcases (p.begun u).push chunk with ⟨_ | message, assembler⟩
  · exact ⟨_, rfl, rfl, Array.toList_push, (List.append_nil _).symm, hput assembler⟩
  · obtain ⟨mailboxes, script, hreply⟩ := reply_eq u message
      { p with written := p.written.push (u, chunk), outbound := p.outbound.put u assembler }
    refine ⟨_, congrArg Except.ok hreply, rfl, Array.toList_push, Array.toList_push, hput assembler⟩

/-- However chunks on different characteristics alternate, the messages that are recorded on each of them are those
that the chunks on it make up. -/
theorem writeEach_recorded (p : Peripheral) (chunks : List (Uuid × Bytes)) (hworks : Operation.write ∉ p.failing) :
    ∃ p' messages, p.writeEach chunks = .ok p' ∧ p'.written.toList = p.written.toList ++ chunks ∧
      p'.messages.toList = p.messages.toList ++ messages ∧
      ∀ u, (p.begun u).collect (under u chunks) = (under u messages, p'.begun u) := by
  induction chunks generalizing p with
  | nil => exact ⟨p, [], rfl, (List.append_nil _).symm, (List.append_nil _).symm, fun u => rfl⟩
  | cons first chunks ih =>
    obtain ⟨u, chunk⟩ := first
    obtain ⟨p', hwrite, hfailing, hwritten, hmessages, hbegun⟩ := p.write_recorded u chunk hworks
    rw [← hfailing] at hworks
    obtain ⟨p'', later, hrest, hwritten', hmessages', hcollect⟩ := ih p' hworks
    refine ⟨p'', ((p.begun u).push chunk).1.toList.map (u, ·) ++ later, ?_, ?_, ?_, fun v => ?_⟩
    · rw [writeEach, hwrite]
      exact hrest
    · rw [hwritten', hwritten, List.append_assoc, List.singleton_append]
    · rw [hmessages', hmessages, List.append_assoc]
    · have hlater := hcollect v
      rw [hbegun] at hlater
      rw [under_cons, under_append]
      by_cases hv : v = u
      · subst hv
        rw [if_pos rfl] at hlater
        rw [under_map_mk, if_pos rfl, if_pos rfl, List.singleton_append, Assembler.collect]
        generalize (p.begun v).push chunk = pushed at hlater ⊢
        obtain ⟨message, assembler⟩ := pushed
        dsimp only at hlater ⊢
        rw [hlater]
      · rw [if_neg hv] at hlater
        rw [under_map_mk, if_neg (Ne.symm hv), if_neg (Ne.symm hv), List.nil_append, List.nil_append, hlater]

end Peripheral

namespace Channel

variable {ch : Channel} {c : Command} {s : Scene}

private theorem readied_link (ch : Channel) (c : Command) (s : Scene) (i : Nat) :
    ∃ mailboxes, (ch.readied c s).link i = { s.link i with mailboxes } := by
  change ∃ mailboxes, (ch.putInbox [] s).link i = { s.link i with mailboxes }
  rw [putInbox, Scene.link_adjustLink]
  split
  · exact ⟨_, rfl⟩
  · exact ⟨_, rfl⟩

private theorem written_of_wire {e : WireError} (h : (ch.send c s).1 = .error (.wire e)) (i : Nat) :
    ((ch.send c s).2.link i).written = (s.link i).written := by
  rw [send_eq] at h ⊢
  cases hencode : (ch.codec.encode c s.nonces).1 with
  | error wire =>
    obtain ⟨mailboxes, hlink⟩ := ch.readied_link c s i
    rw [hlink]
  | ok message =>
    -- Once there is a message, only the link can refuse it.
    rw [hencode] at h
    cases writeAll_error h

private theorem send_recorded (ch : Channel) {message : Bytes}
    (hencode : (ch.codec.encode c s.nonces).1 = .ok message)
    (hlink : ch.link < s.links.length) (hworks : Operation.write ∉ (s.link ch.link).failing)
    (htidy : s.Tidy) :
    ∃ s', ch.send c s = (.ok (), s') ∧ s'.links.length = s.links.length ∧ s'.Tidy ∧
      ∃ mailboxes script, s'.link ch.link = { s.link ch.link with
        mailboxes, script
        written := (s.link ch.link).written ++
          ((Chunk.split message).map fun chunk => (ch.characteristic, chunk)).toArray
        outbound := (s.link ch.link).outbound.put ch.characteristic {}
        messages := (s.link ch.link).messages.push (ch.characteristic, message) } := by
  obtain ⟨s', hsend, hwrote, htidy'⟩ := send_wrote hencode hlink hworks htidy
  have hwritten := send_written hencode hlink hworks htidy
  obtain ⟨mailboxes, script, hcompleted⟩ := Peripheral.completed_eq ch.characteristic
    (Chunk.split message) message (ch.emptied (s.link ch.link))
  rw [hsend, hcompleted] at hwritten
  have hstate : s' = _ := congrArg Prod.snd hwritten
  refine ⟨s', hsend, hwrote.length, htidy', mailboxes, script, ?_⟩
  rw [hstate, Scene.link_putLink, if_pos ⟨rfl, hlink⟩]
  rfl

end Channel

namespace Duplex

variable {d : Duplex} {kind : ChannelKind} {c : Command} {s s' s'' : Scene}

/-- The device records what is written, and no message has been begun. -/
structure Writable (d : Duplex) (s : Scene) : Prop where
  link_lt : d.link < s.links.length
  works : Operation.write ∉ (s.link d.link).failing
  tidy : s.Tidy

/-- What the device reads from a message, and the authorization that the message is sealed for. -/
def read (d : Duplex) (message : Bytes) : ChannelKind → Except WireError (Option UInt32 × Command)
  | .general => (Command.decode message).map fun c => (none, c)
  | .user => (Sealed.decode d.shared message).map fun opened => (some opened.1, opened.2)

/-- The command, and the authorization for which the channel seals it. -/
def stamped (d : Duplex) (c : Command) : ChannelKind → Option UInt32 × Command
  | .general => (none, c)
  | .user => (some d.authorization, c)

/-- The command fits into a message. -/
def Fits (c : Command) : ChannelKind → Prop
  | .general => True
  | .user => c.payload.length ≤ 65511

instance (c : Command) (kind : ChannelKind) : Decidable (Fits c kind) := by
  cases kind <;> unfold Fits <;> infer_instance

/-- What comes of sending the command over a link that works. -/
def verdict (kind : ChannelKind) (c : Command) : Except Failure Unit :=
  if Fits c kind then .ok () else .error (.wire (.messageTooLarge (c.payload.length + 24) Sealed.maxSize))

/-- Sends commands one after the other, each over one of the channels, whatever comes of them. -/
def sendAll (d : Duplex) : List (ChannelKind × Command) → Scene → List (Except Failure Unit) × Scene
  | [], s => ([], s)
  | (kind, c) :: sends, s =>
    let (result, s) := (d.channel kind).send c s
    let (results, s) := d.sendAll sends s
    (result :: results, s)

/-- Between the scenes these messages have been recorded, and the chunks of them, each on the characteristic
of a channel. -/
structure Posted (d : Duplex) (posts : List (ChannelKind × Bytes)) (s s' : Scene) : Prop where
  messages : (s'.link d.link).messages.toList =
    (s.link d.link).messages.toList ++ posts.map fun post => (d.characteristic post.1, post.2)
  written : (s'.link d.link).written.toList = (s.link d.link).written.toList ++
    posts.flatMap fun post => (Chunk.split post.2).map fun chunk => (d.characteristic post.1, chunk)

private theorem Posted.trans {posts later : List (ChannelKind × Bytes)} (h : d.Posted posts s s')
    (h' : d.Posted later s' s'') : d.Posted (posts ++ later) s s'' := by
  refine ⟨?_, ?_⟩
  · rw [h'.messages, h.messages, List.map_append, List.append_assoc]
  · rw [h'.written, h.written, List.flatMap_append, List.append_assoc]

private theorem encode_of_fits (d : Duplex) (hfits : Fits c kind) (nonces : Nonces) :
    ∃ message, ((d.codec kind).encode c nonces).1 = .ok message ∧
      d.read message kind = .ok (d.stamped c kind) := by
  cases kind with
  | general =>
    refine ⟨c.encode, rfl, ?_⟩
    rw [read, Command.decode_encode]
    rfl
  | user =>
    have hencode := Sealed.encode_eq d.authorization d.shared c (nonces.draw Sealed.nonceLength).1
    have hlength : c.payload.length ≤ 65511 := hfits
    rw [if_pos hlength, ← Sealed.encodeNext_fst] at hencode
    refine ⟨_, hencode, ?_⟩
    rw [Sealed.encodeNext_fst] at hencode
    rw [read, Sealed.decode_of_encode (Nonces.length_draw ..) hencode]
    rfl

private theorem encode_of_not_fits (d : Duplex) (hfits : ¬ Fits c kind) (nonces : Nonces) :
    ((d.codec kind).encode c nonces).1 =
      .error (.messageTooLarge (c.payload.length + 24) Sealed.maxSize) := by
  cases kind with
  | general => exact absurd trivial hfits
  | user =>
    have hencode := Sealed.encode_eq d.authorization d.shared c (nonces.draw Sealed.nonceLength).1
    have hlength : ¬ c.payload.length ≤ 65511 := hfits
    rw [if_neg hlength, ← Sealed.encodeNext_fst] at hencode
    exact hencode

/-- A command that fits is recorded as one message, and any other not at all. -/
theorem send_posted (h : d.Writable s) (kind : ChannelKind) (c : Command) :
    ∃ s' posts, (d.channel kind).send c s = (verdict kind c, s') ∧ d.Writable s' ∧ d.Posted posts s s' ∧
      posts.map (fun post => (post.1, d.read post.2 post.1)) =
        if Fits c kind then [(kind, .ok (d.stamped c kind))] else [] := by
  rw [verdict]
  by_cases hfits : Fits c kind
  · obtain ⟨message, hencode, hread⟩ := d.encode_of_fits hfits s.nonces
    obtain ⟨s', hsend, hlength, htidy, mailboxes, script, hlink⟩ :=
      (d.channel kind).send_recorded hencode h.link_lt h.works h.tidy
    change s'.link d.link = _ at hlink
    rw [if_pos hfits, if_pos hfits]
    refine ⟨s', [(kind, message)], hsend, ⟨?_, ?_, htidy⟩, ⟨?_, ?_⟩, ?_⟩
    · rw [hlength]
      exact h.link_lt
    · rw [hlink]
      exact h.works
    · rw [hlink]
      simp [channel]
    · rw [hlink]
      simp [channel]
    · simp [hread]
  · have hquiet := (d.channel kind).quiet_readied c s
    obtain ⟨mailboxes, hlink⟩ := (d.channel kind).readied_link c s d.link
    rw [if_neg hfits, if_neg hfits]
    refine ⟨(d.channel kind).readied c s, [], ?_, ⟨?_, ?_, (hquiet.settled h.tidy).1⟩, ⟨?_, ?_⟩, rfl⟩
    · have hencode : ((d.channel kind).codec.encode c s.nonces).1 = _ := d.encode_of_not_fits hfits s.nonces
      rw [Channel.send_eq, hencode]
    · rw [hquiet.length]
      exact h.link_lt
    · rw [hlink]
      exact h.works
    · rw [hlink]
      simp
    · rw [hlink]
      simp

/-- What has been recorded when all commands have been sent reads as those that fit, in the same order. -/
theorem sendAll_posted (sends : List (ChannelKind × Command)) (h : d.Writable s) :
    (d.sendAll sends s).1 = sends.map (fun send => verdict send.1 send.2) ∧
      ∃ posts, d.Posted posts s (d.sendAll sends s).2 ∧
        posts.map (fun post => (post.1, d.read post.2 post.1)) =
          (sends.filter fun send => Fits send.2 send.1).map
            fun send => (send.1, .ok (d.stamped send.2 send.1)) := by
  induction sends generalizing s with
  | nil => exact ⟨rfl, [], ⟨(List.append_nil _).symm, (List.append_nil _).symm⟩, rfl⟩
  | cons send sends ih =>
    obtain ⟨kind, c⟩ := send
    obtain ⟨s', posts, hsend, hwritable, hposted, hread⟩ := d.send_posted h kind c
    obtain ⟨hresults, later, hposted', hread'⟩ := ih hwritable
    rw [sendAll, hsend]
    refine ⟨?_, posts ++ later, hposted.trans hposted', ?_⟩
    · rw [List.map_cons, ← hresults]
    · rw [List.map_append, hread, hread', List.filter_cons]
      by_cases hfits : Fits c kind
      · simp [hfits]
      · simp [hfits]

private theorem read_under {posts : List (ChannelKind × Bytes)} {sends : List (ChannelKind × Command)}
    (h : posts.map (fun post => (post.1, d.read post.2 post.1)) =
      (sends.filter fun send => Fits send.2 send.1).map fun send => (send.1, .ok (d.stamped send.2 send.1)))
    (kind : ChannelKind) :
    (under kind posts).map (fun message => d.read message kind) =
      ((under kind sends).filter fun c => Fits c kind).map fun c => .ok (d.stamped c kind) := by
  have hunder := congrArg (under kind) h
  rw [under_mapValues kind fun message => d.read message,
    under_mapValues kind fun c kind => (Except.ok (d.stamped c kind) : Except WireError _),
    under_filter kind fun c kind => decide (Fits c kind)] at hunder
  exact hunder

private theorem map_injective {ε α β : Type} {f : α → β} (hf : ∀ a b, f a = f b → a = b)
    (first second : Except ε α) (h : first.map f = second.map f) : first = second := by
  cases first with
  | error e =>
    cases second with
    | error e' =>
      cases h
      rfl
    | ok b => cases h
  | ok a =>
    cases second with
    | error e' => cases h
    | ok b => rw [hf a b (Except.ok.inj h)]

private theorem read_general {messages : List Bytes} {commands : List Command}
    (h : messages.map (fun message => d.read message .general) =
      commands.map fun c => .ok (d.stamped c .general)) :
    messages.map Command.decode = commands.map .ok := by
  have hstamp (c c' : Command) (hsame : ((none : Option UInt32), c) = (none, c')) : c = c' :=
    (Prod.mk.inj hsame).2
  apply (List.map_inj_right (map_injective hstamp)).mp
  rw [List.map_map, List.map_map]
  exact h

private theorem read_user {messages : List Bytes} {commands : List Command}
    (h : messages.map (fun message => d.read message .user) =
      commands.map fun c => .ok (d.stamped c .user)) :
    messages.map (Sealed.decode d.shared) = commands.map fun c => .ok (d.authorization, c) := by
  have hstamp (a b : UInt32 × Command) (hsame : (some a.1, a.2) = (some b.1, b.2)) : a = b :=
    Prod.ext (Option.some.inj (Prod.mk.inj hsame).1) (Prod.mk.inj hsame).2
  apply (List.map_inj_right (map_injective hstamp)).mp
  rw [List.map_map, List.map_map]
  exact h

private theorem sendAll_recorded (h : d.Writable s) (sends : List (ChannelKind × Command)) :
    ∃ chunks messages,
      ((d.sendAll sends s).2.link d.link).written.toList = (s.link d.link).written.toList ++ chunks ∧
      ((d.sendAll sends s).2.link d.link).messages.toList = (s.link d.link).messages.toList ++ messages ∧
      chunks = messages.flatMap (fun message => (Chunk.split message.2).map (message.1, ·)) ∧
      (under (d.characteristic .general) messages).map Command.decode = (under .general sends).map .ok ∧
      (under (d.characteristic .user) messages).map (Sealed.decode d.shared) =
        ((under .user sends).filter fun c => c.payload.length ≤ 65511).map fun c => .ok (d.authorization, c) := by
  obtain ⟨-, posts, hposted, hread⟩ := d.sendAll_posted sends h
  have hunder := read_under hread
  have hgeneral := hunder .general
  have heverything : (under .general sends).filter (fun c => decide (Fits c .general)) = under .general sends :=
    List.filter_eq_self.mpr fun c _ => decide_eq_true trivial
  rw [heverything] at hgeneral
  refine ⟨_, _, hposted.written, hposted.messages, ?_, ?_, ?_⟩
  · rw [List.flatMap_map]
  · rw [under_map d.characteristic_injective]
    exact read_general hgeneral
  · rw [under_map d.characteristic_injective]
    exact read_user (hunder .user)

/-- Over the two channels of a link that works every command can be sent, in any order, unless it is to be
sealed and too large. The device records the chunks, each of at most twenty bytes, and the messages they make
up; what it reads on the characteristic of a channel are the commands that were sent over that channel, in
order, and those of the user channel are sealed for its authorization. A command that is too large leaves no
chunk at all, whatever the scene. -/
theorem outbound_transparent (d : Duplex) {s : Scene} (hopen : ∀ kind, (d.channel kind).Open s)
    (hworks : Operation.write ∉ (s.link d.link).failing) (htidy : s.Tidy)
    (sends : List (ChannelKind × Command)) :
    let outcome := d.sendAll sends s
    let before := s.link d.link
    let after := outcome.2.link d.link
    outcome.1 = sends.map (fun send => verdict send.1 send.2) ∧
      (∃ chunks messages, after.written.toList = before.written.toList ++ chunks ∧
        after.messages.toList = before.messages.toList ++ messages ∧
        (∀ chunk ∈ chunks, chunk.2.length ≤ 20) ∧
        chunks = messages.flatMap (fun message => (Chunk.split message.2).map (message.1, ·)) ∧
        (under (d.characteristic .general) messages).map Command.decode = (under .general sends).map .ok ∧
        (under (d.characteristic .user) messages).map (Sealed.decode d.shared) =
          ((under .user sends).filter fun c => c.payload.length ≤ 65511).map
            fun c => .ok (d.authorization, c)) ∧
      ∀ (c : Command) (t : Scene) (size limit : Nat),
        ((d.channel .user).send c t).1 = .error (.wire (.messageTooLarge size limit)) →
        ∀ i, (((d.channel .user).send c t).2.link i).written = (t.link i).written := by
  intro outcome before after
  have hwritable : d.Writable s := ⟨(hopen .general).link_lt, hworks, htidy⟩
  obtain ⟨hresults, -⟩ := d.sendAll_posted sends hwritable
  obtain ⟨chunks, messages, hwritten, hmessages, hsplit, hgeneral, huser⟩ := d.sendAll_recorded hwritable sends
  refine ⟨hresults, ⟨chunks, messages, hwritten, hmessages, ?_, hsplit, hgeneral, huser⟩,
    fun c t size limit h i => Channel.written_of_wire h i⟩
  intro chunk hchunk
  rw [hsplit] at hchunk
  obtain ⟨message, -, hmessage⟩ := List.mem_flatMap.mp hchunk
  obtain ⟨bytes, hbytes, rfl⟩ := List.mem_map.mp hmessage
  exact Chunk.length_le_of_mem_split hbytes

/-- Over a lock a plain command of two chunks and a sealed one are sent in turn. -/
theorem outbound_transparent_twoChunks :
    let long : Command := .of (.known .publicKey) (List.replicate 16 0x11)
    let sends := [(.general, long), (.user, asking), (.general, asking)]
    (∀ kind, (ofLock.channel kind).Open atLock) ∧ Operation.write ∉ (atLock.link ofLock.link).failing ∧
      atLock.Tidy ∧
      ∃ messages, ((ofLock.sendAll sends atLock).2.link ofLock.link).messages.toList = messages ∧
        (under (ofLock.characteristic .general) messages).map Command.decode = [.ok long, .ok asking] ∧
        (under (ofLock.characteristic .user) messages).map (Sealed.decode ofLock.shared) =
          [.ok (7, asking)] := by
  intro long sends
  have hworks : Operation.write ∉ (atLock.link ofLock.link).failing := List.not_mem_nil
  have htidy : atLock.Tidy := by
    intro i u
    cases i <;> rfl
  obtain ⟨-, ⟨chunks, messages, -, hmessages, -, -, hgeneral, huser⟩, -⟩ :=
    outbound_transparent ofLock open_atLock hworks htidy sends
  exact ⟨open_atLock, hworks, htidy, messages, hmessages, hgeneral, huser⟩

/-- The chunks of sends over the two channels may also alternate. As long as those on one characteristic keep their
order, the device records on it the messages that it records of whole sends, so it reads the same commands. -/
theorem interleaved_transparent (d : Duplex) {s : Scene} (hopen : ∀ kind, (d.channel kind).Open s)
    (hworks : Operation.write ∉ (s.link d.link).failing) (htidy : s.Tidy) (sends : List (ChannelKind × Command))
    {chunks schedule : List (Uuid × Bytes)}
    (hchunks : ((d.sendAll sends s).2.link d.link).written.toList = (s.link d.link).written.toList ++ chunks)
    (hschedule : ∀ u, under u schedule = under u chunks) :
    ∃ after messages, (s.link d.link).writeEach schedule = .ok after ∧
      after.written.toList = (s.link d.link).written.toList ++ schedule ∧
      after.messages.toList = (s.link d.link).messages.toList ++ messages ∧
      (under (d.characteristic .general) messages).map Command.decode = (under .general sends).map .ok ∧
      (under (d.characteristic .user) messages).map (Sealed.decode d.shared) =
        ((under .user sends).filter fun c => c.payload.length ≤ 65511).map fun c => .ok (d.authorization, c) := by
  obtain ⟨chunks', whole, hwritten, -, hsplit, hgeneral, huser⟩ :=
    d.sendAll_recorded ⟨(hopen .general).link_lt, hworks, htidy⟩ sends
  obtain ⟨after, messages, hwrite, hwritten', hmessages, hcollect⟩ :=
    (s.link d.link).writeEach_recorded schedule hworks
  have hsame : chunks' = chunks := List.append_cancel_left (hwritten.symm.trans hchunks)
  have hunder (u : Uuid) : under u messages = under u whole := by
    have hcollect' := hcollect u
    have hnothing : (s.link d.link).begun u = {} := htidy d.link u
    rw [hnothing, hschedule, ← hsame, hsplit, under_flatMap, Assembler.collect_messages] at hcollect'
    exact (Prod.mk.inj hcollect').1.symm
  refine ⟨after, messages, hwrite, hwritten', hmessages, ?_, ?_⟩
  · rw [hunder, hgeneral]
  · rw [hunder, huser]

end Duplex

end Latchkey
