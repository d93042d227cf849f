import Latchkey.Proofs.Leftovers

/-!
# Being answered

A device that does not fail answers every message with the next replies of its script. They have arrived by
the time the message has been written, so a wait for one of them is over at once, whatever else is to happen.
-/

namespace Latchkey

/-- The device end of a link that does not fail: on the characteristic nothing has arrived in part, and these
are the arrivals in the inbox and the replies that are left. -/
structure Peripheral.Ready (codec : Codec) (u : Uuid) (exposed : List Uuid) (script : List (List Bytes))
    (inbox : List Arrival) (p : Peripheral) : Prop where
  exposes : p.exposed = exposed
  works : p.failing = []
  replies : p.script = script
  mailbox : p.mailboxes.get? u = some { codec, inbox }

private theorem Peripheral.Ready.completed {codec : Codec} {u : Uuid} {exposed : List Uuid} {replies : List Bytes}
    {script : List (List Bytes)} {inbox : List Arrival} {p : Peripheral}
    (h : p.Ready codec u exposed (replies :: script) inbox) (chunks : List Bytes) (message : Bytes) :
    (p.completed u chunks message).Ready codec u exposed script
      (inbox ++ replies.map fun reply => codec.decode reply) := by
  have hreceiving : Mailbox.Receiving codec { codec, inbox } := ⟨rfl, rfl, fun _ h => nomatch h⟩
  have hfilled := Mailbox.foldl_push_messages { codec, inbox } replies rfl
  rw [completed_of_script u chunks message h.replies]
  refine ⟨h.exposes, h.works, rfl, ?_⟩
  rw [Registry.get?_adjust, if_pos rfl, h.mailbox, Option.map_some, hreceiving.foldl_deliver, hfilled]

namespace Channel

variable {ch : Channel} {exposed : List Uuid} {script : List (List Bytes)} {inbox : List Arrival}
  {s : Scene}

/-- The device at the other end of the channel is ready, no message has been begun, and the caller has not
given up. -/
structure Served (ch : Channel) (exposed : List Uuid) (script : List (List Bytes)) (inbox : List Arrival)
    (s : Scene) : Prop where
  link_lt : ch.link < s.links.length
  ready : (s.link ch.link).Ready ch.codec ch.characteristic exposed script inbox
  tidy : s.Tidy
  waiting : s.cancelled = false

theorem Open.served (h : ch.Open s) (hidle : (ch.unfinished s).pending = 0)
    (hworks : (s.link ch.link).failing = []) (htidy : s.Tidy) (hwaiting : s.cancelled = false) :
    ch.Served (s.link ch.link).exposed (s.link ch.link).script (ch.inbox s) s := by
  have hlink := h.link_lt
  obtain ⟨box, hbox, hreceiving⟩ := h
  have hmailbox : ch.mailbox? s = some box := hbox
  have hnothing : box.assembler = {} := by
    rw [unfinished_of_mailbox hmailbox] at hidle
    exact hreceiving.idle hidle
  refine ⟨hlink, ⟨rfl, hworks, rfl, ?_⟩, htidy, hwaiting⟩
  rw [Channel.inbox, hmailbox, hbox, ← hreceiving.decodes, ← hnothing, ← hreceiving.attached]
  rfl

private theorem served_putLink {p : Peripheral} (hlink : ch.link < s.links.length)
    (hready : p.Ready ch.codec ch.characteristic exposed script inbox) (htidy : (s.putLink ch.link p).Tidy)
    (hwaiting : s.cancelled = false) : ch.Served exposed script inbox (s.putLink ch.link p) := by
  refine ⟨?_, ?_, htidy, hwaiting⟩
  · rw [Scene.length_putLink]
    exact hlink
  · rw [Scene.link_putLink, if_pos ⟨rfl, hlink⟩]
    exact hready

theorem Served.inbox_eq (h : ch.Served exposed script inbox s) : ch.inbox s = inbox := by
  rw [Channel.inbox, mailbox?, h.ready.mailbox]
  rfl

private theorem Served.putInbox (h : ch.Served exposed script inbox s) (rest : List Arrival) :
    ch.Served exposed script rest (ch.putInbox rest s) := by
  apply served_putLink h.link_lt
  · refine ⟨h.ready.exposes, h.ready.works, h.ready.replies, ?_⟩
    rw [Registry.get?_adjust, if_pos rfl, h.ready.mailbox]
    rfl
  · exact ((quiet_putInbox ch rest s).settled h.tidy).1
  · exact h.waiting

/-- When a command has been sent the replies to it are in the inbox, and nothing else is. -/
theorem Served.send {replies : List Bytes} {c : Command} {message : Bytes}
    (h : ch.Served exposed (replies :: script) inbox s)
    (hencode : (ch.codec.encode c s.nonces).1 = .ok message) :
    ∃ s', ch.send c s = (.ok (), s') ∧ ch.Wrote [message] s s' ∧
      s'.nonces = (ch.codec.encode c s.nonces).2 ∧
      ch.Served exposed script (replies.map fun reply => ch.codec.decode reply) s' := by
  have hworks : Operation.write ∉ (s.link ch.link).failing := by
    rw [h.ready.works]
    exact List.not_mem_nil
  have hready := (h.putInbox []).ready
  rw [Channel.putInbox, Scene.link_adjustLink, if_pos ⟨rfl, h.link_lt⟩] at hready
  have hcompleted := hready.completed (Chunk.split message) message
  obtain ⟨s', hsend, hwrote, htidy⟩ := send_wrote hencode h.link_lt hworks h.tidy
  have hwritten := send_written hencode h.link_lt hworks h.tidy
  rw [hsend] at hwritten
  cases hwritten
  exact ⟨_, hsend, hwrote, rfl, served_putLink h.link_lt hcompleted htidy h.waiting⟩

theorem Served.answered {name : CommandName} {c reply : Command} {request message : Bytes}
    (h : ch.Served exposed ([message] :: script) inbox s) (timeout : Span)
    (hencode : (ch.codec.encode c s.nonces).1 = .ok request)
    (hdecode : ch.codec.decode message = .ok reply) (hcarries : reply.Carries (.known name)) :
    ∃ s', ch.Answered timeout c name reply s s' ∧ ch.Wrote [request] s s' ∧
      s'.nonces = (ch.codec.encode c s.nonces).2 ∧ ch.Served exposed script [] s' := by
  obtain ⟨sent, hsend, hwrote, hnonces, hserved⟩ := h.send hencode
  have hinbox : ch.inbox sent = [.ok reply] := by
    rw [hserved.inbox_eq, List.map_singleton, hdecode]
  have hdone : ch.hearFor (.known name) () (.ok reply) = .done (.ok reply) := by
    rw [hearFor, if_pos hcarries]
  have hwait : ch.waitFor (.known name) timeout sent = (.ok reply, ch.putInbox [] sent) := by
    rw [waitFor_eq, listen_arrived timeout hserved.waiting hinbox hdone]
  have hboth := hwrote.trans (wrote_of_quiet ch (quiet_putInbox ch [] sent))
  rw [List.append_nil] at hboth
  exact ⟨ch.putInbox [] sent, ⟨sent, hsend, (waitFor_ok hwait).2, hwait⟩, hboth, hnonces,
    hserved.putInbox []⟩

end Channel

end Latchkey
