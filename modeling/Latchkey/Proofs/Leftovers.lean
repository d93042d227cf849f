import Latchkey.Proofs.Challenges
import Latchkey.Proofs.Subscriptions

/-!
# What a send leaves behind

A send throws away the commands that have arrived, but not the front of one that has arrived in part. What
arrives next is read behind that front, so an exchange begins as on a channel that has just been opened
exactly if nothing has arrived in part.
-/

namespace Latchkey

private theorem Registry.adjust_put {α : Type} {u : Uuid} {value old : α} {change : α → α} {registry : Registry α}
    (hold : registry.get? u = some old) (hchange : change value = change old) :
    (registry.put u value).adjust u change = registry.adjust u change := by
  induction registry with
  | nil => cases hold
  | cons entry registry ih =>
    obtain ⟨v, first⟩ := entry
    rw [get?_cons] at hold
    by_cases huv : u = v
    · rw [if_pos huv] at hold
      cases hold
      simp [put, adjust, huv, hchange]
    · rw [if_neg huv] at hold
      have hrest := ih hold
      simp only [adjust] at hrest
      simp [put, adjust, huv, hrest]

private theorem Peripheral.write_silent {p p' : Peripheral} {u : Uuid} {chunk : Bytes} (hsilent : p.script = [])
    (h : p.write u chunk = .ok p') : p'.mailboxes = p.mailboxes ∧ p'.script = [] := by
  obtain ⟨written, outbound, rfl | ⟨message, rfl⟩⟩ := write_ok h
  · exact ⟨rfl, hsilent⟩
  · simp only [reply, hsilent, and_self]

private theorem Sealed.eq_nil_of_decode {shared : SharedKey} {message : Bytes}
    (h : decode shared message = .error (.tooShort headerLength 0)) : message = [] := by
  rw [decode] at h
  split at h
  · simp only [Except.error.injEq, WireError.tooShort.injEq] at h
    exact List.length_eq_zero_iff.mp h.2
  · dsimp only at h
    split at h
    · simp only [Except.error.injEq, WireError.tooShort.injEq] at h
      exact List.length_eq_zero_iff.mp h.2
    · split at h
      · rw [decodeContent] at h
        dsimp only at h
        repeat' split at h
        all_goals cases h
      · cases h

private theorem Codec.eq_nil_of_decode {codec : Codec} {message : Bytes}
    (h : codec.decode message = codec.decode []) : message = [] := by
  cases codec with
  | plain =>
    rw [decode, decode] at h
    rcases Command.decode_cases message with ⟨-, hdecode⟩ | ⟨-, hdecode⟩ | ⟨c, -, hdecode⟩
    all_goals rw [hdecode] at h
    · have hlength : message.length = 0 := by
        injection h with hwire
        injection hwire with hshort
        injection hshort
      exact List.length_eq_zero_iff.mp hlength
    · cases h
    · cases h
  | sealed authorization shared =>
    have hnil : Sealed.decode shared [] = .error (.tooShort Sealed.headerLength 0) := rfl
    simp only [decode, hnil] at h
    rcases hdecode : Sealed.decode shared message with e | ⟨inner, c⟩
    · rw [hdecode] at h
      cases h
      exact Sealed.eq_nil_of_decode hdecode
    · rw [hdecode] at h
      dsimp only at h
      split at h <;> cases h

private theorem Codec.decode_nil (codec : Codec) : ∃ e, codec.decode [] = .error (.wire e) := by
  cases codec with
  | plain => exact ⟨_, rfl⟩
  | sealed authorization shared => exact ⟨_, rfl⟩

namespace Channel

variable {ch : Channel} {s : Scene}

theorem Open.link_lt (h : ch.Open s) : ch.link < s.links.length := by
  obtain ⟨box, hbox, -⟩ := h
  refine Nat.not_le.mp fun hle => ?_
  rw [Scene.link_of_length_le hle] at hbox
  cases hbox

/-- The message that has arrived in part. -/
def unfinished (ch : Channel) (s : Scene) : Assembler :=
  ((ch.mailbox? s).map Mailbox.assembler).getD {}

theorem unfinished_of_mailbox {box : Mailbox} (h : ch.mailbox? s = some box) :
    ch.unfinished s = box.assembler := by
  rw [unfinished, h]
  rfl

theorem unfinished_opened (hlink : ch.link < s.links.length) : ch.unfinished (ch.opened s) = {} := by
  have hbox : ch.mailbox? (ch.opened s) = some { codec := ch.codec } := by
    rw [mailbox?, opened, Scene.link_adjustLink, if_pos ⟨rfl, hlink⟩, Registry.get?_put, if_pos rfl]
  exact unfinished_of_mailbox hbox

private theorem unfinished_of_pending (hopen : ch.Open s) (hidle : (ch.unfinished s).pending = 0) :
    ch.unfinished s = {} := by
  obtain ⟨box, hbox, hreceiving⟩ := hopen
  rw [unfinished_of_mailbox hbox] at hidle ⊢
  exact hreceiving.idle hidle

/-- The scene in which the channel has just been opened and a message has arrived in part. -/
def resumed (ch : Channel) (assembler : Assembler) (s : Scene) : Scene :=
  s.adjustLink ch.link fun p =>
    { p with mailboxes := p.mailboxes.put ch.characteristic { codec := ch.codec, assembler } }

/-- Of what has arrived before it, a send leaves the message that has arrived in part and nothing else. -/
theorem send_resumed (hopen : ch.Open s) (c : Command) :
    ch.send c s = ch.send c (ch.resumed (ch.unfinished s) s) := by
  obtain ⟨box, hbox, hreceiving⟩ := hopen
  have hcleared : ch.putInbox [] s = ch.putInbox [] (ch.resumed (ch.unfinished s) s) := by
    rw [putInbox, putInbox, resumed, Scene.adjustLink_adjustLink]
    simp only [Scene.adjustLink, Function.comp_apply]
    rw [Registry.adjust_put hbox]
    rw [unfinished_of_mailbox hbox, ← hreceiving.decodes, ← hreceiving.attached]
  rw [← ch.send_putInbox c [] s, hcleared, ch.send_putInbox]

private theorem mailbox?_writeAll (hsilent : (s.link ch.link).script = []) (chunks : List Bytes) :
    ch.mailbox? (ch.writeAll chunks s).2 = ch.mailbox? s := by
  induction chunks generalizing s with
  | nil => rfl
  | cons chunk chunks ih =>
    rw [writeAll, run_bind, Radio.onLink]
    cases hwrite : (s.link ch.link).write ch.characteristic chunk with
    | error e => rfl
    | ok p =>
      obtain ⟨hmailboxes, hscript⟩ := Peripheral.write_silent hsilent hwrite
      have hput : ((s.putLink ch.link p).link ch.link).script = [] ∧
          ch.mailbox? (s.putLink ch.link p) = ch.mailbox? s := by
        rw [mailbox?, mailbox?, Scene.link_putLink]
        split
        · exact ⟨hscript, by rw [hmailboxes]⟩
        · exact ⟨hsilent, rfl⟩
      exact (ih hput.1).trans hput.2

private theorem mailbox?_send (hsilent : (s.link ch.link).script = []) (c : Command) :
    ch.mailbox? (ch.send c s).2 = (ch.mailbox? s).map fun box => { box with inbox := [] } := by
  have hreadied : ch.mailbox? (ch.readied c s) = (ch.mailbox? s).map fun box => { box with inbox := [] } :=
    mailbox?_putInbox ch [] s
  have hscript : ((ch.readied c s).link ch.link).script = [] := by
    change ((ch.putInbox [] s).link ch.link).script = []
    rw [putInbox, Scene.link_adjustLink]
    split
    · exact hsilent
    · exact hsilent
  rw [send_eq]
  cases (ch.codec.encode c s.nonces).1 with
  | error e => exact hreadied
  | ok message => exact (mailbox?_writeAll hscript _).trans hreadied

private theorem inbox_send_arrival (hopen : ch.Open s) (hsilent : (s.link ch.link).script = []) (c : Command)
    (message : Bytes) :
    ch.inbox ((ch.send c s).2.happen (.arrival ch.link ch.characteristic (Chunk.split message))) =
      [ch.codec.decode ((ch.unfinished s).bytes ++ message)] := by
  obtain ⟨box, hbox, hreceiving⟩ := hopen
  have hcleared : ({ box with inbox := [] } : Mailbox).Receiving ch.codec :=
    ⟨hreceiving.attached, hreceiving.decodes, hreceiving.full⟩
  have hreceipts := Mailbox.receipts_split { box with inbox := [] } message []
  rw [List.append_nil] at hreceipts
  rw [inbox, mailbox?_happen, mailbox?_send hsilent, unfinished_of_mailbox hbox, mailbox?, hbox]
  simp only [Option.map_some, Option.getD_some, effect, and_self, if_true]
  rw [hcleared.foldl_deliver, Mailbox.inbox_foldl_push, hreceipts, ← hreceiving.decodes]
  simp [Mailbox.receipts, Mailbox.accounted_arrivals]

section Waiting

variable (hopen : ch.Open s) (hsilent : (s.link ch.link).script = []) (hcancelled : s.cancelled = false)
include hopen hsilent hcancelled

/-- If the device does not answer, the next message decides a wait that comes after the send, even though the
message was begun before it. -/
theorem listen_send_arrival {σ α : Type} {hear : σ → Arrival → Heard σ α} {state : σ} (c : Command)
    (timeout : Span) (message : Bytes) {result : Except Failure α}
    (hdone : hear state (ch.codec.decode ((ch.unfinished s).bytes ++ message)) = .done result) :
    (ch.listen hear timeout state
      ((ch.send c s).2.happen (.arrival ch.link ch.characteristic (Chunk.split message)))).1 =
        (state, result) := by
  have hinbox := inbox_send_arrival hopen hsilent c message
  have hwaiting : ((ch.send c s).2.happen
      (.arrival ch.link ch.characteristic (Chunk.split message))).cancelled = false :=
    (instant_send ch c s).cancelled.trans hcancelled
  rw [listen_arrived timeout hwaiting hinbox hdone]

private theorem wait_send_arrival (c : Command) (timeout : Span) (message : Bytes) :
    (ch.wait timeout
      ((ch.send c s).2.happen (.arrival ch.link ch.characteristic (Chunk.split message)))).1 =
        ch.codec.decode ((ch.unfinished s).bytes ++ message) >>= ch.refuseFault := by
  have hdone : ch.hearNext () (ch.codec.decode ((ch.unfinished s).bytes ++ message)) =
      .done (ch.codec.decode ((ch.unfinished s).bytes ++ message) >>= ch.refuseFault) := by
    cases ch.codec.decode ((ch.unfinished s).bytes ++ message) with
    | ok c => rfl
    | error e => rfl
  rw [wait_eq, listen_send_arrival hopen hsilent hcancelled c timeout message hdone]

end Waiting

private theorem eq_nil_of_refuseFault {message : Bytes}
    (h : (ch.codec.decode message >>= ch.refuseFault) = (ch.codec.decode [] >>= ch.refuseFault)) :
    message = [] := by
  obtain ⟨e, hnil⟩ := ch.codec.decode_nil
  have hsame : ch.codec.decode message = ch.codec.decode [] := by
    rw [hnil] at h ⊢
    cases hdecode : ch.codec.decode message with
    | error e' =>
      rw [hdecode] at h
      exact h
    | ok c =>
      -- What a device reports as a fault is not a malformed message.
      rw [hdecode] at h
      change ch.refuseFault c = .error (.wire e) at h
      rw [refuseFault] at h
      split at h <;> cases h
  exact Codec.eq_nil_of_decode hsame

/-- A send leaves of what has arrived before it the message that has arrived in part and nothing else. It
begins as on a channel that has just been opened if there is no such message, and if the device does not
answer, only then: otherwise there is something that a wait after the send hears in another way. -/
theorem send_clean (hopen : ch.Open s) (c : Command) :
    ch.send c s = ch.send c (ch.resumed (ch.unfinished s) s) ∧
      ((ch.unfinished s).pending = 0 → ch.send c s = ch.send c (ch.opened s)) ∧
      ((s.link ch.link).script = [] → s.cancelled = false →
        ((∀ (chunks : List Bytes) (timeout : Span),
          (ch.wait timeout
            ((ch.send c s).2.happen (.arrival ch.link ch.characteristic chunks))).1 =
          (ch.wait timeout
            ((ch.send c (ch.opened s)).2.happen (.arrival ch.link ch.characteristic chunks))).1) ↔
          (ch.unfinished s).pending = 0)) := by
  have hresumed := send_resumed hopen c
  have hfresh (hidle : (ch.unfinished s).pending = 0) : ch.send c s = ch.send c (ch.opened s) := by
    have hnothing : ch.unfinished s = {} := unfinished_of_pending hopen hidle
    rw [hresumed, hnothing]
    rfl
  refine ⟨hresumed, hfresh, fun hsilent hcancelled => ⟨?_, ?_⟩⟩
  · intro hsame
    have hlink := hopen.link_lt
    have hsilent' : ((ch.opened s).link ch.link).script = [] := by
      rw [opened, Scene.link_adjustLink, if_pos ⟨rfl, hlink⟩]
      exact hsilent
    have hnothing : (ch.unfinished (ch.opened s)).bytes = [] := by
      rw [unfinished_opened hlink]
      rfl
    -- The empty message is the one that tells them apart.
    have hempty := hsame (Chunk.split []) (Span.of 0 0)
    rw [wait_send_arrival hopen hsilent hcancelled,
      wait_send_arrival (open_opened hlink) hsilent' hcancelled, hnothing, List.append_nil,
      List.append_nil] at hempty
    rw [Assembler.pending_eq, eq_nil_of_refuseFault hempty]
    rfl
  · intro hidle chunks timeout
    rw [hfresh hidle]

/-- A send behind twenty bytes of a message. -/
theorem send_clean_unfinished :
    let ch : Channel := ⟨0, Profile.smartLock.general, .smartLock, .plain⟩
    let front : Bytes := List.replicate 20 0x11
    let s := (ch.opened { links := [{ exposed := [Profile.smartLock.general] }] }).happen
      (.arrival 0 ch.characteristic [front])
    ch.Open s ∧ (s.link 0).script = [] ∧ s.cancelled = false ∧ (ch.unfinished s).pending = 20 ∧
      ∃ (chunks : List Bytes) (timeout : Span),
        (ch.wait timeout ((ch.send asking s).2.happen (.arrival 0 ch.characteristic chunks))).1 ≠
        (ch.wait timeout ((ch.send asking (ch.opened s)).2.happen
          (.arrival 0 ch.characteristic chunks))).1 := by
  intro ch front s
  have hopen : ch.Open s :=
    Scene.open_happen (Happening.spares_arrival 0 ch.characteristic [front]) ch (open_opened (by decide))
  have hpending : (ch.unfinished s).pending = 20 := rfl
  obtain ⟨-, -, hclean⟩ := send_clean hopen asking
  have hunclean := mt (hclean rfl rfl).mp (by rw [hpending]; decide)
  obtain ⟨chunks, hchunks⟩ := Classical.not_forall.mp hunclean
  obtain ⟨timeout, htimeout⟩ := Classical.not_forall.mp hchunks
  exact ⟨hopen, rfl, rfl, hpending, chunks, timeout, htimeout⟩

/-- The front of a challenge that nobody had asked for outlasts the request for one, and together with the
rest of it the stale challenge is taken for the answer. -/
theorem stale_challenge_heard :
    let device : Peripheral := { exposed := [Profile.smartLock.general, Profile.smartLock.user] }
    let stale := Command.of (.known .challenge) (List.replicate 32 0x11)
    let front := stale.encode.take 20
    let back := stale.encode.drop 20
    ∃ (ch : Channel) (s : Scene), attach 0 .plain { links := [device] } = (.ok ch, s) ∧
      let answer (s : Scene) := (ch.waitFor (.known .challenge) (Span.of 1 0)
        ((ch.send asking s).2.happen (.arrival ch.link ch.characteristic [back]))).1
      answer (s.happen (.arrival ch.link ch.characteristic [front])) = .ok stale ∧
        answer s = .error (.wire (.badCrc 0x9234 0xD021)) := by
  intro device stale front back
  let ch : Channel := ⟨0, Profile.smartLock.general, .smartLock, .plain⟩
  have hopen : ch.Open (ch.opened { links := [device] }) := open_opened (by decide)
  have hfront : front = [0x04, 0x00] ++ List.replicate 18 0x11 := by decide +kernel
  have hback : back = List.replicate 14 0x11 ++ [0x21, 0xD0] := by decide +kernel
  have hback' : Chunk.split back = [back] := by
    rw [Chunk.split_eq, hback]
    rfl
  refine ⟨ch, ch.opened { links := [device] }, rfl, ?_⟩
  intro answer
  -- A wait ends with what its listener makes of the rest.
  have hanswer {s : Scene} {result : Except Failure Command}
      (h : (ch.listen (ch.hearFor (.known .challenge)) (Span.of 1 0) () ((ch.send asking s).2.happen
        (.arrival ch.link ch.characteristic (Chunk.split back)))).1 = ((), result)) :
      answer s = result := by
    rw [hback'] at h
    simp only [answer, waitFor_eq, h]
  refine ⟨?_, ?_⟩
  · have hbegun : (ch.unfinished ((ch.opened { links := [device] }).happen
        (.arrival ch.link ch.characteristic [front]))).bytes = front := by
      rw [hfront]
      rfl
    have hopen' := Scene.open_happen (Happening.spares_arrival ch.link ch.characteristic [front]) ch hopen
    have hdecode : ch.codec.decode stale.encode = .ok stale := by
      simp only [ch, Codec.decode, Command.decode_encode]
      rfl
    have hcarries : stale.Carries (.known .challenge) := rfl
    have hdone : ch.hearFor (.known .challenge) () (ch.codec.decode (front ++ back)) = .done (.ok stale) := by
      rw [List.take_append_drop, hdecode, hearFor, if_pos hcarries]
    rw [← hbegun] at hdone
    exact hanswer (listen_send_arrival hopen' rfl rfl asking (Span.of 1 0) back hdone)
  · have hcrc : Crc16.checksum (List.replicate 14 0x11) = 0x9234 := by decide +kernel
    have hdecode : Command.decode back = .error (.badCrc 0x9234 0xD021) := by
      rw [hback]
      exact Command.decode_damaged (by decide) hcrc rfl (by decide)
    have hdone : ch.hearFor (.known .challenge) () (ch.codec.decode ([] ++ back)) =
        .done (.error (.wire (.badCrc 0x9234 0xD021))) := by
      simp only [ch, Codec.decode, List.nil_append, hdecode]
      rfl
    exact hanswer (listen_send_arrival hopen rfl rfl asking (Span.of 1 0) back hdone)

end Channel

end Latchkey
