import Latchkey.Proofs.Handshake
import Latchkey.Proofs.Histories

/-!
# Independence of the history

What earlier operations have left in the inboxes of the channels, whether answers, faults or damaged
messages, has no effect on what a client does later: every operation has the same result and writes the same
chunks as if something else had been left there, or nothing.
-/

namespace Latchkey

/-- What an errand comes to. -/
def Errand.Outcome : Errand → Type
  | readConfig | readLogEntryCount _ => Except Failure Command
  | streamLogEntries .. => List LogRecord × Except Failure Unit
  | lockAction _ | openAction _ | lockActionConfirmed _ | setLogging .. | updateTime .. | reboot _ =>
    Except Failure Unit

/-- The errand with what it returns. -/
def Errand.run : (errand : Errand) → Session → errand.Outcome × Session
  | lockAction action => Session.lockAction action
  | openAction action => Session.openAction action
  | lockActionConfirmed action => Session.lockActionConfirmed action
  | readConfig => Session.readConfig
  | setLogging enable pin => Session.setLogging enable pin
  | updateTime time pin => Session.updateTime time pin
  | reboot pin => Session.reboot pin
  | readLogEntryCount pin => Session.readLogEntryCount pin
  | streamLogEntries range pin => Session.streamLogEntries range pin

/-- What an operation comes to. -/
def Call.Outcome : Call → Type
  | pair .. => Except Failure Credentials
  | errand e => e.Outcome
  | readStates => Except Failure Command
  | readLogEntries .. => Except Failure (List LogRecord)
  | connect _ | authenticate _ | close | perform _ => Except Failure Unit

/-- The operation with what it returns. -/
def Call.run : (call : Call) → Session → call.Outcome × Session
  | connect link => Session.connect link
  | authenticate credentials => Session.authenticate credentials
  | pair keys who => Session.pair keys who
  | close => Session.close
  | perform request => Session.perform request
  | errand e => e.run
  | readStates => Session.readStates
  | readLogEntries range pin => Session.readLogEntries range pin

private theorem run_discard {σ α : Type} (m : ExceptT Failure (StateM σ) α) (s : σ) :
    (discard m s).2 = (m s).2 := by
  show ((m >>= fun _ => pure ()) s).2 = (m s).2
  rw [run_bind]
  rcases m s with ⟨e | a, s'⟩
  · rfl
  · rfl

private theorem Call.run_snd (call : Call) (s : Session) : (call.run s).2 = (call.act s).2 := by
  cases call with
  | pair keys who => exact (run_discard _ s).symm
  | readStates => exact (run_discard _ s).symm
  | readLogEntries range pin => exact (run_discard _ s).symm
  | errand errand =>
    cases errand with
    | readConfig => exact (run_discard _ s).symm
    | readLogEntryCount pin => exact (run_discard _ s).symm
    | _ => rfl
  | _ => rfl

/-- From twin sessions an operation has the same result, and it leads to twin sessions. -/
theorem Call.twin_run {first second : Nat → List (Uuid × Bytes)} {s t : Session} (call : Call)
    (h : Session.Resting first second s t) :
    (call.run s).1 = (call.run t).1 ∧ Session.Resting first second (call.run s).2 (call.run t).2 := by
  cases call with
  | connect link => exact Session.parallel_connect link s t h
  | authenticate credentials => exact Session.parallel_authenticate credentials s t h
  | pair keys who => exact Session.parallel_pair keys who s t h
  | close => exact Session.parallel_close s t h
  | perform request => exact (Session.requests_perform request).dialogue.parallel s t h
  | readStates => exact Session.dialogue_readStates.parallel s t h
  | readLogEntries range pin => exact Session.parallel_readLogEntries range pin s t h
  | errand errand =>
    cases errand with
    | lockAction action =>
      exact Session.parallel_action .smartLock
        (fun o challenge => (Request.lockAction action o.app 0 o.suffix challenge).command) s t h
    | openAction action =>
      exact Session.parallel_action .opener
        (fun o challenge => (Request.openAction action o.app 0 o.suffix challenge).command) s t h
    | lockActionConfirmed action => exact Session.parallel_lockActionConfirmed action s t h
    | readConfig => exact Session.requests_readConfig.dialogue.parallel s t h
    | setLogging enable pin => exact (Session.requests_perform _).dialogue.parallel s t h
    | updateTime time pin => exact (Session.requests_perform _).dialogue.parallel s t h
    | reboot pin => exact Session.parallel_reboot pin s t h
    | readLogEntryCount pin => exact (Session.requests_readLogEntryCount pin).dialogue.parallel s t h
    | streamLogEntries range pin => exact Session.twin_streamLogEntries range pin h

namespace Mailbox

/-- No message has arrived in part. -/
def Idle (box : Mailbox) : Prop := box.assembler = {}

end Mailbox

/-- The chunks are those of messages, none of which is cut short. -/
def Chunk.Whole (chunks : List Bytes) : Prop := ∃ messages : List Bytes, chunks = messages.flatMap split

namespace Mailbox

private theorem Idle.deliver {box : Mailbox} (h : box.Idle) {chunks : List Bytes} (hwhole : Chunk.Whole chunks) :
    ∃ inbox, chunks.foldl Mailbox.deliver box = { box with inbox } := by
  obtain ⟨messages, rfl⟩ := hwhole
  by_cases hattached : box.attached = true
  · have hreceiving : box.Receiving box.codec := by
      refine ⟨hattached, rfl, ?_⟩
      rw [h]
      exact fun _ hchunk => absurd hchunk List.not_mem_nil
    rw [hreceiving.foldl_deliver, foldl_push_messages box messages h]
    exact ⟨_, rfl⟩
  · have hdeaf (chunks : List Bytes) : chunks.foldl Mailbox.deliver box = box := by
      induction chunks with
      | nil => rfl
      | cons chunk chunks ih =>
        rw [List.foldl_cons, Mailbox.deliver, if_neg hattached, ih]
    exact ⟨box.inbox, hdeaf _⟩

private theorem idle_postal : Postal Idle Chunk.Whole where
  new _ := rfl
  detach h := h
  taken _ h := h
  delivered hwhole h := by
    obtain ⟨inbox, hfold⟩ := h.deliver hwhole
    rw [hfold]
    exact h
  messages messages := ⟨messages, rfl⟩

end Mailbox

namespace Session

/-- No message is in progress, in neither direction. -/
structure Whole (s : Session) : Prop where
  tidy : s.scene.Tidy
  idle : s.scene.Boxes Mailbox.Idle

/-- The sessions agree in everything but what lies in the inboxes, what has been recorded on the links, and
what channels that are no longer in use have left behind; and no message is in progress. -/
structure Agrees (s t : Session) : Prop where
  options : s.options = t.options
  link : s.link = t.link
  general : s.general = t.general
  user : s.user = t.user
  credentials : s.credentials = t.credentials
  nonces : s.scene.nonces = t.scene.nonces
  length : s.scene.links.length = t.scene.links.length
  device (i : Nat) : (s.scene.link i).Alike (s.Uses i) (t.scene.link i)
  whole : s.Whole ∧ t.Whole

/-- What has been written so far on the links. -/
def written (s : Session) (i : Nat) : List (Uuid × Bytes) := (s.scene.link i).written.toList

private theorem Agrees.begin {s t : Session} (h : s.Agrees t) (cancelAt : Option Nat) (agenda : List Appointment) :
    Resting s.written t.written (s.begin cancelAt agenda) (t.begin cancelAt agenda) := by
  refine ⟨h.options, h.link, h.general, h.user, h.credentials, rfl, rfl, rfl, h.nonces, h.length, ?_⟩
  intro i
  obtain ⟨hs, ht⟩ := h.whole
  refine ⟨h.device i, fun u => ?_, fun _ => False.elim, [], ?_, ?_⟩
  · exact (hs.tidy i u).trans (ht.tidy i u).symm
  · exact (List.append_nil _).symm
  · exact (List.append_nil _).symm

/-- Nothing is in progress after an operation if nothing was before. -/
theorem Whole.call {s : Session} (h : s.Whole) (call : Call) (cancelAt : Option Nat)
    {agenda : List Appointment}
    (hagenda : ∀ appointment ∈ agenda, appointment.happening.Admits Chunk.Whole) :
    (call.act (s.begin cancelAt agenda)).2.Whole := by
  have hsettling : Settling fun s s' : Session => s.scene.Tidy → s'.scene.Tidy :=
    { lasting := ⟨fun _ => id, fun h h' hs => h' (h hs)⟩
      settled := fun h hs => (h hs).1 }
  have htidy := keeps_call hsettling.talkative
    (fun link s hs => ((quiet_scenic.keeps_connect link s).settled hs).1)
    (fun c s hs => ((quiet_scenic.keeps_authenticate c s).settled hs).1)
    (fun s hs => ((quiet_scenic.keeps_close s).settled hs).1) call (s.begin cancelAt agenda) h.tidy
  have hexpects : (s.begin cancelAt agenda).scene.Expects Chunk.Whole :=
    Scene.forall_begin trivial hagenda cancelAt s.scene
  exact ⟨htidy, (posts_call Mailbox.idle_postal call _ hexpects h.idle).2⟩

/-- It makes no difference whether whole messages arrive between two operations. -/
theorem Whole.agrees_arrival {s : Session} (h : s.Whole) (i : Nat) (u : Uuid) {chunks : List Bytes}
    (hchunks : Chunk.Whole chunks) : s.Agrees ((Event.happening (.arrival i u chunks)).apply s) := by
  have htidy := ((Scene.quiet_happen s.scene (.arrival i u chunks)).settled h.tidy).1
  have hidle := h.idle.happen (x := .arrival i u chunks) Mailbox.idle_postal hchunks
  refine ⟨rfl, rfl, rfl, rfl, rfl, rfl, (Scene.length_putLink ..).symm, fun j => ?_, h, htidy, hidle⟩
  show (s.scene.link j).Alike (s.Uses j) ((s.scene.adjustLink i (·.notifyAll u chunks)).link j)
  rw [Scene.link_adjustLink]
  split
  · rw [Peripheral.notifyAll_eq]
    refine ⟨rfl, rfl, rfl, fun v _ => ?_⟩
    rw [Registry.get?_adjust]
    split
    · cases hbox : (s.scene.link j).mailboxes.get? v with
      | none => rfl
      | some box =>
        obtain ⟨inbox, hfold⟩ := Mailbox.Idle.deliver (h.idle j v box hbox) hchunks
        show some box.emptied = some (chunks.foldl Mailbox.deliver box).emptied
        rw [hfold]
        rfl
    · rfl
  · exact ⟨rfl, rfl, rfl, fun _ _ => rfl⟩

end Session

/-- From sessions that agree every operation has the same result, writes the same chunks, and leads to
sessions that agree again, whatever lies in the inboxes. -/
theorem history_independent {s t : Session} (h : s.Agrees t) (call : Call) (cancelAt : Option Nat)
    {agenda : List Appointment}
    (hagenda : ∀ appointment ∈ agenda, appointment.happening.Admits Chunk.Whole) :
    let left := call.run (s.begin cancelAt agenda)
    let right := call.run (t.begin cancelAt agenda)
    left.1 = right.1 ∧
      (∀ i, ∃ chunks, left.2.written i = s.written i ++ chunks ∧
        right.2.written i = t.written i ++ chunks) ∧
      left.2.Agrees right.2 := by
  intro left right
  obtain ⟨hresult, htwin⟩ := call.twin_run (h.begin cancelAt agenda)
  obtain ⟨hs, ht⟩ := h.whole
  have hleft : left.2.Whole := by
    rw [call.run_snd]
    exact hs.call call cancelAt hagenda
  have hright : right.2.Whole := by
    rw [call.run_snd]
    exact ht.call call cancelAt hagenda
  refine ⟨hresult, fun i => (htwin.scene.link i).written, htwin.options, htwin.link, htwin.general,
    htwin.user, htwin.credentials, htwin.scene.nonces, htwin.scene.length, ?_, hleft, hright⟩
  intro i
  exact (htwin.scene.link i).toAlike

/-- A public key that nobody had asked for waits in the inbox when a client is paired. -/
theorem history_independent_beforeLock :
    let keys : KeyPair := ⟨⟨List.replicate 32 1, rfl⟩⟩
    let who : Pairing.Applicant := { kind := .known .app, id := 1, name := "visitor" }
    let stale : Command := .of (.known .publicKey) (List.replicate 32 0xFF)
    let s := Session.beforeLock [] { bytes := [0x55] }
    let t := (Event.happening (.arrival 0 Profile.smartLock.general (Chunk.split stale.encode))).apply s
    s.Agrees t ∧
      (∃ general, s.general = some general ∧ general.inbox s.scene = [] ∧
        general.inbox t.scene = [.ok stale]) ∧
      (Session.pair keys who (s.begin none [])).1 = (Session.pair keys who (t.begin none [])).1 := by
  intro keys who stale s t
  have hunused : Scene.Unused
      { links := [{ exposed := [Profile.smartLock.general, Profile.smartLock.user], script := [] }]
        nonces := { bytes := [0x55] } } := by
    intro p hp
    cases List.mem_singleton.mp hp
    exact ⟨rfl, rfl, rfl, rfl, rfl⟩
  have hnothing : ∀ appointment ∈ ([] : List Appointment), appointment.happening.Admits Chunk.Whole :=
    fun _ hnone => absurd hnone List.not_mem_nil
  have hstart := @Session.sound_start {} _ _ hunused rfl
  have hwhole : s.Whole := Session.Whole.call ⟨hstart.tidy, hunused.boxes⟩ (.connect 0) none hnothing
  have hagrees : s.Agrees t := hwhole.agrees_arrival 0 Profile.smartLock.general ⟨[stale.encode], by simp⟩
  obtain ⟨hresult, -⟩ := history_independent hagrees (.pair keys who) none hnothing
  let general : Channel := ⟨0, Profile.smartLock.general, .smartLock, .plain⟩
  have hinbox : general.inbox t.scene = [.ok stale] := by
    have hempty : general.mailbox? s.scene = some { codec := .plain } := rfl
    have hreceiving := Mailbox.receiving_new .plain
    have hdecode : Codec.plain.decode stale.encode = .ok stale := by
      rw [Codec.decode, Command.decode_encode]
      rfl
    have ht : t.scene = s.scene.happen (.arrival 0 Profile.smartLock.general (Chunk.split stale.encode)) := rfl
    rw [ht, Channel.inbox, Channel.mailbox?_happen, hempty]
    simp only [Channel.effect, general, and_self, if_true, Option.map_some, Option.getD_some]
    rw [hreceiving.foldl_deliver, Mailbox.foldl_push_split]
    simpa [Assembler.bytes] using hdecode
  exact ⟨hagrees, ⟨general, rfl, rfl, hinbox⟩, hresult⟩

end Latchkey
