import Latchkey.Proofs.Chunks
import Latchkey.Proofs.Clocks
import Latchkey.Proofs.Duplexes
import Latchkey.Proofs.Leftovers
import Latchkey.Proofs.Replies

/-!
# What a client hears

While nothing is sent, what the waits over a channel take out and what is then still there are together the
messages that have arrived over this channel, in order. What arrives over the other channel, and who waits
for it, makes no difference.
-/

namespace Latchkey

namespace Chunk

/-- The messages that chunks complete; of the first of them these bytes have arrived before. -/
def joinFrom (begun : Bytes) : List Bytes → List Bytes
  | [] => []
  | chunk :: chunks =>
    if chunk.length = capacity then joinFrom (begun ++ chunk) chunks
    else (begun ++ chunk) :: joinFrom [] chunks

private theorem fst_collect (chunks : List Bytes) (a : Assembler) : (a.collect chunks).1 = joinFrom a.bytes chunks := by
  induction chunks generalizing a with
  | nil => rfl
  | cons chunk chunks ih =>
    rw [joinFrom]
    by_cases hfull : chunk.length = capacity
    · rw [a.collect_full chunks hfull, ih, if_pos hfull, Assembler.bytes_cons]
    · rw [a.collect_last chunks hfull, ih, if_neg hfull]
      rfl

private theorem joinFrom_messages (messages : List Bytes) : joinFrom [] (messages.flatMap split) = messages := by
  have hcollect := fst_collect (messages.flatMap split) {}
  rw [Assembler.collect_messages] at hcollect
  exact hcollect.symm

end Chunk

private theorem Mailbox.inbox_foldl_push_joinFrom (chunks : List Bytes) (box : Mailbox) :
    (chunks.foldl (fun box chunk => box.push chunk) box).inbox =
      box.inbox ++ (Chunk.joinFrom box.assembler.bytes chunks).map fun message => box.codec.decode message := by
  induction chunks generalizing box with
  | nil => exact (List.append_nil _).symm
  | cons chunk chunks ih =>
    rw [List.foldl_cons, ih, Chunk.joinFrom]
    by_cases hfull : chunk.length = Chunk.capacity
    · rw [push_full box hfull, if_pos hfull, Assembler.bytes_cons]
    · rw [push_last box hfull, if_neg hfull, List.map_cons, List.append_assoc]
      rfl

namespace Channel

variable {ch : Channel} {s s' s'' : Scene}

/-- The chunks that a happening brings over the channel. -/
def chunks (ch : Channel) : Happening → List Bytes
  | .arrival i u chunks => if i = ch.link ∧ u = ch.characteristic then chunks else []
  | .cancel | .failure _ _ | .lost _ => []

private theorem effect_of_spares (ch : Channel) (s : Scene) {x : Happening} (hspares : x.Spares) :
    ch.effect s x = fun box => (ch.chunks x).foldl Mailbox.deliver box := by
  cases x with
  | cancel | failure i op => rfl
  | lost i => exact absurd rfl (hspares i)
  | arrival i u chunks =>
    rw [effect, Channel.chunks]
    split <;> rfl

private theorem mailbox?_keepAll (ch : Channel) (later kept : List Appointment) (s : Scene)
    (hspares : ∀ appointment ∈ kept, appointment.happening.Spares) :
    ch.mailbox? (s.keepAll later kept) = (ch.mailbox? s).map fun box =>
      ((kept.map Appointment.happening).flatMap ch.chunks).foldl Mailbox.deliver box := by
  induction kept generalizing s with
  | nil => exact Option.map_id'.symm
  | cons appointment kept ih =>
    rw [List.forall_mem_cons] at hspares
    have hfirst : ch.mailbox? (s.keep appointment (kept ++ later)) = (ch.mailbox? s).map fun box =>
        (ch.chunks appointment.happening).foldl Mailbox.deliver box := by
      rw [Scene.keep, mailbox?_happen, effect_of_spares ch _ hspares.1]
      rfl
    rw [Scene.keepAll, ih _ hspares.2, hfirst, Option.map_map]
    simp only [List.map_cons, List.flatMap_cons, List.foldl_append]
    rfl

/-- Between the scenes these chunks have come into the mailbox of the channel, and these arrivals have been
taken out of it. -/
def Relayed (ch : Channel) (chunks : List Bytes) (taken : List Arrival) (s s' : Scene) : Prop :=
  ∃ box box', ch.mailbox? s = some box ∧ ch.mailbox? s' = some box' ∧
    box'.prepend taken = chunks.foldl Mailbox.deliver box

namespace Relayed

variable {chunks chunks' : List Bytes} {taken taken' : List Arrival}

private theorem refl (hopen : ch.Open s) : ch.Relayed [] [] s s := by
  obtain ⟨box, hbox, -⟩ := hopen
  exact ⟨box, box, hbox, hbox, rfl⟩

private theorem trans (h : ch.Relayed chunks taken s s') (h' : ch.Relayed chunks' taken' s' s'') :
    ch.Relayed (chunks ++ chunks') (taken ++ taken') s s'' := by
  obtain ⟨box, box', hbox, hbox', hrelayed⟩ := h
  obtain ⟨middle, box'', hmiddle, hbox'', hrelayed'⟩ := h'
  rw [hbox'] at hmiddle
  cases hmiddle
  refine ⟨box, box'', hbox, hbox'', ?_⟩
  rw [List.foldl_append, ← hrelayed, Mailbox.foldl_deliver_prepend, ← hrelayed', Mailbox.prepend,
    Mailbox.prepend, Mailbox.prepend, List.append_assoc]

private theorem happen (hopen : ch.Open s) {x : Happening} (hspares : x.Spares) :
    ch.Relayed (ch.chunks x) [] s (s.happen x) := by
  obtain ⟨box, hbox, -⟩ := hopen
  have hbox' : ch.mailbox? s = some box := hbox
  refine ⟨box, (ch.chunks x).foldl Mailbox.deliver box, hbox', ?_, rfl⟩
  rw [mailbox?_happen, effect_of_spares ch s hspares, hbox', Option.map_some]

private theorem of_took (hopen : ch.Open s) (hundisturbed : s.Undisturbed) (h : ch.Took taken s s') :
    ch.Relayed (((s.elapsed s').map Appointment.happening).flatMap ch.chunks) taken s s' := by
  obtain ⟨box, hbox, -⟩ := hopen
  have hbox' : ch.mailbox? s = some box := hbox
  have hkept : ∀ appointment ∈ s.elapsed s', appointment.happening.Spares :=
    fun appointment hmem => hundisturbed appointment (List.mem_of_mem_take hmem)
  have hunheard := mailbox?_keepAll ch s'.agenda (s.elapsed s') s hkept
  rw [← Scene.unheard, hbox', Option.map_some] at hunheard
  rcases h.ahead.mailbox with ⟨box', hafter, hahead⟩ | ⟨-, hnothing, -⟩
  · rw [hunheard] at hahead
    exact ⟨box, box', hbox', hafter, (Option.some.inj hahead).symm⟩
  · rw [hunheard] at hnothing
    cases hnothing

/-- What has been taken out and what is still there are what was there and the messages that the chunks have
completed. -/
theorem inbox (hopen : ch.Open s) (h : ch.Relayed chunks taken s s') :
    taken ++ ch.inbox s' =
      ch.inbox s ++ (Chunk.joinFrom (ch.unfinished s).bytes chunks).map fun message => ch.codec.decode message := by
  obtain ⟨box, hbox, hreceiving⟩ := hopen
  obtain ⟨before, after, hbefore, hafter, hrelayed⟩ := h
  cases hbefore.symm.trans hbox
  have hinbox := congrArg Mailbox.inbox hrelayed
  rw [hreceiving.foldl_deliver, Mailbox.inbox_foldl_push_joinFrom, hreceiving.decodes] at hinbox
  rw [unfinished_of_mailbox hbefore, Channel.inbox, Channel.inbox, hbefore, hafter]
  exact hinbox

end Relayed

end Channel

/-- What a wait returns for an arrival that it takes out. -/
def Arrival.answer (family : Family) : Arrival → Except Failure Command
  | .error e => .error e
  | .ok c =>
    if c.Carries (.known .errorReport) then .error (.device (c.reported family)) else .ok c

namespace Channel

variable {ch : Channel} {s : Scene}

theorem hearNext_eq (ch : Channel) (arrival : Arrival) :
    ch.hearNext () arrival = .done (arrival.answer ch.family) := by
  cases arrival with
  | error e => rfl
  | ok c =>
    rw [hearNext, refuseFault, Command.fault?_eq, Arrival.answer]
    by_cases hreport : c.Carries (.known .errorReport)
    · rw [if_pos hreport, if_pos hreport]
    · rw [if_neg hreport, if_neg hreport]

private theorem eq_nil_of_hears_next {heard : List Arrival} {final : Unit} (h : Hears ch.hearNext () heard final) :
    heard = [] := by
  cases h with
  | nil => rfl
  | skip hskip _ =>
    rw [hearNext_eq] at hskip
    cases hskip
  | more hmore _ =>
    rw [hearNext_eq] at hmore
    cases hmore

/-- A wait over an open channel takes one arrival out and returns what this says, or takes out nothing and
ends in vain, in which case there is nothing to be taken out unless the caller had given up. -/
theorem wait_cases (timeout : Span) (hopen : ch.Open s) (hundisturbed : s.Undisturbed) :
    let outcome := ch.wait timeout s
    (∃ arrival, outcome.1 = arrival.answer ch.family ∧ ch.Took [arrival] s outcome.2) ∨
      outcome.1 = .error (if outcome.2.cancelled then .cancelled else tooLate timeout) ∧
        ch.Took [] s outcome.2 ∧ ((s.cancelled = true → ch.inbox s = []) → ch.inbox outcome.2 = []) := by
  intro outcome
  have houtcome : outcome = _ := ch.wait_eq timeout s
  have hstill := (ch.steady_listen ch.hearNext timeout () s hundisturbed).2 ch hopen
  obtain ⟨heard, hhears, hends⟩ := ch.settles_listen ch.hearNext timeout () s
  cases eq_nil_of_hears_next hhears
  rw [houtcome]
  rcases hends with ⟨arrival, hdone, -, htook⟩ | ⟨hvain, htook, hempty, -⟩
  · rw [hearNext_eq] at hdone
    injection hdone with hanswer
    exact .inl ⟨arrival, hanswer.symm, htook⟩
  · rw [silence_of_open timeout hstill] at hvain
    exact .inr ⟨hvain, htook, hempty⟩

/-- Of what is delivered by its end, a wait takes out the first, and it ends in vain only if there is
nothing; who has given up takes out nothing. -/
structure Attends (ch : Channel) (timeout : Span) (s : Scene) (outcome : Except Failure Command × Scene) :
    Prop where
  cancelled : s.cancelled = true → outcome = (.error .cancelled, s)
  silent : s.cancelled = false → ch.delivered s outcome.2 = [] →
    outcome.1 = .error (if outcome.2.cancelled then .cancelled else tooLate timeout) ∧ ch.inbox outcome.2 = []
  heard (first : Arrival) (rest : List Arrival) : s.cancelled = false →
    ch.delivered s outcome.2 = first :: rest →
    outcome.1 = first.answer ch.family ∧ ch.inbox outcome.2 = rest

private theorem attends_wait (timeout : Span) (hopen : ch.Open s) (hundisturbed : s.Undisturbed) :
    ch.Attends timeout s (ch.wait timeout s) := by
  have hcases := wait_cases timeout hopen hundisturbed
  refine ⟨fun hcancelled => ?_, fun hwaiting hnothing => ?_, fun first rest hwaiting hfirst => ?_⟩
  · rw [wait_eq, listen_cancelled ch ch.hearNext timeout () hcancelled]
  · rcases hcases with ⟨arrival, -, htook⟩ | ⟨hvain, htook, -⟩
    · rw [htook.delivered] at hnothing
      cases hnothing
    · rw [htook.delivered] at hnothing
      exact ⟨hvain, hnothing⟩
  · rcases hcases with ⟨arrival, hanswer, htook⟩ | ⟨-, htook, hempty⟩
    · rw [htook.delivered] at hfirst
      cases hfirst
      exact ⟨hanswer, rfl⟩
    · rw [htook.delivered, hempty fun hcancelled => absurd (hwaiting.symm.trans hcancelled) Bool.false_ne_true]
        at hfirst
      cases hfirst

end Channel

/-- What is done with the channels of a link and what happens meanwhile. -/
inductive Turn where
  | happening (happening : Happening)
  /-- A wait over one of the channels with what happens during it. -/
  | wait (kind : ChannelKind) (timeout : Span) (cancelAt : Option Nat) (agenda : List Appointment)

/-- A turn in which no link is lost. -/
def Turn.Spares : Turn → Prop
  | happening x => x.Spares
  | wait _ _ _ agenda => ∀ appointment ∈ agenda, appointment.happening.Spares

/-- What has come of turns. -/
structure Played where
  /-- What has happened, between the waits and during them. -/
  happened : List Happening
  results : List (ChannelKind × Except Failure Command)
  scene : Scene

/-- What a wait has taken out, if anything, and what it has returned. -/
structure Wait where
  taken : Option Arrival
  result : Except Failure Command

/-- The wait has returned what it has taken out, or it was given up or in vain. -/
def Wait.Fair (family : Family) (wait : Wait) : Prop :=
  match wait.taken with
  | some arrival => wait.result = arrival.answer family
  | none => wait.result = .error .cancelled ∨ ∃ timeout, wait.result = .error (Channel.tooLate timeout)

namespace Duplex

variable {d : Duplex} {s : Scene}

/-- Takes the turns one after the other. What was to happen later than the end of a wait does not happen. -/
def play (d : Duplex) : List Turn → Scene → Played
  | [], s => ⟨[], [], s⟩
  | .happening x :: turns, s =>
    let later := d.play turns (s.happen x)
    { later with happened := x :: later.happened }
  | .wait kind timeout cancelAt agenda :: turns, s =>
    let begun := s.begin cancelAt agenda
    let (result, s) := (d.channel kind).wait timeout begun
    let later := d.play turns s
    { later with
      happened := (begun.elapsed s).map Appointment.happening ++ later.happened
      results := (kind, result) :: later.results }

private theorem wait_relayed (d : Duplex) (kind : ChannelKind) (timeout : Span)
    (hopen : ∀ kind, (d.channel kind).Open s) (hundisturbed : s.Undisturbed) :
    ∃ wait : Wait, ((d.channel kind).wait timeout s).1 = wait.result ∧ wait.Fair (d.family kind) ∧
      ∀ other, (d.channel other).Relayed
        (((s.elapsed ((d.channel kind).wait timeout s).2).map Appointment.happening).flatMap
          (d.channel other).chunks)
        ((under other [(kind, wait)]).filterMap Wait.taken) s ((d.channel kind).wait timeout s).2 := by
  have htook : ∃ wait : Wait, ((d.channel kind).wait timeout s).1 = wait.result ∧ wait.Fair (d.family kind) ∧
      (d.channel kind).Took wait.taken.toList s ((d.channel kind).wait timeout s).2 := by
    rcases (d.channel kind).wait_cases timeout (hopen kind) hundisturbed with
      ⟨arrival, hanswer, htook⟩ | ⟨hvain, htook, -⟩
    · exact ⟨⟨some arrival, _⟩, hanswer, rfl, htook⟩
    · refine ⟨⟨none, _⟩, hvain, ?_, htook⟩
      dsimp only [Wait.Fair]
      split
      · exact .inl rfl
      · exact .inr ⟨timeout, rfl⟩
  obtain ⟨wait, hresult, hfair, htook⟩ := htook
  refine ⟨wait, hresult, hfair, fun other => ?_⟩
  apply Channel.Relayed.of_took (hopen other) hundisturbed
  by_cases hother : kind = other
  · subst hother
    have htaken : (under kind [(kind, wait)]).filterMap Wait.taken = wait.taken.toList := by
      rw [under_cons, if_pos rfl]
      cases htaken : wait.taken <;> simp [under, htaken]
    rw [htaken]
    exact htook
  · have hapart : (d.channel other).characteristic ≠ (d.channel kind).characteristic :=
      fun hsame => hother (d.characteristic_injective other kind hsame).symm
    have hnothing : (under other [(kind, wait)]).filterMap Wait.taken = [] := by
      rw [under_cons, if_neg hother]
      rfl
    rw [hnothing, Channel.wait_eq]
    exact Channel.took_listen_apart hapart _ timeout () s

/-- Over all turns each mailbox has been given the chunks of its own characteristic, and it is the waits over
its own channel that have taken out of it what has been taken out. -/
theorem play_relayed (d : Duplex) (turns : List Turn) (hopen : ∀ kind, (d.channel kind).Open s)
    (hspares : ∀ turn ∈ turns, turn.Spares) :
    ∃ waits : List (ChannelKind × Wait),
      (d.play turns s).results = waits.map (fun wait => (wait.1, wait.2.result)) ∧
      (∀ wait ∈ waits, wait.2.Fair (d.family wait.1)) ∧
      ∀ kind, (d.channel kind).Relayed ((d.play turns s).happened.flatMap (d.channel kind).chunks)
        ((under kind waits).filterMap Wait.taken) s (d.play turns s).scene := by
  induction turns generalizing s with
  | nil => exact ⟨[], rfl, fun _ h => absurd h List.not_mem_nil, fun kind => .refl (hopen kind)⟩
  | cons turn turns ih =>
    rw [List.forall_mem_cons] at hspares
    cases turn with
    | happening x =>
      have hopen' (kind : ChannelKind) := Scene.open_happen hspares.1 _ (hopen kind)
      obtain ⟨waits, hresults, hfair, hrelayed⟩ := ih hopen' hspares.2
      exact ⟨waits, hresults, hfair, fun kind =>
        (Channel.Relayed.happen (hopen kind) hspares.1).trans (hrelayed kind)⟩
    | wait kind timeout cancelAt agenda =>
      have hundisturbed := Scene.undisturbed_begin hspares.1 cancelAt s
      obtain ⟨wait, hresult, hfair, hrelayed⟩ :=
        d.wait_relayed kind timeout (s := s.begin cancelAt agenda) hopen hundisturbed
      have hopen' (other : ChannelKind) :
          (d.channel other).Open ((d.channel kind).wait timeout (s.begin cancelAt agenda)).2 := by
        rw [Channel.wait_eq]
        exact ((d.channel kind).steady_listen _ timeout () _ hundisturbed).2 _ (hopen other)
      obtain ⟨waits, hresults, hfair', hrelayed'⟩ := ih hopen' hspares.2
      refine ⟨(kind, wait) :: waits, ?_, ?_, fun other => ?_⟩
      · exact congrArg₂ (fun result results => (kind, result) :: results) hresult hresults
      · rw [List.forall_mem_cons]
        exact ⟨hfair, hfair'⟩
      · have hboth := (hrelayed other).trans (hrelayed' other)
        rw [← List.flatMap_append, ← List.filterMap_append, ← under_append] at hboth
        exact hboth

/-- Whatever arrives over the two channels of a link and however it is waited for meanwhile: the arrivals that
the waits over one of the channels take out and those that are then still there are those that were there and
what the messages open to that the chunks on the characteristic of this channel complete, in order. A wait
returns what it takes out, where an error report is the fault that it reports; a wait for which nothing is
there takes out nothing, and neither does one that is given up. By a clock there is a wait if the clock can show when
the time is up, and otherwise there is none. -/
theorem inbound_fifo (d : Duplex) {s : Scene} (hopen : ∀ kind, (d.channel kind).Open s) (turns : List Turn)
    (hspares : ∀ turn ∈ turns, turn.Spares) :
    let played := d.play turns s
    (∃ waits : List (ChannelKind × Wait),
      played.results = waits.map (fun wait => (wait.1, wait.2.result)) ∧
      (∀ wait ∈ waits, wait.2.Fair (d.family wait.1)) ∧
      ∀ kind,
        let ch := d.channel kind
        (under kind waits).filterMap Wait.taken ++ ch.inbox played.scene =
          ch.inbox s ++ (Chunk.joinFrom (ch.unfinished s).bytes (played.happened.flatMap ch.chunks)).map
            fun message => (d.codec kind).decode message) ∧
    ∀ (kind : ChannelKind) (timeout : Span) (t : Scene), (d.channel kind).Open t → t.Undisturbed →
      (d.channel kind).Attends timeout t ((d.channel kind).wait timeout t) ∧
        ∀ r : ClockReading, (d.channel kind).waitBy? r timeout t =
          if r.total + timeout.nanoseconds < ClockReading.limit then some ((d.channel kind).wait timeout t)
          else none := by
  intro played
  obtain ⟨waits, hresults, hfair, hrelayed⟩ := d.play_relayed turns hopen hspares
  refine ⟨⟨waits, hresults, hfair, fun kind => (hrelayed kind).inbox (hopen kind)⟩, ?_⟩
  intro kind timeout t hopen' hundisturbed
  exact ⟨Channel.attends_wait timeout hopen' hundisturbed, fun r => (d.channel kind).waitBy?_eq r timeout t⟩

/-- A lock sends a message of two chunks over the general characteristic and an empty one over the other in
between, and both are waited for. -/
theorem inbound_fifo_interleaved :
    let long : Command := .of (.known .publicKey) (List.replicate 16 0x11)
    let turns : List Turn := [
      .happening (.arrival 0 (ofLock.characteristic .general) [long.encode]),
      .happening (.arrival 0 (ofLock.characteristic .user) [[]]),
      .wait .user (Span.of 1 0) none [],
      .happening (.arrival 0 (ofLock.characteristic .general) [[]]),
      .wait .general (Span.of 1 0) none []]
    let played := ofLock.play turns atLock
    (∀ kind, (ofLock.channel kind).Open atLock) ∧ (∀ turn ∈ turns, turn.Spares) ∧
      ∃ waits : List (ChannelKind × Wait),
        played.results = waits.map (fun wait => (wait.1, wait.2.result)) ∧
        (∀ wait ∈ waits, wait.2.Fair .smartLock) ∧
        (under .general waits).filterMap Wait.taken ++ (ofLock.channel .general).inbox played.scene =
          [.ok long] ∧
        (under .user waits).filterMap Wait.taken ++ (ofLock.channel .user).inbox played.scene =
          [.error (.wire (.tooShort Sealed.headerLength 0))] := by
  intro long turns played
  have hspares : ∀ turn ∈ turns, turn.Spares := by
    simp only [turns, List.forall_mem_cons, List.not_mem_nil, false_implies, implies_true, and_true,
      Turn.Spares, Happening.spares_arrival]
  have helapsed (s s' : Scene) : (s.begin none []).elapsed s' = [] :=
    Scene.elapsed_of_nil s.agenda_begin_nil s'
  have hhappened : played.happened = [
      .arrival 0 (ofLock.characteristic .general) [long.encode],
      .arrival 0 (ofLock.characteristic .user) [[]],
      .arrival 0 (ofLock.characteristic .general) [[]]] := by
    simp only [played, turns, play, helapsed, List.map_nil, List.nil_append]
    rfl
  obtain ⟨⟨waits, hresults, hfair, harrivals⟩, -⟩ := inbound_fifo ofLock open_atLock turns hspares
  refine ⟨open_atLock, hspares, waits, hresults, hfair, ?_, ?_⟩
  · have hlength : long.encode.length = Chunk.capacity := by
      rw [Command.length_encode]
      rfl
    have hdecode : (ofLock.codec .general).decode long.encode = .ok long := by
      simp only [Codec.decode, codec, Command.decode_encode]
      rfl
    have hsplit : [long.encode].flatMap Chunk.split = [long.encode, []] := by
      rw [List.flatMap_singleton, Chunk.split_eq, if_neg (Nat.not_lt.mpr (Nat.le_of_eq hlength.symm)),
        List.take_of_length_le (Nat.le_of_eq hlength), List.drop_of_length_le (Nat.le_of_eq hlength),
        Chunk.split_eq]
      rfl
    have hchunks : played.happened.flatMap (ofLock.channel .general).chunks =
        [long.encode].flatMap Chunk.split := by
      rw [hhappened, hsplit]
      rfl
    have hbegun : ((ofLock.channel .general).unfinished atLock).bytes = [] := rfl
    refine (harrivals .general).trans ?_
    rw [hchunks, hbegun, Chunk.joinFrom_messages, List.map_singleton, hdecode]
    rfl
  · have hchunks : played.happened.flatMap (ofLock.channel .user).chunks = [[]] := by
      rw [hhappened]
      rfl
    refine (harrivals .user).trans ?_
    rw [hchunks]
    rfl

end Duplex

end Latchkey
