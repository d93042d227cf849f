import Latchkey.Proofs.Confirmations
import Latchkey.Proofs.Layouts
import Latchkey.Proofs.Turns

/-!
# Streaming the log

A stream of log entries hands on the entries one by one as they are delivered, and ends at the first arrival that
is none. Whatever this arrival is, all entries before it have been handed on, and nothing behind it is. A caller who
gives up over an entry is handed no other.
-/

namespace Latchkey

namespace Arrival

/-- The arrival is an entry of the log with all its fields. -/
def IsEntry : Arrival → Prop
  | .ok c => c.Carries (.known .logEntry) ∧ 48 ≤ c.payload.length
  | .error _ => False

instance (arrival : Arrival) : Decidable arrival.IsEntry :=
  match arrival with
  | .ok c => inferInstanceAs (Decidable (c.Carries (.known .logEntry) ∧ 48 ≤ c.payload.length))
  | .error _ => inferInstanceAs (Decidable False)

/-- How a stream ends at an arrival that is no such entry. -/
def ending (family : Family) : Arrival → Except Failure Unit
  | .error e => .error e
  | .ok c =>
    if c.Carries (.known .status) then .ok ()
    else if c.Carries (.known .errorReport) then .error (.device (c.reported family))
    else if c.Carries (.known .logEntry) then .error (.wire (.tooShort 48 c.payload.length))
    else .error (.unexpectedResponse "LogEntry or Status" c.id)

private theorem ending_ok_iff {family : Family} {arrival : Arrival} :
    arrival.ending family = .ok () ↔ ∃ c, arrival = .ok c ∧ c.Carries (.known .status) := by
  cases arrival with
  | error e => exact ⟨nofun, nofun⟩
  | ok c =>
    rw [ending]
    constructor
    · intro h
      split at h
      · exact ⟨c, rfl, ‹_›⟩
      · split at h
        · cases h
        · split at h <;> cases h
    · rintro ⟨c', hsame, hstatus⟩
      cases hsame
      rw [if_pos hstatus]

end Arrival

/-- What a stream makes of these arrivals: the records are those of the entries in front, in order, and it ends
as the arrival behind them has it; `late` is what goes wrong when nothing else arrives. -/
structure Streams (family : Family) (late : Failure) (arrivals : List Arrival)
    (outcome : List LogRecord × Except Failure Unit) : Prop where
  commands : outcome.1.map (fun record => .ok record.command) =
    arrivals.takeWhile fun arrival => arrival.IsEntry
  entries : ∀ record ∈ outcome.1, LogEntry.layout.read record.command = .ok record.entry
  ending : outcome.2.mapError Failure.root =
    match arrivals[outcome.1.length]? with
    | none => .error late
    | some arrival => arrival.ending family

private theorem Streams.ok_iff {family : Family} {late : Failure} {arrivals : List Arrival}
    {outcome : List LogRecord × Except Failure Unit} (h : Streams family late arrivals outcome) :
    outcome.2 = .ok () ↔ ∃ c, arrivals[outcome.1.length]? = some (.ok c) ∧ c.Carries (.known .status) := by
  rw [← Act.mapError_ok_iff, h.ending]
  cases arrivals[outcome.1.length]? with
  | none => exact ⟨nofun, nofun⟩
  | some arrival => simp only [Arrival.ending_ok_iff, Option.some.injEq]

namespace Session

/-- What is returned of the way in which listening for entries has ended. -/
def streamed : Except Failure (Except Failure Unit) → Except Failure Unit
  | .ok result => result
  | .error e => .error (.during "waiting for log entry" e)

variable {user : Channel} {records final : List LogRecord} {arrival : Arrival}

/-- Who gathers entries takes those that can be read and stops at everything else. -/
theorem hearEntry_cases (user : Channel) (records : List LogRecord) (hlegible : arrival.Legible) :
    (arrival.IsEntry ∧ ∃ record : LogRecord, arrival = .ok record.command ∧
        LogEntry.layout.read record.command = .ok record.entry ∧
        hearEntry user records arrival = .more (records ++ [record])) ∨
      ¬ arrival.IsEntry ∧ ∃ result, hearEntry user records arrival = .done result ∧
        (streamed result).mapError Failure.root = arrival.ending user.family := by
  cases arrival with
  | error e =>
    have hroot : (Failure.during "waiting for log entry" e).root = e := (hlegible e rfl).root
    exact .inr ⟨id, .error e, rfl, congrArg Except.error hroot⟩
  | ok c =>
    rw [hearEntry, Channel.refuseFault, Command.fault?_eq, Arrival.ending]
    by_cases hreport : c.Carries (.known .errorReport)
    · rw [if_pos hreport, if_neg (hreport.excludes (by decide)), if_pos hreport]
      refine .inr ⟨fun hentry => hreport.excludes (by decide) hentry.1, _, rfl, rfl⟩
    rw [if_neg hreport, if_neg hreport]
    dsimp only
    by_cases hentry : c.Carries (.known .logEntry)
    · rw [Command.id_eq_iff.mpr hentry, if_neg (hentry.excludes (by decide)), if_pos hentry]
      rcases LogEntry.read_cases hentry with ⟨hlong, entry, hread⟩ | ⟨hshort, hread⟩
      · rw [hread]
        exact .inl ⟨⟨hentry, hlong⟩, ⟨c, entry⟩, rfl, hread, rfl⟩
      · rw [hread]
        exact .inr ⟨fun h => Nat.not_le.mpr hshort h.2, _, rfl, rfl⟩
    have hnone : ¬ Arrival.IsEntry (.ok c) := fun h => hentry h.1
    rw [if_neg hentry]
    by_cases hstatus : c.Carries (.known .status)
    · rw [Command.id_eq_iff.mpr hstatus, if_pos hstatus]
      exact .inr ⟨hnone, _, rfl, rfl⟩
    · rw [if_neg hstatus]
      split
      · exact absurd (Command.id_eq_iff.mp ‹_›) hentry
      · exact absurd (Command.id_eq_iff.mp ‹_›) hstatus
      · exact .inr ⟨hnone, _, rfl, rfl⟩

private theorem gathered_of_hears {heard : List Arrival} (hlegible : ∀ arrival ∈ heard, arrival.Legible)
    (h : Hears (hearEntry user) records heard final) :
    (∀ arrival ∈ heard, arrival.IsEntry) ∧ ∃ gathered : List LogRecord, final = records ++ gathered ∧
      gathered.map (fun record => .ok record.command) = heard ∧
      ∀ record ∈ gathered, LogEntry.layout.read record.command = .ok record.entry := by
  induction h with
  | nil state =>
    exact ⟨fun _ h => absurd h List.not_mem_nil, [], (List.append_nil state).symm, rfl,
      fun _ h => absurd h List.not_mem_nil⟩
  | @skip state final arrival arrivals heard rest ih =>
    rcases hearEntry_cases user state (hlegible arrival List.mem_cons_self) with
      ⟨-, record, -, -, hmore⟩ | ⟨-, result, hdone, -⟩
    · rw [heard] at hmore
      cases hmore
    · rw [heard] at hdone
      cases hdone
  | @more state next final arrival arrivals heard rest ih =>
    rw [List.forall_mem_cons] at hlegible
    obtain ⟨hall, gathered, hfinal, hcommands, hentries⟩ := ih hlegible.2
    rcases hearEntry_cases user state hlegible.1 with
      ⟨hentry, record, harrival, hread, hmore⟩ | ⟨-, result, hdone, -⟩
    · rw [heard] at hmore
      injection hmore with hnext
      refine ⟨List.forall_mem_cons.mpr ⟨hentry, hall⟩, record :: gathered, ?_, ?_,
        List.forall_mem_cons.mpr ⟨hread, hentries⟩⟩
      · rw [hfinal, hnext, List.append_assoc, List.singleton_append]
      · rw [List.map_cons, hcommands, harrival]
    · rw [heard] at hdone
      cases hdone

private theorem streams_of_gathered {family : Family} {late : Failure} {heard rest : List Arrival}
    {outcome : List LogRecord × Except Failure Unit} (hall : ∀ arrival ∈ heard, arrival.IsEntry)
    (hcommands : outcome.1.map (fun record => .ok record.command) = heard)
    (hentries : ∀ record ∈ outcome.1, LogEntry.layout.read record.command = .ok record.entry)
    (hstop : ∀ arrival ∈ rest.head?, ¬ arrival.IsEntry)
    (hending : outcome.2.mapError Failure.root =
      match rest.head? with
      | none => .error late
      | some arrival => arrival.ending family) : Streams family late (heard ++ rest) outcome := by
  have hlength : outcome.1.length = heard.length := by rw [← hcommands, List.length_map]
  have hnext : (heard ++ rest)[outcome.1.length]? = rest.head? := by
    rw [hlength, List.getElem?_append_right (Nat.le_refl _), Nat.sub_self, List.head?_eq_getElem?]
  have hnone : rest.takeWhile (fun arrival => arrival.IsEntry) = [] := by
    cases rest with
    | nil => rfl
    | cons arrival rest =>
      have hfirst : ¬ arrival.IsEntry := hstop arrival rfl
      rw [List.takeWhile_cons, decide_eq_false hfirst]
      rfl
  refine ⟨?_, hentries, ?_⟩
  · rw [List.takeWhile_append_of_pos fun arrival hmem => decide_eq_true (hall arrival hmem), hnone,
      List.append_nil, hcommands]
  · rw [hnext, hending]

private theorem next_of_hearEntry (h : hearEntry user records arrival = .more final) :
    ∃ record : LogRecord, final = records ++ [record] := by
  cases arrival with
  | error e => cases h
  | ok c =>
    rw [hearEntry] at h
    split at h
    · cases h
    · split at h
      · split at h
        · cases h
          exact ⟨_, rfl⟩
        · cases h
      · cases h
      · cases h

private theorem prefix_of_hears {heard : List Arrival} (h : Hears (hearEntry user) records heard final) :
    records <+: final := by
  induction h with
  | nil state => exact List.prefix_rfl
  | skip judged rest ih => exact ih
  | more judged rest ih =>
    obtain ⟨record, rfl⟩ := next_of_hearEntry judged
    exact (List.prefix_append _ _).trans ih

private theorem prefix_of_listenOn (user : Channel) (timeout : Span) (records : List LogRecord) (deadline : Nat)
    (s : Scene) : records <+: (user.listenOn (hearEntry user) timeout s.agenda records deadline s).1.1 := by
  have hsettles : user.Settles (hearEntry user) timeout 0 records s
      (user.listenOn (hearEntry user) timeout s.agenda records deadline s) :=
    Channel.settles_listenOn s.agenda rfl (Nat.zero_le _) (Nat.zero_le _) fun _ _ => Nat.zero_le _
  obtain ⟨heard, hhears, -⟩ := hsettles
  exact prefix_of_hears hhears

/-- What a caller does who gives up over the entry that makes this number full. -/
def abandon (count : Nat) (records : List LogRecord) (s : Scene) : Scene :=
  if records.length = count then s.happen .cancel else s

private theorem deliveries_abandon (ch : Channel) (count : Nat) (records : List LogRecord) (s : Scene) :
    ch.deliveries (abandon count records s) = ch.deliveries s := by
  rw [abandon]
  split
  · have hsame : ch.Ahead [] (s.happen .cancel) s := ⟨rfl, rfl, rfl, (Channel.Ahead.refl ch s).mailbox⟩
    exact hsame.deliveries
  · rfl

/-- A caller who gives up over an entry is handed the entries up to it and no other, whatever has arrived, and is
told so; a caller who does not come to give up is handed what anybody is handed. -/
theorem abandoned_of_turns {timeout : Span} {count deadline : Nat} {s : Scene} {heard : List Arrival}
    {outcome : (List LogRecord × Except Failure (Except Failure Unit)) × Scene} (hfew : records.length < count)
    (h : user.Turns (hearEntry user) (abandon count) timeout records deadline s heard outcome) :
    let whole := user.listenOn (hearEntry user) timeout s.agenda records deadline s
    (whole.1.1.length < count ∧ outcome = whole) ∨
      count ≤ whole.1.1.length ∧ outcome.1 = (whole.1.1.take count, .error .cancelled) := by
  dsimp only
  induction h with
  | ended taken =>
    rw [Channel.listenOn_recv, taken]
    exact .inl ⟨hfew, rfl⟩
  | skip taken judged rest ih =>
    rw [Channel.listenOn_recv, taken]
    dsimp only
    rw [judged]
    exact ih hfew
  | @more records next deadline s s' arrival heard outcome taken judged rest ih =>
    obtain ⟨record, rfl⟩ := next_of_hearEntry judged
    rw [Channel.listenOn_recv, taken]
    dsimp only
    rw [judged]
    rw [List.length_append, List.length_singleton] at ih
    by_cases hfull : (records ++ [record]).length = count
    · have habandoned : abandon count (records ++ [record]) s' = s'.happen .cancel := if_pos hfull
      rw [habandoned] at rest
      obtain ⟨-, rfl⟩ := rest.of_cancelled rfl
      have hfront := prefix_of_listenOn user timeout (records ++ [record])
        (s'.now + Channel.patience timeout) s'
      rw [← hfull]
      exact .inr ⟨hfront.length_le, congrArg (·, _) (List.prefix_iff_eq_take.mp hfront)⟩
    · have hgoes : abandon count (records ++ [record]) s' = s' := if_neg hfull
      rw [hgoes] at ih
      rw [List.length_append, List.length_singleton] at hfull
      exact ih (by omega)
  | done taken judged =>
    rw [Channel.listenOn_recv, taken]
    dsimp only
    rw [judged]
    exact .inl ⟨hfew, rfl⟩

private theorem root_silence (ch : Channel) (timeout : Span) (s : Scene) :
    (ch.silence timeout s).root = ch.silence timeout s := by
  rw [Channel.silence]
  split
  · rfl
  · split <;> rfl

/-- Who has listened for entries has streamed what was delivered meanwhile. Either an arrival has ended the
stream, whatever comes later, or all there was were entries and the wait for the next one was in vain. -/
theorem streams_of_settles {s : Scene} {timeout : Span} {due : Nat}
    {outcome : (List LogRecord × Except Failure (Except Failure Unit)) × Scene} (hs : s.Awaiting)
    (h : user.Settles (hearEntry user) timeout due [] s outcome) :
    (∀ late more, Streams user.family late (user.delivered s outcome.2 ++ more)
        (outcome.1.1, streamed outcome.1.2)) ∨
      Streams user.family (user.silence timeout outcome.2) (user.delivered s outcome.2)
          (outcome.1.1, streamed outcome.1.2) ∧
        outcome.1.1.length = (user.delivered s outcome.2).length ∧
        (user.silence timeout outcome.2 = Channel.tooLate timeout → due ≤ outcome.2.now) := by
  have hlegible {taken : List Arrival} (htook : user.Took taken s outcome.2) :
      ∀ arrival ∈ taken, arrival.Legible := by
    intro arrival hmem
    apply Channel.legible_deliveries hs.legible arrival
    rw [htook.deliveries]
    exact List.mem_append_left _ hmem
  obtain ⟨heard, hhears, ⟨arrival, hdone, -, htook⟩ | ⟨hvain, htook, hempty, hlate⟩⟩ := h
  · obtain ⟨hall, gathered, hfinal, hcommands, hentries⟩ :=
      gathered_of_hears (fun arrival hmem => hlegible htook arrival (List.mem_append_left _ hmem)) hhears
    rw [List.nil_append] at hfinal
    have hlast : arrival.Legible := hlegible htook arrival (List.mem_append_right _ List.mem_cons_self)
    rcases hearEntry_cases user outcome.1.1 hlast with
      ⟨-, record, -, -, hmore⟩ | ⟨hnone, result, hresult, hending⟩
    · rw [hdone] at hmore
      cases hmore
    · rw [hdone] at hresult
      injection hresult with hresult
      refine .inl fun late more => ?_
      rw [htook.delivered, List.append_assoc, List.append_assoc, hfinal, hresult]
      apply streams_of_gathered hall hcommands hentries
      · rintro _ ⟨⟩
        exact hnone
      · exact hending
  · obtain ⟨hall, gathered, hfinal, hcommands, hentries⟩ := gathered_of_hears (hlegible htook) hhears
    rw [List.nil_append] at hfinal
    have hnothing := hempty fun hcancelled => absurd (hs.waiting.symm.trans hcancelled) Bool.false_ne_true
    refine .inr ⟨?_, ?_, hlate⟩
    · rw [htook.delivered, hnothing, hfinal, hvain]
      exact streams_of_gathered hall hcommands hentries nofun (congrArg Except.error (root_silence ..))
    · rw [htook.delivered, hnothing, hfinal, List.append_nil, ← hcommands, List.length_map]

/-- Asking for entries comes down to listening for them, once the request has been sent. -/
theorem run_streamLogEntries {s : Session} (hs : Reachable s) (range : LogRange) (pin : Pin)
    (cancelAt : Option Nat) (agenda : List Appointment) {challenge : Bytes} {asked : Session} {sent : Scene}
    (huser : s.user = some user)
    (hchallenge : Session.challenge (s.begin cancelAt agenda) = (.ok challenge, asked))
    (hsend : user.send (Request.logEntries range.start range.count range.order pin challenge).command
      asked.scene = (.ok (), sent)) :
    sent.Awaiting ∧ ∃ heard, user.listen (hearEntry user) s.options.timeout [] sent = heard ∧
      streamLogEntries range pin (s.begin cancelAt agenda) =
        ((heard.1.1, streamed heard.1.2), { s with scene := heard.2 }) := by
  obtain ⟨hawaiting, hrun⟩ := requested hs
    (fun challenge => (Request.logEntries range.start range.count range.order pin challenge).command)
    cancelAt agenda huser hchallenge hsend
  have hrequest : requestLogEntries range pin (s.begin cancelAt agenda) = (.ok user, { s with scene := sent }) :=
    hrun "requesting log entries" fun user => return user
  refine ⟨hawaiting, _, rfl, ?_⟩
  rw [streamLogEntries, hrequest]
  rfl

end Session

/-- Once log entries have been asked for, a stream hands on exactly the entries at the front of what is delivered
from then on, in order and as they read, and ends well exactly if the arrival behind them is a status; otherwise
it fails as this arrival has it. Nothing that is delivered later could change that, or else everything that has
been delivered has been handed on and the wait for more is over: everything that was to happen before has
happened, and unless somebody else closes the link or the caller gives up, the time is up. Who reads the entries
gets all of them if the stream ends well, and otherwise only the failure. -/
theorem streamLogEntries_delivers {s : Session} (hs : Reachable s) (range : LogRange) (pin : Pin)
    (cancelAt : Option Nat) (agenda : List Appointment) {user : Channel} {challenge : Bytes} {asked : Session}
    {sent : Scene} (huser : s.user = some user)
    (hchallenge : Session.challenge (s.begin cancelAt agenda) = (.ok challenge, asked))
    (hsend : user.send (Request.logEntries range.start range.count range.order pin challenge).command
      asked.scene = (.ok (), sent)) :
    let outcome := Session.streamLogEntries range pin (s.begin cancelAt agenda)
    let heard := user.delivered sent outcome.2.scene
    let late := user.silence s.options.timeout outcome.2.scene
    let read := Session.readLogEntries range pin (s.begin cancelAt agenda)
    Streams user.family late heard outcome.1 ∧
      (outcome.1.2 = .ok () ↔ ∃ c, heard[outcome.1.1.length]? = some (.ok c) ∧ c.Carries (.known .status)) ∧
      ((∀ late' more, Streams user.family late' (heard ++ more) outcome.1) ∨
        outcome.1.1.length = heard.length ∧
          (late = Channel.tooLate s.options.timeout →
            sent.now + Channel.patience s.options.timeout ≤ outcome.2.scene.now)) ∧
      (∀ appointment ∈ outcome.2.scene.agenda, outcome.2.scene.now ≤ appointment.time) ∧
      (Exclusive s → (∀ appointment ∈ agenda, appointment.happening.Spares) →
        late = if outcome.2.scene.cancelled then .cancelled else Channel.tooLate s.options.timeout) ∧
      (∀ records, read.1 = .ok records ↔ outcome.1.2 = .ok () ∧ records = outcome.1.1) ∧
      ∀ e, read.1 = .error e ↔ outcome.1.2 = .error e := by
  intro outcome heard late read
  obtain ⟨hawaiting, listened, hlistened, hrun⟩ :=
    Session.run_streamLogEntries hs range pin cancelAt agenda huser hchallenge hsend
  have houtcome : outcome = _ := hrun
  have hresult : outcome.1 = (listened.1.1, Session.streamed listened.1.2) := congrArg Prod.fst houtcome
  have hsession : outcome.2 = { s with scene := listened.2 } := congrArg Prod.snd houtcome
  have hscene : outcome.2.scene = listened.2 := congrArg Session.scene hsession
  have hsettles := user.settles_of_punctual (Session.hearEntry user) s.options.timeout [] hawaiting.punctual
  have htimely := user.timely_listen (Session.hearEntry user) s.options.timeout [] sent hawaiting.punctual
  rw [hlistened] at hsettles htimely
  have hcases := Session.streams_of_settles hawaiting hsettles
  rw [← hscene, ← hresult] at hcases
  rw [← hscene] at htimely
  have hstreams : Streams user.family late heard outcome.1 := by
    rcases hcases with hdecided | ⟨hvain, -⟩
    · have hnothing := hdecided late []
      rw [List.append_nil] at hnothing
      exact hnothing
    · exact hvain
  have hread : read.1 = outcome.1.2.map fun () => outcome.1.1 := rfl
  refine ⟨hstreams, hstreams.ok_iff, ?_, htimely.1.now_le, fun hexclusive hspares => ?_, ?_, ?_⟩
  · rcases hcases with hdecided | ⟨-, hlength, hlate⟩
    · exact .inl hdecided
    · have hrecords : outcome.1.1 = listened.1.1 := congrArg Prod.fst hresult
      exact .inr ⟨(congrArg List.length hrecords).trans hlength, hlate⟩
  · have huser' : outcome.2.user = some user := (congrArg Session.user hsession).trans huser
    exact Session.silence_of_exclusive hexclusive (.errand (.streamLogEntries range pin)) cancelAt hspares huser'
      s.options.timeout
  · intro records
    rw [hread]
    cases outcome.1.2 with
    | ok done => exact ⟨fun h => ⟨rfl, (Except.ok.inj h).symm⟩, fun h => congrArg Except.ok h.2.symm⟩
    | error e => exact ⟨nofun, nofun⟩
  · intro e
    rw [hread]
    cases outcome.1.2 with
    | ok done => exact ⟨nofun, nofun⟩
    | error e' => exact ⟨fun h => congrArg _ (Except.error.inj h), fun h => congrArg _ (Except.error.inj h)⟩

/-- A stream goes on entry by entry, and whoever is handed its entries can give up in between. Who gives up over an
entry is handed none after it, even if it has arrived already, and is told that the stream was cancelled; who means to
give up over an entry that the stream does not come to is handed the whole stream. -/
theorem streamLogEntries_abandoned {s : Session} (hs : Reachable s) (range : LogRange) (pin : Pin)
    (cancelAt : Option Nat) (agenda : List Appointment) {user : Channel} {challenge : Bytes} {asked : Session}
    {sent : Scene} (huser : s.user = some user)
    (hchallenge : Session.challenge (s.begin cancelAt agenda) = (.ok challenge, asked))
    (hsend : user.send (Request.logEntries range.start range.count range.order pin challenge).command
      asked.scene = (.ok (), sent)) {count : Nat} (hcount : 0 < count) :
    let whole := (Session.streamLogEntries range pin (s.begin cancelAt agenda)).1
    let Run := user.Turns (Session.hearEntry user) (Session.abandon count) s.options.timeout []
      (sent.now + Channel.patience s.options.timeout) sent
    (∃ heard outcome, Run heard outcome) ∧
      ∀ heard outcome, Run heard outcome →
        user.deliveries sent = heard ++ user.deliveries outcome.2 ∧
          (whole.1.length < count → (outcome.1.1, Session.streamed outcome.1.2) = whole) ∧
          (count ≤ whole.1.length → (outcome.1.1, Session.streamed outcome.1.2) =
            (whole.1.take count, .error (.during "waiting for log entry" .cancelled))) := by
  intro whole Run
  obtain ⟨hawaiting, listened, hlistened, hrun⟩ :=
    Session.run_streamLogEntries hs range pin cancelAt agenda huser hchallenge hsend
  have hwhole : whole = (listened.1.1, Session.streamed listened.1.2) := congrArg Prod.fst hrun
  have hreact := Session.deliveries_abandon user count
  refine ⟨user.turns_total _ _ hreact _ _ _, fun heard outcome hturns => ⟨hturns.deliveries hreact, ?_⟩⟩
  have hlistened' : user.listenOn (Session.hearEntry user) s.options.timeout sent.agenda []
    (sent.now + Channel.patience s.options.timeout) sent = listened := hlistened
  have hcases := Session.abandoned_of_turns hcount hturns
  rw [hlistened'] at hcases
  rw [hwhole]
  rcases hcases with ⟨hfew, rfl⟩ | ⟨hmany, habandoned⟩
  · exact ⟨fun _ => rfl, fun hmany => absurd hfew (Nat.not_lt.mpr hmany)⟩
  · refine ⟨fun hfew => absurd hfew (Nat.not_lt.mpr hmany), fun _ => ?_⟩
    rw [habandoned]
    rfl

/-- A lock sends two entries and a status; an entry that comes after the status is not handed on. -/
theorem streamLogEntries_delivers_two :
    let key : Key := ⟨List.replicate 32 1, rfl⟩
    let credentials : Credentials := { authorization := 7, clientSecret := key, devicePublic := key }
    let user : Channel :=
      ⟨0, Profile.smartLock.user, .smartLock, .sealed 7 credentials.sharedKey⟩
    let message := user.codec.message { bytes := [0x66] }
    let entry (filling : UInt8) := Command.of (.known .logEntry) (List.replicate 48 filling)
    let status := Command.of (.known .status) [0]
    let challenge := Command.of (.known .challenge) (List.replicate 32 0x11)
    let replies : List Command := [entry 1, entry 2, status, entry 3]
    let s := Session.beforeReplies credentials [[message challenge], replies.map message]
    let range : LogRange := ⟨0, 2, .known .ascending⟩
    let pin : Pin := ⟨0⟩
    Reachable s ∧ s.user = some user ∧ ∃ asked sent,
      Session.challenge (s.begin none []) = (.ok challenge.payload, asked) ∧
      user.send (Request.logEntries 0 2 (.known .ascending) pin challenge.payload).command asked.scene =
        (.ok (), sent) ∧
      let outcome := (Session.streamLogEntries range pin (s.begin none [])).1
      outcome.1.map (fun record => Except.ok record.command) = ([.ok (entry 1), .ok (entry 2)] : List Arrival) ∧
        outcome.2 = .ok () := by
  intro key credentials user message entry status challenge replies s range pin
  obtain ⟨hs, huser, asked, sent, hchallenge, hsend, hdelivered⟩ : Reachable s ∧ s.user = some user ∧
      ∃ asked sent, Session.challenge (s.begin none []) = (.ok challenge.payload, asked) ∧
        user.send (Request.logEntries 0 2 (.known .ascending) pin challenge.payload).command asked.scene =
          (.ok (), sent) ∧
        ∀ later, user.delivered sent later = replies.map .ok :=
    replies_delivered credentials
      (fun challenge => (Request.logEntries 0 2 (.known .ascending) pin challenge).command) replies (by decide)
      (by decide)
  -- From here on the session is one of which this is known.
  clear_value s
  obtain ⟨hstreams, hok, -⟩ := streamLogEntries_delivers hs range pin none [] huser hchallenge hsend
  rw [hdelivered] at hstreams hok
  have hcommands := hstreams.commands
  have hentries : (replies.map .ok : List Arrival).takeWhile (fun arrival => arrival.IsEntry) =
      [.ok (entry 1), .ok (entry 2)] := rfl
  rw [hentries] at hcommands
  have hlength := congrArg List.length hcommands
  rw [List.length_map] at hlength
  refine ⟨hs, huser, asked, sent, hchallenge, hsend, hcommands, hok.mpr ⟨status, ?_, rfl⟩⟩
  rw [hlength]
  rfl

end Latchkey
