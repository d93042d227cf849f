import Latchkey.Proofs.Clocks
import Latchkey.Proofs.Punctuality
import Latchkey.Proofs.Replies

/-!
# Waiting for one id

A wait for an id passes over every command that has another one and reports no fault. The first arrival that
it does not pass over decides it, and what is behind this arrival is left for the next wait.
-/

namespace Latchkey

namespace Arrival

/-- A wait for this id passes over the arrival. -/
def Passed (id : CommandId) : Arrival → Prop
  | .ok c => ¬ c.Carries id ∧ ¬ c.Carries (.known .errorReport)
  | .error _ => False

instance (id : CommandId) (arrival : Arrival) : Decidable (arrival.Passed id) :=
  match arrival with
  | .ok c => inferInstanceAs (Decidable (¬ c.Carries id ∧ ¬ c.Carries (.known .errorReport)))
  | .error _ => inferInstanceAs (Decidable False)

/-- What an arrival that is not passed over means to a wait for this id. -/
def answerFor (id : CommandId) (family : Family) : Arrival → Except Failure Command
  | .error e => .error e
  | .ok c => if c.Carries id then .ok c else .error (.device (c.reported family))

end Arrival

/-- The first command with this id among arrivals and what is behind it, or what goes wrong before; `late` is
what goes wrong when nothing else arrives. -/
def firstAmong (id : CommandId) (family : Family) (late : Failure) (arrivals : List Arrival) :
    Except Failure (Command × List Arrival) :=
  match arrivals.dropWhile fun arrival => arrival.Passed id with
  | [] => .error late
  | arrival :: later => (arrival.answerFor id family).map fun c => (c, later)

/-- The arrivals begin with those that a wait for this id passes over and then this command, which has the id,
and the others come later. -/
def Brings (id : CommandId) (c : Command) (arrivals later : List Arrival) : Prop :=
  ∃ passed, arrivals = passed ++ .ok c :: later ∧ (∀ arrival ∈ passed, arrival.Passed id) ∧ c.Carries id

theorem Command.Carries.excludes {c : Command} {id other : CommandId} (h : c.Carries id)
    (hdiffer : id.code ≠ other.code) : ¬ c.Carries other := fun hother => hdiffer (h.symm.trans hother)

theorem Command.id_eq_iff {c : Command} {name : CommandName} : c.id = .known name ↔ c.Carries (.known name) := by
  refine ⟨Coded.code_of_known, fun h => ?_⟩
  rw [id, h]
  cases name <;> rfl

section Reports

variable {id : CommandId} {family : Family} {late : Failure} {passed arrivals later : List Arrival}
  {arrival : Arrival} {c : Command}

theorem Brings.carries (h : Brings id c arrivals later) : c.Carries id := by
  obtain ⟨-, -, -, hcarries⟩ := h
  exact hcarries

private theorem not_passed_of_carries (h : c.Carries id) : ¬ Arrival.Passed id (.ok c) := fun hpassed => hpassed.1 h

private theorem dropWhile_passed_append (h : ∀ arrival ∈ passed, arrival.Passed id) :
    (passed ++ arrivals).dropWhile (fun arrival => arrival.Passed id) =
      arrivals.dropWhile fun arrival => arrival.Passed id :=
  List.dropWhile_append_of_pos fun arrival hmem => decide_eq_true (h arrival hmem)

private theorem dropWhile_passed_cons (h : ¬ arrival.Passed id) :
    (arrival :: later).dropWhile (fun arrival => arrival.Passed id) = arrival :: later :=
  List.dropWhile_cons_of_neg fun hpassed => h (of_decide_eq_true hpassed)

private theorem firstAmong_append (h : ∀ arrival ∈ passed, arrival.Passed id) :
    firstAmong id family late (passed ++ arrivals) = firstAmong id family late arrivals := by
  rw [firstAmong, dropWhile_passed_append h, firstAmong]

theorem firstAmong_cons_of_passed (h : arrival.Passed id) :
    firstAmong id family late (arrival :: later) = firstAmong id family late later := by
  have hall : ∀ first ∈ [arrival], Arrival.Passed id first := List.forall_mem_singleton.mpr h
  exact firstAmong_append hall

theorem firstAmong_cons (h : ¬ arrival.Passed id) :
    firstAmong id family late (arrival :: later) = (arrival.answerFor id family).map fun c => (c, later) := by
  rw [firstAmong, dropWhile_passed_cons h]

theorem firstAmong_decided (hpassed : ∀ arrival ∈ passed, arrival.Passed id) (hstops : ¬ arrival.Passed id) :
    firstAmong id family late (passed ++ [arrival] ++ later) =
      (arrival.answerFor id family).map fun c => (c, later) := by
  rw [List.append_assoc, firstAmong_append hpassed, List.singleton_append, firstAmong_cons hstops]

theorem firstAmong_of_passed (h : ∀ arrival ∈ passed, arrival.Passed id) :
    firstAmong id family late passed = .error late := by
  have hnothing : firstAmong id family late (passed ++ []) = firstAmong id family late [] := firstAmong_append h
  rw [List.append_nil] at hnothing
  exact hnothing

theorem firstAmong_ok_iff (family : Family) (late : Failure) :
    firstAmong id family late arrivals = .ok (c, later) ↔ Brings id c arrivals later := by
  constructor
  · intro h
    let passed := arrivals.takeWhile fun arrival => arrival.Passed id
    have hsplit : passed ++ arrivals.dropWhile (fun arrival => arrival.Passed id) = arrivals :=
      List.takeWhile_append_dropWhile
    have hpassed : ∀ arrival ∈ passed, arrival.Passed id :=
      fun arrival hmem => of_decide_eq_true (List.all_eq_true.mp List.all_takeWhile arrival hmem)
    rw [firstAmong] at h
    cases hrest : arrivals.dropWhile fun arrival => arrival.Passed id with
    | nil =>
      rw [hrest] at h
      cases h
    | cons arrival rest =>
      rw [hrest] at h hsplit
      cases arrival with
      | error e => cases h
      | ok first =>
        by_cases hcarries : first.Carries id
        · simp only [Arrival.answerFor, if_pos hcarries, Except.map, Except.ok.injEq, Prod.mk.injEq] at h
          obtain ⟨rfl, rfl⟩ := h
          exact ⟨passed, hsplit.symm, hpassed, hcarries⟩
        · simp only [Arrival.answerFor, if_neg hcarries, Except.map] at h
          cases h
  · rintro ⟨passed, rfl, hpassed, hcarries⟩
    rw [firstAmong_append hpassed, firstAmong_cons (not_passed_of_carries hcarries), Arrival.answerFor,
      if_pos hcarries]
    rfl

end Reports

namespace Channel

variable {ch : Channel} {id : CommandId} {timeout : Span} {s : Scene}

theorem hearFor_eq (ch : Channel) (id : CommandId) (arrival : Arrival) :
    ch.hearFor id () arrival =
      if arrival.Passed id then .skip else .done (arrival.answerFor id ch.family) := by
  cases arrival with
  | error e => rfl
  | ok c =>
    by_cases hcarries : c.Carries id
    · rw [hearFor, if_pos hcarries, if_neg (not_passed_of_carries hcarries), Arrival.answerFor, if_pos hcarries]
    · rw [hearFor, if_neg hcarries, refuseFault, Command.fault?_eq, Arrival.answerFor, if_neg hcarries]
      by_cases hreport : c.Carries (.known .errorReport)
      · have hstops : ¬ Arrival.Passed id (.ok c) := fun hpassed => hpassed.2 hreport
        rw [if_pos hreport, if_neg hstops]
      · have hpassed : Arrival.Passed id (.ok c) := ⟨hcarries, hreport⟩
        rw [if_neg hreport, if_pos hpassed]

private theorem passed_of_hears {heard : List Arrival} {state final : Unit}
    (h : Hears (ch.hearFor id) state heard final) : ∀ arrival ∈ heard, arrival.Passed id := by
  intro arrival hmem
  have hskip := skip_of_hears h arrival hmem
  rw [hearFor_eq] at hskip
  split at hskip
  · assumption
  · cases hskip

/-- The last arrival that a wait for this id has taken out decides it, and those before are passed over; or the
wait was in vain, nothing that has been delivered decides it, and it is not too late before the moment `due`. -/
def Selects (ch : Channel) (id : CommandId) (timeout : Span) (due : Nat) (taken : List Arrival) (s : Scene)
    (outcome : Except Failure Command × Scene) : Prop :=
  ch.Took taken s outcome.2 ∧
    ((∃ passed arrival, taken = passed ++ [arrival] ∧ (∀ arrival ∈ passed, arrival.Passed id) ∧
        ¬ arrival.Passed id ∧ outcome.1 = arrival.answerFor id ch.family) ∨
      (∀ arrival ∈ taken, arrival.Passed id) ∧ outcome.1 = .error (ch.silence timeout outcome.2) ∧
        ch.inbox outcome.2 = [] ∧ (ch.silence timeout outcome.2 = tooLate timeout → due ≤ outcome.2.now))

theorem selects_of_settles {due : Nat} {outcome : (Unit × Except Failure Command) × Scene}
    (h : ch.Settles (ch.hearFor id) timeout due () s outcome) (hwaiting : s.cancelled = false) :
    ∃ taken, ch.Selects id timeout due taken s (outcome.1.2, outcome.2) := by
  obtain ⟨heard, hhears, hends⟩ := h
  have hpassed := passed_of_hears hhears
  rcases hends with ⟨arrival, hdone, -, htook⟩ | ⟨hvain, htook, hempty, hlate⟩
  · rw [hearFor_eq] at hdone
    split at hdone
    · cases hdone
    · rename_i hstops
      injection hdone with hresult
      exact ⟨_, htook, .inl ⟨heard, arrival, rfl, hpassed, hstops, hresult.symm⟩⟩
  · have hnothing := hempty fun hcancelled => absurd (hwaiting.symm.trans hcancelled) Bool.false_ne_true
    exact ⟨heard, htook, .inr ⟨hpassed, hvain, hnothing, hlate⟩⟩

/-- A wait for an id is decided by the first arrival that it does not pass over, or it is in vain and lasts until
the time is up. -/
theorem selects_waitFor (ch : Channel) (id : CommandId) (timeout : Span) (hpunctual : s.Punctual)
    (hwaiting : s.cancelled = false) :
    ∃ taken, ch.Selects id timeout (s.now + patience timeout) taken s (ch.waitFor id timeout s) := by
  rw [waitFor_eq]
  exact selects_of_settles (ch.settles_of_punctual (ch.hearFor id) timeout () hpunctual) hwaiting

private theorem waitFor_fst (id : CommandId) (timeout : Span) (hwaiting : s.cancelled = false) :
    (ch.waitFor id timeout s).1 =
      (firstAmong id ch.family (ch.silence timeout (ch.waitFor id timeout s).2)
        (ch.delivered s (ch.waitFor id timeout s).2)).map Prod.fst := by
  obtain ⟨taken, htook, hends⟩ := selects_of_settles (ch.settles_listen (ch.hearFor id) timeout () s) hwaiting
  rw [← waitFor_eq] at htook hends
  rcases hends with ⟨passed, arrival, rfl, hpassed, hstops, hanswer⟩ | ⟨hpassed, hvain, hnothing, -⟩
  · rw [htook.delivered, firstAmong_decided hpassed hstops, hanswer]
    cases arrival.answerFor id ch.family <;> rfl
  · rw [htook.delivered, hnothing, List.append_nil, firstAmong_of_passed hpassed, hvain]
    rfl

theorem waitFor_ok_iff {c : Command} (id : CommandId) (timeout : Span) (hwaiting : s.cancelled = false) :
    (ch.waitFor id timeout s).1 = .ok c ↔
      ∃ later, Brings id c (ch.delivered s (ch.waitFor id timeout s).2) later := by
  simp only [← firstAmong_ok_iff ch.family (ch.silence timeout (ch.waitFor id timeout s).2)]
  rw [waitFor_fst id timeout hwaiting]
  rcases firstAmong id ch.family _ _ with e | ⟨first, rest⟩
  · exact ⟨nofun, nofun⟩
  · refine ⟨fun h => ⟨rest, ?_⟩, ?_⟩
    · cases h
      rfl
    · rintro ⟨later, ⟨⟩⟩
      rfl

end Channel

/-- Nothing arrives over the channel, and nobody gives up. -/
def Happening.Bypasses (ch : Channel) : Happening → Prop
  | .cancel => False
  | .failure _ _ | .lost _ => True
  | .arrival i u _ => i ≠ ch.link ∨ u ≠ ch.characteristic

/-- Nothing more will arrive over the channel, and nobody will give up. -/
def Scene.Bypasses (ch : Channel) (s : Scene) : Prop :=
  ∀ appointment ∈ s.agenda, appointment.happening.Bypasses ch

namespace Channel

variable {ch : Channel} {s s' : Scene} {taken : List Arrival}

private theorem inbox_effect (s : Scene) {x : Happening} (h : x.Bypasses ch) (box : Mailbox) :
    (ch.effect s x box).inbox = box.inbox := by
  cases x with
  | cancel => exact h.elim
  | failure i op => rfl
  | lost i =>
    rw [effect]
    split <;> rfl
  | arrival i u chunks => rw [effect, if_neg fun hsame => h.elim (· hsame.1) (· hsame.2), id]

private theorem attached_effect (s : Scene) {x : Happening} (h : x.Bypasses ch) (hspares : x ≠ .lost ch.link)
    (box : Mailbox) : (ch.effect s x box).attached = box.attached := by
  cases x with
  | cancel => exact h.elim
  | failure i op => rfl
  | lost i => rw [effect, if_neg fun hsame => hspares (congrArg Happening.lost hsame.1), id]
  | arrival i u chunks => rw [effect, if_neg fun hsame => h.elim (· hsame.1) (· hsame.2), id]

private theorem mailbox?_keepAll_map {α : Type} {look : Mailbox → α} (later kept : List Appointment) (s : Scene)
    (h : ∀ appointment ∈ kept, ∀ s box, look (ch.effect s appointment.happening box) = look box) :
    (ch.mailbox? (s.keepAll later kept)).map look = (ch.mailbox? s).map look := by
  induction kept generalizing s with
  | nil => rfl
  | cons appointment kept ih =>
    rw [List.forall_mem_cons] at h
    have hfirst : look ∘ ch.effect { s with now := appointment.time, agenda := kept ++ later }
        appointment.happening = look := funext (h.1 _)
    rw [Scene.keepAll, ih _ h.2, Scene.keep, mailbox?_happen, Option.map_map, hfirst]
    rfl

theorem Took.inbox_of_bypasses (h : ch.Took taken s s') (hbypasses : s.Bypasses ch) :
    ch.inbox s = taken ++ ch.inbox s' := by
  have hunheard : (ch.mailbox? (s.unheard s')).map Mailbox.inbox = (ch.mailbox? s).map Mailbox.inbox :=
    mailbox?_keepAll_map s'.agenda (s.elapsed s') s fun appointment hmem s =>
      inbox_effect s (hbypasses appointment (List.mem_of_mem_take hmem))
  rw [← h.ahead.inbox, inbox, inbox, hunheard]

theorem subscribed_iff (ch : Channel) (s : Scene) :
    (s.link ch.link).Subscribed ch.characteristic ↔
      ((ch.mailbox? s).map Mailbox.attached).getD false = true := by
  rw [Peripheral.Subscribed, mailbox?]
  cases (s.link ch.link).mailboxes.get? ch.characteristic with
  | none => simp
  | some box => simp

theorem Took.subscribed_of_bypasses (h : ch.Took taken s s') (hbypasses : s.Bypasses ch)
    (hspares : ∀ appointment ∈ s.agenda, appointment.happening ≠ .lost ch.link) :
    (s'.link ch.link).Subscribed ch.characteristic ↔ (s.link ch.link).Subscribed ch.characteristic := by
  have hunheard : (ch.mailbox? (s.unheard s')).map Mailbox.attached = (ch.mailbox? s).map Mailbox.attached :=
    mailbox?_keepAll_map s'.agenda (s.elapsed s') s fun appointment hmem s =>
      have hagenda := List.mem_of_mem_take hmem
      attached_effect s (hbypasses appointment hagenda) (hspares appointment hagenda)
  rw [subscribed_iff, subscribed_iff, ← hunheard]
  rcases h.ahead.mailbox with ⟨box, hafter, hbefore⟩ | ⟨hafter, hbefore, -⟩
  · rw [hafter, hbefore]
    rfl
  · rw [hafter, hbefore]

theorem cancelled_listen {σ α : Type} (ch : Channel) (hear : σ → Arrival → Heard σ α) (timeout : Span)
    (state : σ) (hbypasses : s.Bypasses ch) : (ch.listen hear timeout state s).2.cancelled = s.cancelled := by
  let Q (s s' : Scene) : Prop := s.Bypasses ch → s'.Bypasses ch ∧ s'.cancelled = s.cancelled
  have hQ : Lasting Q := by
    refine ⟨fun s h => ⟨h, rfl⟩, fun h h' hs => ?_⟩
    obtain ⟨hs', hcancelled⟩ := h hs
    obtain ⟨hs'', hcancelled'⟩ := h' hs'
    exact ⟨hs'', hcancelled'.trans hcancelled⟩
  have hkeep (appointment : Appointment) (agenda : List Appointment) (s : Scene)
      (hagenda : s.agenda = appointment :: agenda) : Q s (s.keep appointment agenda) := by
    intro hs
    rw [Scene.Bypasses, hagenda, List.forall_mem_cons] at hs
    refine ⟨?_, ?_⟩
    · rw [Scene.Bypasses, Scene.agenda_keep]
      exact hs.2
    · obtain ⟨time, happening⟩ := appointment
      cases happening with
      | cancel => exact hs.1.elim
      | failure i op | lost i | arrival i u chunks => rfl
  exact (keeps_listenOn hQ (fun _ _ _ h => ⟨h, rfl⟩) (fun _ _ _ _ h => ⟨h, rfl⟩) hkeep s.agenda _ rfl
    hbypasses).2

theorem silence_of_waiting (ch : Channel) (timeout : Span) (hwaiting : s.cancelled = false) :
    ch.silence timeout s =
      if (s.link ch.link).Subscribed ch.characteristic then tooLate timeout else .channelClosed := by
  rw [silence, hwaiting, if_neg Bool.false_ne_true]
  simp only [subscribed_iff]

/-- Where nothing more will arrive, a wait for an id ends at the first queued arrival that is damaged, reports a
fault or has the id, and leaves exactly those behind it. If there is none, the queue ends empty and the time is
up, or the subscription has ended, which it does not as long as the link is not lost. By a clock there is this wait
if the clock can show when the time is up, and otherwise there is none. -/
theorem waitFor_queued (id : CommandId) (timeout : Span) (hwaiting : s.cancelled = false)
    (hbypasses : s.Bypasses ch) :
    let outcome := ch.waitFor id timeout s
    (match (ch.inbox s).dropWhile fun arrival => arrival.Passed id with
      | [] => ch.inbox outcome.2 = [] ∧ outcome.1 = .error
          (if (outcome.2.link ch.link).Subscribed ch.characteristic then tooLate timeout else .channelClosed)
      | arrival :: later => ch.inbox outcome.2 = later ∧ outcome.1 =
          match arrival with
          | .error e => .error e
          | .ok c => if c.Carries id then .ok c
              else .error (.device (Fault.ofCode ch.family (c.payload.head?.getD 0xFF)))) ∧
      ((∀ appointment ∈ s.agenda, appointment.happening ≠ .lost ch.link) →
        ((outcome.2.link ch.link).Subscribed ch.characteristic ↔
          (s.link ch.link).Subscribed ch.characteristic)) ∧
      ∀ r : ClockReading, ch.waitForBy? r id timeout s =
        if r.total + timeout.nanoseconds < ClockReading.limit then some outcome else none := by
  intro outcome
  have houtcome : outcome = _ := ch.waitFor_eq id timeout s
  obtain ⟨taken, htook, hends⟩ := selects_of_settles (ch.settles_listen (ch.hearFor id) timeout () s) hwaiting
  rw [← houtcome] at htook hends
  refine ⟨?_, htook.subscribed_of_bypasses hbypasses, fun r => ch.waitForBy?_eq r id timeout s⟩
  rw [htook.inbox_of_bypasses hbypasses]
  rcases hends with ⟨passed, arrival, rfl, hpassed, hstops, hanswer⟩ | ⟨hpassed, hvain, hnothing, -⟩
  · rw [List.append_assoc, dropWhile_passed_append hpassed, List.singleton_append,
      dropWhile_passed_cons hstops]
    exact ⟨rfl, hanswer⟩
  · have hwaiting' : outcome.2.cancelled = false := by
      rw [houtcome]
      exact (ch.cancelled_listen (ch.hearFor id) timeout () hbypasses).trans hwaiting
    rw [silence_of_waiting ch timeout hwaiting'] at hvain
    rw [hnothing, dropWhile_passed_append hpassed]
    exact ⟨rfl, hvain⟩

/-- A wait for a challenge passes over a status and ends at a fault report that does not name its fault; the
challenge behind it is left. -/
theorem waitFor_queued_fault :
    let ch : Channel := ⟨0, Profile.opener.general, .opener, .plain⟩
    let status : Arrival := .ok (.of (.known .status) [1])
    let report : Arrival := .ok (.of (.known .errorReport) [])
    let challenge : Arrival := .ok (.of (.known .challenge) (List.replicate 32 0x11))
    let s := ch.putInbox [status, report, challenge]
      (ch.opened { links := [{ exposed := [Profile.opener.general] }] })
    let outcome := ch.waitFor (.known .challenge) (Span.of 1 0) s
    s.cancelled = false ∧ s.Bypasses ch ∧ ch.inbox outcome.2 = [challenge] ∧
      outcome.1 = .error (.device (Fault.ofCode .opener 0xFF)) := by
  intro ch status report challenge s outcome
  have hbypasses : s.Bypasses ch := fun _ h => absurd h List.not_mem_nil
  have hqueued := ch.waitFor_queued (s := s) (.known .challenge) (Span.of 1 0) rfl hbypasses
  have hinbox : ch.inbox s = [status] ++ report :: [challenge] := rfl
  have hpassed : ∀ arrival ∈ [status], arrival.Passed (.known .challenge) := by
    rw [List.forall_mem_singleton]
    exact ⟨by decide, by decide⟩
  have hstops : ¬ report.Passed (.known .challenge) := fun h => h.2 rfl
  rw [hinbox, dropWhile_passed_append hpassed, dropWhile_passed_cons hstops] at hqueued
  exact ⟨rfl, hbypasses, hqueued.1⟩

/-- Who waits over a channel that has been closed does not wait until the time is up. -/
theorem waitFor_closed :
    let ch : Channel := ⟨0, Profile.smartLock.general, .smartLock, .plain⟩
    let lock : Peripheral := { exposed := [Profile.smartLock.general, Profile.smartLock.user] }
    ∃ opened closed, attach 0 .plain { links := [lock] } = (.ok ch, opened) ∧
      ch.close opened = (.ok (), closed) ∧
      closed.cancelled = false ∧ closed.agenda = [] ∧ ch.inbox closed = [] ∧
      (ch.waitFor (.known .challenge) (Span.of 1 0) closed).1 = .error .channelClosed ∧
      (ch.waitFor (.known .challenge) (Span.of 1 0) closed).1 ≠ .error (tooLate (Span.of 1 0)) := by
  intro ch lock
  let opened := ch.opened { links := [lock] }
  let closed := (ch.close opened).2
  have hclosed : (ch.waitFor (.known .challenge) (Span.of 1 0) closed).1 = .error .channelClosed := rfl
  refine ⟨opened, closed, rfl, rfl, rfl, rfl, rfl, hclosed, ?_⟩
  rw [hclosed]
  nofun

end Channel

end Latchkey
