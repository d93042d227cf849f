import Latchkey.Proofs.Listening

/-!
# Turns of a listener

A listener takes one arrival at a time. Each turn begins by asking whether the caller has given up; then the next
arrival is waited for and heard, and what is heard decides whether there is another turn. Between two turns the
caller may react to what has been heard, and a caller who gives up then is told nothing more.
-/

namespace Latchkey

namespace Channel

variable {σ α : Type} {ch : Channel} {hear : σ → Arrival → Heard σ α} {react : σ → Scene → Scene} {timeout : Span}
  {state : σ} {deadline : Nat} {s s' : Scene} {arrival : Arrival} {heard rest : List Arrival}
  {outcome : (σ × Except Failure α) × Scene}

def hearAny (_ : Unit) (arrival : Arrival) : Heard Unit Arrival := .done (.ok arrival)

/-- Waits for one arrival, whatever it is, until the deadline. -/
def recv (ch : Channel) (timeout : Span) (deadline : Nat) : StateM Scene (Except Failure Arrival) := fun s =>
  let ((_, result), s) := ch.listenOn hearAny timeout s.agenda () deadline s
  (result, s)

/-- Listening by turns. The arrivals are those that have been taken out, and `react` is what the caller does when a
turn has led to a new state. -/
inductive Turns (ch : Channel) (hear : σ → Arrival → Heard σ α) (react : σ → Scene → Scene) (timeout : Span) :
    σ → Nat → Scene → List Arrival → (σ × Except Failure α) × Scene → Prop where
  | ended {state : σ} {deadline : Nat} {s s' : Scene} {e : Failure}
    (taken : ch.recv timeout deadline s = (.error e, s')) :
    Turns ch hear react timeout state deadline s [] ((state, .error e), s')
  | skip {state : σ} {deadline : Nat} {s s' : Scene} {arrival : Arrival} {heard : List Arrival}
    {outcome : (σ × Except Failure α) × Scene} (taken : ch.recv timeout deadline s = (.ok arrival, s'))
    (judged : hear state arrival = .skip) (rest : Turns ch hear react timeout state deadline s' heard outcome) :
    Turns ch hear react timeout state deadline s (arrival :: heard) outcome
  | more {state next : σ} {deadline : Nat} {s s' : Scene} {arrival : Arrival} {heard : List Arrival}
    {outcome : (σ × Except Failure α) × Scene} (taken : ch.recv timeout deadline s = (.ok arrival, s'))
    (judged : hear state arrival = .more next)
    (rest : Turns ch hear react timeout next ((react next s').now + patience timeout) (react next s') heard outcome) :
    Turns ch hear react timeout state deadline s (arrival :: heard) outcome
  | done {state : σ} {deadline : Nat} {s s' : Scene} {arrival : Arrival} {result : Except Failure α}
    (taken : ch.recv timeout deadline s = (.ok arrival, s')) (judged : hear state arrival = .done result) :
    Turns ch hear react timeout state deadline s [arrival] ((state, result), s')

private theorem drain_renewed (hear : σ → Arrival → Heard σ α) (state : σ) (arrivals : List Arrival) :
    drain hear state true arrivals = { drain hear state false arrivals with renewed := true } := by
  induction arrivals generalizing state with
  | nil => rfl
  | cons arrival arrivals ih =>
    rw [drain, drain]
    cases hear state arrival with
    | skip => exact ih state
    | more next =>
      dsimp only
      rw [ih next]
    | done result => rfl

private theorem inbox_putInbox (h : ch.inbox s = arrival :: rest) : ch.inbox (ch.putInbox rest s) = rest := by
  have hahead : ch.Ahead [arrival] s (ch.putInbox rest s) := ch.ahead_putInbox h
  have hinbox := hahead.inbox
  rw [h] at hinbox
  exact (List.cons.inj hinbox).2.symm

private theorem look_cons (hwaiting : s.cancelled = false) (hinbox : ch.inbox s = arrival :: rest) :
    ch.look hear timeout state deadline s =
      match hear state arrival with
      | .skip => ch.look hear timeout state deadline (ch.putInbox rest s)
      | .more next => ch.look hear timeout next (s.now + patience timeout) (ch.putInbox rest s)
      | .done result => (.settled state result, ch.putInbox rest s) := by
  have hrest := inbox_putInbox hinbox
  have hattached : ((ch.mailbox? (ch.putInbox rest s)).map Mailbox.attached).getD false =
      ((ch.mailbox? s).map Mailbox.attached).getD false := by
    rw [mailbox?_putInbox, Option.map_map]
    rfl
  have hwaiting' : (ch.putInbox rest s).cancelled = false := hwaiting
  have hnow : (ch.putInbox rest s).now = s.now := rfl
  rw [inbox] at hinbox hrest
  cases hjudged : hear state arrival with
  | skip =>
    simp only [look, hinbox, hrest, hattached, hwaiting, hwaiting', hnow, putInbox_putInbox, drain, hjudged]
    rfl
  | more next =>
    simp only [look, hinbox, hrest, hattached, hwaiting, hwaiting', hnow, putInbox_putInbox, drain, hjudged,
      drain_renewed hear next rest, ite_self]
    rfl
  | done result =>
    simp only [look, hinbox, hwaiting, drain, hjudged]
    rfl

private theorem look_nil (hinbox : s.cancelled = false → ch.inbox s = []) :
    (∃ e s', ∀ {σ α : Type} (hear : σ → Arrival → Heard σ α) (state : σ),
        ch.look hear timeout state deadline s = (.settled state (.error e), s')) ∨
      ∀ {σ α : Type} (hear : σ → Arrival → Heard σ α) (state : σ),
        ch.look hear timeout state deadline s = (.pending state deadline, ch.putInbox [] s) := by
  cases hwaiting : s.cancelled with
  | true => exact .inl ⟨_, _, fun hear state => by rw [look, if_pos hwaiting]⟩
  | false =>
    have hnothing := hinbox hwaiting
    rw [inbox] at hnothing
    cases hattached : ((ch.mailbox? s).map Mailbox.attached).getD false with
    | false =>
      refine .inl ⟨.channelClosed, ch.putInbox [] s, fun hear state => ?_⟩
      simp only [look, hwaiting, hnothing, hattached, drain]
      rfl
    | true =>
      by_cases hlate : deadline ≤ s.now
      · refine .inl ⟨tooLate timeout, ch.putInbox [] s, fun hear state => ?_⟩
        simp only [look, hwaiting, hnothing, hattached, drain]
        exact if_pos hlate
      · refine .inr fun hear state => ?_
        simp only [look, hwaiting, hnothing, hattached, drain]
        exact if_neg hlate

private theorem arrived_or_silent (ch : Channel) (s : Scene) :
    (∃ arrival rest, s.cancelled = false ∧ ch.inbox s = arrival :: rest) ∨
      (s.cancelled = false → ch.inbox s = []) := by
  cases s.cancelled with
  | true => exact .inr nofun
  | false =>
    cases ch.inbox s with
    | nil => exact .inr fun _ => rfl
    | cons arrival rest => exact .inl ⟨arrival, rest, rfl, rfl⟩

private theorem listenOn_of_look {deadline' : Nat} {state' : σ} {agenda : List Appointment}
    (h : ch.look hear timeout state deadline s = ch.look hear timeout state' deadline' s') :
    ch.listenOn hear timeout agenda state deadline s = ch.listenOn hear timeout agenda state' deadline' s' := by
  cases agenda with
  | nil => rw [listenOn, listenOn, h]
  | cons appointment agenda => rw [listenOn, listenOn, h]

private theorem listenOn_cons {agenda : List Appointment} (hwaiting : s.cancelled = false)
    (hinbox : ch.inbox s = arrival :: rest) :
    ch.listenOn hear timeout agenda state deadline s =
      match hear state arrival with
      | .skip => ch.listenOn hear timeout agenda state deadline (ch.putInbox rest s)
      | .more next => ch.listenOn hear timeout agenda next (s.now + patience timeout) (ch.putInbox rest s)
      | .done result => ((state, result), ch.putInbox rest s) := by
  have hlook : ch.look hear timeout state deadline s = _ := look_cons hwaiting hinbox
  cases hjudged : hear state arrival with
  | skip =>
    rw [hjudged] at hlook
    exact listenOn_of_look hlook
  | more next =>
    rw [hjudged] at hlook
    exact listenOn_of_look hlook
  | done result =>
    rw [hjudged] at hlook
    exact listenOn_of_settled hlook

/-- A listener hears one arrival after the other, and has as much time for each as if it had just begun, unless
the one before does not matter. -/
theorem listenOn_recv (ch : Channel) (hear : σ → Arrival → Heard σ α) (timeout : Span) (state : σ) (deadline : Nat)
    (s : Scene) :
    ch.listenOn hear timeout s.agenda state deadline s =
      match ch.recv timeout deadline s with
      | (.error e, s') => ((state, .error e), s')
      | (.ok arrival, s') =>
        match hear state arrival with
        | .skip => ch.listenOn hear timeout s'.agenda state deadline s'
        | .more next => ch.listenOn hear timeout s'.agenda next (s'.now + patience timeout) s'
        | .done result => ((state, result), s') := by
  -- Arrivals that are there already are not waited for, whatever the agenda is.
  have harrived {s : Scene} {agenda : List Appointment} (hagenda : s.agenda = agenda) {arrival : Arrival}
      {rest : List Arrival} (hwaiting : s.cancelled = false) (hinbox : ch.inbox s = arrival :: rest) :
      ch.listenOn hear timeout agenda state deadline s =
        match hear state arrival with
        | .skip => ch.listenOn hear timeout (ch.putInbox rest s).agenda state deadline (ch.putInbox rest s)
        | .more next => ch.listenOn hear timeout (ch.putInbox rest s).agenda next
            ((ch.putInbox rest s).now + patience timeout) (ch.putInbox rest s)
        | .done result => ((state, result), ch.putInbox rest s) := by
    subst hagenda
    exact listenOn_cons hwaiting hinbox
  rw [recv]
  generalize hagenda : s.agenda = agenda
  induction agenda generalizing s with
  | nil =>
    rcases arrived_or_silent ch s with ⟨arrival, rest, hwaiting, hinbox⟩ | hnothing
    · rw [harrived hagenda hwaiting hinbox, listenOn_cons hwaiting hinbox]
      rfl
    · rcases ch.look_nil hnothing with ⟨e, s', hlook⟩ | hlook
      · rw [listenOn, listenOn, hlook hear state, hlook hearAny ()]
      · rw [listenOn, listenOn, hlook hear state, hlook hearAny ()]
  | cons appointment agenda ih =>
    rcases arrived_or_silent ch s with ⟨arrival, rest, hwaiting, hinbox⟩ | hnothing
    · rw [harrived hagenda hwaiting hinbox, listenOn_cons hwaiting hinbox]
      rfl
    · rcases ch.look_nil hnothing with ⟨e, s', hlook⟩ | hlook
      · rw [listenOn, listenOn, hlook hear state, hlook hearAny ()]
      · rw [listenOn, listenOn, hlook hear state, hlook hearAny ()]
        dsimp only
        split
        · exact ih _ (Scene.agenda_keep ..)
        · rfl

private theorem recv_cancelled (ch : Channel) (timeout : Span) (deadline : Nat) (h : s.cancelled = true) :
    ch.recv timeout deadline s = (.error .cancelled, s) := by
  rw [recv, listenOn_cancelled ch _ timeout _ () deadline h]

private theorem deliveries_recv (ch : Channel) (timeout : Span) (deadline : Nat) (s : Scene) :
    ch.deliveries s =
      (ch.recv timeout deadline s).1.toOption.toList ++ ch.deliveries (ch.recv timeout deadline s).2 := by
  have hsettles : ch.Settles hearAny timeout 0 () s (ch.listenOn hearAny timeout s.agenda () deadline s) :=
    settles_listenOn s.agenda rfl (Nat.zero_le _) (Nat.zero_le _) fun _ _ => Nat.zero_le _
  rw [recv]
  generalize ch.listenOn hearAny timeout s.agenda () deadline s = outcome at hsettles ⊢
  obtain ⟨⟨state, result⟩, s'⟩ := outcome
  obtain ⟨heard, hhears, hends⟩ := hsettles
  have hheard : heard = [] := by
    cases hhears with
    | nil => rfl
    | skip hskip => cases hskip
    | more hmore => cases hmore
  rcases hends with ⟨last, hdone, -, htook⟩ | ⟨hvain, htook, -⟩
  · have hdeliveries := htook.deliveries
    cases hdone
    rw [hheard] at hdeliveries
    exact hdeliveries
  · have hdeliveries := htook.deliveries
    dsimp only at hvain
    rw [hheard] at hdeliveries
    rw [hvain]
    exact hdeliveries

/-- However the caller reacts, listening comes to an end, as long as nothing more is delivered because of it. -/
theorem turns_total (ch : Channel) (hear : σ → Arrival → Heard σ α) (timeout : Span)
    (hreact : ∀ state s, ch.deliveries (react state s) = ch.deliveries s) (state : σ) (deadline : Nat) (s : Scene) :
    ∃ heard outcome, ch.Turns hear react timeout state deadline s heard outcome := by
  generalize hleft : ch.deliveries s = left
  induction left generalizing state deadline s with
  | nil =>
    rcases htaken : ch.recv timeout deadline s with ⟨e | arrival, s'⟩
    · exact ⟨_, _, .ended htaken⟩
    · rw [ch.deliveries_recv timeout deadline, htaken] at hleft
      cases hleft
  | cons first left ih =>
    rcases htaken : ch.recv timeout deadline s with ⟨e | arrival, s'⟩
    · exact ⟨_, _, .ended htaken⟩
    · rw [ch.deliveries_recv timeout deadline, htaken] at hleft
      obtain ⟨-, hleft⟩ := List.cons.inj hleft
      cases hjudged : hear state arrival with
      | skip =>
        obtain ⟨heard, outcome, hturns⟩ := ih state deadline s' hleft
        exact ⟨_, _, .skip htaken hjudged hturns⟩
      | more next =>
        obtain ⟨heard, outcome, hturns⟩ := ih next ((react next s').now + patience timeout) (react next s')
          ((hreact next s').trans hleft)
        exact ⟨_, _, .more htaken hjudged hturns⟩
      | done result => exact ⟨_, _, .done htaken hjudged⟩

namespace Turns

private theorem listenOn (h : ch.Turns hear (fun _ s => s) timeout state deadline s heard outcome) :
    ch.listenOn hear timeout s.agenda state deadline s = outcome := by
  induction h with
  | ended taken => rw [listenOn_recv, taken]
  | skip taken judged rest ih =>
    rw [listenOn_recv, taken]
    dsimp only
    rw [judged]
    exact ih
  | more taken judged rest ih =>
    rw [listenOn_recv, taken]
    dsimp only
    rw [judged]
    exact ih
  | done taken judged =>
    rw [listenOn_recv, taken]
    dsimp only
    rw [judged]

/-- Who has given up before a turn hears nothing in it, whatever has arrived. -/
theorem of_cancelled (hcancelled : s.cancelled = true)
    (h : ch.Turns hear react timeout state deadline s heard outcome) :
    heard = [] ∧ outcome = ((state, .error .cancelled), s) := by
  have hgiven := ch.recv_cancelled timeout deadline hcancelled
  cases h with
  | ended taken =>
    rw [hgiven, Prod.mk.injEq] at taken
    obtain ⟨hfailure, rfl⟩ := taken
    cases hfailure
    exact ⟨rfl, rfl⟩
  | skip taken => cases hgiven.symm.trans taken
  | more taken => cases hgiven.symm.trans taken
  | done taken => cases hgiven.symm.trans taken

theorem deliveries (hreact : ∀ state s, ch.deliveries (react state s) = ch.deliveries s)
    (h : ch.Turns hear react timeout state deadline s heard outcome) :
    ch.deliveries s = heard ++ ch.deliveries outcome.2 := by
  induction h with
  | @ended state deadline s s' e taken =>
    rw [ch.deliveries_recv timeout deadline, taken]
    rfl
  | @skip state deadline s s' arrival heard outcome taken judged rest ih =>
    rw [ch.deliveries_recv timeout deadline, taken, List.cons_append, ← ih]
    rfl
  | @more state next deadline s s' arrival heard outcome taken judged rest ih =>
    rw [ch.deliveries_recv timeout deadline, taken, List.cons_append, ← ih, hreact]
    rfl
  | @done state deadline s s' arrival result taken judged =>
    rw [ch.deliveries_recv timeout deadline, taken]
    rfl

end Turns

theorem turns_listen (ch : Channel) (hear : σ → Arrival → Heard σ α) (timeout : Span) (state : σ) (s : Scene) :
    ∃ heard, ch.Turns hear (fun _ s => s) timeout state (s.now + patience timeout) s heard
      (ch.listen hear timeout state s) := by
  have htotal : ∃ heard outcome,
      ch.Turns hear (fun _ s => s) timeout state (s.now + patience timeout) s heard outcome :=
    ch.turns_total hear timeout (fun _ _ => rfl) state (s.now + patience timeout) s
  obtain ⟨heard, outcome, hturns⟩ := htotal
  rw [listen, hturns.listenOn]
  exact ⟨heard, hturns⟩

end Channel

end Latchkey
