import Latchkey.Proofs.Arrivals

/-!
# Listening

A listener goes through what arrives until something decides the matter. It has then taken out exactly what
it went through; a listener that gives up or waits in vain has taken out nothing that it did not go through.
-/

namespace Latchkey

section Hearing

variable {σ α : Type} {hear : σ → Arrival → Heard σ α}

/-- The listener goes through these arrivals without coming to a decision. -/
inductive Hears (hear : σ → Arrival → Heard σ α) : σ → List Arrival → σ → Prop where
  | nil (state : σ) : Hears hear state [] state
  | skip {state final : σ} {arrival : Arrival} {arrivals : List Arrival}
    (heard : hear state arrival = .skip) (rest : Hears hear state arrivals final) :
    Hears hear state (arrival :: arrivals) final
  | more {state next final : σ} {arrival : Arrival} {arrivals : List Arrival}
    (heard : hear state arrival = .more next) (rest : Hears hear next arrivals final) :
    Hears hear state (arrival :: arrivals) final

private theorem Hears.append {state next final : σ} {front back : List Arrival}
    (h : Hears hear state front next) (h' : Hears hear next back final) :
    Hears hear state (front ++ back) final := by
  induction h with
  | nil state => exact h'
  | skip heard rest ih => exact .skip heard (ih h')
  | more heard rest ih => exact .more heard (ih h')

/-- What has come of going through arrivals, of which `heard` is the front part that decides nothing. -/
def Drained.Follows (hear : σ → Arrival → Heard σ α) (heard arrivals : List Arrival)
    (d : Drained σ α) : Prop :=
  (∃ arrival result, d.result = some result ∧ hear d.state arrival = .done result ∧
      arrivals = heard ++ arrival :: d.rest) ∨
    d.result = none ∧ d.rest = [] ∧ arrivals = heard

private theorem Drained.Follows.cons {heard arrivals : List Arrival} {d : Drained σ α} (arrival : Arrival)
    (h : d.Follows hear heard arrivals) : d.Follows hear (arrival :: heard) (arrival :: arrivals) := by
  rcases h with ⟨last, result, hresult, hlast, rfl⟩ | ⟨hresult, hrest, rfl⟩
  · exact .inl ⟨last, result, hresult, hlast, rfl⟩
  · exact .inr ⟨hresult, hrest, rfl⟩

private theorem drain_spec (hear : σ → Arrival → Heard σ α) (state : σ) (renewed : Bool) (arrivals : List Arrival) :
    ∃ heard, Hears hear state heard (drain hear state renewed arrivals).state ∧
      (drain hear state renewed arrivals).Follows hear heard arrivals := by
  induction arrivals generalizing state renewed with
  | nil => exact ⟨[], .nil state, .inr ⟨rfl, rfl, rfl⟩⟩
  | cons arrival arrivals ih =>
    cases hheard : hear state arrival with
    | skip =>
      obtain ⟨heard, hhears, hfollows⟩ := ih state renewed
      simp only [drain, hheard]
      exact ⟨arrival :: heard, .skip hheard hhears, hfollows.cons arrival⟩
    | more next =>
      obtain ⟨heard, hhears, hfollows⟩ := ih next true
      simp only [drain, hheard]
      exact ⟨arrival :: heard, .more hheard hhears, hfollows.cons arrival⟩
    | done result =>
      simp only [drain, hheard]
      exact ⟨[], .nil state, .inl ⟨arrival, result, rfl, hheard, rfl⟩⟩

end Hearing

namespace Channel

variable {σ α : Type} {ch : Channel} {hear : σ → Arrival → Heard σ α} {timeout : Span} {due : Nat}
  {state final : σ} {s : Scene}

/-- How a wait ends that nothing has decided. -/
def Vain (timeout : Span) (result : Except Failure α) : Prop :=
  result = .error .cancelled ∨ result = .error .channelClosed ∨ result = .error (tooLate timeout)

/-- Why a wait ends in this scene if nothing has decided it. -/
def silence (ch : Channel) (timeout : Span) (s : Scene) : Failure :=
  if s.cancelled then .cancelled
  else if ((ch.mailbox? s).map Mailbox.attached).getD false then tooLate timeout
  else .channelClosed

private theorem vain_silence (ch : Channel) (timeout : Span) (s : Scene) :
    Vain timeout (.error (ch.silence timeout s) : Except Failure α) := by
  rw [silence]
  split
  · exact .inl rfl
  · split
    · exact .inr (.inr rfl)
    · exact .inr (.inl rfl)

/-- From `state` on, the listener has gone through arrivals and come to this outcome, either because of the
arrival behind them, which it has taken out too, or in vain; then nothing has been left in the inbox, unless
the listener had given up before, and it is not too late before the moment `due`. -/
def Settles (ch : Channel) (hear : σ → Arrival → Heard σ α) (timeout : Span) (due : Nat) (state : σ)
    (s : Scene) (outcome : (σ × Except Failure α) × Scene) : Prop :=
  ∃ heard, Hears hear state heard outcome.1.1 ∧
    ((∃ arrival, hear outcome.1.1 arrival = .done outcome.1.2 ∧ outcome.2.cancelled = false ∧
        ch.Took (heard ++ [arrival]) s outcome.2) ∨
      outcome.1.2 = .error (ch.silence timeout outcome.2) ∧ ch.Took heard s outcome.2 ∧
        ((s.cancelled = true → ch.inbox s = []) → ch.inbox outcome.2 = []) ∧
        (ch.silence timeout outcome.2 = tooLate timeout → due ≤ outcome.2.now))

private theorem Settles.prepend {heard : List Arrival} {s' : Scene} {outcome : (σ × Except Failure α) × Scene}
    (hhears : Hears hear state heard final) (htook : ch.Took heard s s')
    (hempty : s'.cancelled = true → ch.inbox s' = []) (h : ch.Settles hear timeout due final s' outcome) :
    ch.Settles hear timeout due state s outcome := by
  obtain ⟨heard', hhears', hends⟩ := h
  refine ⟨heard ++ heard', hhears.append hhears', ?_⟩
  rcases hends with ⟨arrival, hdone, hwaiting, htook'⟩ | ⟨hvain, htook', hinbox, hlate⟩
  · refine .inl ⟨arrival, hdone, hwaiting, ?_⟩
    rw [List.append_assoc]
    exact htook.trans htook'
  · exact .inr ⟨hvain, htook.trans htook', fun _ => hinbox hempty, hlate⟩

private theorem look_cases (ch : Channel) (hear : σ → Arrival → Heard σ α) (timeout : Span) (state : σ)
    {deadline : Nat} (hdue : due ≤ deadline) (hnow : due ≤ s.now + patience timeout) :
    (∃ final result s', ch.look hear timeout state deadline s = (.settled final result, s') ∧
        ch.Settles hear timeout due state s ((final, result), s')) ∨
      ∃ final deadline', ch.look hear timeout state deadline s =
          (.pending final deadline', ch.putInbox [] s) ∧
        Hears hear state (ch.inbox s) final ∧ s.cancelled = false ∧
        ch.silence timeout (ch.putInbox [] s) = tooLate timeout ∧ due ≤ deadline' := by
  by_cases hcancelled : s.cancelled = true
  · have hsilence : ch.silence timeout s = .cancelled := by rw [silence, if_pos hcancelled]
    refine .inl ⟨state, .error .cancelled, s, by rw [look, if_pos hcancelled], [], .nil state, .inr ?_⟩
    refine ⟨congrArg _ hsilence.symm, .refl ch s, fun hempty => hempty hcancelled, fun hlate => ?_⟩
    cases hsilence.symm.trans hlate
  have hwaiting : s.cancelled = false := Bool.eq_false_iff.mpr hcancelled
  have hinbox : ((ch.mailbox? s).map Mailbox.inbox).getD [] = ch.inbox s := rfl
  have hsilence (rest : List Arrival) : ch.silence timeout (ch.putInbox rest s) =
      if ((ch.mailbox? s).map Mailbox.attached).getD false then tooLate timeout else .channelClosed := by
    rw [silence, mailbox?_putInbox, Option.map_map]
    exact if_neg hcancelled
  obtain ⟨heard, hhears, hfollows⟩ := drain_spec hear state false (ch.inbox s)
  rw [look, if_neg hcancelled]
  dsimp only
  rw [hinbox]
  generalize drain hear state false (ch.inbox s) = drained at hhears hfollows ⊢
  rcases hfollows with ⟨arrival, result, hresult, hdone, harrivals⟩ | ⟨hresult, hrest, harrivals⟩
  · have htook : ch.Took (heard ++ [arrival]) s (ch.putInbox drained.rest s) :=
      .putInbox (by rw [harrivals, List.append_assoc, List.singleton_append])
    rw [hresult]
    exact .inl ⟨drained.state, result, _, rfl, heard, hhears, .inl ⟨arrival, hdone, hwaiting, htook⟩⟩
  · have htook : ch.Took heard s (ch.putInbox drained.rest s) :=
      .putInbox (by rw [hrest, List.append_nil, harrivals])
    have hempty : ch.inbox (ch.putInbox drained.rest s) = [] := by
      rw [hrest]
      exact ch.inbox_emptied s
    have hvain (e : Failure) (h : ch.silence timeout (ch.putInbox drained.rest s) = e)
        (hlate : e = tooLate timeout → due ≤ s.now) :
        ch.Settles hear timeout due state s ((drained.state, .error e), ch.putInbox drained.rest s) :=
      ⟨heard, hhears, .inr ⟨congrArg _ h.symm, htook, fun _ => hempty, fun h' => hlate (h.symm.trans h')⟩⟩
    have hreason := hsilence drained.rest
    rw [hresult]
    dsimp only
    cases hattached : ((ch.mailbox? s).map Mailbox.attached).getD false with
    | false =>
      rw [hattached] at hreason
      exact .inl ⟨_, _, _, rfl, hvain _ hreason nofun⟩
    | true =>
      have hdue' : due ≤ if drained.renewed = true then s.now + patience timeout else deadline := by
        split
        · exact hnow
        · exact hdue
      rw [hattached] at hreason
      generalize (if drained.renewed = true then s.now + patience timeout else deadline) = deadline' at hdue' ⊢
      by_cases hlate : deadline' ≤ s.now
      · refine .inl ⟨drained.state, _, _, ?_, hvain _ hreason fun _ => Nat.le_trans hdue' hlate⟩
        simp only [Bool.not_true, Bool.false_eq_true, if_false]
        exact if_pos hlate
      · rw [hrest] at hreason
        refine .inr ⟨drained.state, deadline', ?_, ?_, hwaiting, hreason, hdue'⟩
        · simp only [Bool.not_true, Bool.false_eq_true, if_false, hrest]
          exact if_neg hlate
        · rw [harrivals]
          exact hhears

/-- A listener hears what is delivered, in order, and leaves everything behind the arrival that decides.
Whenever it looks at what there is, it goes on waiting until `due` at least. -/
theorem settles_listenOn (agenda : List Appointment) {deadline : Nat} (hagenda : s.agenda = agenda)
    (hdue : due ≤ deadline) (hnow : due ≤ s.now + patience timeout)
    (hlater : ∀ appointment ∈ agenda, due ≤ appointment.time + patience timeout) :
    ch.Settles hear timeout due state s (ch.listenOn hear timeout agenda state deadline s) := by
  -- Every look takes a front part of what is delivered, and an appointment kept in between does not change
  -- what is still to come.
  have htook (s : Scene) : ch.Took (ch.inbox s) s (ch.putInbox [] s) := .putInbox (List.append_nil _).symm
  have hlate {state final : σ} {s : Scene} {deadline' : Nat} (hhears : Hears hear state (ch.inbox s) final)
      (hsilence : ch.silence timeout (ch.putInbox [] s) = tooLate timeout) (hdue' : due ≤ deadline') :
      ch.Settles hear timeout due state s
        ((final, .error (tooLate timeout)), { ch.putInbox [] s with now := deadline' }) := by
    have hboth := (htook s).trans (.now ch deadline' (ch.putInbox [] s))
    rw [List.append_nil] at hboth
    refine ⟨ch.inbox s, hhears, .inr ⟨congrArg _ hsilence.symm, hboth, fun _ => ch.inbox_emptied s, ?_⟩⟩
    exact fun _ => hdue'
  induction agenda generalizing state deadline s with
  | nil =>
    rw [listenOn]
    rcases ch.look_cases hear timeout state hdue hnow with
      ⟨final, result, s', hlook, hsettles⟩ | ⟨final, deadline', hlook, hhears, hwaiting, hsilence, hdue'⟩
    · rw [hlook]
      exact hsettles
    · rw [hlook]
      exact hlate hhears hsilence hdue'
  | cons appointment agenda ih =>
    rw [List.forall_mem_cons] at hlater
    rw [listenOn]
    rcases ch.look_cases hear timeout state hdue hnow with
      ⟨final, result, s', hlook, hsettles⟩ | ⟨final, deadline', hlook, hhears, hwaiting, hsilence, hdue'⟩
    · rw [hlook]
      exact hsettles
    · have hcleared : (ch.putInbox [] s).agenda = appointment :: agenda := hagenda
      rw [hlook]
      dsimp only
      split
      · have hboth := (htook s).trans (.keep ch hcleared)
        rw [List.append_nil] at hboth
        have hnow' : due ≤ ((ch.putInbox [] s).keep appointment agenda).now + patience timeout := by
          rw [Scene.now_keep]
          exact hlater.1
        refine Settles.prepend hhears hboth (fun hcancelled => ?_)
          (ih (Scene.agenda_keep ..) hdue' hnow' hlater.2)
        exact inbox_keep_cancelled hwaiting (ch.inbox_emptied s) hcancelled
      · exact hlate hhears hsilence hdue'

theorem settles_listen (ch : Channel) (hear : σ → Arrival → Heard σ α) (timeout : Span) (state : σ)
    (s : Scene) : ch.Settles hear timeout 0 state s (ch.listen hear timeout state s) :=
  settles_listenOn s.agenda rfl (Nat.zero_le _) (Nat.zero_le _) fun _ _ => Nat.zero_le _

theorem agenda_listen (ch : Channel) (hear : σ → Arrival → Heard σ α) (timeout : Span) (state : σ)
    (s : Scene) : (ch.listen hear timeout state s).2.agenda <:+ s.agenda := by
  obtain ⟨heard, -, ⟨arrival, -, -, htook⟩ | ⟨-, htook, -⟩⟩ := ch.settles_listen hear timeout state s
  · exact htook.agenda
  · exact htook.agenda

/-- From `state` on, the listener has gone through a front part of what is delivered and come to this
outcome, either because of the arrival behind that part or in vain. -/
def Heeds (ch : Channel) (hear : σ → Arrival → Heard σ α) (timeout : Span) (state : σ) (s : Scene)
    (outcome : (σ × Except Failure α) × Scene) : Prop :=
  ∃ heard, Hears hear state heard outcome.1.1 ∧
    ((∃ arrival, hear outcome.1.1 arrival = .done outcome.1.2 ∧
        ch.deliveries s = heard ++ arrival :: ch.deliveries outcome.2) ∨
      Vain timeout outcome.1.2 ∧ ch.deliveries s = heard ++ ch.deliveries outcome.2)

theorem heeds_listen (ch : Channel) (hear : σ → Arrival → Heard σ α) (timeout : Span) (state : σ)
    (s : Scene) : ch.Heeds hear timeout state s (ch.listen hear timeout state s) := by
  obtain ⟨heard, hhears, hends⟩ := ch.settles_listen hear timeout state s
  refine ⟨heard, hhears, ?_⟩
  rcases hends with ⟨arrival, hdone, -, htook⟩ | ⟨hvain, htook, -⟩
  · have hdeliveries := htook.deliveries
    rw [List.append_assoc, List.singleton_append] at hdeliveries
    exact .inl ⟨arrival, hdone, hdeliveries⟩
  · rw [hvain]
    exact .inr ⟨ch.vain_silence timeout _, htook.deliveries⟩

private theorem look_scene (ch : Channel) (hear : σ → Arrival → Heard σ α) (timeout : Span) (state : σ)
    (deadline : Nat) (s : Scene) :
    (ch.look hear timeout state deadline s).2 = s ∨
      ∃ rest, rest <:+ ch.inbox s ∧ (ch.look hear timeout state deadline s).2 = ch.putInbox rest s := by
  rw [look]
  split
  · exact .inl rfl
  · obtain ⟨heard, -, hfollows⟩ := drain_spec hear state false (ch.inbox s)
    have hrest : (drain hear state false (ch.inbox s)).rest <:+ ch.inbox s := by
      rcases hfollows with ⟨arrival, result, -, -, harrivals⟩ | ⟨-, hnothing, -⟩
      · exact ⟨heard ++ [arrival], (List.append_cons ..).symm.trans harrivals.symm⟩
      · rw [hnothing]
        exact List.nil_suffix
    dsimp only
    refine .inr ⟨(drain hear state false (ch.inbox s)).rest, hrest, ?_⟩
    repeat' split
    all_goals rfl

private theorem now_le_of_pending {deadline deadline' : Nat} {s' : Scene}
    (h : ch.look hear timeout state deadline s = (.pending final deadline', s')) : s'.now ≤ deadline' := by
  rw [look] at h
  dsimp only at h
  generalize (if Drained.renewed _ = true then s.now + patience timeout else deadline) = renewed at h
  split at h
  · cases h
  · split at h
    · cases h
    · split at h
      · cases h
      · split at h
        · cases h
        · rename_i hearly
          injection h with hfound hscene
          injection hfound with _ hdeadline
          rw [← hscene, ← hdeadline]
          exact Nat.le_of_not_le hearly

section Frame

variable {Q : Scene → Scene → Prop}

/-- What holds over taking arrivals out, over the passing of time up to the next appointment and over everything
that is to happen holds over listening. -/
theorem keeps_listenOn (hQ : Lasting Q)
    (hput : ∀ rest s, rest <:+ ch.inbox s → Q s (ch.putInbox rest s))
    (hnow : ∀ now s, s.now ≤ now → (∀ next ∈ s.agenda.head?, now ≤ next.time) → Q s { s with now })
    (hkeep : ∀ appointment agenda s, s.agenda = appointment :: agenda → Q s (s.keep appointment agenda))
    (agenda : List Appointment) (deadline : Nat) (hagenda : s.agenda = agenda) :
    Q s (ch.listenOn hear timeout agenda state deadline s).2 := by
  have hlook (state : σ) (deadline : Nat) (s : Scene) :
      Q s (ch.look hear timeout state deadline s).2 ∧
        (ch.look hear timeout state deadline s).2.agenda = s.agenda := by
    rcases ch.look_scene hear timeout state deadline s with hscene | ⟨rest, hrest, hscene⟩
    · rw [hscene]
      exact ⟨hQ.refl s, rfl⟩
    · rw [hscene]
      exact ⟨hput rest s hrest, rfl⟩
  induction agenda generalizing state deadline s with
  | nil =>
    obtain ⟨hlooked, hsame⟩ := hlook state deadline s
    rw [listenOn]
    rcases hcase : ch.look hear timeout state deadline s with ⟨⟨final, result⟩ | ⟨final, deadline'⟩, s'⟩
    all_goals rw [hcase] at hlooked hsame
    · exact hlooked
    · have hnone : ∀ next ∈ s'.agenda.head?, deadline' ≤ next.time := by
        rw [hsame.trans hagenda]
        nofun
      exact hQ.trans hlooked (hnow deadline' s' (now_le_of_pending hcase) hnone)
  | cons appointment agenda ih =>
    obtain ⟨hlooked, hsame⟩ := hlook state deadline s
    rw [listenOn]
    rcases hcase : ch.look hear timeout state deadline s with ⟨⟨final, result⟩ | ⟨final, deadline'⟩, s'⟩
    all_goals rw [hcase] at hlooked hsame
    · exact hlooked
    · have hkept := hkeep appointment agenda s' (hsame.trans hagenda)
      dsimp only
      split
      · exact hQ.trans hlooked (hQ.trans hkept (ih deadline' (Scene.agenda_keep ..)))
      · rename_i hearly
        have hnext : ∀ next ∈ s'.agenda.head?, deadline' ≤ next.time := by
          rw [hsame.trans hagenda]
          rintro next ⟨⟩
          exact Nat.le_of_not_le hearly
        exact hQ.trans hlooked (hnow deadline' s' (now_le_of_pending hcase) hnext)

end Frame

/-- Listening writes nothing, whatever happens meanwhile. -/
theorem quiet_listen (ch : Channel) (hear : σ → Arrival → Heard σ α) (timeout : Span) (state : σ)
    (s : Scene) : s.Quiet (ch.listen hear timeout state s).2 :=
  keeps_listenOn Scene.quiet_lasting (fun rest s _ => quiet_putInbox ch rest s)
    (fun _ _ _ _ => ⟨rfl, fun _ => rfl, fun _ => rfl, id⟩)
    (fun appointment agenda s _ => Scene.quiet_keep s appointment agenda) s.agenda _ rfl

theorem took_listen_apart {other : Channel} (h : other.characteristic ≠ ch.characteristic)
    (hear : σ → Arrival → Heard σ α) (timeout : Span) (state : σ) (s : Scene) :
    other.Took [] s (ch.listen hear timeout state s).2 :=
  keeps_listenOn (Took.lasting other) (fun rest s _ => .putInbox_apart h rest s) (fun now s _ _ => .now other now s)
    (fun _ _ _ hagenda => .keep other hagenda) s.agenda _ rfl

/-- A look that settles the matter ends the wait, whatever is still to happen. -/
theorem listenOn_of_settled {agenda : List Appointment} {deadline : Nat} {result : Except Failure α} {s' : Scene}
    (h : ch.look hear timeout state deadline s = (.settled final result, s')) :
    ch.listenOn hear timeout agenda state deadline s = ((final, result), s') := by
  cases agenda with
  | nil => rw [listenOn, h]
  | cons appointment agenda => rw [listenOn, h]

theorem listenOn_cancelled (ch : Channel) (hear : σ → Arrival → Heard σ α) (timeout : Span)
    (agenda : List Appointment) (state : σ) (deadline : Nat) (h : s.cancelled = true) :
    ch.listenOn hear timeout agenda state deadline s = ((state, .error .cancelled), s) :=
  listenOn_of_settled (by rw [look, if_pos h])

theorem listen_cancelled (ch : Channel) (hear : σ → Arrival → Heard σ α) (timeout : Span) (state : σ)
    (h : s.cancelled = true) : ch.listen hear timeout state s = ((state, .error .cancelled), s) :=
  ch.listenOn_cancelled hear timeout _ state _ h

theorem listen_arrived {arrival : Arrival} {rest : List Arrival} {result : Except Failure α}
    (timeout : Span) (hcancelled : s.cancelled = false) (hinbox : ch.inbox s = arrival :: rest)
    (hdone : hear state arrival = .done result) :
    ch.listen hear timeout state s = ((state, result), ch.putInbox rest s) := by
  have hdrain : drain hear state false (((ch.mailbox? s).map Mailbox.inbox).getD []) =
      ⟨state, false, some result, rest⟩ := by
    change drain hear state false (ch.inbox s) = _
    rw [hinbox, drain, hdone]
  apply listenOn_of_settled
  simp only [look, hcancelled, hdrain]
  rfl

end Channel

/-- The command an arrival is, if it carries this id. -/
def Arrival.carrying? (name : CommandName) : Arrival → Option Command
  | .ok c => if c.Carries (.known name) then some c else none
  | .error _ => none

namespace Channel

variable {ch : Channel}

/-- The first command with this id among those that are delivered. -/
def firstReply? (ch : Channel) (name : CommandName) (s : Scene) : Option Command :=
  (ch.deliveries s).findSome? (Arrival.carrying? name)

private theorem run_listen {σ α : Type} (ch : Channel) (hear : σ → Arrival → Heard σ α) (timeout : Span)
    (state : σ) (s : Scene) :
    (do let (_, result) ← ch.listen hear timeout state
        MonadExcept.ofExcept result : Radio α) s =
      ((ch.listen hear timeout state s).1.2, (ch.listen hear timeout state s).2) := by
  rw [run_bind]
  change (MonadExcept.ofExcept (ch.listen hear timeout state s).1.2 : Radio α)
    (ch.listen hear timeout state s).2 = _
  cases (ch.listen hear timeout state s).1.2 with
  | ok a => rfl
  | error e => rfl

theorem wait_eq (ch : Channel) (timeout : Span) (s : Scene) :
    ch.wait timeout s =
      ((ch.listen ch.hearNext timeout () s).1.2, (ch.listen ch.hearNext timeout () s).2) :=
  run_listen ch ch.hearNext timeout () s

theorem waitFor_eq (ch : Channel) (id : CommandId) (timeout : Span) (s : Scene) :
    ch.waitFor id timeout s =
      ((ch.listen (ch.hearFor id) timeout () s).1.2, (ch.listen (ch.hearFor id) timeout () s).2) :=
  run_listen ch (ch.hearFor id) timeout () s

theorem quiet_waitFor (ch : Channel) (id : CommandId) (timeout : Span) (s : Scene) :
    s.Quiet (ch.waitFor id timeout s).2 := by
  rw [waitFor_eq]
  exact ch.quiet_listen _ timeout () s

theorem hearFor_ne_more (ch : Channel) (id : CommandId) (state next : Unit) (arrival : Arrival) :
    ch.hearFor id state arrival ≠ .more next := by
  intro h
  cases arrival with
  | error e => cases h
  | ok c =>
    rw [hearFor] at h
    split at h
    · cases h
    · split at h <;> cases h

theorem skip_of_hears {id : CommandId} {heard : List Arrival} {state final : Unit}
    (h : Hears (ch.hearFor id) state heard final) : ∀ arrival ∈ heard, ch.hearFor id () arrival = .skip := by
  induction h with
  | nil state => simp
  | skip hheard rest ih =>
    rw [List.forall_mem_cons]
    exact ⟨hheard, ih⟩
  | more hheard rest ih => exact absurd hheard (ch.hearFor_ne_more _ _ _ _)

private theorem carrying?_of_hears {name : CommandName} {heard : List Arrival} {state final : Unit}
    (h : Hears (ch.hearFor (.known name)) state heard final) :
    ∀ arrival ∈ heard, Arrival.carrying? name arrival = none := by
  intro arrival hmem
  have hskip := skip_of_hears h arrival hmem
  cases arrival with
  | error e => rfl
  | ok c =>
    rw [hearFor] at hskip
    split at hskip
    · contradiction
    · rename_i hcarries
      rw [Arrival.carrying?, if_neg hcarries]

/-- A wait for an id returns the first command with this id that is delivered. -/
theorem waitFor_ok {name : CommandName} {timeout : Span} {s s' : Scene} {c : Command}
    (h : ch.waitFor (.known name) timeout s = (.ok c, s')) :
    c.Carries (.known name) ∧ ch.firstReply? name s = some c := by
  obtain ⟨heard, hhears, hends⟩ := ch.heeds_listen (ch.hearFor (.known name)) timeout () s
  rw [waitFor_eq, Prod.mk.injEq] at h
  obtain ⟨hok, -⟩ := h
  rw [hok] at hends
  rcases hends with ⟨arrival, hdone, hdeliveries⟩ | ⟨hvain, -⟩
  · cases arrival with
    | error e => cases hdone
    | ok d =>
      rw [hearFor] at hdone
      split at hdone
      · rename_i hcarries
        cases hdone
        refine ⟨hcarries, ?_⟩
        rw [firstReply?, hdeliveries, List.findSome?_append,
          List.findSome?_eq_none_iff.mpr (carrying?_of_hears hhears), Option.none_or,
          List.findSome?_cons, Arrival.carrying?, if_pos hcarries]
      · split at hdone <;> cases hdone
  · rcases hvain with hvain | hvain | hvain <;> contradiction

theorem waitFor_cancelled (ch : Channel) (id : CommandId) (timeout : Span) {s : Scene}
    (h : s.cancelled = true) : ch.waitFor id timeout s = (.error .cancelled, s) := by
  rw [waitFor_eq, listen_cancelled ch _ timeout () h]

end Channel

end Latchkey
