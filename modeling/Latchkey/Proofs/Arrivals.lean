import Latchkey.Proofs.Reassembly
import Latchkey.Proofs.Sending

/-!
# What a listener hears

Everything that will arrive over a channel is settled by its mailbox and the agenda. A listener takes it in
order from the front and leaves the rest, so what it makes of it depends on nothing else, except that it may
stop early.
-/

namespace Latchkey

namespace Registry

theorem get?_mapValues {α : Type} (u : Uuid) (change : α → α) (registry : Registry α) :
    (registry.mapValues change).get? u = (registry.get? u).map change := by
  induction registry with
  | nil => rfl
  | cons entry registry ih =>
    obtain ⟨v, value⟩ := entry
    simp only [mapValues, List.map_cons] at ih ⊢
    rw [get?_cons, get?_cons, ih]
    split <;> rfl

end Registry

namespace Mailbox

/-- The mailbox with other arrivals in front of its own. -/
def prepend (front : List Arrival) (box : Mailbox) : Mailbox := { box with inbox := front ++ box.inbox }

private theorem push_prepend (front : List Arrival) (box : Mailbox) (chunk : Bytes) :
    (box.prepend front).push chunk = (box.push chunk).prepend front := by
  by_cases hfull : chunk.length = Chunk.capacity
  · rw [push_full _ hfull, push_full _ hfull]
    rfl
  · rw [push_last _ hfull, push_last _ hfull]
    simp only [prepend, List.append_assoc]

private theorem deliver_prepend (front : List Arrival) (box : Mailbox) (chunk : Bytes) :
    (box.prepend front).deliver chunk = (box.deliver chunk).prepend front := by
  by_cases hattached : box.attached = true
  · have hattached' : (box.prepend front).attached = true := hattached
    rw [deliver, if_pos hattached', deliver, if_pos hattached, push_prepend]
  · have hattached' : ¬ (box.prepend front).attached = true := hattached
    rw [deliver, if_neg hattached', deliver, if_neg hattached]

theorem foldl_deliver_prepend (front : List Arrival) (chunks : List Bytes) (box : Mailbox) :
    chunks.foldl deliver (box.prepend front) = (chunks.foldl deliver box).prepend front := by
  induction chunks generalizing box with
  | nil => rfl
  | cons chunk chunks ih =>
    rw [List.foldl_cons, deliver_prepend, ih]
    rfl

end Mailbox

namespace Channel

variable {ch : Channel} {front : List Arrival} {s t : Scene}

/-- What a happening does to the mailbox of the channel. -/
def effect (ch : Channel) (s : Scene) : Happening → Mailbox → Mailbox
  | .lost i =>
    if i = ch.link ∧ Operation.close ∉ (s.link ch.link).failing then Mailbox.detach else id
  | .arrival i u chunks =>
    if i = ch.link ∧ u = ch.characteristic then fun box => chunks.foldl Mailbox.deliver box else id
  | .cancel | .failure _ _ => id

theorem mailbox?_of_length_le (h : s.links.length ≤ ch.link) : ch.mailbox? s = none := by
  rw [mailbox?, Scene.link_of_length_le h]
  rfl

theorem mailbox?_adjustLink (ch : Channel) (i : Nat) (change : Peripheral → Peripheral) (s : Scene) :
    ch.mailbox? (s.adjustLink i change) =
      if i = ch.link ∧ ch.link < s.links.length then
        (change (s.link ch.link)).mailboxes.get? ch.characteristic
      else ch.mailbox? s := by
  rw [mailbox?, Scene.link_adjustLink]
  split
  · rfl
  · rfl

theorem mailbox?_happen (ch : Channel) (s : Scene) (x : Happening) :
    ch.mailbox? (s.happen x) = (ch.mailbox? s).map (ch.effect s x) := by
  by_cases hlink : ch.link < s.links.length
  · cases x with
    | cancel =>
      rw [effect, Option.map_id]
      rfl
    | failure i op =>
      rw [Scene.happen, mailbox?_adjustLink]
      simp [effect, mailbox?]
    | lost i =>
      rw [Scene.happen, mailbox?_adjustLink, Peripheral.lost_eq]
      by_cases hi : i = ch.link
      · by_cases hfails : Operation.close ∈ (s.link ch.link).failing
        · simp [effect, mailbox?, hfails]
        · simp [effect, mailbox?, hfails, hi, hlink, Registry.get?_mapValues]
      · simp [effect, mailbox?, hi]
    | arrival i u chunks =>
      rw [Scene.happen, mailbox?_adjustLink, Peripheral.notifyAll_eq]
      by_cases hi : i = ch.link
      · by_cases hu : u = ch.characteristic
        · simp [effect, mailbox?, hi, hlink, hu, Registry.get?_adjust]
        · simp [effect, mailbox?, hi, hlink, hu, Ne.symm hu, Registry.get?_adjust]
      · simp [effect, mailbox?, hi]
  · -- A link that does not exist has no mailbox, before or after.
    have hlength := (Scene.quiet_happen s x).length
    rw [mailbox?_of_length_le (by omega), mailbox?_of_length_le (by omega)]
    rfl

private theorem effect_prepend (ch : Channel) (s : Scene) (x : Happening) (box : Mailbox) :
    ch.effect s x (box.prepend front) = (ch.effect s x box).prepend front := by
  cases x with
  | cancel => rfl
  | failure i op => rfl
  | lost i =>
    simp only [effect]
    split <;> rfl
  | arrival i u chunks =>
    simp only [effect]
    split
    · exact Mailbox.foldl_deliver_prepend front chunks box
    · rfl

end Channel

namespace Scene

/-- The scene after everything that is still to happen. -/
def lapse : List Appointment → Scene → Scene
  | [], s => s
  | appointment :: agenda, s => lapse agenda (s.keep appointment agenda)

/-- The scene after these appointments; `later` is what comes after them. -/
def keepAll (later : List Appointment) : List Appointment → Scene → Scene
  | [], s => s
  | appointment :: kept, s => keepAll later kept (s.keep appointment (kept ++ later))

private theorem lapse_eq (agenda : List Appointment) (s : Scene) : lapse agenda s = s.keepAll [] agenda := by
  induction agenda generalizing s with
  | nil => rfl
  | cons appointment agenda ih => rw [lapse, ih, keepAll, List.append_nil]

private theorem keepAll_append (later first second : List Appointment) (s : Scene) :
    s.keepAll later (first ++ second) = (s.keepAll (second ++ later) first).keepAll later second := by
  induction first generalizing s with
  | nil => rfl
  | cons appointment first ih => rw [List.cons_append, keepAll, List.append_assoc, ih, keepAll]

private theorem agenda_keepAll {later kept : List Appointment} {s : Scene} (h : s.agenda = kept ++ later) :
    (s.keepAll later kept).agenda = later := by
  induction kept generalizing s with
  | nil => exact h
  | cons appointment kept ih => exact ih (agenda_keep ..)

/-- The appointments that have been kept by the time of the second scene. -/
def elapsed (s s' : Scene) : List Appointment := s.agenda.take (s.agenda.length - s'.agenda.length)

private theorem elapsed_of_agenda {s s' : Scene} {kept : List Appointment} (h : s.agenda = kept ++ s'.agenda) :
    s.elapsed s' = kept := by
  rw [elapsed, h, List.length_append, Nat.add_sub_cancel, List.take_left]

theorem elapsed_of_nil {s : Scene} (h : s.agenda = []) (s' : Scene) : s.elapsed s' = [] := by
  rw [elapsed, h, List.take_nil]

/-- What the first scene would be by the time of the second one if nobody had listened meanwhile. -/
def unheard (s s' : Scene) : Scene := s.keepAll s'.agenda (s.elapsed s')

theorem unheard_of_nil {s : Scene} (h : s.agenda = []) (s' : Scene) : s.unheard s' = s := by
  rw [unheard, elapsed_of_nil h, keepAll]

theorem agenda_begin_nil (s : Scene) : (s.begin none []).agenda = [] := List.mergeSort_nil

private theorem unheard_of_agenda {s s' : Scene} (h : s'.agenda = s.agenda) : s.unheard s' = s := by
  have hnothing : s.elapsed s' = [] := elapsed_of_agenda h.symm
  rw [unheard, hnothing, keepAll]

end Scene

namespace Channel

variable {ch : Channel} {front : List Arrival} {s t : Scene}

/-- What has arrived and not been taken out yet. -/
def inbox (ch : Channel) (s : Scene) : List Arrival := ((ch.mailbox? s).map Mailbox.inbox).getD []

/-- What a listener can still hear: what has arrived and what is to arrive. -/
def deliveries (ch : Channel) (s : Scene) : List Arrival := ch.inbox (Scene.lapse s.agenda s)

/-- The scenes have the same future, but in the first of them the channel has these arrivals in front. -/
structure Ahead (ch : Channel) (front : List Arrival) (s t : Scene) : Prop where
  agenda : s.agenda = t.agenda
  length : s.links.length = t.links.length
  failing : (s.link ch.link).failing = (t.link ch.link).failing
  mailbox : (∃ box, ch.mailbox? t = some box ∧ ch.mailbox? s = some (box.prepend front)) ∨
    (ch.mailbox? t = none ∧ ch.mailbox? s = none ∧ front = [])

namespace Ahead

theorem refl (ch : Channel) (s : Scene) : ch.Ahead [] s s := by
  refine ⟨rfl, rfl, rfl, ?_⟩
  cases hbox : ch.mailbox? s with
  | none => exact .inr ⟨rfl, rfl, rfl⟩
  | some box => exact .inl ⟨box, rfl, rfl⟩

private theorem trans {back : List Arrival} {u : Scene} (h : ch.Ahead front s t) (h' : ch.Ahead back t u) :
    ch.Ahead (front ++ back) s u := by
  refine ⟨h.agenda.trans h'.agenda, h.length.trans h'.length, h.failing.trans h'.failing, ?_⟩
  rcases h'.mailbox with ⟨box, hu, ht⟩ | ⟨hu, ht, rfl⟩
  · rcases h.mailbox with ⟨box', ht', hs⟩ | ⟨ht', -, -⟩
    · rw [ht] at ht'
      cases ht'
      refine .inl ⟨box, hu, ?_⟩
      rw [hs, Mailbox.prepend, Mailbox.prepend, Mailbox.prepend, List.append_assoc]
    · rw [ht] at ht'
      cases ht'
  · rcases h.mailbox with ⟨box', ht', -⟩ | ⟨-, hs, rfl⟩
    · rw [ht] at ht'
      cases ht'
    · exact .inr ⟨hu, hs, rfl⟩

theorem inbox (h : ch.Ahead front s t) : ch.inbox s = front ++ ch.inbox t := by
  rcases h.mailbox with ⟨box, ht, hs⟩ | ⟨ht, hs, rfl⟩
  · rw [Channel.inbox, Channel.inbox, ht, hs]
    rfl
  · rw [Channel.inbox, Channel.inbox, ht, hs]
    rfl

private theorem failing_happen (ch : Channel) (s : Scene) (x : Happening) :
    ((s.happen x).link ch.link).failing =
      match x with
      | .failure i op =>
        if i = ch.link ∧ ch.link < s.links.length then op :: (s.link ch.link).failing
        else (s.link ch.link).failing
      | _ => (s.link ch.link).failing := by
  cases x with
  | cancel => rfl
  | failure i op =>
    rw [Scene.happen, Scene.link_adjustLink]
    by_cases h : i = ch.link ∧ ch.link < s.links.length
    · simp only [if_pos h]
    · simp only [if_neg h]
  | lost i =>
    rw [Scene.happen, Scene.link_adjustLink]
    split
    · rw [Peripheral.lost_eq]
      split <;> rfl
    · rfl
  | arrival i u chunks =>
    rw [Scene.happen, Scene.link_adjustLink]
    split
    · rw [Peripheral.notifyAll_eq]
    · rfl

private theorem happen (h : ch.Ahead front s t) (x : Happening) : ch.Ahead front (s.happen x) (t.happen x) := by
  -- The effect depends on the scene only through what fails on the link, which is the same in both.
  have hagenda (s : Scene) : (s.happen x).agenda = s.agenda := by cases x <;> rfl
  have heffect : ch.effect s x = ch.effect t x := by
    cases x with
    | lost i => simp only [effect, h.failing]
    | cancel | failure i op | arrival i u chunks => rfl
  refine ⟨by rw [hagenda, hagenda, h.agenda], ?_, ?_, ?_⟩
  · rw [(Scene.quiet_happen s x).length, (Scene.quiet_happen t x).length, h.length]
  · rw [failing_happen, failing_happen, h.failing, h.length]
  · rw [mailbox?_happen, mailbox?_happen, heffect]
    rcases h.mailbox with ⟨box, ht, hs⟩ | ⟨ht, hs, hfront⟩
    · refine .inl ⟨ch.effect t x box, ?_, ?_⟩
      · rw [ht, Option.map_some]
      · rw [hs, Option.map_some, effect_prepend]
    · rw [ht, hs]
      exact .inr ⟨rfl, rfl, hfront⟩

private theorem keep (h : ch.Ahead front s t) (appointment : Appointment) (agenda : List Appointment) :
    ch.Ahead front (s.keep appointment agenda) (t.keep appointment agenda) := by
  have h' : ch.Ahead front { s with now := appointment.time, agenda }
      { t with now := appointment.time, agenda } := ⟨rfl, h.length, h.failing, h.mailbox⟩
  exact h'.happen appointment.happening

private theorem keepAll (h : ch.Ahead front s t) (later kept : List Appointment) :
    ch.Ahead front (s.keepAll later kept) (t.keepAll later kept) := by
  induction kept generalizing s t with
  | nil => exact h
  | cons appointment kept ih => exact ih (h.keep appointment (kept ++ later))

theorem deliveries (h : ch.Ahead front s t) : ch.deliveries s = front ++ ch.deliveries t := by
  have hall := h.keepAll [] t.agenda
  rw [Channel.deliveries, Channel.deliveries, h.agenda, Scene.lapse_eq, Scene.lapse_eq]
  exact hall.inbox

end Ahead

private theorem deliveries_unheard {s' : Scene} (h : s'.agenda <:+ s.agenda) :
    ch.deliveries (s.unheard s') = ch.deliveries s := by
  obtain ⟨kept, hkept⟩ := h
  have hrest := Scene.agenda_keepAll hkept.symm
  rw [Scene.unheard, Scene.elapsed_of_agenda hkept.symm, deliveries, deliveries, hrest, Scene.lapse_eq,
    Scene.lapse_eq, ← hkept, Scene.keepAll_append, List.append_nil]

theorem mailbox?_putInbox (ch : Channel) (inbox : List Arrival) (s : Scene) :
    ch.mailbox? (ch.putInbox inbox s) = (ch.mailbox? s).map fun box => { box with inbox } := by
  rw [putInbox, mailbox?_adjustLink]
  split
  · rw [Registry.get?_adjust, if_pos rfl]
    rfl
  · rename_i h
    rw [mailbox?_of_length_le (by omega)]
    rfl

theorem inbox_emptied (ch : Channel) (s : Scene) : ch.inbox (ch.putInbox [] s) = [] := by
  rw [inbox, mailbox?_putInbox]
  cases ch.mailbox? s <;> rfl

theorem inbox_keep_cancelled {appointment : Appointment} {agenda : List Appointment}
    (hwaiting : s.cancelled = false) (hempty : ch.inbox s = [])
    (h : (s.keep appointment agenda).cancelled = true) : ch.inbox (s.keep appointment agenda) = [] := by
  obtain ⟨time, happening⟩ := appointment
  cases happening with
  | cancel => exact hempty
  | failure i op | lost i | arrival i u chunks => exact absurd (hwaiting.symm.trans h) Bool.false_ne_true

theorem ahead_putInbox (ch : Channel) {rest : List Arrival} (h : ch.inbox s = front ++ rest) :
    ch.Ahead front s (ch.putInbox rest s) := by
  have hfailing : ((ch.putInbox rest s).link ch.link).failing = (s.link ch.link).failing := by
    rw [putInbox, Scene.link_adjustLink]
    split <;> rfl
  refine ⟨rfl, (Scene.length_putLink ..).symm, hfailing.symm, ?_⟩
  rw [mailbox?_putInbox]
  cases hmailbox : ch.mailbox? s with
  | none =>
    rw [inbox, hmailbox] at h
    exact .inr ⟨rfl, rfl, (List.append_eq_nil_iff.mp h.symm).1⟩
  | some box =>
    rw [inbox, hmailbox] at h
    refine .inl ⟨{ box with inbox := rest }, rfl, ?_⟩
    rw [Mailbox.prepend, ← h]
    rfl

/-- What has been delivered by the time of the second scene, whoever has listened meanwhile: what had arrived
before the first one, and everything that has arrived since. -/
def delivered (ch : Channel) (s s' : Scene) : List Arrival := ch.inbox (s.unheard s')

/-- Between the scenes time has passed, and these arrivals have been taken out. -/
structure Took (ch : Channel) (taken : List Arrival) (s s' : Scene) : Prop where
  agenda : s'.agenda <:+ s.agenda
  ahead : ch.Ahead taken (s.unheard s') s'

namespace Took

variable {s' s'' : Scene} {taken taken' : List Arrival}

private theorem of_agenda (hagenda : s'.agenda = s.agenda) (hahead : ch.Ahead taken s s') : ch.Took taken s s' := by
  refine ⟨⟨[], hagenda⟩, ?_⟩
  rw [Scene.unheard_of_agenda hagenda]
  exact hahead

theorem refl (ch : Channel) (s : Scene) : ch.Took [] s s := of_agenda rfl (.refl ch s)

theorem trans (h : ch.Took taken s s') (h' : ch.Took taken' s' s'') : ch.Took (taken ++ taken') s s'' := by
  obtain ⟨kept, hkept⟩ := h.agenda
  obtain ⟨kept', hkept'⟩ := h'.agenda
  have hboth : s.agenda = (kept ++ kept') ++ s''.agenda := by rw [List.append_assoc, hkept', hkept]
  have hunheard : s.unheard s'' = (s.unheard s').keepAll s''.agenda kept' := by
    rw [Scene.unheard, Scene.elapsed_of_agenda hboth, Scene.keepAll_append, hkept', Scene.unheard,
      Scene.elapsed_of_agenda hkept.symm]
  have hahead := h'.ahead
  rw [Scene.unheard, Scene.elapsed_of_agenda hkept'.symm] at hahead
  refine ⟨h'.agenda.trans h.agenda, ?_⟩
  rw [hunheard]
  exact (h.ahead.keepAll s''.agenda kept').trans hahead

/-- What has been delivered has been taken out or is still there. -/
theorem delivered (h : ch.Took taken s s') : ch.delivered s s' = taken ++ ch.inbox s' := h.ahead.inbox

theorem deliveries (h : ch.Took taken s s') : ch.deliveries s = taken ++ ch.deliveries s' := by
  rw [← deliveries_unheard h.agenda]
  exact h.ahead.deliveries

theorem delivered_append (h : ch.Took taken s s') (h' : ch.Took taken' s' s'') :
    ch.delivered s s'' = taken ++ ch.delivered s' s'' := by
  rw [(h.trans h').delivered, h'.delivered, List.append_assoc]

theorem now (ch : Channel) (now : Nat) (s : Scene) : ch.Took [] s { s with now } :=
  of_agenda rfl ⟨rfl, rfl, rfl, (Ahead.refl ch s).mailbox⟩

theorem keep (ch : Channel) {appointment : Appointment} {agenda : List Appointment}
    (h : s.agenda = appointment :: agenda) : ch.Took [] s (s.keep appointment agenda) := by
  have hagenda := s.agenda_keep appointment agenda
  have hkept : s.agenda = [appointment] ++ (s.keep appointment agenda).agenda := by rw [hagenda, h]; rfl
  refine ⟨⟨[appointment], hkept.symm⟩, ?_⟩
  rw [Scene.unheard, Scene.elapsed_of_agenda hkept, hagenda]
  exact .refl ch _

theorem putInbox {rest : List Arrival} (h : ch.inbox s = taken ++ rest) : ch.Took taken s (ch.putInbox rest s) :=
  of_agenda rfl (ahead_putInbox ch h)

theorem putInbox_apart {other : Channel} (h : other.characteristic ≠ ch.characteristic)
    (inbox : List Arrival) (s : Scene) : other.Took [] s (ch.putInbox inbox s) := by
  have hmailbox : other.mailbox? (ch.putInbox inbox s) = other.mailbox? s := by
    rw [Channel.putInbox, mailbox?_adjustLink]
    split
    · rw [Registry.get?_adjust, if_neg h, mailbox?]
    · rfl
  have hfailing : ((ch.putInbox inbox s).link other.link).failing = (s.link other.link).failing := by
    rw [Channel.putInbox, Scene.link_adjustLink]
    split <;> rfl
  refine of_agenda rfl ⟨rfl, (Scene.length_putLink ..).symm, hfailing.symm, ?_⟩
  rw [hmailbox]
  exact (Ahead.refl other s).mailbox

theorem lasting (ch : Channel) : Lasting (ch.Took []) where
  refl s := refl ch s
  trans h h' := h.trans h'

end Took

end Channel

end Latchkey
