import Latchkey.Proofs.Subscriptions

/-!
# Punctuality

Time goes on from one appointment to the next and passes none of them by. So what was to happen before the end
of a wait has happened by then, and a wait that is in vain has lasted as long as it was meant to.
-/

namespace Latchkey

namespace Scene

variable {s s' : Scene}

/-- No appointment has been missed, and the earliest comes first. -/
structure Punctual (s : Scene) : Prop where
  sorted : s.agenda.Pairwise fun first second => first.time ≤ second.time
  now_le : ∀ appointment ∈ s.agenda, s.now ≤ appointment.time

/-- Time has not gone back, and it has not passed an appointment by. -/
def Timely (s s' : Scene) : Prop := s.Punctual → s'.Punctual ∧ s.now ≤ s'.now

private theorem timely_lasting : Lasting Timely where
  refl s hs := ⟨hs, Nat.le_refl s.now⟩
  trans h h' := by
    intro hs
    obtain ⟨hs', hnow⟩ := h hs
    obtain ⟨hs'', hnow'⟩ := h' hs'
    exact ⟨hs'', Nat.le_trans hnow hnow'⟩

theorem punctual_begin (cancelAt : Option Nat) (appointments : List Appointment) (s : Scene) :
    (s.begin cancelAt appointments).Punctual := by
  refine ⟨?_, fun _ _ => Nat.zero_le _⟩
  have htrans (a b c : Appointment) (hab : decide (a.time ≤ b.time) = true)
      (hbc : decide (b.time ≤ c.time) = true) : decide (a.time ≤ c.time) = true :=
    decide_eq_true (Nat.le_trans (of_decide_eq_true hab) (of_decide_eq_true hbc))
  have htotal (a b : Appointment) : (decide (a.time ≤ b.time) || decide (b.time ≤ a.time)) = true := by
    rw [Bool.or_eq_true, decide_eq_true_iff, decide_eq_true_iff]
    exact Nat.le_total _ _
  exact (List.pairwise_mergeSort htrans htotal _).imp of_decide_eq_true

theorem Instant.timely (h : s.Instant s') : s.Timely s' := by
  intro hs
  refine ⟨⟨?_, ?_⟩, Nat.le_of_eq h.now.symm⟩
  · rw [h.agenda]
    exact hs.sorted
  · rw [h.agenda, h.now]
    exact hs.now_le

private theorem timely_keep {appointment : Appointment} {agenda : List Appointment}
    (h : s.agenda = appointment :: agenda) : s.Timely (s.keep appointment agenda) := by
  rintro ⟨hsorted, hnow⟩
  rw [h] at hsorted hnow
  obtain ⟨hfirst, hrest⟩ := List.pairwise_cons.mp hsorted
  refine ⟨⟨?_, ?_⟩, ?_⟩
  · rw [agenda_keep]
    exact hrest
  · rw [agenda_keep, now_keep]
    exact hfirst
  · rw [now_keep]
    exact hnow appointment List.mem_cons_self

private theorem timely_now {now : Nat} (hnow : s.now ≤ now) (hnext : ∀ next ∈ s.agenda.head?, now ≤ next.time) :
    s.Timely { s with now } := by
  rintro ⟨hsorted, -⟩
  refine ⟨⟨hsorted, fun appointment hmem => ?_⟩, hnow⟩
  cases hagenda : s.agenda with
  | nil =>
    rw [hagenda] at hmem
    cases hmem
  | cons next agenda =>
    have hfirst : now ≤ next.time := hnext next (by rw [hagenda]; rfl)
    rw [hagenda] at hsorted hmem
    rcases List.mem_cons.mp hmem with rfl | hlater
    · exact hfirst
    · exact Nat.le_trans hfirst ((List.pairwise_cons.mp hsorted).1 appointment hlater)

end Scene

namespace Channel

variable {σ α : Type} {s : Scene}

theorem timely_listen (ch : Channel) (hear : σ → Arrival → Heard σ α) (timeout : Span) (state : σ)
    (s : Scene) : s.Timely (ch.listen hear timeout state s).2 :=
  keeps_listenOn Scene.timely_lasting (fun _ _ _ => Scene.Instant.timely ⟨rfl, rfl, rfl⟩)
    (fun _ _ => Scene.timely_now) (fun _ _ _ => Scene.timely_keep) s.agenda _ rfl

theorem timely_waitFor (ch : Channel) (id : CommandId) (timeout : Span) (s : Scene) :
    s.Timely (ch.waitFor id timeout s).2 := by
  rw [waitFor_eq]
  exact ch.timely_listen _ timeout () s

/-- A wait that is in vain lasts until the time is up. -/
theorem settles_of_punctual (ch : Channel) (hear : σ → Arrival → Heard σ α) (timeout : Span) (state : σ)
    (hs : s.Punctual) :
    ch.Settles hear timeout (s.now + patience timeout) state s (ch.listen hear timeout state s) :=
  settles_listenOn s.agenda rfl (Nat.le_refl _) (Nat.le_refl _) fun appointment hmem =>
    Nat.add_le_add_right (hs.now_le appointment hmem) _

end Channel

end Latchkey
