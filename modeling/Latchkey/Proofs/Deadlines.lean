import Latchkey.Proofs.Inbound
import Latchkey.Proofs.Selection

/-!
# Deadlines

A wait in which nothing decides ends in the first millisecond in which its timeout has passed, neither earlier nor
later, and says so. Whether a clock can show that moment depends on what it shows at the beginning.
-/

namespace Latchkey

namespace ClockReading

/-- Of two scenes the second is in the first millisecond in which a clock that has shown `r` in the first one shows
`due`. -/
def Reaches (r due : ClockReading) (s s' : Scene) : Prop :=
  s.now ≤ s'.now ∧
    ∀ later : Nat, due.total ≤ r.total + (Span.ofMillis later).nanoseconds ↔ s'.now ≤ s.now + later

end ClockReading

section Deciding

variable {σ α : Type} {hear : σ → Arrival → Heard σ α}

/-- A listener for whom every arrival either decides or does not matter. -/
def Terse (hear : σ → Arrival → Heard σ α) : Prop := ∀ state arrival next, hear state arrival ≠ .more next

private theorem Terse.renewed_drain (h : Terse hear) (state : σ) (renewed : Bool) (arrivals : List Arrival) :
    (drain hear state renewed arrivals).renewed = renewed := by
  induction arrivals with
  | nil => rfl
  | cons arrival arrivals ih =>
    rw [drain]
    cases hheard : hear state arrival with
    | skip => exact ih
    | more next => exact absurd hheard (h state arrival next)
    | done result => rfl

end Deciding

namespace Channel

variable {σ α : Type} {ch : Channel} {hear : σ → Arrival → Heard σ α} {timeout : Span} {state : σ} {s : Scene}

theorem reaches_of_add? {r due : ClockReading} {s s' : Scene} (hdue : r.add? timeout = some due)
    (hnow : s'.now = s.now + patience timeout) : r.Reaches due s s' := by
  refine ⟨hnow ▸ Nat.le_add_right .., fun later => ?_⟩
  rw [ClockReading.total_of_add? hdue, hnow, Int.add_le_add_iff_left, Int.ofNat_le, Nat.add_le_add_iff_left,
    patience_le_iff]

private theorem look_of_terse (ch : Channel) (h : Terse hear) (timeout : Span) (state : σ) (deadline : Nat)
    (s : Scene) :
    (∃ final result s', ch.look hear timeout state deadline s = (.settled final result, s') ∧ s'.now = s.now) ∨
      ∃ final s', ch.look hear timeout state deadline s = (.pending final deadline, s') := by
  rw [look]
  simp only [h.renewed_drain, Bool.false_eq_true, if_false]
  split
  · exact .inl ⟨_, _, _, rfl, rfl⟩
  · split
    · exact .inl ⟨_, _, _, rfl, rfl⟩
    · split
      · exact .inl ⟨_, _, _, rfl, rfl⟩
      · split
        · exact .inl ⟨_, _, _, rfl, rfl⟩
        · exact .inr ⟨_, _, rfl⟩

/-- A wait for which the time does not start anew is over at the deadline. -/
theorem now_listenOn_le (h : Terse hear) (agenda : List Appointment) {deadline : Nat} (hnow : s.now ≤ deadline) :
    (ch.listenOn hear timeout agenda state deadline s).2.now ≤ deadline := by
  -- Every look leaves the deadline as it is, and time goes on to an appointment only if that comes before it.
  induction agenda generalizing state s with
  | nil =>
    rw [listenOn]
    rcases ch.look_of_terse h timeout state deadline s with
      ⟨final, result, s', hlook, hsame⟩ | ⟨final, s', hlook⟩
    · rw [hlook]
      exact le_of_eq_of_le hsame hnow
    · simp only [hlook, Nat.le_refl]
  | cons appointment agenda ih =>
    rw [listenOn]
    rcases ch.look_of_terse h timeout state deadline s with
      ⟨final, result, s', hlook, hsame⟩ | ⟨final, s', hlook⟩
    · rw [hlook]
      exact le_of_eq_of_le hsame hnow
    · rw [hlook]
      dsimp only
      split
      · rename_i hintime
        apply ih
        rw [Scene.now_keep]
        exact hintime
      · exact Nat.le_refl deadline

/-- Nothing that is delivered until the end of the wait decides it, and nothing ends it before the time is up. -/
structure Unanswered (ch : Channel) (skips : Arrival → Prop) (s s' : Scene) : Prop where
  skipped : ∀ arrival ∈ ch.delivered s s', skips arrival
  waiting : s'.cancelled = false
  subscribed : (s'.link ch.link).Subscribed ch.characteristic

/-- A wait in which nothing decides ends when the time is up, and says that it is. -/
theorem listen_unanswered {hear : Unit → Arrival → Heard Unit α} (h : Terse hear) (hpunctual : s.Punctual)
    {outcome : (Unit × Except Failure α) × Scene} (houtcome : ch.listen hear timeout () s = outcome)
    (hvain : ch.Unanswered (fun arrival => hear () arrival = .skip) s outcome.2) :
    outcome.1.2 = .error (tooLate timeout) ∧ outcome.2.now = s.now + patience timeout := by
  have hlast : outcome.2.now ≤ s.now + patience timeout := by
    rw [← houtcome]
    exact now_listenOn_le h s.agenda (Nat.le_add_right ..)
  have hsettles := ch.settles_of_punctual hear timeout () hpunctual
  rw [houtcome] at hsettles
  obtain ⟨heard, -, ⟨arrival, hdone, -, htook⟩ | ⟨hresult, -, -, hdue⟩⟩ := hsettles
  · have hskip : hear () arrival = .skip := by
      apply hvain.skipped
      rw [htook.delivered]
      exact List.mem_append_left _ (List.mem_append_right _ List.mem_cons_self)
    cases hskip.symm.trans hdone
  · have hsilence : ch.silence timeout outcome.2 = tooLate timeout := by
      rw [ch.silence_of_waiting timeout hvain.waiting, if_pos hvain.subscribed]
    rw [hsilence] at hresult
    exact ⟨hresult, Nat.le_antisymm hlast (hdue hsilence)⟩

private theorem terse_hearFor (ch : Channel) (id : CommandId) : Terse (ch.hearFor id) :=
  fun state arrival next => ch.hearFor_ne_more id state next arrival

private theorem terse_hearNext (ch : Channel) : Terse ch.hearNext := by
  intro _ arrival next
  rw [hearNext_eq]
  nofun

theorem waitFor_unanswered {id : CommandId} {result : Except Failure Command} {after : Scene}
    (hpunctual : s.Punctual) (hwait : ch.waitFor id timeout s = (result, after))
    (h : ch.Unanswered (Arrival.Passed id) s after) :
    result = .error (tooLate timeout) ∧ after.now = s.now + patience timeout := by
  rw [waitFor_eq] at hwait
  cases hwait
  refine listen_unanswered (ch.terse_hearFor id) hpunctual rfl ⟨fun arrival hmem => ?_, h.waiting, h.subscribed⟩
  rw [hearFor_eq, if_pos (h.skipped arrival hmem)]

theorem unanswered_of_bypasses {id : CommandId} (hwaiting : s.cancelled = false)
    (hsubscribed : (s.link ch.link).Subscribed ch.characteristic)
    (hpassed : ∀ arrival ∈ ch.inbox s, arrival.Passed id) (hbypasses : s.Bypasses ch)
    (hspares : ∀ appointment ∈ s.agenda, appointment.happening ≠ .lost ch.link) :
    ch.Unanswered (Arrival.Passed id) s (ch.waitFor id timeout s).2 := by
  have hstays := ch.cancelled_listen (ch.hearFor id) timeout () hbypasses
  obtain ⟨taken, htook, -⟩ := selects_of_settles (ch.settles_listen (ch.hearFor id) timeout () s) hwaiting
  rw [waitFor_eq]
  refine ⟨?_, hstays.trans hwaiting, (htook.subscribed_of_bypasses hbypasses hspares).mpr hsubscribed⟩
  rw [htook.delivered, ← htook.inbox_of_bypasses hbypasses]
  exact hpassed

theorem wait_unanswered {result : Except Failure Command} {after : Scene} (hpunctual : s.Punctual)
    (hwait : ch.wait timeout s = (result, after)) (h : ch.Unanswered (fun _ => False) s after) :
    result = .error (tooLate timeout) ∧ after.now = s.now + patience timeout := by
  rw [wait_eq] at hwait
  cases hwait
  exact listen_unanswered ch.terse_hearNext hpunctual rfl
    ⟨fun arrival hmem => (h.skipped arrival hmem).elim, h.waiting, h.subscribed⟩

end Channel

end Latchkey
