import Latchkey.Proofs.Listening

/-!
# Clocks

A clock shows a moment that is to come exactly if the seconds of that moment fit its word. A wait by such a clock is
the wait as it is if the clock can show when the time is up, and otherwise there is none.
-/

namespace Latchkey

namespace Span

private theorem nanoseconds_eq (span : Span) : span.nanoseconds = span.seconds * second + span.subsecond :=
  (Nat.div_add_mod' span.nanoseconds second).symm

private theorem subsecond_lt (span : Span) : span.subsecond < second := Nat.mod_lt _ (by decide)

end Span

namespace ClockReading

variable {r later : ClockReading} {span : Span} {seconds : Int} {nanoseconds : Nat}

private theorem seconds_le (r : ClockReading) : r.seconds.toInt ≤ Int64.maxValue.toInt :=
  Int64.le_iff_toInt_le.mp (Int64.le_maxValue r.seconds)

private theorem le_seconds (r : ClockReading) : Int64.minValue.toInt ≤ r.seconds.toInt :=
  Int64.le_iff_toInt_le.mp (Int64.minValue_le r.seconds)

private theorem total_lt (r : ClockReading) : r.total < limit := by
  have hseconds := r.seconds_le
  have hnanoseconds := r.nanoseconds_lt
  simp only [total, limit, Span.second] at *
  omega

private theorem at?_eq_some_iff (h : nanoseconds < Span.second) :
    at? seconds nanoseconds = some r ↔ r.seconds.toInt = seconds ∧ r.nanoseconds = nanoseconds := by
  rw [at?]
  split
  · rw [Option.some.injEq, ClockReading.ext_iff, ← Int64.toInt_inj, Int64.toInt_ofIntLE]
    exact ⟨fun hsame => ⟨hsame.1.symm, hsame.2.symm⟩, fun hsame => ⟨hsame.1.symm, hsame.2.symm⟩⟩
  · rename_i hfits
    refine ⟨nofun, ?_⟩
    rintro ⟨rfl, -⟩
    exact absurd ⟨⟨r.le_seconds, r.seconds_le⟩, h⟩ hfits

private theorem at?_eq_none_iff (h : nanoseconds < Span.second) (hlow : Int64.minValue.toInt ≤ seconds) :
    at? seconds nanoseconds = none ↔ Int64.maxValue.toInt < seconds := by
  rw [at?, dite_eq_right_iff]
  refine ⟨fun hnone => Int.not_le.mp fun hfits => ?_, fun hlate hfits => ?_⟩
  · exact nomatch hnone ⟨⟨hlow, hfits⟩, h⟩
  · exact absurd hfits.1.2 (Int.not_le.mpr hlate)

theorem total_of_add? (h : r.add? span = some later) : later.total = r.total + span.nanoseconds := by
  have hspan := span.nanoseconds_eq
  obtain ⟨whole, hwhole, hlater⟩ := Option.bind_eq_some_iff.mp h
  obtain ⟨hseconds, hnanoseconds⟩ := (at?_eq_some_iff r.nanoseconds_lt).mp hwhole
  have hsub := span.subsecond_lt
  have hbelow := r.nanoseconds_lt
  dsimp only at hlater
  split at hlater
  · rename_i hfew
    obtain ⟨hseconds', hnanoseconds'⟩ := (at?_eq_some_iff hfew).mp hlater
    simp only [total, Span.second] at *
    omega
  · obtain ⟨hseconds', hnanoseconds'⟩ := (at?_eq_some_iff (by omega)).mp hlater
    simp only [total, Span.second] at *
    omega

/-- A clock cannot show a moment that is too late for it, and it can show every other one that is to come. -/
theorem add?_eq_none_iff : r.add? span = none ↔ limit ≤ r.total + span.nanoseconds := by
  have hspan := span.nanoseconds_eq
  have hsub := span.subsecond_lt
  have hbelow := r.nanoseconds_lt
  have hlow := r.le_seconds
  constructor
  · intro hnone
    rw [add?] at hnone
    cases hwhole : at? (r.seconds.toInt + span.seconds) r.nanoseconds with
    | none =>
      rw [at?_eq_none_iff hbelow (by omega)] at hwhole
      simp only [total, limit, Span.second] at *
      omega
    | some whole =>
      obtain ⟨hseconds, hnanoseconds⟩ := (at?_eq_some_iff hbelow).mp hwhole
      have hlow' := whole.le_seconds
      rw [hwhole] at hnone
      dsimp only [bind, Option.bind] at hnone
      -- Once the whole seconds have fitted, only a second that the nanoseconds make up can be too much.
      split at hnone
      · rename_i hfew
        rw [at?_eq_none_iff hfew hlow'] at hnone
        exact absurd whole.seconds_le (Int.not_le.mpr hnone)
      · rw [at?_eq_none_iff (by omega) (by omega)] at hnone
        simp only [total, limit, Span.second] at *
        omega
  · intro hlate
    refine Option.eq_none_iff_forall_ne_some.mpr fun later hlater => ?_
    have htotal := total_of_add? hlater
    have hlimit := later.total_lt
    omega

end ClockReading

namespace Channel

variable {σ α : Type} {ch : Channel} {hear : σ → Arrival → Heard σ α} {timeout : Span} {state : σ} {s : Scene}
  {r due : ClockReading}

theorem patience_le_iff {milliseconds : Nat} :
    patience timeout ≤ milliseconds ↔ timeout.nanoseconds ≤ (Span.ofMillis milliseconds).nanoseconds := by
  simp only [patience, Span.ofMillis]
  omega

private theorem millisUntil_of_add? (h : r.add? timeout = some due) : r.millisUntil due = patience timeout := by
  rw [ClockReading.millisUntil, ClockReading.total_of_add? h, patience, Int.add_comm, Int.add_sub_cancel,
    Int.toNat_natCast]

/-- By a clock that can show when the time is up listening is what it is without one. -/
theorem listenBy?_eq (ch : Channel) (r : ClockReading) (hear : σ → Arrival → Heard σ α) (timeout : Span) (state : σ)
    (s : Scene) :
    ch.listenBy? r hear timeout state s =
      if r.total + timeout.nanoseconds < ClockReading.limit then some (ch.listen hear timeout state s) else none := by
  rw [listenBy?]
  cases hdue : r.add? timeout with
  | none =>
    rw [if_neg (Int.not_lt.mpr (ClockReading.add?_eq_none_iff.mp hdue))]
    rfl
  | some due =>
    have hfits : r.total + timeout.nanoseconds < ClockReading.limit := by
      rw [← ClockReading.total_of_add? hdue]
      exact due.total_lt
    rw [if_pos hfits, listen, ← millisUntil_of_add? hdue]
    rfl

theorem waitBy?_eq (ch : Channel) (r : ClockReading) (timeout : Span) (s : Scene) :
    ch.waitBy? r timeout s =
      if r.total + timeout.nanoseconds < ClockReading.limit then some (ch.wait timeout s) else none := by
  rw [waitBy?, listenBy?_eq, wait_eq]
  split <;> rfl

theorem waitForBy?_eq (ch : Channel) (r : ClockReading) (id : CommandId) (timeout : Span) (s : Scene) :
    ch.waitForBy? r id timeout s =
      if r.total + timeout.nanoseconds < ClockReading.limit then some (ch.waitFor id timeout s) else none := by
  rw [waitForBy?, listenBy?_eq, waitFor_eq]
  split <;> rfl

end Channel

end Latchkey
