import Mathlib.Data.Finset.Fold
import Mathlib.Data.Nat.Bitwise
import Mathlib.Dynamics.PeriodicPts.Defs
import Mathlib.Order.Interval.Finset.Nat
import Mathlib.Tactic.NormNum.Prime
import Latchkey.Crc16

/-!
# Remainders

A register of the frame check is a polynomial with coefficients 0 and 1, reduced modulo
`x¹⁶ + x¹² + x⁵ + 1`; exclusive or adds and a shift multiplies by `x`. The polynomial has `x + 1` as a
factor, so a sum of an odd number of powers of `x` never vanishes; it has a constant term, so a sum of powers
that lie close together does not vanish either; and `x` has the order 32767, so two powers below that differ.
-/

namespace Latchkey.Crc16

private theorem testBit_of_le (r : UInt16) {i : Nat} (h : 16 ≤ i) : r.toNat.testBit i = false :=
  Nat.testBit_lt_two_pow (Nat.lt_of_lt_of_le r.toNat_lt (Nat.pow_le_pow_right (by decide) h))

theorem eq_of_testBit {a b : UInt16} (h : ∀ i < 16, a.toNat.testBit i = b.toNat.testBit i) : a = b := by
  apply UInt16.toNat_inj.mp
  apply Nat.eq_of_testBit_eq
  intro i
  by_cases hi : i < 16
  · exact h i hi
  · rw [testBit_of_le a (by omega), testBit_of_le b (by omega)]

private theorem shift_eq (r : UInt16) :
    shift r = r <<< 1 ^^^ if r.toNat.testBit 15 then polynomial else 0 := by
  have hhigh : r &&& 0x8000 = 0 ↔ r.toNat.testBit 15 = false := by
    have hand : (r &&& 0x8000).toNat = (r.toNat.testBit 15).toNat * 2 ^ 15 := Nat.and_two_pow r.toNat 15
    rw [← UInt16.toNat_inj, hand]
    cases r.toNat.testBit 15 <;> decide
  rw [shift]
  by_cases h : r.toNat.testBit 15 = false
  · simp [hhigh, h]
  · simp [hhigh, h]

private theorem shift_xor (a b : UInt16) : shift (a ^^^ b) = shift a ^^^ shift b := by
  have hreduce : ∀ p q : Bool, (if p ^^ q then polynomial else 0) =
      (if p then polynomial else 0) ^^^ if q then polynomial else 0 := by decide
  rw [shift_eq, shift_eq, shift_eq, UInt16.shiftLeft_xor, UInt16.toNat_xor, Nat.testBit_xor, hreduce]
  ac_rfl

private theorem testBit_shift (r : UInt16) {i : Nat} (hi : i < 16) :
    (shift r).toNat.testBit i =
      ((decide (1 ≤ i) && r.toNat.testBit (i - 1)) ^^
        (r.toNat.testBit 15 && polynomial.toNat.testBit i)) := by
  have hleft : (r <<< 1).toNat.testBit i = (decide (1 ≤ i) && r.toNat.testBit (i - 1)) := by
    rw [UInt16.toNat_shiftLeft, Nat.testBit_mod_two_pow, decide_eq_true hi, Bool.true_and]
    exact Nat.testBit_shiftLeft ..
  rw [shift_eq, UInt16.toNat_xor, Nat.testBit_xor, hleft]
  cases r.toNat.testBit 15 <;> simp

private theorem shifts_eq_iterate (count : Nat) (r : UInt16) : shifts count r = shift^[count] r := by
  induction count generalizing r with
  | zero => rfl
  | succ count ih => exact ih (shift r)

private theorem shifts_add (i k : Nat) (r : UInt16) : shifts (i + k) r = shifts i (shifts k r) := by
  simp only [shifts_eq_iterate, Function.iterate_add_apply]

theorem shifts_xor (count : Nat) (a b : UInt16) :
    shifts count (a ^^^ b) = shifts count a ^^^ shifts count b := by
  induction count generalizing a b with
  | zero => rfl
  | succ count ih => rw [shifts, shift_xor, ih, shifts, shifts]

private theorem shifts_zero (count : Nat) : shifts count 0 = 0 := by
  induction count with
  | zero => rfl
  | succ count ih => exact ih

private theorem shift_eq_zero {r : UInt16} (h : shift r = 0) : r = 0 := by
  have hbit (i : Nat) (hi : i < 16) : (shift r).toNat.testBit i = false := by
    rw [h]
    exact Nat.zero_testBit i
  have hhigh : r.toNat.testBit 15 = false := by
    have h0 := hbit 0 (by decide)
    rw [testBit_shift r (by decide)] at h0
    simpa [polynomial] using h0
  apply eq_of_testBit
  intro i hi
  by_cases htop : i = 15
  · rw [htop, hhigh]
    rfl
  · have hnext := hbit (i + 1) (by omega)
    rw [testBit_shift r (by omega), hhigh] at hnext
    simpa using hnext

private theorem shifts_eq_zero {count : Nat} {r : UInt16} (h : shifts count r = 0) : r = 0 := by
  induction count generalizing r with
  | zero => exact h
  | succ count ih => exact shift_eq_zero (ih h)

/-- The remainder of a power of `x`. -/
def power (k : Nat) : UInt16 := shifts k 1

/-- The remainder of the sum of the powers of `x` with these degrees. -/
def remainder (degrees : Finset Nat) : UInt16 := degrees.fold (· ^^^ ·) 0 power

theorem shifts_power (i k : Nat) : shifts i (power k) = power (i + k) := (shifts_add i k 1).symm

@[simp] theorem remainder_empty : remainder ∅ = 0 := rfl

theorem remainder_insert {k : Nat} {degrees : Finset Nat} (h : k ∉ degrees) :
    remainder (insert k degrees) = power k ^^^ remainder degrees := Finset.fold_insert h

theorem remainder_pair {i k : Nat} (h : i ≠ k) : remainder {i, k} = power i ^^^ power k := by
  rw [remainder_insert (by simpa using h), ← insert_empty_eq, remainder_insert (Finset.notMem_empty k),
    remainder_empty, UInt16.xor_zero]

private theorem shifts_remainder (count : Nat) (degrees : Finset Nat) :
    shifts count (remainder degrees) = degrees.fold (· ^^^ ·) 0 fun k => power (count + k) := by
  induction degrees using Finset.induction_on with
  | empty => exact shifts_zero count
  | insert k degrees hk ih =>
    rw [remainder_insert hk, shifts_xor, shifts_power, ih, Finset.fold_insert hk]

theorem power_eq_two_pow {k : Nat} (h : k < 16) : (power k).toNat = 2 ^ k := by
  revert k
  decide

private theorem testBit_remainder {degrees : Finset Nat} (h : degrees ⊆ Finset.range 16) (i : Nat) :
    (remainder degrees).toNat.testBit i = decide (i ∈ degrees) := by
  induction degrees using Finset.induction_on with
  | empty => simp
  | insert k degrees hk ih =>
    rw [Finset.insert_subset_iff, Finset.mem_range] at h
    rw [remainder_insert hk, UInt16.toNat_xor, Nat.testBit_xor, power_eq_two_pow h.1, Nat.testBit_two_pow,
      ih h.2]
    by_cases hik : k = i
    · subst hik
      simp [hk]
    · simp [hik, Ne.symm hik]

/-- The degrees of a reduced polynomial. -/
def bits (r : UInt16) : Finset Nat := (Finset.range 16).filter fun i => r.toNat.testBit i

private theorem remainder_bits (r : UInt16) : remainder (bits r) = r := by
  apply eq_of_testBit
  intro i hi
  have hbits : bits r ⊆ Finset.range 16 := Finset.filter_subset ..
  rw [testBit_remainder hbits]
  simp [bits, hi]

/-- The product of two reduced polynomials. -/
def multiply (a b : UInt16) : UInt16 := (bits b).fold (· ^^^ ·) 0 fun k => shifts k a

private theorem power_add (i k : Nat) : power (i + k) = multiply (power i) (power k) := by
  have hsum := shifts_remainder i (bits (power k))
  rw [remainder_bits, shifts_power] at hsum
  simp only [hsum, multiply, shifts_power, Nat.add_comm]

/-- A power by repeated squaring, whose degree is read from its low `width` bits. -/
def powerBySquares : (width k : Nat) → UInt16
  | 0, _ => 1
  | width + 1, k =>
    let root := powerBySquares width (k / 2)
    let square := multiply root root
    if k % 2 = 1 then shift square else square

private theorem powerBySquares_eq {width k : Nat} (h : k < 2 ^ width) : powerBySquares width k = power k := by
  induction width generalizing k with
  | zero =>
    have hk : k = 0 := by omega
    rw [hk]
    rfl
  | succ width ih =>
    rw [Nat.pow_succ] at h
    rw [powerBySquares, ih (by omega)]
    simp only [← power_add]
    split
    · have hodd : 1 + (k / 2 + k / 2) = k := by omega
      have hshift := shifts_power 1 (k / 2 + k / 2)
      rw [hodd] at hshift
      exact hshift
    · congr 1
      omega

/-- The power of degree 32767 is 1 again, which no power of a degree that divides this is before. -/
theorem power_order : power 32767 = 1 ∧ power 4681 ≠ 1 ∧ power 1057 ≠ 1 ∧ power 217 ≠ 1 := by
  have hfull : powerBySquares 15 32767 = 1 := by decide +kernel
  have h7 : powerBySquares 13 4681 ≠ 1 := by decide +kernel
  have h31 : powerBySquares 11 1057 ≠ 1 := by decide +kernel
  have h151 : powerBySquares 8 217 ≠ 1 := by decide +kernel
  rw [powerBySquares_eq (by decide)] at hfull h7 h31 h151
  exact ⟨hfull, h7, h31, h151⟩

private theorem isPeriodicPt_shift_iff (k : Nat) : Function.IsPeriodicPt shift k 1 ↔ power k = 1 := by
  rw [power, shifts_eq_iterate]
  rfl

private theorem power_ne_one {k : Nat} (hpos : 0 < k) (hlt : k < 32767) : power k ≠ 1 := by
  intro hk
  obtain ⟨hfull, h7, h31, h151⟩ := power_order
  rw [Ne, ← isPeriodicPt_shift_iff] at h7 h31 h151
  rw [← isPeriodicPt_shift_iff] at hk hfull
  have hgcd := hk.gcd hfull
  have hproper : k.gcd 32767 < 32767 := Nat.lt_of_le_of_lt (Nat.gcd_le_left _ hpos) hlt
  obtain ⟨m, hm⟩ := Nat.gcd_dvd_right k 32767
  generalize k.gcd 32767 = d at hgcd hproper hm
  -- A proper divisor of 7 · 31 · 151 lacks one of these primes.
  have hone : m ≠ 1 := by
    rintro rfl
    omega
  obtain ⟨p, hp, c, rfl⟩ := Nat.exists_prime_and_dvd hone
  rw [Nat.mul_left_comm] at hm
  have hfactor : p ∣ 7 * 31 * 151 := ⟨d * c, hm⟩
  rw [hp.dvd_mul, hp.dvd_mul, Nat.prime_dvd_prime_iff_eq hp (by norm_num),
    Nat.prime_dvd_prime_iff_eq hp (by norm_num), Nat.prime_dvd_prime_iff_eq hp (by norm_num)] at hfactor
  rcases hfactor with (rfl | rfl) | rfl
  · exact h7 (hgcd.trans_dvd ⟨c, by omega⟩)
  · exact h31 (hgcd.trans_dvd ⟨c, by omega⟩)
  · exact h151 (hgcd.trans_dvd ⟨c, by omega⟩)

/-- Whether an odd number of bits is set. -/
def parity (r : UInt16) : Bool := (List.range 16).foldr (fun i odd => r.toNat.testBit i ^^ odd) false

private theorem parity_xor (a b : UInt16) : parity (a ^^^ b) = (parity a ^^ parity b) := by
  simp only [parity, UInt16.toNat_xor, Nat.testBit_xor]
  generalize List.range 16 = places
  induction places with
  | nil => rfl
  | cons i places ih =>
    rw [List.foldr_cons, List.foldr_cons, List.foldr_cons, ih]
    cases a.toNat.testBit i <;> cases b.toNat.testBit i <;> simp

private theorem parity_shift (r : UInt16) : parity (shift r) = parity r := by
  have hbasis : ∀ k < 16, parity (shift (power k)) = parity (power k) := by decide
  have hbits : bits r ⊆ Finset.range 16 := Finset.filter_subset ..
  rw [← remainder_bits r]
  generalize bits r = degrees at hbits
  induction degrees using Finset.induction_on with
  | empty => rfl
  | insert k degrees hk ih =>
    rw [Finset.insert_subset_iff, Finset.mem_range] at hbits
    rw [remainder_insert hk, shift_xor, parity_xor, parity_xor, hbasis k hbits.1, ih hbits.2]

private theorem parity_power (k : Nat) : parity (power k) = true := by
  have hshifts (r : UInt16) : parity (shifts k r) = parity r := by
    induction k generalizing r with
    | zero => rfl
    | succ k ih => rw [shifts, ih, parity_shift]
  exact hshifts 1

private theorem parity_remainder (degrees : Finset Nat) :
    parity (remainder degrees) = decide (Odd degrees.card) := by
  induction degrees using Finset.induction_on with
  | empty => decide
  | insert k degrees hk ih =>
    rw [remainder_insert hk, parity_xor, parity_power, ih, Finset.card_insert_of_notMem hk]
    by_cases hodd : Odd degrees.card <;> simp [Nat.odd_add_one, hodd]

theorem remainder_ne_zero_of_odd {degrees : Finset Nat} (h : Odd degrees.card) :
    remainder degrees ≠ 0 := by
  intro hzero
  have hparity := parity_remainder degrees
  rw [hzero, decide_eq_true h] at hparity
  contradiction

/-- Powers that lie within sixteen degrees do not cancel. -/
theorem remainder_ne_zero_of_burst {degrees : Finset Nat} {lowest : Nat} (hsome : degrees.Nonempty)
    (h : degrees ⊆ Finset.Ico lowest (lowest + 16)) : remainder degrees ≠ 0 := by
  have hrange (k : Nat) (hk : k ∈ degrees) : lowest ≤ k ∧ k < lowest + 16 := Finset.mem_Ico.mp (h hk)
  have hlow : degrees.image (· - lowest) ⊆ Finset.range 16 := by
    intro i hi
    obtain ⟨k, hk, rfl⟩ := Finset.mem_image.mp hi
    have := hrange k hk
    rw [Finset.mem_range]
    omega
  have hinjective : Set.InjOn (· - lowest) (degrees : Set Nat) := by
    intro i hi k hk hik
    have := hrange i hi
    have := hrange k hk
    simp only at hik
    omega
  have hraised : remainder degrees = shifts lowest (remainder (degrees.image (· - lowest))) := by
    rw [shifts_remainder, Finset.fold_image hinjective]
    apply Finset.fold_congr
    intro k hk
    rw [Function.comp_apply, Nat.add_sub_cancel' (hrange k hk).1]
  intro hzero
  obtain ⟨k, hk⟩ := hsome
  -- Without reduction every degree is a bit of its own.
  have hbit := testBit_remainder hlow (k - lowest)
  rw [hraised] at hzero
  rw [shifts_eq_zero hzero, decide_eq_true (Finset.mem_image_of_mem _ hk)] at hbit
  simp at hbit

private theorem power_ne {i k : Nat} (hik : i < k) (hclose : k < i + 32767) : power i ^^^ power k ≠ 0 := by
  intro hzero
  have hlift : power i ^^^ power k = shifts i (1 ^^^ power (k - i)) := by
    rw [shifts_xor, shifts_power, Nat.add_sub_cancel' (Nat.le_of_lt hik)]
    rfl
  rw [hlift] at hzero
  have hone : power (k - i) = 1 := (UInt16.xor_eq_zero_iff.mp (shifts_eq_zero hzero)).symm
  exact power_ne_one (by omega) (by omega) hone

/-- Up to three powers below the order of `x` do not cancel. -/
theorem remainder_ne_zero_of_few {degrees : Finset Nat} (hsome : degrees.Nonempty)
    (hfew : degrees.card ≤ 3) (h : degrees ⊆ Finset.range 32767) : remainder degrees ≠ 0 := by
  have hpositive : 0 < degrees.card := Finset.card_pos.mpr hsome
  by_cases htwo : degrees.card = 2
  · obtain ⟨i, k, hne, rfl⟩ := Finset.card_eq_two.mp htwo
    have hi : i < 32767 := Finset.mem_range.mp (h (by simp))
    have hk : k < 32767 := Finset.mem_range.mp (h (by simp))
    rw [remainder_pair hne]
    rcases Nat.lt_or_gt_of_ne hne with hik | hki
    · exact power_ne hik (by omega)
    · rw [UInt16.xor_comm]
      exact power_ne hki (by omega)
  · apply remainder_ne_zero_of_odd
    rw [Nat.odd_iff]
    omega

theorem update_xor (r s : UInt16) (bytes : Bytes) :
    update (r ^^^ s) bytes = update r bytes ^^^ shifts (8 * bytes.length) s := by
  induction bytes generalizing r s with
  | nil => rfl
  | cons b bytes ih =>
    have hstep : step (r ^^^ s) b = step r b ^^^ shifts 8 s := by
      rw [step, step, ← shifts_xor]
      congr 1
      ac_rfl
    have hcount : 8 * (b :: bytes).length = 8 * bytes.length + 8 := by
      rw [List.length_cons, Nat.mul_succ]
    show update (step (r ^^^ s) b) bytes = update (step r b) bytes ^^^ _
    rw [hstep, ih, hcount, shifts_add]

end Latchkey.Crc16
