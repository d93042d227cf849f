import Mathlib.Data.Finset.Filter
import Mathlib.Data.Finset.Range
import Mathlib.Data.Nat.Bitwise
import Latchkey.Bytes

/-!
# Flipped bits

The bits of a byte string are counted from the high bit of its first byte on. Flipping bits changes these
and no others, and any byte string comes from any other of its length by flipping the bits they differ in.
-/

namespace Latchkey.Bytes

/-- The bit at a position. -/
def bit (bytes : Bytes) (p : Nat) : Bool := (bytes.getD (p / 8) 0).toNat.testBit (7 - p % 8)

/-- The byte in which the bit at a position stands alone. -/
def mask (p : Nat) : UInt8 := UInt8.ofNat (2 ^ (7 - p % 8))

def flipBit (p : Nat) (bytes : Bytes) : Bytes := bytes.modify (p / 8) (· ^^^ mask p)

variable {a b bytes : Bytes} {p : Nat} {positions : Finset Nat}

private theorem flipBit_comm (p q : Nat) (bytes : Bytes) :
    flipBit p (flipBit q bytes) = flipBit q (flipBit p bytes) := by
  by_cases h : p / 8 = q / 8
  · rw [flipBit, flipBit, flipBit, flipBit, h, List.modify_modify_eq, List.modify_modify_eq]
    congr 1
    funext c
    simp only [Function.comp_apply]
    ac_rfl
  · exact List.modify_modify_ne _ _ bytes (Ne.symm h)

instance : LeftCommutative flipBit := ⟨flipBit_comm⟩

@[simp] theorem length_flipBit (p : Nat) (bytes : Bytes) : (flipBit p bytes).length = bytes.length :=
  List.length_modify ..

theorem flipBit_cons (hp : p < 8) (c : UInt8) (bytes : Bytes) :
    flipBit p (c :: bytes) = (c ^^^ mask p) :: bytes := by
  rw [flipBit, Nat.div_eq_of_lt hp, List.modify_zero_cons]

theorem flipBit_add_eight (p : Nat) (c : UInt8) (bytes : Bytes) :
    flipBit (p + 8) (c :: bytes) = c :: flipBit p bytes := by
  have hmask : mask (p + 8) = mask p := by rw [mask, mask, Nat.add_mod_right]
  rw [flipBit, Nat.add_div_right p (by decide), List.modify_succ_cons, hmask, flipBit]

theorem flipBit_append_left (hp : p < 8 * a.length) (b : Bytes) :
    flipBit p (a ++ b) = flipBit p a ++ b := by
  induction a generalizing p with
  | nil => simp at hp
  | cons c a ih =>
    rw [List.length_cons] at hp
    by_cases hfirst : p < 8
    · rw [List.cons_append, flipBit_cons hfirst, flipBit_cons hfirst, List.cons_append]
    · obtain ⟨q, rfl⟩ : ∃ q, p = q + 8 := ⟨p - 8, by omega⟩
      rw [List.cons_append, flipBit_add_eight, flipBit_add_eight, ih (by omega), List.cons_append]

theorem flipBit_append_right (p : Nat) (a b : Bytes) :
    flipBit (8 * a.length + p) (a ++ b) = a ++ flipBit p b := by
  induction a with
  | nil => simp
  | cons c a ih =>
    have hposition : 8 * (c :: a).length + p = 8 * a.length + p + 8 := by
      rw [List.length_cons]
      omega
    rw [hposition, List.cons_append, flipBit_add_eight, ih, List.cons_append]

/-- Flips the bits at these positions. -/
def flip (positions : Finset Nat) (bytes : Bytes) : Bytes := positions.val.foldr flipBit bytes

theorem flip_insert (h : p ∉ positions) (bytes : Bytes) :
    flip (insert p positions) bytes = flipBit p (flip positions bytes) := by
  rw [flip, Finset.insert_val_of_notMem h, Multiset.foldr_cons, flip]

@[simp] theorem length_flip (positions : Finset Nat) (bytes : Bytes) :
    (flip positions bytes).length = bytes.length := by
  induction positions using Finset.induction_on with
  | empty => rfl
  | insert p positions hp ih => rw [flip_insert hp, length_flipBit, ih]

theorem toNat_mask (p : Nat) : (mask p).toNat = 2 ^ (7 - p % 8) := by
  rw [mask, UInt8.toNat_ofNat']
  apply Nat.mod_eq_of_lt
  exact Nat.pow_lt_pow_right (by decide) (by omega)

private theorem bit_flipBit (hp : p < 8 * bytes.length) (q : Nat) :
    (flipBit p bytes).bit q = (bytes.bit q ^^ decide (q = p)) := by
  have hbyte : p / 8 < bytes.length := by omega
  simp only [bit, flipBit, List.getD_eq_getElem?_getD, List.getElem?_modify]
  by_cases hsame : p / 8 = q / 8
  · have hplace : 7 - p % 8 = 7 - q % 8 ↔ q = p := by omega
    rw [← hsame, List.getElem?_eq_getElem hbyte]
    simp only [if_true, Option.map_eq_map, Option.map_some, Option.getD_some, UInt8.toNat_xor,
      Nat.testBit_xor, toNat_mask, Nat.testBit_two_pow, hplace]
  · have hother : q ≠ p := by
      rintro rfl
      exact hsame rfl
    simp [hsame, hother]

private theorem bit_flip (h : positions ⊆ Finset.range (8 * bytes.length)) (q : Nat) :
    (flip positions bytes).bit q = (bytes.bit q ^^ decide (q ∈ positions)) := by
  induction positions using Finset.induction_on with
  | empty => simp [flip]
  | insert p positions hp ih =>
    rw [Finset.insert_subset_iff, Finset.mem_range] at h
    rw [flip_insert hp, bit_flipBit (by rw [length_flip]; exact h.1), ih h.2]
    by_cases hq : q = p
    · subst hq
      simp [hp]
    · simp [hq]

private theorem eq_of_bit (hlength : a.length = b.length) (h : ∀ p < 8 * a.length, a.bit p = b.bit p) : a = b := by
  apply List.ext_getElem hlength
  intro i hi hi'
  apply UInt8.toNat_inj.mp
  apply Nat.eq_of_testBit_eq
  intro k
  by_cases hk : k < 8
  · have hbit := h (8 * i + (7 - k)) (by omega)
    have hbyte : (8 * i + (7 - k)) / 8 = i := by omega
    have hplace : 7 - (8 * i + (7 - k)) % 8 = k := by omega
    rw [bit, bit, hbyte, hplace, List.getD_eq_getElem _ _ hi, List.getD_eq_getElem _ _ hi'] at hbit
    exact hbit
  · have hsmall (c : UInt8) : c.toNat.testBit k = false :=
      Nat.testBit_lt_two_pow (Nat.lt_of_lt_of_le c.toNat_lt (Nat.pow_le_pow_right (by decide) (by omega)))
    rw [hsmall, hsmall]

/-- The positions of the bits in which two byte strings of the same length differ. -/
def differing (a b : Bytes) : Finset Nat :=
  (Finset.range (8 * a.length)).filter fun p => a.bit p ≠ b.bit p

theorem differing_subset (a b : Bytes) : differing a b ⊆ Finset.range (8 * a.length) :=
  Finset.filter_subset ..

theorem flip_differing (h : a.length = b.length) : flip (differing a b) a = b := by
  apply eq_of_bit (by rw [length_flip, h])
  intro p hp
  rw [length_flip] at hp
  rw [bit_flip (differing_subset a b)]
  cases ha : a.bit p <;> cases hb : b.bit p <;> simp [differing, hp, ha, hb]

end Latchkey.Bytes
