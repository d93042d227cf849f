import Mathlib.Algebra.Group.Nat.Defs
import Latchkey.Bytes

/-!
# Numbers and words as bytes

The digits of a number and the number of digits are inverse to each other up to the width, so a word is
read from exactly the bytes it is written to. Exclusive or with the same stream undoes itself.
-/

namespace Latchkey.Bytes

theorem toNat_ofNat (width value : Nat) : toNat (ofNat width value) = value % 256 ^ width := by
  induction width generalizing value with
  | zero => simp [ofNat, toNat, Nat.mod_one]
  | succ width ih =>
    have hdigit : (UInt8.ofNat value).toNat = value % 256 := UInt8.toNat_ofNat'
    simp only [ofNat, toNat, ih, hdigit]
    rw [Nat.pow_succ', Nat.mod_mul]

theorem toNat_lt (bytes : Bytes) : toNat bytes < 256 ^ bytes.length := by
  induction bytes with
  | nil => simp [toNat]
  | cons b bytes ih =>
    have hb := b.toNat_lt
    simp only [toNat, List.length_cons, Nat.pow_succ]
    omega

theorem ofWord16_toWord16 {bytes : Bytes} (h : bytes.length = 2) :
    ofWord16 (toWord16 bytes) = bytes := by
  have hlt := toNat_lt bytes
  rw [h] at hlt
  have hmod : toNat bytes % 2 ^ 16 = toNat bytes := Nat.mod_eq_of_lt (by omega)
  rw [ofWord16, toWord16, UInt16.toNat_ofNat', hmod, ← h, ofNat_toNat]

theorem ofWord32_toWord32 {bytes : Bytes} (h : bytes.length = 4) :
    ofWord32 (toWord32 bytes) = bytes := by
  have hlt := toNat_lt bytes
  rw [h] at hlt
  have hmod : toNat bytes % 2 ^ 32 = toNat bytes := Nat.mod_eq_of_lt (by omega)
  rw [ofWord32, toWord32, UInt32.toNat_ofNat', hmod, ← h, ofNat_toNat]

theorem toNat_toWord16_pair (low high : UInt8) :
    (toWord16 [low, high]).toNat = low.toNat + 256 * high.toNat := by
  have hlow := low.toNat_lt
  have hhigh := high.toNat_lt
  have hpair : toNat [low, high] = low.toNat + 256 * high.toNat := rfl
  rw [toWord16, hpair]
  exact UInt16.toNat_ofNat_of_lt' (show _ < 65536 by omega)

@[simp] theorem length_xor (a b : Bytes) : (xor a b).length = min a.length b.length :=
  List.length_zipWith

theorem xor_xor_cancel {a b : Bytes} (h : a.length ≤ b.length) : xor (xor a b) b = a := by
  induction a generalizing b with
  | nil => simp [xor]
  | cons x a ih =>
    cases b with
    | nil => simp at h
    | cons y b =>
      have htail := ih (b := b) (by simpa using h)
      simp only [xor, List.zipWith_cons_cons, List.cons.injEq] at htail ⊢
      refine ⟨?_, htail⟩
      rw [UInt8.xor_assoc, UInt8.xor_self, UInt8.xor_zero]

end Latchkey.Bytes
