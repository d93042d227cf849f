import Latchkey.Proofs.Flips
import Latchkey.Proofs.Framing
import Latchkey.Proofs.Remainders

/-!
# Damage that the frame check finds

Every bit of a frame stands for a power of `x`, the bits of the check for the lowest ones. Flipping bits
adds their powers to what the frame check leaves over, which is nothing for the bytes of a command. So
damage is found whenever the powers of the bits it flips do not cancel: an odd number of bits, bits within
sixteen places of one another, and up to three bits of a frame of no more than 4095 bytes.
-/

namespace Latchkey.Crc16

private theorem toUInt16_mask (p : Nat) : (Bytes.mask p).toUInt16 = power (7 - p % 8) := by
  apply UInt16.toNat_inj.mp
  rw [UInt8.toNat_toUInt16, Bytes.toNat_mask, power_eq_two_pow (by omega)]

private theorem mask_shiftLeft (p : Nat) : (Bytes.mask p).toUInt16 <<< 8 = power (15 - p % 8) := by
  have hraise : 15 - p % 8 = 8 + (7 - p % 8) := by omega
  rw [toUInt16_mask, hraise, ← shifts_power]
  have hsmall : 7 - p % 8 < 8 := by omega
  generalize 7 - p % 8 = k at hsmall
  revert k
  decide

private theorem step_flipped (r : UInt16) (b : UInt8) (p : Nat) :
    step r (b ^^^ Bytes.mask p) = step r b ^^^ power (8 + (15 - p % 8)) := by
  rw [step, UInt8.toUInt16_xor, UInt16.shiftLeft_xor, mask_shiftLeft, ← UInt16.xor_assoc, shifts_xor,
    shifts_power, step]

private theorem update_flipBit {bytes : Bytes} {p : Nat} (hp : p < 8 * bytes.length) (r : UInt16) :
    update r (Bytes.flipBit p bytes) =
      update r bytes ^^^ power (8 * (bytes.length - p / 8) + (15 - p % 8)) := by
  induction bytes generalizing p r with
  | nil => simp at hp
  | cons b bytes ih =>
    rw [List.length_cons] at hp
    by_cases hfirst : p < 8
    · have hdegree : 8 * (bytes.length + 1 - p / 8) + (15 - p % 8) =
          8 * bytes.length + (8 + (15 - p % 8)) := by omega
      rw [Bytes.flipBit_cons hfirst, List.length_cons, hdegree, ← shifts_power]
      show update (step r (b ^^^ Bytes.mask p)) bytes = update (step r b) bytes ^^^ _
      rw [step_flipped, update_xor]
    · obtain ⟨q, rfl⟩ : ∃ q, p = q + 8 := ⟨p - 8, by omega⟩
      have hdegree : 8 * (bytes.length + 1 - (q + 8) / 8) + (15 - (q + 8) % 8) =
          8 * (bytes.length - q / 8) + (15 - q % 8) := by omega
      rw [Bytes.flipBit_add_eight, List.length_cons, hdegree]
      exact ih (by omega) (step r b)

private theorem toWord16_pair (low high : UInt8) :
    Bytes.toWord16 [low, high] = low.toUInt16 ^^^ high.toUInt16 <<< 8 := by
  apply eq_of_testBit
  intro i hi
  have hvalue : Bytes.toNat [low, high] = 2 ^ 8 * high.toNat + low.toNat := by
    simp only [Bytes.toNat]
    omega
  have hraised : (high.toUInt16 <<< 8).toNat.testBit i =
      (decide (8 ≤ i) && high.toNat.testBit (i - 8)) := by
    rw [UInt16.toNat_shiftLeft, Nat.testBit_mod_two_pow, decide_eq_true hi, Bool.true_and]
    exact Nat.testBit_shiftLeft ..
  rw [Bytes.toWord16, UInt16.toNat_ofNat', Nat.testBit_mod_two_pow, decide_eq_true hi, Bool.true_and,
    hvalue, Nat.testBit_two_pow_mul_add _ low.toNat_lt, UInt16.toNat_xor, Nat.testBit_xor, hraised,
    UInt8.toNat_toUInt16]
  by_cases hlow : i < 8
  · simp [hlow, Nat.not_le.mpr hlow]
  · have hnone : low.toNat.testBit i = false :=
      Nat.testBit_lt_two_pow (Nat.lt_of_lt_of_le low.toNat_lt (Nat.pow_le_pow_right (by decide) (by omega)))
    simp [hlow, hnone, Nat.not_lt.mp hlow]

private theorem toWord16_flipBit {bytes : Bytes} (hlength : bytes.length = 2) {p : Nat} (hp : p < 16) :
    Bytes.toWord16 (Bytes.flipBit p bytes) =
      Bytes.toWord16 bytes ^^^ power (8 * (p / 8) + (7 - p % 8)) := by
  obtain ⟨low, high, rfl⟩ := List.length_eq_two.mp hlength
  by_cases hlow : p < 8
  · have hdegree : 8 * (p / 8) + (7 - p % 8) = 7 - p % 8 := by omega
    rw [Bytes.flipBit_cons hlow, toWord16_pair, toWord16_pair, UInt8.toUInt16_xor, toUInt16_mask, hdegree]
    ac_rfl
  · obtain ⟨q, rfl⟩ : ∃ q, p = q + 8 := ⟨p - 8, by omega⟩
    have hdegree : 8 * ((q + 8) / 8) + (7 - (q + 8) % 8) = 15 - q % 8 := by omega
    rw [Bytes.flipBit_add_eight, Bytes.flipBit_cons (by omega), toWord16_pair, toWord16_pair,
      UInt8.toUInt16_xor, UInt16.shiftLeft_xor, mask_shiftLeft, hdegree, UInt16.xor_assoc]

/-- What the frame check of the bytes and the one they carry differ in. -/
def residue (bytes : Bytes) : UInt16 :=
  checksum (bytes.take (bytes.length - 2)) ^^^ Bytes.toWord16 (bytes.drop (bytes.length - 2))

/-- The degree of the power of `x` that a bit stands for in a frame of `length` bytes. The check stands for
the lowest powers, and its low byte comes first. -/
def degree (length p : Nat) : Nat :=
  8 * (if p / 8 + 2 < length then length - 1 - p / 8 else p / 8 + 2 - length) + (7 - p % 8)

variable {bytes : Bytes} {length p : Nat} {positions : Finset Nat}

private theorem degree_lt (hlength : 2 ≤ length) (hp : p < 8 * length) : degree length p < 8 * length := by
  rw [degree]
  split <;> omega

private theorem degree_body (hp : p / 8 + 2 < length) : degree length p = 8 * length - 1 - p := by
  rw [degree, if_pos hp]
  omega

private theorem degree_injOn (length : Nat) : Set.InjOn (degree length) (Finset.range (8 * length)) := by
  intro p hp q hq h
  simp only [Finset.coe_range, Set.mem_Iio] at hp hq
  rw [degree, degree] at h
  split at h <;> split at h <;> omega

private theorem residue_append (front : Bytes) {back : Bytes} (hback : back.length = 2) :
    residue (front ++ back) = checksum front ^^^ Bytes.toWord16 back := by
  have hcut : (front ++ back).length - 2 = front.length := by
    rw [List.length_append, hback, Nat.add_sub_cancel]
  rw [residue, hcut, List.take_left, List.drop_left]

private theorem residue_flipBit (hlong : 2 ≤ bytes.length) (hp : p < 8 * bytes.length) :
    residue (Bytes.flipBit p bytes) = residue bytes ^^^ power (degree bytes.length p) := by
  obtain ⟨front, back, hback, rfl⟩ : ∃ front back : Bytes, back.length = 2 ∧ front ++ back = bytes :=
    ⟨bytes.take (bytes.length - 2), bytes.drop (bytes.length - 2),
      by rw [List.length_drop]; omega, List.take_append_drop ..⟩
  rw [List.length_append, hback] at hp
  by_cases hfront : p < 8 * front.length
  · have hdegree : 8 * (front.length - p / 8) + (15 - p % 8) = degree (front.length + 2) p := by
      rw [degree_body (by omega)]
      omega
    rw [Bytes.flipBit_append_left hfront, residue_append _ hback, residue_append _ hback, checksum,
      update_flipBit hfront, List.length_append, hback, hdegree, checksum]
    ac_rfl
  · obtain ⟨q, rfl⟩ : ∃ q, p = 8 * front.length + q := ⟨p - 8 * front.length, by omega⟩
    have hdegree : 8 * (q / 8) + (7 - q % 8) = degree (front.length + 2) (8 * front.length + q) := by
      rw [degree, if_neg (by omega)]
      omega
    have hflipped : (Bytes.flipBit q back).length = 2 := by rw [Bytes.length_flipBit, hback]
    rw [Bytes.flipBit_append_right, residue_append _ hflipped, residue_append _ hback,
      toWord16_flipBit hback (by omega), List.length_append, hback, hdegree, UInt16.xor_assoc]

private theorem residue_flip (hlong : 2 ≤ bytes.length) (h : positions ⊆ Finset.range (8 * bytes.length)) :
    residue (Bytes.flip positions bytes) =
      residue bytes ^^^ remainder (positions.image (degree bytes.length)) := by
  induction positions using Finset.induction_on with
  | empty => exact UInt16.xor_zero.symm
  | insert p positions hp ih =>
    have hnew : degree bytes.length p ∉ positions.image (degree bytes.length) := by
      intro hmem
      obtain ⟨q, hq, hqp⟩ := Finset.mem_image.mp hmem
      have hsame := degree_injOn bytes.length (h (Finset.mem_insert_of_mem hq))
        (h (Finset.mem_insert_self ..)) hqp
      exact hp (hsame ▸ hq)
    rw [Finset.insert_subset_iff, Finset.mem_range] at h
    have hlength : (Bytes.flip positions bytes).length = bytes.length := Bytes.length_flip ..
    rw [Bytes.flip_insert hp, residue_flipBit (by omega) (by omega), hlength, ih h.2, Finset.image_insert,
      remainder_insert hnew]
    ac_rfl

end Latchkey.Crc16

namespace Latchkey.Command

variable {bytes : Bytes} {c : Command} {positions : Finset Nat}

private theorem residue_encode (c : Command) : Crc16.residue c.encode = 0 := by
  rw [encode, Crc16.residue_append _ (Bytes.length_ofWord16 _), Bytes.toWord16_ofWord16]
  exact UInt16.xor_self

/-- Bytes of which nothing is left over are those of some command. -/
theorem exists_decode_of_residue (hlong : overhead ≤ bytes.length) (h : Crc16.residue bytes = 0) :
    ∃ d, decode bytes = .ok d := by
  have hbytes := encode_of_check hlong (UInt16.xor_eq_zero_iff.mp h)
  rw [← hbytes]
  exact ⟨_, decode_encode _⟩

/-- The error of the frame check: the check that it finds and the one that the bytes carry. -/
def checkError (bytes : Bytes) : WireError :=
  .badCrc (Crc16.checksum (bytes.take (bytes.length - 2)))
    (Bytes.toWord16 (bytes.drop (bytes.length - 2)))

private theorem overhead_le_encode (c : Command) : overhead ≤ c.encode.length := by
  rw [length_encode]
  exact Nat.le_add_left ..

private theorem residue_flip_encode (hwire : positions ⊆ Finset.range (8 * c.encode.length)) :
    Crc16.residue (Bytes.flip positions c.encode) =
      Crc16.remainder (positions.image (Crc16.degree c.encode.length)) := by
  have hlong : 2 ≤ c.encode.length := Nat.le_trans (by decide) c.overhead_le_encode
  rw [Crc16.residue_flip hlong hwire, residue_encode, UInt16.zero_xor]

private theorem decode_flip (hwire : positions ⊆ Finset.range (8 * c.encode.length))
    (hsum : Crc16.remainder (positions.image (Crc16.degree c.encode.length)) ≠ 0) :
    decode (Bytes.flip positions c.encode) = .error (checkError (Bytes.flip positions c.encode)) := by
  rw [← residue_flip_encode hwire] at hsum
  apply decode_damaged
  · rw [Bytes.length_flip]
    exact c.overhead_le_encode
  · rfl
  · rfl
  · intro hsame
    apply hsum
    rw [Crc16.residue, hsame, UInt16.xor_self]

/-- Flipping an odd number of bits anywhere, or any bits within sixteen places in front of the check, makes
the frame check fail. -/
theorem flips_detected (c : Command) (positions : Finset Nat)
    (hwire : positions ⊆ Finset.range (8 * c.encode.length)) (hsome : positions.Nonempty)
    (h : Odd positions.card ∨ ∃ start, positions ⊆ Finset.Ico start (start + 16) ∧
      positions ⊆ Finset.range (8 * c.body.length)) :
    decode (Bytes.flip positions c.encode) = .error (checkError (Bytes.flip positions c.encode)) := by
  apply decode_flip hwire
  rcases h with hodd | ⟨start, hburst, hbody⟩
  · apply Crc16.remainder_ne_zero_of_odd
    have hinjective := (Crc16.degree_injOn c.encode.length).mono (Finset.coe_subset.mpr hwire)
    rwa [Finset.card_image_of_injOn hinjective]
  · have hlength : c.encode.length = c.body.length + 2 := by
      rw [encode, List.length_append, Bytes.length_ofWord16]
    have hdegrees : positions.image (Crc16.degree c.encode.length) ⊆
        Finset.Ico (8 * c.encode.length - 16 - start) (8 * c.encode.length - 16 - start + 16) := by
      intro k hk
      obtain ⟨p, hp, rfl⟩ := Finset.mem_image.mp hk
      have hnear := Finset.mem_Ico.mp (hburst hp)
      have hfront := Finset.mem_range.mp (hbody hp)
      rw [Crc16.degree_body (by omega), Finset.mem_Ico]
      omega
    exact Crc16.remainder_ne_zero_of_burst (hsome.image _) hdegrees

/-- Three bits of a status report, the last in the check, and four bits that lie close together. -/
theorem flips_detected_status :
    let status : Command := of (.known .status) [0x00, 0x42, 0x99]
    status.encode = [0x0E, 0x00, 0x00, 0x42, 0x99, 0x9A, 0xA7] ∧
      Bytes.flip {3, 20, 50} status.encode = [0x1E, 0x00, 0x08, 0x42, 0x99, 0x9A, 0x87] ∧
      decode [0x1E, 0x00, 0x08, 0x42, 0x99, 0x9A, 0x87] = .error (.badCrc 0x0A61 0x879A) ∧
      Bytes.flip {11, 12, 17, 26} status.encode = [0x0E, 0x18, 0x40, 0x62, 0x99, 0x9A, 0xA7] ∧
      decode [0x0E, 0x18, 0x40, 0x62, 0x99, 0x9A, 0xA7] = .error (.badCrc 0x22B5 0xA79A) := by
  intro status
  have hencode : status.encode = [0x0E, 0x00, 0x00, 0x42, 0x99, 0x9A, 0xA7] := by decide +kernel
  have hodd := flips_detected status {3, 20, 50} (by decide +kernel) (by decide) (.inl (by decide))
  have hburst := flips_detected status {11, 12, 17, 26} (by decide +kernel) (by decide)
    (.inr ⟨11, by decide, by decide⟩)
  have hodd_flipped : Bytes.flip {3, 20, 50} status.encode =
      [0x1E, 0x00, 0x08, 0x42, 0x99, 0x9A, 0x87] := by decide +kernel
  have hburst_flipped : Bytes.flip {11, 12, 17, 26} status.encode =
      [0x0E, 0x18, 0x40, 0x62, 0x99, 0x9A, 0xA7] := by decide +kernel
  have hodd_check : checkError [0x1E, 0x00, 0x08, 0x42, 0x99, 0x9A, 0x87] = .badCrc 0x0A61 0x879A := by
    decide +kernel
  have hburst_check : checkError [0x0E, 0x18, 0x40, 0x62, 0x99, 0x9A, 0xA7] =
      .badCrc 0x22B5 0xA79A := by decide +kernel
  rw [hodd_flipped, hodd_check] at hodd
  rw [hburst_flipped, hburst_check] at hburst
  exact ⟨hencode, hodd_flipped, hodd, hburst_flipped, hburst⟩

private theorem few_flips_detected (hlength : c.encode.length ≤ 4095)
    (hwire : positions ⊆ Finset.range (8 * c.encode.length)) (hsome : positions.Nonempty)
    (hfew : positions.card ≤ 3) :
    decode (Bytes.flip positions c.encode) = .error (checkError (Bytes.flip positions c.encode)) := by
  apply decode_flip hwire
  have hlong : 4 ≤ c.encode.length := c.overhead_le_encode
  apply Crc16.remainder_ne_zero_of_few (hsome.image _)
  · exact Finset.card_image_le.trans hfew
  · intro k hk
    obtain ⟨p, hp, rfl⟩ := Finset.mem_image.mp hk
    have hdegree := Crc16.degree_lt (by omega) (Finset.mem_range.mp (hwire hp))
    rw [Finset.mem_range]
    omega

/-- Commands of the same wire length of at most 4095 bytes are at least four bits apart, so up to three
flipped bits make the frame check fail. -/
theorem distance_four (c : Command) (hlength : c.encode.length ≤ 4095) :
    (∀ d : Command, d ≠ c → d.encode.length = c.encode.length →
      4 ≤ (Bytes.differing c.encode d.encode).card) ∧
    ∀ positions ⊆ Finset.range (8 * c.encode.length), positions.Nonempty → positions.card ≤ 3 →
      decode (Bytes.flip positions c.encode) = .error (checkError (Bytes.flip positions c.encode)) := by
  constructor
  · intro d hne hsame
    by_contra hfew
    have hflip : Bytes.flip (Bytes.differing c.encode d.encode) c.encode = d.encode :=
      Bytes.flip_differing hsame.symm
    have hsome : (Bytes.differing c.encode d.encode).Nonempty := by
      rw [Finset.nonempty_iff_ne_empty]
      intro hnone
      rw [hnone] at hflip
      exact hne (encode_injective hflip).symm
    have herror := few_flips_detected hlength (Bytes.differing_subset ..) hsome (by omega)
    rw [hflip, decode_encode] at herror
    contradiction
  · intro positions hwire hsome hfew
    exact few_flips_detected hlength hwire hsome hfew

/-- Two status reports that differ in a single bit of the payload, and two flipped bits of the first, one of
them in the check. -/
theorem distance_four_status :
    let status : Command := of (.known .status) [0x00, 0x42, 0x99]
    let other : Command := of (.known .status) [0x00, 0x42, 0x98]
    status.encode.length = 7 ∧ other ≠ status ∧ other.encode.length = 7 ∧
      4 ≤ (Bytes.differing status.encode other.encode).card ∧
      decode (Bytes.flip {0, 55} status.encode) = .error (.badCrc 0x854A 0xA69A) := by
  intro status other
  have hlength : status.encode.length = 7 := by rw [length_encode]; rfl
  have hother : other.encode.length = 7 := by rw [length_encode]; rfl
  have hne : other ≠ status := by decide
  obtain ⟨hdistance, hflips⟩ := distance_four status (by omega)
  have hpair := hflips {0, 55} (by rw [hlength]; decide) (by decide) (by decide)
  have hcheck : checkError (Bytes.flip {0, 55} status.encode) = .badCrc 0x854A 0xA69A := by decide +kernel
  rw [hcheck] at hpair
  exact ⟨hlength, hne, hother, hdistance other hne (by omega), hpair⟩

/-- Four bits are enough to lead from one command to another. -/
example : Bytes.differing (of (.known .status) [0x00, 0x42, 0x99]).encode
    (of (.known .status) [0x00, 0x42, 0x98]).encode = {39, 42, 47, 51} := by
  decide +kernel

/-- Beyond 4095 bytes there are two bits whose damage goes unseen: those that stand for the lowest power of
`x` and for the next one that is equal to it. -/
theorem two_flips_unseen (hlength : 4096 ≤ c.encode.length) :
    ∃ positions ⊆ Finset.range (8 * c.encode.length), positions.card = 2 ∧
      ∃ d, decode (Bytes.flip positions c.encode) = .ok d := by
  have hone : Crc16.degree c.encode.length (8 * (c.encode.length - 2) + 7) = 0 := by
    rw [Crc16.degree, if_neg (by omega)]
    omega
  have horder : Crc16.degree c.encode.length (8 * (c.encode.length - 4096)) = 32767 := by
    rw [Crc16.degree_body (by omega)]
    omega
  have hwire : {8 * (c.encode.length - 2) + 7, 8 * (c.encode.length - 4096)} ⊆
      Finset.range (8 * c.encode.length) := by
    rw [Finset.insert_subset_iff, Finset.singleton_subset_iff, Finset.mem_range, Finset.mem_range]
    omega
  have hcancel : Crc16.residue (Bytes.flip {8 * (c.encode.length - 2) + 7, 8 * (c.encode.length - 4096)}
      c.encode) = 0 := by
    rw [residue_flip_encode hwire, Finset.image_insert, Finset.image_singleton, hone, horder,
      Crc16.remainder_pair (by decide), Crc16.power_order.1]
    rfl
  have hlong : overhead ≤ (Bytes.flip {8 * (c.encode.length - 2) + 7, 8 * (c.encode.length - 4096)}
      c.encode).length := by
    rw [Bytes.length_flip]
    exact c.overhead_le_encode
  exact ⟨_, hwire, Finset.card_pair (by omega), exists_decode_of_residue hlong hcancel⟩

end Latchkey.Command
