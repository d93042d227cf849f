import Latchkey.Text.Utf8
import Mathlib.Data.List.TakeWhile
import Mathlib.Tactic.IntervalCases

/-!
# Texts that are written and read

The first byte of a character tells how many there are and bounds the next one, and the other bytes lie within these
bounds. So what has been written is read again, character by character, and a character that is cut is read as one
replacement. A field of fixed width shows its text up to the first zero character, and as far as there is room.
-/

namespace Latchkey.Utf8

private theorem opening_one {n : Nat} (h : n < 0x80) : opening (UInt8.ofNat n) = .whole (Char.ofNat n) := by
  have hn : (UInt8.ofNat n).toNat = n := UInt8.toNat_ofNat_of_lt' (Nat.lt_trans h (by decide))
  have hlow : UInt8.ofNat n < 0x80 := by
    rw [UInt8.lt_iff_toNat_lt, hn]
    exact h
  rw [opening, if_pos hlow, hn]

private theorem opening_two {n : Nat} (hlow : 2 ≤ n) (hhigh : n < 32) :
    opening (UInt8.ofNat (n + 0xC0)) = .part ⟨1, 0x80, 0xBF, n⟩ := by
  interval_cases n <;> rfl

private theorem opening_three {n : Nat} (h : n < 16) :
    opening (UInt8.ofNat (n + 0xE0)) =
      .part ⟨2, if n = 0 then 0xA0 else 0x80, if n = 13 then 0x9F else 0xBF, n⟩ := by
  interval_cases n <;> rfl

private theorem opening_four {n : Nat} (h : n < 5) :
    opening (UInt8.ofNat (n + 0xF0)) =
      .part ⟨3, if n = 0 then 0x90 else 0x80, if n = 4 then 0x8F else 0xBF, n⟩ := by
  interval_cases n <;> rfl

section Later

variable {front : Bytes} {owed bits v : Nat} {low high : UInt8}

/-- The bytes begin a character and leave it pending. -/
def Begins (front : Bytes) (p : Pending) : Prop := ∀ bytes, decode (front ++ bytes) = decodePart p bytes

private theorem begins_of_opening {b : UInt8} {p : Pending} (h : opening b = .part p) : Begins [b] p := by
  intro bytes
  rw [List.singleton_append, decode, h]

private theorem Begins.decode_front {p : Pending} (h : Begins front p) : decode front = [replacement] := by
  have hnothing := h []
  rwa [List.append_nil] at hnothing

private theorem decodePart_digit (hlow : low.toNat ≤ v % 64 + 0x80) (hhigh : v % 64 + 0x80 ≤ high.toNat)
    (bytes : Bytes) :
    decodePart ⟨owed, low, high, v / 64⟩ (UInt8.ofNat (v % 64 + 0x80) :: bytes) =
      if owed = 1 then Char.ofNat v :: decode bytes else decodePart ⟨owed - 1, 0x80, 0xBF, v⟩ bytes := by
  have hdigit : (UInt8.ofNat (v % 64 + 0x80)).toNat = v % 64 + 0x80 :=
    UInt8.toNat_ofNat_of_lt' (Nat.lt_of_le_of_lt hhigh high.toNat_lt)
  have hbounds : low ≤ UInt8.ofNat (v % 64 + 0x80) ∧ UInt8.ofNat (v % 64 + 0x80) ≤ high := by
    rw [UInt8.le_iff_toNat_le, UInt8.le_iff_toNat_le, hdigit]
    exact ⟨hlow, hhigh⟩
  have hv : v / 64 * 64 + v % 64 = v := Nat.div_add_mod' v 64
  rw [decodePart]
  simp only [if_pos hbounds, Pending.extend, hdigit, Nat.add_sub_cancel, hv]

private theorem Begins.next (h : Begins front ⟨owed + 2, low, high, v / 64⟩) (hlow : low.toNat ≤ v % 64 + 0x80)
    (hhigh : v % 64 + 0x80 ≤ high.toNat) :
    Begins (front ++ [UInt8.ofNat (v % 64 + 0x80)]) ⟨owed + 1, 0x80, 0xBF, v⟩ := by
  intro bytes
  rw [List.append_assoc, h]
  exact (decodePart_digit hlow hhigh bytes).trans (if_neg (by omega))

private theorem Begins.third (h : Begins front ⟨owed + 2, 0x80, 0xBF, v / 64⟩) :
    Begins (front ++ [UInt8.ofNat (v % 64 + 0x80)]) ⟨owed + 1, 0x80, 0xBF, v⟩ := by
  apply h.next
  · exact Nat.le_add_left ..
  · show _ ≤ 0xBF
    omega

private theorem Begins.last (h : Begins front ⟨1, 0x80, 0xBF, v / 64⟩) (bytes : Bytes) :
    decode (front ++ UInt8.ofNat (v % 64 + 0x80) :: bytes) = Char.ofNat v :: decode bytes := by
  rw [h]
  apply decodePart_digit
  · exact Nat.le_add_left ..
  · show _ ≤ 0xBF
    omega

end Later

section Characters

variable {v : Nat}

private theorem begins_two (hlow : 0x80 ≤ v) (hhigh : v ≤ 0x7FF) :
    Begins [UInt8.ofNat (v / 64 % 32 + 0xC0)] ⟨1, 0x80, 0xBF, v / 64⟩ := by
  have hopening := opening_two (n := v / 64 % 32) (by omega) (by omega)
  have hv : v / 64 % 32 = v / 64 := by omega
  rw [hv] at hopening ⊢
  exact begins_of_opening hopening

private theorem begins_three (hhigh : v ≤ 0xFFFF) :
    Begins [UInt8.ofNat (v / 4096 % 16 + 0xE0)]
      ⟨2, if v / 4096 = 0 then 0xA0 else 0x80, if v / 4096 = 13 then 0x9F else 0xBF, v / 64 / 64⟩ := by
  have hopening := opening_three (n := v / 4096 % 16) (by omega)
  have hv : v / 4096 % 16 = v / 4096 := by omega
  rw [hv] at hopening ⊢
  rw [Nat.div_div_eq_div_mul]
  exact begins_of_opening hopening

/-- Surrogates are no characters: what their first byte may be followed by is bounded from above. -/
theorem begins_three_two (hlow : 0x800 ≤ v) (hhigh : v ≤ 0xFFFF) (hvalid : v < 0xD800 ∨ 0xDFFF < v) :
    Begins [UInt8.ofNat (v / 4096 % 16 + 0xE0), UInt8.ofNat (v / 64 % 64 + 0x80)] ⟨1, 0x80, 0xBF, v / 64⟩ := by
  apply (begins_three hhigh).next
  · split
    · show 0xA0 ≤ _
      omega
    · exact Nat.le_add_left ..
  · split
    · show _ ≤ 0x9F
      omega
    · show _ ≤ 0xBF
      omega

private theorem begins_four (hhigh : v < 0x110000) :
    Begins [UInt8.ofNat (v / 262144 % 8 + 0xF0)]
      ⟨3, if v / 262144 = 0 then 0x90 else 0x80, if v / 262144 = 4 then 0x8F else 0xBF, v / 4096 / 64⟩ := by
  have hopening := opening_four (n := v / 262144 % 8) (by omega)
  have hv : v / 262144 % 8 = v / 262144 := by omega
  rw [hv] at hopening ⊢
  rw [Nat.div_div_eq_div_mul]
  exact begins_of_opening hopening

private theorem begins_four_two (hlow : 0x10000 ≤ v) (hhigh : v < 0x110000) :
    Begins [UInt8.ofNat (v / 262144 % 8 + 0xF0), UInt8.ofNat (v / 4096 % 64 + 0x80)]
      ⟨2, 0x80, 0xBF, v / 64 / 64⟩ := by
  rw [Nat.div_div_eq_div_mul]
  apply (begins_four hhigh).next
  · split
    · show 0x90 ≤ _
      omega
    · exact Nat.le_add_left ..
  · split
    · show _ ≤ 0x8F
      omega
    · show _ ≤ 0xBF
      omega

private theorem begins_four_three (hlow : 0x10000 ≤ v) (hhigh : v < 0x110000) :
    Begins [UInt8.ofNat (v / 262144 % 8 + 0xF0), UInt8.ofNat (v / 4096 % 64 + 0x80),
      UInt8.ofNat (v / 64 % 64 + 0x80)] ⟨1, 0x80, 0xBF, v / 64⟩ :=
  (begins_four_two hlow hhigh).third

end Characters

private theorem decode_encodeChar (c : Char) (bytes : Bytes) :
    decode (String.utf8EncodeChar c ++ bytes) = c :: decode bytes := by
  have hc : Char.ofNat c.val.toNat = c := c.ofNat_toNat
  have hvalid := c.valid
  rw [UInt32.isValidChar, Nat.isValidChar] at hvalid
  rw [String.utf8EncodeChar]
  generalize c.val.toNat = v at hc hvalid ⊢
  split
  · rw [List.singleton_append, decode, opening_one (by omega), hc]
  split
  · exact ((begins_two (by omega) (by omega)).last bytes).trans (by rw [hc])
  split
  · exact ((begins_three_two (by omega) (by omega) (by omega)).last bytes).trans (by rw [hc])
  · exact ((begins_four_three (by omega) (by omega)).last bytes).trans (by rw [hc])

/-- A character that is cut is read as one replacement, wherever it is cut. -/
theorem decode_cut {c : Char} {cut : Nat} (hpos : 0 < cut) (hcut : cut < (String.utf8EncodeChar c).length) :
    decode ((String.utf8EncodeChar c).take cut) = [replacement] := by
  have hvalid := c.valid
  rw [UInt32.isValidChar, Nat.isValidChar] at hvalid
  revert hcut
  rw [String.utf8EncodeChar]
  generalize c.val.toNat = v at hvalid ⊢
  split
  · intro hcut
    exact absurd hcut (Nat.not_lt.mpr hpos)
  split
  · intro (hcut : cut < 2)
    obtain rfl : cut = 1 := by omega
    exact (begins_two (by omega) (by omega)).decode_front
  split
  · intro (hcut : cut < 3)
    obtain rfl | rfl : cut = 1 ∨ cut = 2 := by omega
    · exact (begins_three (by omega)).decode_front
    · exact (begins_three_two (by omega) (by omega) (by omega)).decode_front
  · intro (hcut : cut < 4)
    obtain rfl | rfl | rfl : cut = 1 ∨ cut = 2 ∨ cut = 3 := by omega
    · exact (begins_four (by omega)).decode_front
    · exact (begins_four_two (by omega) (by omega)).decode_front
    · exact (begins_four_three (by omega) (by omega)).decode_front

private theorem decode_encode (text : List Char) : decode (encode text) = text := by
  induction text with
  | nil => rfl
  | cons c text ih => rw [encode, List.flatMap_cons, decode_encodeChar, ← encode, ih]

private theorem ofNat_ne_zero {n : Nat} (hpos : 0 < n) (h : n < 256) : UInt8.ofNat n ≠ 0 := by
  intro hzero
  rw [← UInt8.toNat_inj, UInt8.toNat_ofNat_of_lt' h] at hzero
  exact Nat.ne_of_gt hpos hzero

private theorem encodeChar_ne_zero {c : Char} (h : c ≠ '\x00') : ∀ b ∈ String.utf8EncodeChar c, b ≠ 0 := by
  have hv : c.val.toNat ≠ 0 := by
    intro hzero
    apply h
    rw [← c.ofNat_toNat, Char.toNat, hzero]
  have hvalid := c.valid
  rw [UInt32.isValidChar, Nat.isValidChar] at hvalid
  rw [String.utf8EncodeChar]
  generalize c.val.toNat = v at hv hvalid ⊢
  have hlater (n : Nat) : UInt8.ofNat (n % 64 + 0x80) ≠ 0 := ofNat_ne_zero (by omega) (by omega)
  split
  · exact List.forall_mem_singleton.mpr (ofNat_ne_zero (by omega) (by omega))
  split
  · simp only [List.forall_mem_cons]
    exact ⟨ofNat_ne_zero (by omega) (by omega), hlater _, nofun⟩
  split
  · simp only [List.forall_mem_cons]
    exact ⟨ofNat_ne_zero (by omega) (by omega), hlater _, hlater _, nofun⟩
  · simp only [List.forall_mem_cons]
    exact ⟨ofNat_ne_zero (by omega) (by omega), hlater _, hlater _, hlater _, nofun⟩

private theorem takeWhile_encode (text : List Char) :
    (encode text).takeWhile (· != 0) = encode (text.takeWhile (· != '\x00')) := by
  induction text with
  | nil => rfl
  | cons c text ih =>
    rw [encode, List.flatMap_cons, ← encode]
    by_cases hc : c = '\x00'
    · rw [hc]
      rfl
    · have hbytes : ∀ b ∈ String.utf8EncodeChar c, (b != 0) = true := fun b hb =>
        bne_iff_ne.mpr (encodeChar_ne_zero hc b hb)
      have hfirst : (c != '\x00') = true := bne_iff_ne.mpr hc
      rw [List.takeWhile_append_of_pos hbytes, ih, List.takeWhile_cons, if_pos hfirst, encode, encode,
        List.flatMap_cons]

/-- The longest front of a text that takes at most so many bytes. -/
structure LongestFront (width : Nat) (text front : List Char) : Prop where
  begins : front <+: text
  fits : (encode front).length ≤ width
  longest : ∀ other, other <+: text → (encode other).length ≤ width → other <+: front

section Cutting

variable {width : Nat} {c : Char} {text front : List Char}

private theorem length_encode_cons (c : Char) (text : List Char) :
    (encode (c :: text)).length = (String.utf8EncodeChar c).length + (encode text).length := by
  rw [encode, List.flatMap_cons, List.length_append, ← encode]

private theorem longestFront_nil (h : width < (String.utf8EncodeChar c).length) :
    LongestFront width (c :: text) [] := by
  refine ⟨List.nil_prefix, Nat.zero_le width, fun other hother hfits => ?_⟩
  rcases List.prefix_cons_iff.mp hother with rfl | ⟨rest, rfl, -⟩
  · exact List.prefix_refl []
  · rw [length_encode_cons] at hfits
    omega

private theorem LongestFront.cons (h : LongestFront (width - (String.utf8EncodeChar c).length) text front)
    (hc : (String.utf8EncodeChar c).length ≤ width) : LongestFront width (c :: text) (c :: front) := by
  refine ⟨List.cons_prefix_cons.mpr ⟨rfl, h.begins⟩, ?_, fun other hother hfits => ?_⟩
  · have hfront := h.fits
    rw [length_encode_cons]
    omega
  · rcases List.prefix_cons_iff.mp hother with rfl | ⟨rest, rfl, hrest⟩
    · exact List.nil_prefix
    · rw [length_encode_cons] at hfits
      exact List.cons_prefix_cons.mpr ⟨rfl, h.longest rest hrest (by omega)⟩

/-- Of a text that is cut the longest front that fits is read, and a replacement if the cut is inside a character. -/
theorem decode_take (h : width < (encode text).length) :
    ∃ front, LongestFront width text front ∧
      decode ((encode text).take width) =
        if (encode front).length = width then front else front ++ [replacement] := by
  induction text generalizing width with
  | nil => exact absurd h (Nat.not_lt_zero width)
  | cons c text ih =>
    rw [length_encode_cons] at h
    rw [encode, List.flatMap_cons, ← encode]
    by_cases hc : (String.utf8EncodeChar c).length ≤ width
    · obtain ⟨front, hfront, hread⟩ := @ih (width - (String.utf8EncodeChar c).length) (by omega)
      have hfull : (encode (c :: front)).length = width ↔
          (encode front).length = width - (String.utf8EncodeChar c).length := by
        rw [length_encode_cons]
        omega
      refine ⟨c :: front, hfront.cons hc, ?_⟩
      rw [List.take_append, List.take_of_length_le hc, decode_encodeChar, hread]
      simp only [hfull]
      split <;> rfl
    · have hcut := Nat.not_le.mp hc
      refine ⟨[], longestFront_nil hcut, ?_⟩
      rw [List.take_append_of_le_length (Nat.le_of_lt hcut)]
      rcases Nat.eq_zero_or_pos width with rfl | hpos
      · rfl
      · rw [decode_cut hpos hcut, if_neg]
        · rfl
        · exact Nat.ne_of_lt hpos

end Cutting

end Latchkey.Utf8

namespace Latchkey.Padded

/-- The part of a text in front of its first zero character. -/
def shown (text : String) : List Char := text.toList.takeWhile (· != '\x00')

private theorem shown_eq {text : String} (h : '\x00' ∉ text.toList) : shown text = text.toList := by
  apply List.takeWhile_eq_self_iff.mpr
  intro c hc
  exact bne_iff_ne.mpr fun hzero => h (hzero ▸ hc)

private theorem takeWhile_zeros (bytes : Bytes) (count : Nat) :
    (bytes ++ List.replicate count 0).takeWhile (· != 0) = bytes.takeWhile (· != 0) := by
  rw [List.takeWhile_append]
  split
  · rename_i hlength
    have hall := (List.takeWhile_prefix (· != 0)).eq_of_length hlength
    rw [List.takeWhile_replicate, hall]
    exact List.append_nil bytes
  · rfl

private theorem decode_encode_eq (width : Nat) (text : String) :
    decode (encode width text) = Utf8.toStringLossy ((Utf8.encode (shown text)).take width) := by
  rw [decode, encode, takeWhile_zeros, ← List.take_takeWhile, Utf8.ofString, Utf8.takeWhile_encode, shown]

theorem decode_encode_of_fits {width : Nat} {text : String} (h : (Utf8.encode (shown text)).length ≤ width) :
    decode (encode width text) = String.ofList (shown text) := by
  rw [decode_encode_eq, List.take_of_length_le h, Utf8.toStringLossy, Utf8.decode_encode]

theorem decode_encode {width : Nat} {text : String} (hzero : '\x00' ∉ text.toList)
    (hfits : (Utf8.ofString text).length ≤ width) : decode (encode width text) = text := by
  have hshown := shown_eq hzero
  rw [Utf8.ofString, ← hshown] at hfits
  rw [decode_encode_of_fits hfits, hshown, String.ofList_toList]

/-- Of a text that does not fit into its field the longest front that does is read, and a replacement character if
bytes are left over. -/
theorem decode_encode_of_cut {width : Nat} {text : String} (h : width < (Utf8.encode (shown text)).length) :
    ∃ front, Utf8.LongestFront width (shown text) front ∧
      decode (encode width text) = String.ofList
        (if (Utf8.encode front).length = width then front else front ++ [Utf8.replacement]) := by
  obtain ⟨front, hfront, hread⟩ := Utf8.decode_take h
  refine ⟨front, hfront, ?_⟩
  rw [decode_encode_eq, Utf8.toStringLossy, hread]

example : decode (encode 2 "für") = "f\uFFFD" := by decide

end Latchkey.Padded
