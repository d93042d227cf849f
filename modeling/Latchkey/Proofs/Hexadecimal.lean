import Mathlib.Tactic.SplitIfs
import Latchkey.Key

/-!
# Hexadecimal text

Bytes are written with lower-case digits and read from digits of either case. What is accepted are pairs of
digits and nothing else, and what has been read is written again as the same text in lower case.
-/

namespace Latchkey

namespace Bytes

/-- A hexadecimal digit of either case. -/
def HexDigit (c : Char) : Prop := ('0' ≤ c ∧ c ≤ '9') ∨ ('a' ≤ c ∧ c ≤ 'f') ∨ ('A' ≤ c ∧ c ≤ 'F')

private theorem toNat_hexDigit : ∀ n < 16, (hexDigit n).toNat = if n < 10 then 48 + n else 87 + n := by decide

private theorem toLower_hexDigit : ∀ n < 16, (hexDigit n).toLower = hexDigit n := by decide

private theorem toNat_toLower (c : Char) :
    c.toLower.toNat = if 65 ≤ c.toNat ∧ c.toNat ≤ 90 then c.toNat + 32 else c.toNat := by
  have hupper : (c.val ≥ 'A'.val ∧ c.val ≤ 'Z'.val) ↔ 65 ≤ c.toNat ∧ c.toNat ≤ 90 := Iff.rfl
  show Char.toNat (dite (c.val ≥ 'A'.val ∧ c.val ≤ 'Z'.val) _ _) = _
  by_cases h : 65 ≤ c.toNat ∧ c.toNat ≤ 90
  · rw [dif_pos (hupper.mpr h), if_pos h]
    have hsum : (c.val + ('a'.val - 'A'.val)).toNat = (c.toNat + 32) % 2 ^ 32 := UInt32.toNat_add ..
    show (c.val + ('a'.val - 'A'.val)).toNat = c.toNat + 32
    rw [hsum]
    omega
  · rw [dif_neg (mt hupper.mp h), if_neg h]

private theorem hexValue?_eq_some_iff {c : Char} {n : Nat} :
    hexValue? c = some n ↔ n < 16 ∧ hexDigit n = c.toLower := by
  have hdigit : ('0' ≤ c ∧ c ≤ '9') ↔ 48 ≤ c.toNat ∧ c.toNat ≤ 57 := Iff.rfl
  have hlower : ('a' ≤ c ∧ c ≤ 'f') ↔ 97 ≤ c.toNat ∧ c.toNat ≤ 102 := Iff.rfl
  have hupper : ('A' ≤ c ∧ c ≤ 'F') ↔ 65 ≤ c.toNat ∧ c.toNat ≤ 70 := Iff.rfl
  have hplace : n < 16 ∧ hexDigit n = c.toLower ↔
      n < 16 ∧ (if n < 10 then 48 + n else 87 + n) = c.toLower.toNat := by
    refine and_congr_right fun hn => ?_
    rw [← toNat_hexDigit n hn, Char.toNat_inj]
  rw [hplace, toNat_toLower, hexValue?]
  simp only [hdigit, hlower, hupper]
  split_ifs <;> simp only [Option.some.injEq, false_iff] <;> omega

theorem hexValue?_hexDigit {n : Nat} (h : n < 16) : hexValue? (hexDigit n) = some n :=
  hexValue?_eq_some_iff.mpr ⟨h, (toLower_hexDigit n h).symm⟩

private theorem isSome_hexValue? {c : Char} : (hexValue? c).isSome ↔ HexDigit c := by
  rw [hexValue?, HexDigit]
  split_ifs <;> simp_all

private theorem toHexChars_cons (b : UInt8) (bytes : Bytes) :
    toHexChars (b :: bytes) = hexDigit (b.toNat / 16) :: hexDigit (b.toNat % 16) :: toHexChars bytes := rfl

private theorem length_toHexChars (bytes : Bytes) : (toHexChars bytes).length = 2 * bytes.length := by
  induction bytes with
  | nil => rfl
  | cons b bytes ih =>
    rw [toHexChars_cons, List.length_cons, List.length_cons, ih, List.length_cons]
    omega

private theorem map_toLower_toHexChars (bytes : Bytes) : (toHexChars bytes).map Char.toLower = toHexChars bytes := by
  induction bytes with
  | nil => rfl
  | cons b bytes ih =>
    have hhigh : b.toNat / 16 < 16 := Nat.div_lt_of_lt_mul b.toNat_lt
    have hlow : b.toNat % 16 < 16 := Nat.mod_lt _ (by decide)
    rw [toHexChars_cons, List.map_cons, List.map_cons, ih, toLower_hexDigit _ hhigh, toLower_hexDigit _ hlow]

private theorem ofHexChars?_eq_some_iff {cs : List Char} {bytes : Bytes} :
    ofHexChars? cs = some bytes ↔ toHexChars bytes = cs.map Char.toLower := by
  fun_induction ofHexChars? cs generalizing bytes with
  | case1 =>
    cases bytes with
    | nil => simp [toHexChars]
    | cons b bytes => simp [toHexChars_cons]
  | case2 c =>
    refine iff_of_false nofun fun hodd => ?_
    have hlength := congrArg List.length hodd
    rw [length_toHexChars, List.length_map, List.length_singleton] at hlength
    omega
  | case3 hi lo rest ih =>
    simp only [bind, Option.bind_eq_some_iff, pure, Option.some.injEq]
    constructor
    · rintro ⟨h, hhigh, l, hlow, tail, htail, rfl⟩
      obtain ⟨hh, hhigh⟩ := hexValue?_eq_some_iff.mp hhigh
      obtain ⟨hl, hlow⟩ := hexValue?_eq_some_iff.mp hlow
      have hbyte : (UInt8.ofNat (16 * h + l)).toNat = 16 * h + l :=
        UInt8.toNat_ofNat_of_lt' (show _ < 256 by omega)
      have hdiv : (16 * h + l) / 16 = h := by omega
      have hmod : (16 * h + l) % 16 = l := by omega
      rw [toHexChars_cons, hbyte, hdiv, hmod, hhigh, hlow, ih.mp htail, List.map_cons, List.map_cons]
    · cases bytes with
      | nil => simp [toHexChars]
      | cons b bytes =>
        rw [toHexChars_cons, List.map_cons, List.map_cons, List.cons.injEq, List.cons.injEq]
        rintro ⟨hhigh, hlow, htail⟩
        have hb := b.toNat_lt
        have hsum : 16 * (b.toNat / 16) + b.toNat % 16 = b.toNat := Nat.div_add_mod ..
        refine ⟨b.toNat / 16, hexValue?_eq_some_iff.mpr ⟨by omega, hhigh⟩, b.toNat % 16,
          hexValue?_eq_some_iff.mpr ⟨by omega, hlow⟩, bytes, ih.mpr htail, ?_⟩
        rw [hsum, UInt8.ofNat_toNat]

private theorem isSome_ofHexChars? {cs : List Char} :
    (ofHexChars? cs).isSome ↔ cs.length % 2 = 0 ∧ ∀ c ∈ cs, HexDigit c := by
  fun_induction ofHexChars? cs with
  | case1 => simp
  | case2 c => simp
  | case3 hi lo rest ih =>
    have hlength : (hi :: lo :: rest).length % 2 = rest.length % 2 := Nat.add_mod_right rest.length 2
    rw [hlength, List.forall_mem_cons, List.forall_mem_cons, ← isSome_hexValue?, ← isSome_hexValue?]
    cases hexValue? hi with
    | none => simp
    | some h =>
      cases hexValue? lo with
      | none => simp
      | some l =>
        cases htail : ofHexChars? rest with
        | none => simpa [htail] using ih
        | some bytes => simpa [htail] using ih

end Bytes

namespace Key

private theorem ofBytes?_eq_some_iff {bytes : Bytes} {key : Key} : ofBytes? bytes = some key ↔ key.bytes = bytes := by
  rw [ofBytes?]
  constructor
  · intro h
    split at h
    · cases h
      rfl
    · cases h
  · rintro rfl
    rw [dif_pos key.length_bytes]

theorem toList_toLower (text : String) : text.toLower.toList = text.toList.map Char.toLower := String.toList_map

/-- A key is read from exactly those texts whose lower-case form is what it is written as. -/
theorem ofHex?_eq_some_iff {text : String} {key : Key} : ofHex? text = some key ↔ key.hex = text.toLower := by
  have hwritten : key.hex = text.toLower ↔ Bytes.toHexChars key.bytes = text.toList.map Char.toLower := by
    rw [← String.toList_inj, hex, Bytes.toHex, String.toList_ofList, toList_toLower]
  rw [hwritten, ← Bytes.ofHexChars?_eq_some_iff, ofHex?, Bytes.ofHex?, Option.bind_eq_some_iff]
  simp only [ofBytes?_eq_some_iff]
  constructor
  · rintro ⟨bytes, hbytes, rfl⟩
    exact hbytes
  · intro hbytes
    exact ⟨key.bytes, hbytes, rfl⟩

theorem ofHex?_hex (key : Key) : ofHex? key.hex = some key := by
  rw [ofHex?_eq_some_iff, ← String.toList_inj, toList_toLower, hex, Bytes.toHex, String.toList_ofList,
    Bytes.map_toLower_toHexChars]

/-- The text consists of exactly 64 digits. -/
def Spelled (text : String) : Prop := text.length = 64 ∧ ∀ c ∈ text.toList, Bytes.HexDigit c

theorem isSome_ofHex? {text : String} : (ofHex? text).isSome ↔ Spelled text := by
  have hlength {bytes : Bytes} (h : Bytes.ofHexChars? text.toList = some bytes) :
      text.length = 2 * bytes.length := by
    have hwritten := congrArg List.length (Bytes.ofHexChars?_eq_some_iff.mp h)
    rw [Bytes.length_toHexChars, List.length_map, String.length_toList] at hwritten
    exact hwritten.symm
  have haccepted : (Bytes.ofHexChars? text.toList).isSome ↔ _ := Bytes.isSome_ofHexChars?
  rw [String.length_toList] at haccepted
  rw [ofHex?, Bytes.ofHex?]
  cases hbytes : Bytes.ofHexChars? text.toList with
  | none =>
    rw [hbytes] at haccepted
    refine iff_of_false nofun ?_
    rintro ⟨hall, hdigits⟩
    cases haccepted.mpr ⟨by omega, hdigits⟩
  | some bytes =>
    rw [hbytes] at haccepted
    have hdigits := (haccepted.mp rfl).2
    have heven := hlength hbytes
    rw [Option.bind_some, ofBytes?]
    split
    · rename_i hbytes'
      exact iff_of_true rfl ⟨by omega, hdigits⟩
    · refine iff_of_false nofun ?_
      rintro ⟨hall, -⟩
      omega

end Key

end Latchkey
