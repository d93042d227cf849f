/-!
# Byte strings

Messages, keys and payloads are lists of bytes. This file holds the little-endian reading of numbers,
the fixed-width words built on it, hexadecimal text, and numerals with a least number of digits.
-/

namespace Latchkey

abbrev Bytes := List UInt8

namespace Bytes

/-- The `width` low bytes of `value`, least significant first. -/
def ofNat : (width value : Nat) → Bytes
  | 0, _ => []
  | width + 1, value => UInt8.ofNat value :: ofNat width (value / 256)

/-- The number whose base-256 digits are the bytes, least significant first. -/
def toNat : Bytes → Nat
  | [] => 0
  | b :: bytes => b.toNat + 256 * toNat bytes

@[simp] theorem length_ofNat (width value : Nat) : (ofNat width value).length = width := by
  induction width generalizing value with
  | zero => rfl
  | succ width ih => simp [ofNat, ih]

theorem ofNat_toNat (bytes : Bytes) : ofNat bytes.length (toNat bytes) = bytes := by
  induction bytes with
  | nil => rfl
  | cons b bytes ih =>
    have hb := b.toNat_lt
    have hdiv : (b.toNat + 256 * toNat bytes) / 256 = toNat bytes := by omega
    simp only [toNat, List.length_cons, ofNat, hdiv, ih, List.cons.injEq, and_true]
    apply UInt8.toNat_inj.mp
    rw [UInt8.toNat_ofNat']
    omega

def ofWord16 (word : UInt16) : Bytes := ofNat 2 word.toNat

def ofWord32 (word : UInt32) : Bytes := ofNat 4 word.toNat

def toWord16 (bytes : Bytes) : UInt16 := UInt16.ofNat (toNat bytes)

def toWord32 (bytes : Bytes) : UInt32 := UInt32.ofNat (toNat bytes)

@[simp] theorem length_ofWord16 (word : UInt16) : (ofWord16 word).length = 2 := length_ofNat ..

@[simp] theorem length_ofWord32 (word : UInt32) : (ofWord32 word).length = 4 := length_ofNat ..

@[simp] theorem toWord16_ofWord16 (word : UInt16) : toWord16 (ofWord16 word) = word := by
  apply UInt16.toNat_inj.mp
  simp only [toWord16, ofWord16, ofNat, toNat, UInt8.toNat_ofNat', UInt16.toNat_ofNat']
  have := word.toNat_lt
  omega

@[simp] theorem toWord32_ofWord32 (word : UInt32) : toWord32 (ofWord32 word) = word := by
  apply UInt32.toNat_inj.mp
  simp only [toWord32, ofWord32, ofNat, toNat, UInt8.toNat_ofNat', UInt32.toNat_ofNat']
  have := word.toNat_lt
  omega

/-- Bytewise exclusive or, as long as the shorter argument. -/
def xor (a b : Bytes) : Bytes := List.zipWith (· ^^^ ·) a b

/-- Cuts a byte string into pieces of `size` bytes, the last of which may be shorter. -/
def pieces (size : Nat) (bytes : Bytes) : List Bytes :=
  if _h : bytes = [] ∨ size = 0 then []
  else bytes.take size :: pieces size (bytes.drop size)
termination_by bytes.length
decreasing_by
  have := List.length_pos_iff.mpr (not_or.mp _h).1
  simp only [List.length_drop]
  omega

def hexDigit (n : Nat) : Char :=
  if n < 10 then Char.ofNat (48 + n) else Char.ofNat (87 + n)

def hexValue? (c : Char) : Option Nat :=
  if '0' ≤ c ∧ c ≤ '9' then some (c.toNat - 48)
  else if 'a' ≤ c ∧ c ≤ 'f' then some (c.toNat - 87)
  else if 'A' ≤ c ∧ c ≤ 'F' then some (c.toNat - 55)
  else none

def toHexChars (bytes : Bytes) : List Char :=
  bytes.flatMap fun b => [hexDigit (b.toNat / 16), hexDigit (b.toNat % 16)]

def toHex (bytes : Bytes) : String := String.ofList (toHexChars bytes)

def toHexUpper (bytes : Bytes) : String := String.ofList ((toHexChars bytes).map Char.toUpper)

/-- Reads pairs of digits of either case; an odd digit or any other character is refused. -/
def ofHexChars? : List Char → Option Bytes
  | [] => some []
  | [_] => none
  | hi :: lo :: rest => do
    let h ← hexValue? hi
    let l ← hexValue? lo
    return UInt8.ofNat (16 * h + l) :: (← ofHexChars? rest)

def ofHex? (text : String) : Option Bytes := ofHexChars? text.toList

end Bytes

end Latchkey

namespace Latchkey.Numeral

/-- Puts zeros in front until there are `width` digits. -/
def padded (width : Nat) (digits : List Char) : List Char :=
  List.replicate (width - digits.length) '0' ++ digits

def decimal (width n : Nat) : String := String.ofList (padded width (Nat.toDigits 10 n))

def hexUpper (width n : Nat) : String :=
  String.ofList (padded width ((Nat.toDigits 16 n).map Char.toUpper))

end Latchkey.Numeral
