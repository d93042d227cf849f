import Latchkey.Bytes.Reader

/-!
# Text in messages

Texts travel as UTF-8. Reading never fails: every longest piece that could have begun a character but does
not finish one is read as the replacement character. A name takes a fixed number of bytes: longer texts are
cut, shorter ones are filled up with zero bytes, and reading stops at the first zero byte.
-/

namespace Latchkey.Utf8

def encode (text : List Char) : Bytes := text.flatMap String.utf8EncodeChar

def ofString (text : String) : Bytes := encode text.toList

/-- What stands in for bytes that are no character. -/
def replacement : Char := '\uFFFD'

/-- A character of which some bytes have been read. -/
structure Pending where
  /-- How many bytes are still to come. -/
  owed : Nat
  /-- The least value the next byte may have. -/
  low : UInt8
  high : UInt8
  bits : Nat

inductive Opening where
  | whole (c : Char)
  | part (pending : Pending)
  | stray

/-- Classifies a byte between two characters. The bounds on the second byte keep out overlong forms,
surrogates and numbers beyond the last character. -/
def opening (b : UInt8) : Opening :=
  if b < 0x80 then .whole (Char.ofNat b.toNat)
  else if b < 0xC2 then .stray
  else if b < 0xE0 then .part ⟨1, 0x80, 0xBF, b.toNat - 0xC0⟩
  else if b = 0xE0 then .part ⟨2, 0xA0, 0xBF, 0⟩
  else if b = 0xED then .part ⟨2, 0x80, 0x9F, 0xD⟩
  else if b < 0xF0 then .part ⟨2, 0x80, 0xBF, b.toNat - 0xE0⟩
  else if b = 0xF0 then .part ⟨3, 0x90, 0xBF, 0⟩
  else if b < 0xF4 then .part ⟨3, 0x80, 0xBF, b.toNat - 0xF0⟩
  else if b = 0xF4 then .part ⟨3, 0x80, 0x8F, 4⟩
  else .stray

def Pending.extend (p : Pending) (b : UInt8) : Pending :=
  ⟨p.owed - 1, 0x80, 0xBF, p.bits * 64 + (b.toNat - 0x80)⟩

mutual

def decode : Bytes → List Char
  | [] => []
  | b :: bytes =>
    match opening b with
    | .whole c => c :: decode bytes
    | .part p => decodePart p bytes
    | .stray => replacement :: decode bytes

/-- Reads on inside a character. A byte that cannot continue it is looked at again as a beginning. -/
def decodePart (p : Pending) : Bytes → List Char
  | [] => [replacement]
  | b :: bytes =>
    if p.low ≤ b ∧ b ≤ p.high then
      if p.owed = 1 then Char.ofNat (p.extend b).bits :: decode bytes
      else decodePart (p.extend b) bytes
    else
      match opening b with
      | .whole c => replacement :: c :: decode bytes
      | .part p => replacement :: decodePart p bytes
      | .stray => replacement :: replacement :: decode bytes

end

/-- The text that bytes spell, with replacement characters where they spell none. -/
def toStringLossy (bytes : Bytes) : String := String.ofList (decode bytes)

end Latchkey.Utf8

namespace Latchkey.Padded

/-- The text in exactly `width` bytes. -/
def encode (width : Nat) (text : String) : Bytes :=
  let bytes := (Utf8.ofString text).take width
  bytes ++ List.replicate (width - bytes.length) 0

/-- The text in front of the first zero byte. -/
def decode (field : Bytes) : String := Utf8.toStringLossy (field.takeWhile (· != 0))

@[simp] theorem length_encode (width : Nat) (text : String) : (encode width text).length = width := by
  simp only [encode, List.length_append, List.length_replicate, List.length_take]
  omega

def field (width : Nat) : Reader String := return decode (← Reader.take width)

end Latchkey.Padded
