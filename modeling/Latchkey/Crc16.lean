import Latchkey.Bytes

/-!
# The frame check

Frames carry the 16-bit cyclic redundancy check with polynomial `x¹⁶ + x¹² + x⁵ + 1`, all ones as the
starting register, the high bit of every byte first and no final inversion. The register is shifted one
bit at a time, which makes the shift linear in exclusive or.
-/

namespace Latchkey.Crc16

def polynomial : UInt16 := 0x1021

def seed : UInt16 := 0xFFFF

/-- Multiplies the register by `x` modulo the polynomial. -/
def shift (register : UInt16) : UInt16 :=
  if register &&& 0x8000 = 0 then register <<< 1 else register <<< 1 ^^^ polynomial

def shifts : (count : Nat) → UInt16 → UInt16
  | 0, register => register
  | count + 1, register => shifts count (shift register)

def step (register : UInt16) (byte : UInt8) : UInt16 :=
  shifts 8 (register ^^^ byte.toUInt16 <<< 8)

/-- The register after `bytes`, from an arbitrary start. -/
def update (register : UInt16) (bytes : Bytes) : UInt16 := bytes.foldl step register

def checksum (bytes : Bytes) : UInt16 := update seed bytes

def checksumParts (parts : List Bytes) : UInt16 := parts.foldl update seed

private theorem update_append (register : UInt16) (a b : Bytes) :
    update register (a ++ b) = update (update register a) b := List.foldl_append

theorem checksumParts_eq (parts : List Bytes) : checksumParts parts = checksum parts.flatten := by
  suffices h : ∀ register, parts.foldl update register = update register parts.flatten from h seed
  induction parts with
  | nil => intro register; rfl
  | cons part parts ih =>
    intro register
    rw [List.foldl_cons, List.flatten_cons, update_append, ih]

/-- The published check value of this polynomial and seed. -/
example : checksum [0x31, 0x32, 0x33, 0x34, 0x35, 0x36, 0x37, 0x38, 0x39] = 0x29B1 := by
  decide +kernel

end Latchkey.Crc16
