import Latchkey.Bytes

/-!
# Reading payloads field by field

A `Reader` consumes bytes from the front of a payload and fails when too few are left. Every report of a
device is described by one reader, so a layout is the order of its fields and no field is addressed by
its offset. Bytes can also be looked up by their places, and a lookup that would go beyond the bytes there
are finds nothing.
-/

namespace Latchkey

/-- Takes a field off the front of a byte string, or fails when the string is too short. -/
abbrev Reader := StateT Bytes Option

namespace Reader

def byte : Reader UInt8 := fun
  | [] => none
  | b :: bytes => some (b, bytes)

def take (width : Nat) : Reader Bytes := fun bytes =>
  if width ≤ bytes.length then some (bytes.splitAt width) else none

def rest : Reader Bytes := fun bytes => some (bytes, [])

/-- A byte that stands for a truth value: anything but zero is true. -/
def flag : Reader Bool := return (← byte) != 0

def word16 : Reader UInt16 := return Bytes.toWord16 (← take 2)

def word32 : Reader UInt32 := return Bytes.toWord32 (← take 4)

/-- A byte that older devices leave out, where it counts as zero. -/
def lateByte : Reader UInt8 := fun
  | [] => some (0, [])
  | b :: bytes => some (b, bytes)

def int16 : Reader Int16 := return (← word16).toInt16

/-- The first field of a byte string, whatever follows it. -/
def first? {α : Type} (field : Reader α) (bytes : Bytes) : Option α := (field.run bytes).map Prod.fst

variable {α β : Type}

theorem bind_run (field : Reader α) (next : α → Reader β) (bytes : Bytes) :
    (field >>= next).run bytes = (field.run bytes).bind fun p => (next p.1).run p.2 := rfl

@[simp] theorem byte_cons (b : UInt8) (bytes : Bytes) : byte.run (b :: bytes) = some (b, bytes) := rfl

theorem take_eq_some_iff {width : Nat} {bytes front back : Bytes} :
    (take width).run bytes = some (front, back) ↔ bytes = front ++ back ∧ front.length = width := by
  simp only [take, StateT.run]
  constructor
  · intro h
    split at h
    · rename_i hle
      simp only [List.splitAt_eq, Option.some.injEq, Prod.mk.injEq] at h
      rw [← h.1, ← h.2]
      exact ⟨(List.take_append_drop width bytes).symm, List.length_take_of_le hle⟩
    · contradiction
  · rintro ⟨rfl, rfl⟩
    simp [List.splitAt_eq]

@[simp] theorem word16_append (word : UInt16) (bytes : Bytes) :
    word16.run (Bytes.ofWord16 word ++ bytes) = some (word, bytes) := by
  have h : (take 2).run (Bytes.ofWord16 word ++ bytes) = some (Bytes.ofWord16 word, bytes) :=
    take_eq_some_iff.mpr ⟨rfl, Bytes.length_ofWord16 word⟩
  simp only [word16, bind_run, h, Option.bind_some, Bytes.toWord16_ofWord16]
  rfl

@[simp] theorem word32_append (word : UInt32) (bytes : Bytes) :
    word32.run (Bytes.ofWord32 word ++ bytes) = some (word, bytes) := by
  have h : (take 4).run (Bytes.ofWord32 word ++ bytes) = some (Bytes.ofWord32 word, bytes) :=
    take_eq_some_iff.mpr ⟨rfl, Bytes.length_ofWord32 word⟩
  simp only [word32, bind_run, h, Option.bind_some, Bytes.toWord32_ofWord32]
  rfl

end Reader

end Latchkey

namespace Latchkey.Bytes

/-- The `count` bytes from the place `start` on, if the string has them all. -/
def slice? (start count : Nat) (bytes : Bytes) : Option Bytes :=
  if start + count ≤ bytes.length then some ((bytes.drop start).take count) else none

def flagAt? (start : Nat) (bytes : Bytes) : Option Bool := do
  return (← bytes[start]?) != 0

def word16At? (start : Nat) (bytes : Bytes) : Option UInt16 := do
  return toWord16 [← bytes[start]?, ← bytes[start + 1]?]

def int16At? (start : Nat) (bytes : Bytes) : Option Int16 := do
  return (← bytes.word16At? start).toInt16

def word32At? (start : Nat) (bytes : Bytes) : Option UInt32 := do
  return toWord32 [← bytes[start]?, ← bytes[start + 1]?, ← bytes[start + 2]?, ← bytes[start + 3]?]

/-- A byte that is left out counts as zero. -/
def lateByteAt? (start : Nat) (bytes : Bytes) : Option UInt8 := some (bytes[start]?.getD 0)

variable {start count : Nat} {bytes : Bytes}

theorem slice?_eq (h : start + count ≤ bytes.length) :
    bytes.slice? start count = some ((bytes.drop start).take count) := by
  rw [slice?, if_pos h]

theorem slice?_front (h : count ≤ bytes.length) : bytes.slice? 0 count = some (bytes.take count) := by
  rw [slice?_eq (by omega), List.drop_zero]

theorem slice?_back (h : start + count = bytes.length) :
    bytes.slice? start count = some (bytes.drop start) := by
  rw [slice?_eq (Nat.le_of_eq h), List.take_of_length_le]
  rw [List.length_drop]
  omega

theorem length_of_slice? {part : Bytes} (h : bytes.slice? start count = some part) : part.length = count := by
  rw [slice?] at h
  split at h
  · cases h
    rw [List.length_take, List.length_drop]
    omega
  · contradiction

end Latchkey.Bytes
