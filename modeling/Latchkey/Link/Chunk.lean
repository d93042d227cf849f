import Latchkey.Bytes

/-!
# Chunks

A link carries at most twenty bytes at a time. A message is cut into full chunks and one shorter chunk that
ends it, which is empty if the length of the message is a multiple of twenty.
-/

namespace Latchkey

namespace Chunk

def capacity : Nat := 20

def split (message : Bytes) : List Bytes :=
  let chunk := message.take capacity
  if chunk.length < capacity then [message] else chunk :: split (message.drop capacity)
termination_by message.length
decreasing_by
  simp only [chunk, List.length_take, List.length_drop, capacity] at *
  omega

theorem split_eq (message : Bytes) :
    split message = if message.length < capacity then [message]
      else message.take capacity :: split (message.drop capacity) := by
  have h : (message.take capacity).length < capacity ↔ message.length < capacity := by
    simp only [List.length_take]
    omega
  rw [split]
  simp only [h]

theorem exists_split (message : Bytes) :
    ∃ (full : List Bytes) (last : Bytes), (∀ chunk ∈ full, chunk.length = capacity) ∧
      last.length < capacity ∧ full.flatten ++ last = message := by
  induction message using split.induct with
  | case1 message chunk hshort =>
    have hlength : message.length < capacity := by
      simp only [chunk, List.length_take] at hshort
      omega
    exact ⟨[], message, by simp, hlength, rfl⟩
  | case2 message chunk hlong ih =>
    obtain ⟨full, last, hfull, hlast, hrest⟩ := ih
    have hchunk : chunk.length = capacity := by
      simp only [chunk, List.length_take] at hlong ⊢
      omega
    refine ⟨chunk :: full, last, List.forall_mem_cons.mpr ⟨hchunk, hfull⟩, hlast, ?_⟩
    rw [List.flatten_cons, List.append_assoc, hrest, List.take_append_drop]

theorem split_full_append {full : List Bytes} {last : Bytes}
    (hfull : ∀ chunk ∈ full, chunk.length = capacity) (hlast : last.length < capacity) :
    split (full.flatten ++ last) = full ++ [last] := by
  induction full with
  | nil => rw [List.flatten_nil, List.nil_append, split_eq, if_pos hlast, List.nil_append]
  | cons chunk full ih =>
    rw [List.forall_mem_cons] at hfull
    have hlong : ¬ (chunk ++ (full.flatten ++ last)).length < capacity := by
      rw [List.length_append, hfull.1]
      omega
    rw [List.flatten_cons, List.append_assoc, split_eq, if_neg hlong, List.take_left' hfull.1,
      List.drop_left' hfull.1, ih hfull.2, List.cons_append]

theorem length_flatten_full {full : List Bytes} (hfull : ∀ chunk ∈ full, chunk.length = capacity) :
    full.flatten.length = full.length * capacity := by
  have hlengths : full.map List.length = List.replicate full.length capacity :=
    List.eq_replicate_iff.mpr ⟨List.length_map _, by simpa using hfull⟩
  rw [List.length_flatten, hlengths, List.sum_replicate_nat]

theorem length_le_of_mem_split {message chunk : Bytes} (h : chunk ∈ split message) :
    chunk.length ≤ capacity := by
  obtain ⟨full, last, hfull, hlast, rfl⟩ := exists_split message
  rw [split_full_append hfull hlast, List.mem_append, List.mem_singleton] at h
  rcases h with hmem | rfl
  · exact Nat.le_of_eq (hfull chunk hmem)
  · exact Nat.le_of_lt hlast

theorem length_split (message : Bytes) : (split message).length = message.length / capacity + 1 := by
  obtain ⟨full, last, hfull, hlast, rfl⟩ := exists_split message
  have hcount : (full.length * capacity + last.length) / capacity = full.length := by
    simp only [capacity] at hlast ⊢
    omega
  rw [split_full_append hfull hlast, List.length_append, List.length_append, length_flatten_full hfull,
    hcount, List.length_singleton]

end Chunk

/-- Collects chunks until a message is complete. -/
@[ext] structure Assembler where
  /-- The full chunks of the message in progress, latest first. -/
  backlog : List Bytes := []
deriving DecidableEq, Repr

namespace Assembler

/-- Takes in a chunk; any chunk that is not full ends the message. -/
def push (chunk : Bytes) (a : Assembler) : Option Bytes × Assembler :=
  if chunk.length = Chunk.capacity then (none, { backlog := chunk :: a.backlog })
  else (some ((chunk :: a.backlog).reverse.flatten), {})

def pending (a : Assembler) : Nat := a.backlog.flatten.length

end Assembler

end Latchkey
