import Latchkey.Proofs.Reassembly

/-!
# Chunk streams

A stream of chunks is made of the chunks of the messages that it completes and of the full chunks of a
message that it leaves unfinished. Since the chunks of a message are all full but the last, messages and
unfinished bytes give back the stream, and the chunks of messages give back the messages.
-/

namespace Latchkey

private theorem Bytes.pieces_flatten {size : Nat} (hsize : 0 < size) {parts : List Bytes}
    (hparts : ∀ part ∈ parts, part.length = size) : pieces size parts.flatten = parts := by
  induction parts with
  | nil => simp [pieces]
  | cons part parts ih =>
    rw [List.forall_mem_cons] at hparts
    obtain ⟨hpart, hrest⟩ := hparts
    have hsome : ¬ (part ++ parts.flatten = [] ∨ size = 0) := by
      rw [← List.length_eq_zero_iff, List.length_append]
      omega
    rw [List.flatten_cons, pieces, dif_neg hsome, List.take_left' hpart, List.drop_left' hpart, ih hrest]

namespace Assembler

variable {a : Assembler} {chunk : Bytes} {chunks : List Bytes}

private theorem push_full (a : Assembler) (h : chunk.length = Chunk.capacity) :
    a.push chunk = (none, ⟨chunk :: a.backlog⟩) := by
  rw [push, if_pos h]

private theorem push_last (a : Assembler) (h : chunk.length ≠ Chunk.capacity) :
    a.push chunk = (some (a.bytes ++ chunk), {}) := by
  rw [push, if_neg h, ← bytes_cons]
  rfl

/-- Takes in chunks one after the other: the messages that they complete, and what is then in progress. -/
def collect : List Bytes → Assembler → List Bytes × Assembler
  | [], a => ([], a)
  | chunk :: chunks, a =>
    let (message, next) := a.push chunk
    let (messages, last) := next.collect chunks
    (message.toList ++ messages, last)

theorem collect_full (a : Assembler) (chunks : List Bytes) (h : chunk.length = Chunk.capacity) :
    a.collect (chunk :: chunks) = collect chunks ⟨chunk :: a.backlog⟩ := by
  simp only [collect, push_full a h]
  rfl

theorem collect_last (a : Assembler) (chunks : List Bytes) (h : chunk.length ≠ Chunk.capacity) :
    a.collect (chunk :: chunks) =
      ((a.bytes ++ chunk) :: (collect chunks {}).1, (collect chunks {}).2) := by
  simp only [collect, push_last a h]
  rfl

private theorem collect_split (a : Assembler) (message : Bytes) (rest : List Bytes) :
    a.collect (Chunk.split message ++ rest) =
      ((a.bytes ++ message) :: (collect rest {}).1, (collect rest {}).2) := by
  obtain ⟨full, last, hfull, hlast, rfl⟩ := Chunk.exists_split message
  rw [Chunk.split_full_append hfull hlast]
  induction full generalizing a with
  | nil => exact collect_last a rest (Nat.ne_of_lt hlast)
  | cons chunk full ih =>
    rw [List.forall_mem_cons] at hfull
    rw [List.cons_append, List.cons_append, collect_full a _ hfull.1, ih _ hfull.2, bytes_cons]
    simp

theorem collect_messages (messages : List Bytes) :
    collect (messages.flatMap Chunk.split) {} = (messages, {}) := by
  induction messages with
  | nil => rfl
  | cons message messages ih =>
    rw [List.flatMap_cons, collect_split, ih]
    rfl

/-- All that is held back are full chunks. -/
def Orderly (a : Assembler) : Prop := ∀ chunk ∈ a.backlog, chunk.length = Chunk.capacity

private theorem orderly_empty : Orderly {} := by
  intro chunk hchunk
  cases hchunk

private theorem Orderly.push (h : a.Orderly) (chunk : Bytes) : (a.push chunk).2.Orderly := by
  by_cases hfull : chunk.length = Chunk.capacity
  · rw [push_full a hfull]
    exact List.forall_mem_cons.mpr ⟨hfull, h⟩
  · rw [push_last a hfull]
    exact orderly_empty

private theorem Orderly.collect (h : a.Orderly) (chunks : List Bytes) : (a.collect chunks).2.Orderly := by
  induction chunks generalizing a with
  | nil => exact h
  | cons chunk chunks ih => exact ih (h.push chunk)

private theorem Orderly.full (h : a.Orderly) : ∀ chunk ∈ a.backlog.reverse, chunk.length = Chunk.capacity := by
  intro chunk hchunk
  exact h chunk (List.mem_reverse.mp hchunk)

private theorem Orderly.split (h : a.Orderly) (hlast : chunk.length < Chunk.capacity) :
    Chunk.split (a.bytes ++ chunk) = a.backlog.reverse ++ [chunk] :=
  Chunk.split_full_append h.full hlast

private theorem Orderly.pieces (h : a.Orderly) : Bytes.pieces Chunk.capacity a.bytes = a.backlog.reverse :=
  Bytes.pieces_flatten (by decide) h.full

private theorem Orderly.pending (h : a.Orderly) : a.pending = a.backlog.length * Chunk.capacity := by
  rw [Assembler.pending, Chunk.length_flatten_full h]

/-- What has been completed, cut again, and what is held back are what has come in. -/
theorem Orderly.recut (h : a.Orderly) (hchunks : ∀ chunk ∈ chunks, chunk.length ≤ Chunk.capacity) :
    (a.collect chunks).1.flatMap Chunk.split ++ (a.collect chunks).2.backlog.reverse =
      a.backlog.reverse ++ chunks := by
  induction chunks generalizing a with
  | nil => simp [Assembler.collect]
  | cons chunk chunks ih =>
    rw [List.forall_mem_cons] at hchunks
    have hnext := h.push chunk
    by_cases hfull : chunk.length = Chunk.capacity
    · rw [push_full a hfull] at hnext
      rw [collect_full a chunks hfull, ih hnext hchunks.2]
      simp
    · have hlast : chunk.length < Chunk.capacity := Nat.lt_of_le_of_ne hchunks.1 hfull
      have hrest := ih orderly_empty hchunks.2
      rw [List.reverse_nil, List.nil_append] at hrest
      rw [collect_last a chunks hfull, List.flatMap_cons, h.split hlast, List.append_assoc, hrest,
        List.append_assoc, List.singleton_append]

/-- Streams of chunks and messages determine each other. The messages that a stream completes, cut into
chunks, and the bytes it leaves pending, cut into full chunks, are the stream, and all along whole chunks are
pending; and from the chunks of messages come these messages, with nothing pending. -/
theorem streams_correspond (chunks : List Bytes)
    (hchunks : ∀ chunk ∈ chunks, chunk.length ≤ Chunk.capacity) (messages : List Bytes) :
    (collect chunks {}).1.flatMap Chunk.split ++
          Bytes.pieces Chunk.capacity (collect chunks {}).2.bytes = chunks ∧
      (∀ n, Chunk.capacity ∣ (collect (chunks.take n) {}).2.pending) ∧
      collect (messages.flatMap Chunk.split) {} = (messages, {}) := by
  refine ⟨?_, ?_, collect_messages messages⟩
  · rw [(orderly_empty.collect chunks).pieces, orderly_empty.recut hchunks]
    rfl
  · intro n
    rw [(orderly_empty.collect (chunks.take n)).pending]
    exact Nat.dvd_mul_left ..

/-- Three messages, one of them empty and one longer than a chunk, and a full chunk of a fourth one. -/
theorem streams_correspond_unfinished :
    let full : Bytes := List.replicate 20 0x11
    let chunks := [full, [], [], full, [0x22], full]
    (∀ chunk ∈ chunks, chunk.length ≤ Chunk.capacity) ∧
      collect chunks {} = ([full, [], full ++ [0x22]], ⟨[full]⟩) ∧
      [full, [], full ++ [0x22]].flatMap Chunk.split ++ Bytes.pieces Chunk.capacity full = chunks ∧
      (Chunk.capacity ∣ (collect (chunks.take 4) {}).2.pending) ∧
      collect ([full, []].flatMap Chunk.split) {} = ([full, []], {}) := by
  intro full chunks
  have hchunks : ∀ chunk ∈ chunks, chunk.length ≤ Chunk.capacity := by decide
  have hcollect : collect chunks {} = ([full, [], full ++ [0x22]], ⟨[full]⟩) := by decide
  obtain ⟨hstream, hpending, hmessages⟩ := streams_correspond chunks hchunks [full, []]
  rw [hcollect] at hstream
  exact ⟨hchunks, hcollect, hstream, hpending 4, hmessages⟩

end Assembler

end Latchkey
