import Mathlib.Algebra.GroupWithZero.Nat
import Latchkey.Sealed

/-!
# Sources as streams

A source of nonces is a stream of bytes. Drawing takes the next bytes of it and leaves the others, so what is
drawn piece by piece are consecutive pieces of the stream. The stream is the string of the source repeated for
ever, in however many draws it is taken.
-/

namespace Latchkey.Nonces

/-- The source when this many bytes have been drawn from it. -/
def skip (count : Nat) (source : Nonces) : Nonces := (source.draw count).2

/-- The byte that is drawn after `i` others. -/
def stream (source : Nonces) (i : Nat) : UInt8 := (source.skip i).next.1

/-- A piece of the stream. -/
def segment (source : Nonces) (start count : Nat) : Bytes := (List.range' start count).map source.stream

variable (source : Nonces)

private theorem skip_succ (count : Nat) : source.skip (count + 1) = source.next.2.skip count := rfl

theorem skip_skip (first second : Nat) : (source.skip first).skip second = source.skip (first + second) := by
  induction first generalizing source with
  | zero => rw [Nat.zero_add]; rfl
  | succ first ih => rw [skip_succ, ih, Nat.succ_add, skip_succ]

private theorem stream_skip (count i : Nat) : (source.skip count).stream i = source.stream (count + i) := by
  rw [stream, skip_skip, stream]

@[simp] theorem length_segment (start count : Nat) : (source.segment start count).length = count := by
  rw [segment, List.length_map, List.length_range']

theorem segment_skip (skipped start count : Nat) :
    (source.skip skipped).segment start count = source.segment (skipped + start) count := by
  rw [segment, segment, ← List.map_add_range', List.map_map]
  apply List.map_congr_left
  intro i _
  exact source.stream_skip skipped i

theorem draw_fst (count : Nat) : (source.draw count).1 = source.segment 0 count := by
  induction count generalizing source with
  | zero => rfl
  | succ count ih =>
    have hrest : source.next.2.segment 0 count = source.segment 1 count := source.segment_skip 1 0 count
    rw [draw, segment, List.range'_succ, List.map_cons]
    exact congrArg _ ((ih source.next.2).trans hrest)

/-- As long as its bytes last the stream of a source consists of them, and then it begins anew. -/
theorem stream_eq (h : source.position < source.bytes.length) (i : Nat) :
    source.stream i = source.bytes.getD ((source.position + i) % source.bytes.length) 0 := by
  have hsome : source.bytes ≠ [] := List.ne_nil_of_length_pos (by omega)
  induction i generalizing source with
  | zero =>
    rw [Nat.add_zero, Nat.mod_eq_of_lt h]
    show source.next.1 = _
    rw [next, if_neg hsome]
  | succ i ih =>
    have hmod : (source.position + 1) % source.bytes.length < source.bytes.length := Nat.mod_lt _ (by omega)
    have hlater := ih { source with position := (source.position + 1) % source.bytes.length } hmod hsome
    have hstep : source.stream (i + 1) = source.next.2.stream i := rfl
    rw [hstep, next, if_neg hsome, hlater, Nat.mod_add_mod, Nat.add_assoc, Nat.add_comm 1 i]

theorem segment_eq_iff {first second count : Nat} :
    source.segment first count = source.segment second count ↔
      ∀ i < count, source.stream (first + i) = source.stream (second + i) := by
  simp only [segment, List.ext_getElem_iff, List.length_map, List.length_range', List.getElem_map,
    List.getElem_range', Nat.one_mul, true_and]
  exact ⟨fun h i hi => h i hi hi, fun h i hi _ => h i hi⟩

/-- What draws of these lengths give, one after the other, and the source they leave behind. -/
def drawAll : List Nat → Nonces → List Bytes × Nonces
  | [], source => ([], source)
  | count :: counts, source =>
    let (bytes, source) := source.draw count
    let (pieces, source) := drawAll counts source
    (bytes :: pieces, source)

private theorem drawAll_cons (count : Nat) (counts : List Nat) :
    source.drawAll (count :: counts) =
      ((source.draw count).1 :: ((source.skip count).drawAll counts).1,
        ((source.skip count).drawAll counts).2) := rfl

private theorem draw_add (first second : Nat) :
    (source.draw (first + second)).1 = (source.draw first).1 ++ ((source.skip first).draw second).1 := by
  rw [draw_fst, draw_fst, draw_fst, segment_skip, segment, segment, segment, ← List.map_append,
    Nat.add_zero, ← List.range'_append_1, Nat.zero_add]

private theorem length_drawAll (counts : List Nat) : (source.drawAll counts).1.map List.length = counts := by
  induction counts generalizing source with
  | nil => rfl
  | cons count counts ih => rw [drawAll_cons, List.map_cons, length_draw, ih]

/-- Draws one after the other give what one draw of their total length gives. -/
theorem drawAll_fst (counts : List Nat) : (source.drawAll counts).1.flatten = (source.draw counts.sum).1 := by
  induction counts generalizing source with
  | nil => rfl
  | cons count counts ih => rw [drawAll_cons, List.flatten_cons, ih, List.sum_cons, draw_add]

private theorem drawAll_snd (counts : List Nat) : (source.drawAll counts).2 = source.skip counts.sum := by
  induction counts generalizing source with
  | nil => rfl
  | cons count counts ih => rw [drawAll_cons, ih, List.sum_cons, skip_skip]

private theorem skip_eq (h : source.position < source.bytes.length) (count : Nat) :
    source.skip count = { source with position := (source.position + count) % source.bytes.length } := by
  have hsome : source.bytes ≠ [] := List.ne_nil_of_length_pos (by omega)
  induction count generalizing source with
  | zero =>
    rw [Nat.add_zero, Nat.mod_eq_of_lt h]
    rfl
  | succ count ih =>
    have hmod : (source.position + 1) % source.bytes.length < source.bytes.length := Nat.mod_lt _ (by omega)
    have hlater := ih { source with position := (source.position + 1) % source.bytes.length } hmod hsome
    rw [skip_succ, next, if_neg hsome, hlater, Nat.mod_add_mod, Nat.add_assoc, Nat.add_comm 1 count]

section Fresh

variable {bytes : Bytes} (hsome : bytes ≠ [])
include hsome

private theorem draw_round : Nonces.draw bytes.length { bytes } = (bytes, { bytes }) := by
  have hstart : 0 < bytes.length := List.length_pos_iff.mpr hsome
  apply Prod.ext
  · rw [draw_fst]
    apply List.ext_getElem
    · rw [length_segment]
    · intro i hi hi'
      simp only [segment, List.getElem_map, List.getElem_range', Nat.one_mul, Nat.zero_add]
      rw [stream_eq _ hstart]
      simp [Nat.mod_eq_of_lt hi', hi']
  · show Nonces.skip bytes.length { bytes } = { bytes }
    rw [skip_eq _ hstart, Nat.zero_add, Nat.mod_self]

private theorem draw_rounds (rounds : Nat) :
    Nonces.draw (rounds * bytes.length) { bytes } = ((List.replicate rounds bytes).flatten, { bytes }) := by
  induction rounds with
  | zero => rw [Nat.zero_mul]; rfl
  | succ rounds ih =>
    have hback : Nonces.skip (rounds * bytes.length) { bytes } = { bytes } := by rw [skip, ih]
    rw [Nat.succ_mul]
    apply Prod.ext
    · rw [draw_add, ih, hback, draw_round hsome, List.replicate_succ', List.flatten_append, List.flatten_singleton]
    · show Nonces.skip (rounds * bytes.length + bytes.length) { bytes } = { bytes }
      rw [← skip_skip, hback, skip, draw_round hsome]

private theorem draw_eq_take {count rounds : Nat} (h : count ≤ rounds * bytes.length) :
    (Nonces.draw count { bytes }).1 = (List.replicate rounds bytes).flatten.take count := by
  obtain ⟨rest, hrest⟩ := Nat.exists_eq_add_of_le h
  have hrounds : (Nonces.draw (rounds * bytes.length) { bytes }).1 = (List.replicate rounds bytes).flatten := by
    rw [draw_rounds hsome]
  rw [← hrounds, hrest, draw_add]
  exact (List.take_left' (length_draw count _)).symm

end Fresh

private theorem draw_nothing (count position : Nat) :
    Nonces.draw count { bytes := [], position } = (List.replicate count 0, { bytes := [], position }) := by
  induction count with
  | zero => rfl
  | succ count ih =>
    rw [draw, next, if_pos rfl]
    dsimp only
    rw [ih]
    rfl

private theorem drawAll_nothing (counts : List Nat) :
    Nonces.drawAll counts { bytes := [] } = (counts.map (List.replicate · 0), { bytes := [] }) := by
  induction counts with
  | nil => rfl
  | cons count counts ih => rw [drawAll_cons, skip, draw_nothing, ih, List.map_cons]

/-- However they are divided into draws, the bytes of a source are the first ones of its string repeated for
ever. What is drawn, and the place at which the source goes on, depends on the total length alone, and that
place is always one in the string. A source without bytes gives zeros. -/
theorem drawAll_repeats (bytes : Bytes) (counts : List Nat) :
    let source : Nonces := { bytes }
    let drawn := source.drawAll counts
    drawn.1.map List.length = counts ∧
      (bytes ≠ [] →
        (∀ rounds, counts.sum ≤ rounds * bytes.length →
          drawn.1.flatten = (List.replicate rounds bytes).flatten.take counts.sum) ∧
        drawn.2 = { bytes, position := counts.sum % bytes.length } ∧ drawn.2.position < bytes.length) ∧
      (∀ others : List Nat, others.sum = counts.sum →
        (source.drawAll others).1.flatten = drawn.1.flatten ∧ (source.drawAll others).2 = drawn.2) ∧
      (bytes = [] → drawn = (counts.map (List.replicate · 0), source)) := by
  intro source drawn
  refine ⟨source.length_drawAll counts, ?_, ?_, ?_⟩
  · intro hsome
    have hstart : 0 < bytes.length := List.length_pos_iff.mpr hsome
    have hafter : drawn.2 = { bytes, position := counts.sum % bytes.length } := by
      rw [drawAll_snd, skip_eq source hstart, Nat.zero_add]
    refine ⟨?_, hafter, ?_⟩
    · intro rounds hrounds
      rw [drawAll_fst, draw_eq_take hsome hrounds]
    · rw [hafter]
      exact Nat.mod_lt _ hstart
  · intro others hsum
    rw [drawAll_fst, drawAll_fst, drawAll_snd, drawAll_snd, hsum]
    exact ⟨rfl, rfl⟩
  · rintro rfl
    exact drawAll_nothing counts

/-- Draws of two, no and five bytes from a source of three, and one of all seven. -/
theorem drawAll_repeats_three :
    let source : Nonces := { bytes := [1, 2, 3] }
    (source.drawAll [2, 0, 5]).1.flatten = [1, 2, 3, 1, 2, 3, 1] ∧
      (source.drawAll [2, 0, 5]).2 = { bytes := [1, 2, 3], position := 1 } ∧
      (source.drawAll [7]).1.flatten = (source.drawAll [2, 0, 5]).1.flatten ∧
      (source.drawAll [7]).2 = (source.drawAll [2, 0, 5]).2 := by
  intro source
  obtain ⟨-, hrepeats, hothers, -⟩ := drawAll_repeats [1, 2, 3] [2, 0, 5]
  obtain ⟨hbytes, hafter, -⟩ := hrepeats (List.cons_ne_nil _ _)
  obtain ⟨hsame, hplace⟩ := hothers [7] rfl
  exact ⟨hbytes 3 (by decide), hafter, hsame, hplace⟩

end Latchkey.Nonces
