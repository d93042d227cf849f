import Mathlib.Tactic.SplitIfs
import Latchkey.Time.Span

/-!
# Spans and their texts

A sum of units is read as what its parts come to, as long as that is fewer than `2⁶⁴` seconds. The text of a
span is such a sum, so it is read as this span again.
-/

namespace Latchkey.Span

namespace TimeUnit

variable {unit : TimeUnit} {name : String}

/-- The nanoseconds in a unit. -/
def worth (unit : TimeUnit) : Nat := unit.fine?.getD (unit.coarse * Span.second)

private theorem worth_of_fine? {nanos : Nat} (h : unit.fine? = some nanos) : unit.worth = nanos := by
  rw [worth, h, Option.getD_some]

private theorem worth_of_coarse (h : unit.fine? = none) : unit.worth = unit.coarse * Span.second := by
  rw [worth, h, Option.getD_none]

private theorem worth_pos (unit : TimeUnit) : 0 < unit.worth := by cases unit <;> decide

/-- The name is some letters and nothing else. -/
def Lettered (name : String) : Prop := name.toList ≠ [] ∧ name.toList.all isUnitLetter

instance (name : String) : Decidable (Lettered name) := inferInstanceAs (Decidable (_ ∧ _))

private theorem lettered_of_ite {names : List String} {found : TimeUnit} {other : Option TimeUnit}
    (hnames : ∀ name ∈ names, Lettered name) (hother : other = some unit → Lettered name)
    (h : (if name ∈ names then some found else other) = some unit) : Lettered name := by
  by_cases hname : name ∈ names
  · exact hnames name hname
  · exact hother (by rwa [if_neg hname] at h)

private theorem lettered_of_ofName? (h : ofName? name = some unit) : Lettered name := by
  rw [ofName?] at h
  revert h
  iterate 10 refine lettered_of_ite (by decide) ?_
  exact nofun

end TimeUnit

variable {s : Span} {count : Nat} {unit : TimeUnit} {name : String} {letters rest : List Char}

private theorem fits_iff : s.Fits ↔ s.nanoseconds < UInt64.size * second := Nat.div_lt_iff_lt_mul (by decide)

private theorem fits_of_le {t : Span} (h : t.Fits) (hle : s.nanoseconds ≤ t.nanoseconds) : s.Fits :=
  fits_iff.mpr (Nat.lt_of_le_of_lt hle (fits_iff.mp h))

private theorem add?_eq {secs nanos : Nat} (hnanos : nanos < second)
    (hfits : (⟨s.nanoseconds + secs * second + nanos⟩ : Span).Fits) :
    s.add? secs nanos = some ⟨s.nanoseconds + secs * second + nanos⟩ := by
  have hsub : s.subsecond < second := Nat.mod_lt _ (by decide)
  have hsize : second + second < UInt64.size := by decide
  have hword : s.subsecond + nanos < UInt64.size := Nat.lt_trans (Nat.add_lt_add hsub hnanos) hsize
  simp only [add?, word64?, if_pos hword, if_pos hfits]
  rfl

private theorem add?_seconds {secs : Nat} (hfits : (⟨s.nanoseconds + secs * second⟩ : Span).Fits) :
    s.add? secs 0 = some ⟨s.nanoseconds + secs * second⟩ := by
  have hadd : s.add? secs 0 = some ⟨s.nanoseconds + secs * second + 0⟩ :=
    add?_eq (by decide) (by rw [Nat.add_zero]; exact hfits)
  rwa [Nat.add_zero] at hadd

private theorem add?_nanoseconds {nanos : Nat} (hnanos : nanos < second)
    (hfits : (⟨s.nanoseconds + nanos⟩ : Span).Fits) : s.add? 0 nanos = some ⟨s.nanoseconds + nanos⟩ := by
  have hnone : s.nanoseconds + 0 * second = s.nanoseconds := by rw [Nat.zero_mul, Nat.add_zero]
  have hadd : s.add? 0 nanos = some ⟨s.nanoseconds + 0 * second + nanos⟩ :=
    add?_eq hnanos (by rw [hnone]; exact hfits)
  rwa [hnone] at hadd

private theorem addUnits?_of_fine? {nanos : Nat} (h : unit.fine? = some nanos) :
    s.addUnits? count unit = (word64? (count * nanos)).bind (s.add? 0 ·) := by
  rw [addUnits?, h]
  rfl

private theorem addUnits?_of_coarse (h : unit.fine? = none) :
    s.addUnits? count unit = (word64? (count * unit.coarse)).bind (s.add? · 0) := by
  rw [addUnits?, h]
  rfl

/-- Units shorter than a second are few enough to make less than one. -/
def Few (count : Nat) (unit : TimeUnit) : Prop := unit.fine?.isSome → count * unit.worth < second

variable (hfew : Few count unit) (hfits : (⟨s.nanoseconds + count * unit.worth⟩ : Span).Fits)
include hfew hfits

private theorem addUnits?_eq : s.addUnits? count unit = some ⟨s.nanoseconds + count * unit.worth⟩ := by
  cases hunit : unit.fine? with
  | some nanos =>
    have hnanos := hfew (by rw [hunit, Option.isSome_some])
    rw [TimeUnit.worth_of_fine? hunit] at hnanos hfits ⊢
    have hword : count * nanos < UInt64.size := Nat.lt_trans hnanos (by decide)
    rw [addUnits?_of_fine? hunit, word64?, if_pos hword, Option.bind_some]
    exact add?_nanoseconds hnanos hfits
  | none =>
    rw [TimeUnit.worth_of_coarse hunit, ← Nat.mul_assoc] at hfits ⊢
    have hword : count * unit.coarse < UInt64.size :=
      Nat.lt_of_mul_lt_mul_right (Nat.lt_of_le_of_lt (Nat.le_add_left ..) (fits_iff.mp hfits))
    rw [addUnits?_of_coarse hunit, word64?, if_pos hword, Option.bind_some]
    exact add?_seconds hfits

private theorem count_lt : count < UInt64.size := by
  have hworth := unit.worth_pos
  -- The sum bounds a count of seconds or more; shorter units are bounded by being few.
  cases hunit : unit.fine? with
  | some nanos =>
    calc count ≤ count * unit.worth := Nat.le_mul_of_pos_right _ hworth
      _ < second := hfew (by rw [hunit, Option.isSome_some])
      _ < UInt64.size := by decide
  | none =>
    have hcoarse : second ≤ unit.worth := by
      rw [TimeUnit.worth_of_coarse hunit] at hworth ⊢
      exact Nat.le_mul_of_pos_left _ (Nat.pos_of_mul_pos_right hworth)
    have hseconds : count * second < UInt64.size * second :=
      calc count * second ≤ count * unit.worth := Nat.mul_le_mul_left _ hcoarse
        _ ≤ s.nanoseconds + count * unit.worth := Nat.le_add_left ..
        _ < UInt64.size * second := fits_iff.mp hfits
    exact Nat.lt_of_mul_lt_mul_right hseconds

omit hfew hfits

private theorem le_ofDigitChars (digits : List Char) (count : Nat) : count ≤ Nat.ofDigitChars 10 digits count := by
  induction digits generalizing count with
  | nil => exact Nat.le_refl count
  | cons d digits ih =>
    rw [Nat.ofDigitChars_cons]
    exact Nat.le_trans (by omega) (ih _)

private theorem scan_digits {digits : List Char} (hdigits : ∀ d ∈ digits, d.isDigit)
    (h : Nat.ofDigitChars 10 digits count < UInt64.size) :
    scan s (.whole count) (digits ++ rest) = scan s (.whole (Nat.ofDigitChars 10 digits count)) rest := by
  induction digits generalizing count with
  | nil => rfl
  | cons d digits ih =>
    obtain ⟨hd, hdigits⟩ := List.forall_mem_cons.mp hdigits
    have hnext : 10 * count + (d.toNat - '0'.toNat) = count * 10 + digitValue d := by
      rw [Nat.mul_comm]
      rfl
    rw [Nat.ofDigitChars_cons, hnext] at h ⊢
    have hword : count * 10 + digitValue d < UInt64.size := Nat.lt_of_le_of_lt (le_ofDigitChars ..) h
    rw [List.cons_append, scan, if_pos hd, word64?, if_pos hword, ← ih hdigits h]
    rfl

private theorem scan_count (h : count < UInt64.size) :
    scan s .gap (Nat.toDigits 10 count ++ rest) = scan s (.whole count) rest := by
  have hdigits : ∀ d ∈ Nat.toDigits 10 count, d.isDigit :=
    fun d hd => Nat.isDigit_of_mem_toDigits (by decide) (by decide) hd
  have hvalue : Nat.ofDigitChars 10 (Nat.toDigits 10 count) 0 = count :=
    Nat.ofDigitChars_toDigits (by decide) (by decide)
  obtain ⟨d, digits, heq⟩ := List.exists_cons_of_ne_nil (Nat.toDigits_ne_nil (n := count) (b := 10))
  rw [heq] at hdigits hvalue ⊢
  obtain ⟨hd, hdigits⟩ := List.forall_mem_cons.mp hdigits
  have hfirst : Nat.ofDigitChars 10 digits (digitValue d) = count := by
    rw [Nat.ofDigitChars_cons, Nat.mul_zero, Nat.zero_add] at hvalue
    exact hvalue
  have hstart : scan s .gap (d :: digits ++ rest) = scan s (.whole (digitValue d)) (digits ++ rest) := by
    rw [List.cons_append, scan, if_pos hd]
  rw [hstart, scan_digits hdigits (hfirst.symm ▸ h), hfirst]

private theorem isDigit_iff {c : Char} : c.isDigit = true ↔ 48 ≤ c.toNat ∧ c.toNat ≤ 57 :=
  Bool.and_eq_true_iff.trans (and_congr decide_eq_true_iff decide_eq_true_iff)

private theorem isBlank_iff {c : Char} : isBlank c = true ↔
    9 ≤ c.toNat ∧ c.toNat ≤ 13 ∨ 0x2000 ≤ c.toNat ∧ c.toNat ≤ 0x200A ∨
      c.toNat ∈ [0x20, 0x85, 0xA0, 0x1680, 0x2028, 0x2029, 0x202F, 0x205F, 0x3000] := by
  simp only [isBlank, Bool.or_eq_true, Bool.and_eq_true, decide_eq_true_eq, List.contains_iff_mem, or_assoc]

private theorem isUnitLetter_iff {c : Char} : isUnitLetter c = true ↔
    65 ≤ c.toNat ∧ c.toNat ≤ 90 ∨ 97 ≤ c.toNat ∧ c.toNat ≤ 122 ∨ c.toNat = 181 := by
  have halpha : c.isAlpha = true ↔ c.isUpper = true ∨ c.isLower = true := Bool.or_eq_true_iff
  have hupper : c.isUpper = true ↔ 65 ≤ c.toNat ∧ c.toNat ≤ 90 := decide_eq_true_iff
  have hlower : c.isLower = true ↔ 97 ≤ c.toNat ∧ c.toNat ≤ 122 :=
    Bool.and_eq_true_iff.trans (and_congr decide_eq_true_iff decide_eq_true_iff)
  have hmicro : c = 'µ' ↔ c.toNat = 181 := by
    rw [← Char.toNat_inj]
    rfl
  rw [isUnitLetter, Bool.or_eq_true, decide_eq_true_eq, halpha, hupper, hlower, hmicro, or_assoc]

private theorem not_isDigit_of_isBlank {c : Char} (h : isBlank c) : ¬ c.isDigit := by
  rw [isBlank_iff] at h
  rw [isDigit_iff]
  simp only [List.mem_cons, List.not_mem_nil, or_false] at h
  omega

private theorem not_isDigit_of_isUnitLetter {c : Char} (h : isUnitLetter c) : ¬ c.isDigit := by
  rw [isUnitLetter_iff] at h
  rw [isDigit_iff]
  omega

private theorem not_isBlank_of_isUnitLetter {c : Char} (h : isUnitLetter c) : ¬ isBlank c := by
  rw [isUnitLetter_iff] at h
  rw [isBlank_iff]
  simp only [List.mem_cons, List.not_mem_nil, or_false]
  omega

private theorem scan_blanks {blanks : List Char} (h : ∀ c ∈ blanks, isBlank c) : scan s .gap blanks = some s := by
  induction blanks with
  | nil => rfl
  | cons c blanks ih =>
    obtain ⟨hc, hblanks⟩ := List.forall_mem_cons.mp h
    rw [scan, if_neg (not_isDigit_of_isBlank hc), if_pos hc, ih hblanks]

private theorem scan_letters {cs : List Char} (hcs : ∀ c ∈ cs, isUnitLetter c) :
    scan s (.unit count none letters) (cs ++ rest) = scan s (.unit count none (cs.reverse ++ letters)) rest := by
  induction cs generalizing letters with
  | nil => rfl
  | cons c cs ih =>
    obtain ⟨hc, hcs⟩ := List.forall_mem_cons.mp hcs
    rw [List.cons_append, scan, if_neg (not_isDigit_of_isUnitLetter hc), if_neg (not_isBlank_of_isUnitLetter hc),
      if_pos hc, ih hcs, List.reverse_cons, List.append_assoc, List.singleton_append]

private theorem scan_name (h : TimeUnit.ofName? name = some unit) :
    scan s (.whole count) (name.toList ++ rest) = scan s (.unit count none name.toList.reverse) rest := by
  obtain ⟨hsome, hletters⟩ := TimeUnit.lettered_of_ofName? h
  obtain ⟨c, cs, heq⟩ := List.exists_cons_of_ne_nil hsome
  rw [heq] at hletters ⊢
  obtain ⟨hc, hcs⟩ := List.forall_mem_cons.mp (List.all_eq_true.mp hletters)
  rw [List.cons_append, scan, if_neg (not_isDigit_of_isUnitLetter hc), if_neg (not_isBlank_of_isUnitLetter hc),
    if_pos hc, scan_letters hcs, List.reverse_cons]

private theorem close?_eq (h : TimeUnit.ofName? name = some unit) (hfew : Few count unit)
    (hfits : (⟨s.nanoseconds + count * unit.worth⟩ : Span).Fits) :
    s.close? count none name.toList.reverse = some ⟨s.nanoseconds + count * unit.worth⟩ := by
  rw [close?, List.reverse_reverse, String.ofList_toList, h, Option.bind_eq_bind, Option.bind_some,
    addUnits?_eq hfew hfits]
  rfl

/-- A number in front of the name of a unit, as it is written. -/
def written (part : Nat × String) : List Char := Nat.toDigits 10 part.1 ++ part.2.toList

/-- The nanoseconds of a part; none if there is no such unit. -/
def amount (part : Nat × String) : Nat := ((TimeUnit.ofName? part.2).map (part.1 * ·.worth)).getD 0

/-- The nanoseconds of parts together. -/
def total : List (Nat × String) → Nat
  | [] => 0
  | part :: parts => amount part + total parts

/-- A part is read if its unit exists and, for units shorter than a second, it makes less than one. -/
def Readable (part : Nat × String) : Prop := ∃ unit, TimeUnit.ofName? part.2 = some unit ∧ Few part.1 unit

private theorem amount_eq (h : TimeUnit.ofName? name = some unit) : amount (count, name) = count * unit.worth := by
  rw [amount, h]
  rfl

private theorem scan_part {part : Nat × String} (h : Readable part)
    (hfits : (⟨s.nanoseconds + amount part⟩ : Span).Fits) :
    scan s .gap (written part) = some ⟨s.nanoseconds + amount part⟩ ∧
      ∀ rest, scan s .gap (written part ++ ' ' :: rest) = scan ⟨s.nanoseconds + amount part⟩ .gap rest := by
  obtain ⟨count, name⟩ := part
  obtain ⟨unit, hname, hfew⟩ := h
  rw [amount_eq hname] at hfits ⊢
  have hscan (rest : List Char) : scan s .gap (written (count, name) ++ rest) =
      scan s (.unit count none name.toList.reverse) rest := by
    rw [written, List.append_assoc, scan_count (count_lt hfew hfits), scan_name hname]
  have hclose := close?_eq hname hfew hfits
  refine ⟨?_, fun rest => ?_⟩
  · rw [← List.append_nil (written _), hscan, scan, hclose]
  · have hdigit : ¬ (' ').isDigit := by decide
    have hblank : isBlank ' ' := by decide
    rw [hscan, scan, if_neg hdigit, if_pos hblank, hclose]
    rfl

/-- Parts with blanks between them are read as what they come to together. -/
theorem scan_parts : (parts : List (Nat × String)) → parts ≠ [] → (∀ part ∈ parts, Readable part) → (s : Span) →
    (⟨s.nanoseconds + total parts⟩ : Span).Fits →
    scan s .gap ([' '].intercalate (parts.map written)) = some ⟨s.nanoseconds + total parts⟩
  | [], h, _, _, _ => absurd rfl h
  | [part], _, hreadable, s, hfits => by
    rw [total, total, Nat.add_zero] at hfits ⊢
    rw [List.map_singleton, List.intercalate_singleton]
    exact (scan_part (hreadable part List.mem_cons_self) hfits).1
  | part :: next :: parts, _, hreadable, s, hfits => by
    obtain ⟨hpart, hparts⟩ := List.forall_mem_cons.mp hreadable
    rw [total, ← Nat.add_assoc] at hfits ⊢
    have hfirst : (⟨s.nanoseconds + amount part⟩ : Span).Fits := fits_of_le hfits (Nat.le_add_right ..)
    rw [List.map_cons, List.map_cons, List.intercalate_cons_cons, List.append_assoc, List.singleton_append,
      (scan_part hpart hfirst).2]
    exact scan_parts (next :: parts) nofun hparts _ hfits

private theorem total_filter (parts : List (Nat × String)) : total (parts.filter (·.1 ≠ 0)) = total parts := by
  induction parts with
  | nil => rfl
  | cons part parts ih =>
    obtain ⟨count, name⟩ := part
    cases count with
    | zero =>
      have hnothing : amount (0, name) = 0 := by
        rw [amount]
        cases TimeUnit.ofName? name with
        | none => rfl
        | some unit => exact Nat.zero_mul _
      rw [total, hnothing, Nat.zero_add, ← ih]
      rfl
    | succ count =>
      rw [total, ← ih]
      rfl

private theorem ofName?_plural (count : Nat) :
    TimeUnit.ofName? (if count = 1 then "year" else "year" ++ "s") = some .year ∧
      TimeUnit.ofName? (if count = 1 then "month" else "month" ++ "s") = some .month ∧
      TimeUnit.ofName? (if count = 1 then "day" else "day" ++ "s") = some .day := by
  split_ifs <;> decide

private theorem ofName?_short :
    TimeUnit.ofName? "h" = some .hour ∧ TimeUnit.ofName? "m" = some .minute ∧
      TimeUnit.ofName? "s" = some .second ∧ TimeUnit.ofName? "ms" = some .millisecond ∧
      TimeUnit.ofName? "us" = some .microsecond ∧ TimeUnit.ofName? "ns" = some .nanosecond := by
  decide

theorem total_parts (s : Span) : total s.parts = s.nanoseconds := by
  obtain ⟨hhour, hminute, hsecond, hmilli, hmicro, hnano⟩ := ofName?_short
  have hyear (count : Nat) : amount (count, _) = _ := amount_eq (ofName?_plural count).1
  have hmonth (count : Nat) : amount (count, _) = _ := amount_eq (ofName?_plural count).2.1
  have hday (count : Nat) : amount (count, _) = _ := amount_eq (ofName?_plural count).2.2
  simp only [parts, total]
  rw [hyear, hmonth, hday, amount_eq hhour, amount_eq hminute, amount_eq hsecond, amount_eq hmilli,
    amount_eq hmicro, amount_eq hnano]
  simp only [TimeUnit.worth, TimeUnit.fine?, TimeUnit.coarse, Option.getD, seconds, subsecond, second]
  omega

private theorem readable_parts (s : Span) : ∀ part ∈ s.parts, Readable part := by
  obtain ⟨hhour, hminute, hsecond, hmilli, hmicro, hnano⟩ := ofName?_short
  have hsub : s.subsecond < second := Nat.mod_lt _ (by decide)
  simp only [parts, List.forall_mem_cons]
  refine ⟨⟨.year, (ofName?_plural _).1, nofun⟩, ⟨.month, (ofName?_plural _).2.1, nofun⟩,
    ⟨.day, (ofName?_plural _).2.2, nofun⟩, ⟨.hour, hhour, nofun⟩, ⟨.minute, hminute, nofun⟩,
    ⟨.second, hsecond, nofun⟩, ⟨.millisecond, hmilli, fun _ => ?_⟩, ⟨.microsecond, hmicro, fun _ => ?_⟩,
    ⟨.nanosecond, hnano, fun _ => ?_⟩, nofun⟩
  all_goals
    simp only [TimeUnit.worth, TimeUnit.fine?, Option.getD, second] at hsub ⊢
    omega

private theorem ofText?_of_scan {text : String} (h : scan ⟨0⟩ .gap text.toList = some s) (hs : s.nanoseconds ≠ 0) :
    ofText? text = some s := by
  have hzero : text ≠ "0" := by
    rintro rfl
    cases h
  have hblank : ¬ text.toList.all isBlank := by
    intro hblank
    rw [scan_blanks (List.all_eq_true.mp hblank)] at h
    cases h
    exact hs rfl
  rw [ofText?, if_neg hzero, if_neg hblank, h]

/-- The text of a span is read as this span. -/
theorem ofText?_text (h : s.Fits) : ofText? s.text = some s := by
  rw [text]
  split_ifs with hzero
  · rw [show s = ⟨0⟩ from Span.ext hzero]
    rfl
  -- Leaving out what counts nothing changes neither the total nor whether a part is read.
  · let shown := s.parts.filter (·.1 ≠ 0)
    have htotal : total shown = s.nanoseconds := (total_filter s.parts).trans s.total_parts
    have hshown : shown ≠ [] := by
      intro hnone
      rw [hnone] at htotal
      exact hzero htotal.symm
    have hreadable : ∀ part ∈ shown, Readable part :=
      fun part hpart => s.readable_parts part (List.mem_filter.mp hpart).1
    have hsum : (⟨(⟨0⟩ : Span).nanoseconds + total shown⟩ : Span) = s := by
      rw [htotal]
      exact Span.ext (Nat.zero_add _)
    have hscan := scan_parts shown hshown hreadable ⟨0⟩ (hsum.symm ▸ h)
    rw [hsum] at hscan
    refine ofText?_of_scan ?_ hzero
    have hwritten (part : Nat × String) : (s!"{part.1}{part.2}").toList = written part := by
      show (toString part.1 ++ part.2).toList = written part
      rw [String.toList_append, Nat.toString_eq_ofList_toDigits, String.toList_ofList, written]
    rw [String.toList_intercalate, List.map_map, ← hscan]
    exact congrArg (fun texts => scan ⟨0⟩ .gap ([' '].intercalate texts))
      (List.map_congr_left fun part _ => hwritten part)

end Latchkey.Span
