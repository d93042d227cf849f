import Mathlib.Data.List.TakeWhile
import Latchkey.Json.Token
import Latchkey.Proofs.Hexadecimal

/-!
# Tokens of a stored document

What a token is stored as is read as this token again, wherever it stands. A number is the only token that has
to be set apart from what follows it.
-/

namespace Latchkey.Json.Token

variable {literal rest : List Char}

private theorem scanText_letter {c letter : Char} (hletter : escaped? letter = some c) (hother : letter ≠ 'u')
    (rest : List Char) :
    scanText ('\\' :: letter :: rest) =
      (scanText rest).map fun (content, rest) => (c.toNat :: content, rest) := by
  rw [scanText, hletter]
  · cases scanText rest <;> rfl
  · intros
    simp_all

private theorem scanText_escape (c : Char) (rest : List Char) :
    scanText (escape c ++ rest) = (scanText rest).map fun (content, rest) => (c.toNat :: content, rest) := by
  rw [escape]
  split_ifs with hquote hslash hback hfeed hline hreturn htab hcontrol
  · subst hquote
    exact scanText_letter rfl (by decide) rest
  · subst hslash
    exact scanText_letter rfl (by decide) rest
  · subst hback
    exact scanText_letter rfl (by decide) rest
  · subst hfeed
    exact scanText_letter rfl (by decide) rest
  · subst hline
    exact scanText_letter rfl (by decide) rest
  · subst hreturn
    exact scanText_letter rfl (by decide) rest
  · subst htab
    exact scanText_letter rfl (by decide) rest
  · have hzero : Bytes.hexValue? '0' = some 0 := rfl
    have hsum : c.toNat / 16 * 16 + c.toNat % 16 = c.toNat := Nat.div_add_mod' ..
    have hunit : unit? '0' '0' (Bytes.hexDigit (c.toNat / 16)) (Bytes.hexDigit (c.toNat % 16)) =
        some c.toNat := by
      rw [unit?, hzero, Bytes.hexValue?_hexDigit (by omega), Bytes.hexValue?_hexDigit (by omega)]
      simp [hsum]
    simp only [List.cons_append, List.nil_append, scanText, hunit]
    cases scanText rest <;> rfl
  · rw [List.singleton_append, scanText]
    · rw [if_neg (not_or.mpr ⟨hslash, hcontrol⟩)]
      cases scanText rest <;> rfl
    · exact hquote
    · intros
      simp_all
    · intros
      simp_all

private theorem scanText_escaped (text rest : List Char) :
    scanText (text.flatMap escape ++ '"' :: rest) = some (text.map Char.toNat, rest) := by
  induction text with
  | nil => rfl
  | cons c text ih => rw [List.flatMap_cons, List.append_assoc, scanText_escape, ih, Option.map_some, List.map_cons]

/-- The code points that are read from a text, or half of a surrogate pair where it had one. -/
def units : Option String → List Nat
  | some s => s.toList.map Char.toNat
  | none => [0xD800]

private theorem scan1_quote (content : Option String) (rest : List Char) :
    scan1 (quote content ++ rest) = some (.text (units content), rest) := by
  cases content with
  | none => simp [quote, scan1, scanText, units, show unit? 'd' '8' '0' '0' = some 0xD800 by decide]
  | some s =>
    rw [quote, List.append_assoc, List.cons_append, List.singleton_append, scan1, scanText_escaped]
    rfl

/-- What follows does not go on with a number. -/
def Apart (rest : List Char) : Prop := ∀ c ∈ rest.head?, isNumeric c = false

theorem apart_nil : Apart [] := nofun

theorem apart_cons {c : Char} (h : isNumeric c = false) (rest : List Char) : Apart (c :: rest) := by
  rintro _ ⟨⟩
  exact h

private theorem numeric_of_digit {c : Char} (h : c.isDigit) : isNumeric c := by simp [isNumeric, h]

/-- The reader of a part of a number passes over nothing that does not belong into numbers. -/
private def PassesNumeric (drop? : List Char → Option (List Char)) : Prop :=
  ∀ cs rest, drop? cs = some rest → (∀ c ∈ rest, isNumeric c) → ∀ c ∈ cs, isNumeric c

private theorem passes_digits : PassesNumeric dropDigits? := by
  intro cs rest h hrest
  cases cs with
  | nil => cases h
  | cons d cs =>
    rw [dropDigits?] at h
    split_ifs at h with hdigit
    cases h
    rw [← List.takeWhile_append_dropWhile (p := Char.isDigit) (l := cs), List.forall_mem_cons,
      List.forall_mem_append]
    exact ⟨numeric_of_digit hdigit, fun c hc => numeric_of_digit (List.mem_takeWhile_imp hc), hrest⟩

private theorem passes_integral : PassesNumeric dropIntegral? := by
  intro cs rest h hrest
  rw [dropIntegral?.eq_def] at h
  split at h
  · cases h
    exact List.forall_mem_cons.mpr ⟨by decide, hrest⟩
  · exact passes_digits _ _ h hrest

private theorem passes_fraction : PassesNumeric dropFraction? := by
  intro cs rest h hrest
  rw [dropFraction?.eq_def] at h
  split at h
  · exact List.forall_mem_cons.mpr ⟨by decide, passes_digits _ _ h hrest⟩
  · cases h
    exact hrest

private theorem passes_exponent : PassesNumeric dropExponent? := by
  intro cs rest h hrest
  rw [dropExponent?.eq_def] at h
  split at h
  · rename_i c cs
    split_ifs at h with hmark
    · have hc : isNumeric c := by rcases hmark with rfl | rfl <;> rfl
      refine List.forall_mem_cons.mpr ⟨hc, ?_⟩
      split at h
      · exact List.forall_mem_cons.mpr ⟨by decide, passes_digits _ _ h hrest⟩
      · exact List.forall_mem_cons.mpr ⟨by decide, passes_digits _ _ h hrest⟩
      · exact passes_digits _ _ h hrest
    · cases h
      exact hrest
  · exact nofun

private theorem IsNumber.numeric (h : IsNumber literal) : ∀ c ∈ literal, isNumeric c := by
  have hpasses {cs : List Char} (hread : (dropIntegral? cs >>= dropFraction? >>= dropExponent?) = some []) :
      ∀ c ∈ cs, isNumeric c := by
    obtain ⟨behind, hfront, hexponent⟩ := Option.bind_eq_some_iff.mp hread
    obtain ⟨fraction, hintegral, hfraction⟩ := Option.bind_eq_some_iff.mp hfront
    exact passes_integral _ _ hintegral
      (passes_fraction _ _ hfraction (passes_exponent _ _ hexponent nofun))
  by_cases hsign : ∃ cs, literal = '-' :: cs
  · obtain ⟨cs, rfl⟩ := hsign
    exact List.forall_mem_cons.mpr ⟨by decide, hpasses h⟩
  · apply hpasses
    rw [IsNumber.eq_def] at h
    split at h
    · exact absurd ⟨_, rfl⟩ hsign
    · exact h

private theorem isNumber_of_digits {c : Char} {cs : List Char} (h : ∀ d ∈ c :: cs, d.isDigit) (hfront : c ≠ '0') :
    IsNumber (c :: cs) := by
  obtain ⟨hc, hcs⟩ := List.forall_mem_cons.mp h
  have hintegral : dropIntegral? (c :: cs) = some [] := by
    rw [dropIntegral?, dropDigits?, if_pos hc, List.dropWhile_eq_nil_iff.mpr hcs]
    simpa using hfront
  rw [IsNumber.eq_def]
  split
  · rename_i heq
    cases heq
    cases hc
  · show (dropIntegral? (c :: cs) >>= dropFraction? >>= dropExponent?) = some []
    rw [hintegral]
    rfl

private theorem head?_toDigits {n : Nat} (h : 0 < n) : ∃ c cs, Nat.toDigits 10 n = c :: cs ∧ c ≠ '0' := by
  induction n using Nat.strongRecOn with
  | ind n ih =>
    by_cases hsmall : n < 10
    · rw [Nat.toDigits_of_lt_base hsmall]
      refine ⟨n.digitChar, [], rfl, ?_⟩
      have hdigits : ∀ d < 10, 0 < d → d.digitChar ≠ '0' := by decide
      exact hdigits n hsmall h
    · obtain ⟨c, cs, hfront, hc⟩ := ih (n / 10) (by omega) (by omega)
      rw [Nat.toDigits_of_base_le (by decide) (Nat.not_lt.mp hsmall), hfront]
      exact ⟨c, cs ++ [(n % 10).digitChar], rfl, hc⟩

theorem isNumber_toDigits (n : Nat) : IsNumber (Nat.toDigits 10 n) := by
  rcases Nat.eq_zero_or_pos n with rfl | hpos
  · decide
  · obtain ⟨c, cs, hdigits, hfront⟩ := head?_toDigits hpos
    rw [hdigits]
    refine isNumber_of_digits ?_ hfront
    rw [← hdigits]
    exact fun d hd => Nat.isDigit_of_mem_toDigits (by decide) (by decide) hd

private theorem scanWord_number {c : Char} {cs : List Char} (hc : isNumeric c) :
    scanWord (c :: cs) =
      if IsNumber ((c :: cs).takeWhile isNumeric) then
        some (.number ((c :: cs).takeWhile isNumeric), (c :: cs).dropWhile isNumeric)
      else none := by
  rw [scanWord.eq_def]
  split
  · rename_i heq
    cases heq
    cases hc
  · rename_i heq
    cases heq
    cases hc
  · rename_i heq
    cases heq
    cases hc
  · rfl

private theorem punctuation?_numeric {c : Char} (hc : isNumeric c) : punctuation? c = none := by
  rw [punctuation?.eq_def]
  split
  case h_7 => rfl
  all_goals cases hc

private theorem scan1_number (h : IsNumber literal) (hrest : Apart rest) :
    scan1 (literal ++ rest) = some (.number literal, rest) := by
  have hnone : rest.takeWhile isNumeric = [] ∧ rest.dropWhile isNumeric = rest := by
    cases rest with
    | nil => exact ⟨rfl, rfl⟩
    | cons c cs =>
      have hc := hrest c rfl
      exact ⟨List.takeWhile_cons_of_neg (by simp [hc]), List.dropWhile_cons_of_neg (by simp [hc])⟩
  have htake : (literal ++ rest).takeWhile isNumeric = literal := by
    rw [List.takeWhile_append_of_pos h.numeric, hnone.1, List.append_nil]
  have hdrop : (literal ++ rest).dropWhile isNumeric = rest := by
    rw [List.dropWhile_append_of_pos h.numeric, hnone.2]
  cases literal with
  | nil => exact absurd h (by decide)
  | cons c cs =>
    have hc : isNumeric c := h.numeric c List.mem_cons_self
    rw [List.cons_append] at htake hdrop ⊢
    rw [scan1, punctuation?_numeric hc, scanWord_number hc, htake, hdrop, if_pos h]
    rintro rfl
    cases hc

theorem scan_cons {c : Char} {cs : List Char} {token : Token} (hc : isBlank c = false)
    (h : scan1 (c :: cs) = some (token, rest)) : scan (c :: cs) = (scan rest).map (token :: ·) := by
  rw [scan, if_neg (by simp [hc])]
  split
  · rename_i heq
    rw [h] at heq
    cases heq
    rfl
  · rename_i heq
    rw [h] at heq
    cases heq

theorem scan_quote (content : Option String) (rest : List Char) :
    scan (quote content ++ rest) = (scan rest).map (.text (units content) :: ·) := by
  have hscan := scan1_quote content rest
  cases content with
  | none => exact scan_cons rfl hscan
  | some s => exact scan_cons rfl hscan

theorem scan_number (h : IsNumber literal) (hrest : Apart rest) :
    scan (literal ++ rest) = (scan rest).map (.number literal :: ·) := by
  have hscan := scan1_number h hrest
  cases literal with
  | nil => exact absurd h (by decide)
  | cons c cs =>
    have hblank : isBlank c = false := by
      have hc := h.numeric c List.mem_cons_self
      by_contra hblank
      simp only [isBlank, Bool.not_eq_false, Bool.or_eq_true, decide_eq_true_eq] at hblank
      rcases hblank with ((rfl | rfl) | rfl) | rfl <;> cases hc
    exact scan_cons hblank hscan

end Latchkey.Json.Token
