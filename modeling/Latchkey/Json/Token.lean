import Latchkey.Json.Basic

/-!
# Tokens of a document

Cuts the text of a document into punctuation, texts, numbers and words. Blanks are allowed between tokens;
inside texts every control character has to be escaped.
-/

namespace Latchkey.Json

/-- A piece of a document. The content of a text is still a list of code points in which halves of
surrogate pairs may occur. -/
inductive Token where
  | openBrace | closeBrace | openBracket | closeBracket | colon | comma | null
  | bool (value : Bool)
  | number (literal : List Char)
  | text (content : List Nat)
deriving DecidableEq, Repr

namespace Token

def escaped? : Char → Option Char
  | '"' => some '"'
  | '\\' => some '\\'
  | '/' => some '/'
  | 'b' => some '\x08'
  | 'f' => some '\x0c'
  | 'n' => some '\n'
  | 'r' => some '\r'
  | 't' => some '\t'
  | _ => none

def unit? (a b c d : Char) : Option Nat := do
  let a ← Bytes.hexValue? a
  let b ← Bytes.hexValue? b
  let c ← Bytes.hexValue? c
  let d ← Bytes.hexValue? d
  return ((a * 16 + b) * 16 + c) * 16 + d

/-- Reads a text up to the closing quotation mark and returns what follows it. -/
def scanText : List Char → Option (List Nat × List Char)
  | [] => none
  | '"' :: cs => some ([], cs)
  | '\\' :: 'u' :: a :: b :: c :: d :: cs => do
    let unit ← unit? a b c d
    let (content, rest) ← scanText cs
    return (unit :: content, rest)
  | '\\' :: letter :: cs => do
    let c ← escaped? letter
    let (content, rest) ← scanText cs
    return (c.toNat :: content, rest)
  | c :: cs => do
    if c = '\\' ∨ c.toNat < 32 then none
    else
      let (content, rest) ← scanText cs
      return (c.toNat :: content, rest)

def isNumeric (c : Char) : Bool := c.isDigit || c = '-' || c = '+' || c = '.' || c = 'e' || c = 'E'

/-- What follows the digits in front, if there are any. -/
def dropDigits? (cs : List Char) : Option (List Char) :=
  match cs with
  | c :: cs => if c.isDigit then some (cs.dropWhile Char.isDigit) else none
  | [] => none

/-- What follows the integral part of a number, which has no zero in front of another digit. -/
def dropIntegral? : List Char → Option (List Char)
  | '0' :: cs => some cs
  | cs => dropDigits? cs

def dropFraction? : List Char → Option (List Char)
  | '.' :: cs => dropDigits? cs
  | cs => some cs

def dropExponent? : List Char → Option (List Char)
  | c :: cs =>
    if c = 'e' ∨ c = 'E' then
      match cs with
      | '+' :: cs => dropDigits? cs
      | '-' :: cs => dropDigits? cs
      | cs => dropDigits? cs
    else some (c :: cs)
  | [] => some []

/-- The characters spell a number. -/
def IsNumber (literal : List Char) : Prop :=
  let unsigned := match literal with
    | '-' :: cs => cs
    | cs => cs
  (dropIntegral? unsigned >>= dropFraction? >>= dropExponent?) = some []

instance (literal : List Char) : Decidable (IsNumber literal) := by unfold IsNumber; infer_instance

def isBlank (c : Char) : Bool := c = ' ' || c = '\t' || c = '\n' || c = '\r'

def punctuation? : Char → Option Token
  | '\x7b' => some openBrace
  | '\x7d' => some closeBrace
  | '[' => some openBracket
  | ']' => some closeBracket
  | ':' => some colon
  | ',' => some comma
  | _ => none

def scanWord : List Char → Option (Token × List Char)
  | 'n' :: 'u' :: 'l' :: 'l' :: cs => some (null, cs)
  | 't' :: 'r' :: 'u' :: 'e' :: cs => some (bool true, cs)
  | 'f' :: 'a' :: 'l' :: 's' :: 'e' :: cs => some (bool false, cs)
  | cs =>
    let literal := cs.takeWhile isNumeric
    if IsNumber literal then some (number literal, cs.dropWhile isNumeric) else none

/-- Reads the token in front, which no blank precedes, and returns what follows it. -/
def scan1 : List Char → Option (Token × List Char)
  | [] => none
  | '"' :: cs => do
    let (content, rest) ← scanText cs
    return (text content, rest)
  | c :: cs =>
    match punctuation? c with
    | some token => some (token, cs)
    | none => scanWord (c :: cs)

private theorem scanText_length {cs rest : List Char} {content : List Nat}
    (h : scanText cs = some (content, rest)) : rest.length < cs.length := by
  fun_induction scanText cs generalizing content rest with
  | case1 => simp at h
  | case2 cs => simp_all
  | case3 a b c d cs ih =>
    simp only [bind, Option.bind_eq_some_iff, pure, Option.some.injEq, Prod.mk.injEq] at h
    obtain ⟨_, _, ⟨content', rest'⟩, hrest, _, rfl⟩ := h
    have := ih hrest
    simp only [List.length_cons]
    omega
  | case4 letter cs _ ih =>
    simp only [bind, Option.bind_eq_some_iff, pure, Option.some.injEq, Prod.mk.injEq] at h
    obtain ⟨_, _, ⟨content', rest'⟩, hrest, _, rfl⟩ := h
    have := ih hrest
    simp only [List.length_cons]
    omega
  | case5 => simp at h
  | case6 c cs _ _ _ _ ih =>
    simp only [bind, Option.bind_eq_some_iff, pure, Option.some.injEq, Prod.mk.injEq] at h
    obtain ⟨⟨content', rest'⟩, hrest, _, rfl⟩ := h
    have := ih hrest
    simp only [List.length_cons]
    omega

private theorem scanWord_length {cs rest : List Char} {token : Token}
    (h : scanWord cs = some (token, rest)) : rest.length < cs.length := by
  unfold scanWord at h
  split at h
  · simp only [Option.some.injEq, Prod.mk.injEq] at h
    simp only [← h.2, List.length_cons]
    omega
  · simp only [Option.some.injEq, Prod.mk.injEq] at h
    simp only [← h.2, List.length_cons]
    omega
  · simp only [Option.some.injEq, Prod.mk.injEq] at h
    simp only [← h.2, List.length_cons]
    omega
  · dsimp only at h
    split at h
    · rename_i hnumber
      simp only [Option.some.injEq, Prod.mk.injEq] at h
      rw [← h.2]
      match cs with
      | [] => exact absurd hnumber (by decide)
      | c :: cs =>
        by_cases hc : isNumeric c
        · rw [List.dropWhile_cons_of_pos hc]
          have := (List.dropWhile_suffix isNumeric (l := cs)).length_le
          simp only [List.length_cons]
          omega
        · rw [List.takeWhile_cons_of_neg hc] at hnumber
          exact absurd hnumber (by decide)
    · simp at h

private theorem scan1_length {cs rest : List Char} {token : Token}
    (h : scan1 cs = some (token, rest)) : rest.length < cs.length := by
  unfold scan1 at h
  split at h
  · simp at h
  · simp only [bind, Option.bind_eq_some_iff, pure, Option.some.injEq, Prod.mk.injEq] at h
    obtain ⟨⟨content, rest'⟩, hrest, _, rfl⟩ := h
    have := scanText_length hrest
    simp only [List.length_cons]
    omega
  · split at h
    · simp_all
    · exact scanWord_length h

/-- The tokens of a text, or nothing where something else than tokens and blanks occurs. -/
def scan : List Char → Option (List Token)
  | [] => some []
  | c :: cs =>
    if isBlank c then scan cs
    else
      match _h : scan1 (c :: cs) with
      | some (token, rest) => (scan rest).map (token :: ·)
      | none => none
termination_by cs => cs.length
decreasing_by
  · exact Nat.lt_succ_self cs.length
  · exact scan1_length _h

end Token

end Latchkey.Json
