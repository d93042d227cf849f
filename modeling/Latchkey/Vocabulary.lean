import Latchkey.Bytes

/-!
# Coded values

Many fields hold a code to which the protocol gives a name, and newer devices may send codes that have
none yet. A `Coded` field keeps both cases apart, and `Coded.code` loses nothing of what was received.
-/

namespace Latchkey

/-- Names for some of the codes of type `ω`. -/
class Vocabulary (ω : outParam Type) (α : Type) where
  words : List α
  code : α → ω
  label : α → String

/-- The meaning of a code: a named value, or the bare code where there is no name for it. -/
inductive Coded (ω α : Type) where
  | known (value : α)
  /-- A code without a name. -/
  | unknown (code : ω)
deriving DecidableEq, Repr

abbrev ByteCode (α : Type) := Coded UInt8 α

namespace Coded

variable {ω α : Type} [Vocabulary ω α]

def ofCode [DecidableEq ω] (code : ω) : Coded ω α :=
  match (Vocabulary.words : List α).find? (Vocabulary.code · = code) with
  | some value => .known value
  | none => .unknown code

def code : Coded ω α → ω
  | .known value => Vocabulary.code value
  | .unknown code => code

@[simp] theorem code_ofCode [DecidableEq ω] (c : ω) : (ofCode c : Coded ω α).code = c := by
  unfold ofCode
  split
  · rename_i value h
    have hcode := List.find?_some h
    exact of_decide_eq_true hcode
  · rfl

/-- The name of the value; a code without one is shown as a decimal number. -/
def text [ToString ω] : Coded ω α → String
  | .known value => Vocabulary.label value
  | .unknown code => s!"Unknown({code})"

end Coded

end Latchkey
