import Latchkey.Json.Token

/-!
# Documents from tokens

Builds the value of a document from its tokens. The arrays and objects that are still open wait on a
stack, so the tokens are read once and in order.
-/

namespace Latchkey.Json

def isHighHalf (unit : Nat) : Bool := 0xD800 ≤ unit && unit < 0xDC00

def isLowHalf (unit : Nat) : Bool := 0xDC00 ≤ unit && unit < 0xE000

/-- Joins the halves of surrogate pairs. A half that stands alone spoils the text. -/
def joinHalves : List Nat → Option (List Char)
  | [] => some []
  | high :: low :: units =>
    if isHighHalf high then
      if isLowHalf low then
        (joinHalves units).map
          (Char.ofNat (0x10000 + (high - 0xD800) * 0x400 + (low - 0xDC00)) :: ·)
      else none
    else if isLowHalf high then none
    else (joinHalves (low :: units)).map (Char.ofNat high :: ·)
  | [unit] => if isHighHalf unit || isLowHalf unit then none else some [Char.ofNat unit]

def textOf (content : List Nat) : Option String := (joinHalves content).map String.ofList

/-- An array or object of which some part has been read, latest part first. -/
inductive Open where
  | array (items : List Json)
  | object (members : List (Option String × Json)) (key : Option String)

inductive Awaiting where
  | value
  /-- A value or the end of an array that is still empty. -/
  | firstItem
  | key
  /-- A key or the end of an object that is still empty. -/
  | firstKey
  | colon
  /-- A comma or the end of what is open, or the end of the document. -/
  | next

/-- Where the reader stands: what is open, the value just completed, and what may come next. -/
structure Progress where
  opened : List Open
  done : Json
  awaiting : Awaiting

namespace Progress

def start : Progress := ⟨[], .null, .value⟩

def complete (opened : List Open) (value : Json) : Progress := ⟨opened, value, .next⟩

def beginValue (opened : List Open) : Token → Option Progress
  | .null => some (complete opened .null)
  | .bool value => some (complete opened (.bool value))
  | .number literal => some (complete opened (.number literal))
  | .text content => some (complete opened (.string (textOf content)))
  | .openBracket => some ⟨.array [] :: opened, .null, .firstItem⟩
  | .openBrace => some ⟨.object [] none :: opened, .null, .firstKey⟩
  | _ => none

def beginMember : List Open → Token → Option Progress
  | .object members _ :: opened, .text content =>
    some ⟨.object members (textOf content) :: opened, .null, .colon⟩
  | _, _ => none

def continueAfter (value : Json) : List Open → Token → Option Progress
  | .array items :: opened, .comma => some ⟨.array (value :: items) :: opened, .null, .value⟩
  | .array items :: opened, .closeBracket =>
    some (complete opened (.array (value :: items).reverse))
  | .object members key :: opened, .comma =>
    some ⟨.object ((key, value) :: members) none :: opened, .null, .key⟩
  | .object members key :: opened, .closeBrace =>
    some (complete opened (.object ((key, value) :: members).reverse))
  | _, _ => none

def step (p : Progress) (token : Token) : Option Progress :=
  match p.awaiting with
  | .value => beginValue p.opened token
  | .firstItem =>
    match token, p.opened with
    | .closeBracket, _ :: opened => some (complete opened (.array []))
    | token, opened => beginValue opened token
  | .firstKey =>
    match token, p.opened with
    | .closeBrace, _ :: opened => some (complete opened (.object []))
    | token, opened => beginMember opened token
  | .key => beginMember p.opened token
  | .colon => if token = .colon then some ⟨p.opened, .null, .value⟩ else none
  | .next => continueAfter p.done p.opened token

def finish : Progress → Option Json
  | ⟨[], value, .next⟩ => some value
  | _ => none

end Progress

def ofTokens (tokens : List Token) : Option Json :=
  (tokens.foldlM Progress.step Progress.start).bind Progress.finish

def parse (text : String) : Option Json := (Token.scan text.toList).bind ofTokens

/-- The values of the named fields of a record. A record is an object, in which no field may occur twice
and other members do not matter, or an array of its fields in order; missing fields are left out. -/
def fields? (names : List String) : Json → Option (List (Option Json))
  | .array items =>
    if items.length ≤ names.length then
      some (items.map some ++ List.replicate (names.length - items.length) none)
    else none
  | .object members => do
    let named ← members.mapM fun (key, value) => key.map (·, value)
    names.mapM fun name =>
      match named.filter (·.1 = name) with
      | [] => some none
      | [(_, value)] => some (some value)
      | _ => none
  | _ => none

/-- The keyword of a choice: its text, or an object that has it as the only key and null as value. -/
def keyword? : Json → Option String
  | .string text => text
  | .object [(key, .null)] => key
  | _ => none

end Latchkey.Json
