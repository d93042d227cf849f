import Latchkey.Bytes

/-!
# Stored documents

Credentials and settings are kept as JSON documents. A `Json` value keeps numbers as they are spelled and
members in their order, repeated keys included; what a record makes of them is decided where it is read.
-/

namespace Latchkey

/-- A document. A text is missing where it was spelled with half of a surrogate pair. -/
inductive Json where
  | null
  | bool (value : Bool)
  | number (literal : List Char)
  | string (text : Option String)
  | array (items : List Json)
  | object (members : List (Option String × Json))

namespace Json

def text (s : String) : Json := .string (some s)

def nat (n : Nat) : Json := .number (Nat.toDigits 10 n)

def record (members : List (String × Json)) : Json :=
  .object (members.map fun (key, value) => (some key, value))

def escape (c : Char) : List Char :=
  if c = '"' then ['\\', '"']
  else if c = '\\' then ['\\', '\\']
  else if c = '\x08' then ['\\', 'b']
  else if c = '\x0c' then ['\\', 'f']
  else if c = '\n' then ['\\', 'n']
  else if c = '\r' then ['\\', 'r']
  else if c = '\t' then ['\\', 't']
  else if c.toNat < 32 then
    ['\\', 'u', '0', '0', Bytes.hexDigit (c.toNat / 16), Bytes.hexDigit (c.toNat % 16)]
  else [c]

def quote : Option String → List Char
  | some s => '"' :: s.toList.flatMap escape ++ ['"']
  | none => ['"', '\\', 'u', 'd', '8', '0', '0', '"']

mutual

/-- The document as it is stored, without blanks. -/
def spell : Json → List Char
  | .null => ['n', 'u', 'l', 'l']
  | .bool true => ['t', 'r', 'u', 'e']
  | .bool false => ['f', 'a', 'l', 's', 'e']
  | .number literal => literal
  | .string text => quote text
  | .array items => '[' :: spellItems items ++ [']']
  | .object members => '\x7b' :: spellMembers members ++ ['\x7d']

def spellItems : List Json → List Char
  | [] => []
  | [item] => spell item
  | item :: items => spell item ++ ',' :: spellItems items

def spellMembers : List (Option String × Json) → List Char
  | [] => []
  | [(key, value)] => quote key ++ ':' :: spell value
  | (key, value) :: members => quote key ++ ':' :: spell value ++ ',' :: spellMembers members

end

def render (document : Json) : String := String.ofList document.spell

def text? : Json → Option String
  | .string text => text
  | _ => none

def bool? : Json → Option Bool
  | .bool value => some value
  | _ => none

/-- The value of a number that is spelled with digits alone. -/
def nat? : Json → Option Nat
  | .number literal =>
    if literal.all Char.isDigit then some (literal.foldl (fun n c => 10 * n + (c.toNat - 48)) 0) else none
  | _ => none

/-- The value of a number below `2³²` that is spelled with digits alone. -/
def word32? (document : Json) : Option UInt32 := do
  let n ← document.nat?
  if n < UInt32.size then some (UInt32.ofNat n) else none

def optional? {α : Type} (read : Json → Option α) : Json → Option (Option α)
  | .null => some none
  | document => (read document).map some

end Json

end Latchkey
