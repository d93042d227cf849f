import Latchkey.Json.Document
import Latchkey.Proofs.Tokens

/-!
# Stored documents are read back

A document whose numbers are spelled as numbers is read from the text it is stored as, whatever its texts
contain and however deep it is nested.
-/

namespace Latchkey.Json

open Token (units)

private theorem not_half (c : Char) : isHighHalf c.toNat = false ∧ isLowHalf c.toNat = false := by
  have hvalid : c.toNat < 0xD800 ∨ 0xDFFF < c.toNat ∧ c.toNat < 0x110000 := c.valid
  constructor
  · rw [isHighHalf, Bool.and_eq_false_iff, decide_eq_false_iff_not, decide_eq_false_iff_not]
    omega
  · rw [isLowHalf, Bool.and_eq_false_iff, decide_eq_false_iff_not, decide_eq_false_iff_not]
    omega

private theorem joinHalves_toNat (text : List Char) : joinHalves (text.map Char.toNat) = some text := by
  induction text with
  | nil => rfl
  | cons c text ih =>
    obtain ⟨hhigh, hlow⟩ := not_half c
    cases text with
    | nil => simp [joinHalves, hhigh, hlow]
    | cons d text =>
      rw [List.map_cons] at ih
      rw [List.map_cons, List.map_cons, joinHalves, hhigh, hlow, ih]
      simp

private theorem textOf_units (content : Option String) : textOf (units content) = content := by
  cases content with
  | none => rfl
  | some s => rw [textOf, units, joinHalves_toNat, Option.map_some, String.ofList_toList]

mutual

/-- What a document is stored as, token by token. -/
def tokens : Json → List Token
  | .null => [.null]
  | .bool value => [.bool value]
  | .number literal => [.number literal]
  | .string text => [.text (units text)]
  | .array items => .openBracket :: itemTokens items ++ [.closeBracket]
  | .object members => .openBrace :: memberTokens members ++ [.closeBrace]

def itemTokens : List Json → List Token
  | [] => []
  | [item] => tokens item
  | item :: items => tokens item ++ .comma :: itemTokens items

def memberTokens : List (Option String × Json) → List Token
  | [] => []
  | [(key, value)] => .text (units key) :: .colon :: tokens value
  | (key, value) :: members => .text (units key) :: .colon :: tokens value ++ .comma :: memberTokens members

end

mutual

/-- Every number is spelled as one. -/
def Numbered : Json → Prop
  | .number literal => Token.IsNumber literal
  | .array items => NumberedItems items
  | .object members => NumberedMembers members
  | _ => True

def NumberedItems : List Json → Prop
  | [] => True
  | item :: items => Numbered item ∧ NumberedItems items

def NumberedMembers : List (Option String × Json) → Prop
  | [] => True
  | (_, value) :: members => Numbered value ∧ NumberedMembers members

end

open Token in
mutual

private theorem scan_spell : (document : Json) → document.Numbered → (rest : List Char) → Apart rest →
    scan (document.spell ++ rest) = (scan rest).map (document.tokens ++ ·)
  | .null, _, rest, _ => scan_cons rfl rfl
  | .bool true, _, rest, _ => scan_cons rfl rfl
  | .bool false, _, rest, _ => scan_cons rfl rfl
  | .number literal, h, rest, hrest => scan_number h hrest
  | .string text, _, rest, _ => scan_quote text rest
  | .array items, h, rest, _ => by
    have hitems := scan_spellItems items h (']' :: rest) (apart_cons rfl rest)
    rw [spell, tokens, List.cons_append, List.cons_append, List.append_assoc, scan_cons rfl rfl,
      List.singleton_append, hitems, scan_cons rfl rfl]
    simp [Function.comp_def]
  | .object members, h, rest, _ => by
    have hmembers := scan_spellMembers members h ('\x7d' :: rest) (apart_cons rfl rest)
    rw [spell, tokens, List.cons_append, List.cons_append, List.append_assoc, scan_cons rfl rfl,
      List.singleton_append, hmembers, scan_cons rfl rfl]
    simp [Function.comp_def]

theorem scan_spellItems : (items : List Json) → NumberedItems items → (rest : List Char) → Apart rest →
    scan (spellItems items ++ rest) = (scan rest).map (itemTokens items ++ ·)
  | [], _, rest, _ => by simp [spellItems, itemTokens]
  | [item], h, rest, hrest => scan_spell item h.1 rest hrest
  | item :: next :: items, h, rest, hrest => by
    have hitem := scan_spell item h.1 (',' :: (spellItems (next :: items) ++ rest)) (apart_cons rfl _)
    have hitems := scan_spellItems (next :: items) h.2 rest hrest
    rw [spellItems, itemTokens, List.append_assoc, List.cons_append, hitem, scan_cons rfl rfl, hitems]
    · simp [Function.comp_def]
    · nofun
    · nofun

theorem scan_spellMembers : (members : List (Option String × Json)) → NumberedMembers members →
    (rest : List Char) → Apart rest →
    scan (spellMembers members ++ rest) = (scan rest).map (memberTokens members ++ ·)
  | [], _, rest, _ => by simp [spellMembers, memberTokens]
  | [(key, value)], h, rest, hrest => by
    have hvalue := scan_spell value h.1 rest hrest
    rw [spellMembers, memberTokens, List.append_assoc, List.cons_append, scan_quote, scan_cons rfl rfl, hvalue]
    simp [Function.comp_def]
  | (key, value) :: next :: members, h, rest, hrest => by
    have hvalue := scan_spell value h.1 (',' :: (spellMembers (next :: members) ++ rest)) (apart_cons rfl _)
    have hmembers := scan_spellMembers (next :: members) h.2 rest hrest
    rw [spellMembers, memberTokens, List.append_assoc, List.cons_append, List.append_assoc, List.cons_append,
      scan_quote, scan_cons rfl rfl, hvalue, scan_cons rfl rfl, hmembers]
    · simp [Function.comp_def]
    · nofun
    · nofun

end

section Building

variable (opened : List Open) (last : Json)

private theorem exists_tokens :
    (document : Json) → ∃ token later, document.tokens = token :: later ∧ token ≠ .closeBracket
  | .null => ⟨_, _, rfl, by decide⟩
  | .bool _ => ⟨_, _, rfl, nofun⟩
  | .number _ => ⟨_, _, rfl, nofun⟩
  | .string _ => ⟨_, _, rfl, nofun⟩
  | .array _ => ⟨_, _, rfl, nofun⟩
  | .object _ => ⟨_, _, rfl, nofun⟩

private theorem exists_itemTokens (item : Json) (items : List Json) :
    ∃ token later, itemTokens (item :: items) = token :: later ∧ token ≠ .closeBracket := by
  obtain ⟨token, later, htokens, htoken⟩ := exists_tokens item
  cases items with
  | nil => exact ⟨token, later, htokens, htoken⟩
  | cons next items =>
    refine ⟨token, later ++ .comma :: itemTokens (next :: items), ?_, htoken⟩
    rw [itemTokens, htokens, List.cons_append]
    nofun

private theorem step_firstItem {token : Token} (h : token ≠ .closeBracket) :
    Progress.step ⟨opened, last, .firstItem⟩ token = Progress.step ⟨opened, last, .value⟩ token := by
  cases token with
  | closeBracket => exact absurd rfl h
  | _ => rfl

private theorem foldlM_key (key : Option String) (earlier : List (Option String × Json)) (former : Option String)
    {awaiting : Awaiting} (h : awaiting = .key ∨ awaiting = .firstKey) (later : List Token) :
    (.text (units key) :: .colon :: later : List Token).foldlM Progress.step
        ⟨.object earlier former :: opened, last, awaiting⟩ =
      later.foldlM Progress.step ⟨.object earlier key :: opened, .null, .value⟩ := by
  have hkey : Progress.step ⟨.object earlier former :: opened, last, awaiting⟩ (.text (units key)) =
      some ⟨.object earlier (textOf (units key)) :: opened, .null, .colon⟩ := by
    rcases h with rfl | rfl
    · rfl
    · rfl
  rw [List.foldlM_cons, hkey, textOf_units]
  rfl

open Progress in
mutual

/-- The tokens of a document complete it, whatever else is open. -/
theorem foldlM_tokens : (document : Json) → (opened : List Open) → (last : Json) →
    document.tokens.foldlM step ⟨opened, last, .value⟩ = some (complete opened document)
  | .null, _, _ => rfl
  | .bool _, _, _ => rfl
  | .number _, _, _ => rfl
  | .string text, opened, last => by
    show some (complete opened (.string (textOf (units text)))) = _
    rw [textOf_units]
  | .array [], _, _ => rfl
  | .array (item :: items), opened, last => by
    obtain ⟨token, later, htokens, htoken⟩ := exists_itemTokens item items
    have hitems := foldlM_itemTokens (item :: items) nofun [] opened .null
    rw [htokens, List.cons_append, List.foldlM_cons, ← step_firstItem _ _ htoken] at hitems
    rw [tokens, List.cons_append, List.foldlM_cons, htokens, List.cons_append]
    exact hitems
  | .object [], _, _ => rfl
  | .object (member :: members), opened, last =>
    foldlM_memberTokens (member :: members) nofun [] none opened .null .firstKey (.inr rfl)
termination_by structural document => document

theorem foldlM_itemTokens : (items : List Json) → items ≠ [] → (earlier : List Json) → (opened : List Open) →
    (last : Json) →
    (itemTokens items ++ [Token.closeBracket]).foldlM step ⟨.array earlier :: opened, last, .value⟩ =
      some (complete opened (.array (earlier.reverse ++ items)))
  | [], h, _, _, _ => absurd rfl h
  | [item], _, earlier, opened, last => by
    rw [itemTokens, List.foldlM_append, foldlM_tokens]
    show some (complete opened (.array (item :: earlier).reverse)) = _
    rw [List.reverse_cons]
  | item :: next :: items, _, earlier, opened, last => by
    have hitems := foldlM_itemTokens (next :: items) nofun (item :: earlier) opened .null
    rw [List.reverse_cons, List.append_assoc, List.singleton_append] at hitems
    rw [itemTokens, List.append_assoc, List.foldlM_append, foldlM_tokens]
    · exact hitems
    · nofun
termination_by structural items => items

theorem foldlM_memberTokens : (members : List (Option String × Json)) → members ≠ [] →
    (earlier : List (Option String × Json)) → (former : Option String) → (opened : List Open) → (last : Json) →
    (awaiting : Awaiting) → awaiting = .key ∨ awaiting = .firstKey →
    (memberTokens members ++ [Token.closeBrace]).foldlM step ⟨.object earlier former :: opened, last, awaiting⟩ =
      some (complete opened (.object (earlier.reverse ++ members)))
  | [], h, _, _, _, _, _, _ => absurd rfl h
  | [(key, value)], _, earlier, former, opened, last, awaiting, h => by
    rw [memberTokens, List.cons_append, List.cons_append, foldlM_key _ _ key earlier former h,
      List.foldlM_append, foldlM_tokens]
    show some (complete opened (.object ((key, value) :: earlier).reverse)) = _
    rw [List.reverse_cons]
  | (key, value) :: next :: members, _, earlier, former, opened, last, awaiting, h => by
    have hmembers :=
      foldlM_memberTokens (next :: members) nofun ((key, value) :: earlier) none opened .null .key (.inl rfl)
    rw [List.reverse_cons, List.append_assoc, List.singleton_append] at hmembers
    rw [memberTokens, List.cons_append, List.cons_append, List.cons_append, List.cons_append,
      foldlM_key _ _ key earlier former h, List.append_assoc, List.foldlM_append, foldlM_tokens]
    · exact hmembers
    · nofun
termination_by structural members => members

end

end Building

/-- A document is read back from the text it is stored as. -/
theorem parse_render {document : Json} (h : document.Numbered) : parse document.render = some document := by
  have hscan := scan_spell document h [] Token.apart_nil
  rw [List.append_nil, Token.scan, Option.map_some, List.append_nil] at hscan
  rw [parse, render, String.toList_ofList, hscan, Option.bind_some, ofTokens, Progress.start, foldlM_tokens]
  rfl

theorem numbered_nat (n : Nat) : (nat n).Numbered := Token.isNumber_toDigits n

theorem numbered_record {members : List (String × Json)} (h : ∀ member ∈ members, member.2.Numbered) :
    (record members).Numbered := by
  induction members with
  | nil => trivial
  | cons member members ih =>
    obtain ⟨hmember, hmembers⟩ := List.forall_mem_cons.mp h
    exact And.intro hmember (ih hmembers)

private theorem nat?_nat (n : Nat) : (nat n).nat? = some n := by
  have hdigits : (Nat.toDigits 10 n).all Char.isDigit :=
    List.all_eq_true.mpr fun c hc => Nat.isDigit_of_mem_toDigits (by decide) (by decide) hc
  rw [nat, nat?, if_pos hdigits]
  exact congrArg some (Nat.ofDigitChars_toDigits (by decide) (by decide))

theorem word32?_nat (word : UInt32) : (nat word.toNat).word32? = some word := by
  have hfits : word.toNat < UInt32.size := word.toNat_lt
  rw [word32?, nat?_nat]
  show (if word.toNat < UInt32.size then some (UInt32.ofNat word.toNat) else none) = some word
  rw [if_pos hfits, UInt32.ofNat_toNat]

theorem text?_eq_some_iff {document : Json} {s : String} : document.text? = some s ↔ document = .text s := by
  constructor
  · intro h
    cases document with
    | string content => exact congrArg Json.string h
    | _ => cases h
  · rintro rfl
    rfl

private theorem filter_key {members : List (String × Json)} (h : (members.map Prod.fst).Nodup)
    {member : String × Json} (hmember : member ∈ members) :
    members.filter (·.1 = member.1) = [member] := by
  induction members with
  | nil => cases hmember
  | cons first members ih =>
    obtain ⟨hfirst, hlater⟩ := List.nodup_cons.mp h
    rcases List.mem_cons.mp hmember with rfl | hmember
    · have hnone : members.filter (·.1 = member.1) = [] := by
        refine List.filter_eq_nil_iff.mpr fun other hother => ?_
        rw [decide_eq_true_eq]
        exact fun hsame => hfirst (hsame ▸ List.mem_map_of_mem hother)
      rw [List.filter_cons, if_pos (decide_eq_true rfl), hnone]
    · have hother : ¬ decide (first.1 = member.1) = true := by
        rw [decide_eq_true_eq]
        exact fun hsame => hfirst (hsame ▸ List.mem_map_of_mem hmember)
      rw [List.filter_cons, if_neg hother, ih hlater hmember]

private theorem mapM_names {find : String → Option (Option Json)} {found : List (String × Json)}
    (h : ∀ member ∈ found, find member.1 = some (some member.2)) :
    (found.map Prod.fst).mapM find = some (found.map fun member => some member.2) := by
  induction found with
  | nil => rfl
  | cons member found ih =>
    obtain ⟨hmember, hlater⟩ := List.forall_mem_cons.mp h
    rw [List.map_cons, List.mapM_cons, hmember, ih hlater]
    rfl

theorem fields?_record {members : List (String × Json)} (h : (members.map Prod.fst).Nodup) :
    (record members).fields? (members.map Prod.fst) = some (members.map fun member => some member.2) := by
  have hnamed : (members.map fun member => (some member.1, member.2)).mapM
      (fun member => member.1.map (·, member.2)) = some members := by
    clear h
    induction members with
    | nil => rfl
    | cons member members ih =>
      rw [List.map_cons, List.mapM_cons, ih]
      rfl
  rw [record, fields?]
  refine Option.bind_eq_some_iff.mpr ⟨members, hnamed, mapM_names fun member hmember => ?_⟩
  rw [filter_key h hmember]

end Latchkey.Json
