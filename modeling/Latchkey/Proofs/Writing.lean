import Latchkey.Proofs.Texts
import Latchkey.Report.Reply
import Latchkey.Time.Stamp

/-!
# Fields that are written and read

What has been written field by field is read field by field, whatever follows it: bytes, flags, numbers, texts and
times. A coded value is read under the name of its code, so a bare code is only kept if there is no name for it.
-/

namespace Latchkey

namespace Reader

variable {α β : Type} {field : Reader α} {next : α → Reader β} {a : α} {b : β} {front back : Bytes}

/-- From whatever begins with these bytes, the reader reads this value off the front and leaves the rest. -/
def Restores (field : Reader α) (front : Bytes) (a : α) : Prop :=
  ∀ rest : Bytes, field.run (front ++ rest) = some (a, rest)

theorem Restores.bind (h : Restores field front a) (hnext : Restores (next a) back b) :
    Restores (field >>= next) (front ++ back) b := by
  intro rest
  rw [List.append_assoc, bind_run, h, Option.bind_some, hnext]

theorem Restores.make (h : Restores field front a) (make : α → β) :
    Restores (field >>= fun a => pure (make a)) front (make a) := by
  intro rest
  rw [bind_run, h]
  rfl

theorem Restores.before (h : Restores field front a) (back : Bytes) :
    (field >>= next).first? (front ++ back) = (next a).first? back := by
  rw [first?, bind_run, h, Option.bind_some, first?]

theorem Restores.first? (h : Restores field front a) : field.first? front = some a := by
  have hrun := h []
  rw [List.append_nil] at hrun
  rw [Reader.first?, hrun, Option.map_some]

theorem restores_byte (b : UInt8) : Restores byte [b] b := fun _ => rfl

theorem restores_flag (b : Bool) : Restores flag [b.toUInt8] b := by
  have hb : (b.toUInt8 != 0) = b := by cases b <;> rfl
  have h := (restores_byte b.toUInt8).make (· != 0)
  rw [hb] at h
  exact h

theorem Restores.byte {next : UInt8 → Reader β} (value : UInt8) (hnext : Restores (next value) back b) :
    Restores (Reader.byte >>= next) (value :: back) b := (restores_byte value).bind hnext

theorem Restores.flag {next : Bool → Reader β} (value : Bool) (hnext : Restores (next value) back b) :
    Restores (Reader.flag >>= next) (value.toUInt8 :: back) b := (restores_flag value).bind hnext

theorem restores_take {width : Nat} (h : front.length = width) : Restores (take width) front front :=
  fun _ => take_eq_some_iff.mpr ⟨rfl, h⟩

theorem restores_word16 (word : UInt16) : Restores word16 (Bytes.ofWord16 word) word := word16_append word

theorem restores_word32 (word : UInt32) : Restores word32 (Bytes.ofWord32 word) word := word32_append word

theorem restores_int16 (word : Int16) : Restores int16 (Bytes.ofWord16 word.toUInt16) word :=
  (restores_word16 word.toUInt16).make UInt16.toInt16

end Reader

open Reader

theorem Command.carries_of (id : CommandId) (payload : Bytes) : (Command.of id payload).Carries id := rfl

theorem Command.readPayload_of_first? {α : Type} {fields : Reader α} {payload : Bytes} {report : α} (need : Nat)
    (id : CommandId) (h : fields.first? payload = some report) :
    (Command.of id payload).readPayload need fields = .ok report := by
  rw [readPayload, of, h]

theorem Command.readPayload_of_restores {α : Type} {fields : Reader α} {payload : Bytes} {report : α} (need : Nat)
    (id : CommandId) (h : Restores fields payload report) :
    (Command.of id payload).readPayload need fields = .ok report :=
  readPayload_of_first? need id h.first?

namespace Coded

variable {ω α : Type} [DecidableEq ω] [Vocabulary ω α]

/-- The value under the name of its code, if the code has one. -/
def named (value : Coded ω α) : Coded ω α := ofCode value.code

/-- Only a code without a name is left bare. -/
def Proper : Coded ω α → Prop
  | known _ => True
  | unknown code => ∀ value ∈ (Vocabulary.words : List α), Vocabulary.code value ≠ code

theorem named_eq (hwords : ∀ word : α, (ofCode (Vocabulary.code word) : Coded ω α) = known word)
    {value : Coded ω α} (h : value.Proper) : value.named = value := by
  cases value with
  | known word => exact hwords word
  | unknown code =>
    have hnone : (Vocabulary.words : List α).find? (Vocabulary.code · = code) = none := by
      rw [List.find?_eq_none]
      intro word hword
      simp [h word hword]
    rw [named, Coded.code, ofCode, hnone]

end Coded

theorem Padded.restores_field {width : Nat} {text : String} (hzero : '\x00' ∉ text.toList)
    (hfits : (Utf8.ofString text).length ≤ width) : Restores (field width) (encode width text) text := by
  have h := (restores_take (length_encode width text)).make decode
  rw [decode_encode hzero hfits] at h
  exact h

private theorem daysInMonth_le (year : Int) (month : Nat) : daysInMonth year month ≤ 31 := by
  rw [daysInMonth]
  split
  · split <;> decide
  · split <;> decide

theorem Moment.of?_self (m : Moment) : of? m.year m.month m.day m.hour m.minute m.second = some m := by
  rw [of?, dif_pos m.isDate, dif_pos m.isTimeOfDay]

namespace Stamp

theorem restores_field (s : Stamp) : Restores field s.encode s := by
  refine (restores_word16 s.year).bind ?_
  refine .byte s.month ?_
  refine .byte s.day ?_
  refine .byte s.hour ?_
  refine .byte s.minute ?_
  exact (restores_byte s.second).make _

@[simp] theorem length_encode (s : Stamp) : s.encode.length = 7 := rfl

theorem toNat_ofMoment (m : Moment) :
    ((ofMoment m).year.toNat : Int) = max 0 (min m.year 65535) ∧ (ofMoment m).month.toNat = m.month ∧
      (ofMoment m).day.toNat = m.day ∧ (ofMoment m).hour.toNat = m.hour ∧
      (ofMoment m).minute.toNat = m.minute ∧ (ofMoment m).second.toNat = m.second := by
  obtain ⟨-, hmonth, -, hday⟩ := m.isDate
  obtain ⟨hhour, hminute, hsecond⟩ := m.isTimeOfDay
  have hdays := daysInMonth_le m.year m.month
  have hbyte {n : Nat} (hn : n ≤ 60) : (UInt8.ofNat n).toNat = n :=
    UInt8.toNat_ofNat_of_lt' (Nat.lt_of_le_of_lt hn (by decide))
  refine ⟨?_, hbyte (by omega), hbyte (by omega), hbyte (by omega), hbyte (by omega), hbyte (by omega)⟩
  rw [ofMoment, UInt16.toNat_ofNat']
  omega

theorem moment?_ofMoment_eq (m : Moment) :
    (ofMoment m).moment? =
      Moment.of? (max 0 (min m.year 65535)) m.month m.day m.hour m.minute m.second := by
  obtain ⟨hyear, hmonth, hday, hhour, hminute, hsecond⟩ := toNat_ofMoment m
  rw [moment?, hyear, hmonth, hday, hhour, hminute, hsecond]

theorem moment?_ofMoment {m : Moment} (hlow : 0 ≤ m.year) (hhigh : m.year ≤ 65535) :
    (ofMoment m).moment? = some m := by
  have hyear : max 0 (min m.year 65535) = m.year := by omega
  rw [moment?_ofMoment_eq, hyear, m.of?_self]

end Stamp

end Latchkey
