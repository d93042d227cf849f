import Latchkey.Bytes.Reader

/-!
# Points in time

A `Moment` is a date of the proleptic Gregorian calendar with a time of day in whole seconds; its fields
always name a day that exists. A `LocalTime` is what a clock on the wall shows together with the distance
of that clock from universal time.

Devices write a date and a time of day as `year:2 ‖ month ‖ day ‖ hour ‖ minute ‖ second`. A received
stamp keeps the six numbers as they came; whether they name a moment is a question of its own.
-/

namespace Latchkey

/-- Every fourth year has a leap day, except the centuries that four hundred does not divide. -/
def IsLeapYear (year : Int) : Prop := year % 4 = 0 ∧ (year % 100 ≠ 0 ∨ year % 400 = 0)

instance (year : Int) : Decidable (IsLeapYear year) := by unfold IsLeapYear; infer_instance

def daysInMonth (year : Int) (month : Nat) : Nat :=
  if month = 2 then if IsLeapYear year then 29 else 28
  else if month = 4 ∨ month = 6 ∨ month = 9 ∨ month = 11 then 30
  else 31

def IsDate (year : Int) (month day : Nat) : Prop :=
  1 ≤ month ∧ month ≤ 12 ∧ 1 ≤ day ∧ day ≤ daysInMonth year month

def IsTimeOfDay (hour minute second : Nat) : Prop := hour < 24 ∧ minute < 60 ∧ second < 60

instance (year : Int) (month day : Nat) : Decidable (IsDate year month day) := by
  unfold IsDate; infer_instance

instance (hour minute second : Nat) : Decidable (IsTimeOfDay hour minute second) := by
  unfold IsTimeOfDay; infer_instance

@[ext] structure Moment where
  year : Int
  month : Nat
  day : Nat
  hour : Nat
  minute : Nat
  second : Nat
  isDate : IsDate year month day
  isTimeOfDay : IsTimeOfDay hour minute second
deriving DecidableEq

namespace Moment

def of? (year : Int) (month day hour minute second : Nat) : Option Moment :=
  if hd : IsDate year month day then
    if ht : IsTimeOfDay hour minute second then
      some ⟨year, month, day, hour, minute, second, hd, ht⟩
    else none
  else none

/-- Days from the first day of the year 1 to the first day of `year`. -/
def yearStart (year : Int) : Int :=
  365 * (year - 1) + (year - 1) / 4 - (year - 1) / 100 + (year - 1) / 400

/-- Days from the first day of the year to the first day of `month`. -/
def monthStart (year : Int) : (month : Nat) → Nat
  | 0 | 1 => 0
  | earlier + 2 => monthStart year (earlier + 1) + daysInMonth year (earlier + 1)

def seconds (m : Moment) : Int :=
  let days := yearStart m.year + monthStart m.year m.month + (m.day - 1)
  ((days * 24 + m.hour) * 60 + m.minute) * 60 + m.second

/-- A year in four digits; outside of those it gets a sign. -/
def yearText (year : Int) : String :=
  if 0 ≤ year ∧ year ≤ 9999 then Numeral.decimal 4 year.natAbs
  else if year < 0 then s!"-{Numeral.decimal 4 year.natAbs}"
  else s!"+{Numeral.decimal 4 year.natAbs}"

def text (m : Moment) : String :=
  let two := Numeral.decimal 2
  s!"{yearText m.year}-{two m.month}-{two m.day}T{two m.hour}:{two m.minute}:{two m.second}"

def timestamp (m : Moment) : String := s!"{m.text}+00:00"

end Moment

/-- A time of day on a clock that runs `offset` seconds ahead of universal time. -/
structure LocalTime where
  wall : Moment
  /-- Seconds ahead of universal time. -/
  offset : Int
  /-- No clock is a whole day off. -/
  offset_lt : offset.natAbs < 86400
deriving DecidableEq

namespace LocalTime

def seconds (t : LocalTime) : Int := t.wall.seconds - t.offset

/-- The clock's reading followed by its distance in hours and minutes. -/
def timestamp (t : LocalTime) : String :=
  let sign := if t.offset < 0 then "-" else "+"
  let minutes := t.offset.natAbs / 60
  s!"{t.wall.text}{sign}{Numeral.decimal 2 (minutes / 60)}:{Numeral.decimal 2 (minutes % 60)}"

end LocalTime

@[ext] structure Stamp where
  year : UInt16
  month : UInt8
  day : UInt8
  hour : UInt8
  minute : UInt8
  second : UInt8
deriving DecidableEq, Repr

namespace Stamp

def field : Reader Stamp := do
  let year ← Reader.word16
  let month ← Reader.byte
  let day ← Reader.byte
  let hour ← Reader.byte
  let minute ← Reader.byte
  let second ← Reader.byte
  return { year, month, day, hour, minute, second }

def encode (s : Stamp) : Bytes :=
  Bytes.ofWord16 s.year ++ [s.month, s.day, s.hour, s.minute, s.second]

/-- The moment a stamp names, if it names one. -/
def moment? (s : Stamp) : Option Moment :=
  Moment.of? s.year.toNat s.month.toNat s.day.toNat s.hour.toNat s.minute.toNat s.second.toNat

def localTime? (s : Stamp) (minutes : Int16) : Option LocalTime := do
  let wall ← s.moment?
  let offset := minutes.toInt * 60
  if h : offset.natAbs < 86400 then some ⟨wall, offset, h⟩ else none

/-- The stamp of a moment; a year that does not fit is replaced by the nearest one that does. -/
def ofMoment (m : Moment) : Stamp where
  year := UInt16.ofNat (min m.year.toNat 65535)
  month := UInt8.ofNat m.month
  day := UInt8.ofNat m.day
  hour := UInt8.ofNat m.hour
  minute := UInt8.ofNat m.minute
  second := UInt8.ofNat m.second

def text (s : Stamp) : String :=
  let two (n : UInt8) := Numeral.decimal 2 n.toNat
  s!"{Numeral.decimal 4 s.year.toNat}-{two s.month}-{two s.day} " ++
    s!"{two s.hour}:{two s.minute}:{two s.second}"

end Stamp

end Latchkey
