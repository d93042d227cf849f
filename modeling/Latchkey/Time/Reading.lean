import Latchkey.Time.Stamp
import Latchkey.WireError

/-!
# Reading times

A time is read from the seven bytes of its stamp. Six numbers that name no moment are an error that keeps them as
they came. A clock that runs ahead of universal time shows the same day as universal time, or a day next to it. The
day next to the first or the last of a month lies in another month, and perhaps in another year.
-/

namespace Latchkey.Stamp

/-- The moment that a stamp names. -/
def time (s : Stamp) : Except WireError Moment :=
  match s.moment? with
  | some moment => .ok moment
  | none => .error (.invalidTimestamp s)

/-- Reads a moment from the front of a byte string. -/
def read (bytes : Bytes) : Except WireError Moment :=
  match field.first? bytes with
  | some stamp => stamp.time
  | none => .error (.tooShort 7 bytes.length)

/-- The time on a clock that shows the stamp and runs these minutes ahead of universal time. -/
def localTime (s : Stamp) (minutes : Int16) : Except WireError LocalTime :=
  match s.localTime? minutes with
  | some time => .ok time
  | none => .error (.invalidTimestamp s)

/-- Reads what such a clock shows from the front of a byte string. -/
def readLocal (bytes : Bytes) (minutes : Int16) : Except WireError LocalTime :=
  match field.first? bytes with
  | some stamp => stamp.localTime minutes
  | none => .error (.tooShort 7 bytes.length)

end Latchkey.Stamp

namespace Latchkey

private theorem daysInMonth_pos (year : Int) (month : Nat) : 0 < daysInMonth year month := by
  rw [daysInMonth]
  split
  · split <;> decide
  · split <;> decide

namespace Moment

/-- The same time of day on the day that follows. -/
def nextDay (m : Moment) : Moment :=
  if hday : m.day < daysInMonth m.year m.month then
    { m with day := m.day + 1, isDate := ⟨m.isDate.1, m.isDate.2.1, Nat.le_add_left .., hday⟩ }
  else if hmonth : m.month < 12 then
    { m with
      month := m.month + 1, day := 1
      isDate := ⟨Nat.le_add_left .., hmonth, Nat.le_refl 1, daysInMonth_pos ..⟩ }
  else
    { m with
      year := m.year + 1, month := 1, day := 1
      isDate := ⟨Nat.le_refl 1, by decide, Nat.le_refl 1, daysInMonth_pos ..⟩ }

/-- The same time of day on the day before. -/
def previousDay (m : Moment) : Moment :=
  if hday : 1 < m.day then
    { m with
      day := m.day - 1
      isDate := ⟨m.isDate.1, m.isDate.2.1, Nat.le_sub_one_of_lt hday, Nat.le_trans (Nat.sub_le ..) m.isDate.2.2.2⟩ }
  else if hmonth : 1 < m.month then
    { m with
      month := m.month - 1, day := daysInMonth m.year (m.month - 1)
      isDate :=
        ⟨Nat.le_sub_one_of_lt hmonth, Nat.le_trans (Nat.sub_le ..) m.isDate.2.1, daysInMonth_pos .., Nat.le_refl _⟩ }
  else
    { m with
      year := m.year - 1, month := 12, day := 31
      isDate := ⟨by decide, Nat.le_refl 12, by decide, Nat.le_refl 31⟩ }

/-- Seconds since the day has begun. -/
def secondOfDay (m : Moment) : Nat := (m.hour * 60 + m.minute) * 60 + m.second

/-- Another time of the same day. -/
def atSecond (m : Moment) (second : Nat) (h : second < 86400) : Moment :=
  { m with
    hour := second / 3600, minute := second / 60 % 60, second := second % 60
    isTimeOfDay := ⟨by omega, Nat.mod_lt _ (by decide), Nat.mod_lt _ (by decide)⟩ }

end Moment

namespace LocalTime

/-- What a clock shows at the same time that is not ahead of universal time. -/
def universal (t : LocalTime) : Moment :=
  let second : Int := t.wall.secondOfDay - t.offset
  let day :=
    if second < 0 then t.wall.previousDay
    else if second < 86400 then t.wall
    else t.wall.nextDay
  day.atSecond (second % 86400).toNat (by omega)

end LocalTime

end Latchkey
