import Latchkey.Proofs.Conditions
import Latchkey.Proofs.Stamps
import Latchkey.Time.Reading

/-!
# Clocks and universal time

The days of the calendar follow one another without a gap, so a moment is told by its seconds alone. What a clock
shows that runs ahead of universal time stands for one moment of universal time, and is accepted just where the same
bytes are accepted as universal time and the clock is less than a day off.
-/

namespace Latchkey

open Reader

namespace Moment

def daysInYear (year : Int) : Nat := if IsLeapYear year then 366 else 365

/-- Days from the first day of the year 1. -/
def dayNumber (m : Moment) : Int := yearStart m.year + monthStart m.year m.month + (m.day - 1)

private theorem seconds_eq (m : Moment) : m.seconds = 86400 * m.dayNumber + m.secondOfDay := by
  simp only [seconds, dayNumber, secondOfDay]
  omega

private theorem secondOfDay_lt (m : Moment) : m.secondOfDay < 86400 := by
  obtain ⟨hhour, hminute, hsecond⟩ := m.isTimeOfDay
  rw [secondOfDay]
  omega

private theorem yearStart_succ (year : Int) : yearStart (year + 1) = yearStart year + daysInYear year := by
  rw [yearStart, yearStart]
  by_cases hleap : IsLeapYear year
  · rw [daysInYear, if_pos hleap]
    rw [IsLeapYear] at hleap
    omega
  · rw [daysInYear, if_neg hleap]
    rw [IsLeapYear] at hleap
    omega

private theorem yearStart_le {first second : Int} (h : first ≤ second) : yearStart first ≤ yearStart second := by
  rw [yearStart, yearStart]
  omega

private theorem monthStart_succ (year : Int) {month : Nat} (h : 1 ≤ month) :
    monthStart year (month + 1) = monthStart year month + daysInMonth year month := by
  cases month with
  | zero => contradiction
  | succ earlier => rfl

private theorem monthStart_mono (year : Int) : Monotone (monthStart year) := by
  apply monotone_nat_of_le_succ
  intro month
  cases month with
  | zero => exact Nat.le_refl 0
  | succ earlier => exact Nat.le_add_right ..

private theorem daysInYear_eq (year : Int) : daysInYear year = monthStart year 12 + 31 := by
  by_cases hleap : IsLeapYear year <;> simp [daysInYear, monthStart, daysInMonth, hleap]

private theorem dayNumber_nextDay (m : Moment) : m.nextDay.dayNumber = m.dayNumber + 1 := by
  obtain ⟨hfirst, hlast, hday, hdays⟩ := m.isDate
  have hmonths := monthStart_succ m.year hfirst
  rw [nextDay]
  split
  · simp only [dayNumber]
    omega
  · split
    · simp only [dayNumber, hmonths]
      omega
    · -- The last day of the year.
      have hdecember : m.month = 12 := by omega
      have hlength : daysInMonth m.year m.month = 31 := by rw [hdecember]; rfl
      have hjanuary : monthStart (m.year + 1) 1 = 0 := rfl
      simp only [dayNumber, yearStart_succ, daysInYear_eq, hjanuary, hdecember]
      omega

private theorem dayNumber_previousDay (m : Moment) : m.previousDay.dayNumber = m.dayNumber - 1 := by
  obtain ⟨hfirst, hlast, hday, hdays⟩ := m.isDate
  rw [previousDay]
  split
  · simp only [dayNumber]
    omega
  · split
    · have hpositive : 1 ≤ m.month - 1 := by omega
      have hmonths := monthStart_succ m.year hpositive
      rw [Nat.sub_add_cancel hfirst] at hmonths
      simp only [dayNumber]
      omega
    · -- The first day of the year.
      have hjanuary : m.month = 1 := by omega
      have hstart : monthStart m.year 1 = 0 := rfl
      have hyears := yearStart_succ (m.year - 1)
      rw [Int.sub_add_cancel, daysInYear_eq] at hyears
      simp only [dayNumber, hjanuary, hstart]
      omega

private theorem dayNumber_bounds (m : Moment) :
    yearStart m.year ≤ m.dayNumber ∧ m.dayNumber < yearStart (m.year + 1) := by
  obtain ⟨hfirst, hlast, hday, hdays⟩ := m.isDate
  have hmonths := monthStart_succ m.year hfirst
  have hend : monthStart m.year (m.month + 1) ≤ daysInYear m.year := by
    rw [daysInYear_eq]
    exact monthStart_mono m.year (show m.month + 1 ≤ 13 by omega)
  rw [yearStart_succ, dayNumber]
  omega

private theorem dayNumber_lt_of_year {a b : Moment} (h : a.year < b.year) : a.dayNumber < b.dayNumber := by
  have hyears : yearStart (a.year + 1) ≤ yearStart b.year := yearStart_le h
  exact lt_of_lt_of_le a.dayNumber_bounds.2 (hyears.trans b.dayNumber_bounds.1)

private theorem dayNumber_lt_of_month {a b : Moment} (hyear : a.year = b.year) (h : a.month < b.month) :
    a.dayNumber < b.dayNumber := by
  obtain ⟨hfirst, -, -, hdays⟩ := a.isDate
  obtain ⟨-, -, hday, -⟩ := b.isDate
  have hmonths := monthStart_succ a.year hfirst
  have hbetween := monthStart_mono a.year (show a.month + 1 ≤ b.month from h)
  rw [dayNumber, dayNumber, ← hyear]
  omega

private theorem date_of_dayNumber {a b : Moment} (h : a.dayNumber = b.dayNumber) :
    a.year = b.year ∧ a.month = b.month ∧ a.day = b.day := by
  have hyear : a.year = b.year := by
    rcases lt_trichotomy a.year b.year with hlt | heq | hgt
    · exact absurd h (dayNumber_lt_of_year hlt).ne
    · exact heq
    · exact absurd h (dayNumber_lt_of_year hgt).ne'
  have hmonth : a.month = b.month := by
    rcases lt_trichotomy a.month b.month with hlt | heq | hgt
    · exact absurd h (dayNumber_lt_of_month hyear hlt).ne
    · exact heq
    · exact absurd h (dayNumber_lt_of_month hyear.symm hgt).ne'
  refine ⟨hyear, hmonth, ?_⟩
  rw [dayNumber, dayNumber, hyear, hmonth] at h
  omega

private theorem seconds_injective : Function.Injective seconds := by
  intro a b h
  rw [seconds_eq, seconds_eq] at h
  have ha := a.secondOfDay_lt
  have hb := b.secondOfDay_lt
  obtain ⟨hyear, hmonth, hday⟩ := date_of_dayNumber (show a.dayNumber = b.dayNumber by omega)
  have htime : a.secondOfDay = b.secondOfDay := by omega
  obtain ⟨-, haminute, hasecond⟩ := a.isTimeOfDay
  obtain ⟨-, hbminute, hbsecond⟩ := b.isTimeOfDay
  rw [secondOfDay, secondOfDay] at htime
  ext
  · exact hyear
  · exact hmonth
  · exact hday
  · omega
  · omega
  · omega

private theorem secondOfDay_atSecond (m : Moment) {second : Nat} (h : second < 86400) :
    (m.atSecond second h).secondOfDay = second := by
  simp only [secondOfDay, atSecond]
  omega

private theorem year_nextDay (m : Moment) : m.nextDay.year = m.year ∨ m.nextDay.year = m.year + 1 := by
  rw [nextDay]
  split
  · exact .inl rfl
  · split
    · exact .inl rfl
    · exact .inr rfl

private theorem year_previousDay (m : Moment) : m.previousDay.year = m.year ∨ m.previousDay.year = m.year - 1 := by
  rw [previousDay]
  split
  · exact .inl rfl
  · split
    · exact .inl rfl
    · exact .inr rfl

end Moment

namespace LocalTime

/-- A clock is less than a day off, so its day is that of universal time or next to it. -/
theorem universal_spec (t : LocalTime) :
    t.universal.seconds = t.seconds ∧ t.wall.year - 1 ≤ t.universal.year ∧ t.universal.year ≤ t.wall.year + 1 := by
  have hsecond := t.wall.secondOfDay_lt
  have hoffset := t.offset_lt
  have hday (day : Moment) : (day.atSecond ((t.wall.secondOfDay - t.offset : Int) % 86400).toNat (by omega)).seconds =
      86400 * day.dayNumber + (t.wall.secondOfDay - t.offset) % 86400 := by
    rw [Moment.seconds_eq, Moment.secondOfDay_atSecond]
    have hsame : (day.atSecond ((t.wall.secondOfDay - t.offset : Int) % 86400).toNat (by omega)).dayNumber =
      day.dayNumber := rfl
    omega
  rw [universal, hday, seconds, Moment.seconds_eq]
  split
  · have hyear := t.wall.year_previousDay
    have hnumber := t.wall.dayNumber_previousDay
    refine ⟨?_, ?_, ?_⟩
    · omega
    · show _ ≤ t.wall.previousDay.year
      omega
    · show t.wall.previousDay.year ≤ _
      omega
  · split
    · refine ⟨?_, ?_, ?_⟩
      · omega
      · show _ ≤ t.wall.year
        omega
      · show t.wall.year ≤ _
        omega
    · have hyear := t.wall.year_nextDay
      have hnumber := t.wall.dayNumber_nextDay
      refine ⟨?_, ?_, ?_⟩
      · omega
      · show _ ≤ t.wall.nextDay.year
        omega
      · show t.wall.nextDay.year ≤ _
        omega

end LocalTime

namespace Stamp

variable {s : Stamp} {minutes : Int16}

private theorem readLocal_encode (s : Stamp) (minutes : Int16) :
    readLocal s.encode minutes = s.localTime minutes := by
  rw [readLocal, s.restores_field.first?]

/-- A clock has a time to tell if its stamp names a moment and it is less than a day off. -/
theorem exists_localTime_iff : (∃ t, s.localTime minutes = .ok t) ↔
    (∃ m, s.time = .ok m) ∧ -1440 < minutes.toInt ∧ minutes.toInt < 1440 := by
  simp only [localTime_eq_ok_iff, time_eq_ok_iff]
  constructor
  · rintro ⟨t, hmoment, hoffset⟩
    have hday := t.offset_lt
    exact ⟨⟨t.wall, hmoment⟩, by omega, by omega⟩
  · rintro ⟨⟨m, hmoment⟩, hlow, hhigh⟩
    exact ⟨⟨m, 60 * minutes.toInt, by omega⟩, hmoment, rfl⟩

end Stamp

private theorem StateReport.time_of_read {c : Command} {r : StateReport} (h : StateReport.read c = .ok r) :
    ∃ bytes ∈ c.payload.slice? 3 7, ∃ minutes ∈ c.payload.int16At? 10, r.time = Stamp.readLocal bytes minutes := by
  have hfields {extras : Bytes → Option StateExtras} (hat : fieldsAt? extras c.payload = some r) :
      ∃ bytes ∈ c.payload.slice? 3 7, ∃ minutes ∈ c.payload.int16At? 10,
        r.time = Stamp.readLocal bytes minutes := by
    rw [fieldsAt?] at hat
    -- Three bytes stand in front of the stamp, and eight fields behind the offset.
    iterate 3 obtain ⟨_, -, hat⟩ := Option.bind_eq_some_iff.mp hat
    obtain ⟨stamp, hstamp, hat⟩ := Option.bind_eq_some_iff.mp hat
    obtain ⟨minutes, hminutes, hat⟩ := Option.bind_eq_some_iff.mp hat
    iterate 8 obtain ⟨_, -, hat⟩ := Option.bind_eq_some_iff.mp hat
    cases hat
    refine ⟨stamp.encode, Stamp.at?_eq_some hstamp, minutes, hminutes, ?_⟩
    rw [Stamp.readLocal_encode]
    rfl
  have hat := (StateReport.read_iff c).2 r h
  rw [StateReport.at?] at hat
  split at hat
  · exact hfields hat
  · exact hfields hat
  · contradiction

/-- A clock that runs ahead of universal time is read from seven bytes just if these are read as universal time and
the clock is less than a day off. It shows the six numbers that the bytes hold, and it stands for the one moment of
universal time that comes as much earlier as the clock runs ahead, be it on another day, in another month or in
another year; that moment and the offset together tell what the clock shows. Any other bytes, and any other offset,
are an error that keeps the six numbers. This is how state reports tell their time. -/
theorem Stamp.readLocal_universal :
    (∀ (low high month day hour minute second : UInt8) (minutes : Int16),
      let bytes := [low, high, month, day, hour, minute, second]
      let year := low.toNat + 256 * high.toNat
      ((∃ t, readLocal bytes minutes = .ok t) ↔
          (∃ m, read bytes = .ok m) ∧ -1440 < minutes.toInt ∧ minutes.toInt < 1440) ∧
        (∀ t, readLocal bytes minutes = .ok t →
          read bytes = .ok t.wall ∧
          (t.wall.year = year ∧ t.wall.month = month.toNat ∧ t.wall.day = day.toNat ∧
            t.wall.hour = hour.toNat ∧ t.wall.minute = minute.toNat ∧ t.wall.second = second.toNat) ∧
          t.offset = 60 * minutes.toInt ∧
          (∀ u : Moment, u.seconds = t.wall.seconds - 60 * minutes.toInt ↔ u = t.universal) ∧
          (∀ w : Moment, w.seconds = t.universal.seconds + 60 * minutes.toInt ↔ w = t.wall) ∧
          -1 ≤ t.universal.year ∧ t.universal.year ≤ 65536) ∧
        ((∃ t, readLocal bytes minutes = .ok t) ∨ readLocal bytes minutes =
          .error (.invalidTimestamp ⟨UInt16.ofNat year, month, day, hour, minute, second⟩))) ∧
      ∀ c r, StateReport.read c = .ok r →
        ∃ bytes ∈ c.payload.slice? 3 7, ∃ minutes ∈ c.payload.int16At? 10, r.time = readLocal bytes minutes := by
  refine ⟨fun low high month day hour minute second minutes => ?_, fun c r => StateReport.time_of_read⟩
  intro bytes year
  let s : Stamp := ⟨Bytes.toWord16 [low, high], month, day, hour, minute, second⟩
  have hbytes : bytes = s.encode := (encode_mk low high month day hour minute second).symm
  have hyear : s.year.toNat = year := Bytes.toNat_toWord16_pair low high
  rw [hbytes, readLocal_encode, read_encode]
  refine ⟨exists_localTime_iff, fun t ht => ?_, ?_⟩
  · obtain ⟨hmoment, hoffset⟩ := localTime_eq_ok_iff.mp ht
    obtain ⟨hseconds, hearliest, hlatest⟩ := t.universal_spec
    rw [LocalTime.seconds, hoffset] at hseconds
    have hfields := Moment.of?_eq_some_iff.mp hmoment
    rw [hyear] at hfields
    have hlt := s.year.toNat_lt
    rw [hyear] at hlt
    refine ⟨time_eq_ok_iff.mpr hmoment, hfields, hoffset, fun u => ?_, fun w => ?_, by omega, by omega⟩
    · rw [← hseconds, Moment.seconds_injective.eq_iff]
    · rw [hseconds, Int.sub_add_cancel, Moment.seconds_injective.eq_iff]
  · rw [localTime]
    cases s.localTime? minutes with
    | some t => exact .inl ⟨t, rfl⟩
    | none => exact .inr rfl

/-- Ten minutes into the year 2000 on a clock that is an hour ahead, the last minute of the year 65535 on one that is
almost a day behind, the first minute of the year 0 on one that is as much ahead, and a clock that is a day off. -/
theorem Stamp.readLocal_universal_newYear :
    let universal (bytes : Bytes) (minutes : Int16) := (readLocal bytes minutes).map LocalTime.universal
    (∃ t, readLocal [0xD0, 0x07, 1, 1, 0, 10, 0] 60 = .ok t ∧
        t.universal = ⟨1999, 12, 31, 23, 10, 0, by decide, by decide⟩) ∧
      universal [0xFF, 0xFF, 12, 31, 23, 59, 0] (-1439) = .ok ⟨65536, 1, 1, 23, 58, 0, by decide, by decide⟩ ∧
      universal [0, 0, 1, 1, 0, 0, 0] 1439 = .ok ⟨-1, 12, 31, 0, 1, 0, by decide, by decide⟩ ∧
      ¬ ∃ t, readLocal [0xD0, 0x07, 1, 1, 0, 10, 0] 1440 = .ok t := by
  intro universal
  obtain ⟨hread, -⟩ := readLocal_universal
  refine ⟨?_, by decide, by decide, ?_⟩
  · let newYear : Moment := ⟨2000, 1, 1, 0, 10, 0, by decide, by decide⟩
    have hnewYear : read [0xD0, 0x07, 1, 1, 0, 10, 0] = .ok newYear := by decide
    obtain ⟨haccepted, hshows, -⟩ := hread 0xD0 0x07 1 1 0 10 0 60
    obtain ⟨t, ht⟩ := haccepted.mpr ⟨⟨newYear, hnewYear⟩, by decide⟩
    obtain ⟨hwall, -, -, huniversal, -⟩ := hshows t ht
    refine ⟨t, ht, ((huniversal _).mp ?_).symm⟩
    rw [← Except.ok.inj (hnewYear.symm.trans hwall)]
    decide
  · rw [(hread 0xD0 0x07 1 1 0 10 0 1440).1]
    rintro ⟨-, -, hday⟩
    exact absurd hday (by decide)

end Latchkey
