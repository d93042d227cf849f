import Latchkey.Proofs.Places
import Latchkey.Proofs.Writing
import Latchkey.Request
import Latchkey.Time.Reading

/-!
# Times that are written and read

Of all strings of seven bytes, the stamps of moments are just those that name a day of the calendar and a time of day.
A moment whose year does not fit is written with the nearest year that does, in which all of its days exist but one.
-/

namespace Latchkey

open Reader

namespace Moment

variable {year : Int} {month day hour minute second : Nat}

theorem of?_eq_some_iff {m : Moment} : of? year month day hour minute second = some m ↔
    m.year = year ∧ m.month = month ∧ m.day = day ∧ m.hour = hour ∧ m.minute = minute ∧ m.second = second := by
  constructor
  · intro h
    rw [of?] at h
    split at h
    · split at h
      · cases h
        exact ⟨rfl, rfl, rfl, rfl, rfl, rfl⟩
      · contradiction
    · contradiction
  · rintro ⟨rfl, rfl, rfl, rfl, rfl, rfl⟩
    exact m.of?_self

private theorem exists_of?_iff : (∃ m, of? year month day hour minute second = some m) ↔
    IsDate year month day ∧ IsTimeOfDay hour minute second := by
  constructor
  · rintro ⟨m, h⟩
    obtain ⟨rfl, rfl, rfl, rfl, rfl, rfl⟩ := of?_eq_some_iff.mp h
    exact ⟨m.isDate, m.isTimeOfDay⟩
  · rintro ⟨hdate, htime⟩
    let m : Moment := ⟨year, month, day, hour, minute, second, hdate, htime⟩
    exact ⟨m, m.of?_self⟩

private theorem of?_eq_none_iff : of? year month day hour minute second = none ↔
    ¬ (IsDate year month day ∧ IsTimeOfDay hour minute second) := by
  rw [← exists_of?_iff, ← Option.isSome_iff_exists, Option.not_isSome_iff_eq_none]

end Moment

/-- The lengths of the months of a year, from January on. -/
def monthLengths (year : Nat) : List Nat :=
  [31, if year % 400 = 0 ∨ year % 4 = 0 ∧ year % 100 ≠ 0 then 29 else 28, 31, 30, 31, 30, 31, 31, 30, 31, 30, 31]

private theorem isLeapYear_natCast (year : Nat) :
    IsLeapYear year ↔ year % 400 = 0 ∨ year % 4 = 0 ∧ year % 100 ≠ 0 := by
  rw [IsLeapYear]
  omega

private theorem isDate_iff_monthLengths (year month day : Nat) :
    IsDate year month day ↔
      1 ≤ month ∧ ∃ length ∈ (monthLengths year)[month - 1]?, 1 ≤ day ∧ day ≤ length := by
  rw [IsDate]
  by_cases hmonth : 1 ≤ month ∧ month ≤ 12
  · obtain ⟨hfirst, hlast⟩ := hmonth
    have hlength : (monthLengths year)[month - 1]? = some (daysInMonth year month) := by
      simp only [daysInMonth, monthLengths, isLeapYear_natCast]
      interval_cases month <;> rfl
    rw [hlength]
    simp only [Option.mem_def, Option.some.injEq, exists_eq_left']
    omega
  · refine iff_of_false (fun h => hmonth ⟨h.1, h.2.1⟩) ?_
    rintro ⟨hfirst, length, hlength, -⟩
    have hlast : month - 1 < 12 := (List.getElem?_eq_some_iff.mp hlength).1
    omega

/-- A day of some year is also one of the nearest year that a stamp can hold, unless it is a leap day: of the years
that fit, the first is a leap year and the last is not. -/
theorem isDate_nearest_iff {year : Int} {month day : Nat} (h : IsDate year month day) :
    IsDate (max 0 (min year 65535)) month day ↔ ¬ (65535 < year ∧ month = 2 ∧ day = 29) := by
  obtain ⟨hfirst, hlast, hday, hdays⟩ := h
  have hiff {nearest : Int} : IsDate nearest month day ↔ day ≤ daysInMonth nearest month :=
    ⟨fun h => h.2.2.2, fun h => ⟨hfirst, hlast, hday, h⟩⟩
  rw [hiff]
  by_cases hmonth : month = 2
  · subst hmonth
    have hfebruary (year : Int) : daysInMonth year 2 = if IsLeapYear year then 29 else 28 := rfl
    rw [hfebruary] at hdays ⊢
    rcases Int.lt_or_le 65535 year with hlate | hfits
    · have hnearest : max 0 (min year 65535) = 65535 := by omega
      rw [hnearest, if_neg (by decide)]
      split at hdays <;> omega
    · rcases Int.lt_or_le year 0 with hearly | hlow
      · have hnearest : max 0 (min year 65535) = 0 := by omega
        rw [hnearest, if_pos (by decide)]
        split at hdays <;> omega
      · have hnearest : max 0 (min year 65535) = year := by omega
        rw [hnearest]
        omega
  · -- No other month depends on the year.
    have hsame : daysInMonth (max 0 (min year 65535)) month = daysInMonth year month := by
      rw [daysInMonth, daysInMonth, if_neg hmonth, if_neg hmonth]
    rw [hsame]
    exact iff_of_true hdays fun h => hmonth h.2.1

namespace Stamp

variable {s : Stamp}

private theorem moment?_eq_some_iff {m : Moment} :
    s.moment? = some m ↔ 0 ≤ m.year ∧ m.year ≤ 65535 ∧ ofMoment m = s := by
  constructor
  · intro h
    obtain ⟨hyear, hmonth, hday, hhour, hminute, hsecond⟩ := Moment.of?_eq_some_iff.mp h
    have hlt := s.year.toNat_lt
    have hfits : min m.year.toNat 65535 = s.year.toNat := by omega
    refine ⟨by omega, by omega, ?_⟩
    rw [ofMoment, hfits, hmonth, hday, hhour, hminute, hsecond]
    simp only [UInt16.ofNat_toNat, UInt8.ofNat_toNat]
  · rintro ⟨hlow, hhigh, rfl⟩
    exact moment?_ofMoment hlow hhigh

theorem time_eq_ok_iff {m : Moment} : s.time = .ok m ↔ s.moment? = some m := by
  rw [time]
  cases s.moment? <;> simp

theorem encode_mk (low high month day hour minute second : UInt8) :
    encode ⟨Bytes.toWord16 [low, high], month, day, hour, minute, second⟩ =
      [low, high, month, day, hour, minute, second] := by
  rw [encode, Bytes.ofWord16_toWord16 rfl]
  rfl

theorem read_encode (s : Stamp) : read s.encode = s.time := by
  rw [read, s.restores_field.first?]

private theorem encode_injective {t : Stamp} (h : s.encode = t.encode) : s = t := by
  have hs := s.restores_field.first?
  rw [h, t.restores_field.first?] at hs
  exact (Option.some.inj hs).symm

private theorem exists_encode {bytes : Bytes} (h : bytes.length = 7) : ∃ s : Stamp, s.encode = bytes := by
  match bytes, h with
  | [low, high, month, day, hour, minute, second], _ =>
    exact ⟨_, encode_mk low high month day hour minute second⟩

theorem at?_eq_some {start : Nat} {payload : Bytes} (h : at? start payload = some s) :
    payload.slice? start 7 = some s.encode := by
  rw [at?] at h
  obtain ⟨bytes, hslice, h⟩ := Option.bind_eq_some_iff.mp h
  obtain ⟨t, rfl⟩ := exists_encode (Bytes.length_of_slice? hslice)
  cases h
  rw [hslice]
  exact congrArg some (encode_mk ..).symm

end Stamp

private theorem LogEntry.time_of_read {c : Command} {e : LogEntry} (h : layout.read c = .ok e) :
    ∃ bytes ∈ c.payload.slice? 4 7, e.time = Stamp.read bytes := by
  have hat := (Layout.read_iff LogEntry.tells c).2 e h
  rw [LogEntry.at?] at hat
  obtain ⟨_, -, hat⟩ := Option.bind_eq_some_iff.mp hat
  obtain ⟨stamp, hstamp, hat⟩ := Option.bind_eq_some_iff.mp hat
  -- The four fields behind the stamp.
  iterate 4 obtain ⟨_, -, hat⟩ := Option.bind_eq_some_iff.mp hat
  cases hat
  refine ⟨stamp.encode, Stamp.at?_eq_some hstamp, ?_⟩
  rw [Stamp.read_encode]
  rfl

private theorem ConfigReport.time_of_read {c : Command} {r : ConfigReport} (h : ConfigReport.read c = .ok r) :
    ∃ bytes ∈ c.payload.slice? (if c.payload.length = 74 then 49 else 48) 7, r.time = Stamp.read bytes := by
  have hfields {places : Places} {own : Bytes → Option OwnSettings}
      (hat : fieldsAt? places own c.payload = some r) :
      ∃ bytes ∈ c.payload.slice? places.stamp 7, r.time = Stamp.read bytes := by
    rw [fieldsAt?] at hat
    -- The clock is the third of six groups, and the stamp the first of its fields.
    iterate 2 obtain ⟨_, -, hat⟩ := Option.bind_eq_some_iff.mp hat
    obtain ⟨clock, hclock, hat⟩ := Option.bind_eq_some_iff.mp hat
    iterate 3 obtain ⟨_, -, hat⟩ := Option.bind_eq_some_iff.mp hat
    cases hat
    rw [Clock.at?] at hclock
    obtain ⟨stamp, hstamp, hclock⟩ := Option.bind_eq_some_iff.mp hclock
    iterate 6 obtain ⟨_, -, hclock⟩ := Option.bind_eq_some_iff.mp hclock
    cases hclock
    refine ⟨stamp.encode, Stamp.at?_eq_some hstamp, ?_⟩
    rw [Stamp.read_encode]
    rfl
  have hat := (ConfigReport.read_iff c).2 r h
  rw [ConfigReport.at?] at hat
  split at hat
  · rename_i hlock
    rw [if_pos (by exact hlock)]
    exact hfields hat
  · rename_i hlock
    rw [if_neg (by exact hlock)]
    split at hat
    · exact hfields hat
    · contradiction

/-- Whatever moment is written into a stamp is read from it, and of all strings of seven bytes just those are read
that have been written so: their day is one of a month of the calendar, and their time of day exists as well. Any
other seven bytes are an error that keeps their six numbers. This is how log entries and settings tell their time. -/
theorem Stamp.read_exactly_written :
    (∀ m : Moment, 0 ≤ m.year → m.year ≤ 65535 → read (ofMoment m).encode = .ok m) ∧
      (∀ low high month day hour minute second : UInt8,
        let bytes := [low, high, month, day, hour, minute, second]
        let year := low.toNat + 256 * high.toNat
        ((∃ m, read bytes = .ok m) ↔
            ∃ m : Moment, 0 ≤ m.year ∧ m.year ≤ 65535 ∧ (ofMoment m).encode = bytes) ∧
          (∀ m, read bytes = .ok m → (ofMoment m).encode = bytes) ∧
          ((∃ m, read bytes = .ok m) ↔
            (1 ≤ month.toNat ∧ ∃ length ∈ (monthLengths year)[month.toNat - 1]?,
                1 ≤ day.toNat ∧ day.toNat ≤ length) ∧
              hour.toNat < 24 ∧ minute.toNat < 60 ∧ second.toNat < 60) ∧
          ((∃ m, read bytes = .ok m) ∨
            read bytes = .error (.invalidTimestamp ⟨UInt16.ofNat year, month, day, hour, minute, second⟩))) ∧
      (∀ c e, LogEntry.layout.read c = .ok e → ∃ bytes ∈ c.payload.slice? 4 7, e.time = read bytes) ∧
      ∀ c r, ConfigReport.read c = .ok r →
        ∃ bytes ∈ c.payload.slice? (if c.payload.length = 74 then 49 else 48) 7, r.time = read bytes := by
  refine ⟨fun m hlow hhigh => ?_, fun low high month day hour minute second => ?_, fun c e => LogEntry.time_of_read,
    fun c r => ConfigReport.time_of_read⟩
  · rw [read_encode, time_eq_ok_iff]
    exact moment?_ofMoment hlow hhigh
  intro bytes year
  let s : Stamp := ⟨Bytes.toWord16 [low, high], month, day, hour, minute, second⟩
  have hbytes : bytes = s.encode := (encode_mk low high month day hour minute second).symm
  have hyear : s.year.toNat = year := Bytes.toNat_toWord16_pair low high
  have hread (m : Moment) : read bytes = .ok m ↔ s.moment? = some m := by
    rw [hbytes, read_encode, time_eq_ok_iff]
  have hwritten {m : Moment} (h : read bytes = .ok m) :
      0 ≤ m.year ∧ m.year ≤ 65535 ∧ (ofMoment m).encode = bytes := by
    obtain ⟨hlow, hhigh, hs⟩ := moment?_eq_some_iff.mp ((hread m).mp h)
    exact ⟨hlow, hhigh, by rw [hs, hbytes]⟩
  refine ⟨⟨fun ⟨m, h⟩ => ⟨m, hwritten h⟩, ?_⟩, fun m h => (hwritten h).2.2, ?_, ?_⟩
  · rintro ⟨m, hlow, hhigh, hencode⟩
    refine ⟨m, (hread m).mpr (moment?_eq_some_iff.mpr ⟨hlow, hhigh, encode_injective ?_⟩)⟩
    rw [hencode, hbytes]
  · rw [← hyear, ← isDate_iff_monthLengths, ← IsTimeOfDay, ← Moment.exists_of?_iff]
    exact exists_congr hread
  · rw [hbytes, read_encode, time]
    cases s.moment? with
    | some m => exact .inl ⟨m, rfl⟩
    | none => exact .inr rfl

/-- The last moment that fits is read, and 29 February 1900 is not. -/
theorem Stamp.read_exactly_written_last :
    let last : Moment := ⟨65535, 12, 31, 23, 59, 59, by decide, by decide⟩
    read (ofMoment last).encode = .ok last ∧ ¬ ∃ m, read [0x6C, 0x07, 2, 29, 0, 0, 0] = .ok m := by
  intro last
  obtain ⟨hwritten, hread, -, -⟩ := read_exactly_written
  refine ⟨hwritten last (by decide) (by decide), ?_⟩
  rw [(hread 0x6C 0x07 2 29 0 0 0).2.2.1]
  decide

/-- The time that a clock is set to is read from the request as it was asked for, in the nearest year that a stamp
can hold. Only the leap day of a year that is too late names no day there and is refused. -/
theorem Request.updateTime_nearest (m : Moment) (pin : Pin) (challenge : Bytes) :
    let bytes := (updateTime m pin challenge).command.payload.take 7
    let leapDay := 65535 < m.year ∧ m.month = 2 ∧ m.day = 29
    (¬ leapDay → ∃ sent, Stamp.read bytes = .ok sent ∧ sent.year = max 0 (min m.year 65535) ∧
        sent.month = m.month ∧ sent.day = m.day ∧
        sent.hour = m.hour ∧ sent.minute = m.minute ∧ sent.second = m.second) ∧
      (leapDay → Stamp.read bytes = .error (.invalidTimestamp
        ⟨65535, 2, 29, UInt8.ofNat m.hour, UInt8.ofNat m.minute, UInt8.ofNat m.second⟩)) := by
  intro bytes leapDay
  have hbytes : bytes = (Stamp.ofMoment m).encode := by
    show ((Stamp.ofMoment m).encode ++ challenge ++ pin.encode).take 7 = _
    rw [List.append_assoc]
    exact List.take_left' (Stamp.length_encode _)
  have hnearest := isDate_nearest_iff m.isDate
  rw [hbytes, Stamp.read_encode]
  refine ⟨fun hother => ?_, fun hleap => ?_⟩
  · obtain ⟨sent, hsent⟩ := Moment.exists_of?_iff.mpr ⟨hnearest.mpr hother, m.isTimeOfDay⟩
    refine ⟨sent, Stamp.time_eq_ok_iff.mpr ?_, Moment.of?_eq_some_iff.mp hsent⟩
    rw [Stamp.moment?_ofMoment_eq, hsent]
  · have hnone : (Stamp.ofMoment m).moment? = none := by
      rw [Stamp.moment?_ofMoment_eq, Moment.of?_eq_none_iff]
      exact fun h => hnearest.mp h.1 hleap
    obtain ⟨hlate, hmonth, hday⟩ := hleap
    have hyear : min m.year.toNat 65535 = 65535 := by omega
    rw [Stamp.time, hnone, Stamp.ofMoment, hyear, hmonth, hday]
    rfl

/-- A leap day before the years that fit, and one behind them. -/
theorem Request.updateTime_nearest_leapDays :
    let early : Moment := ⟨-4, 2, 29, 6, 7, 8, by decide, by decide⟩
    let late : Moment := ⟨65536, 2, 29, 6, 7, 8, by decide, by decide⟩
    let sent (m : Moment) := Stamp.read ((updateTime m ⟨1234⟩ (List.replicate 32 0)).command.payload.take 7)
    (∃ m, sent early = .ok m ∧ m.year = 0 ∧ m.month = 2 ∧ m.day = 29) ∧
      sent late = .error (.invalidTimestamp ⟨65535, 2, 29, 6, 7, 8⟩) := by
  intro early late sent
  obtain ⟨hother, -⟩ := updateTime_nearest early ⟨1234⟩ (List.replicate 32 0)
  obtain ⟨-, hleap⟩ := updateTime_nearest late ⟨1234⟩ (List.replicate 32 0)
  obtain ⟨m, hread, hyear, hmonth, hday, -⟩ := hother (by decide)
  exact ⟨⟨m, hread, hyear, hmonth, hday⟩, hleap (by decide)⟩

/-- The first leap day that is too late is sent as a day that does not exist. -/
theorem Request.updateTime_impossible :
    let m : Moment := ⟨65536, 2, 29, 0, 0, 0, by decide, by decide⟩
    ¬ ∃ sent, Stamp.read ((updateTime m ⟨0⟩ (List.replicate 32 0)).command.payload.take 7) = .ok sent := by
  rintro m ⟨sent, hread⟩
  have hrefused : Stamp.read ((updateTime m ⟨0⟩ (List.replicate 32 0)).command.payload.take 7) =
      .error (.invalidTimestamp ⟨65535, 2, 29, 0, 0, 0⟩) := by decide
  rw [hrefused] at hread
  cases hread

end Latchkey
