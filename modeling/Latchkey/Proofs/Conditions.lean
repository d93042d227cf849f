import Latchkey.Proofs.Places
import Latchkey.Proofs.Writing
import Latchkey.Time.Reading

/-!
# State reports that are written and read

The common fields of a state report are read as they were written, whatever follows them. What follows decides by its
length alone whose report it is.
-/

namespace Latchkey

open Reader

private theorem Battery.ofByte_toByte (b : Battery) : ofByte b.toByte = b := by
  have hlevel := b.level.isLt
  have hcritical := b.critical.toNat_lt
  have hcharging := b.charging.toNat_lt
  have hbyte : b.toByte.toNat = b.critical.toNat + 2 * b.charging.toNat + 4 * b.level := by
    rw [toByte, UInt8.toNat_ofNat_of_lt']
    show _ < 256
    omega
  have hlow : b.toByte.toNat % 2 = b.critical.toNat := by omega
  have hmiddle : b.toByte.toNat / 2 % 2 = b.charging.toNat := by omega
  have hhigh : b.toByte.toNat / 4 = b.level := by omega
  ext
  · simp only [ofByte, hlow, Bool.toNat_eq_one, Bool.decide_eq_true]
  · simp only [ofByte, hmiddle, Bool.toNat_eq_one, Bool.decide_eq_true]
  · exact hhigh

namespace Stamp

variable {s : Stamp} {minutes : Int16}

private theorem localTime?_eq_some_iff {time : LocalTime} :
    s.localTime? minutes = some time ↔ s.moment? = some time.wall ∧ time.offset = 60 * minutes.toInt := by
  obtain ⟨wall, offset, hoffset⟩ := time
  rw [localTime?]
  cases hmoment : s.moment? with
  | none => exact ⟨nofun, nofun⟩
  | some shown =>
    rw [Option.bind_eq_bind, Option.bind_some]
    by_cases hday : (minutes.toInt * 60).natAbs < 86400
    · simp only [dif_pos hday, Option.some.injEq, LocalTime.mk.injEq, Int.mul_comm 60, eq_comm]
    · rw [dif_neg hday]
      refine ⟨nofun, fun h => ?_⟩
      have hsame : offset = 60 * minutes.toInt := h.2
      omega

private theorem localTime?_eq_none_iff :
    s.localTime? minutes = none ↔ s.moment? = none ∨ 1440 ≤ minutes.toInt.natAbs := by
  rw [Option.eq_none_iff_forall_ne_some]
  constructor
  · intro h
    cases hmoment : s.moment? with
    | none => exact .inl rfl
    | some wall =>
      refine .inr (Nat.not_lt.mp fun hminutes => ?_)
      exact h ⟨wall, 60 * minutes.toInt, by omega⟩ (localTime?_eq_some_iff.mpr ⟨hmoment, rfl⟩)
  · intro h time htime
    obtain ⟨hmoment, hoffset⟩ := localTime?_eq_some_iff.mp htime
    have hday := time.offset_lt
    rcases h with hnone | hminutes
    · rw [hnone] at hmoment
      contradiction
    · omega

theorem localTime_eq_ok_iff {time : LocalTime} :
    s.localTime minutes = .ok time ↔ s.moment? = some time.wall ∧ time.offset = 60 * minutes.toInt := by
  rw [← localTime?_eq_some_iff, localTime]
  cases s.localTime? minutes <;> simp

end Stamp

namespace StateReport

variable {r : StateReport}

private theorem time_eq_ok_iff {time : LocalTime} :
    r.time = .ok time ↔ r.stamp.moment? = some time.wall ∧ time.offset = 60 * r.offset.toInt :=
  Stamp.localTime_eq_ok_iff

private theorem time_of_unreadable (h : r.stamp.moment? = none ∨ 1440 ≤ r.offset.toInt.natAbs) :
    r.time = .error (.invalidTimestamp r.stamp) := by
  rw [StateReport.time, Stamp.localTime?_eq_none_iff.mpr h]

/-- The report with every code under its name. -/
def named (r : StateReport) : StateReport :=
  { r with
    operating := r.operating.named, lock := r.lock.named, trigger := r.trigger.named
    lastAction := r.lastAction.named, lastTrigger := r.lastTrigger.named
    lastCompletion := r.lastCompletion.named, door := r.door.named }

/-- Only codes without a name are left bare. -/
structure Proper (r : StateReport) : Prop where
  operating : r.operating.Proper
  lock : r.lock.Proper
  trigger : r.trigger.Proper
  lastAction : r.lastAction.Proper
  lastTrigger : r.lastTrigger.Proper
  lastCompletion : r.lastCompletion.Proper
  door : r.door.Proper

private theorem named_eq (h : r.Proper) : r.named = r := by
  have htrigger {trigger : ByteCode Trigger} (h : trigger.Proper) : trigger.named = trigger :=
    Coded.named_eq (fun word => by cases word <;> rfl) h
  rw [named, Coded.named_eq (fun word => by cases word <;> rfl) h.operating,
    Coded.named_eq (fun word => by cases word <;> rfl) h.lock, htrigger h.trigger,
    Coded.named_eq (fun word => by cases word <;> rfl) h.lastAction, htrigger h.lastTrigger,
    Coded.named_eq (fun word => by cases word <;> rfl) h.lastCompletion,
    Coded.named_eq (fun word => by cases word <;> rfl) h.door]

@[simp] theorem length_encodeCommon (r : StateReport) : r.encodeCommon.length = 19 := by simp [encodeCommon]

private theorem first?_fields (extras : Reader StateExtras) (tail : Bytes) :
    (fields extras).first? (r.encodeCommon ++ tail) =
      (extras.first? tail).map fun own => { r.named with extras := own } := by
  have hbattery := r.battery.ofByte_toByte
  rw [encodeCommon, List.append_assoc, List.append_assoc, List.append_assoc]
  refine ((restores_byte r.operating.code).before _).trans ?_
  refine ((restores_byte r.lock.code).before _).trans ?_
  refine ((restores_byte r.trigger.code).before _).trans ?_
  refine (r.stamp.restores_field.before _).trans ?_
  refine ((restores_int16 r.offset).before _).trans ?_
  refine ((restores_byte r.battery.toByte).before _).trans ?_
  refine ((restores_byte r.configUpdates).before _).trans ?_
  refine ((restores_byte r.timer).before _).trans ?_
  refine ((restores_byte r.lastAction.code).before _).trans ?_
  refine ((restores_byte r.lastTrigger.code).before _).trans ?_
  refine ((restores_byte r.lastCompletion.code).before _).trans ?_
  refine ((restores_byte r.door.code).before _).trans ?_
  rw [first?, first?, bind_run, hbattery]
  cases extras.run tail <;> rfl

private theorem first?_lockExtras (tail : Bytes) :
    ∃ own, lockExtras.first? tail = some (.lock own) ∧
      (own.nightMode = false ↔ ∀ b ∈ tail[0]?, b = 0) ∧
      (own.hasAccessory = false ↔ ∀ b ∈ tail[1]?, b.toNat.testBit 0 = false) ∧
      (own.accessoryCritical = false ↔ ∀ b ∈ tail[1]?, b.toNat.testBit 1 = false) := by
  match tail with
  | [] => exact ⟨⟨false, false, false⟩, rfl, by simp⟩
  | [night] => exact ⟨⟨night != 0, false, false⟩, rfl, by simp⟩
  | night :: accessory :: more =>
    refine ⟨⟨night != 0, accessory.toNat % 2 = 1, accessory.toNat / 2 % 2 = 1⟩, rfl, ?_, ?_, ?_⟩
    · simp
    · simp [Nat.testBit_zero]
    · simp [Nat.testBit_succ, Nat.testBit_zero]

section Families

variable (r : StateReport) {tail : Bytes}

/-- With three bytes more than the common ones it is the report of an opener, whatever they are. -/
theorem read_opener (hlong : 3 ≤ tail.length) :
    StateReport.read (.of (.known .keyturnerStates) (r.encodeCommon ++ tail)) =
      .ok { r.named with extras := .opener } := by
  have hlength : 22 ≤ (Command.of (.known .keyturnerStates) (r.encodeCommon ++ tail)).payload.length := by
    rw [Command.of, List.length_append, r.length_encodeCommon]
    omega
  rw [read_of_carries (Command.carries_of _ _), familyOf_eq, if_pos hlength]
  apply Command.readPayload_of_first?
  rw [first?_fields]
  rfl

private theorem read_lock (hshort : tail.length ≤ 2) {own : StateExtras} (hown : lockExtras.first? tail = some own) :
    StateReport.read (.of (.known .keyturnerStates) (r.encodeCommon ++ tail)) =
      .ok { r.named with extras := own } := by
  have hlength : (Command.of (.known .keyturnerStates) (r.encodeCommon ++ tail)).payload.length =
      19 + tail.length := by
    rw [Command.of, List.length_append, r.length_encodeCommon]
  rw [read_of_carries (Command.carries_of _ _), familyOf_eq, hlength, if_neg (by omega), if_pos (by omega)]
  apply Command.readPayload_of_first?
  rw [first?_fields, hown, Option.map_some]

end Families

end StateReport

/-- Whatever state is reported, with up to two bytes behind the common fields or with three or more, every field is
read as it was written, and found at its own place: codes under their names, and the time if the stamp names a moment
and the offset is less than a day. The length alone makes it the report of a lock or of an opener, and what a lock
reports beyond the common fields is false exactly if its byte is left out or says so. -/
theorem states_restored (r : StateReport) (tail : Bytes) :
    let payload := r.encodeCommon ++ tail
    ∃ report, StateReport.read (.of (.known .keyturnerStates) payload) = .ok report ∧
      StateReport.at? payload = some report ∧ report = { r.named with extras := report.extras } ∧
      (payload.length ≤ 21 → ∃ own, report.extras = .lock own ∧
        (own.nightMode = false ↔ ∀ b ∈ tail[0]?, b = 0) ∧
        (own.hasAccessory = false ↔ ∀ b ∈ tail[1]?, b.toNat.testBit 0 = false) ∧
        (own.accessoryCritical = false ↔ ∀ b ∈ tail[1]?, b.toNat.testBit 1 = false)) ∧
      (22 ≤ payload.length → report.extras = .opener) ∧
      report.battery.percent = 2 * r.battery.level ∧
      (∀ m : Moment, 0 ≤ m.year → m.year ≤ 65535 → r.stamp = .ofMoment m → r.offset.toInt.natAbs < 1440 →
        ∃ time, report.time = .ok time ∧ time.wall = m ∧ time.offset = 60 * r.offset.toInt) ∧
      (r.stamp.moment? = none ∨ 1440 ≤ r.offset.toInt.natAbs →
        report.time = .error (.invalidTimestamp r.stamp)) ∧
      (r.Proper → r.named = r) := by
  intro payload
  have hlength : payload.length = 19 + tail.length := by
    rw [List.length_append, r.length_encodeCommon]
  have hat {report : StateReport}
      (hread : StateReport.read (.of (.known .keyturnerStates) payload) = .ok report) :
      StateReport.at? payload = some report :=
    (StateReport.read_iff (.of (.known .keyturnerStates) payload)).2 report hread
  have htime (extras : StateExtras) (m : Moment) (hlow : 0 ≤ m.year) (hhigh : m.year ≤ 65535)
      (hstamp : r.stamp = .ofMoment m) (hoffset : r.offset.toInt.natAbs < 1440) :
      ∃ time, StateReport.time { r.named with extras } = .ok time ∧ time.wall = m ∧
        time.offset = 60 * r.offset.toInt := by
    have hmoment : r.stamp.moment? = some m := by rw [hstamp, Stamp.moment?_ofMoment hlow hhigh]
    exact ⟨⟨m, 60 * r.offset.toInt, by omega⟩, StateReport.time_eq_ok_iff.mpr ⟨hmoment, rfl⟩, rfl, rfl⟩
  rcases Nat.lt_or_ge 2 tail.length with hlong | hshort
  · have hread := r.read_opener hlong
    refine ⟨_, hread, hat hread, rfl, ?_, fun _ => rfl, rfl, htime .opener, ?_, StateReport.named_eq⟩
    · omega
    · exact StateReport.time_of_unreadable (r := { r.named with extras := .opener })
  · obtain ⟨own, hfirst, hown⟩ := StateReport.first?_lockExtras tail
    have hread := r.read_lock hshort hfirst
    refine ⟨_, hread, hat hread, rfl, fun _ => ⟨own, rfl, hown⟩, ?_, rfl, htime (.lock own), ?_,
      StateReport.named_eq⟩
    · omega
    · exact StateReport.time_of_unreadable (r := { r.named with extras := .lock own })

/-- The state of a lock on a summer's day, with the night mode on. -/
def StateReport.inSummer : StateReport where
  operating := .known .doorMode
  lock := .known .unlocked
  trigger := .known .manual
  stamp := .ofMoment ⟨2022, 6, 1, 12, 30, 45, by decide, by decide⟩
  offset := 120
  battery := ⟨false, true, 45⟩
  configUpdates := 7
  timer := 0
  lastAction := .known .unlock
  lastTrigger := .known .system
  lastCompletion := .known .complete
  door := .known .doorClosed
  extras := .lock ⟨true, false, false⟩

/-- With one byte behind the common fields it is the state of a lock, with three bytes that of an opener. A clock that
has never been set has no time to tell. -/
theorem states_restored_inSummer :
    let read (r : StateReport) (tail : Bytes) :=
      StateReport.read (.of (.known .keyturnerStates) (r.encodeCommon ++ tail))
    let unset : StateReport := { StateReport.inSummer with stamp := ⟨0, 0, 0, 0, 0, 0⟩ }
    (∃ report own, read .inSummer [1] = .ok report ∧ report = { StateReport.inSummer with extras := .lock own } ∧
        own.nightMode ≠ false ∧ own.hasAccessory = false ∧ report.battery.percent = 90 ∧
        ∃ time, report.time = .ok time ∧ time.offset = 7200) ∧
      (∃ report, read .inSummer [1, 3, 0] = .ok report ∧ report.extras = .opener) ∧
      ∃ report, read unset [] = .ok report ∧ report.time = .error (.invalidTimestamp ⟨0, 0, 0, 0, 0, 0⟩) := by
  intro read unset
  refine ⟨?_, ?_, ?_⟩
  · obtain ⟨report, hread, -, hreport, hlock, -, hpercent, htime, -, hnamed⟩ := states_restored .inSummer [1]
    obtain ⟨own, hown, hnight, haccessory, -⟩ := hlock (by decide)
    obtain ⟨time, htime, -, hoffset⟩ := htime _ (by decide) (by decide) rfl (by decide)
    rw [hnamed ⟨trivial, trivial, trivial, trivial, trivial, trivial, trivial⟩, hown] at hreport
    exact ⟨report, own, hread, hreport, hnight.not.mpr (by simp), haccessory.mpr (by simp), hpercent, time, htime,
      hoffset⟩
  · obtain ⟨report, hread, -, -, -, hopener, -⟩ := states_restored .inSummer [1, 3, 0]
    exact ⟨report, hread, hopener (by decide)⟩
  · obtain ⟨report, hread, -, -, -, -, -, -, htime, -⟩ := states_restored unset []
    exact ⟨report, hread, htime (.inl (by decide))⟩

end Latchkey
