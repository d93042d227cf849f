import Latchkey.Proofs.Stamps

/-!
# Log entries that are written and read

The details of a log entry are spelled differently for each kind of entry. Those that are too short, and those of a
kind without details, are kept as they came, so nothing is lost.
-/

namespace Latchkey

open Reader

private theorem Coded.code_of_unknown {ω α : Type} [Vocabulary ω α] [DecidableEq ω] {code bare : ω}
    (h : (Coded.ofCode code : Coded ω α) = .unknown bare) :
    ∀ value ∈ (Vocabulary.words : List α), Vocabulary.code value ≠ code := by
  rw [ofCode] at h
  split at h
  · contradiction
  · rename_i hnone
    exact fun value hvalue => of_decide_eq_false (by simpa using List.find?_eq_none.mp hnone value hvalue)

namespace LogDetail

/-- The least length of the details of an entry, for the kinds of entries that have details of their own. -/
def least? (kind : UInt8) : Option Nat :=
  if kind = 1 ∨ kind = 6 ∨ kind = 7 then some 1
  else if kind = 2 ∨ kind = 3 ∨ kind = 4 then some 4
  else if kind = 5 then some 5
  else none

/-- What the details of an entry of some kind say, byte by byte. -/
inductive Spelled : UInt8 → Bytes → LogDetail → Prop
  /-- Logging is on at one. -/
  | logging (b : UInt8) (more : Bytes) : Spelled 1 (b :: more) (.logging (b = 1))
  /-- Locking, calibration and the first run. -/
  | lockAction {kind : UInt8} (hkind : kind = 2 ∨ kind = 3 ∨ kind = 4) (action trigger flags completion : UInt8)
    (more : Bytes) : Spelled kind (action :: trigger :: flags :: completion :: more)
      (.lockAction (Coded.ofCode action) (Coded.ofCode trigger) flags completion)
  | keypadAction (action source completion low high : UInt8) (more : Bytes) (keypadCode : UInt16)
    (hcode : keypadCode.toNat = low.toNat + 256 * high.toNat) :
    Spelled 5 (action :: source :: completion :: low :: high :: more)
      (.keypadAction (Coded.ofCode action) source completion keypadCode)
  | doorSensor (event : UInt8) (more : Bytes) : Spelled 6 (event :: more) (.doorSensor event)
  /-- Logging of the door sensor is on at zero. -/
  | doorSensorLogging (b : UInt8) (more : Bytes) : Spelled 7 (b :: more) (.doorSensorLogging (b = 0))
  /-- Whatever else there is, or too little of it. -/
  | other {kind : UInt8} {bytes : Bytes} (hshort : ∀ least ∈ least? kind, bytes.length < least) :
    Spelled kind bytes (.other bytes)

variable {kind : UInt8} {bytes : Bytes} {d : LogDetail}

private theorem least?_of_unknown {bare : UInt8} (h : (Coded.ofCode kind : ByteCode LogKind) = .unknown bare) :
    least? kind = none := by
  have hcodes := Coded.code_of_unknown h
  have hne (value : LogKind) : kind ≠ Vocabulary.code value := (hcodes value (by cases value <;> decide)).symm
  rw [least?, if_neg, if_neg, if_neg]
  · exact hne .keypadAction
  · exact not_or.mpr ⟨hne .lockAction, not_or.mpr ⟨hne .calibration, hne .initializationRun⟩⟩
  · exact not_or.mpr
      ⟨hne .loggingEnabledDisabled, not_or.mpr ⟨hne .doorSensor, hne .doorSensorLoggingEnabledDisabled⟩⟩

private theorem Spelled.short {least : Nat} (hleast : least? kind = some least) (hshort : bytes.length < least) :
    Spelled kind bytes (.other bytes) := by
  refine .other fun n hn => ?_
  rw [hleast] at hn
  cases hn
  exact hshort

private theorem spelled_ofBytes (kind : UInt8) (bytes : Bytes) :
    Spelled kind bytes (ofBytes (Coded.ofCode kind) bytes) := by
  cases hkind : (Coded.ofCode kind : ByteCode LogKind) with
  | unknown bare =>
    refine .other fun least hleast => ?_
    rw [least?_of_unknown hkind] at hleast
    contradiction
  | known value =>
    obtain rfl := Coded.code_of_known hkind
    -- The kind is one of seven now; what is left to tell apart is how many bytes there are.
    cases value with
    | loggingEnabledDisabled =>
      match bytes with
      | [] => exact .short rfl (by simp)
      | b :: more => exact .logging b more
    | doorSensor =>
      match bytes with
      | [] => exact .short rfl (by simp)
      | event :: more => exact .doorSensor event more
    | doorSensorLoggingEnabledDisabled =>
      match bytes with
      | [] => exact .short rfl (by simp)
      | b :: more => exact .doorSensorLogging b more
    | keypadAction =>
      match bytes with
      | [] | [_] | [_, _] | [_, _, _] | [_, _, _, _] => exact .short rfl (by simp)
      | action :: source :: completion :: low :: high :: more =>
        exact .keypadAction action source completion low high more _ (Bytes.toNat_toWord16_pair low high)
    | lockAction | calibration | initializationRun =>
      match bytes with
      | [] | [_] | [_, _] | [_, _, _] => exact .short rfl (by simp)
      | action :: trigger :: flags :: completion :: more =>
        exact .lockAction (by decide) action trigger flags completion more

/-- Details that are kept as bytes are those that are too short for their kind, or of a kind that has none. -/
theorem Spelled.other_iff (h : Spelled kind bytes d) :
    d = .other bytes ↔ ∀ least ∈ least? kind, bytes.length < least := by
  have htyped {least : Nat} (hleast : least? kind = some least) (hlong : least ≤ bytes.length)
      (hd : d ≠ .other bytes) : d = .other bytes ↔ ∀ least ∈ least? kind, bytes.length < least :=
    iff_of_false hd fun hshort => absurd (hshort least hleast) (Nat.not_lt.mpr hlong)
  cases h with
  | logging => exact htyped rfl (by simp) nofun
  | lockAction hkind =>
    have hleast : least? kind = some 4 := by
      rcases hkind with rfl | rfl | rfl <;> rfl
    exact htyped hleast (by simp) nofun
  | keypadAction => exact htyped rfl (by simp) nofun
  | doorSensor => exact htyped rfl (by simp) nofun
  | doorSensorLogging => exact htyped rfl (by simp) nofun
  | other hshort => exact iff_of_true rfl hshort

/-- Details are read just as they are spelled. -/
theorem spelled_iff : Spelled kind bytes d ↔ d = ofBytes (Coded.ofCode kind) bytes := by
  refine ⟨fun h => ?_, fun h => h ▸ spelled_ofBytes kind bytes⟩
  cases h with
  | logging => rfl
  | lockAction hkind =>
    rcases hkind with rfl | rfl | rfl <;> rfl
  | keypadAction action source completion low high more keypadCode hcode =>
    have hword : keypadCode = Bytes.toWord16 [low, high] :=
      UInt16.toNat_inj.mp (hcode.trans (Bytes.toNat_toWord16_pair low high).symm)
    rw [hword]
    rfl
  | doorSensor => rfl
  | doorSensorLogging => rfl
  | other hshort => exact ((spelled_ofBytes kind bytes).other_iff.mpr hshort).symm

end LogDetail

namespace LogEntry

variable {name : String}

private theorem read_encode (hzero : '\x00' ∉ name.toList) (hfits : (Utf8.ofString name).length ≤ 32) (index : UInt32)
    (stamp : Stamp) (authorization : UInt32) (kind : UInt8) (detail : Bytes) :
    layout.read (.of (.known .logEntry) (encode index stamp authorization name kind detail)) =
      .ok ⟨index, stamp, authorization, name, Coded.ofCode kind, LogDetail.ofBytes (Coded.ofCode kind) detail⟩ := by
  have hlong : ¬ (encode index stamp authorization name kind detail).length < 48 := by
    simp only [encode, List.length_append, List.length_cons, Bytes.length_ofWord32, Stamp.length_encode,
      Padded.length_encode]
    omega
  rw [Layout.read_of_carries layout (Command.carries_of (.known .logEntry) _), if_neg (by exact hlong)]
  apply Command.readPayload_of_first?
  rw [encode, List.append_assoc, List.append_assoc, List.append_assoc]
  refine ((restores_word32 index).before _).trans ?_
  refine (stamp.restores_field.before _).trans ?_
  refine ((restores_word32 authorization).before _).trans ?_
  refine ((Padded.restores_field hzero hfits).before _).trans ?_
  exact (restores_byte kind).before _

end LogEntry

/-- From the payload of a log entry whose name fits into its field and has no zero character and whose time has a year
that fits, just the entry is read that has been written, each field being found at its own place. Its details are
spelled by the bytes behind, whatever these are, and in one way only; they are kept as bytes exactly if they are too
short for the kind of entry, or if that has no details of its own. -/
theorem logEntry_restored {name : String} (hzero : '\x00' ∉ name.toList)
    (hfits : (Utf8.ofString name).length ≤ 32) {m : Moment} (hlow : 0 ≤ m.year) (hhigh : m.year ≤ 65535)
    (index authorization : UInt32) (kind : UInt8) (detail : Bytes) :
    let payload := LogEntry.encode index (Stamp.ofMoment m) authorization name kind detail
    ∃ e, LogEntry.layout.read (.of (.known .logEntry) payload) = .ok e ∧ LogEntry.at? payload = some e ∧
      e.index = index ∧ e.time = .ok m ∧ e.authorization = authorization ∧ e.name = name ∧
      e.kind = Coded.ofCode kind ∧ e.kind.code = kind ∧
      (∀ d, LogDetail.Spelled kind detail d ↔ d = e.detail) ∧
      (e.detail = .other detail ↔ ∀ least ∈ LogDetail.least? kind, detail.length < least) := by
  intro payload
  have hread := LogEntry.read_encode hzero hfits index (Stamp.ofMoment m) authorization kind detail
  have hat := (Layout.read_iff LogEntry.tells (.of (.known .logEntry) payload)).2 _ hread
  refine ⟨_, hread, hat, rfl, ?_, rfl, rfl, rfl, Coded.code_ofCode kind, fun d => LogDetail.spelled_iff, ?_⟩
  · exact Stamp.time_eq_ok_iff.mpr (Stamp.moment?_ofMoment hlow hhigh)
  · exact (LogDetail.spelled_ofBytes kind detail).other_iff

/-- An unlocking at a keypad with a byte to spare, and one that lacks a byte. -/
theorem logEntry_restored_keypad :
    let m : Moment := ⟨2024, 2, 29, 23, 59, 59, by decide, by decide⟩
    let read (detail : Bytes) := LogEntry.layout.read (.of (.known .logEntry)
      (LogEntry.encode 42 (Stamp.ofMoment m) 9 "Zoë" 5 detail))
    (∃ e, read [1, 2, 0, 0x34, 0x12, 0xFF] = .ok e ∧ e.time = .ok m ∧ e.name = "Zoë" ∧
        e.detail = .keypadAction (.known .unlock) 2 0 0x1234) ∧
      ∃ e, read [1, 2, 0, 0x34] = .ok e ∧ e.detail = .other [1, 2, 0, 0x34] := by
  intro m read
  refine ⟨?_, ?_⟩
  · obtain ⟨e, hread, -, -, htime, -, hname, -, -, hspelled, -⟩ :=
      logEntry_restored (show '\x00' ∉ "Zoë".toList by decide) (by decide) (m := m) (by decide) (by decide) 42 9 5
        [1, 2, 0, 0x34, 0x12, 0xFF]
    exact ⟨e, hread, htime, hname, ((hspelled _).mp (.keypadAction 1 2 0 0x34 0x12 [0xFF] 0x1234 rfl)).symm⟩
  · obtain ⟨e, hread, -, -, -, -, -, -, -, -, hother⟩ :=
      logEntry_restored (show '\x00' ∉ "Zoë".toList by decide) (by decide) (m := m) (by decide) (by decide) 42 9 5
        [1, 2, 0, 0x34]
    exact ⟨e, hread, hother.mpr (by decide)⟩

end Latchkey
