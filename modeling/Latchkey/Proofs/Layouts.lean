import Latchkey.Proofs.Replies
import Latchkey.Report.Places

/-!
# Reading layouts

A report that is read field by field is the one whose fields are looked up at their places. So it is the length of
a payload that decides whether it can be read, and of a state report also which family it is read for; and no
lookup goes beyond a payload that has been read.
-/

namespace Latchkey

namespace Reader

variable {α β : Type} {need start middle stop : Nat} {field : Reader α} {next : α → Reader β}
  {place : Bytes → Option α} {nextPlace : α → Bytes → Option β}

/-- In every payload with so many bytes, the field from one place to the other is what the lookup finds. -/
def Lies (need start stop : Nat) (field : Reader α) (place : Bytes → Option α) : Prop :=
  ∀ payload : Bytes, need ≤ payload.length →
    ∃ a, place payload = some a ∧ field.run (payload.drop start) = some (a, payload.drop stop)

theorem lies_pure (need start : Nat) (a : α) : Lies need start start (pure a) fun _ => pure a :=
  fun _ _ => ⟨a, rfl, rfl⟩

theorem Lies.bind (h : Lies need start middle field place)
    (hnext : ∀ a, Lies need middle stop (next a) (nextPlace a)) :
    Lies need start stop (field >>= next) fun payload => place payload >>= fun a => nextPlace a payload := by
  intro payload hlong
  obtain ⟨a, hplace, hfield⟩ := h payload hlong
  obtain ⟨b, hplace', hnext⟩ := hnext a payload hlong
  refine ⟨b, ?_, ?_⟩
  · show (place payload).bind (fun a => nextPlace a payload) = some b
    rw [hplace]
    exact hplace'
  · rw [bind_run, hfield]
    exact hnext

theorem lies_byte (h : start < need) : Lies need start (start + 1) byte fun payload => payload[start]? := by
  intro payload hlong
  have hstart : start < payload.length := Nat.lt_of_lt_of_le h hlong
  refine ⟨payload[start], List.getElem?_eq_getElem hstart, ?_⟩
  rw [List.drop_eq_getElem_cons hstart, byte_cons]

theorem lies_take {width : Nat} (h : start + width ≤ need) :
    Lies need start (start + width) (take width) (Bytes.slice? start width) := by
  intro payload hlong
  have hwidth : start + width ≤ payload.length := Nat.le_trans h hlong
  refine ⟨(payload.drop start).take width, Bytes.slice?_eq hwidth, take_eq_some_iff.mpr ⟨?_, ?_⟩⟩
  · rw [← List.drop_drop, List.take_append_drop]
  · rw [List.length_take, List.length_drop]
    omega

theorem lies_flag (h : start < need) : Lies need start (start + 1) flag (Bytes.flagAt? start) :=
  (lies_byte h).bind fun b => lies_pure need (start + 1) (b != 0)

private theorem take_zero : take 0 = pure [] := by
  funext bytes
  rw [take, if_pos (Nat.zero_le _), List.splitAt_eq]
  rfl

private theorem take_succ (width : Nat) : take (width + 1) = do return (← byte) :: (← take width) := by
  funext bytes
  cases bytes with
  | nil => rfl
  | cons b bytes =>
    have hrun : (byte >>= fun b => take width >>= fun rest => pure (b :: rest)) (b :: bytes) =
        (take width bytes).bind fun p => some (b :: p.1, p.2) := rfl
    rw [hrun, take, take, List.length_cons]
    by_cases hlong : width ≤ bytes.length
    · simp [hlong, List.splitAt_eq]
    · simp [hlong]

private theorem word16_eq : word16 = do return Bytes.toWord16 [← byte, ← byte] := by
  simp only [word16, take_succ, take_zero, bind_assoc, pure_bind]

private theorem word32_eq : word32 = do return Bytes.toWord32 [← byte, ← byte, ← byte, ← byte] := by
  simp only [word32, take_succ, take_zero, bind_assoc, pure_bind]

theorem lies_word16 (h : start + 2 ≤ need) : Lies need start (start + 2) word16 (Bytes.word16At? start) := by
  rw [word16_eq]
  refine (lies_byte (by omega)).bind fun low => ?_
  refine (lies_byte (by omega)).bind fun high => ?_
  exact lies_pure _ _ _

theorem lies_word32 (h : start + 4 ≤ need) : Lies need start (start + 4) word32 (Bytes.word32At? start) := by
  rw [word32_eq]
  refine (lies_byte (by omega)).bind fun _ => ?_
  refine (lies_byte (by omega)).bind fun _ => ?_
  refine (lies_byte (by omega)).bind fun _ => ?_
  refine (lies_byte (by omega)).bind fun _ => ?_
  exact lies_pure _ _ _

theorem lies_int16 (h : start + 2 ≤ need) : Lies need start (start + 2) int16 (Bytes.int16At? start) :=
  (lies_word16 h).bind fun _ => lies_pure _ _ _

private theorem lies_lateByte (need start : Nat) :
    Lies need start (start + 1) lateByte (Bytes.lateByteAt? start) := by
  intro payload _
  refine ⟨payload[start]?.getD 0, rfl, ?_⟩
  rw [← List.head?_drop, ← List.drop_drop]
  cases payload.drop start with
  | nil => rfl
  | cons b rest => rfl

/-- In every payload with so many bytes, what is read from this place on is what the lookup finds. -/
def Tells (need start : Nat) (field : Reader α) (place : Bytes → Option α) : Prop :=
  ∀ payload : Bytes, need ≤ payload.length →
    ∃ a, place payload = some a ∧ field.first? (payload.drop start) = some a

private theorem Lies.tells (h : Lies need start stop field place) : Tells need start field place := by
  intro payload hlong
  obtain ⟨a, hplace, hfield⟩ := h payload hlong
  refine ⟨a, hplace, ?_⟩
  rw [first?, hfield, Option.map_some]

private theorem Lies.before (h : Lies need start middle field place)
    (hnext : ∀ a, Tells need middle (next a) (nextPlace a)) :
    Tells need start (field >>= next) fun payload => place payload >>= fun a => nextPlace a payload := by
  intro payload hlong
  obtain ⟨a, hplace, hfield⟩ := h payload hlong
  obtain ⟨b, hplace', hnext⟩ := hnext a payload hlong
  refine ⟨b, ?_, ?_⟩
  · show (place payload).bind (fun a => nextPlace a payload) = some b
    rw [hplace]
    exact hplace'
  · rw [first?, bind_run, hfield]
    exact hnext

private theorem tells_rest (h : start ≤ need) (make : Bytes → α) :
    Tells need start (rest >>= fun bytes => pure (make bytes))
      fun payload => payload.slice? start (payload.length - start) >>= fun bytes => pure (make bytes) := by
  intro payload hlong
  have hback : payload.slice? start (payload.length - start) = some (payload.drop start) :=
    Bytes.slice?_back (by omega)
  refine ⟨make (payload.drop start), ?_, rfl⟩
  show (payload.slice? start (payload.length - start)).bind (fun bytes => pure (make bytes)) = _
  rw [hback]
  rfl

end Reader

open Reader

theorem Stamp.lies_field {need start : Nat} (h : start + 7 ≤ need) :
    Lies need start (start + 7) field (at? start) := by
  intro payload hlong
  obtain ⟨bytes, hslice, htake⟩ := lies_take h payload hlong
  obtain ⟨hpayload, hlength⟩ := take_eq_some_iff.mp htake
  match bytes, hlength with
  | [low, high, month, day, hour, minute, second], _ =>
    refine ⟨⟨Bytes.toWord16 [low, high], month, day, hour, minute, second⟩, ?_, ?_⟩
    · rw [at?, hslice]
      rfl
    · rw [hpayload, field, word16_eq]
      rfl

theorem Padded.lies_field {need start width : Nat} (h : start + width ≤ need) :
    Lies need start (start + width) (field width) (at? start width) :=
  (lies_take h).bind fun bytes => lies_pure need (start + width) (decode bytes)

theorem tells_publicKey : Tells 32 0 publicKeyReport.fields publicKeyAt? := by
  intro payload hlong
  have htake : (payload.take 32).length = 32 := List.length_take_of_le hlong
  refine ⟨⟨payload.take 32, htake⟩, ?_, ?_⟩
  · rw [publicKeyAt?, Bytes.slice?_front hlong]
    exact dif_pos htake
  · rw [first?, List.drop_zero, StateT.run, publicKeyReport]
    dsimp only
    rw [dif_pos htake, Option.map_some]

theorem tells_challenge : Tells 32 0 challengeReport.fields challengeAt? := fun payload _ => ⟨payload, rfl, rfl⟩

theorem tells_status : Tells 1 0 statusReport.fields statusAt? := by
  have h : Lies 1 0 1 (byte >>= fun code => pure (Coded.ofCode code)) statusAt? :=
    (lies_byte (by decide)).bind fun code => lies_pure 1 1 (Coded.ofCode code)
  rw [statusReport, map_eq_pure_bind]
  exact h.tells

theorem AuthorizationReport.tells : Tells 52 0 authorizationReport.fields AuthorizationReport.at? := by
  refine (lies_take (by decide)).before fun authenticator => ?_
  refine (lies_word32 (by decide)).before fun authorization => ?_
  refine (lies_take (by decide)).before fun uuid => ?_
  exact tells_rest (by decide) _

theorem FaultReport.tells : Tells 1 0 faultReport.fields FaultReport.at? := by
  intro payload hlong
  match payload with
  | [code] | [code, _] => exact ⟨⟨code, none⟩, rfl, rfl⟩
  | code :: low :: high :: rest =>
    have hcommand : word16.first? (low :: high :: rest) = some (Bytes.toWord16 [low, high]) := by
      rw [word16_eq]
      rfl
    have hlong : 3 ≤ (code :: low :: high :: rest).length := Nat.le_add_left 3 rest.length
    let report : FaultReport := ⟨code, some (Coded.ofCode (Bytes.toWord16 [low, high]))⟩
    have hat : FaultReport.at? (code :: low :: high :: rest) =
        if 3 ≤ (code :: low :: high :: rest).length then some report else some ⟨code, none⟩ := rfl
    refine ⟨report, ?_, ?_⟩
    · rw [hat, if_pos hlong]
    · show some (FaultReport.mk code ((word16.first? (low :: high :: rest)).map Coded.ofCode)) = some report
      rw [hcommand, Option.map_some]

theorem LogCount.tells : Tells 3 0 LogCount.layout.fields LogCount.at? := by
  refine (lies_flag (by decide)).before fun logging => ?_
  refine (lies_word16 (by decide)).before fun count => ?_
  refine (lies_lateByte 3 3).before fun doorSensor => ?_
  refine (lies_lateByte 3 4).before fun doorSensorLogging => ?_
  exact (lies_pure 3 5 _).tells

theorem LogEntry.tells : Tells 48 0 LogEntry.layout.fields LogEntry.at? := by
  refine (lies_word32 (by decide)).before fun index => ?_
  refine (Stamp.lies_field (by decide)).before fun stamp => ?_
  refine (lies_word32 (by decide)).before fun authorization => ?_
  refine (Padded.lies_field (by decide)).before fun name => ?_
  refine (lies_byte (by decide)).before fun kind => ?_
  exact tells_rest (by decide) _

namespace StateReport

private theorem lies_lockExtras : Lies 19 19 21 lockExtras lockExtrasAt? := by
  refine (lies_lateByte 19 19).bind fun nightMode => ?_
  refine (lies_lateByte 19 20).bind fun accessory => ?_
  exact lies_pure 19 21 _

private theorem tells_fields {stop : Nat} {extras : Reader StateExtras} {extrasAt? : Bytes → Option StateExtras}
    (h : Lies 19 19 stop extras extrasAt?) : Tells 19 0 (fields extras) (fieldsAt? extrasAt?) := by
  refine (lies_byte (by decide)).before fun operating => ?_
  refine (lies_byte (by decide)).before fun lock => ?_
  refine (lies_byte (by decide)).before fun trigger => ?_
  refine (Stamp.lies_field (by decide)).before fun stamp => ?_
  refine (lies_int16 (by decide)).before fun offset => ?_
  refine (lies_byte (by decide)).before fun battery => ?_
  refine (lies_byte (by decide)).before fun configUpdates => ?_
  refine (lies_byte (by decide)).before fun timer => ?_
  refine (lies_byte (by decide)).before fun lastAction => ?_
  refine (lies_byte (by decide)).before fun lastTrigger => ?_
  refine (lies_byte (by decide)).before fun lastCompletion => ?_
  refine (lies_byte (by decide)).before fun door => ?_
  refine h.before fun extras => ?_
  exact (lies_pure 19 stop _).tells

end StateReport

section Commands

variable {α : Type} {c : Command}

theorem Command.read_iff {read : Except WireError α} {accepted : Prop} {place : Option α}
    (haccepted : accepted → ∃ report, place = some report ∧ read = .ok report)
    (hrefused : ¬ accepted → ∃ e, read = .error e) :
    ((∃ report, read = .ok report) ↔ accepted) ∧ ∀ report, read = .ok report → place = some report := by
  by_cases h : accepted
  · obtain ⟨report, hplace, hread⟩ := haccepted h
    refine ⟨iff_of_true ⟨report, hread⟩ h, fun other hother => ?_⟩
    rw [hread] at hother
    cases hother
    exact hplace
  · obtain ⟨e, hread⟩ := hrefused h
    rw [hread]
    exact ⟨iff_of_false nofun h, nofun⟩

theorem Command.readPayload_of_tells {width : Nat} {fields : Reader α} {place : Bytes → Option α} (need : Nat)
    (h : Tells width 0 fields place) (hlong : width ≤ c.payload.length) :
    ∃ report, place c.payload = some report ∧ c.readPayload need fields = .ok report := by
  obtain ⟨report, hplace, hfirst⟩ := h c.payload hlong
  refine ⟨report, hplace, ?_⟩
  rw [List.drop_zero] at hfirst
  rw [readPayload, hfirst]

theorem Command.expectId_of_not_carries {id : CommandId} (h : ¬ c.Carries id) :
    c.expectId id = .error (.unexpectedCommand id c.id) := by
  rw [expectId, if_neg h]

theorem Layout.read_iff {layout : Layout α} {place : Bytes → Option α}
    (h : Tells layout.size 0 layout.fields place) (c : Command) :
    ((∃ report, layout.read c = .ok report) ↔
        c.Carries (.known layout.name) ∧ layout.size ≤ c.payload.length) ∧
      ∀ report, layout.read c = .ok report → place c.payload = some report := by
  apply Command.read_iff
  · rintro ⟨hcarries, hlong⟩
    rw [read_of_carries layout hcarries, if_neg (Nat.not_lt.mpr hlong)]
    exact Command.readPayload_of_tells layout.size h hlong
  · intro hrefused
    by_cases hcarries : c.Carries (.known layout.name)
    · have hshort : c.payload.length < layout.size := Nat.not_le.mp fun hlong => hrefused ⟨hcarries, hlong⟩
      rw [read_of_carries layout hcarries, if_pos hshort]
      exact ⟨_, rfl⟩
    · rw [Layout.read, Command.expectId_of_not_carries hcarries]
      exact ⟨_, rfl⟩

theorem StateReport.familyOf_eq (length : Nat) :
    familyOf length = if 22 ≤ length then .opener else if 19 ≤ length then .smartLock else .unknown := rfl

theorem StateReport.read_of_carries (h : c.Carries (.known .keyturnerStates)) :
    StateReport.read c =
      match familyOf c.payload.length with
      | .opener => c.readPayload openerSize (fields (return .opener))
      | .smartLock => c.readPayload lockSize (fields lockExtras)
      | .unknown => .error (.unsupportedPayload (.known .keyturnerStates) c.payload.length) := by
  rw [StateReport.read, Command.expectId, if_pos h]
  rfl

theorem StateReport.read_iff (c : Command) :
    ((∃ report, StateReport.read c = .ok report) ↔
        c.Carries (.known .keyturnerStates) ∧ 19 ≤ c.payload.length) ∧
      ∀ report, StateReport.read c = .ok report → StateReport.at? c.payload = some report := by
  apply Command.read_iff
  · rintro ⟨hcarries, hlong⟩
    rw [read_of_carries hcarries, StateReport.at?, familyOf_eq]
    by_cases hopener : 22 ≤ c.payload.length
    · rw [if_pos hopener]
      exact Command.readPayload_of_tells openerSize (tells_fields (lies_pure 19 19 _)) hlong
    · rw [if_neg hopener, if_pos hlong]
      exact Command.readPayload_of_tells lockSize (tells_fields lies_lockExtras) hlong
  · intro hrefused
    by_cases hcarries : c.Carries (.known .keyturnerStates)
    · have hshort : ¬ 19 ≤ c.payload.length := fun hlong => hrefused ⟨hcarries, hlong⟩
      have hopener : ¬ 22 ≤ c.payload.length := fun hopener => hshort (Nat.le_trans (by decide) hopener)
      rw [read_of_carries hcarries, familyOf_eq, if_neg hopener, if_neg hshort]
      exact ⟨_, rfl⟩
    · rw [StateReport.read, Command.expectId_of_not_carries hcarries]
      exact ⟨_, rfl⟩

end Commands

theorem LogEntry.read_cases {c : Command} (h : c.Carries (.known .logEntry)) :
    (48 ≤ c.payload.length ∧ ∃ entry, LogEntry.layout.read c = .ok entry) ∨
      c.payload.length < 48 ∧ LogEntry.layout.read c = .error (.tooShort 48 c.payload.length) := by
  rcases Nat.lt_or_ge c.payload.length 48 with hshort | hlong
  · refine .inr ⟨hshort, ?_⟩
    rw [Layout.read_of_carries layout h]
    exact if_pos hshort
  · exact .inl ⟨hlong, (Layout.read_iff LogEntry.tells c).1.mpr ⟨h, hlong⟩⟩

namespace StateReport

private theorem fieldsAt?_eq_some {extras : Bytes → Option StateExtras} {payload : Bytes} {report : StateReport}
    (h : fieldsAt? extras payload = some report) :
    payload[1]?.map Coded.ofCode = some report.lock ∧ extras payload = some report.extras := by
  rw [fieldsAt?] at h
  obtain ⟨_, -, h⟩ := Option.bind_eq_some_iff.mp h
  obtain ⟨lock, hlock, h⟩ := Option.bind_eq_some_iff.mp h
  -- The ten fields between the state of the lock and the extra ones.
  iterate 10 obtain ⟨_, -, h⟩ := Option.bind_eq_some_iff.mp h
  obtain ⟨found, hextras, hreport⟩ := Option.bind_eq_some_iff.mp h
  cases hreport
  exact ⟨by rw [hlock, Option.map_some], hextras⟩

/-- A state report is read from nineteen bytes on, from twenty-two on as that of an opener. -/
theorem read_cases {c : Command} (h : c.Carries (.known .keyturnerStates)) :
    (19 ≤ c.payload.length ∧ ∃ report, StateReport.read c = .ok report ∧
        c.payload[1]?.map Coded.ofCode = some report.lock ∧
        report.family = if 22 ≤ c.payload.length then .opener else .smartLock) ∨
      c.payload.length < 19 ∧
        StateReport.read c = .error (.unsupportedPayload (.known .keyturnerStates) c.payload.length) := by
  by_cases hlong : 19 ≤ c.payload.length
  · obtain ⟨report, hread⟩ := (StateReport.read_iff c).1.mpr ⟨h, hlong⟩
    have hat := (StateReport.read_iff c).2 report hread
    refine .inl ⟨hlong, report, hread, ?_⟩
    rw [StateReport.at?, familyOf_eq] at hat
    by_cases hopener : 22 ≤ c.payload.length
    · rw [if_pos hopener] at hat ⊢
      obtain ⟨hlock, hextras⟩ := fieldsAt?_eq_some hat
      exact ⟨hlock, by rw [family, ← Option.some.inj hextras]⟩
    · rw [if_neg hopener, if_pos hlong] at hat
      rw [if_neg hopener]
      obtain ⟨hlock, hextras⟩ := fieldsAt?_eq_some hat
      exact ⟨hlock, by rw [family, ← Option.some.inj hextras]⟩
  · have hopener : ¬ 22 ≤ c.payload.length := fun hopener => hlong (Nat.le_trans (by decide) hopener)
    refine .inr ⟨Nat.not_le.mp hlong, ?_⟩
    rw [read_of_carries h, familyOf_eq, if_neg hopener, if_neg hlong]

end StateReport

end Latchkey
