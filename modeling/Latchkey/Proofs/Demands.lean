import Latchkey.Proofs.Framing
import Latchkey.Proofs.Replies
import Latchkey.Proofs.Writing
import Latchkey.Request

/-!
# What requests demand

A device can read every request it gets: the id tells what is asked for, and the length of an action tells whether
there is a suffix. So two requests have the same bytes only if they demand the same. What they do not tell is how a
code was named, which family an action is meant for, what of a suffix is cut off or filled up, and by how much a year
is out of range.
-/

namespace Latchkey

open Reader

/-- What a request asks a device for. A named value is its code, a suffix is the bytes of its field, an action is the
same for either family, and a time has the nearest year that can be written. -/
inductive Demand where
  | data (id : UInt16)
  | publicKey (key : Key)
  | action (code : UInt8) (app : UInt32) (flags : UInt8) (suffix : Option Bytes) (challenge : Bytes)
  | config (challenge : Bytes)
  | logEntries (start : UInt32) (count : UInt16) (order : UInt8) (pin : Pin) (challenge : Bytes)
  | logEntryCount (pin : Pin) (challenge : Bytes)
  | logging (enable : Bool) (pin : Pin) (challenge : Bytes)
  | updateTime (year : Int) (month day hour minute second : Nat) (pin : Pin) (challenge : Bytes)
  | reboot (pin : Pin) (challenge : Bytes)
deriving DecidableEq

namespace Request

/-- What the request demands. -/
def demand : Request → Demand
  | data id => .data id.code
  | publicKey key => .publicKey key
  | lockAction action app flags suffix challenge =>
    .action action.code app flags (suffix.map (Padded.encode suffixLength)) challenge
  | openAction action app flags suffix challenge =>
    .action action.code app flags (suffix.map (Padded.encode suffixLength)) challenge
  | config challenge => .config challenge
  | logEntries start count order pin challenge => .logEntries start count order.code pin challenge
  | logEntryCount pin challenge => .logEntryCount pin challenge
  | logging enable pin challenge => .logging enable pin challenge
  | updateTime time pin challenge =>
    .updateTime (max 0 (min time.year 65535)) time.month time.day time.hour time.minute time.second pin challenge
  | reboot pin challenge => .reboot pin challenge

/-- The challenge that the request carries. -/
def challenge? : Request → Option Bytes
  | data _ | publicKey _ => none
  | lockAction _ _ _ _ challenge | openAction _ _ _ _ challenge => some challenge
  | config challenge => some challenge
  | logEntries _ _ _ _ challenge | logEntryCount _ challenge => some challenge
  | logging _ _ challenge | updateTime _ _ challenge | reboot _ challenge => some challenge

end Request

namespace Demand

/-- The request that makes the demand. -/
def command : Demand → Command
  | data id => .of (.known .requestData) (Bytes.ofWord16 id)
  | publicKey key => .of (.known .publicKey) key.bytes
  | action code app flags suffix challenge =>
    .of (.known .lockAction) (code :: Bytes.ofWord32 app ++ flags :: suffix.getD [] ++ challenge)
  | config challenge => .of (.known .requestConfig) challenge
  | logEntries start count order pin challenge =>
    .of (.known .requestLogEntries)
      (Bytes.ofWord32 start ++ Bytes.ofWord16 count ++ [order, 0] ++ challenge ++ pin.encode)
  | logEntryCount pin challenge =>
    .of (.known .requestLogEntries) (List.replicate 7 0 ++ [1] ++ challenge ++ pin.encode)
  | logging enable pin challenge =>
    .of (.known .enableLogging) (enable.toUInt8 :: challenge ++ pin.encode)
  | updateTime year month day hour minute second pin challenge =>
    let stamp : Stamp := {
      year := UInt16.ofNat year.toNat, month := UInt8.ofNat month, day := UInt8.ofNat day
      hour := UInt8.ofNat hour, minute := UInt8.ofNat minute, second := UInt8.ofNat second }
    .of (.known .updateTime) (stamp.encode ++ challenge ++ pin.encode)
  | reboot pin challenge => .of (.known .requestReboot) (challenge ++ pin.encode)

def challengeField : Reader Bytes := take 32

def pinField : Reader Pin := return ⟨← word16⟩

def suffixField (suffixed : Bool) : Reader (Option Bytes) :=
  if suffixed then return some (← take Request.suffixLength) else return none

/-- The fields behind an id, in a payload of this length. -/
def fields (length : Nat) : CommandName → Reader Demand
  | .requestData => return .data (← word16)
  | .publicKey => return .publicKey (← publicKeyReport.fields)
  | .lockAction => do
    let code ← byte
    let app ← word32
    let flags ← byte
    let suffix ← suffixField (length = 58)
    let challenge ← challengeField
    return .action code app flags suffix challenge
  | .requestConfig => return .config (← challengeField)
  | .requestLogEntries => do
    let start ← word32
    let count ← word16
    let order ← byte
    let total ← flag
    let challenge ← challengeField
    let pin ← pinField
    return if total then .logEntryCount pin challenge else .logEntries start count order pin challenge
  | .enableLogging => do
    let enable ← flag
    let challenge ← challengeField
    let pin ← pinField
    return .logging enable pin challenge
  | .updateTime => do
    let s ← Stamp.field
    let challenge ← challengeField
    let pin ← pinField
    return .updateTime s.year.toNat s.month.toNat s.day.toNat s.hour.toNat s.minute.toNat s.second.toNat pin challenge
  | .requestReboot => do
    let challenge ← challengeField
    let pin ← pinField
    return .reboot pin challenge
  | _ => failure

/-- What a command demands, as a device reads it. -/
def ofCommand? (c : Command) : Option Demand :=
  match c.id with
  | .known name => (fields c.payload.length name).first? c.payload
  | .unknown _ => none

private theorem restores_pinField (pin : Pin) : Restores pinField pin.encode pin :=
  (restores_word16 pin.value).make Pin.mk

private theorem restores_suffixField {suffix : Option Bytes}
    (h : ∀ field ∈ suffix, field.length = Request.suffixLength) :
    Restores (suffixField suffix.isSome) (suffix.getD []) suffix := by
  cases suffix with
  | none => exact fun _ => rfl
  | some field => exact (restores_take (h field rfl)).make some

section Reading

variable {challenge : Bytes}

private theorem restores_challengeField (h : challenge.length = 32) : Restores challengeField challenge challenge :=
  restores_take h

private theorem ofCommand?_of {name : CommandName} {payload : Bytes} {d : Demand}
    (h : Restores (fields payload.length name) payload d) : ofCommand? (.of (.known name) payload) = some d := by
  have hid : (Command.of (.known name) payload).id = .known name := by cases name <;> rfl
  rw [ofCommand?, hid]
  exact h.first?

private theorem ofCommand?_action (code : UInt8) (app : UInt32) (flags : UInt8) {suffix : Option Bytes}
    (hsuffix : ∀ field ∈ suffix, field.length = Request.suffixLength) (hchallenge : challenge.length = 32) :
    ofCommand? (action code app flags suffix challenge).command = some (action code app flags suffix challenge) := by
  apply ofCommand?_of
  have hlength : decide ((code :: Bytes.ofWord32 app ++ flags :: suffix.getD [] ++ challenge).length = 58) =
      suffix.isSome := by
    cases suffix with
    | none => simp [hchallenge]
    | some field => simp [hsuffix field rfl, hchallenge, Request.suffixLength]
  rw [fields, hlength]
  simp only [List.append_assoc, List.cons_append]
  apply Restores.byte
  apply (restores_word32 app).bind
  apply Restores.byte
  apply (restores_suffixField hsuffix).bind
  exact (restores_challengeField hchallenge).make _

private theorem ofCommand?_log (start : UInt32) (count : UInt16) (order : ByteCode LogOrder) (total : Bool)
    (pin : Pin)
    (hchallenge : challenge.length = 32) :
    ofCommand? (.of (.known .requestLogEntries) (Request.logPayload start count order total pin challenge)) =
      some (if total then logEntryCount pin challenge else logEntries start count order.code pin challenge) := by
  apply ofCommand?_of
  simp only [Request.logPayload, List.append_assoc, List.cons_append, List.nil_append]
  apply (restores_word32 start).bind
  apply (restores_word16 count).bind
  apply Restores.byte
  apply Restores.flag
  apply (restores_challengeField hchallenge).bind
  exact (restores_pinField pin).make _

end Reading

end Demand

namespace Request

/-- The bytes of a request depend on nothing but what it demands. -/
theorem command_eq (r : Request) : r.command = r.demand.command := by
  cases r with
  | lockAction action app flags suffix challenge => cases suffix <;> rfl
  | openAction action app flags suffix challenge => cases suffix <;> rfl
  | updateTime time pin challenge =>
    have hyear : (max 0 (min time.year 65535)).toNat = min time.year.toNat 65535 := by omega
    simp only [command, demand, Demand.command, hyear]
    rfl
  | _ => rfl

/-- A device reads from a request what it demands. -/
theorem ofCommand?_command {r : Request} (h : ∀ challenge ∈ r.challenge?, challenge.length = 32) :
    Demand.ofCommand? r.command = some r.demand := by
  have hsuffix (suffix : Option String) :
      ∀ field ∈ suffix.map (Padded.encode suffixLength), field.length = suffixLength := by
    intro field hfield
    obtain ⟨text, -, rfl⟩ := Option.map_eq_some_iff.mp hfield
    exact Padded.length_encode suffixLength text
  cases r with
  | data id => exact Demand.ofCommand?_of ((restores_word16 id.code).make Demand.data)
  | publicKey key =>
    have hkey : Restores publicKeyReport.fields key.bytes key := by
      intro rest
      have htake : (key.bytes ++ rest).take 32 = key.bytes := List.take_left' key.length_bytes
      have hdrop : (key.bytes ++ rest).drop 32 = rest := List.drop_left' key.length_bytes
      simp [publicKeyReport, StateT.run, htake, hdrop, key.length_bytes]
    exact Demand.ofCommand?_of (hkey.make Demand.publicKey)
  | lockAction action app flags suffix challenge =>
    rw [command_eq]
    exact Demand.ofCommand?_action action.code app flags (hsuffix suffix) (h challenge rfl)
  | openAction action app flags suffix challenge =>
    rw [command_eq]
    exact Demand.ofCommand?_action action.code app flags (hsuffix suffix) (h challenge rfl)
  | config challenge =>
    exact Demand.ofCommand?_of ((Demand.restores_challengeField (h challenge rfl)).make Demand.config)
  | logEntries start count order pin challenge =>
    exact Demand.ofCommand?_log start count order false pin (h challenge rfl)
  | logEntryCount pin challenge =>
    exact Demand.ofCommand?_log 0 0 (.known .ascending) true pin (h challenge rfl)
  | logging enable pin challenge =>
    apply Demand.ofCommand?_of
    apply Restores.flag enable
    apply (Demand.restores_challengeField (h challenge rfl)).bind
    exact (Demand.restores_pinField pin).make _
  | updateTime time pin challenge =>
    obtain ⟨hyear, hmonth, hday, hhour, hminute, hsecond⟩ := Stamp.toNat_ofMoment time
    apply Demand.ofCommand?_of
    rw [List.append_assoc, demand, ← hyear, ← hmonth, ← hday, ← hhour, ← hminute, ← hsecond]
    apply (Stamp.ofMoment time).restores_field.bind
    apply (Demand.restores_challengeField (h challenge rfl)).bind
    exact (Demand.restores_pinField pin).make _
  | reboot pin challenge =>
    apply Demand.ofCommand?_of
    apply (Demand.restores_challengeField (h challenge rfl)).bind
    exact (Demand.restores_pinField pin).make _

end Request

/-- If challenges have 32 bytes, two requests have the same bytes just if they demand the same: they are of one kind,
actions of a lock and of an opener being one, and they have the same codes, numbers, keys, challenges and pins, the
same bytes in the field of the suffix or both no suffix, and the same time in the nearest year that can be written. -/
theorem Request.command_unambiguous {r s : Request} (hr : ∀ challenge ∈ r.challenge?, challenge.length = 32)
    (hs : ∀ challenge ∈ s.challenge?, challenge.length = 32) :
    r.command.encode = s.command.encode ↔ r.demand = s.demand := by
  constructor
  · intro h
    have hread := ofCommand?_command hr
    rw [Command.encode_injective h, ofCommand?_command hs] at hread
    exact (Option.some.inj hread).symm
  · intro h
    rw [command_eq, command_eq, h]

/-- What does not fit into the field of a suffix makes no difference, and neither does the family, but an empty suffix
is not the same as none, and the number of entries is not the same as no entries. -/
theorem Request.command_unambiguous_actions :
    let challenge : Bytes := List.replicate 32 0x5A
    let lock (suffix : Option String) := Request.lockAction (.known .unlock) 7 0 suffix challenge
    let opener (suffix : Option String) := Request.openAction (.unknown 1) 7 0 suffix challenge
    (lock (some "Home Assistant Automation")).command.encode = (opener (some "Home Assistant Autom")).command.encode ∧
      (lock (some "")).command.encode ≠ (opener none).command.encode ∧
      (Request.logEntries 0 0 (.known .ascending) ⟨1234⟩ challenge).command.encode ≠
        (Request.logEntryCount ⟨1234⟩ challenge).command.encode := by
  intro challenge lock opener
  have hchallenge : ∀ bytes ∈ some challenge, bytes.length = 32 := by
    rintro _ ⟨⟩
    rfl
  have hactions (suffix other : Option String) :
      (lock suffix).command.encode = (opener other).command.encode ↔ (lock suffix).demand = (opener other).demand :=
    command_unambiguous (r := lock suffix) (s := opener other) hchallenge hchallenge
  refine ⟨(hactions _ _).mpr (by decide), (hactions _ _).not.mpr (by decide), ?_⟩
  exact (command_unambiguous (r := .logEntries ..) (s := .logEntryCount ..) hchallenge hchallenge).not.mpr nofun

end Latchkey
