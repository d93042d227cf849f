import Latchkey.Proofs.Words
import Latchkey.Report.Reply

/-!
# Reading replies

A reply is read exactly when it has the right id and enough bytes. What is read from it are its bytes: the
key, the challenge and the fields of an assigned authorization stand in the payload as they are.
-/

namespace Latchkey

variable {α : Type}

theorem Layout.read_of_carries (layout : Layout α) {c : Command} (h : c.Carries (.known layout.name)) :
    layout.read c =
      if c.payload.length < layout.size then .error (.tooShort layout.size c.payload.length)
      else c.readPayload layout.size layout.fields := by
  rw [read, Command.expectId, if_pos h, Command.expectPayload]
  by_cases hshort : c.payload.length < layout.size
  · rw [if_pos hshort, if_pos hshort]
    rfl
  · rw [if_neg hshort, if_neg hshort]
    rfl

theorem challengeReport_read {c : Command} {challenge : Bytes} (h : c.Carries (.known .challenge)) :
    challengeReport.read c = .ok challenge ↔ 32 ≤ c.payload.length ∧ c.payload = challenge := by
  have hread := Layout.read_of_carries challengeReport h
  rw [hread]
  by_cases hshort : c.payload.length < 32
  · rw [if_pos (by exact hshort)]
    refine ⟨(fun h => by cases h), fun h => ?_⟩
    omega
  · rw [if_neg (by exact hshort)]
    refine ⟨fun h => ?_, fun h => ?_⟩
    · cases h
      exact ⟨Nat.not_lt.mp hshort, rfl⟩
    · rw [← h.2]
      rfl

theorem Coded.code_of_known {ω α : Type} [Vocabulary ω α] [DecidableEq ω] {code : ω} {value : α}
    (h : Coded.ofCode code = .known value) : code = Vocabulary.code value := by
  have hcode : (Coded.ofCode code : Coded ω α).code = code := code_ofCode code
  rw [h] at hcode
  exact hcode.symm

theorem statusReport_read {c : Command} (h : c.Carries (.known .status)) :
    statusReport.read c =
      match c.payload with
      | [] => .error (.tooShort 1 0)
      | code :: _ => .ok (Coded.ofCode code) := by
  rw [Layout.read_of_carries statusReport h, Command.readPayload]
  cases c.payload with
  | nil => rfl
  | cons code rest =>
    rw [if_neg (by simp [statusReport])]
    rfl

/-- The fault that a report means, by its first byte; a report without bytes counts as the unknown fault. -/
def Command.reported (family : Family) (c : Command) : Fault :=
  Fault.ofCode family (c.payload.head?.getD 0xFF)

theorem Command.fault?_eq (family : Family) (c : Command) :
    c.fault? family =
      if c.Carries (.known .errorReport) then some (c.reported family) else none := by
  rw [fault?]
  by_cases hcarries : c.Carries (.known .errorReport)
  · have hread := Layout.read_of_carries faultReport hcarries
    rw [if_pos hcarries, if_pos hcarries, hread, reported]
    cases hpayload : c.payload with
    | nil => rfl
    | cons code rest =>
      rw [if_neg (by simp [faultReport]), readPayload, hpayload]
      rfl
  · rw [if_neg hcarries, if_neg hcarries]

theorem publicKeyReport_read {c : Command} {device : Key} (h : c.Carries (.known .publicKey)) :
    publicKeyReport.read c = .ok device ↔ device.bytes = c.payload.take 32 := by
  have hread := Layout.read_of_carries publicKeyReport h
  rw [hread]
  by_cases htake : (c.payload.take 32).length = 32
  · have hlong : ¬ c.payload.length < 32 := by
      rw [List.length_take] at htake
      omega
    rw [if_neg (by exact hlong)]
    simp only [Command.readPayload, publicKeyReport, Reader.first?, StateT.run, dif_pos htake,
      Option.map_some, Except.ok.injEq]
    refine ⟨(fun h => by rw [← h]), fun h => ?_⟩
    exact (Key.ext h).symm
  · have hshort : c.payload.length < 32 := by
      rw [List.length_take] at htake
      omega
    rw [if_pos (by exact hshort)]
    refine ⟨(fun h => by cases h), fun h => ?_⟩
    rw [← h] at htake
    exact absurd device.length_bytes htake

private theorem authorization_fields (authenticator : Bytes) (authorization : UInt32)
    (uuid nonce : Bytes) (hauthenticator : authenticator.length = 32) (huuid : uuid.length = 16) :
    authorizationReport.fields.first?
        (authenticator ++ (Bytes.ofWord32 authorization ++ (uuid ++ nonce))) =
      some { authenticator, authorization, uuid, nonce } := by
  have htake (rest : Bytes) : (Reader.take 32).run (authenticator ++ rest) = some (authenticator, rest) :=
    Reader.take_eq_some_iff.mpr ⟨rfl, hauthenticator⟩
  have htake' (rest : Bytes) : (Reader.take 16).run (uuid ++ rest) = some (uuid, rest) :=
    Reader.take_eq_some_iff.mpr ⟨rfl, huuid⟩
  rw [Reader.first?, authorizationReport]
  simp only [Reader.bind_run, htake, htake', Reader.word32_append, Option.bind_some]
  rfl

theorem authorizationReport_of (authenticator : Bytes) (authorization : UInt32) (uuid nonce : Bytes)
    (hauthenticator : authenticator.length = 32) (huuid : uuid.length = 16) :
    authorizationReport.read (.of (.known .authorizationId)
        (authenticator ++ (Bytes.ofWord32 authorization ++ (uuid ++ nonce)))) =
      .ok { authenticator, authorization, uuid, nonce } := by
  generalize hpayload : authenticator ++ (Bytes.ofWord32 authorization ++ (uuid ++ nonce)) = payload
  have hcarries : (Command.of (.known .authorizationId) payload).Carries
      (.known authorizationReport.name) := rfl
  have hlong : ¬ payload.length < authorizationReport.size := by
    rw [← hpayload]
    simp only [List.length_append, Bytes.length_ofWord32, hauthenticator, huuid, authorizationReport]
    omega
  have hfields := authorization_fields authenticator authorization uuid nonce hauthenticator huuid
  rw [hpayload] at hfields
  rw [Layout.read_of_carries _ hcarries, Command.readPayload]
  simp only [Command.of, if_neg hlong, hfields]

theorem authorizationReport_read {c : Command} (h : c.Carries (.known .authorizationId))
    (hlong : 52 ≤ c.payload.length) :
    ∃ report, authorizationReport.read c = .ok report ∧
      report.authenticator = c.payload.take 32 ∧
      Bytes.ofWord32 report.authorization ++ (report.uuid ++ report.nonce) = c.payload.drop 32 := by
  have hword : Bytes.ofWord32 (Bytes.toWord32 ((c.payload.drop 32).take 4)) =
      (c.payload.drop 32).take 4 := by
    apply Bytes.ofWord32_toWord32
    rw [List.length_take, List.length_drop]
    omega
  have hdrop : Bytes.ofWord32 (Bytes.toWord32 ((c.payload.drop 32).take 4)) ++
      (((c.payload.drop 32).drop 4).take 16 ++ ((c.payload.drop 32).drop 4).drop 16) =
        c.payload.drop 32 := by
    rw [hword, List.take_append_drop, List.take_append_drop]
  have hfields := authorization_fields (c.payload.take 32)
    (Bytes.toWord32 ((c.payload.drop 32).take 4)) (((c.payload.drop 32).drop 4).take 16)
    (((c.payload.drop 32).drop 4).drop 16)
    (by rw [List.length_take]; omega)
    (by rw [List.length_take, List.length_drop, List.length_drop]; omega)
  have hread := Layout.read_of_carries authorizationReport h
  rw [hdrop, List.take_append_drop] at hfields
  rw [if_neg (by simp only [authorizationReport]; omega), Command.readPayload, hfields] at hread
  exact ⟨_, hread, rfl, hdrop⟩

theorem authorizationReport_short {c : Command} (h : c.Carries (.known .authorizationId))
    (hshort : c.payload.length < 52) :
    authorizationReport.read c = .error (.tooShort 52 c.payload.length) := by
  have hread := Layout.read_of_carries authorizationReport h
  rw [if_pos (by exact hshort)] at hread
  exact hread

theorem authorizationReport_ok {c : Command} {report : AuthorizationReport}
    (h : c.Carries (.known .authorizationId)) (hread : authorizationReport.read c = .ok report) :
    52 ≤ c.payload.length ∧ report.authenticator = c.payload.take 32 ∧
      Bytes.ofWord32 report.authorization ++ (report.uuid ++ report.nonce) = c.payload.drop 32 := by
  by_cases hlong : 52 ≤ c.payload.length
  · obtain ⟨found, hfound, hauthenticator, hfields⟩ := authorizationReport_read h hlong
    rw [hread] at hfound
    cases hfound
    exact ⟨hlong, hauthenticator, hfields⟩
  · rw [authorizationReport_short h (Nat.not_le.mp hlong)] at hread
    cases hread

end Latchkey
