import Latchkey.Command.Frame
import Latchkey.Proofs.Words

/-!
# Framed commands come back

The bytes of a command read as that command, so no two commands have the same bytes, and nothing but the
bytes of a command reads as one.
-/

namespace Latchkey.Command

variable {bytes : Bytes} {c : Command}

theorem length_encode (c : Command) : c.encode.length = c.payload.length + overhead := by
  simp only [encode, body, overhead, List.length_append, Bytes.length_ofWord16]
  omega

theorem decode_encode (c : Command) : decode c.encode = .ok c := by
  have hlength : c.encode.length = c.body.length + 2 := by
    rw [encode, List.length_append, Bytes.length_ofWord16]
  have hbody : c.body.length = c.payload.length + 2 := by
    rw [body, List.length_append, Bytes.length_ofWord16, Nat.add_comm]
  have hcut : c.encode.length - 2 = c.body.length := by rw [hlength, Nat.add_sub_cancel]
  have hfront : c.encode.take c.body.length = c.body := List.take_left
  have hback : c.encode.drop c.body.length = Bytes.ofWord16 c.crc := List.drop_left
  have hid : c.body.take 2 = Bytes.ofWord16 c.rawId := List.take_left' (Bytes.length_ofWord16 _)
  have hpayload : c.body.drop 2 = c.payload := List.drop_left' (Bytes.length_ofWord16 _)
  rw [decode, if_neg (by rw [overhead]; omega)]
  simp only [hcut, hfront, hback, hid, hpayload, Bytes.toWord16_ofWord16, crc, if_true]

theorem encode_injective {c d : Command} (h : c.encode = d.encode) : c = d := by
  have hc := decode_encode c
  rw [h, decode_encode d] at hc
  exact (Except.ok.inj hc).symm

private theorem of_id (c : Command) : of c.id c.payload = c := by
  apply Command.ext
  · exact Coded.code_ofCode c.rawId
  · rfl

private theorem encode_of (id : CommandId) (payload : Bytes) :
    (of id payload).encode = Bytes.ofWord16 id.code ++ payload ++
      Bytes.ofWord16 (Crc16.checksumParts [Bytes.ofWord16 id.code, payload]) := by
  have hparts : [Bytes.ofWord16 id.code, payload].flatten = (of id payload).body := by
    simp [body, of]
  rw [Crc16.checksumParts_eq, hparts]
  rfl

private theorem decode_short (h : bytes.length < overhead) :
    decode bytes = .error (.tooShort overhead bytes.length) := by
  rw [decode, if_pos h]

theorem encode_of_check (hlong : overhead ≤ bytes.length)
    (hcheck : Crc16.checksum (bytes.take (bytes.length - 2)) =
      Bytes.toWord16 (bytes.drop (bytes.length - 2))) :
    encode ⟨Bytes.toWord16 ((bytes.take (bytes.length - 2)).take 2),
      (bytes.take (bytes.length - 2)).drop 2⟩ = bytes := by
  simp only [overhead] at hlong
  have hid : ((bytes.take (bytes.length - 2)).take 2).length = 2 := by
    simp only [List.length_take]
    omega
  have hback : (bytes.drop (bytes.length - 2)).length = 2 := by
    rw [List.length_drop]
    omega
  simp only [encode, crc, body]
  rw [Bytes.ofWord16_toWord16 hid, List.take_append_drop, hcheck, Bytes.ofWord16_toWord16 hback,
    List.take_append_drop]

theorem decode_damaged {expected got : UInt16} (hlong : overhead ≤ bytes.length)
    (hexpected : Crc16.checksum (bytes.take (bytes.length - 2)) = expected)
    (hgot : Bytes.toWord16 (bytes.drop (bytes.length - 2)) = got) (hne : expected ≠ got) :
    decode bytes = .error (.badCrc expected got) := by
  rw [decode, if_neg (Nat.not_lt.mpr hlong)]
  simp only [hexpected, hgot]
  exact if_neg hne

/-- Bytes are too short, damaged, or those of a command. -/
theorem decode_cases (bytes : Bytes) :
    (bytes.length < overhead ∧ decode bytes = .error (.tooShort overhead bytes.length)) ∨
      (overhead ≤ bytes.length ∧ decode bytes =
        .error (.badCrc (Crc16.checksum (bytes.take (bytes.length - 2)))
          (Bytes.toWord16 (bytes.drop (bytes.length - 2))))) ∨
      ∃ c, c.encode = bytes ∧ decode bytes = .ok c := by
  by_cases hshort : bytes.length < overhead
  · exact .inl ⟨hshort, decode_short hshort⟩
  · have hlong := Nat.not_lt.mp hshort
    by_cases hcheck : Crc16.checksum (bytes.take (bytes.length - 2)) =
        Bytes.toWord16 (bytes.drop (bytes.length - 2))
    · have hbytes := encode_of_check hlong hcheck
      have hdecode := decode_encode ⟨Bytes.toWord16 ((bytes.take (bytes.length - 2)).take 2),
        (bytes.take (bytes.length - 2)).drop 2⟩
      rw [hbytes] at hdecode
      exact .inr (.inr ⟨_, hbytes, hdecode⟩)
    · exact .inr (.inl ⟨hlong, decode_damaged hlong rfl rfl hcheck⟩)

private theorem decode_eq_ok_iff : decode bytes = .ok c ↔ c.encode = bytes := by
  constructor
  · intro h
    rcases decode_cases bytes with ⟨-, herror⟩ | ⟨-, herror⟩ | ⟨d, hd, hok⟩
    · rw [herror] at h
      contradiction
    · rw [herror] at h
      contradiction
    · rw [hok] at h
      cases h
      exact hd
  · intro h
    rw [← h]
    exact decode_encode c

/-- Framing is exact. The bytes of a command are its id, its payload and the frame check over both. A command
comes back from its bytes as it was framed; bytes read as a command only if they are those of one, of which
they fix the payload and the code of the id; and any other bytes are too short to be a command, or else they
are refused by the frame check. -/
theorem decode_exactly_framed (id : CommandId) (payload bytes : Bytes) :
    (of id payload).encode = Bytes.ofWord16 id.code ++ payload ++
        Bytes.ofWord16 (Crc16.checksumParts [Bytes.ofWord16 id.code, payload]) ∧
      (∃ c, decode (of id payload).encode = .ok c ∧ c = of id payload ∧
        c.rawId = id.code ∧ c.payload = payload) ∧
      ((∃ c, decode bytes = .ok c) ↔ ∃ id payload, bytes = (of id payload).encode) ∧
      (∀ c, decode bytes = .ok c → c.encode = bytes ∧
        ∀ id payload, bytes = (of id payload).encode → id.code = c.rawId ∧ payload = c.payload) ∧
      ((∀ id payload, bytes ≠ (of id payload).encode) →
        decode bytes =
          if bytes.length < 4 then .error (.tooShort 4 bytes.length)
          else .error (.badCrc (Crc16.checksum (bytes.take (bytes.length - 2)))
            (Bytes.toWord16 (bytes.drop (bytes.length - 2))))) := by
  refine ⟨encode_of id payload, ⟨_, decode_encode _, rfl, rfl, rfl⟩, ⟨?_, ?_⟩, ?_, ?_⟩
  · rintro ⟨c, hc⟩
    refine ⟨c.id, c.payload, ?_⟩
    rw [of_id, decode_eq_ok_iff.mp hc]
  · rintro ⟨id, payload, rfl⟩
    exact ⟨_, decode_encode _⟩
  · intro c hc
    have hbytes := decode_eq_ok_iff.mp hc
    refine ⟨hbytes, ?_⟩
    intro id payload h
    have hof : c = of id payload := encode_injective (hbytes.trans h)
    rw [hof]
    exact ⟨rfl, rfl⟩
  · intro hnone
    rcases decode_cases bytes with ⟨hshort, herror⟩ | ⟨hlong, herror⟩ | ⟨c, hc, -⟩
    · rw [herror]
      exact (if_pos hshort).symm
    · rw [herror]
      exact (if_neg (Nat.not_lt.mpr hlong)).symm
    · refine absurd ?_ (hnone c.id c.payload)
      rw [of_id, hc]

end Latchkey.Command
