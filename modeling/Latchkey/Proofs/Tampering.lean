import Latchkey.Bytes.Reader
import Latchkey.Proofs.Sealing

/-!
# Damaged sealed messages

A sealed message that is cut short is refused as too short, bytes behind it are ignored, and another
authorization in its header or another tag in front of its box is found out. Opening never depends on bytes
that are not there: with every read checked it gives what it gives without.
-/

namespace Latchkey.SecretBox

private theorem decrypt?_of_tag_ne (key nonce message : Bytes) {tag : Bytes} (htag : tag.length = tagLength)
    (hne : tag ≠ (encrypt key nonce message).take tagLength) :
    decrypt? key nonce (tag ++ (encrypt key nonce message).drop tagLength) = none := by
  have hlong : ¬ (tag ++ (encrypt key nonce message).drop tagLength).length < tagLength := by
    rw [List.length_append]
    omega
  have hpad := length_pad key nonce message.length
  have hlength : (Bytes.xor message (stream key nonce message.length).2).length = message.length := by
    rw [Bytes.length_xor, hpad, Nat.min_self]
  have hgenuine : (Poly1305.tag (stream key nonce message.length).1
      (Bytes.xor message (stream key nonce message.length).2)).length = tagLength :=
    Poly1305.length_tag ..
  simp only [encrypt, List.take_left' hgenuine] at hne
  rw [decrypt?, if_neg hlong, List.drop_left' htag, List.take_left' htag]
  simp only [encrypt, List.drop_left' hgenuine, hlength]
  exact if_neg (Ne.symm hne)

end Latchkey.SecretBox

namespace Latchkey.Sealed

/-- Reads what was in a box as `decodeContent` does; nothing comes of it once a read goes beyond the bytes. -/
def checkedContent (outer : UInt32) (content : Bytes) : Option (Except WireError (UInt32 × Command)) :=
  if content.length < overhead then return .error (.tooShort overhead content.length)
  else do
    let expected := Crc16.checksum (← content.slice? 0 (content.length - 2))
    let got := Bytes.toWord16 (← content.slice? (content.length - 2) 2)
    if expected ≠ got then return .error (.badCrc expected got)
    let inner := Bytes.toWord32 (← content.slice? 0 4)
    if inner ≠ outer then return .error (.authorizationIdMismatch outer inner)
    let id := Bytes.toWord16 (← content.slice? 4 2)
    return .ok (inner, ⟨id, ← content.slice? 6 (content.length - overhead)⟩)

/-- Opens a message as `decode` does; nothing comes of it once a read goes beyond the bytes. -/
def checkedDecode (shared : SharedKey) (message : Bytes) : Option (Except WireError (UInt32 × Command)) :=
  if message.length < headerLength then return .error (.tooShort headerLength message.length)
  else do
    let size := Bytes.toNat (← message.slice? 28 2)
    if message.length < headerLength + size then
      return .error (.tooShort (headerLength + size) message.length)
    let nonce ← message.slice? 0 nonceLength
    match SecretBox.decrypt? shared.key.bytes nonce (← message.slice? headerLength size) with
    | some content => checkedContent (Bytes.toWord32 (← message.slice? 24 4)) content
    | none => return .error .decryptionFailed

private theorem checkedContent_eq (outer : UInt32) (content : Bytes) :
    checkedContent outer content = some (decodeContent outer content) := by
  rw [checkedContent, decodeContent]
  by_cases hshort : content.length < overhead
  · rw [if_pos hshort, if_pos hshort]
    rfl
  · simp only [overhead] at hshort
    have hinner : (content.take (content.length - 2)).take 4 = content.take 4 := by
      rw [List.take_take, Nat.min_eq_left (by omega)]
    have hid : ((content.take (content.length - 2)).drop 4).take 2 = (content.drop 4).take 2 := by
      rw [List.drop_take, List.take_take, Nat.min_eq_left (by omega)]
    have hpayload : (content.take (content.length - 2)).drop 6 =
        (content.drop 6).take (content.length - overhead) := by
      rw [List.drop_take, overhead]
      rfl
    rw [if_neg (by rw [overhead]; omega), if_neg (by rw [overhead]; omega),
      Bytes.slice?_front (by omega), Bytes.slice?_back (by omega), Bytes.slice?_front (by omega),
      Bytes.slice?_eq (by omega), Bytes.slice?_eq (by rw [overhead]; omega)]
    simp only [Option.bind_eq_bind, Option.bind_some, hinner, hid, hpayload]
    split
    · rfl
    · split <;> rfl

/-- No byte string makes opening read beyond its end. -/
theorem checkedDecode_eq (shared : SharedKey) (message : Bytes) :
    checkedDecode shared message = some (decode shared message) := by
  rw [checkedDecode, decode]
  by_cases hshort : message.length < headerLength
  · rw [if_pos hshort, if_pos hshort]
    rfl
  · have hlong := Nat.not_lt.mp hshort
    simp only [headerLength] at hlong
    rw [if_neg hshort, if_neg hshort, Bytes.slice?_eq (by omega)]
    by_cases hsize : message.length < headerLength + Bytes.toNat ((message.drop 28).take 2)
    · simp [hsize]
    · simp only [Option.bind_eq_bind, Option.bind_some, if_neg hsize]
      rw [Bytes.slice?_front (by rw [nonceLength]; omega), Bytes.slice?_eq (by omega),
        Bytes.slice?_eq (by omega)]
      simp only [Option.bind_some]
      cases SecretBox.decrypt? shared.key.bytes (message.take nonceLength)
          ((message.drop headerLength).take (Bytes.toNat ((message.drop 28).take 2))) with
      | some content => exact checkedContent_eq _ content
      | none => rfl

section Genuine

variable {authorization : UInt32} {shared : SharedKey} {command : Command} {nonce message : Bytes}

private theorem encode_ok_iff :
    encode authorization shared command nonce = .ok message ↔
      (SecretBox.encrypt shared.key.bytes nonce (content authorization command)).length ≤ maxSize ∧
        message = nonce ++ Bytes.ofWord32 authorization ++
          Bytes.ofNat 2
            (SecretBox.encrypt shared.key.bytes nonce (content authorization command)).length ++
          SecretBox.encrypt shared.key.bytes nonce (content authorization command) := by
  rw [encode]
  split
  · rename_i hfits
    simp only [hfits, Except.ok.injEq, true_and, eq_comm]
  · rename_i hlarge
    simp only [hlarge, reduceCtorEq, false_and]

variable (hnonce : nonce.length = nonceLength)
include hnonce

/-- Until all of a message is there it is too short: first for a header, then for what the header says. -/
theorem decode_take (h : encode authorization shared command nonce = .ok message) {n : Nat}
    (hn : n < message.length) :
    decode shared (message.take n) =
      .error (.tooShort (if n < 30 then 30 else message.length) n) := by
  have htake : (message.take n).length = n := List.length_take_of_le (Nat.le_of_lt hn)
  obtain ⟨hfits, hmessage⟩ := encode_ok_iff.mp h
  generalize SecretBox.encrypt shared.key.bytes nonce (content authorization command) = box at *
  by_cases hheader : n < 30
  · rw [decode, htake, if_pos hheader, if_pos (by rw [headerLength]; omega)]
    rfl
  · have hfront : (nonce ++ Bytes.ofWord32 authorization ++ Bytes.ofNat 2 box.length).length = 30 := by
      simp only [List.length_append, Bytes.length_ofWord32, Bytes.length_ofNat, hnonce, nonceLength]
    have hall : message.length = 30 + box.length := by
      rw [hmessage, List.length_append, hfront]
    have hcut : message.take n = nonce ++ Bytes.ofWord32 authorization ++ Bytes.ofNat 2 box.length ++
        box.take (n - 30) := by
      rw [hmessage, List.take_append, hfront, List.take_of_length_le (by omega)]
    have hrest : (box.take (n - 30)).length = n - 30 := List.length_take_of_le (by omega)
    rw [hcut, decode_header hnonce hfits, hrest, if_pos (by omega), if_neg hheader, hall, headerLength]
    congr 2
    omega

private theorem decode_append (h : encode authorization shared command nonce = .ok message) (rest : Bytes) :
    decode shared (message ++ rest) = .ok (authorization, command) := by
  have hlength := length_of_encode h
  have hsame : (message ++ rest).take nonceLength = nonce := by
    rw [List.take_append_of_le_length (by omega), take_of_encode hnonce h]
  rw [decode_eq_ok_iff, hsame]
  exact ⟨message, h, List.prefix_append message rest⟩

private theorem decode_readdressed (h : encode authorization shared command nonce = .ok message)
    {other : UInt32} (hother : other ≠ authorization) :
    decode shared (message.take 24 ++ Bytes.ofWord32 other ++ message.drop 28) =
      .error (.authorizationIdMismatch other authorization) := by
  obtain ⟨hfits, hmessage⟩ := encode_ok_iff.mp h
  have hopen := SecretBox.decrypt?_eq_some_iff.mpr
    (rfl : SecretBox.encrypt shared.key.bytes nonce (content authorization command) = _)
  generalize SecretBox.encrypt shared.key.bytes nonce (content authorization command) = box at *
  have hfront : (nonce ++ Bytes.ofWord32 authorization).length = 28 := by
    simp only [List.length_append, Bytes.length_ofWord32, hnonce, nonceLength]
  have hback : message.drop 28 = Bytes.ofNat 2 box.length ++ box := by
    rw [hmessage, List.append_assoc (nonce ++ _), List.drop_left' hfront]
  have hnonce' : message.take 24 = nonce := take_of_encode hnonce h
  rw [hnonce', hback, ← List.append_assoc, ← List.append_nil (_ ++ box),
    decode_parts hnonce hfits, hopen]
  exact (decodeContent_sealed other authorization command).trans (if_neg (Ne.symm hother))

private theorem decode_retagged (h : encode authorization shared command nonce = .ok message) {tag : Bytes}
    (htag : tag.length = 16) (hne : tag ≠ (message.drop 30).take 16) :
    decode shared (message.take 30 ++ tag ++ message.drop 46) = .error .decryptionFailed := by
  obtain ⟨hfits, hmessage⟩ := encode_ok_iff.mp h
  have hlength := SecretBox.length_encrypt shared.key.bytes nonce (content authorization command)
  have hclosed (hne : tag ≠ _) := SecretBox.decrypt?_of_tag_ne shared.key.bytes nonce
    (content authorization command) htag hne
  generalize SecretBox.encrypt shared.key.bytes nonce (content authorization command) = box at *
  have hfront : (nonce ++ Bytes.ofWord32 authorization ++ Bytes.ofNat 2 box.length).length = 30 := by
    simp only [List.length_append, Bytes.length_ofWord32, Bytes.length_ofNat, hnonce, nonceLength]
  have hbox : message.drop 30 = box := by rw [hmessage, List.drop_left' hfront]
  have hrest : message.drop 46 = box.drop 16 := by rw [← hbox, List.drop_drop]
  have hsize : (tag ++ box.drop 16).length = box.length := by
    simp only [SecretBox.tagLength] at hlength
    rw [List.length_append, List.length_drop]
    omega
  have hheader : message.take 30 =
      nonce ++ Bytes.ofWord32 authorization ++ Bytes.ofNat 2 (tag ++ box.drop 16).length := by
    rw [hmessage, List.take_left' hfront, hsize]
  rw [hbox] at hne
  rw [hheader, hrest, List.append_assoc, ← List.append_nil (_ ++ (tag ++ _)),
    decode_parts hnonce (by omega)]
  simp only [SecretBox.tagLength] at hclosed
  rw [hclosed hne]

end Genuine

/-- Damaged sealed messages are refused as they should be. A message that has been cut short is too short,
for a header or for what its header says; bytes behind a message do not matter; another authorization in the
header is refused with both of them, and another tag makes opening fail. And whatever is to be opened, all
that is read of it is there. -/
theorem decode_altered (authorization : UInt32) (shared : SharedKey) (command : Command)
    (nonces : Nonces) (message : Bytes)
    (h : (encodeNext authorization shared command nonces).1 = .ok message) :
    (∀ n < message.length, decode shared (message.take n) =
        .error (.tooShort (if n < 30 then 30 else message.length) n)) ∧
      (∀ rest, decode shared (message ++ rest) = .ok (authorization, command)) ∧
      (∀ other, other ≠ authorization →
        decode shared (message.take 24 ++ Bytes.ofWord32 other ++ message.drop 28) =
          .error (.authorizationIdMismatch other authorization)) ∧
      (∀ tag : Bytes, tag.length = 16 → tag ≠ (message.drop 30).take 16 →
        decode shared (message.take 30 ++ tag ++ message.drop 46) = .error .decryptionFailed) ∧
      ∀ bytes, checkedDecode shared bytes = some (decode shared bytes) := by
  have hnonce : (nonces.draw nonceLength).1.length = nonceLength := Nonces.length_draw ..
  rw [encodeNext_fst] at h
  refine ⟨?_, ?_, ?_, ?_, checkedDecode_eq shared⟩
  · intro n hn
    exact decode_take hnonce h hn
  · exact decode_append hnonce h
  · intro other hother
    exact decode_readdressed hnonce h hother
  · intro tag htag hne
    exact decode_retagged hnonce h htag hne

/-- A request that has been cut inside the header and before its last byte, prolonged, readdressed and given
a tag of zeros. -/
theorem decode_altered_request :
    let shared : SharedKey := ⟨⟨List.replicate 32 0x42, rfl⟩⟩
    let request : Command := .of (.known .requestData) [0x0C, 0x00]
    let nonces : Nonces := { bytes := [0x05] }
    let message : Bytes := List.replicate 24 0x05 ++ [0x07, 0x00, 0x00, 0x00, 0x1A, 0x00] ++
      [0x02, 0xC5, 0x1D, 0xE7, 0x8B, 0xC8, 0x88, 0x0C, 0xAB, 0x57, 0x75, 0xCA, 0xC0, 0x23, 0x21, 0x34] ++
      [0x8C, 0x24, 0x9A, 0x42, 0x74, 0xBE, 0x1D, 0xB9, 0x48, 0x4F]
    (encodeNext 7 shared request nonces).1 = .ok message ∧
      decode shared (message.take 29) = .error (.tooShort 30 29) ∧
      decode shared (message.take 55) = .error (.tooShort 56 55) ∧
      decode shared (message ++ [0xAA, 0xBB]) = .ok (7, request) ∧
      decode shared (message.take 24 ++ Bytes.ofWord32 9 ++ message.drop 28) =
        .error (.authorizationIdMismatch 9 7) ∧
      decode shared (message.take 30 ++ List.replicate 16 0x00 ++ message.drop 46) =
        .error .decryptionFailed ∧
      checkedDecode shared (message.take 55) = some (.error (.tooShort 56 55)) := by
  intro shared request nonces message
  have hsealed : (encodeNext 7 shared request nonces).1 = .ok message := by
    rw [encodeNext_fst, encode_ok_iff]
    decide +kernel
  obtain ⟨hcut, hprolonged, hreaddressed, hretagged, hchecked⟩ :=
    decode_altered 7 shared request nonces message hsealed
  have hshort := hcut 55 (by decide)
  refine ⟨hsealed, hcut 29 (by decide), hshort, hprolonged _, hreaddressed 9 (by decide),
    hretagged _ List.length_replicate (by decide), ?_⟩
  rw [hchecked, hshort]
  rfl

end Latchkey.Sealed
