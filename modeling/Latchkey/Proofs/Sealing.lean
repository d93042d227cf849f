import Latchkey.Link.Codec
import Latchkey.Proofs.Words

/-!
# Sealed messages are genuine

A secret box opens to a message exactly when it is the box of that message, so a sealed message that opens
is, up to bytes behind it, the one that sealing its own content under its own nonce gives.
-/

namespace Latchkey.SecretBox

theorem length_pad (key nonce : Bytes) (length : Nat) : (stream key nonce length).2.length = length := by
  simp [stream, List.splitAt_eq]

@[simp] theorem length_encrypt (key nonce message : Bytes) :
    (encrypt key nonce message).length = message.length + tagLength := by
  simp only [encrypt, List.length_append, Poly1305.length_tag, Bytes.length_xor, length_pad, tagLength]
  omega

theorem decrypt?_eq_some_iff {key nonce box message : Bytes} :
    decrypt? key nonce box = some message ↔ box = encrypt key nonce message := by
  constructor
  · intro h
    unfold decrypt? at h
    split at h
    · contradiction
    · rename_i hlen
      simp only [Option.ite_none_right_eq_some, Option.some.injEq] at h
      obtain ⟨htag, rfl⟩ := h
      have hpad := length_pad key nonce (box.drop tagLength).length
      have hlength : (Bytes.xor (box.drop tagLength)
          (stream key nonce (box.drop tagLength).length).2).length = (box.drop tagLength).length := by
        rw [Bytes.length_xor, hpad, Nat.min_self]
      simp only [encrypt, hlength]
      rw [Bytes.xor_xor_cancel (by omega), htag, List.take_append_drop]
  · rintro rfl
    have hpad := length_pad key nonce message.length
    have hlength : (Bytes.xor message (stream key nonce message.length).2).length = message.length := by
      rw [Bytes.length_xor, hpad, Nat.min_self]
    have htag : (Poly1305.tag (stream key nonce message.length).1
        (Bytes.xor message (stream key nonce message.length).2)).length = tagLength :=
      Poly1305.length_tag ..
    have hlong : ¬ (encrypt key nonce message).length < tagLength := by
      rw [length_encrypt]
      omega
    rw [decrypt?, if_neg hlong]
    simp only [encrypt, ← htag, List.drop_left, List.take_left, hlength, if_true]
    rw [Bytes.xor_xor_cancel (by omega)]

end Latchkey.SecretBox

namespace Latchkey.Nonces

private theorem draw_rest (front rest : Bytes) :
    (draw rest.length ⟨front ++ rest, front.length⟩).1 = rest := by
  -- What has been drawn moves to the front; the place wraps around only behind the last byte.
  induction rest generalizing front with
  | nil => rfl
  | cons b rest ih =>
    have hnext : next ⟨front ++ b :: rest, front.length⟩ =
        (b, ⟨front ++ b :: rest, (front.length + 1) % (front ++ b :: rest).length⟩) := by
      simp [next]
    simp only [List.length_cons, draw, hnext, List.cons.injEq, true_and]
    cases rest with
    | nil => rfl
    | cons c rest =>
      have hmod : (front.length + 1) % (front ++ b :: c :: rest).length = (front ++ [b]).length := by
        simp only [List.length_append, List.length_cons, List.length_nil]
        exact Nat.mod_eq_of_lt (by omega)
      have h := ih (front ++ [b])
      rw [List.append_assoc, List.singleton_append] at h
      rw [hmod]
      exact h

private theorem exists_draw (bytes : Bytes) : ∃ nonces : Nonces, (nonces.draw bytes.length).1 = bytes :=
  ⟨⟨bytes, 0⟩, draw_rest [] bytes⟩

end Latchkey.Nonces

namespace Latchkey.Sealed

@[simp] theorem length_content (authorization : UInt32) (command : Command) :
    (content authorization command).length = command.payload.length + overhead := by
  simp only [content, Command.body, List.length_append, Bytes.length_ofWord16, Bytes.length_ofWord32,
    overhead]
  omega

private theorem front_fields {front : Bytes} (h : 6 ≤ front.length) :
    Bytes.ofWord32 (Bytes.toWord32 (front.take 4)) ++
      Command.body ⟨Bytes.toWord16 ((front.drop 4).take 2), front.drop 6⟩ = front := by
  have hauthorization : (front.take 4).length = 4 := by
    rw [List.length_take]
    omega
  have hid : ((front.drop 4).take 2).length = 2 := by
    rw [List.length_take, List.length_drop]
    omega
  have hpayload : front.drop 6 = (front.drop 4).drop 2 := by rw [List.drop_drop]
  rw [Command.body, Bytes.ofWord32_toWord32 hauthorization, Bytes.ofWord16_toWord16 hid, hpayload,
    List.take_append_drop, List.take_append_drop]

private theorem content_of_decodeContent {outer inner : UInt32} {bytes : Bytes} {command : Command}
    (h : decodeContent outer bytes = .ok (inner, command)) :
    inner = outer ∧ bytes = content outer command := by
  unfold decodeContent at h
  split at h
  · contradiction
  rename_i hlen
  simp only [overhead] at hlen
  dsimp only at h
  split at h
  · contradiction
  rename_i hcheck
  split at h
  · contradiction
  rename_i hinner
  simp only [ne_eq, Decidable.not_not] at hcheck hinner
  simp only [Except.ok.injEq, Prod.mk.injEq] at h
  obtain ⟨rfl, rfl⟩ := h
  have hback : (bytes.drop (bytes.length - 2)).length = 2 := by
    rw [List.length_drop]
    omega
  refine ⟨hinner, ?_⟩
  rw [content, ← hinner, front_fields (by rw [List.length_take]; omega), hcheck,
    Bytes.ofWord16_toWord16 hback, List.take_append_drop]

theorem decodeContent_sealed (outer authorization : UInt32) (command : Command) :
    decodeContent outer (content authorization command) =
      if authorization = outer then .ok (authorization, command)
      else .error (.authorizationIdMismatch outer authorization) := by
  have hlen : ¬ (content authorization command).length < overhead := by
    rw [length_content]
    omega
  generalize hfront : Bytes.ofWord32 authorization ++ command.body = front
  have hcontent : content authorization command = front ++ Bytes.ofWord16 (Crc16.checksum front) := by
    rw [content, hfront]
  have hcut : (front ++ Bytes.ofWord16 (Crc16.checksum front)).length - 2 = front.length := by
    rw [List.length_append, Bytes.length_ofWord16, Nat.add_sub_cancel]
  have hinner : front.take 4 = Bytes.ofWord32 authorization := by
    rw [← hfront, List.take_left' (Bytes.length_ofWord32 authorization)]
  have htail : front.drop 4 = Bytes.ofWord16 command.rawId ++ command.payload := by
    rw [← hfront, List.drop_left' (Bytes.length_ofWord32 authorization), Command.body]
  have hpayload : front.drop 6 = command.payload := by
    have hdrop : front.drop 6 = (front.drop 4).drop 2 := by rw [List.drop_drop]
    rw [hdrop, htail, List.drop_left' (Bytes.length_ofWord16 _)]
  rw [decodeContent, if_neg hlen]
  simp only [hcontent, hcut, List.take_left, List.drop_left, Bytes.toWord16_ofWord16, hinner,
    Bytes.toWord32_ofWord32, ne_eq, not_true_eq_false, if_false, htail, hpayload,
    List.take_left' (Bytes.length_ofWord16 _), ite_not]

/-- Sealing succeeds exactly for payloads of at most 65511 bytes. -/
theorem encode_eq (authorization : UInt32) (shared : SharedKey) (command : Command) (nonce : Bytes) :
    encode authorization shared command nonce =
      if command.payload.length ≤ 65511 then
        .ok (nonce ++ Bytes.ofWord32 authorization ++ Bytes.ofNat 2 (command.payload.length + 24) ++
          SecretBox.encrypt shared.key.bytes nonce (content authorization command))
      else .error (.messageTooLarge (command.payload.length + 24) maxSize) := by
  have hbox : (SecretBox.encrypt shared.key.bytes nonce (content authorization command)).length =
      command.payload.length + 24 := by
    rw [SecretBox.length_encrypt, length_content, overhead, SecretBox.tagLength]
  simp only [encode, hbox]
  by_cases h : command.payload.length ≤ 65511
  · rw [if_pos h, if_pos (by simp only [maxSize]; omega)]
  · rw [if_neg h, if_neg (by simp only [maxSize]; omega)]

/-- Opening a message waits for as many bytes as its header says and looks at nothing behind them. -/
theorem decode_header {nonce : Bytes} {size : Nat} (hnonce : nonce.length = nonceLength)
    (hsize : size ≤ maxSize) (shared : SharedKey) (authorization : UInt32) (bytes : Bytes) :
    decode shared (nonce ++ Bytes.ofWord32 authorization ++ Bytes.ofNat 2 size ++ bytes) =
      if bytes.length < size then
        .error (.tooShort (headerLength + size) (headerLength + bytes.length))
      else
        match SecretBox.decrypt? shared.key.bytes nonce (bytes.take size) with
        | some content => decodeContent authorization content
        | none => .error .decryptionFailed := by
  generalize hmessage :
    nonce ++ Bytes.ofWord32 authorization ++ Bytes.ofNat 2 size ++ bytes = message
  simp only [List.append_assoc] at hmessage
  simp only [maxSize] at hsize
  have hnonce' : message.take nonceLength = nonce := by
    rw [← hmessage, List.take_left' hnonce]
  have hdrop24 : message.drop 24 = Bytes.ofWord32 authorization ++ (Bytes.ofNat 2 size ++ bytes) := by
    rw [← hmessage]
    exact List.drop_left' hnonce
  have hdrop28 : message.drop 28 = Bytes.ofNat 2 size ++ bytes := by
    have h : message.drop 28 = (message.drop 24).drop 4 := by rw [List.drop_drop]
    rw [h, hdrop24, List.drop_left' (Bytes.length_ofWord32 _)]
  have hdrop30 : message.drop headerLength = bytes := by
    have h : message.drop headerLength = (message.drop 28).drop 2 := by rw [List.drop_drop]; rfl
    rw [h, hdrop28, List.drop_left' (Bytes.length_ofNat ..)]
  have hnumber : Bytes.toNat ((message.drop 28).take 2) = size := by
    rw [hdrop28, List.take_left' (Bytes.length_ofNat ..), Bytes.toNat_ofNat]
    omega
  have hlength : message.length = headerLength + bytes.length := by
    have h := congrArg List.length hdrop28
    simp only [List.length_drop, List.length_append, Bytes.length_ofNat] at h
    simp only [headerLength]
    omega
  have hshort : headerLength + bytes.length < headerLength + size ↔ bytes.length < size := by omega
  have hinner : Bytes.toWord32 ((message.drop 24).take 4) = authorization := by
    rw [hdrop24, List.take_left' (Bytes.length_ofWord32 _), Bytes.toWord32_ofWord32]
  rw [decode, if_neg (by omega)]
  by_cases hcut : bytes.length < size
  · simp only [hnumber, hlength, hshort, if_pos hcut]
  · cases hopen : SecretBox.decrypt? shared.key.bytes nonce (bytes.take size) with
    | some content => simp only [hnumber, hlength, hshort, if_neg hcut, hnonce', hdrop30, hopen, hinner]
    | none => simp only [hnumber, hlength, hshort, if_neg hcut, hnonce', hdrop30, hopen]

theorem decode_parts {nonce box : Bytes} (hnonce : nonce.length = nonceLength)
    (hbox : box.length ≤ maxSize) (shared : SharedKey) (authorization : UInt32) (rest : Bytes) :
    decode shared
        (nonce ++ Bytes.ofWord32 authorization ++ Bytes.ofNat 2 box.length ++ box ++ rest) =
      match SecretBox.decrypt? shared.key.bytes nonce box with
      | some content => decodeContent authorization content
      | none => .error .decryptionFailed := by
  have hwhole : ¬ (box ++ rest).length < box.length := by
    rw [List.length_append]
    omega
  rw [List.append_assoc, decode_header hnonce hbox, if_neg hwhole, List.take_left]

private theorem header_fields {message : Bytes} (h : headerLength ≤ message.length) :
    message.take nonceLength ++ Bytes.ofWord32 (Bytes.toWord32 ((message.drop 24).take 4)) ++
        Bytes.ofNat 2 (Bytes.toNat ((message.drop 28).take 2)) ++ message.drop headerLength =
      message := by
  simp only [headerLength] at h
  have hauthorization : ((message.drop 24).take 4).length = 4 := by
    rw [List.length_take, List.length_drop]
    omega
  have hsize : ((message.drop 28).take 2).length = 2 := by
    rw [List.length_take, List.length_drop]
    omega
  have hnumber : Bytes.ofNat 2 (Bytes.toNat ((message.drop 28).take 2)) = (message.drop 28).take 2 := by
    have h := Bytes.ofNat_toNat ((message.drop 28).take 2)
    rwa [hsize] at h
  have hdrop28 : message.drop 28 = (message.drop 24).drop 4 := by rw [List.drop_drop]
  have hdrop30 : message.drop headerLength = (message.drop 28).drop 2 := by rw [List.drop_drop]; rfl
  rw [Bytes.ofWord32_toWord32 hauthorization, hnumber, hdrop30, List.append_assoc,
    List.take_append_drop, hdrop28, List.append_assoc, List.take_append_drop]
  exact List.take_append_drop 24 message

/-- A message opens to a command exactly when it begins with the one that sealing that command under the
nonce of the message gives. -/
theorem decode_eq_ok_iff {shared : SharedKey} {message : Bytes} {authorization : UInt32}
    {command : Command} :
    decode shared message = .ok (authorization, command) ↔
      ∃ genuine, encode authorization shared command (message.take nonceLength) = .ok genuine ∧
        genuine <+: message := by
  constructor
  · intro h
    unfold decode at h
    split at h
    · contradiction
    dsimp only at h
    split at h
    · contradiction
    rename_i hheader hsize
    cases hopen : SecretBox.decrypt? shared.key.bytes (message.take nonceLength)
        ((message.drop headerLength).take (Bytes.toNat ((message.drop 28).take 2))) with
    | none =>
      rw [hopen] at h
      contradiction
    | some bytes =>
      rw [hopen] at h
      obtain ⟨houter, rfl⟩ := content_of_decodeContent h
      -- The tag pins the box, and the box pins the length field, so nothing in the header is left open.
      have hbox := SecretBox.decrypt?_eq_some_iff.mp hopen
      have hlength :
          ((message.drop headerLength).take (Bytes.toNat ((message.drop 28).take 2))).length =
            Bytes.toNat ((message.drop 28).take 2) := by
        rw [List.length_take, List.length_drop]
        omega
      have hpayload : command.payload.length + 24 = Bytes.toNat ((message.drop 28).take 2) := by
        rw [← hlength, hbox, SecretBox.length_encrypt, length_content, overhead, SecretBox.tagLength]
      have hmax := Bytes.toNat_lt ((message.drop 28).take 2)
      have htwo : ((message.drop 28).take 2).length ≤ 2 := List.length_take_le ..
      have hpow := Nat.pow_le_pow_right (by decide : 0 < 256) htwo
      rw [encode_eq, if_pos (by omega)]
      refine ⟨_, rfl, (message.drop headerLength).drop (Bytes.toNat ((message.drop 28).take 2)), ?_⟩
      rw [hpayload, houter, ← hbox, List.append_assoc, List.take_append_drop]
      exact header_fields (by omega)
  · rintro ⟨genuine, hgenuine, rest, hrest⟩
    rw [encode_eq] at hgenuine
    split at hgenuine
    · rename_i hfits
      simp only [Except.ok.injEq] at hgenuine
      have hbox : (SecretBox.encrypt shared.key.bytes (message.take nonceLength)
          (content authorization command)).length = command.payload.length + 24 := by
        rw [SecretBox.length_encrypt, length_content, overhead, SecretBox.tagLength]
      -- A shorter message has fewer bytes than any sealed one.
      have hnonce : (message.take nonceLength).length = nonceLength := by
        have h := congrArg List.length hrest
        rw [← hgenuine] at h
        simp only [List.length_append, Bytes.length_ofWord32, Bytes.length_ofNat] at h
        simp only [List.length_take, nonceLength] at h ⊢
        omega
      rw [← hgenuine, ← hbox] at hrest
      have hmax : (SecretBox.encrypt shared.key.bytes (message.take nonceLength)
          (content authorization command)).length ≤ maxSize := by
        rw [hbox, maxSize]
        omega
      have h := decode_parts hnonce hmax shared authorization rest
      rw [hrest, SecretBox.decrypt?_eq_some_iff.mpr rfl] at h
      exact h.trans ((decodeContent_sealed authorization authorization command).trans (if_pos rfl))
    · contradiction

theorem take_of_encode {authorization : UInt32} {shared : SharedKey} {command : Command}
    {nonce genuine : Bytes} (hnonce : nonce.length = nonceLength)
    (h : encode authorization shared command nonce = .ok genuine) : genuine.take nonceLength = nonce := by
  rw [encode_eq] at h
  split at h
  · simp only [Except.ok.injEq, List.append_assoc] at h
    rw [← h, List.take_left' hnonce]
  · contradiction

theorem decode_of_encode {authorization : UInt32} {shared : SharedKey} {command : Command}
    {nonce genuine : Bytes} (hnonce : nonce.length = nonceLength)
    (h : encode authorization shared command nonce = .ok genuine) :
    decode shared genuine = .ok (authorization, command) := by
  rw [decode_eq_ok_iff, take_of_encode hnonce h]
  exact ⟨genuine, h, List.prefix_refl genuine⟩

/-- There are sources that yield the first bytes of the message as the nonce, and the message begins with
what sealing the command with any of them gives. -/
def Genuine (authorization : UInt32) (shared : SharedKey) (command : Command) (message : Bytes) : Prop :=
  (∃ nonces : Nonces, (nonces.draw nonceLength).1 = message.take nonceLength) ∧
    ∀ nonces : Nonces, (nonces.draw nonceLength).1 = message.take nonceLength →
      ∃ genuine, (encodeNext authorization shared command nonces).1 = .ok genuine ∧ genuine <+: message

theorem encodeNext_fst (authorization : UInt32) (shared : SharedKey) (command : Command)
    (nonces : Nonces) :
    (encodeNext authorization shared command nonces).1 =
      encode authorization shared command (nonces.draw nonceLength).1 := by
  rw [encodeNext]

theorem length_of_encode {authorization : UInt32} {shared : SharedKey} {command : Command}
    {nonce genuine : Bytes} (h : encode authorization shared command nonce = .ok genuine) :
    genuine.length = nonce.length + 30 + command.payload.length := by
  rw [encode_eq] at h
  split at h
  · simp only [Except.ok.injEq] at h
    rw [← h]
    simp only [List.length_append, Bytes.length_ofWord32, Bytes.length_ofNat, SecretBox.length_encrypt,
      length_content, overhead, SecretBox.tagLength]
    omega
  · contradiction

private theorem genuine_iff {authorization : UInt32} {shared : SharedKey} {command : Command}
    {message : Bytes} :
    Genuine authorization shared command message ↔
      ∃ genuine, encode authorization shared command (message.take nonceLength) = .ok genuine ∧
        genuine <+: message := by
  constructor
  · rintro ⟨⟨nonces, hdraw⟩, hsource⟩
    obtain ⟨genuine, hgenuine, hprefix⟩ := hsource nonces hdraw
    refine ⟨genuine, ?_, hprefix⟩
    rw [← hgenuine, encodeNext_fst, hdraw]
  · rintro ⟨genuine, hgenuine, hprefix⟩
    have hlength := length_of_encode hgenuine
    have hle := hprefix.length_le
    have hnonce : (message.take nonceLength).length = nonceLength := by
      rw [List.length_take] at hlength ⊢
      omega
    have hsource := Nonces.exists_draw (message.take nonceLength)
    rw [hnonce] at hsource
    refine ⟨hsource, fun nonces hdraw => ⟨genuine, ?_, hprefix⟩⟩
    rw [← hgenuine, encodeNext_fst, hdraw]

/-- Nothing but a genuine sealed message is accepted, neither for an authorization nor for whichever one
the message names, and every genuine one is. -/
theorem decode_exactly_genuine (authorization : UInt32) (shared : SharedKey) (command : Command)
    (message : Bytes) :
    (Codec.decode message (.sealed authorization shared) = .ok command ↔
        Genuine authorization shared command message) ∧
      (decode shared message = .ok (authorization, command) ↔
        Genuine authorization shared command message) := by
  have hopen : decode shared message = .ok (authorization, command) ↔
      Genuine authorization shared command message := decode_eq_ok_iff.trans genuine_iff.symm
  refine ⟨?_, hopen⟩
  rw [← hopen, Codec.decode]
  cases decode shared message with
  | error e => simp
  | ok opened =>
    obtain ⟨inner, c⟩ := opened
    by_cases hinner : inner = authorization
    · simp [hinner]
    · simp [hinner]

/-- Sealing refuses exactly the payloads that do not fit; every other command comes back from its message
as it was, with a frame check over id and payload only. -/
theorem decode_encodeNext (authorization : UInt32) (shared : SharedKey) (command : Command)
    (nonces : Nonces) :
    let outcome := (encodeNext authorization shared command nonces).1
    (if 65511 < command.payload.length then
      outcome = .error (.messageTooLarge (command.payload.length + 24) 65535)
    else
      ∃ message, outcome = .ok message ∧
        message.length = 54 + command.payload.length ∧
        message.take 24 = (nonces.draw 24).1 ∧
        decode shared message = .ok (authorization, command)) ∧
      command.encode = Bytes.ofWord16 command.rawId ++ command.payload ++
        Bytes.ofWord16 (Crc16.checksum (Bytes.ofWord16 command.rawId ++ command.payload)) := by
  have hdrawn : (nonces.draw nonceLength).1.length = nonceLength := Nonces.length_draw ..
  have heq := encode_eq authorization shared command (nonces.draw nonceLength).1
  refine ⟨?_, rfl⟩
  rw [encodeNext_fst]
  split
  · rename_i hlarge
    rw [if_neg (by omega)] at heq
    exact heq
  · rename_i hfits
    rw [if_pos (by omega)] at heq
    refine ⟨_, heq, ?_, take_of_encode hdrawn heq, decode_of_encode hdrawn heq⟩
    rw [length_of_encode heq, hdrawn, nonceLength]

end Latchkey.Sealed
