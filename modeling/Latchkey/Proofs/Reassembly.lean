import Latchkey.Link.Peripheral
import Latchkey.Proofs.Framing

/-!
# Messages from chunks

Chunks that are taken in one after the other give back the messages they were cut from. A message is opened
when its last chunk comes and not before, and whatever comes of opening it, nothing of it is left behind.
-/

namespace Latchkey

namespace Assembler

/-- The bytes of the message in progress. -/
def bytes (a : Assembler) : Bytes := a.backlog.reverse.flatten

theorem pending_eq (a : Assembler) : a.pending = a.bytes.length := by
  simp [pending, bytes, List.length_flatten]

theorem bytes_cons (chunk : Bytes) (a : Assembler) :
    bytes ⟨chunk :: a.backlog⟩ = a.bytes ++ chunk := by
  simp [bytes]

private theorem pending_cons (chunk : Bytes) (a : Assembler) :
    pending ⟨chunk :: a.backlog⟩ = a.pending + chunk.length := by
  rw [pending_eq, bytes_cons, List.length_append, pending_eq]

end Assembler

namespace Mailbox

theorem push_full (box : Mailbox) {chunk : Bytes} (h : chunk.length = Chunk.capacity) :
    box.push chunk = { box with assembler := ⟨chunk :: box.assembler.backlog⟩ } := by
  simp only [push, Assembler.push, if_pos h]

theorem push_last (box : Mailbox) {chunk : Bytes} (h : chunk.length ≠ Chunk.capacity) :
    box.push chunk = { box with
      assembler := {}
      inbox := box.inbox ++ [box.codec.decode (box.assembler.bytes ++ chunk)] } := by
  have hmessage : (chunk :: box.assembler.backlog).reverse.flatten = box.assembler.bytes ++ chunk :=
    Assembler.bytes_cons chunk box.assembler
  simp only [push, Assembler.push, if_neg h, hmessage]

/-- What each of the chunks adds to the inbox, and how many bytes are then pending. -/
def receipts : List Bytes → Mailbox → List (List Arrival × Nat)
  | [], _ => []
  | chunk :: chunks, box =>
    let next := box.push chunk
    (next.inbox.drop box.inbox.length, next.assembler.pending) :: receipts chunks next

private theorem receipts_full (box : Mailbox) {chunk : Bytes} (chunks : List Bytes)
    (h : chunk.length = Chunk.capacity) :
    box.receipts (chunk :: chunks) =
      ([], box.assembler.pending + Chunk.capacity) ::
        receipts chunks { box with assembler := ⟨chunk :: box.assembler.backlog⟩ } := by
  simp only [receipts, push_full box h, List.drop_length, Assembler.pending_cons, h]

private theorem receipts_last (box : Mailbox) {chunk : Bytes} (chunks : List Bytes)
    (h : chunk.length ≠ Chunk.capacity) :
    box.receipts (chunk :: chunks) =
      ([box.codec.decode (box.assembler.bytes ++ chunk)], 0) ::
        receipts chunks { box with
          assembler := {}
          inbox := box.inbox ++ [box.codec.decode (box.assembler.bytes ++ chunk)] } := by
  simp only [receipts, push_last box h, List.drop_left]
  rfl

/-- What the chunks of a message add to the inbox when `pending` bytes are there already. -/
def accounted (pending : Nat) (message : Bytes) (arrival : Arrival) : List (List Arrival × Nat) :=
  (List.range ((Chunk.split message).length - 1)).map
    (fun i => ([], pending + Chunk.capacity * (i + 1))) ++ [([arrival], 0)]

private theorem accounted_of_short (pending : Nat) {message : Bytes} (arrival : Arrival)
    (h : message.length < Chunk.capacity) : accounted pending message arrival = [([arrival], 0)] := by
  rw [accounted, Chunk.length_split, Nat.div_eq_of_lt h]
  rfl

private theorem accounted_full_append (pending : Nat) {chunk : Bytes} (message : Bytes) (arrival : Arrival)
    (h : chunk.length = Chunk.capacity) :
    accounted pending (chunk ++ message) arrival =
      ([], pending + Chunk.capacity) :: accounted (pending + Chunk.capacity) message arrival := by
  have hcount : (Chunk.split (chunk ++ message)).length - 1 = ((Chunk.split message).length - 1) + 1 := by
    simp only [Chunk.length_split, List.length_append, h, Chunk.capacity]
    omega
  rw [accounted, hcount, List.range_succ_eq_map, List.map_cons, List.map_map, List.cons_append,
    accounted]
  congr 3
  funext i
  simp only [Function.comp_apply, Chunk.capacity, Prod.mk.injEq, true_and]
  omega

theorem receipts_split (box : Mailbox) (message : Bytes) (rest : List Bytes) :
    box.receipts (Chunk.split message ++ rest) =
      accounted box.assembler.pending message
          (box.codec.decode (box.assembler.bytes ++ message)) ++
        receipts rest { box with
          assembler := {}
          inbox := box.inbox ++ [box.codec.decode (box.assembler.bytes ++ message)] } := by
  obtain ⟨full, last, hfull, hlast, rfl⟩ := Chunk.exists_split message
  rw [Chunk.split_full_append hfull hlast]
  -- Each full chunk moves from the front of the message to the bytes in progress.
  induction full generalizing box with
  | nil =>
    rw [List.flatten_nil, List.nil_append, List.nil_append, accounted_of_short _ _ hlast]
    exact receipts_last box rest (Nat.ne_of_lt hlast)
  | cons chunk full ih =>
    rw [List.forall_mem_cons] at hfull
    rw [List.cons_append, List.cons_append, receipts_full box _ hfull.1, ih _ hfull.2,
      Assembler.bytes_cons, Assembler.pending_cons, List.flatten_cons, List.append_assoc chunk,
      accounted_full_append _ _ _ hfull.1, hfull.1, List.append_assoc, List.cons_append]

theorem accounted_arrivals (pending : Nat) (message : Bytes) (arrival : Arrival) :
    (accounted pending message arrival).flatMap Prod.fst = [arrival] := by
  have hnothing : ((List.range ((Chunk.split message).length - 1)).map
      fun i => (([] : List Arrival), pending + Chunk.capacity * (i + 1))).flatMap Prod.fst = [] := by
    rw [List.flatMap_map]
    simp
  rw [accounted, List.flatMap_append, hnothing]
  rfl

theorem inbox_foldl_push (chunks : List Bytes) (box : Mailbox) :
    (chunks.foldl (fun box chunk => box.push chunk) box).inbox =
      box.inbox ++ (box.receipts chunks).flatMap Prod.fst := by
  induction chunks generalizing box with
  | nil => simp [receipts]
  | cons chunk chunks ih =>
    rw [List.foldl_cons, ih]
    by_cases hfull : chunk.length = Chunk.capacity
    · rw [push_full box hfull, receipts_full box chunks hfull]
      rfl
    · rw [push_last box hfull, receipts_last box chunks hfull, List.flatMap_cons]
      simp

/-- When all chunks of a message have been taken in, the message has been opened and none is in progress. -/
theorem foldl_push_split (box : Mailbox) (message : Bytes) :
    (Chunk.split message).foldl (fun box chunk => box.push chunk) box = { box with
      assembler := {}
      inbox := box.inbox ++ [box.codec.decode (box.assembler.bytes ++ message)] } := by
  obtain ⟨full, last, hfull, hlast, rfl⟩ := Chunk.exists_split message
  rw [Chunk.split_full_append hfull hlast]
  induction full generalizing box with
  | nil => exact push_last box (Nat.ne_of_lt hlast)
  | cons chunk full ih =>
    rw [List.forall_mem_cons] at hfull
    rw [List.cons_append, List.foldl_cons, push_full box hfull.1, ih _ hfull.2, Assembler.bytes_cons,
      List.flatten_cons]
    simp only [List.append_assoc]

/-- Where no message is in progress, the chunks of messages fill the inbox with what these open to. -/
theorem foldl_push_messages (box : Mailbox) (messages : List Bytes) (hidle : box.assembler = {}) :
    (messages.flatMap Chunk.split).foldl (fun box chunk => box.push chunk) box =
      { box with inbox := box.inbox ++ messages.map fun message => box.codec.decode message } := by
  induction messages generalizing box with
  | nil => simp
  | cons message messages ih =>
    have hbytes : box.assembler.bytes = [] := by
      rw [hidle]
      rfl
    rw [List.flatMap_cons, List.foldl_append, foldl_push_split, hbytes, ih _ rfl, hidle]
    simp

/-- Where nothing is pending, the chunks of messages give back the messages one by one: nothing comes of a
message before its last chunk, and what comes of it then is what it opens to, sound or damaged. Nothing is
pending after that, so no message has a part in what comes of another. -/
theorem receipts_messages (box : Mailbox) (messages : List Bytes) (hidle : box.assembler.pending = 0) :
    let chunks := messages.flatMap Chunk.split
    box.receipts chunks =
        messages.flatMap (fun message =>
          (List.range ((Chunk.split message).length - 1)).map
              (fun i => ([], Chunk.capacity * (i + 1))) ++
            [([box.codec.decode message], 0)]) ∧
      (chunks.foldl (fun box chunk => box.push chunk) box).inbox =
        box.inbox ++ messages.map fun message => box.codec.decode message := by
  have hreceipts : box.receipts (messages.flatMap Chunk.split) =
      messages.flatMap fun message => accounted 0 message (box.codec.decode message) := by
    induction messages generalizing box with
    | nil => rfl
    | cons message messages ih =>
      have hbytes : box.assembler.bytes = [] := by
        rw [Assembler.pending_eq] at hidle
        exact List.length_eq_zero_iff.mp hidle
      rw [List.flatMap_cons, receipts_split, hidle, hbytes, List.nil_append, List.flatMap_cons]
      congr 1
      exact ih _ rfl
  intro chunks
  refine ⟨?_, ?_⟩
  · rw [hreceipts]
    simp only [accounted, Nat.zero_add]
  · rw [inbox_foldl_push, hreceipts, List.flatMap_assoc, List.map_eq_flatMap]
    simp only [accounted_arrivals]

/-- A damaged message, and then one that fills its chunks. -/
theorem receipts_messages_damaged :
    let box : Mailbox := { codec := .plain }
    let damaged : Bytes := [0x01, 0x00, 0x0C, 0x00, 0x00, 0x00]
    let full := Command.of (.known .challenge) (List.replicate 36 0x11)
    box.assembler.pending = 0 ∧
      box.receipts ([damaged, full.encode].flatMap Chunk.split) =
        [([.error (.wire (.badCrc 0xB719 0x0000))], 0), ([], 20), ([], 40), ([.ok full], 0)] := by
  intro box damaged full
  have hcrc : Crc16.checksum [0x01, 0x00, 0x0C, 0x00] = 0xB719 := by decide +kernel
  have hdamaged : Command.decode damaged = .error (.badCrc 0xB719 0x0000) :=
    Command.decode_damaged (by decide) hcrc rfl (by decide)
  have hshort : (Chunk.split damaged).length = 1 := by simp [Chunk.length_split, damaged, Chunk.capacity]
  have hpayload : full.payload.length = 36 := List.length_replicate
  have hlong : (Chunk.split full.encode).length = 3 := by
    rw [Chunk.length_split, Command.length_encode, hpayload, Command.overhead, Chunk.capacity]
  have h := (receipts_messages box [damaged, full.encode] rfl).1
  refine ⟨rfl, h.trans ?_⟩
  simp only [List.flatMap_cons, List.flatMap_nil, hshort, hlong, box, Codec.decode, hdamaged,
    Command.decode_encode]
  rfl

end Mailbox

end Latchkey
