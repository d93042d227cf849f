import Latchkey.Bytes

/-!
# Secret boxes

A secret box is a tag followed by the message, encrypted with a stream that the key and a nonce of
twenty-four bytes select. The first thirty-two bytes of the stream are the key of the tag. A box opens only
under the key and nonce it was sealed with.

The cipher works on a square of sixteen words. Its rounds mix the words of every column and then those of
every row. `Salsa20.hash` derives a key from a key and sixteen more bytes; `Salsa20.keystream` is the stream
that long nonces select. The tag is a one-time authenticator: the message is a polynomial over the integers
modulo `2¹³⁰ - 5`, evaluated at one half of the key and masked by the other.
-/

namespace Latchkey.Salsa20

def rotate (word : UInt32) (count : UInt32) : UInt32 := word <<< count ||| word >>> (32 - count)

/-- Four words: a row or a column of the square. -/
structure Quad where
  a : UInt32
  b : UInt32
  c : UInt32
  d : UInt32

namespace Quad

/-- The words from the second on, and then the first. -/
def turn (q : Quad) : Quad := ⟨q.b, q.c, q.d, q.a⟩

def mix (q : Quad) : Quad :=
  let b := q.b ^^^ rotate (q.a + q.d) 7
  let c := q.c ^^^ rotate (b + q.a) 9
  let d := q.d ^^^ rotate (c + b) 13
  let a := q.a ^^^ rotate (d + c) 18
  ⟨a, b, c, d⟩

def add (q r : Quad) : Quad := ⟨q.a + r.a, q.b + r.b, q.c + r.c, q.d + r.d⟩

def ofBytes (bytes : Bytes) : Quad where
  a := Bytes.toWord32 (bytes.take 4)
  b := Bytes.toWord32 ((bytes.drop 4).take 4)
  c := Bytes.toWord32 ((bytes.drop 8).take 4)
  d := Bytes.toWord32 ((bytes.drop 12).take 4)

def toBytes (q : Quad) : Bytes :=
  Bytes.ofWord32 q.a ++ Bytes.ofWord32 q.b ++ Bytes.ofWord32 q.c ++ Bytes.ofWord32 q.d

@[simp] theorem length_toBytes (q : Quad) : q.toBytes.length = 16 := by simp [toBytes]

end Quad

structure Square where
  w : Quad
  x : Quad
  y : Quad
  z : Quad

namespace Square

def transpose (s : Square) : Square where
  w := ⟨s.w.a, s.x.a, s.y.a, s.z.a⟩
  x := ⟨s.w.b, s.x.b, s.y.b, s.z.b⟩
  y := ⟨s.w.c, s.x.c, s.y.c, s.z.c⟩
  z := ⟨s.w.d, s.x.d, s.y.d, s.z.d⟩

/-- Mixes every row, starting at the word on the diagonal. -/
def mixRows (s : Square) : Square where
  w := s.w.mix
  x := s.x.turn.mix.turn.turn.turn
  y := s.y.turn.turn.mix.turn.turn
  z := s.z.turn.turn.turn.mix.turn

def doubleRound (s : Square) : Square := s.transpose.mixRows.transpose.mixRows

def scramble (s : Square) : Square := Nat.repeat doubleRound 10 s

def add (s t : Square) : Square := ⟨s.w.add t.w, s.x.add t.x, s.y.add t.y, s.z.add t.z⟩

def toBytes (s : Square) : Bytes := s.w.toBytes ++ s.x.toBytes ++ s.y.toBytes ++ s.z.toBytes

/-- Places a constant on the diagonal and a key of thirty-two bytes around sixteen more bytes. -/
def setUp (key input : Bytes) : Square :=
  let low := Quad.ofBytes key
  let high := Quad.ofBytes (key.drop 16)
  let middle := Quad.ofBytes input
  { w := ⟨0x61707865, low.a, low.b, low.c⟩
    x := ⟨low.d, 0x3320646E, middle.a, middle.b⟩
    y := ⟨middle.c, middle.d, 0x79622D32, high.a⟩
    z := ⟨high.b, high.c, high.d, 0x6B206574⟩ }

end Square

/-- Derives thirty-two bytes from a key and sixteen bytes. -/
def hash (key input : Bytes) : Bytes :=
  let s := (Square.setUp key input).scramble
  (Quad.mk s.w.a s.x.b s.y.c s.z.d).toBytes ++ (Quad.mk s.x.c s.x.d s.y.a s.y.b).toBytes

/-- The sixty-four bytes of the key stream at a counter, for a nonce of eight bytes. -/
def block (key nonce : Bytes) (counter : Nat) : Bytes :=
  let s := Square.setUp key (nonce ++ Bytes.ofNat 8 counter)
  (s.scramble.add s).toBytes

/-- The first `length` bytes of the key stream for a nonce of twenty-four bytes. -/
def keystream (key nonce : Bytes) (length : Nat) : Bytes :=
  let subkey := hash key (nonce.take 16)
  ((List.range ((length + 63) / 64)).flatMap (block subkey (nonce.drop 16))).take length

@[simp] theorem length_hash (key input : Bytes) : (hash key input).length = 32 := by simp [hash]

@[simp] theorem length_block (key nonce : Bytes) (counter : Nat) :
    (block key nonce counter).length = 64 := by simp [block, Square.toBytes]

@[simp] theorem length_keystream (key nonce : Bytes) (length : Nat) :
    (keystream key nonce length).length = length := by
  have hsum : ((List.range ((length + 63) / 64)).map fun _ => 64).sum = (length + 63) / 64 * 64 := by
    rw [List.map_const', List.sum_replicate_nat, List.length_range]
  simp only [keystream, List.length_take, List.length_flatMap, length_block, hsum]
  omega

end Latchkey.Salsa20

namespace Latchkey.Poly1305

def p : Nat := (1 <<< 130) - 5

/-- The bits of the evaluation point that may be set. -/
def pointMask : Nat := 0x0FFFFFFC0FFFFFFC0FFFFFFC0FFFFFFF

/-- The coefficient of a piece of at most sixteen bytes. -/
def coefficient (piece : Bytes) : Nat := Bytes.toNat (piece ++ [1])

def evaluate (point : Nat) (message : Bytes) : Nat :=
  (message.pieces 16).foldl (fun sum piece => (sum + coefficient piece) * point % p) 0

def tag (key message : Bytes) : Bytes :=
  let point := Bytes.toNat (key.take 16) &&& pointMask
  Bytes.ofNat 16 (evaluate point message + Bytes.toNat (key.drop 16))

@[simp] theorem length_tag (key message : Bytes) : (tag key message).length = 16 :=
  Bytes.length_ofNat ..

end Latchkey.Poly1305

namespace Latchkey.SecretBox

def tagLength : Nat := 16

/-- The stream for a message of the given length, behind the key of the tag. -/
def stream (key nonce : Bytes) (length : Nat) : Bytes × Bytes :=
  (Salsa20.keystream key nonce (32 + length)).splitAt 32

def encrypt (key nonce message : Bytes) : Bytes :=
  let (tagKey, pad) := stream key nonce message.length
  let ciphertext := Bytes.xor message pad
  Poly1305.tag tagKey ciphertext ++ ciphertext

/-- Checks the tag and decrypts the message. -/
def decrypt? (key nonce box : Bytes) : Option Bytes :=
  if box.length < tagLength then none
  else
    let ciphertext := box.drop tagLength
    let (tagKey, pad) := stream key nonce ciphertext.length
    if Poly1305.tag tagKey ciphertext = box.take tagLength then some (Bytes.xor ciphertext pad) else none

end Latchkey.SecretBox
