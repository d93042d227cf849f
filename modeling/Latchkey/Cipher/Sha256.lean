import Latchkey.Bytes

/-!
# SHA-256

The digest is computed on lists of big-endian words. The message schedule is a window of sixteen words that
moves on by one word a round, so no word is addressed beyond the window. The keyed digest of a message is two
nested digests with the key mixed into the front of each.
-/

namespace Latchkey.Sha256

def bigEndian (word : UInt32) : Bytes := (Bytes.ofWord32 word).reverse

def wordOf (bytes : Bytes) : UInt32 := Bytes.toWord32 bytes.reverse

def rotate (word : UInt32) (count : UInt32) : UInt32 := word >>> count ||| word <<< (32 - count)

structure State where
  a : UInt32
  b : UInt32
  c : UInt32
  d : UInt32
  e : UInt32
  f : UInt32
  g : UInt32
  h : UInt32

namespace State

def initial : State where
  a := 0x6A09E667
  b := 0xBB67AE85
  c := 0x3C6EF372
  d := 0xA54FF53A
  e := 0x510E527F
  f := 0x9B05688C
  g := 0x1F83D9AB
  h := 0x5BE0CD19

def add (s t : State) : State where
  a := s.a + t.a
  b := s.b + t.b
  c := s.c + t.c
  d := s.d + t.d
  e := s.e + t.e
  f := s.f + t.f
  g := s.g + t.g
  h := s.h + t.h

def words (s : State) : List UInt32 := [s.a, s.b, s.c, s.d, s.e, s.f, s.g, s.h]

/-- One round with a round constant and a word of the schedule. -/
def round (s : State) (constant word : UInt32) : State :=
  let sum1 := rotate s.e 6 ^^^ rotate s.e 11 ^^^ rotate s.e 25
  let choice := s.e &&& s.f ^^^ ~~~s.e &&& s.g
  let t1 := s.h + sum1 + choice + constant + word
  let sum0 := rotate s.a 2 ^^^ rotate s.a 13 ^^^ rotate s.a 22
  let majority := s.a &&& s.b ^^^ s.a &&& s.c ^^^ s.b &&& s.c
  { a := t1 + sum0 + majority, b := s.a, c := s.b, d := s.c
    e := s.d + t1, f := s.e, g := s.f, h := s.g }

end State

def constants : List UInt32 := [
  0x428A2F98, 0x71374491, 0xB5C0FBCF, 0xE9B5DBA5, 0x3956C25B, 0x59F111F1, 0x923F82A4, 0xAB1C5ED5,
  0xD807AA98, 0x12835B01, 0x243185BE, 0x550C7DC3, 0x72BE5D74, 0x80DEB1FE, 0x9BDC06A7, 0xC19BF174,
  0xE49B69C1, 0xEFBE4786, 0x0FC19DC6, 0x240CA1CC, 0x2DE92C6F, 0x4A7484AA, 0x5CB0A9DC, 0x76F988DA,
  0x983E5152, 0xA831C66D, 0xB00327C8, 0xBF597FC7, 0xC6E00BF3, 0xD5A79147, 0x06CA6351, 0x14292967,
  0x27B70A85, 0x2E1B2138, 0x4D2C6DFC, 0x53380D13, 0x650A7354, 0x766A0ABB, 0x81C2C92E, 0x92722C85,
  0xA2BFE8A1, 0xA81A664B, 0xC24B8B70, 0xC76C51A3, 0xD192E819, 0xD6990624, 0xF40E3585, 0x106AA070,
  0x19A4C116, 0x1E376C08, 0x2748774C, 0x34B0BCB5, 0x391C0CB3, 0x4ED8AA4A, 0x5B9CCA4F, 0x682E6FF3,
  0x748F82EE, 0x78A5636F, 0x84C87814, 0x8CC70208, 0x90BEFFFA, 0xA4506CEB, 0xBEF9A3F7, 0xC67178F2]

/-- The word that follows a window of sixteen words of the schedule. -/
def nextWord (window : List UInt32) : UInt32 :=
  let early := window.getD 1 0
  let late := window.getD 14 0
  let sigma0 := rotate early 7 ^^^ rotate early 18 ^^^ early >>> 3
  let sigma1 := rotate late 17 ^^^ rotate late 19 ^^^ late >>> 10
  window.getD 0 0 + sigma0 + window.getD 9 0 + sigma1

/-- Runs one round for every constant, moving the window along. -/
def rounds : List UInt32 → List UInt32 → State → State
  | [], _, s => s
  | constant :: constants, window, s =>
    rounds constants (window.tail ++ [nextWord window]) (s.round constant (window.getD 0 0))

def compress (s : State) (block : Bytes) : State :=
  s.add (rounds constants ((block.pieces 4).map wordOf) s)

/-- Fills a message up to whole blocks: a single bit, zeros, and the number of bits of the message. -/
def pad (message : Bytes) : Bytes :=
  let zeros := (119 - message.length % 64) % 64
  message ++ 0x80 :: List.replicate zeros 0 ++ (Bytes.ofNat 8 (8 * message.length)).reverse

def digest (message : Bytes) : Bytes :=
  (((pad message).pieces 64).foldl compress State.initial).words.flatMap bigEndian

@[simp] theorem length_digest (message : Bytes) : (digest message).length = 32 := by
  simp [digest, State.words, bigEndian]

end Latchkey.Sha256

namespace Latchkey.Hmac

def blockLength : Nat := 64

/-- The key in exactly one block; a longer key is replaced by its digest. -/
def block (key : Bytes) : Bytes :=
  let key := if key.length ≤ blockLength then key else Sha256.digest key
  key ++ List.replicate (blockLength - key.length) 0

def tag (key message : Bytes) : Bytes :=
  let inner := Sha256.digest ((block key).map (· ^^^ 0x36) ++ message)
  Sha256.digest ((block key).map (· ^^^ 0x5C) ++ inner)

@[simp] theorem length_tag (key message : Bytes) : (tag key message).length = 32 :=
  Sha256.length_digest _

end Latchkey.Hmac
