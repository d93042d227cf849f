import Latchkey.Device.Condition
import Latchkey.Failure
import Latchkey.Sealed

/-!
# Characteristics and codecs

A device exposes two characteristics, one for plain commands and one for sealed ones. Each family has its
own pair, so finding a characteristic tells the family of the device. A codec is how the commands of a channel
become messages and back.
-/

namespace Latchkey

@[ext] structure Uuid where
  value : BitVec 128
deriving DecidableEq, Repr

namespace Uuid

def text (u : Uuid) : String :=
  let digits := Bytes.toHexChars (Bytes.ofNat 16 u.value.toNat).reverse
  let group (start length : Nat) := String.ofList ((digits.drop start).take length)
  s!"{group 0 8}-{group 8 4}-{group 12 4}-{group 16 4}-{group 20 12}"

/-- The identifier spelled by thirty-two hexadecimal digits, whatever hyphens are between them. -/
def ofText? (text : String) : Option Uuid := do
  let bytes ← Bytes.ofHexChars? (text.toList.filter (· ≠ '-'))
  if bytes.length = 16 then some ⟨BitVec.ofNat 128 (Bytes.toNat bytes.reverse)⟩ else none

end Uuid

inductive ChannelKind where
  /-- Plain commands, before there is an authorization. -/
  | general
  /-- Sealed commands of an authorization. -/
  | user
deriving DecidableEq, Repr

namespace ChannelKind

def tag : ChannelKind → String
  | general => "GDIO"
  | user => "UDIO"

def display : ChannelKind → String
  | general => "general data input output"
  | user => "user-specific data input output"

def label : ChannelKind → String
  | general => "General"
  | user => "User"

end ChannelKind

structure Profile where
  family : Family
  general : Uuid
  user : Uuid

namespace Profile

def characteristic (p : Profile) : ChannelKind → Uuid
  | .general => p.general
  | .user => p.user

def smartLock : Profile where
  family := .smartLock
  general := ⟨0xA92EE101550111E4916C0800200C9A66#128⟩
  user := ⟨0xA92EE202550111E4916C0800200C9A66#128⟩

def opener : Profile where
  family := .opener
  general := ⟨0xA92AE101550111E4916C0800200C9A66#128⟩
  user := ⟨0xA92AE202550111E4916C0800200C9A66#128⟩

/-- All profiles, in the order in which they are looked for. -/
def all : List Profile := [smartLock, opener]

def ofFamily? (family : Family) : Option Profile := all.find? (·.family = family)

/-- The first profile whose characteristic for the channel is exposed. -/
def find? (exposed : List Uuid) (kind : ChannelKind) : Option Profile :=
  all.find? fun p => p.characteristic kind ∈ exposed

end Profile

inductive Codec where
  | plain
  | sealed (authorization : UInt32) (shared : SharedKey)
deriving DecidableEq

namespace Codec

def kind : Codec → ChannelKind
  | plain => .general
  | sealed .. => .user

/-- The message of a command; sealing uses up a nonce. -/
def encode (codec : Codec) (c : Command) (nonces : Nonces) : Except WireError Bytes × Nonces :=
  match codec with
  | plain => (.ok c.encode, nonces)
  | sealed authorization shared => Sealed.encodeNext authorization shared c nonces

/-- The command of a message. A sealed message has to be sealed for the authorization of the channel. -/
def decode (message : Bytes) : Codec → Except Failure Command
  | plain => (Command.decode message).mapError Failure.wire
  | sealed authorization shared =>
    match Sealed.decode shared message with
    | .ok (inner, c) =>
      if inner = authorization then .ok c
      else .error (.unexpectedAuthorization authorization inner)
    | .error e => .error (.wire e)

def debug : Codec → String
  | plain => "Plain"
  | sealed authorization _ => s!"Encrypted \x7b authorization_id: {authorization}, .. \x7d"

end Codec

end Latchkey
