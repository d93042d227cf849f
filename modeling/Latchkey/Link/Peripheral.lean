import Latchkey.Link.Chunk
import Latchkey.Link.Codec

/-!
# Peripherals

The device end of a link, as a client sees it: characteristics that can be subscribed to and written to,
and an answer to every message that has been written completely. The answers are a script; each message,
whatever it says, takes the next set of replies. Any operation can be made to fail for good.
-/

namespace Latchkey

inductive Operation where
  | subscribe | unsubscribe | write | close
deriving DecidableEq, Repr

namespace Operation

def label : Operation → String
  | subscribe => "Subscribe"
  | unsubscribe => "Unsubscribe"
  | write => "Write"
  | close => "Close"

end Operation

/-- A command that arrived, or why a message that arrived is none. -/
abbrev Arrival := Except Failure Command

structure Mailbox where
  codec : Codec
  assembler : Assembler := {}
  /-- What has arrived and not been taken out yet, oldest first. -/
  inbox : List Arrival := []
  /-- The subscription stands, so more can arrive. -/
  attached : Bool := true

namespace Mailbox

def push (chunk : Bytes) (box : Mailbox) : Mailbox :=
  match box.assembler.push chunk with
  | (some message, assembler) =>
    { box with assembler, inbox := box.inbox ++ [box.codec.decode message] }
  | (none, assembler) => { box with assembler }

def deliver (box : Mailbox) (chunk : Bytes) : Mailbox := if box.attached then box.push chunk else box

def detach (box : Mailbox) : Mailbox := { box with attached := false }

end Mailbox

/-- Values kept under characteristics, at most one under each. -/
abbrev Registry (α : Type) := List (Uuid × α)

namespace Registry

variable {α : Type}

def get? (registry : Registry α) (u : Uuid) : Option α := registry.lookup u

/-- Puts a value under a characteristic in place of the one that is there. -/
def put (u : Uuid) (value : α) : Registry α → Registry α
  | [] => [(u, value)]
  | (v, old) :: registry =>
    if u = v then (u, value) :: registry else (v, old) :: put u value registry

def adjust (u : Uuid) (change : α → α) (registry : Registry α) : Registry α :=
  registry.map fun (v, value) => (v, if u = v then change value else value)

def mapValues (change : α → α) (registry : Registry α) : Registry α :=
  registry.map fun (v, value) => (v, change value)

end Registry

structure Peripheral where
  exposed : List Uuid := []
  failing : List Operation := []
  /-- The link has been closed once. -/
  closed : Bool := false
  /-- The latest subscription of every characteristic. -/
  mailboxes : Registry Mailbox := []
  outbound : Registry Assembler := []
  /-- The chunks that have been written, oldest first. -/
  written : Array (Uuid × Bytes) := #[]
  messages : Array (Uuid × Bytes) := #[]
  /-- The replies to the messages to come. -/
  script : List (List Bytes) := []

namespace Peripheral

def check (op : Operation) (p : Peripheral) : Except Failure Unit :=
  if op ∈ p.failing then .error (.transport s!"injected {op.label} failure") else .ok ()

def Subscribed (p : Peripheral) (u : Uuid) : Prop := ∃ box ∈ p.mailboxes.get? u, box.attached = true

instance (p : Peripheral) (u : Uuid) : Decidable (p.Subscribed u) :=
  match h : p.mailboxes.get? u with
  | some box =>
    if ha : box.attached = true then isTrue ⟨box, by simp [h], ha⟩
    else isFalse fun ⟨_, hb, hb'⟩ => ha (by simp_all)
  | none => isFalse fun ⟨_, hb, _⟩ => by simp [h] at hb

def notify (u : Uuid) (p : Peripheral) (chunk : Bytes) : Peripheral :=
  { p with mailboxes := p.mailboxes.adjust u (·.deliver chunk) }

def notifyAll (u : Uuid) (chunks : List Bytes) (p : Peripheral) : Peripheral := chunks.foldl (notify u) p

/-- Subscribes to a characteristic. An earlier subscription is replaced, and what it received is gone. -/
def subscribe (u : Uuid) (codec : Codec) (p : Peripheral) : Except Failure Peripheral := do
  p.check .subscribe
  if u ∈ p.exposed then return { p with mailboxes := p.mailboxes.put u { codec } }
  else throw (.characteristicNotFound u.text)

def unsubscribe (u : Uuid) (p : Peripheral) : Except Failure Peripheral := do
  p.check .unsubscribe
  return { p with mailboxes := p.mailboxes.adjust u Mailbox.detach }

/-- Answers a complete message with the next set of replies, on the same characteristic. -/
def reply (u : Uuid) (message : Bytes) (p : Peripheral) : Peripheral :=
  let p := { p with messages := p.messages.push (u, message) }
  match p.script with
  | [] => p
  | replies :: script => { p with script }.notifyAll u (replies.flatMap Chunk.split)

def write (u : Uuid) (chunk : Bytes) (p : Peripheral) : Except Failure Peripheral := do
  p.check .write
  let (complete, assembler) := ((p.outbound.get? u).getD {}).push chunk
  let p := { p with
    written := p.written.push (u, chunk), outbound := p.outbound.put u assembler }
  match complete with
  | some message => return p.reply u message
  | none => return p

/-- Closes the link, which ends all subscriptions. -/
def close (p : Peripheral) : Except Failure Peripheral := do
  p.check .close
  return { p with closed := true, mailboxes := p.mailboxes.mapValues Mailbox.detach }

end Peripheral

end Latchkey
