import Latchkey.Radio.Scene
import Latchkey.Report.Reply
import Latchkey.Time.Span

/-!
# Channels

A channel is a subscription to one characteristic of a link. Commands are sent over it chunk by chunk, and
what arrives is listened to until it decides the matter, the time is up or the caller gives up.

A wait is over when its deadline has come, and it has one only if the clock can show that moment: `listenBy?` and the
waits made of it ask the clock, while `listen` and the waits made of it take the deadline for granted.
-/

namespace Latchkey

/-- A subscribed characteristic. -/
structure Channel where
  link : Nat
  characteristic : Uuid
  family : Family
  codec : Codec

inductive Heard (σ α : Type) where
  /-- It does not matter, and the time goes on running. -/
  | skip
  /-- It was expected, and the time starts anew. -/
  | more (state : σ)
  | done (result : Except Failure α)

structure Drained (σ α : Type) where
  state : σ
  /-- The time has started anew. -/
  renewed : Bool
  result : Option (Except Failure α)
  /-- What has not been looked at. -/
  rest : List Arrival

/-- Goes through arrivals until one of them decides the matter. -/
def drain {σ α : Type} (hear : σ → Arrival → Heard σ α) (state : σ) (renewed : Bool) :
    List Arrival → Drained σ α
  | [] => ⟨state, renewed, none, []⟩
  | arrival :: rest =>
    match hear state arrival with
    | .skip => drain hear state renewed rest
    | .more state => drain hear state true rest
    | .done result => ⟨state, renewed, some result, rest⟩

namespace Channel

def attach (link : Nat) (codec : Codec) : Radio Channel := do
  match Profile.find? ((← get).link link).exposed codec.kind with
  | none => throw (.characteristicNotFound codec.kind.display)
  | some profile =>
    let characteristic := profile.characteristic codec.kind
    Radio.onLink link (·.subscribe characteristic codec)
    return { link, characteristic, family := profile.family, codec }

def close (ch : Channel) : Radio Unit := Radio.onLink ch.link (·.unsubscribe ch.characteristic)

def mailbox? (ch : Channel) (s : Scene) : Option Mailbox :=
  (s.link ch.link).mailboxes.get? ch.characteristic

def putInbox (ch : Channel) (inbox : List Arrival) (s : Scene) : Scene :=
  s.adjustLink ch.link fun p =>
    { p with mailboxes := p.mailboxes.adjust ch.characteristic fun box => { box with inbox } }

/-- The message of a command, sealed under the next nonce where the channel is sealed. -/
def encode (ch : Channel) (c : Command) : Radio Bytes := fun s =>
  let (message, nonces) := ch.codec.encode c s.nonces
  (message.mapError Failure.wire, { s with nonces })

/-- Writes chunks until one cannot be written. -/
def writeAll (ch : Channel) : List Bytes → Radio Unit
  | [] => return ()
  | chunk :: chunks => do
    Radio.onLink ch.link (·.write ch.characteristic chunk)
    ch.writeAll chunks

/-- Sends a command. What arrived before is an answer to something else and is thrown away. Nothing is taken out
while the chunks are written, so what arrives between two of them counts as arriving right after the send. -/
def send (ch : Channel) (c : Command) : Radio Unit := do
  modify (ch.putInbox [])
  let message ← ch.encode c
  ch.writeAll (Chunk.split message)

/-- What a listener finds at one moment. -/
inductive Found (σ α : Type) where
  | settled (state : σ) (result : Except Failure α)
  /-- Nothing is decided before the deadline. -/
  | pending (state : σ) (deadline : Nat)

/-- How many milliseconds a listener waits, a fraction counting as a whole one. -/
def patience (timeout : Span) : Nat := (timeout.nanoseconds + 999999) / 1000000

def tooLate (timeout : Span) : Failure := .timeout (timeout.millis % UInt64.size)

/-- Looks at what has arrived. Giving up comes before everything else, and arrivals come before the
deadline. -/
def look {σ α : Type} (ch : Channel) (hear : σ → Arrival → Heard σ α) (timeout : Span) (state : σ)
    (deadline : Nat) (s : Scene) : Found σ α × Scene :=
  if s.cancelled then (.settled state (.error .cancelled), s)
  else
    let inbox := ((ch.mailbox? s).map Mailbox.inbox).getD []
    let attached := ((ch.mailbox? s).map Mailbox.attached).getD false
    let drained := drain hear state false inbox
    let deadline := if drained.renewed then s.now + patience timeout else deadline
    let s := ch.putInbox drained.rest s
    match drained.result with
    | some result => (.settled drained.state result, s)
    | none =>
      if !attached then (.settled drained.state (.error .channelClosed), s)
      else if deadline ≤ s.now then (.settled drained.state (.error (tooLate timeout)), s)
      else (.pending drained.state deadline, s)

def listenOn {σ α : Type} (ch : Channel) (hear : σ → Arrival → Heard σ α) (timeout : Span) :
    List Appointment → σ → Nat → Scene → (σ × Except Failure α) × Scene
  | [], state, deadline, s =>
    match ch.look hear timeout state deadline s with
    | (.settled state result, s) => ((state, result), s)
    | (.pending state deadline, s) => ((state, .error (tooLate timeout)), { s with now := deadline })
  | appointment :: agenda, state, deadline, s =>
    match ch.look hear timeout state deadline s with
    | (.settled state result, s) => ((state, result), s)
    | (.pending state deadline, s) =>
      if appointment.time ≤ deadline then
        ch.listenOn hear timeout agenda state deadline (s.keep appointment agenda)
      else ((state, .error (tooLate timeout)), { s with now := deadline })

/-- Listens until the matter is decided, and returns what the listener had gathered by then. -/
def listen {σ α : Type} (ch : Channel) (hear : σ → Arrival → Heard σ α) (timeout : Span) (state : σ) :
    StateM Scene (σ × Except Failure α) := fun s =>
  ch.listenOn hear timeout s.agenda state (s.now + patience timeout) s

/-- Listens by a clock that shows `r` at the beginning. Where the clock cannot show the moment that is later by the
timeout, there is no deadline to listen until. -/
def listenBy? {σ α : Type} (ch : Channel) (r : ClockReading) (hear : σ → Arrival → Heard σ α) (timeout : Span)
    (state : σ) (s : Scene) : Option ((σ × Except Failure α) × Scene) := do
  let due ← r.add? timeout
  return ch.listenOn hear timeout s.agenda state (s.now + r.millisUntil due) s

/-- Takes a command as it is, unless it reports a fault. -/
def refuseFault (ch : Channel) (c : Command) : Except Failure Command :=
  match c.fault? ch.family with
  | some fault => .error (.device fault)
  | none => .ok c

def hearNext (ch : Channel) (_ : Unit) : Arrival → Heard Unit Command
  | .ok c => .done (ch.refuseFault c)
  | .error e => .done (.error e)

/-- Decides for a command with this id, a fault or a damaged message, whichever comes first. -/
def hearFor (ch : Channel) (id : CommandId) (_ : Unit) : Arrival → Heard Unit Command
  | .ok c =>
    if c.Carries id then .done (.ok c)
    else
      match ch.refuseFault c with
      | .ok _ => .skip
      | .error e => .done (.error e)
  | .error e => .done (.error e)

def wait (ch : Channel) (timeout : Span) : Radio Command := do
  let (_, result) ← ch.listen ch.hearNext timeout ()
  MonadExcept.ofExcept result

/-- Waits for a command with this id and throws others away. -/
def waitFor (ch : Channel) (id : CommandId) (timeout : Span) : Radio Command := do
  let (_, result) ← ch.listen (ch.hearFor id) timeout ()
  MonadExcept.ofExcept result

def waitBy? (ch : Channel) (r : ClockReading) (timeout : Span) (s : Scene) :
    Option (Except Failure Command × Scene) := do
  let ((_, result), s) ← ch.listenBy? r ch.hearNext timeout () s
  return (result, s)

def waitForBy? (ch : Channel) (r : ClockReading) (id : CommandId) (timeout : Span) (s : Scene) :
    Option (Except Failure Command × Scene) := do
  let ((_, result), s) ← ch.listenBy? r (ch.hearFor id) timeout () s
  return (result, s)

def debug (ch : Channel) : String :=
  s!"Channel \x7b kind: {ch.codec.kind.label}, characteristic: {ch.characteristic.text}, " ++
    s!"device_type: {ch.family.label}, encrypted: {decide (ch.codec.kind = .user)} \x7d"

end Channel

end Latchkey
