import Latchkey.Link.Peripheral

/-!
# The scene of a session

A client works in a scene: the links it can use, a source of nonces, and a clock. Time stands still while a
client is busy and moves only while it waits, from one appointment to the next; what has been planned for
later than the end of the wait does not happen during it.
-/

namespace Latchkey

inductive Happening where
  | cancel
  | failure (link : Nat) (op : Operation)
  | lost (link : Nat)
  /-- Chunks arrive. -/
  | arrival (link : Nat) (characteristic : Uuid) (chunks : List Bytes)

structure Appointment where
  time : Nat
  happening : Happening

structure Scene where
  links : List Peripheral := []
  nonces : Nonces := { bytes := [] }
  /-- Milliseconds since the operation began. -/
  now : Nat := 0
  cancelled : Bool := false
  /-- What is to happen, earliest first. -/
  agenda : List Appointment := []

namespace Scene

/-- The device end of a link; a link that does not exist leads nowhere. -/
def link (s : Scene) (i : Nat) : Peripheral := s.links.getD i {}

def putLink (i : Nat) (p : Peripheral) (s : Scene) : Scene := { s with links := s.links.set i p }

def adjustLink (i : Nat) (change : Peripheral → Peripheral) (s : Scene) : Scene :=
  s.putLink i (change (s.link i))

/-- Lets something happen. Losing a link that cannot be closed has no effect. -/
def happen (s : Scene) : Happening → Scene
  | .cancel => { s with cancelled := true }
  | .failure i op => s.adjustLink i fun p => { p with failing := op :: p.failing }
  | .lost i => s.adjustLink i fun p => p.close.toOption.getD p
  | .arrival i u chunks => s.adjustLink i (·.notifyAll u chunks)

/-- Moves on to an appointment; `agenda` is what comes after it. -/
def keep (appointment : Appointment) (agenda : List Appointment) (s : Scene) : Scene :=
  { s with now := appointment.time, agenda }.happen appointment.happening

/-- The scene at the beginning of an operation. A caller who gives up at once has given up already. -/
def begin (cancelAt : Option Nat) (appointments : List Appointment) (s : Scene) : Scene :=
  let giveUp := match cancelAt with
    | some (time + 1) => [⟨time + 1, .cancel⟩]
    | _ => []
  { s with
    now := 0
    cancelled := cancelAt = some 0
    agenda := (appointments ++ giveUp).mergeSort fun a b => a.time ≤ b.time }

end Scene

/-- What is done over the links of a scene. A failure undoes nothing. -/
abbrev Radio := ExceptT Failure (StateM Scene)

namespace Radio

def onLink (i : Nat) (use : Peripheral → Except Failure Peripheral) : Radio Unit := fun s =>
  match use (s.link i) with
  | .ok p => (.ok (), s.putLink i p)
  | .error e => (.error e, s)

def drawNonce (count : Nat) : Radio Bytes := fun s =>
  let (bytes, nonces) := s.nonces.draw count
  (.ok bytes, { s with nonces })

def closeLink (i : Nat) : Radio Unit := onLink i Peripheral.close

end Radio

end Latchkey
