import Latchkey.Report.Config
import Latchkey.Report.State
import Latchkey.Session.Basic

/-!
# Exchanges on the user channel

Requests that change something carry a challenge, which the device gives out once for every request.
-/

namespace Latchkey.Session

def challenge : Act Bytes := do
  let user ← userChannel
  sendStep "requesting challenge" user (Request.data (.known .challenge)).command
  let reply ← waitStep "waiting for challenge" user .challenge
  readStep "reading challenge" challengeReport reply

/-- Makes a request with a fresh challenge and waits until the device has carried it out. A device that
only accepts the request at first has to complete it later. -/
def perform (request : Bytes → Command) : Act Unit := do
  let challenge ← challenge
  let user ← userChannel
  sendStep "sending action" user (request challenge)
  let reply ← waitStep "waiting for status" user .status
  let status ← readStep "reading status" statusReport reply
  match status with
  | .known .complete => return ()
  | .known .accepted =>
    let reply ← waitStep "waiting for completion" user .status
    expectStatus "completing action" reply .complete
  | got => throw (.during "reading status" (.unexpectedStatus (.known .accepted) got))

def lockAction (action : ByteCode LockAction) : Act Unit := do
  requireFamily .smartLock
  let o := (← get).options
  perform fun challenge => (Request.lockAction action o.app 0 o.suffix challenge).command

def openAction (action : ByteCode OpenAction) : Act Unit := do
  requireFamily .opener
  let o := (← get).options
  perform fun challenge => (Request.openAction action o.app 0 o.suffix challenge).command

/-- The state a lock passes through during an action, and the state it ends in. -/
def transition? : ByteCode LockAction → Option (LockState × LockState)
  | .known .unlock => some (.unlocking, .unlocked)
  | .known .lock => some (.locking, .locked)
  | .known .unlatch => some (.unlatching, .unlatched)
  | _ => none

def expectLock (name : String) (user : Channel) (expected : LockState) : Act Unit := do
  let reply ← waitStep name user .keyturnerStates
  Act.step name do
    let report ← Act.ofWire (StateReport.read reply)
    if report.lock ≠ .known expected then
      throw (.unexpectedLockState (.known expected) report.lock)

/-- Lets a lock act and follows it through its states. -/
def lockActionConfirmed (action : ByteCode LockAction) : Act Unit := do
  requireFamily .smartLock
  let some (passing, final) := transition? action | throw (.unsupportedAction action)
  let o := (← get).options
  let challenge ← challenge
  let user ← userChannel
  sendStep "sending lock action" user (Request.lockAction action o.app 0 o.suffix challenge).command
  let reply ← waitStep "waiting for acceptance" user .status
  expectStatus "waiting for acceptance" reply .accepted
  expectLock "waiting for transitional state" user passing
  expectLock "waiting for final state" user final
  let reply ← waitStep "waiting for completion" user .status
  expectStatus "waiting for completion" reply .complete

def readStates : Act Command := do
  let user ← userChannel
  sendStep "requesting device states" user (Request.data (.known .keyturnerStates)).command
  let reply ← waitStep "waiting for device states" user .keyturnerStates
  let _ ← Act.step "reading device states" (Act.ofWire (StateReport.read reply))
  return reply

def readConfig : Act Command := do
  let challenge ← challenge
  let user ← userChannel
  sendStep "requesting config" user (Request.config challenge).command
  let reply ← waitStep "waiting for config" user .config
  let _ ← Act.step "reading config" (Act.ofWire (ConfigReport.read reply))
  return reply

def setLogging (enable : Bool) (pin : Pin) : Act Unit :=
  perform fun challenge => (Request.logging enable pin challenge).command

def updateTime (time : Moment) (pin : Pin) : Act Unit :=
  perform fun challenge => (Request.updateTime time pin challenge).command

/-- Restarts the device, which ends the connection. -/
def reboot (pin : Pin) : Act Unit := do
  let challenge ← challenge
  let user ← userChannel
  sendStep "sending reboot request" user (Request.reboot pin challenge).command
  let _ ← Act.failureOf close

end Latchkey.Session
