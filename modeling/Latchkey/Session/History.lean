import Latchkey.Log.Entry
import Latchkey.Session.Exchange

/-!
# Reading the log

A device sends the entries of its log one after the other and ends them with a status.
-/

namespace Latchkey

/-- An entry of the log with the command that carried it. -/
structure LogRecord where
  command : Command
  entry : LogEntry

structure LogRange where
  start : UInt32
  count : UInt16
  order : ByteCode LogOrder

namespace Session

def readLogEntryCount (pin : Pin) : Act Command := do
  let challenge ← challenge
  let user ← userChannel
  sendStep "requesting log entry count" user (Request.logEntryCount pin challenge).command
  let count ← waitStep "waiting for log entry count" user .logEntryCount
  let _ ← readStep "reading log entry count" LogCount.layout count
  let reply ← waitStep "waiting for status" user .status
  expectStatus "waiting for status" reply .complete
  return count

/-- Gathers entries until a status comes. A malformed entry ends the stream in its own way; everything
else that is neither entry nor status ends the wait for one. -/
def hearEntry (ch : Channel) (records : List LogRecord) :
    Arrival → Heard (List LogRecord) (Except Failure Unit)
  | .error e => .done (.error e)
  | .ok c =>
    match ch.refuseFault c with
    | .error e => .done (.error e)
    | .ok c =>
      match c.id with
      | .known .logEntry =>
        match LogEntry.layout.read c with
        | .ok entry => .more (records ++ [⟨c, entry⟩])
        | .error e => .done (.ok (.error (.during "reading log entry" (.wire e))))
      | .known .status => .done (.ok (.ok ()))
      | got => .done (.error (.unexpectedResponse "LogEntry or Status" got))

def requestLogEntries (range : LogRange) (pin : Pin) : Act Channel := do
  let challenge ← challenge
  let user ← userChannel
  sendStep "requesting log entries" user
    (Request.logEntries range.start range.count range.order pin challenge).command
  return user

/-- Asks for entries and returns those that came, which are what a caller is handed one by one, and how the stream
ended. -/
def streamLogEntries (range : LogRange) (pin : Pin) :
    StateM Session (List LogRecord × Except Failure Unit) := fun s =>
  match requestLogEntries range pin s with
  | (.error e, s) => (([], .error e), s)
  | (.ok user, s) =>
    let ((records, result), scene) := user.listen (hearEntry user) s.options.timeout [] s.scene
    let result := match result with
      | .ok result => result
      | .error e => .error (.during "waiting for log entry" e)
    ((records, result), { s with scene })

/-- Asks for entries and returns them if the stream ended well. -/
def readLogEntries (range : LogRange) (pin : Pin) : Act (List LogRecord) := fun s =>
  let ((records, result), s) := streamLogEntries range pin s
  (result.map fun () => records, s)

end Session

end Latchkey
