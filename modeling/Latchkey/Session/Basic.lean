import Latchkey.Credentials
import Latchkey.Radio.Channel
import Latchkey.Session.Options
import Latchkey.Text.Quoted

/-!
# Sessions

A session is a client together with the scene it works in. Over the general channel a client can only be
paired; with credentials installed it has a user channel as well, over which everything else is done. Closing
tries everything, whatever fails, and leaves the client without a link; the credentials stay.
-/

namespace Latchkey

structure Session where
  options : Options
  link : Option Nat := none
  general : Option Channel := none
  user : Option Channel := none
  credentials : Option Credentials := none
  scene : Scene

inductive SessionState where
  | disconnected | connected | authenticated
deriving DecidableEq, Repr

namespace SessionState

def display : SessionState → String
  | disconnected => "disconnected"
  | connected => "connected"
  | authenticated => "authenticated"

def label : SessionState → String
  | disconnected => "Disconnected"
  | connected => "Connected"
  | authenticated => "Authenticated"

end SessionState

/-- What a client does. A failure undoes nothing. -/
abbrev Act := ExceptT Failure (StateM Session)

namespace Act

variable {α : Type}

def onAir (r : Radio α) : Act α := fun s =>
  let (result, scene) := r s.scene
  (result, { s with scene })

def settle (result : Except Failure α) : Act α := fun s => (result, s)

def ofWire (result : Except WireError α) : Act α := settle (result.mapError Failure.wire)

/-- Names the step in which a failure happens. -/
def step (name : String) (act : Act α) : Act α := fun s =>
  let (result, s) := act s
  (result.mapError (Failure.during name), s)

/-- The failure of an attempt, if it fails. -/
def failureOf (act : Act Unit) : StateM Session (Option Failure) := do
  match ← act.run with
  | .ok () => return none
  | .error e => return some e

end Act

namespace Session

def start (options : Options) (scene : Scene) : Except Failure Session := do
  options.validate
  return { options, scene }

def state (s : Session) : SessionState :=
  if s.user.isSome then .authenticated else if s.link.isSome then .connected else .disconnected

def family (s : Session) : Family :=
  ((s.general <|> s.user).map Channel.family).getD .unknown

def debug (s : Session) : String :=
  let authorization := match s.credentials with
    | some c => s!"Some({c.authorization})"
    | none => "None"
  s!"Client \x7b label: {Quoted.render s.options.label}, state: {s.state.label}, " ++
    s!"device_type: {s.family.label}, authorization_id: {authorization} \x7d"

def userChannel : Act Channel := do
  let s ← get
  match s.user with
  | some user => return user
  | none => throw (if s.link.isNone then .notConnected else .notAuthenticated)

/-- Requires the user channel to be one to a device of the given family. -/
def requireFamily (required : Family) : Act Unit := do
  let actual := (← userChannel).family
  if actual ≠ required then throw (.unsupportedFamily required actual)

def sendStep (name : String) (ch : Channel) (c : Command) : Act Unit :=
  Act.step name (Act.onAir (ch.send c))

def waitStep (name : String) (ch : Channel) (id : CommandName) : Act Command := do
  let timeout := (← get).options.timeout
  Act.step name (Act.onAir (ch.waitFor (.known id) timeout))

def readStep {α : Type} (name : String) (layout : Layout α) (c : Command) : Act α :=
  Act.step name (Act.ofWire (layout.read c))

def expectStatus (name : String) (c : Command) (expected : Completion) : Act Unit :=
  Act.step name do
    let got ← Act.ofWire (statusReport.read c)
    if got ≠ .known expected then throw (.unexpectedStatus (.known expected) got)

end Session

end Latchkey

namespace Latchkey.Session

/-- Everything a client has to close, in the order in which it closes it. -/
def closings (s : Session) : List (Radio Unit) :=
  (s.general.toList ++ s.user.toList).map Channel.close ++ s.link.toList.map Radio.closeLink

def close : Act Unit := do
  let s ← get
  set { s with link := none, general := none, user := none }
  let outcomes ← s.closings.mapM fun closing => Act.failureOf (Act.onAir closing)
  match outcomes.filterMap id with
  | [] => return ()
  | failures => throw (.closing failures)

def openUser : Act Unit := do
  let s ← get
  match s.link, s.credentials with
  | none, _ => throw .notConnected
  | some _, none => throw .notAuthenticated
  | some link, some c =>
    let user ← Act.step "opening user-specific data input output"
      (Act.onAir (Channel.attach link (.sealed c.authorization c.sharedKey)))
    modify fun s => { s with user := some user }

/-- Uses a link, after closing the one in use. With credentials installed the user channel is opened
too. -/
def connect (link : Nat) : Act Unit := do
  if (← get).link.isSome then close
  let general ← Act.step "opening general data input output"
    (Act.onAir (Channel.attach link .plain))
  modify fun s => { s with link := some link, general := some general }
  if (← get).credentials.isSome then openUser

def authenticate (c : Credentials) : Act Unit := do
  let s ← get
  set { s with user := none }
  match s.user with
  | some user => let _ ← Act.failureOf (Act.onAir user.close)
  | none => pure ()
  modify fun s => { s with credentials := some c }
  if (← get).link.isSome then openUser

end Latchkey.Session
