import Latchkey.Failure
import Latchkey.Json.Document
import Latchkey.Request
import Latchkey.Text.Utf8
import Latchkey.Time.Span

/-!
# Options of a client

How long a client waits, what it calls itself, and how careful it is.
-/

namespace Latchkey

@[ext] structure Options where
  timeout : Span := Span.of 10 0
  label : String := "nuki"
  app : UInt32 := 0
  /-- Sent with every action, if there is one. -/
  suffix : Option String := none
  /-- Pairing requires the device to prove that it knows the shared key. -/
  verifyDevice : Bool := true
deriving DecidableEq, Repr

namespace Options

def validate (o : Options) : Except Failure Unit := do
  if o.timeout.nanoseconds = 0 then
    throw (.invalidOptions "response_timeout must be greater than zero")
  match o.suffix with
  | some suffix =>
    let length := (Utf8.ofString suffix).length
    if Request.suffixLength < length then
      throw (.invalidOptions
        s!"name_suffix is {length} bytes, at most {Request.suffixLength} allowed")
  | none => return ()

def toJson (o : Options) : Json := Json.record [
  ("response_timeout", .text o.timeout.text),
  ("label", .text o.label),
  ("app_id", .nat o.app.toNat),
  ("name_suffix", (o.suffix.map Json.text).getD .null),
  ("verify_device_authenticator", .bool o.verifyDevice)]

def field {α : Type} (read : Json → Option α) (default : α) : Option Json → Option α
  | some document => read document
  | none => some default

/-- Reads options; a missing field has its default. -/
def ofJson? (document : Json) : Option Options := do
  let [timeout, label, app, suffix, verifyDevice] ← document.fields? [
    "response_timeout", "label", "app_id", "name_suffix", "verify_device_authenticator"] | none
  let default : Options := {}
  return {
    timeout := ← field (fun d => d.text? >>= Span.ofText?) default.timeout timeout
    label := ← field Json.text? default.label label
    app := ← field Json.word32? default.app app
    suffix := ← field (Json.optional? Json.text?) default.suffix suffix
    verifyDevice := ← field Json.bool? default.verifyDevice verifyDevice }

def parse (text : String) : Option Options := (Json.parse text).bind ofJson?

end Options

end Latchkey
