import DeviceSetup.Http.Message
import DeviceSetup.Network.Json
import DeviceSetup.WireFormat

/-!
# What replies mean

A reply to a request comes to a scan, a payload or a message to show, or to an error
that says what was being done.
-/

namespace DeviceSetup.Http

/-- Why a reply is of no use. -/
inductive ReplyError where
  | transport (e : TransportError)
  /-- The device refused, for the reason in the body. -/
  | refused (why : String)
  /-- The device refused without giving a reason. -/
  | status (code : Nat)
  | badJson (e : Json.Error)
  | badPayload (e : DecodeError)
  | noBody
  deriving Repr, DecidableEq

/-- The wording of an error, where `action` was being done. -/
def ReplyError.message (action : String) : ReplyError → String
  | .transport e => s!"{action} failed: {e.message}"
  | .refused why => why
  | .status code => s!"{action} failed: HTTP {code} {reason code}"
  | .badJson e => s!"{action}: JSON parse error: {e.message}"
  | .badPayload e => s!"{action}: {e.message}"
  | .noBody => s!"{action}: Empty response body"

/-- The text of a body, outer blanks aside, if it is text and not blank. -/
def Response.text? (r : Response) : Option String := do
  let s := Text.trim (← Utf8.decode? (← r.body))
  if s = "" then none else some s

/-- The error of a response that is no success. -/
def Response.refusal (r : Response) : ReplyError :=
  match r.text? with
  | some why => .refused why
  | none => .status r.status

/-- The body of a response that is a success. -/
def Response.content (r : Response) : Except ReplyError Bytes :=
  if !isSuccess r.status then .error r.refusal
  else
    match r.body with
    | some body => .ok body
    | none => .error .noBody

/-- The response of an outcome. -/
def received (outcome : Outcome) : Except ReplyError Response :=
  outcome.mapError .transport

/-- The scan in a reply. Octets that are no text are replaced, so that an odd name hides no
other. -/
def scanReply (outcome : Outcome) : Except ReplyError ScanReport := do
  let body ← (← received outcome).content
  (ScanReport.ofJson (Utf8.encode (Utf8.decodeLossy body))).mapError .badJson

/-- The payload in a reply, in the format that its content type names. -/
def payloadReply (outcome : Outcome) : Except ReplyError Payload := do
  let r ← received outcome
  let body ← r.content
  ((WireFormat.ofContentType r.mediaType?).decode body).mapError .badPayload

/-- The message of a reply to a save: only status 200 is a success. -/
def saveReply (outcome : Outcome) : Except ReplyError String := do
  let r ← received outcome
  if r.status = 200 then return r.text?.getD (reason r.status) else throw r.refusal

end DeviceSetup.Http
