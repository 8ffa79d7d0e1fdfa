import DeviceSetup.Payload.MessagePack
import DeviceSetup.Text.Basic

/-!
# Wire formats

A payload travels as JSON or as MessagePack, named by its content type. JSON is what
is taken where nothing else is said.
-/

namespace DeviceSetup

/-- How a payload is written. -/
inductive WireFormat where
  | json
  | messagePack
  deriving Repr, DecidableEq

/-- Why octets are not a payload. -/
inductive DecodeError where
  | json (e : Json.Error)
  | messagePack (f : MessagePack.Fault)
  deriving Repr, DecidableEq

/-- The wording of a decoding error. -/
def DecodeError.message : DecodeError → String
  | .json e => s!"JSON: {e.message}"
  | .messagePack f => s!"MessagePack decode: {f.message}"

namespace WireFormat

/-- The content type of a format. -/
def contentType : WireFormat → String
  | .json => "application/json"
  | .messagePack => "application/msgpack"

/-- The content types that mean MessagePack. -/
def messagePackTypes : List String :=
  ["application/msgpack", "application/x-msgpack", "application/vnd.msgpack"]

/-- A content type without its parameters and outer blanks, in lower case. -/
def essence (contentType : String) : String :=
  Text.lowerAscii (Text.trim (String.ofList (contentType.toList.takeWhile (· ≠ ';'))))

/-- The format that a content type names. -/
def ofContentType (contentType : Option String) : WireFormat :=
  match contentType with
  | some t => if essence t ∈ messagePackTypes then .messagePack else .json
  | none => .json

/-- Whether one of the types in an `Accept` header is MessagePack. -/
def acceptsMessagePack (accept : String) : Bool :=
  (Text.splitChars ',' accept.toList).any fun part =>
    ofContentType (some (String.ofList part)) = .messagePack

/-- The octets of a payload. -/
def encode (format : WireFormat) (p : Payload) : Bytes :=
  match format with
  | .json => p.toJson
  | .messagePack => p.toMessagePack

/-- The payload of some octets. -/
def decode (format : WireFormat) (bs : Bytes) : Except DecodeError Payload :=
  match format with
  | .json => (Payload.ofJson bs).mapError .json
  | .messagePack => (Payload.ofMessagePack bs).mapError .messagePack

end WireFormat

end DeviceSetup
