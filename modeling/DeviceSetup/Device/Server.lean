import DeviceSetup.Device.Page
import DeviceSetup.Device.ScanCache
import DeviceSetup.Device.ScanFile
import DeviceSetup.Device.Store
import DeviceSetup.Schema.Json
import DeviceSetup.WireFormat

/-!
# The device's server

The device answers for its settings, its configuration and its scans, and serves the
files of a page for every other path.
-/

namespace DeviceSetup

/-- What lies outside the server: the scan file and the files of the page. -/
structure Surroundings where
  scanPath : Option String
  scanFile : FileContent
  pages : Pages
  deriving Repr, DecidableEq

/-- The device. -/
structure Server where
  store : Store
  cache : ScanCache
  /-- The text of the schema, as it was read. -/
  settings : String
  maxConfigBytes : Nat
  deriving Repr, DecidableEq

/-- Why the device does not start. -/
inductive StartError where
  | unreadable (path why : String)
  | badSettings (e : SchemaError)
  deriving Repr, DecidableEq

/-- The wording of an error, with every cause behind it. -/
def StartError.message : StartError → String
  | .unreadable path why => s!"failed to read settings {path}: {why}"
  | .badSettings (.parse e) =>
    s!"failed to load settings: {(SchemaError.parse e).message}: {e.message}"
  | .badSettings e => s!"failed to load settings: {e.message}"

namespace Server

/-- A device for the text of a schema. -/
def ofSettings (settings : String) (deviceId : Bytes) (maxConfigBytes : Nat) :
    Except StartError Server := do
  let schema ← (Schema.ofText settings).mapError .badSettings
  return ⟨.empty schema deviceId, .empty, settings, maxConfigBytes⟩

/-- A device for a settings file. -/
def start (path : String) (file : FileContent) (deviceId : Bytes) (maxConfigBytes : Nat) :
    Except StartError Server :=
  match file.text with
  | .error why => .error (.unreadable path why)
  | .ok settings => ofSettings settings deviceId maxConfigBytes

/-! ## Configuration -/

/-- The format that a request asks for. -/
def replyFormat (r : ServerRequest) : WireFormat :=
  match r.header? "accept" with
  | some accept => if WireFormat.acceptsMessagePack accept then .messagePack else .json
  | none => .json

/-- Gives out the configuration. -/
def getConfig (s : Server) (r : ServerRequest) : ServerReply :=
  let format := replyFormat r
  ⟨200, some format.contentType, format.encode s.store.snapshot⟩

/-- The store as a request to save leaves it, and why the request was refused, if it was. -/
def saveConfig (s : Server) (r : ServerRequest) : Store × Option ConfigError :=
  if s.maxConfigBytes < r.body.length then (s.store, some .tooLarge)
  else
    match (WireFormat.ofContentType (r.header? "content-type")).decode r.body with
    | .error _ => (s.store, some .unreadable)
    | .ok p => s.store.offer p

/-- The number of octets that the body of any request may have. -/
def maxBodyBytes : Nat := 262144

/-- The answer to a body that is longer than any may be. -/
def bodyTooLong : ServerReply :=
  ⟨413, some "text/plain; charset=utf-8", Utf8.encode "payload reached size limit"⟩

/-- The answer to a request that states the length of its body in no number. -/
def lengthUnknown : ServerReply :=
  ⟨400, some "text/plain; charset=utf-8", Utf8.encode "payload length is unknown"⟩

/-- The answer to a request whose body cannot be taken: by the length it states, or as it is. -/
def bodyRefusal? (r : ServerRequest) : Option ServerReply :=
  let actual := if maxBodyBytes < r.body.length then some bodyTooLong else none
  match (r.values "content-length").head? with
  | none => actual
  | some length =>
    match Decimal.readNat (2 ^ 64 - 1) length.toList with
    | .error _ => some lengthUnknown
    | .ok n => if maxBodyBytes < n then some bodyTooLong else actual

/-- Takes a configuration. -/
def postConfig (s : Server) (r : ServerRequest) : Server × ServerReply :=
  match bodyRefusal? r, s.saveConfig r with
  | some refusal, _ => (s, refusal)
  | none, (store, none) => ({ s with store }, ⟨200, none, Utf8.encode "Saved"⟩)
  | none, (store, some e) => ({ s with store }, ⟨400, none, Utf8.encode e.message⟩)

/-! ## Scans -/

/-- Gives out the networks in reach. -/
def getScan (s : Server) (scanner : Scanner ScanError) (now : Nat) : Server × ServerReply :=
  let cache := s.cache.refresh scanner now
  ({ s with cache },
    ⟨200, some WireFormat.json.contentType, (ScanReport.mk (cache.answer scanner)).toJson⟩)

/-! ## Requests -/

/-- The answer to a method that no path takes. -/
def wrongMethod : ServerReply :=
  ⟨405, some "text/plain; charset=utf-8",
    Utf8.encode "Request did not meet this resource's requirements."⟩

/-- Whether an octet stays as it is written in a path. -/
def isKept (b : UInt8) : Bool :=
  b = '%'.toUInt8 || b = '/'.toUInt8 || b = '+'.toUInt8

/-- The path of an address: what stands before a query or a fragment, read for percent signs. -/
def pathOf (address : String) : String :=
  let written := address.toList.takeWhile fun c => c ≠ '?' && c ≠ '#'
  Utf8.decodeLossy (Percent.decode isKept (Utf8.encodeChars written))

/-- Answers a request at a time. -/
def handle (s : Server) (w : Surroundings) (now : Nat) (r : ServerRequest) :
    Server × ServerReply :=
  match r.method, pathOf r.path with
  | "GET", "/settings.json" =>
    (s, ⟨200, some WireFormat.json.contentType, Utf8.encode s.settings⟩)
  | "GET", "/config" => (s, s.getConfig r)
  | "POST", "/config" => s.postConfig r
  | "GET", "/wifiscan" => s.getScan (ScanFile.scanner w.scanPath w.scanFile w.scanFile) now
  | "GET", path | "HEAD", path => (s, w.pages.get r path)
  | _, _ => (s, wrongMethod)

end Server

end DeviceSetup
