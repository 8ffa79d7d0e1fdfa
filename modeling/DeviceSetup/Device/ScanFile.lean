import DeviceSetup.Device.Exchange
import DeviceSetup.Device.ScanCache
import DeviceSetup.Network.Json
import DeviceSetup.Text.Cluster

/-!
# Scan files

A device without a radio replays scans from a file. A file counts only as a whole: one
record out of bounds and nothing in it is used.
-/

namespace DeviceSetup

/-! ## Bounds -/

/-- What is said of a text that is too short or too long. -/
def lengthComplaint (relation : String) (bound : Int) : String :=
  s!"The length of the value must be `{relation} {Decimal.ofInt bound}`."

/-- What is said of a number that is too small or too great. -/
def numberComplaint (relation : String) (bound : Int) : String :=
  s!"The number must be `{relation} {Decimal.ofInt bound}`."

/-- What is said of `n` when it is not within bounds. -/
def boundComplaints (complaint : String → Int → String) (lo hi n : Int) : List String :=
  (if n < lo then [complaint ">=" lo] else []) ++ (if hi < n then [complaint "<=" hi] else [])

namespace Network

/-- What is wrong with each part of a record. -/
def complaints (n : Network) : List (String × List String) :=
  [("name", boundComplaints lengthComplaint 1 32 (Text.clusterCount n.name)),
   ("rssi", boundComplaints numberComplaint (-127) 0 n.rssi.toInt),
   ("channel", boundComplaints numberComplaint 1 196 n.channel.toNat)]

/-- Whether a record is within bounds. -/
def isValid (n : Network) : Bool :=
  n.complaints.all fun c => c.2.isEmpty

/-- An object of what is wrong, in JSON. -/
def errorsJson (errors : List String) (more : List (String × Bytes)) : Bytes :=
  Json.writeObject (("errors", Json.writeList (errors.map Json.writeString)) :: more)

/-- The report on a record that is out of bounds. -/
def report (n : Network) : Bytes :=
  let faults := n.complaints.filter fun c => !c.2.isEmpty
  errorsJson [] [("properties", Json.writeObject (faults.map fun c => (c.1, errorsJson c.2 [])))]

end Network

/-! ## Files -/

/-- A scan as a file gives it. -/
structure ScanFile where
  connected : Option Network
  networks : List Network
  deriving Repr, DecidableEq

/-- A scan file in the making. -/
structure ScanFileDraft where
  connected : Option (Option Network)
  networks : Option (List Network)

/-- Why a scan file is of no use. -/
inductive ScanError where
  | unreadable (path why : String)
  | badJson (e : Json.Error)
  | invalid (record : Network)
  deriving Repr, DecidableEq

/-- The wording of an error. -/
def ScanError.message : ScanError → String
  | .unreadable path why => s!"failed to read scan results {path}: {why}"
  | .badJson e => s!"failed to parse scan results: {e.message}"
  | .invalid record =>
    s!"invalid scan record '{record.name}': {Utf8.decodeLossy record.report}"

/-- How a record is read. -/
def scanRecordRule : Json.RecordRule NetworkDraft Network :=
  { Network.rule with name := "ScanRecord" }

namespace ScanFile

/-- The scan without a file. -/
def empty : ScanFile := ⟨none, []⟩

/-- How a scan file is read. -/
def rule : Json.RecordRule ScanFileDraft ScanFile where
  name := "ScanFile"
  fields :=
    [⟨"connected", true, (·.connected.isSome), fun depth d bs => do
        let (x, rest) ← Json.nullable (scanRecordRule.reader depth) bs
        return ({ d with connected := some x }, rest)⟩,
     ⟨"networks", false, (·.networks.isSome), fun depth d bs => do
        let (x, rest) ← Json.list depth scanRecordRule.reader bs
        return ({ d with networks := some x }, rest)⟩]
  empty := ⟨none, none⟩
  finish
    | ⟨_, none⟩ => .error "networks"
    | ⟨connected, some networks⟩ => .ok ⟨connected.getD none, networks⟩

/-- The records of a file, the connected access point first. -/
def records (f : ScanFile) : List Network :=
  f.connected.toList ++ f.networks

/-- Reads a scan file from its text. -/
def ofText (text : String) : Except ScanError ScanFile := do
  let file ← (Json.parse (rule.reader Json.maxDepth) (Utf8.encode text)).mapError .badJson
  match file.records.find? (!·.isValid) with
  | some record => throw (.invalid record)
  | none => return file

/-- Reads the scan file at a path, or the scan without a file if there is no path. -/
def read (path : Option String) (content : FileContent) : Except ScanError ScanFile :=
  match path with
  | none => .ok empty
  | some path =>
    match content.text with
    | .error why => .error (.unreadable path why)
    | .ok text => ofText text

/-- The scanner on a path, which reads the file anew for each thing that it is asked. -/
def scanner (path : Option String) (atScan atConnected : FileContent) : Scanner ScanError where
  scan := (read path atScan).map (·.networks)
  connected := (read path atConnected).toOption.bind (·.connected)

end ScanFile

end DeviceSetup
