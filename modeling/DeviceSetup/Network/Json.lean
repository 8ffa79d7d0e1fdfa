import DeviceSetup.Json.Record
import DeviceSetup.Json.Writer

/-!
# Wireless networks

What a scan finds: each network with its signal strength and channel, in the order
the device ranks them. In JSON a scan is an object with a list of networks.
-/

namespace DeviceSetup

/-- A network that a scan found. -/
structure Network where
  name : String
  rssi : Int32
  channel : UInt32
  deriving Repr, DecidableEq

/-- A complete scan. -/
structure ScanReport where
  networks : List Network
  deriving Repr, DecidableEq

/-! ## Networks in JSON -/

/-- Reads a signed integer of 32 bits. -/
def int32Reader : Json.Reader Int32 := fun bs => do
  let (n, rest) ← Json.integer (-2 ^ 31) (2 ^ 31 - 1) "i32" bs
  return (Int32.ofInt n, rest)

/-- Reads a natural number of 32 bits. -/
def uint32Reader : Json.Reader UInt32 := fun bs => do
  let (n, rest) ← Json.integer 0 (2 ^ 32 - 1) "u32" bs
  return (UInt32.ofNat n.toNat, rest)

/-- A network in the making. -/
structure NetworkDraft where
  name : Option String
  rssi : Option Int32
  channel : Option UInt32

namespace NetworkDraft

/-- A draft with nothing given. -/
def empty : NetworkDraft := ⟨none, none, none⟩

/-- The fields of a network, in order. -/
def fields : List (Json.FieldRule NetworkDraft) :=
  [⟨"name", false, (·.name.isSome), fun _ d bs => do
      let (x, rest) ← Json.text bs
      return ({ d with name := some x }, rest)⟩,
   ⟨"rssi", false, (·.rssi.isSome), fun _ d bs => do
      let (x, rest) ← int32Reader bs
      return ({ d with rssi := some x }, rest)⟩,
   ⟨"channel", false, (·.channel.isSome), fun _ d bs => do
      let (x, rest) ← uint32Reader bs
      return ({ d with channel := some x }, rest)⟩]

/-- The network of a draft, or the name of its first missing field. -/
def finish : NetworkDraft → Except String Network
  | ⟨none, _, _⟩ => .error "name"
  | ⟨_, none, _⟩ => .error "rssi"
  | ⟨_, _, none⟩ => .error "channel"
  | ⟨some name, some rssi, some channel⟩ => .ok ⟨name, rssi, channel⟩

end NetworkDraft

/-- How a network is read. -/
def Network.rule : Json.RecordRule NetworkDraft Network where
  name := "ScannedNetwork"
  fields := NetworkDraft.fields
  empty := .empty
  finish := NetworkDraft.finish

/-- Writes a network. -/
def Network.toJson (n : Network) : Bytes :=
  Json.writeObject
    [("name", Json.writeString n.name), ("rssi", Json.writeInt n.rssi.toInt),
     ("channel", Json.writeInt n.channel.toNat)]

namespace ScanReport

/-- How a scan is read. -/
def rule : Json.RecordRule (Option (List Network)) ScanReport where
  name := "WifiScan"
  fields :=
    [⟨"networks", false, (·.isSome), fun depth _ bs => do
        let (x, rest) ← Json.list depth Network.rule.reader bs
        return (some x, rest)⟩]
  empty := none
  finish
    | none => .error "networks"
    | some networks => .ok ⟨networks⟩

/-- Reads a scan from a whole text. -/
def ofJson (source : Bytes) : Except Json.Error ScanReport :=
  Json.parse (rule.reader Json.maxDepth) source

/-- Writes a scan. -/
def toJson (r : ScanReport) : Bytes :=
  Json.writeObject [("networks", Json.writeList (r.networks.map Network.toJson))]

end ScanReport

end DeviceSetup
