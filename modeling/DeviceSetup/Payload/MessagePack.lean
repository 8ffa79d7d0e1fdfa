import DeviceSetup.MessagePack.Item
import DeviceSetup.Payload.Json

/-!
# Payloads in MessagePack

A payload is a map of maps of values, with octets as they are. What follows the payload
in the input is not looked at.
-/

namespace DeviceSetup

namespace Value

/-- The value of an item. A string that is no text counts as octets. -/
def ofItem (found : MessagePack.Item) : Except MessagePack.Fault Value :=
  match found with
  | .bool b => .ok (.bool b)
  | .natural n =>
    if n < 2 ^ 63 then .ok (.int (Int64.ofInt n)) else .error (.integerOutOfRange n)
  | .integer n => .ok (.int (Int64.ofInt n))
  | .float x =>
    match ofDouble? x with
    | some n => .ok (.int n)
    | none => .error (.notWhole x)
  | .string octets =>
    match Utf8.decode octets with
    | .ok s => .ok (.text s)
    | .error _ => .ok (.bytes octets)
  | .binary octets => .ok (.bytes octets)
  | .nil | .list _ | .map _ | .extension => .error (MessagePack.mismatch found expected)

/-- Reads a value. -/
def itemReader : MessagePack.Reader Value := fun bs => do
  let (found, rest) ← MessagePack.item bs
  return (← ofItem found, rest)

/-- Reads a value from the front of some octets. -/
def ofMessagePack (source : Bytes) : Except MessagePack.Fault Value :=
  (itemReader source).map Prod.fst

/-- Writes a value. -/
def toMessagePack : Value → Bytes
  | .text s => MessagePack.writeString s
  | .bool b => MessagePack.writeBool b
  | .int n => MessagePack.writeInt n.toInt
  | .bytes bs => MessagePack.writeBinary bs

end Value

namespace Payload

/-- Reads a payload from the front of some octets. -/
def ofMessagePack (source : Bytes) : Except MessagePack.Fault Payload := do
  let (entries, _) ← MessagePack.map (MessagePack.map Value.itemReader) source
  return ofEntries entries

/-- Writes a map of written values. -/
def writeMap (entries : List (String × Bytes)) : Bytes :=
  MessagePack.mapHeader entries.length
    ++ entries.flatMap fun e => MessagePack.writeString e.1 ++ e.2

/-- Writes a payload. -/
def toMessagePack (p : Payload) : Bytes :=
  writeMap (p.settings.entries.map fun e =>
    (e.1, writeMap (e.2.entries.map fun e => (e.1, e.2.toMessagePack))))

end Payload

end DeviceSetup
