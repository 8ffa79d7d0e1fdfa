import DeviceSetup.Json.Reader
import DeviceSetup.Json.Writer
import DeviceSetup.Payload.Basic

/-!
# Payloads in JSON

A payload is an object of objects of values. Octets are written as hexadecimal text,
and so come back as text.
-/

namespace DeviceSetup

namespace Value

/-- What a value is called when something else is found. -/
def expected : String := "a string, boolean, integer or byte string"

/-- The integer that a double stands for. The double next above the greatest integer of 64 bits
still counts as that integer. -/
def ofDouble? (x : Double) : Option Int64 :=
  match x.whole? with
  | none => none
  | some n =>
    if -2 ^ 63 ≤ n ∧ n ≤ 2 ^ 63 then some (Int64.ofInt (min n (2 ^ 63 - 1))) else none

/-- The value of a number that was read. -/
def ofNumber : Json.Number → Except Json.Cause Value
  | .natural n =>
    if n < 2 ^ 63 then .ok (.int (Int64.ofInt n)) else .error (.integerOutOfRange n)
  | .negative n => .ok (.int (Int64.ofInt n))
  | .float x =>
    match ofDouble? x with
    | some n => .ok (.int n)
    | none => .error (.notWhole x)

/-- The value of a scalar. -/
def ofScalar : Json.Scalar → Except Json.Cause Value
  | .null => .error (.wrongType .null expected)
  | .bool b => .ok (.bool b)
  | .number n => ofNumber n
  | .string s => .ok (.text s)

/-- Reads a value. -/
def reader (depth : Nat) : Json.Reader Value := fun bs => do
  let (found, rest) ← Json.opening bs
  match found, depth with
  | .scalar s, _ =>
    match ofScalar s with
    | .ok x => return (x, rest)
    | .error cause => throw (.before cause rest)
  | _, 0 => throw (.before .tooDeep rest)
  | .list, _ => throw ⟨.wrongType .list expected, Json.afterList rest⟩
  | .object, _ => throw ⟨.wrongType .object expected, Json.afterObject rest⟩

/-- Reads a value from a whole text. -/
def ofJson (source : Bytes) : Except Json.Error Value :=
  Json.parse (reader Json.maxDepth) source

/-- Writes a value. -/
def toJson : Value → Bytes
  | .text s => Json.writeString s
  | .bool b => Json.writeBool b
  | .int n => Json.writeInt n.toInt
  | .bytes bs => Json.writeString (Hex.encode bs)

end Value

namespace Payload

/-- Reads a payload. -/
def reader : Json.Reader Payload := fun bs => do
  let (entries, rest) ←
    Json.object Json.maxDepth (fun depth => Json.object depth Value.reader) bs
  return (ofEntries entries, rest)

/-- Reads a payload from a whole text. -/
def ofJson (source : Bytes) : Except Json.Error Payload :=
  Json.parse reader source

/-- Writes the values of a setting. -/
def valuesToJson (values : Dict Value) : Bytes :=
  Json.writeObject (values.entries.map fun e => (e.1, e.2.toJson))

/-- Writes a payload. -/
def toJson (p : Payload) : Bytes :=
  Json.writeObject (p.settings.entries.map fun e => (e.1, valuesToJson e.2))

end Payload

end DeviceSetup
