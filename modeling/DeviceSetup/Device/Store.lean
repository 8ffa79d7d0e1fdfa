import DeviceSetup.Payload.Basic
import DeviceSetup.Schema.Basic

/-!
# The configuration store

The device keeps a value for each variable that was ever given one. A payload is stored
only if every value in it has the kind that its variable wants, so all of them are looked at
before the first is set. Passwords are kept but never given out, and the device id is the
device's own.
-/

namespace DeviceSetup

/-- Why a payload is refused. -/
inductive ConfigError where
  | tooLarge
  | unreadable
  | notText
  | notInt
  | notBool
  deriving Repr, DecidableEq

/-- The wording of an error. -/
def ConfigError.message : ConfigError → String
  | .tooLarge => "config content length too big"
  | .unreadable => "failed to parse buffer"
  | .notText => "Failed to extract string variable value"
  | .notInt => "Failed to extract int variable value"
  | .notBool => "Failed to extract bool variable value"

/-- An integer as the device keeps a port: its lowest 16 bits. -/
def storedPort (n : Int64) : Int64 :=
  Int64.ofNat n.toUInt64.toUInt16.toNat

/-- An integer as the device keeps a choice: its lowest 32 bits, with a sign. -/
def storedChoice (n : Int64) : Int64 :=
  n.toInt32.toInt64

/-- What is stored of a value that is given to a variable; none for variables that take no value. -/
def FieldType.stored (type : FieldType) (x : Value) : Except ConfigError (Option Value) :=
  match type, x with
  | .text, .text s | .ssid, .text s | .username, .text s | .password, .text s
  | .hostname, .text s => .ok (some (.text s))
  | .text, _ | .ssid, _ | .username, _ | .password, _ | .hostname, _ => .error .notText
  | .port, .int n => .ok (some (.int (storedPort n)))
  | .choice, .int n => .ok (some (.int (storedChoice n)))
  | .port, _ | .choice, _ => .error .notInt
  | .checkbox, .bool b => .ok (some (.bool b))
  | .checkbox, _ => .error .notBool
  | .deviceId, _ | .unsupported _, _ => .ok none

/-- What the device keeps. -/
structure Store where
  schema : Schema
  deviceId : Bytes
  values : Payload
  deriving Repr, DecidableEq

/-- A value on its way into the store. -/
structure StoreUpdate where
  setting : String
  name : String
  value : Value
  deriving Repr, DecidableEq

namespace Store

/-- A store without values. -/
def empty (schema : Schema) (deviceId : Bytes) : Store := ⟨schema, deviceId, .empty⟩

/-- Sets one value. -/
def set (s : Store) (u : StoreUpdate) : Store :=
  { s with values := s.values.insert u.setting u.name u.value }

/-- Looks at what a payload has for some variables, in order, and puts aside what is to be set.
The store is given back as it is by then, with the first fault if there is one. -/
def gather (p : Payload) (s : Store) (aside : List StoreUpdate) :
    List (Setting × Variable) → Store × Except ConfigError (List StoreUpdate)
  | [] => (s, .ok aside)
  | (setting, v) :: rest =>
    match p.get? setting.name v.name with
    | none => gather p s aside rest
    | some x =>
      match v.type.stored x with
      | .error why => (s, .error why)
      | .ok none => gather p s aside rest
      | .ok (some y) => gather p s (aside ++ [⟨setting.name, v.name, y⟩]) rest

/-- Offers a payload to a store: the store as it is left, and why the payload was refused, if it
was. -/
def offer (s : Store) (p : Payload) : Store × Option ConfigError :=
  match gather p s [] s.schema.vars with
  | (s, .error why) => (s, some why)
  | (s, .ok updates) => (updates.foldl set s, none)

/-- The store with a payload in it, if the payload is not refused. -/
def apply (s : Store) (p : Payload) : Except ConfigError Store :=
  match s.offer p with
  | (s, none) => .ok s
  | (_, some why) => .error why

/-- What the device gives out for a variable. -/
def shown? (s : Store) (setting : Setting) (v : Variable) : Option Value :=
  match v.type with
  | .password => none
  | .deviceId => some (.bytes s.deviceId)
  | _ => s.values.get? setting.name v.name

/-- Adds what the device gives out for a variable. -/
def showVariable (s : Store) (setting : Setting) (p : Payload) (v : Variable) : Payload :=
  match s.shown? setting v with
  | some x => p.insert setting.name v.name x
  | none => p

/-- Adds what the device gives out for a setting; a setting without values has an entry too. -/
def showSetting (s : Store) (p : Payload) (setting : Setting) : Payload :=
  setting.vars.foldl (s.showVariable setting) (p.ensureSetting setting.name)

/-- What the device gives out: an entry for every setting. -/
def snapshot (s : Store) : Payload :=
  s.schema.settings.foldl s.showSetting .empty

/-- The stored values of a setting. -/
def stored (s : Store) (setting : String) : Dict Value :=
  s.values.valuesOf setting

end Store

end DeviceSetup
