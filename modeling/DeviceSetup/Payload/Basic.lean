import DeviceSetup.Dict
import DeviceSetup.Text.Decimal
import DeviceSetup.Text.Hex

/-!
# Values and payloads

A value is a text, a truth value, an integer of 64 bits or some octets. A payload gives values to
some variables of some settings. A variable without an entry is left as it is; it is never set to
nothing.
-/

namespace DeviceSetup

/-! ## Values -/

/-- A single configuration value. -/
inductive Value where
  | text (s : String)
  | bool (b : Bool)
  | int (n : Int64)
  | bytes (bs : Bytes)
  deriving Repr, DecidableEq

namespace Value

/-- The text shown for a value: octets as hexadecimal digits. -/
def displayText : Value → String
  | .text s => s
  | .bool b => if b then "true" else "false"
  | .int n => Decimal.ofInt n.toInt
  | .bytes bs => Hex.encode bs

/-- Whether a value counts as set: not false, zero or empty. -/
def isSet : Value → Bool
  | .text s => s ≠ ""
  | .bool b => b
  | .int n => n ≠ 0
  | .bytes bs => bs ≠ []

end Value

/-! ## Payloads -/

/-- Values by setting and variable. -/
structure Payload where
  settings : Dict (Dict Value)
  deriving Repr, DecidableEq

namespace Payload

/-- The payload without settings. -/
def empty : Payload := ⟨.empty⟩

instance : Inhabited Payload := ⟨empty⟩

/-- The values of a setting. -/
def setting? (p : Payload) (setting : String) : Option (Dict Value) :=
  p.settings.get? setting

/-- The value of a variable. -/
def get? (p : Payload) (setting name : String) : Option Value := do
  (← p.setting? setting).get? name

/-- The values of a setting, none if it has no entry. -/
def valuesOf (p : Payload) (setting : String) : Dict Value :=
  (p.setting? setting).getD .empty

/-- Gives a setting an entry, if it has none. -/
def ensureSetting (p : Payload) (setting : String) : Payload :=
  ⟨p.settings.insert setting (p.valuesOf setting)⟩

/-- Sets the value of a variable. -/
def insert (p : Payload) (setting name : String) (x : Value) : Payload :=
  ⟨p.settings.insert setting ((p.valuesOf setting).insert name x)⟩

/-- Whether no variable has a value. -/
def isEmpty (p : Payload) : Bool :=
  p.settings.entries.all fun e => e.2.isEmpty

/-- The payload of nested entries; of those with one name the last counts. -/
def ofEntries (entries : List (String × List (String × Value))) : Payload :=
  ⟨Dict.ofList (entries.map fun e => (e.1, Dict.ofList e.2))⟩

end Payload

end DeviceSetup
