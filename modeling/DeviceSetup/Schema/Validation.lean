import DeviceSetup.Json.Fault
import DeviceSetup.Schema.Basic

/-!
# Valid schemas

Names must not be empty; setting names must differ from each other, and so must the
variable names of one setting, groups included. The schema is walked in order and the
first violation is reported.
-/

namespace DeviceSetup

/-- Why a schema is refused. -/
inductive SchemaError where
  | parse (e : Json.Error)
  | emptySetting
  | duplicateSetting (name : String)
  | emptyVariable (setting : String)
  | duplicateVariable (setting name : String)
  deriving Repr, DecidableEq

namespace SchemaError

/-- The report on a name that is empty. -/
def emptyName : String :=
  "\x7b\"errors\":[],\"properties\":\x7b\"name\":\x7b\"errors\":[\"The length of the value must be `>= 1`.\"]\x7d\x7d\x7d"

/-- The wording of an error. -/
def message : SchemaError → String
  | .parse e => s!"failed to parse settings: {e.message}"
  | .emptySetting => s!"invalid settings: setting '': {emptyName}"
  | .duplicateSetting name => s!"duplicate setting '{name}'"
  | .emptyVariable setting => s!"invalid settings: variable in '{setting}': {emptyName}"
  | .duplicateVariable setting name => s!"duplicate variable '{name}' in setting '{setting}'"

end SchemaError

namespace Schema

/-- Checks the names of variables against each other and against those in `seen`. -/
def checkVariables (setting : String) (seen : List String) : List Variable → Except SchemaError Unit
  | [] => .ok ()
  | v :: rest =>
    if v.name = "" then .error (.emptyVariable setting)
    else if v.name ∈ seen then .error (.duplicateVariable setting v.name)
    else checkVariables setting (v.name :: seen) rest

/-- Checks the names of settings against each other and against those in `seen`, and their
variables. -/
def checkSettings (seen : List String) : List Setting → Except SchemaError Unit
  | [] => .ok ()
  | s :: rest =>
    if s.name = "" then .error .emptySetting
    else if s.name ∈ seen then .error (.duplicateSetting s.name)
    else do
      checkVariables s.name [] s.vars
      checkSettings (s.name :: seen) rest

/-- Checks all names. -/
def validate (s : Schema) : Except SchemaError Unit :=
  checkSettings [] s.settings

end Schema

end DeviceSetup
