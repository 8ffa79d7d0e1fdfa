import DeviceSetup.Text.Utf8

/-!
# Settings schemas

A schema lists settings; a setting lists entries, each a single variable or a group of
variables that share a row. Every variable has a type that says how it is shown.
-/

namespace DeviceSetup

/-- The type of a variable. A name that is not known is kept. -/
inductive FieldType where
  | username
  | password
  | hostname
  | port
  | checkbox
  | deviceId
  | text
  | choice
  | ssid
  | unsupported (name : String)
  deriving Repr, DecidableEq

namespace FieldType

/-- The types that are known, by name. -/
def named : List (String × FieldType) :=
  [("username", .username), ("password", .password), ("hostname", .hostname), ("port", .port),
   ("checkbox", .checkbox), ("device_id", .deviceId), ("string", .text), ("choice", .choice),
   ("ssid", .ssid)]

/-- The type of a name. -/
def ofName (name : String) : FieldType :=
  ((named.find? fun e => e.1 = name).map Prod.snd).getD (.unsupported name)

/-- The name of a type. -/
def name : FieldType → String
  | .username => "username"
  | .password => "password"
  | .hostname => "hostname"
  | .port => "port"
  | .checkbox => "checkbox"
  | .deviceId => "device_id"
  | .text => "string"
  | .choice => "choice"
  | .ssid => "ssid"
  | .unsupported name => name

end FieldType

/-- One of the values that a choice offers. -/
structure Choice where
  value : String
  label : String
  deriving Repr, DecidableEq

/-- A named and typed variable. -/
structure Variable where
  name : String
  title : String
  type : FieldType
  choices : List Choice
  deriving Repr, DecidableEq

/-- A single variable, or a group that shares a row. -/
inductive Entry where
  | group (vars : List Variable)
  | single (v : Variable)
  deriving Repr, DecidableEq

/-- The variables of an entry, in row order. -/
def Entry.vars : Entry → List Variable
  | .group vs => vs
  | .single v => [v]

/-- A named and titled list of entries. -/
structure Setting where
  name : String
  title : String
  entries : List Entry
  deriving Repr, DecidableEq

/-- The variables of a setting, in order. -/
def Setting.vars (s : Setting) : List Variable :=
  s.entries.flatMap Entry.vars

/-- A list of settings. -/
structure Schema where
  settings : List Setting
  deriving Repr, DecidableEq

namespace Schema

/-- The schema without settings. -/
def empty : Schema := ⟨[]⟩

instance : Inhabited Schema := ⟨empty⟩

/-- The first setting with a name. -/
def setting? (s : Schema) (name : String) : Option Setting :=
  s.settings.find? (·.name = name)

/-- Every variable with its setting, in order. -/
def vars (s : Schema) : List (Setting × Variable) :=
  s.settings.flatMap fun setting => setting.vars.map fun v => (setting, v)

end Schema

/-- The id of the element that shows a variable. -/
def elementId (setting : Setting) (v : Variable) : String :=
  setting.name ++ "_" ++ v.name

end DeviceSetup
