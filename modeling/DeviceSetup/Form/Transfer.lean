import DeviceSetup.Form.Basic
import DeviceSetup.Payload.Basic

/-!
# Loading and saving forms

Loading writes the values of a payload into the fields of their variables, in the
order of the schema, and stops at the first field that cannot take its value; what
was written before stays. Saving reads every field into a payload that has an entry
for every setting. Variables that are not supported take no part.
-/

namespace DeviceSetup.Form

/-- The first field with an id, or the error that there is none. -/
def find (form : Form) (id : String) : Except FormError Field :=
  match form.field? id with
  | some f => .ok f
  | none => .error (.notFound id)

/-! ## Loading -/

/-- Writes a value into the field of a variable. -/
def write (form : Form) (id : String) (b : Behavior) (x : Value) : Except FormError Form := do
  let f ← form.find id
  match b.write x f.widget with
  | some w => return form.setWidget id w
  | none => throw (f.mismatch b.widgetKind)

/-- A value on its way into a field. -/
structure Transfer where
  id : String
  behavior : Behavior
  value : Value

/-- What a payload has for a variable. -/
def transfer? (p : Payload) (setting : Setting) (v : Variable) : Option Transfer := do
  let b ← v.type.behavior?
  let x ← p.get? setting.name v.name
  return ⟨elementId setting v, b, x⟩

/-- What a payload has for the variables of a schema, in order. -/
def transfers (schema : Schema) (p : Payload) : List Transfer :=
  schema.vars.filterMap fun (setting, v) => transfer? p setting v

/-- Writes values in turn; on an error, the form as it is by then comes with it. -/
def writeAll (form : Form) : List Transfer → Form × Option FormError
  | [] => (form, none)
  | t :: rest =>
    match form.write t.id t.behavior t.value with
    | .ok form => writeAll form rest
    | .error e => (form, some e)

/-- Writes a payload into a form. -/
def load (schema : Schema) (form : Form) (p : Payload) : Form × Option FormError :=
  form.writeAll (transfers schema p)

/-! ## Saving -/

/-- What the field of a variable gives. -/
def read (form : Form) (setting : Setting) (v : Variable) : Except FormError (Option Value) :=
  match v.type.behavior? with
  | none => .ok none
  | some b => do
    let f ← form.find (elementId setting v)
    match b.read f.widget with
    | some x => return x
    | none => throw (f.mismatch b.widgetKind)

/-- Adds what the fields of some variables give. -/
def readVariables (form : Form) (setting : Setting) (values : Dict Value) :
    List Variable → Except FormError (Dict Value)
  | [] => .ok values
  | v :: rest => do
    match ← form.read setting v with
    | some x => form.readVariables setting (values.insert v.name x) rest
    | none => form.readVariables setting values rest

/-- Adds what the fields of some settings give. -/
def readSettings (form : Form) (p : Payload) : List Setting → Except FormError Payload
  | [] => .ok p
  | s :: rest => do
    let values ← form.readVariables s (p.valuesOf s.name) s.vars
    form.readSettings ⟨p.settings.insert s.name values⟩ rest

/-- The payload that a form holds. -/
def save (schema : Schema) (form : Form) : Except FormError Payload :=
  form.readSettings .empty schema.settings

end DeviceSetup.Form
