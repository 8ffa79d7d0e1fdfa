import DeviceSetup.Form.Behavior

/-!
# Forms

A form is a list of sections, one for each setting, of rows of fields. A field is
addressed by its id; where two fields have one id, the first is the one addressed.
`Form.fields` is the view of a form that the operations are stated on.
-/

namespace DeviceSetup

/-- A labelled element. -/
structure Field where
  id : String
  label : String
  columns : Option UInt8
  widget : Widget
  deriving Repr, DecidableEq

/-- Fields side by side. -/
structure Row where
  fields : List Field
  deriving Repr, DecidableEq

/-- The rows of a setting under its title. -/
structure Section where
  name : String
  title : String
  rows : List Row
  deriving Repr, DecidableEq

/-- The fields of a section, in order. -/
def Section.fields (s : Section) : List Field :=
  s.rows.flatMap Row.fields

/-- A rendered form. -/
structure Form where
  sections : List Section
  deriving Repr, DecidableEq

/-- Why a field cannot be used. -/
inductive FormError where
  | notFound (id : String)
  | mismatch (id : String) (expected found : WidgetKind)
  deriving Repr, DecidableEq

/-- The wording of an error. -/
def FormError.message : FormError → String
  | .notFound id => s!"no widget with id '{id}'"
  | .mismatch id expected found =>
    s!"widget '{id}' is a {found.name}, expected a {expected.name}"

/-- The error of a field that is not of the expected kind. -/
def Field.mismatch (f : Field) (expected : WidgetKind) : FormError :=
  .mismatch f.id expected f.widget.kind

namespace Form

/-- The form without sections. -/
def empty : Form := ⟨[]⟩

instance : Inhabited Form := ⟨empty⟩

/-- Whether there are no sections. -/
def isEmpty (form : Form) : Bool :=
  form.sections.isEmpty

/-- The fields, in order. -/
def fields (form : Form) : List Field :=
  form.sections.flatMap Section.fields

/-- The first field with an id. -/
def field? (form : Form) (id : String) : Option Field :=
  form.fields.find? (·.id = id)

/-- Whether some field is a network combo. -/
def hasNetwork (form : Form) : Bool :=
  form.fields.any (·.widget.kind = .network)

/-! ## Changing the first field with an id -/

/-- Changes the first field with an id in a list. -/
def setFirst (id : String) (w : Widget) : List Field → List Field
  | [] => []
  | f :: rest => if f.id = id then { f with widget := w } :: rest else f :: setFirst id w rest

/-- Changes the first field with an id in some rows. -/
def setInRows (id : String) (w : Widget) : List Row → List Row
  | [] => []
  | r :: rest =>
    if r.fields.any (·.id = id) then ⟨setFirst id w r.fields⟩ :: rest
    else r :: setInRows id w rest

/-- Changes the first field with an id in some sections. -/
def setInSections (id : String) (w : Widget) : List Section → List Section
  | [] => []
  | s :: rest =>
    if s.fields.any (·.id = id) then { s with rows := setInRows id w s.rows } :: rest
    else s :: setInSections id w rest

/-- Gives the first field with an id another element. -/
def setWidget (form : Form) (id : String) (w : Widget) : Form :=
  ⟨setInSections id w form.sections⟩

/-- Applies a function to every element. -/
def mapWidgets (g : Widget → Widget) (form : Form) : Form where
  sections := form.sections.map fun s =>
    { s with rows := s.rows.map fun r => ⟨r.fields.map fun f => { f with widget := g f.widget }⟩ }

/-! ## Rendering -/

/-- The field of a variable, if its type is supported. -/
def fieldOf? (setting : Setting) (v : Variable) : Option Field := do
  let b ← v.type.behavior?
  let id := elementId setting v
  return ⟨id, v.title, b.columns, b.widget id v⟩

/-- The row of an entry. -/
def rowOf (setting : Setting) (e : Entry) : Row :=
  ⟨e.vars.filterMap (fieldOf? setting)⟩

/-- The section of a setting; rows without fields are left out. -/
def sectionOf (setting : Setting) : Section where
  name := setting.name
  title := setting.title
  rows := (setting.entries.map (rowOf setting)).filter fun r => !r.fields.isEmpty

/-- The form of a schema, with nothing entered. -/
def render (schema : Schema) : Form :=
  ⟨schema.settings.map sectionOf⟩

end Form

end DeviceSetup
