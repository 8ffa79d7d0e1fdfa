import DeviceSetup.Form.Transfer

/-!
# Editing forms

What a user may do to one field. An edit reaches the first field with its id and works on
its element in place. That a form is left alone by an edit that fails is thus no matter of types:
the element is given back as the edit left it, also where the edit was for another kind.
-/

namespace DeviceSetup

/-- What a user does to an element. -/
inductive Edit where
  | input (text : String)
  | checked (b : Bool)
  /-- An index that names no option clears the selection. -/
  | choose (index : Nat)
  | networkText (text : String)
  /-- An index that names no option changes nothing. -/
  | pickNetwork (index : Nat)
  deriving Repr, DecidableEq

namespace Edit

/-- The kind of element that an edit is for. -/
def widgetKind : Edit → WidgetKind
  | .input _ => .input
  | .checked _ => .checkbox
  | .choose _ => .select
  | .networkText _ | .pickNetwork _ => .network

/-- Edits an element in place: the element as it is left, and whether the edit meant something to
it; none if the element is of another kind. -/
def act : Edit → Widget → Widget × Option Bool
  | .input text, .input kind placeholder _ => (.input kind placeholder text, some true)
  | .checked b, .checkbox _ => (.checkbox b, some true)
  | .choose index, .select options _ =>
    (.select options (if index < options.length then some index else none), some true)
  | .networkText text, .network combo => (.network (combo.selectText text), some true)
  | .pickNetwork index, .network combo =>
    match combo.pick? index with
    | some combo => (.network combo, some true)
    | none => (.network combo, some false)
  | _, w => (w, none)

/-- The element after an edit that is for its kind. -/
def apply (e : Edit) (w : Widget) : Option (Widget × Bool) :=
  match e.act w with
  | (w, some took) => some (w, took)
  | (_, none) => none

end Edit

namespace Form

/-- Edits a field in place: the form as it is left, and whether the edit meant something to it. -/
def tryEdit (form : Form) (id : String) (e : Edit) : Form × Except FormError Bool :=
  match form.field? id with
  | none => (form, .error (.notFound id))
  | some f =>
    match e.act f.widget with
    | (w, some took) => (form.setWidget id w, .ok took)
    | (w, none) =>
      (form.setWidget id w, .error (Field.mismatch { f with widget := w } e.widgetKind))

/-- The form after an edit that succeeds, and whether the edit meant something to it. -/
def edit (form : Form) (id : String) (e : Edit) : Except FormError (Form × Bool) :=
  match form.tryEdit id e with
  | (form, .ok took) => .ok (form, took)
  | (_, .error why) => .error why

end Form

end DeviceSetup
