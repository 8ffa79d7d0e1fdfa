import DeviceSetup.Network.Combo

/-!
# Widgets

The elements of a form and what they hold.
-/

namespace DeviceSetup

/-- How an input of one line behaves. -/
inductive InputKind where
  | text
  | password
  | number
  | readOnly
  deriving Repr, DecidableEq

/-- An option of a select. -/
structure SelectOption where
  value : String
  label : String
  deriving Repr, DecidableEq

/-- An element and what it holds. -/
inductive Widget where
  | input (kind : InputKind) (placeholder : Option String) (value : String)
  | checkbox (checked : Bool)
  | select (options : List SelectOption) (selected : Option Nat)
  | network (combo : NetworkCombo)
  deriving Repr, DecidableEq

/-- The kind of an element. -/
inductive WidgetKind where
  | input
  | checkbox
  | select
  | network
  deriving Repr, DecidableEq

/-- What a kind is called in messages. -/
def WidgetKind.name : WidgetKind → String
  | .input => "input"
  | .checkbox => "checkbox"
  | .select => "select"
  | .network => "network combo"

namespace Widget

/-- The kind of an element. -/
def kind : Widget → WidgetKind
  | .input .. => .input
  | .checkbox _ => .checkbox
  | .select .. => .select
  | .network _ => .network

/-- An element as it is shown while the combo offers a scan; any other element as it is. -/
def mergeScan (networks : List Network) : Widget → Widget
  | .network combo => .network (combo.mergeScan networks)
  | w => w

end Widget

end DeviceSetup
