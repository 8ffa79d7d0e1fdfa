import DeviceSetup.Form.Widget
import DeviceSetup.Payload.Basic
import DeviceSetup.Schema.Basic
import DeviceSetup.Text.Basic

/-!
# How variables are shown

A supported type of variable has a behaviour: the element that shows it, how a value
is written into that element and how one is read from it. An element that reads as
nothing has no value to give.
-/

namespace DeviceSetup

/-- How a variable is shown. -/
inductive Behavior where
  | text (kind : InputKind) (columns : Option UInt8)
  | port
  | checkbox
  | deviceId
  | choice
  | ssid
  deriving Repr, DecidableEq

/-- The behaviour of a type, if it is supported. -/
def FieldType.behavior? : FieldType → Option Behavior
  | .username => some (.text .text (some 6))
  | .password => some (.text .password (some 6))
  | .hostname => some (.text .text (some 9))
  | .text => some (.text .text none)
  | .port => some .port
  | .checkbox => some .checkbox
  | .deviceId => some .deviceId
  | .choice => some .choice
  | .ssid => some .ssid
  | .unsupported _ => none

/-- A sign in front of digits, if there is one, and the rest. -/
def splitSign : List Char → List Char × List Char
  | '+' :: rest => (['+'], rest)
  | '-' :: rest => (['-'], rest)
  | cs => ([], cs)

/-- The integer at the front of a text, behind blanks; what follows it is not looked at. -/
def leadingInt? (text : String) : Option Int64 :=
  let (sign, rest) := splitSign (Text.trimStart text.toList)
  match rest.takeWhile Decimal.isDigit with
  | [] => none
  | digits => ((Decimal.readInt64 (sign ++ digits)).toOption).map Int64.ofInt

/-- The integer that a whole text is, outer blanks aside. -/
def wholeInt? (text : String) : Option Int64 :=
  ((Decimal.readInt64 (Text.trimChars text.toList)).toOption).map Int64.ofInt

/-- A text as a value, if it is not empty. -/
def nonEmptyText? (s : String) : Option Value :=
  if s = "" then none else some (.text s)

/-- What is shown in front of a device id. -/
def deviceIdPrefix : String := "homething-"

namespace Behavior

/-- The width of an element in columns; none for all of them. -/
def columns : Behavior → Option UInt8
  | .text _ columns => columns
  | .port => some 3
  | .checkbox => some 6
  | .deviceId | .choice | .ssid => none

/-- The kind of element that shows a variable. -/
def widgetKind : Behavior → WidgetKind
  | .text .. | .port | .deviceId => .input
  | .checkbox => .checkbox
  | .choice => .select
  | .ssid => .network

/-- The select of a variable's choices, the first one selected. -/
def choiceSelect (choices : List Choice) : Widget :=
  .select (choices.map fun c => ⟨c.value, c.label⟩) (if choices = [] then none else some 0)

/-- The element of a variable before anything is written into it. -/
def widget (id : String) (v : Variable) : Behavior → Widget
  | .text kind _ => .input kind (some v.title) ""
  | .port => .input .number none ""
  | .checkbox => .checkbox false
  | .deviceId => .input .readOnly (some v.title) ""
  | .choice => choiceSelect v.choices
  | .ssid => .network (.fresh (id ++ "-options"))

/-- The integer that the selected option stands for. -/
def selectedInt? (options : List SelectOption) (selected : Option Nat) : Option Int64 := do
  wholeInt? (← options[← selected]?).value

/-- Reads an element: the value it gives, if any, or none if it is of another kind. A device id is
never given, whatever the element. -/
def read : Behavior → Widget → Option (Option Value)
  | .text .., .input _ _ s => some (nonEmptyText? s)
  | .port, .input _ _ s => some ((leadingInt? s).map .int)
  | .checkbox, .checkbox b => some (some (.bool b))
  | .deviceId, _ => some none
  | .choice, .select options selected => some ((selectedInt? options selected).map .int)
  | .ssid, .network combo => some (nonEmptyText? combo.text)
  | _, _ => none

/-- Writes a value into an element; none if it is of another kind. -/
def write (x : Value) : Behavior → Widget → Option Widget
  | .text .., .input kind placeholder _ => some (.input kind placeholder x.displayText)
  | .port, .input kind placeholder _ => some (.input kind placeholder x.displayText)
  | .checkbox, .checkbox _ => some (.checkbox x.isSet)
  | .deviceId, .input kind placeholder _ =>
    some (.input kind placeholder (deviceIdPrefix ++ x.displayText))
  | .choice, .select options _ =>
    some (.select options (options.findIdx? (·.value = x.displayText)))
  | .ssid, .network combo => some (.network (combo.selectText x.displayText))
  | _, _ => none

end Behavior

end DeviceSetup
