import DeviceSetup.App.Model
import DeviceSetup.Bridge.Events

/-!
# What the shell receives, in binary

The visible part of the model, and the requests that the app makes, each with the id
under which it is to be answered.
-/

namespace DeviceSetup

open Binary

/-! ## The view -/

/-- Writes the kind of an input. -/
def InputKind.put : InputKind → Bytes
  | .text => putVariant 0
  | .password => putVariant 1
  | .number => putVariant 2
  | .readOnly => putVariant 3

/-- Writes an option of a select. -/
def SelectOption.put (o : SelectOption) : Bytes :=
  putText o.value ++ putText o.label

/-- Writes an option of a combo. -/
def NetworkOption.put : NetworkOption → Bytes
  | .scanned n =>
    putVariant 0 ++ putText n.name ++ putNat 4 n.rssi.toUInt32.toNat ++ putNat 4 n.channel.toNat
  | .typed text => putVariant 1 ++ putText text

/-- Writes a combo. -/
def NetworkCombo.put (c : NetworkCombo) : Bytes :=
  putText c.optionsId ++ putText c.text ++ putList NetworkOption.put c.options
    ++ putOption putSize c.selected

/-- Writes an element. -/
def Widget.put : Widget → Bytes
  | .input kind placeholder value =>
    putVariant 0 ++ kind.put ++ putOption putText placeholder ++ putText value
  | .checkbox checked => putVariant 1 ++ putBool checked
  | .select options selected =>
    putVariant 2 ++ putList SelectOption.put options ++ putOption putSize selected
  | .network combo => putVariant 3 ++ combo.put

/-- Writes a field. -/
def Field.put (f : Field) : Bytes :=
  putText f.id ++ putText f.label ++ putOption (fun n : UInt8 => [n]) f.columns ++ f.widget.put

/-- Writes a row. -/
def Row.put (r : Row) : Bytes :=
  putList Field.put r.fields

/-- Writes a section. -/
def Section.put (s : Section) : Bytes :=
  putText s.name ++ putText s.title ++ putList Row.put s.rows

/-- Writes a form. -/
def Form.put (form : Form) : Bytes :=
  putList Section.put form.sections

/-- Writes the visible part of a model. -/
def Model.view (m : Model) : Bytes :=
  m.form.put ++ m.format.put ++ putBool m.isLoading ++ putBool m.isSaving ++ putBool m.saveEnabled
    ++ putOption putText m.error ++ putOption putText m.success

/-! ## Requests -/

/-- Writes a request to the clock. -/
def TimerOp.put : TimerOp → Bytes
  | .start id kind millis => putVariant 0 ++ putSize id ++ kind.put ++ putSize millis
  | .cancel id kind => putVariant 1 ++ putSize id ++ kind.put

/-- Writes a request to the device. -/
def Http.Request.put (r : Http.Request) : Bytes :=
  putText r.method.name ++ putText r.url ++ putList Http.Header.put r.headers ++ putBytes r.body

/-- Writes an effect. -/
def Effect.put : Effect → Bytes
  | .render => putVariant 0
  | .fetch _ request => putVariant 1 ++ request.put
  | .timer op => putVariant 2 ++ op.put

end DeviceSetup
