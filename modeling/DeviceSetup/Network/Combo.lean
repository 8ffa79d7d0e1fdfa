import DeviceSetup.Network.Json
import DeviceSetup.Text.Decimal

/-!
# Network combos

A combo is a text that the user may type, beside a list of scanned networks to pick
from. The text says what the user wants. A text that is no scanned name stands in the
list as well, as its first option, so that something is always selected.
-/

namespace DeviceSetup

/-- An option of a combo. -/
inductive NetworkOption where
  | scanned (network : Network)
  /-- Text that is not among the scanned names. -/
  | typed (text : String)
  deriving Repr, DecidableEq

namespace NetworkOption

/-- The text that choosing an option stands for. -/
def value : NetworkOption → String
  | .scanned n => n.name
  | .typed text => text

/-- The text that an option shows. -/
def label : NetworkOption → String
  | .scanned n =>
    s!"{n.name} ({Decimal.ofInt n.rssi.toInt} dBm, ch {Decimal.ofNat n.channel.toNat})"
  | .typed text => text

/-- Whether an option is typed text. -/
def isTyped : NetworkOption → Bool
  | .scanned _ => false
  | .typed _ => true

end NetworkOption

/-- A text beside a list of networks. -/
structure NetworkCombo where
  optionsId : String
  text : String
  options : List NetworkOption
  selected : Option Nat
  deriving Repr, DecidableEq

namespace NetworkCombo

/-- A combo without text and options. -/
def fresh (optionsId : String) : NetworkCombo := ⟨optionsId, "", [], none⟩

/-- The option that is selected. -/
def selectedOption? (c : NetworkCombo) : Option NetworkOption := do
  c.options[← c.selected]?

/-- Replaces the options by a scan and keeps the text. -/
def mergeScan (c : NetworkCombo) (networks : List Network) : NetworkCombo :=
  let scanned := networks.map NetworkOption.scanned
  match networks.findIdx? (·.name = c.text) with
  | some i => { c with options := scanned, selected := some i }
  | none => { c with options := .typed c.text :: scanned, selected := some 0 }

/-- Whether the first option is typed text. -/
def frontIsTyped : List NetworkOption → Bool
  | .typed _ :: _ => true
  | _ => false

/-- The options without typed text in front. -/
def dropTyped : List NetworkOption → List NetworkOption
  | .typed _ :: rest => rest
  | options => options

/-- Sets the text. A first option that was typed goes if another one has the text, and takes the
text if none has. -/
def selectText (c : NetworkCombo) (text : String) : NetworkCombo :=
  match c.options.findIdx? (·.value = text) with
  | some i =>
    if frontIsTyped c.options ∧ i ≠ 0 then
      { c with text, options := dropTyped c.options, selected := some (i - 1) }
    else { c with text, selected := some i }
  | none => { c with text, options := .typed text :: dropTyped c.options, selected := some 0 }

/-- Sets the text to that of an option; none if there is no such option. -/
def pick? (c : NetworkCombo) (index : Nat) : Option NetworkCombo :=
  (c.options[index]?).map fun o => c.selectText o.value

end NetworkCombo

end DeviceSetup
