import DeviceSetup.App.Poller

/-!
# The app's model

What the shell shows, and behind it the schema, the count of saves and the poller.
-/

namespace DeviceSetup

/-- The state of the app. -/
structure Model where
  form : Form
  format : WireFormat
  isLoading : Bool
  isSaving : Bool
  saveEnabled : Bool
  error : Option String
  success : Option String
  schema : Schema
  /-- The number of saves so far, which names the last one. -/
  saveGeneration : Nat
  poller : Poller
  deriving Repr, DecidableEq

namespace Model

/-- The state at the start. -/
def initial : Model where
  form := .empty
  format := .json
  isLoading := false
  isSaving := false
  saveEnabled := false
  error := none
  success := none
  schema := .empty
  saveGeneration := 0
  poller := .idle

instance : Inhabited Model := ⟨initial⟩

/-- Marks the configuration as under way. -/
def startLoading (m : Model) : Model :=
  { m with isLoading := true, error := none }

/-- Marks the configuration as received. -/
def stopLoading (m : Model) : Model :=
  { m with isLoading := false, error := none }

/-- Begins a save: a new generation, and no other save until it is finished. -/
def startSaving (m : Model) : Model :=
  { m with
    saveGeneration := m.saveGeneration + 1
    isSaving := true
    saveEnabled := false
    error := none
    success := none }

/-- Ends a save. -/
def finishSaving (m : Model) : Model :=
  { m with isSaving := false, saveEnabled := !m.form.isEmpty }

/-- Whether a generation names the save under way. -/
def isCurrentSave (m : Model) (generation : Nat) : Bool :=
  m.isSaving && m.saveGeneration = generation

/-- Shows an error. -/
def setError (m : Model) (why : String) : Model :=
  { m with isLoading := false, error := some why }

/-- Shows that a request could not be made. -/
def requestFailed (m : Model) (action why : String) : Model :=
  m.setError s!"Failed to create {action} request: {why}"

end Model

end DeviceSetup
