import DeviceSetup.App.Model
import DeviceSetup.Schema.Json

/-!
# The app's step

`update` takes an event and a model to the next model and the effects, in the order in
which they are issued.
-/

namespace DeviceSetup

namespace Model

/-- A model and what is asked for. -/
abbrev Step := Model × List Effect

/-- Shows an error and renders. -/
def fail (m : Model) (why : String) : Step :=
  (m.setError why, [.render])

/-! ## Loading -/

/-- Asks for the configuration. -/
def fetchConfig (m : Model) : Step :=
  (m.startLoading, [.render, .fetch .loadConfig (configRequest m.format)])

/-- Puts a form for a schema in place. A save under way is forgotten, and the last scan is
merged. -/
def install (m : Model) (schema : Schema) (format : WireFormat) : Model :=
  let form := Form.render schema
  let poller := m.poller.track form
  { m with
    form := poller.mergeLast form
    schema := schema
    format := format
    isSaving := false
    saveEnabled := !form.isEmpty
    poller := poller }

/-- Starts scanning if the form has a combo. -/
def scanIfNeeded (m : Model) : Step :=
  if m.form.hasNetwork then
    let (poller, effects) := m.poller.start
    ({ m with poller }, effects)
  else (m, [])

/-- Takes a schema: shows its form, asks for the configuration and scans if there is a combo. -/
def setUp (m : Model) (settings : String) (format : WireFormat) : Step :=
  match Schema.ofText settings with
  | .error e => m.fail e.message
  | .ok schema =>
    let (poller, stopped) := m.poller.stop
    let m := { m with poller }.install schema format
    let (m, asked) := m.fetchConfig
    let (m, scanning) := m.scanIfNeeded
    (m, stopped ++ .render :: asked ++ scanning)

/-- Takes a configuration into the form. -/
def configReceived (m : Model) (result : Except String Payload) : Step :=
  let m := m.stopLoading
  match result with
  | .error why => (m.setError why, [.render])
  | .ok payload =>
    match m.form.load m.schema payload with
    | (form, none) => ({ m with form }, [.render])
    | (form, some e) => ({ m with form }.setError e.message, [.render])

/-! ## Editing and saving -/

/-- Applies an edit. -/
def edit (m : Model) (id : String) (e : Edit) : Step :=
  match m.form.tryEdit id e with
  | (form, .ok _) => ({ m with form }, [.render])
  | (form, .error e) => { m with form }.fail e.message

/-- Sends the form to the device and arms the timeout. -/
def save (m : Model) : Step :=
  if !m.saveEnabled then (m, [])
  else
    match m.form.save m.schema with
    | .error e => m.fail e.message
    | .ok payload =>
      let m := m.startSaving
      (m, [.render, .fetch (.save m.saveGeneration) (saveRequest m.format payload),
        .timer (.start m.saveGeneration .saveTimeout saveTimeoutMillis)])

/-- Takes the answer to a save, if it is the one under way. -/
def saveAnswered (m : Model) (generation : Nat) (result : Except String String) : Step :=
  if !m.isCurrentSave generation then (m, [])
  else
    let m := m.finishSaving
    let m := match result with
      | .ok message => { m with success := some message }
      | .error why => m.setError why
    (m, [.timer (.cancel generation .saveTimeout), .render])

/-- Gives up the save under way when its timer fires. -/
def saveTimer (m : Model) (output : TimerOutput) : Step :=
  match output with
  | .fired id .saveTimeout =>
    if m.isCurrentSave id then m.finishSaving.fail "Save timed out" else (m, [])
  | .fired _ .poll | .cancelled _ _ => (m, [])

/-! ## Scanning and messages -/

/-- Puts a step of the poller in place. -/
def withPoller (m : Model) (step : Poller × List Effect) : Step :=
  ({ m with poller := step.1 }, step.2)

/-- Takes a scan into the form. -/
def scanReceived (m : Model) (result : Except String ScanReport) : Step :=
  let (poller, form, effects) := m.poller.scanned m.form result
  ({ m with poller, form }, effects)

/-- Removes the error. -/
def clearError (m : Model) : Step :=
  if m.error = none then (m, []) else ({ m with error := none }, [.render])

/-- Removes the message of success. -/
def clearSuccess (m : Model) : Step :=
  if m.success = none then (m, []) else ({ m with success := none }, [.render])

end Model

/-- What an event does to the model, and what is asked for. -/
def update (m : Model) : Event → Model × List Effect
  | .shell (.setUp settings format) => m.setUp settings format
  | .shell .reload => m.fetchConfig
  | .shell (.edit id e) => m.edit id e
  | .shell .save => m.save
  | .shell .startScanning => m.withPoller m.poller.start
  | .shell .stopScanning => m.withPoller m.poller.stop
  | .shell .rescan => m.withPoller m.poller.poll
  | .shell .clearError => m.clearError
  | .shell .clearSuccess => m.clearSuccess
  | .configReceived result => m.configReceived result
  | .saveAnswered generation result => m.saveAnswered generation result
  | .saveTimer output => m.saveTimer output
  | .scanReceived result => m.scanReceived result
  | .pollTimer output => m.withPoller (m.poller.timed output)

end DeviceSetup
