import DeviceSetup.Form.Edit
import DeviceSetup.Http.Reply

/-!
# Events and effects

Events come from the shell, or from the answers to what the app asked for. Effects are
what the app asks for. Every request carries its purpose, which says what event its
answer comes to.

The shell owns the clock. The app asks it to start and to cancel timers, named by kind
and number, and hears whether a timer fired or was cancelled.
-/

namespace DeviceSetup

/-! ## Timers -/

/-- What a timer is for. -/
inductive TimerKind where
  | poll
  | saveTimeout
  deriving Repr, DecidableEq

/-- What the app asks of the clock. -/
inductive TimerOp where
  | start (id : Nat) (kind : TimerKind) (millis : Nat)
  | cancel (id : Nat) (kind : TimerKind)
  deriving Repr, DecidableEq

/-- The kind of the timer that is asked for. -/
def TimerOp.kind : TimerOp → TimerKind
  | .start _ kind _ => kind
  | .cancel _ kind => kind

/-- What the app hears of the clock. -/
inductive TimerOutput where
  | fired (id : Nat) (kind : TimerKind)
  | cancelled (id : Nat) (kind : TimerKind)
  deriving Repr, DecidableEq

/-! ## Events -/

/-- What the shell may send. -/
inductive ShellEvent where
  /-- Takes a schema and the format in which payloads travel. -/
  | setUp (settings : String) (format : WireFormat)
  | reload
  | edit (id : String) (e : Edit)
  | save
  | startScanning
  | stopScanning
  | rescan
  | clearError
  | clearSuccess
  deriving Repr, DecidableEq

/-- What may happen to the app. -/
inductive Event where
  | shell (e : ShellEvent)
  | configReceived (result : Except String Payload)
  | saveAnswered (generation : Nat) (result : Except String String)
  | saveTimer (output : TimerOutput)
  | scanReceived (result : Except String ScanReport)
  | pollTimer (output : TimerOutput)

/-- What a request is for. -/
inductive Purpose where
  | loadConfig
  | save (generation : Nat)
  | scan
  deriving Repr, DecidableEq

/-- What the app asks for. -/
inductive Effect where
  | render
  | fetch (purpose : Purpose) (request : Http.Request)
  | timer (op : TimerOp)
  deriving Repr, DecidableEq

/-- The event that the outcome of a request comes to. -/
def Purpose.event (purpose : Purpose) (outcome : Http.Outcome) : Event :=
  match purpose with
  | .loadConfig => .configReceived ((Http.payloadReply outcome).mapError (·.message "Load config"))
  | .save generation =>
    .saveAnswered generation ((Http.saveReply outcome).mapError (·.message "Save"))
  | .scan => .scanReceived ((Http.scanReply outcome).mapError (·.message "Wifi scan"))

/-- The event that the output of a timer comes to. -/
def TimerKind.event (kind : TimerKind) (output : TimerOutput) : Event :=
  match kind with
  | .poll => .pollTimer output
  | .saveTimeout => .saveTimer output

/-- Where the configuration is read and written. -/
def configEndpoint : String := "/config"

/-- Where scans are read. -/
def scanEndpoint : String := "/wifiscan"

/-- How long a save may take, in milliseconds. -/
def saveTimeoutMillis : Nat := 10000

/-- How long after a scan the next one is made, in milliseconds. -/
def pollMillis : Nat := 30000

/-- The request for the configuration. -/
def configRequest (format : WireFormat) : Http.Request :=
  ⟨.get, Http.url configEndpoint, [⟨"accept", format.contentType⟩], []⟩

/-- The request that saves a payload. -/
def saveRequest (format : WireFormat) (p : Payload) : Http.Request :=
  ⟨.post, Http.url configEndpoint, [⟨"content-type", format.contentType⟩], format.encode p⟩

/-- The request for a scan. -/
def scanRequest : Http.Request :=
  ⟨.get, Http.url scanEndpoint, [], []⟩

end DeviceSetup
