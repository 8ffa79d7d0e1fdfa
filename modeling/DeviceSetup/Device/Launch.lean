import DeviceSetup.Text.Decimal
import DeviceSetup.Text.Hex

/-!
# Launch options

The device takes its options from named variables of its environment, each with a
default. They are read once; later readings give what the first one gave.

One of them is the device's id: six octets, written as twelve hexadecimal digits with colons
and hyphens anywhere between them.
-/

namespace DeviceSetup

/-! ## Device ids -/

namespace DeviceId

/-- Whether a character only divides the digits. -/
def isSeparator (c : Char) : Bool :=
  c = ':' || c = '-'

/-- The digits of a text without its separators. -/
def digits (text : String) : List Char :=
  text.toList.filter (!isSeparator ·)

/-- The number of digits. -/
def length : Nat := 12

/-- The octets that a text names. -/
def parse? (text : String) : Option Bytes :=
  let ds := digits text
  if ds.length = length then Hex.decodeDigits? ds else none

/-- What is said of a text that names no octets. -/
def complaint (text : String) : String :=
  s!"expected {length} hex digits, got '{text}'"

end DeviceId

/-! ## Options -/

/-- The options of the device. -/
structure LaunchOptions where
  port : Nat
  settingsPath : String
  staticDir : String
  scanResultsPath : Option String
  deviceId : Bytes
  maxConfigBytes : Nat
  deriving Repr, DecidableEq

/-- Why the options cannot be read. -/
inductive LaunchError where
  | badPort (f : Decimal.Fault)
  | badDeviceId (text : String)
  | badMaxConfigBytes (f : Decimal.Fault)
  deriving Repr, DecidableEq

/-- The wording of an error. -/
def LaunchError.message : LaunchError → String
  | .badPort f => s!"failed to parse PROVISIONING_PORT: invalid format: {f.message}"
  | .badDeviceId text => s!"failed to parse DEVICE_ID: {DeviceId.complaint text}"
  | .badMaxConfigBytes f => s!"failed to parse MAX_CONFIG_BYTES: invalid format: {f.message}"

namespace LaunchOptions

/-- Reads a number up to a bound. -/
def number (text : String) (bound : Nat) : Except Decimal.Fault Nat :=
  Decimal.readNat bound text.toList

/-- Reads the options; the port comes before the device id, and that before the size limit. -/
def read (env : String → Option String) : Except LaunchError LaunchOptions := do
  let port ←
    (number ((env "PROVISIONING_PORT").getD "8080") (2 ^ 16 - 1)).mapError .badPort
  let idText := (env "DEVICE_ID").getD "a0b1c2d3e4f5"
  let deviceId ←
    match DeviceId.parse? idText with
    | some id => .ok id
    | none => .error (.badDeviceId idText)
  let maxConfigBytes ←
    (number ((env "MAX_CONFIG_BYTES").getD "1024") (2 ^ 64 - 1)).mapError .badMaxConfigBytes
  return {
    port
    settingsPath := (env "SETTINGS_PATH").getD "settings.json"
    staticDir := (env "STATIC_DIR").getD "static"
    scanResultsPath := env "SCAN_RESULTS_PATH"
    deviceId
    maxConfigBytes }

/-- The options that were read before, or those read now; and what is remembered. -/
def readOnce (remembered : Option LaunchOptions) (env : String → Option String) :
    Except LaunchError LaunchOptions :=
  match remembered with
  | some options => .ok options
  | none => read env

end LaunchOptions

end DeviceSetup
