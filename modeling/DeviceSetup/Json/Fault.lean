import DeviceSetup.Number.Shortest
import DeviceSetup.Text.Basic
import DeviceSetup.Text.Utf8

/-!
# Faults of JSON input

A fault is a cause and the number of octets that were left when it was noticed. The
cause has a wording of its own; together with the source, the fault names a line
and a column.
-/

namespace DeviceSetup.Json

/-- What was found where something else was expected. -/
inductive Found where
  | null
  | bool (b : Bool)
  | integer (n : Int)
  | float (x : Double)
  | string (s : String)
  | list
  | object
  deriving Repr, DecidableEq

/-- The word for a truth value. -/
def boolWord (b : Bool) : String :=
  if b then "true" else "false"

/-- The wording of what was found. -/
def Found.message : Found → String
  | .null => "null"
  | .bool b => s!"boolean `{boolWord b}`"
  | .integer n => s!"integer `{Decimal.ofInt n}`"
  | .float x => s!"floating point `{NumberLayout.compact.render x}`"
  | .string s => s!"string {Text.quoted s}"
  | .list => "sequence"
  | .object => "map"

/-- Why a text is refused: it is no JSON, or not the JSON that is wanted. -/
inductive Cause where
  | endInList
  | endInObject
  | endInString
  | endInValue
  | noColon
  | noListComma
  | noObjectComma
  | badWord
  | noValue
  | badEscape
  | badNumber
  | numberOutOfRange
  | badCodePoint
  | controlCharacter
  | keyNotString
  | loneSurrogate
  | trailingComma
  | trailingCharacters
  | endInSurrogates
  | tooDeep
  | wrongType (found : Found) (expected : String)
  | wrongInteger (n : Int) (expected : String)
  | wrongLength (length : Nat) (record : String) (size : Nat)
  | missingField (name : String)
  | duplicateField (name : String)
  | integerOutOfRange (n : Nat)
  | notWhole (x : Double)
  | noSuchEntry
  deriving Repr, DecidableEq

/-- The wording of a cause. -/
def Cause.message : Cause → String
  | .endInList => "EOF while parsing a list"
  | .endInObject => "EOF while parsing an object"
  | .endInString => "EOF while parsing a string"
  | .endInValue => "EOF while parsing a value"
  | .noColon => "expected `:`"
  | .noListComma => "expected `,` or `]`"
  | .noObjectComma => "expected `,` or `\x7d`"
  | .badWord => "expected ident"
  | .noValue => "expected value"
  | .badEscape => "invalid escape"
  | .badNumber => "invalid number"
  | .numberOutOfRange => "number out of range"
  | .badCodePoint => "invalid unicode code point"
  | .controlCharacter => "control character (\\u0000-\\u001F) found while parsing a string"
  | .keyNotString => "key must be a string"
  | .loneSurrogate => "lone leading surrogate in hex escape"
  | .trailingComma => "trailing comma"
  | .trailingCharacters => "trailing characters"
  | .endInSurrogates => "unexpected end of hex escape"
  | .tooDeep => "recursion limit exceeded"
  | .wrongType found expected => s!"invalid type: {found.message}, expected {expected}"
  | .wrongInteger n expected => s!"invalid value: integer `{Decimal.ofInt n}`, expected {expected}"
  | .wrongLength length record size =>
    let unit := if size = 1 then "element" else "elements"
    s!"invalid length {length}, expected struct {record} with {size} {unit}"
  | .missingField name => s!"missing field `{name}`"
  | .duplicateField name => s!"duplicate field `{name}`"
  | .integerOutOfRange n => s!"integer {n} out of range"
  | .notWhole x => s!"non-integer number {NumberLayout.plain.render x}"
  | .noSuchEntry => "data did not match any variant of untagged enum VariableEntry"

/-- A cause and how many octets were left when it was noticed. -/
structure Fault where
  cause : Cause
  left : Nat
  deriving Repr, DecidableEq

/-- A fault noticed with `rest` still to be read. -/
def Fault.before (cause : Cause) (rest : Bytes) : Fault :=
  ⟨cause, rest.length⟩

/-- A fault noticed by looking at the first octet of `rest`, which counts as read. -/
def Fault.on (cause : Cause) (rest : Bytes) : Fault :=
  ⟨cause, rest.length - 1⟩

/-- A fault with its place in the source. -/
structure Error where
  cause : Cause
  /-- Counted from one. -/
  line : Nat
  /-- The octets of the line up to the fault. -/
  column : Nat
  deriving Repr, DecidableEq

/-- The wording of an error. -/
def Error.message (e : Error) : String :=
  s!"{e.cause.message} at line {e.line} column {e.column}"

/-- Whether an octet ends a line. -/
def isLineFeed (b : UInt8) : Bool :=
  b = '\n'.toUInt8

/-- Places a fault in its source. -/
def Fault.locate (source : Bytes) (f : Fault) : Error :=
  let read := source.take (source.length - f.left)
  { cause := f.cause
    line := read.countP isLineFeed + 1
    column := (read.reverse.takeWhile (!isLineFeed ·)).length }

end DeviceSetup.Json
