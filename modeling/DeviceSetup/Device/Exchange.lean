import DeviceSetup.Http.Message

/-!
# What the device is given and what it answers

Files as they are read, a request as it reaches the device, with its address still in
written form, and the answer.

Reading a path gives octets or a reason why there are none. A file that is to hold text
must be well-formed UTF-8 as a whole.
-/

namespace DeviceSetup

/-! ## Files -/

/-- What comes of reading a path. -/
inductive FileContent where
  | failed (why : String)
  | octets (bs : Bytes)
  deriving Repr, DecidableEq

namespace FileContent

/-- What comes of reading a path where there is no file. -/
def missing : FileContent := .failed "No such file or directory (os error 2)"

/-- The text of a file, or why there is none. -/
def text : FileContent → Except String String
  | .failed why => .error why
  | .octets bs =>
    match Utf8.decode? bs with
    | some s => .ok s
    | none => .error "stream did not contain valid UTF-8"

end FileContent

/-! ## Requests and answers -/

/-- A request to the device. -/
structure ServerRequest where
  method : String
  /-- The address: a path, with a query or a fragment if there is one. -/
  path : String
  headers : List Http.Header
  body : Bytes
  deriving Repr, DecidableEq

/-- An answer of the device. -/
structure ServerReply where
  status : Nat
  contentType : Option String
  body : Bytes
  deriving Repr, DecidableEq

namespace ServerRequest

/-- Whether a character is plain in a header. -/
def isHeaderChar (c : Char) : Bool :=
  (' ' ≤ c && c ≤ '~') || c = '\t'

/-- Whether the value of a header is plain throughout. -/
def isPlain (value : String) : Bool :=
  value.toList.all isHeaderChar

/-- The values of the headers with a name, case aside. -/
def values (r : ServerRequest) (name : String) : List String :=
  (r.headers.filter fun h => Text.lowerAscii h.name = name).map (·.value)

/-- The value of the first header with a name; a value that is not plain counts as none. -/
def header? (r : ServerRequest) (name : String) : Option String := do
  let value ← (r.values name).head?
  if isPlain value then some value else none

end ServerRequest

end DeviceSetup
