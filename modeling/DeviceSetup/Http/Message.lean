import DeviceSetup.Text.Basic
import DeviceSetup.Text.Decimal
import DeviceSetup.Text.Utf8

/-!
# Requests and responses

What the app asks of the device, and what comes back: a response, or the reason why
there is none. Each status code has a reason and says something about the request. Of a
content type only the type and subtype at its front count, in lower case.
-/

namespace DeviceSetup.Http

/-! ## Status codes -/

/-- Codes and their reasons. -/
def reasons : List (Nat × String) :=
  [(100, "Continue"), (101, "Switching Protocols"), (103, "Early Hints"), (200, "OK"),
   (201, "Created"), (202, "Accepted"), (203, "Non Authoritative Information"),
   (204, "No Content"), (205, "Reset Content"), (206, "Partial Content"), (207, "Multi-Status"),
   (226, "Im Used"), (300, "Multiple Choice"), (301, "Moved Permanently"), (302, "Found"),
   (303, "See Other"), (304, "Modified"), (307, "Temporary Redirect"), (308, "Permanent Redirect"),
   (400, "Bad Request"), (401, "Unauthorized"), (402, "Payment Required"), (403, "Forbidden"),
   (404, "Not Found"), (405, "Method Not Allowed"), (406, "Not Acceptable"),
   (407, "Proxy Authentication Required"), (408, "Request Timeout"), (409, "Conflict"),
   (410, "Gone"), (411, "Length Required"), (412, "Precondition Failed"),
   (413, "Payload Too Large"), (414, "URI Too Long"), (415, "Unsupported Media Type"),
   (416, "Requested Range Not Satisfiable"), (417, "Expectation Failed"), (418, "I'm a teapot"),
   (421, "Misdirected Request"), (422, "Unprocessable Entity"), (423, "Locked"),
   (424, "Failed Dependency"), (425, "Too Early"), (426, "Upgrade Required"),
   (428, "Precondition Required"), (429, "Too Many Requests"),
   (431, "Request Header Fields Too Large"), (451, "Unavailable For Legal Reasons"),
   (500, "Internal Server Error"), (501, "Not Implemented"), (502, "Bad Gateway"),
   (503, "Service Unavailable"), (504, "Gateway Timeout"), (505, "HTTP Version Not Supported"),
   (506, "Variant Also Negotiates"), (507, "Insufficient Storage"), (508, "Loop Detected"),
   (510, "Not Extended"), (511, "Network Authentication Required")]

/-- The reason of a code; empty for a code without one. -/
def reason (status : Nat) : String :=
  ((reasons.find? fun e => e.1 = status).map Prod.snd).getD ""

/-- Whether the request succeeded. -/
def isSuccess (status : Nat) : Bool :=
  200 ≤ status && status < 300

/-- Whether the client or the server failed. -/
def isFailure (status : Nat) : Bool :=
  400 ≤ status && status < 600

/-! ## Media types -/

/-- Whether a character may stand in a type or subtype. -/
def isTokenChar (c : Char) : Bool :=
  c.isAlphanum || c ∈ "!#$%&'*+-.^_`|~".toList

/-- Whether a character is blank in a header. -/
def isHeaderBlank (c : Char) : Bool :=
  c = ' ' || c = '\t' || c = '\n' || c = '\r'

/-- Drops header blanks at the end. -/
def trimHeaderEnd (cs : List Char) : List Char :=
  (cs.reverse.dropWhile isHeaderBlank).reverse

/-- Whether characters are a type or subtype. -/
def isToken (cs : List Char) : Bool :=
  !cs.isEmpty && cs.all isTokenChar

/-- The type and subtype of a content type, if it has them. -/
def mediaType? (contentType : String) : Option String :=
  let cs := trimHeaderEnd (contentType.toList.dropWhile isHeaderBlank)
  let main := cs.takeWhile (· ≠ '/')
  match cs.dropWhile (· ≠ '/') with
  | [] => none
  | _ :: rest =>
    let sub := trimHeaderEnd (rest.takeWhile (· ≠ ';'))
    if isToken main && isToken sub then
      some (Text.lowerAscii (String.ofList (main ++ '/' :: sub)))
    else none

/-! ## Messages -/

/-- A header. -/
structure Header where
  name : String
  value : String
  deriving Repr, DecidableEq

/-- How a request is made. -/
inductive Method where
  | get
  | post
  deriving Repr, DecidableEq

/-- The word for a method. -/
def Method.name : Method → String
  | .get => "GET"
  | .post => "POST"

/-- What the app asks. -/
structure Request where
  method : Method
  url : String
  headers : List Header
  body : Bytes
  deriving Repr, DecidableEq

/-- What the device answers. -/
structure Response where
  status : Nat
  headers : List Header
  body : Option Bytes
  deriving Repr, DecidableEq

/-- Why there is no response to work with. -/
inductive TransportError where
  | url (why : String)
  | io (why : String)
  | timeout
  | json (why : String)
  | status (code : Nat) (message : String)
  deriving Repr, DecidableEq

/-- The wording of an error. -/
def TransportError.message : TransportError → String
  | .url why => s!"URL parse error: {why}"
  | .io why => s!"IO error: {why}"
  | .timeout => "Timeout"
  | .json why => s!"JSON serialization error: {why}"
  | .status code message => s!"HTTP error {code}: {message}"

/-- The outcome of a request. -/
abbrev Outcome := Except TransportError Response

/-- What the app's requests start with; the page that hosts the app takes it off again. -/
def baseUrl : String := "https://relative"

/-- The address of an endpoint. -/
def url (endpoint : String) : String :=
  baseUrl ++ endpoint

/-- The value of the last header with a name, case aside. -/
def lastHeader? (headers : List Header) (name : String) : Option String :=
  (headers.reverse.find? fun h => Text.lowerAscii h.name = name).map (·.value)

/-- The media type of a response; one that cannot be read counts as none. -/
def Response.mediaType? (r : Response) : Option String := do
  Http.mediaType? (← lastHeader? r.headers "content-type")

/-- What the transport makes of a response: one that reports a failure is an error, whatever its
body. -/
def Response.outcome (r : Response) : Outcome :=
  if isFailure r.status then .error (.status r.status (Decimal.ofNat r.status)) else .ok r

end DeviceSetup.Http
