import DeviceSetup.Device.Exchange
import DeviceSetup.Http.Date
import DeviceSetup.Http.FileType
import DeviceSetup.Http.Range
import DeviceSetup.Text.Hex

/-!
# The files of the page

An address names a file by its segments. No segment leads out of the folder: `..` only
undoes the segment before it. A folder stands for its index file. A file is given whole or
in part, unless the request says that it only wants it under a condition.
-/

namespace DeviceSetup

/-- The files of the page, by name, and when they were last changed, in seconds since 1970. -/
structure Pages where
  files : List (String × Bytes)
  changed : Nat
  deriving Repr, DecidableEq

/-! ## Addresses -/

/-- Why an address names no file. -/
inductive PathFault where
  | badStart (c : Char)
  | badEnd (c : Char)
  | badChar (c : Char)
  | notText
  deriving Repr, DecidableEq

/-- The wording of a fault. -/
def PathFault.message : PathFault → String
  | .badStart c => s!"segment started with invalid character: ('{c}')"
  | .badEnd c => s!"segment ended with invalid character: ('{c}')"
  | .badChar c => s!"segment contained invalid character ('{c}')"
  | .notText => "path is not a valid UTF-8 string after percent-decoding"

namespace Pages

/-- What is wrong with a segment. -/
def segmentFault? (s : List Char) : Option PathFault :=
  match s.head?, s.getLast? with
  | some '.', _ => some (.badStart '.')
  | some '*', _ => some (.badStart '*')
  | _, some ':' => some (.badEnd ':')
  | _, some '>' => some (.badEnd '>')
  | _, some '<' => some (.badEnd '<')
  | _, _ => none

/-- Follows segments from a place; the place has its last segment first. -/
def walk (place : List (List Char)) : List (List Char) → Except PathFault (List (List Char))
  | [] => .ok place
  | s :: rest =>
    if s = ['.', '.'] then walk place.tail rest
    else
      match segmentFault? s with
      | some f => .error f
      | none => if s = [] then walk place rest else walk (s :: place) rest

/-- The segments that a path leads to. A slash only counts where it is written as one. -/
def place (path : String) : Except PathFault (List String) := do
  let some text := Utf8.decode? (Percent.decode (fun _ => false) (Utf8.encode path))
    | throw .notText
  if text.toList.count '/' ≠ path.toList.count '/' then throw (.badChar '/')
  let back ← walk [] (Text.splitChars '/' text.toList)
  return back.reverse.map String.ofList

/-- The name of the file at a place. -/
def fileName (place : List String) : String :=
  "/".intercalate place

/-- Whether a place is a folder. -/
def isFolder (p : Pages) (place : List String) : Bool :=
  place.isEmpty || p.files.any fun f => (fileName place ++ "/").toList.isPrefixOf f.1.toList

/-- The file that a place stands for, with its name. -/
def file? (p : Pages) (place : List String) : Option (String × Bytes) :=
  let name := fileName (if p.isFolder place then place ++ ["index.html"] else place)
  p.files.find? fun f => f.1 = name

/-! ## Conditions -/

/-- Whether a header that lists versions of a file says "any". -/
def isAny (value : String) : Bool :=
  Text.trim value = "*"

/-- The moment that a header gives. -/
def moment? (r : ServerRequest) (name : String) : Option Nat := do
  Http.Date.parse? (← r.header? name)

/-- Whether a request wants a file only in a version that it is not. The name of a version is made
when the file is written, so no name in a request is that of a file. -/
def conditionFails (p : Pages) (r : ServerRequest) : Bool :=
  let versions := r.values "if-match"
  if !versions.isEmpty && versions.all ServerRequest.isPlain && !versions.head?.any isAny then true
  else (moment? r "if-unmodified-since").any (· < p.changed)

/-- Whether a request says that it has the file as it is. -/
def isKnown (p : Pages) (r : ServerRequest) : Bool :=
  match (r.values "if-none-match").head? with
  | some version => ServerRequest.isPlain version && isAny version
  | none => (moment? r "if-modified-since").any (p.changed ≤ ·)

/-! ## Answers -/

/-- The part of a file that a request asks for, or the status of a request that asks for none. -/
def span (r : ServerRequest) (size : Nat) : Except Nat Http.Span :=
  match (r.values "range").head? with
  | none => .ok (.whole size)
  | some value =>
    if ServerRequest.isPlain value then
      match Http.Span.ofHeader size value with
      | some s => .ok s
      | none => .error 416
    else .error 400

/-- Gives a file. -/
def give (p : Pages) (r : ServerRequest) (name : String) (body : Bytes) : ServerReply :=
  let type := some (Http.FileType.ofName name)
  match span r body.length with
  | .error status => ⟨status, type, []⟩
  | .ok s =>
    if p.conditionFails r then ⟨412, type, []⟩
    else if p.isKnown r then ⟨304, type, []⟩
    else ⟨if s = .whole body.length then 200 else 206, type, s.take body⟩

/-- Answers a request for a path of the page. -/
def get (p : Pages) (r : ServerRequest) (path : String) : ServerReply :=
  match place path with
  | .error f => ⟨400, some "text/plain; charset=utf-8", Utf8.encode f.message⟩
  | .ok place =>
    match p.file? place with
    | some (name, body) => p.give r name body
    | none => ⟨404, none, []⟩

end Pages

end DeviceSetup
