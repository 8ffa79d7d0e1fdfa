import DeviceSetup.Json.Lexeme

/-!
# Reading JSON by the type that is wanted

Input is read once, from the front, by readers for the type that is wanted, and the
first fault met is the one reported. A scalar of the wrong type is read to its end
before it is refused; a list or an object is refused at its opening bracket.

`depth` is the number of brackets that may still be opened.
-/

namespace DeviceSetup.Json

/-- A value without parts. -/
inductive Scalar where
  | null
  | bool (b : Bool)
  | number (n : Number)
  | string (s : String)
  deriving Repr, DecidableEq

/-- What a scalar is called in messages. -/
def Scalar.found : Scalar → Found
  | .null => .null
  | .bool b => .bool b
  | .number n => n.found
  | .string s => .string s

/-- What a value begins with: all of a scalar, or an opening bracket. -/
inductive Opening where
  | scalar (s : Scalar)
  | list
  | object
  deriving Repr, DecidableEq

/-- The greatest number of brackets open at once. -/
def maxDepth : Nat := 127

/-- Reads a scalar or an opening bracket. -/
def opening : Reader Opening := fun bs =>
  match skipBlank bs with
  | [] => .error (.on .endInValue [])
  | b :: rest =>
    if b = '"'.toUInt8 then (string rest).map fun (s, r) => (.scalar (.string s), r)
    else if b = '['.toUInt8 then .ok (.list, rest)
    else if b = '\x7b'.toUInt8 then .ok (.object, rest)
    else if b = '-'.toUInt8 then (number true rest).map fun (n, r) => (.scalar (.number n), r)
    else if isDigit b then
      (number false (b :: rest)).map fun (n, r) => (.scalar (.number n), r)
    else if b = 'n'.toUInt8 then (word ['u', 'l', 'l'] rest).map fun r => (.scalar .null, r)
    else if b = 't'.toUInt8 then
      (word ['r', 'u', 'e'] rest).map fun r => (.scalar (.bool true), r)
    else if b = 'f'.toUInt8 then
      (word ['a', 'l', 's', 'e'] rest).map fun r => (.scalar (.bool false), r)
    else .error (.on .noValue (b :: rest))

/-- Refuses a value by what it begins with; the bracket of a list or an object counts as unread. -/
def mismatch (found : Opening) (rest : Bytes) (expected : String) : Fault :=
  match found with
  | .scalar s => .before (.wrongType s.found expected) rest
  | .list => ⟨.wrongType .list expected, rest.length + 1⟩
  | .object => ⟨.wrongType .object expected, rest.length + 1⟩

/-! ## Lists -/

/-- Goes to the next item of a list; none at the closing bracket. -/
def nextItem (first : Bool) (bs : Bytes) : Except Fault (Option Bytes) :=
  match skipBlank bs with
  | [] => .error (.on .endInList [])
  | b :: rest =>
    if b = ']'.toUInt8 then .ok none
    else if first then .ok (some (b :: rest))
    else if b = ','.toUInt8 then
      match skipBlank rest with
      | [] => .error (.on .endInValue [])
      | c :: rest =>
        if c = ']'.toUInt8 then .error (.on .trailingComma (c :: rest))
        else .ok (some (c :: rest))
    else .error (.on .noListComma (b :: rest))

/-- Reads the closing bracket of a list. -/
def closeList (bs : Bytes) : Except Fault Bytes :=
  match skipBlank bs with
  | [] => .error (.on .endInList [])
  | b :: rest =>
    if b = ']'.toUInt8 then .ok rest
    else if b = ','.toUInt8 then
      match skipBlank rest with
      | c :: rest =>
        if c = ']'.toUInt8 then .error (.on .trailingComma (c :: rest))
        else .error (.on .trailingCharacters (c :: rest))
      | [] => .error (.on .trailingCharacters [])
    else .error (.on .trailingCharacters (b :: rest))

/-- What is left once a list that is refused has been closed as far as it can be. -/
def afterList (bs : Bytes) : Nat :=
  match skipBlank bs with
  | [] => 0
  | b :: rest =>
    if b = ']'.toUInt8 then rest.length
    else if b = ','.toUInt8 then (skipBlank rest).length
    else rest.length + 1

/-- Reads items up to the closing bracket; `fuel` bounds their number. -/
def itemsLoop {α : Type} (item : Reader α) : Nat → Bool → List α → Reader (List α)
  | 0, _, _, bs => .error (.on .endInList bs)
  | fuel + 1, first, done, bs => do
    match ← nextItem first bs with
    | none => return (done.reverse, ← closeList bs)
    | some bs =>
      let (x, bs) ← item bs
      itemsLoop item fuel false (x :: done) bs

/-- Reads the items of a list whose opening bracket has been read. -/
def items {α : Type} (item : Reader α) : Reader (List α) := fun bs =>
  itemsLoop item (bs.length + 1) true [] bs

/-- Reads a list; its items may open one bracket less. -/
def list {α : Type} (depth : Nat) (item : Nat → Reader α) : Reader (List α) := fun bs => do
  let (found, rest) ← opening bs
  match found, depth with
  | .list, 0 => throw (.before .tooDeep rest)
  | .list, depth + 1 => items (item depth) rest
  | found, _ => throw (mismatch found rest "a sequence")

/-! ## Objects -/

/-- Reads the next key of an object; none at the closing bracket. -/
def nextKey (first : Bool) (bs : Bytes) : Except Fault (Option (String × Bytes)) :=
  match skipBlank bs with
  | [] => .error (.on .endInObject [])
  | b :: rest =>
    if b = '\x7d'.toUInt8 then .ok none
    else if first then
      if b = '"'.toUInt8 then (string rest).map some else .error (.on .keyNotString (b :: rest))
    else if b = ','.toUInt8 then
      match skipBlank rest with
      | [] => .error (.on .endInValue [])
      | c :: rest =>
        if c = '"'.toUInt8 then (string rest).map some
        else if c = '\x7d'.toUInt8 then .error (.on .trailingComma (c :: rest))
        else .error (.on .keyNotString (c :: rest))
    else .error (.on .noObjectComma (b :: rest))

/-- Reads the colon behind a key. -/
def colon (bs : Bytes) : Except Fault Bytes :=
  match skipBlank bs with
  | [] => .error (.on .endInObject [])
  | b :: rest => if b = ':'.toUInt8 then .ok rest else .error (.on .noColon (b :: rest))

/-- Reads the closing bracket of an object. -/
def closeObject (bs : Bytes) : Except Fault Bytes :=
  match skipBlank bs with
  | [] => .error (.on .endInObject [])
  | b :: rest =>
    if b = '\x7d'.toUInt8 then .ok rest
    else if b = ','.toUInt8 then .error (.on .trailingComma (b :: rest))
    else .error (.on .trailingCharacters (b :: rest))

/-- What is left once an object that is refused has been closed as far as it can be. -/
def afterObject (bs : Bytes) : Nat :=
  match skipBlank bs with
  | [] => 0
  | b :: rest => if b = '\x7d'.toUInt8 then rest.length else rest.length + 1

/-- Reads members up to the closing bracket; `fuel` bounds their number. -/
def membersLoop {α : Type} (value : Reader α) :
    Nat → Bool → List (String × α) → Reader (List (String × α))
  | 0, _, _, bs => .error (.on .endInObject bs)
  | fuel + 1, first, done, bs => do
    match ← nextKey first bs with
    | none => return (done.reverse, ← closeObject bs)
    | some (key, bs) =>
      let bs ← colon bs
      let (x, bs) ← value bs
      membersLoop value fuel false ((key, x) :: done) bs

/-- Reads the members of an object whose opening bracket has been read, repeated keys included. -/
def members {α : Type} (value : Reader α) : Reader (List (String × α)) := fun bs =>
  membersLoop value (bs.length + 1) true [] bs

/-- Reads an object of any keys; its values may open one bracket less. -/
def object {α : Type} (depth : Nat) (value : Nat → Reader α) : Reader (List (String × α)) :=
  fun bs => do
    let (found, rest) ← opening bs
    match found, depth with
    | .object, 0 => throw (.before .tooDeep rest)
    | .object, depth + 1 => members (value depth) rest
    | found, _ => throw (mismatch found rest "a map")

/-! ## Scalars by type -/

/-- Reads a string. -/
def text : Reader String := fun bs => do
  match ← opening bs with
  | (.scalar (.string s), rest) => return (s, rest)
  | (found, rest) => throw (mismatch found rest "a string")

/-- Reads an integer between bounds. -/
def integer (lo hi : Int) (expected : String) : Reader Int := fun bs => do
  match ← opening bs with
  | (.scalar (.number (.natural n)), rest) =>
    if (n : Int) ≤ hi then return ((n : Int), rest)
    else throw (.before (.wrongInteger n expected) rest)
  | (.scalar (.number (.negative n)), rest) =>
    if lo ≤ n then return (n, rest) else throw (.before (.wrongInteger n expected) rest)
  | (found, rest) => throw (mismatch found rest expected)

/-- Reads a value, or a null in its place. -/
def nullable {α : Type} (value : Reader α) : Reader (Option α) := fun bs =>
  match skipBlank bs with
  | [] => (value []).map fun (x, rest) => (some x, rest)
  | b :: rest =>
    if b = 'n'.toUInt8 then (word ['u', 'l', 'l'] rest).map fun r => (none, r)
    else (value (b :: rest)).map fun (x, rest) => (some x, rest)

/-! ## Trees -/

/-- Any JSON value, read whole before it is known what is wanted of it. Objects keep their members
in order, repeated keys included. -/
inductive Tree where
  | scalar (s : Scalar)
  | list (items : List Tree)
  | object (members : List (String × Tree))
  deriving Repr

/-- Reads any value. -/
def tree : Nat → Reader Tree
  | 0, bs => do
    match ← opening bs with
    | (.scalar s, rest) => return (.scalar s, rest)
    | (_, rest) => throw (.before .tooDeep rest)
  | depth + 1, bs => do
    match ← opening bs with
    | (.scalar s, rest) => return (.scalar s, rest)
    | (.list, rest) => (items (tree depth) rest).map fun (xs, r) => (.list xs, r)
    | (.object, rest) => (members (tree depth) rest).map fun (ms, r) => (.object ms, r)

/-! ## Whole texts -/

/-- Reads a whole source: blanks may follow the value, and nothing else. -/
def parse {α : Type} (reader : Reader α) (source : Bytes) : Except Error α :=
  match reader source with
  | .error f => .error (f.locate source)
  | .ok (x, rest) =>
    match skipBlank rest with
    | [] => .ok x
    | rest => .error ((Fault.on .trailingCharacters rest).locate source)

end DeviceSetup.Json
