import DeviceSetup.Number.Words
import DeviceSetup.Text.Decimal

/-!
# The binary form of the bridge

Numbers take a fixed number of octets, lowest first. Texts and lists have their length
in front, in eight octets; alternatives have their number in front, in four.
-/

namespace DeviceSetup.Binary

/-- Why octets are refused. -/
inductive Fault where
  | tooShort
  | badVariant (n count : Nat)
  | badBool (n : Nat)
  | badText (f : Utf8.Fault)
  deriving Repr, DecidableEq

/-- The wording of a fault. -/
def Fault.message : Fault → String
  | .tooShort => "io error: "
  | .badVariant n count =>
    s!"invalid value: integer `{n}`, expected variant index 0 <= i < {count}"
  | .badBool n => s!"invalid u8 while decoding bool, expected 0 or 1, found {n}"
  | .badText f => s!"string is not valid utf8: {f.message}"

/-- Takes a value off the front of the input. -/
abbrev Reader (α : Type) := Bytes → Except Fault (α × Bytes)

/-! ## Writing -/

/-- A number in `width` octets. -/
def putNat (width n : Nat) : Bytes :=
  littleEndian width n

/-- A length or an index. -/
def putSize (n : Nat) : Bytes :=
  putNat 8 n

/-- The number of an alternative. -/
def putVariant (n : Nat) : Bytes :=
  putNat 4 n

/-- A truth value. -/
def putBool (b : Bool) : Bytes :=
  [if b then 1 else 0]

/-- Some octets. -/
def putBytes (bs : Bytes) : Bytes :=
  putSize bs.length ++ bs

/-- A text. -/
def putText (s : String) : Bytes :=
  putBytes (Utf8.encode s)

/-- A list. -/
def putList {α : Type} (put : α → Bytes) (xs : List α) : Bytes :=
  putSize xs.length ++ xs.flatMap put

/-- A value that may be missing. -/
def putOption {α : Type} (put : α → Bytes) : Option α → Bytes
  | none => [0]
  | some x => 1 :: put x

/-! ## Reading -/

/-- Reads so many octets. -/
def getOctets (count : Nat) : Reader Bytes := fun bs =>
  match splitOctets? count bs with
  | some split => .ok split
  | none => .error .tooShort

/-- Reads a number of `width` octets. -/
def getNat (width : Nat) : Reader Nat := fun bs => do
  let (octets, rest) ← getOctets width bs
  return (ofLittleEndian octets, rest)

/-- Reads a length or an index. -/
def getSize : Reader Nat := getNat 8

/-- Reads the number of one of `count` alternatives. -/
def getVariant (count : Nat) : Reader Nat := fun bs => do
  let (n, rest) ← getNat 4 bs
  if n < count then return (n, rest) else throw (.badVariant n count)

/-- Reads a truth value. -/
def getBool : Reader Bool := fun bs => do
  let (n, rest) ← getNat 1 bs
  match n with
  | 0 => return (false, rest)
  | 1 => return (true, rest)
  | n => throw (.badBool n)

/-- Reads octets with their length. -/
def getBytes : Reader Bytes := fun bs => do
  let (length, rest) ← getSize bs
  getOctets length rest

/-- Reads a text. -/
def getText : Reader String := fun bs => do
  let (octets, rest) ← getBytes bs
  match Utf8.decode octets with
  | .ok s => return (s, rest)
  | .error f => throw (.badText f)

/-- Reads so many values. -/
def getMany {α : Type} (get : Reader α) : Nat → List α → Reader (List α)
  | 0, done, bs => .ok (done.reverse, bs)
  | count + 1, done, bs => do
    let (x, bs) ← get bs
    getMany get count (x :: done) bs

/-- Reads a list. -/
def getList {α : Type} (get : Reader α) : Reader (List α) := fun bs => do
  let (length, rest) ← getSize bs
  getMany get length [] rest

end DeviceSetup.Binary
