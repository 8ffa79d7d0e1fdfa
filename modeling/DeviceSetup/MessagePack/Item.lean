import DeviceSetup.Number.Shortest
import DeviceSetup.Number.Words
import DeviceSetup.Text.Basic

/-!
# Items of MessagePack

An item is a scalar, or the header of a list, a map or an extension. Writing takes the
shortest form there is; reading takes any.
-/

namespace DeviceSetup.MessagePack

/-- A scalar, or the header of what follows. -/
inductive Item where
  | nil
  | bool (b : Bool)
  | natural (n : Nat)
  | integer (n : Int)
  | float (x : Double)
  | string (octets : Bytes)
  | binary (octets : Bytes)
  | list (length : Nat)
  | map (length : Nat)
  | extension
  deriving Repr, DecidableEq

/-- Why octets are refused. -/
inductive Fault where
  /-- The input ends where an item should begin. -/
  | endAtItem
  /-- The input ends in a length or a number. -/
  | endInNumber
  /-- The input ends in the octets of a string or a binary. -/
  | endInOctets
  /-- The first octet is one that begins no item. -/
  | reserved
  | badText (f : Utf8.Fault)
  | wrongType (found : Item) (expected : String)
  /-- A binary is no text. -/
  | wrongBinary (expected : String)
  | integerOutOfRange (n : Nat)
  | notWhole (x : Double)
  deriving Repr, DecidableEq

/-- The word for a truth value. -/
def boolWord (b : Bool) : String :=
  if b then "true" else "false"

/-- What an item is called in messages. -/
def Item.found : Item → String
  | .nil => "unit value"
  | .bool b => s!"boolean `{boolWord b}`"
  | .natural n => s!"integer `{n}`"
  | .integer n => s!"integer `{Decimal.ofInt n}`"
  | .float x => s!"floating point `{NumberLayout.pointed.render x}`"
  | .string octets => s!"string {Text.quoted (Utf8.decodeLossy octets)}"
  | .binary _ => "byte array"
  | .list _ => "sequence"
  | .map _ => "map"
  | .extension => "newtype struct"

/-- The wording of a fault. -/
def Fault.message : Fault → String
  | .endAtItem => "IO error while reading marker: failed to fill whole buffer"
  | .endInNumber => "IO error while reading data: failed to fill whole buffer"
  | .endInOctets => "IO error while reading data: unexpected end of file"
  | .reserved => "wrong msgpack marker Reserved"
  | .badText f => s!"string found to be invalid utf8: {f.message}"
  | .wrongType found expected => s!"invalid type: {found.found}, expected {expected}"
  | .wrongBinary expected => s!"invalid value: byte array, expected {expected}"
  | .integerOutOfRange n => s!"integer {n} out of range"
  | .notWhole x => s!"non-integer number {NumberLayout.plain.render x}"

/-- Takes a value off the front of the input. -/
abbrev Reader (α : Type) := Bytes → Except Fault (α × Bytes)

/-! ## Writing -/

/-- A natural number below 2 ^ 64. -/
def writeNat (n : Nat) : Bytes :=
  if n < 2 ^ 7 then [UInt8.ofNat n]
  else if n < 2 ^ 8 then 0xCC :: bigEndian 1 n
  else if n < 2 ^ 16 then 0xCD :: bigEndian 2 n
  else if n < 2 ^ 32 then 0xCE :: bigEndian 4 n
  else 0xCF :: bigEndian 8 n

/-- An integer of 64 bits: without a sign if it needs none. -/
def writeInt (n : Int) : Bytes :=
  if 0 ≤ n then writeNat n.toNat
  else if -2 ^ 5 ≤ n then [UInt8.ofNat (toTwosComplement 8 n)]
  else if -2 ^ 7 ≤ n then 0xD0 :: bigEndian 1 (toTwosComplement 8 n)
  else if -2 ^ 15 ≤ n then 0xD1 :: bigEndian 2 (toTwosComplement 16 n)
  else if -2 ^ 31 ≤ n then 0xD2 :: bigEndian 4 (toTwosComplement 32 n)
  else 0xD3 :: bigEndian 8 (toTwosComplement 64 n)

/-- A truth value. -/
def writeBool (b : Bool) : Bytes :=
  [if b then 0xC3 else 0xC2]

/-- The header of a string of `length` octets. -/
def stringHeader (length : Nat) : Bytes :=
  if length < 2 ^ 5 then [UInt8.ofNat (0xA0 + length)]
  else if length < 2 ^ 8 then 0xD9 :: bigEndian 1 length
  else if length < 2 ^ 16 then 0xDA :: bigEndian 2 length
  else 0xDB :: bigEndian 4 length

/-- A string. -/
def writeString (s : String) : Bytes :=
  let octets := Utf8.encode s
  stringHeader octets.length ++ octets

/-- The header of a binary of `length` octets. -/
def binaryHeader (length : Nat) : Bytes :=
  if length < 2 ^ 8 then 0xC4 :: bigEndian 1 length
  else if length < 2 ^ 16 then 0xC5 :: bigEndian 2 length
  else 0xC6 :: bigEndian 4 length

/-- Some octets. -/
def writeBinary (octets : Bytes) : Bytes :=
  binaryHeader octets.length ++ octets

/-- The header of a map of `length` entries. -/
def mapHeader (length : Nat) : Bytes :=
  if length < 2 ^ 4 then [UInt8.ofNat (0x80 + length)]
  else if length < 2 ^ 16 then 0xDE :: bigEndian 2 length
  else 0xDF :: bigEndian 4 length

/-! ## Reading -/

/-- Reads a number of `width` octets. -/
def word (width : Nat) : Reader Nat := fun bs =>
  match splitOctets? width bs with
  | some (octets, rest) => .ok (ofBigEndian octets, rest)
  | none => .error .endInNumber

/-- Reads `length` octets. -/
def octets (length : Nat) : Reader Bytes := fun bs =>
  match splitOctets? length bs with
  | some split => .ok split
  | none => .error .endInOctets

/-- Reads a natural number of `width` octets as an item. -/
def naturalItem (width : Nat) : Reader Item := fun bs => do
  let (n, rest) ← word width bs
  return (.natural n, rest)

/-- Reads an integer of `width` octets as an item. -/
def integerItem (width : Nat) : Reader Item := fun bs => do
  let (n, rest) ← word width bs
  return (.integer (ofTwosComplement (8 * width) n), rest)

/-- Reads a string whose length takes `width` octets. -/
def stringItem (width : Nat) : Reader Item := fun bs => do
  let (length, rest) ← word width bs
  let (content, rest) ← octets length rest
  return (.string content, rest)

/-- Reads a binary whose length takes `width` octets. -/
def binaryItem (width : Nat) : Reader Item := fun bs => do
  let (length, rest) ← word width bs
  let (content, rest) ← octets length rest
  return (.binary content, rest)

/-- Reads the item that `mark` begins, where `mark` is no number that stands for itself. -/
def markedItem (mark : Nat) : Reader Item := fun bs =>
  match mark with
  | 0xC0 => .ok (.nil, bs)
  | 0xC2 => .ok (.bool false, bs)
  | 0xC3 => .ok (.bool true, bs)
  | 0xC4 => binaryItem 1 bs
  | 0xC5 => binaryItem 2 bs
  | 0xC6 => binaryItem 4 bs
  | 0xC7 => (word 1 bs).map fun (_, rest) => (.extension, rest)
  | 0xC8 => (word 2 bs).map fun (_, rest) => (.extension, rest)
  | 0xC9 => (word 4 bs).map fun (_, rest) => (.extension, rest)
  | 0xCA => (word 4 bs).map fun (n, rest) => (.float (Double.ofBits32 n), rest)
  | 0xCB => (word 8 bs).map fun (n, rest) => (.float (Double.ofBits64 n), rest)
  | 0xCC => naturalItem 1 bs
  | 0xCD => naturalItem 2 bs
  | 0xCE => naturalItem 4 bs
  | 0xCF => naturalItem 8 bs
  | 0xD0 => integerItem 1 bs
  | 0xD1 => integerItem 2 bs
  | 0xD2 => integerItem 4 bs
  | 0xD3 => integerItem 8 bs
  | 0xD4 | 0xD5 | 0xD6 | 0xD7 | 0xD8 => .ok (.extension, bs)
  | 0xD9 => stringItem 1 bs
  | 0xDA => stringItem 2 bs
  | 0xDB => stringItem 4 bs
  | 0xDC => (word 2 bs).map fun (n, rest) => (.list n, rest)
  | 0xDD => (word 4 bs).map fun (n, rest) => (.list n, rest)
  | 0xDE => (word 2 bs).map fun (n, rest) => (.map n, rest)
  | 0xDF => (word 4 bs).map fun (n, rest) => (.map n, rest)
  | _ => .error .reserved

/-- Reads an item. -/
def item : Reader Item
  | [] => .error .endAtItem
  | b :: rest =>
    let mark := b.toNat
    if mark < 0x80 then .ok (.natural mark, rest)
    else if mark < 0x90 then .ok (.map (mark - 0x80), rest)
    else if mark < 0xA0 then .ok (.list (mark - 0x90), rest)
    else if mark < 0xC0 then
      (octets (mark - 0xA0) rest).map fun (content, rest) => (.string content, rest)
    else if mark < 0xE0 then markedItem mark rest
    else .ok (.integer (ofTwosComplement 8 mark), rest)

/-- Refuses an item; a string that is no text is refused for that. -/
def mismatch (found : Item) (expected : String) : Fault :=
  match found with
  | .string octets =>
    match Utf8.decode octets with
    | .ok _ => .wrongType found expected
    | .error f => .badText f
  | found => .wrongType found expected

/-- Reads a text, which may be written as a binary. -/
def text : Reader String := fun bs => do
  let (found, rest) ← item bs
  match found with
  | .string octets =>
    match Utf8.decode octets with
    | .ok s => return (s, rest)
    | .error f => throw (.badText f)
  | .binary octets =>
    match Utf8.decode octets with
    | .ok s => return (s, rest)
    | .error _ => throw (.wrongBinary "a string")
  | found => throw (mismatch found "a string")

/-- Reads so many entries of a map. -/
def entriesLoop {α : Type} (value : Reader α) : Nat → List (String × α) → Reader (List (String × α))
  | 0, done, bs => .ok (done.reverse, bs)
  | count + 1, done, bs => do
    let (key, bs) ← text bs
    let (x, bs) ← value bs
    entriesLoop value count ((key, x) :: done) bs

/-- Reads a map from texts, repeated keys included. -/
def map {α : Type} (value : Reader α) : Reader (List (String × α)) := fun bs => do
  let (found, rest) ← item bs
  match found with
  | .map length => entriesLoop value length [] rest
  | found => throw (mismatch found "a map")

end DeviceSetup.MessagePack
