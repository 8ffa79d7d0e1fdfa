import DeviceSetup.Text.Decimal
import DeviceSetup.Text.Hex

/-!
# Writing JSON

Values are written without blanks. In strings only quotes, backslashes and controls
are escaped.
-/

namespace DeviceSetup.Json

/-- ASCII characters as octets. -/
def ascii (cs : List Char) : Bytes :=
  cs.map Char.toUInt8

/-- A character as it stands in a string. -/
def escapeChar (c : Char) : Bytes :=
  if c = '"' then ascii ['\\', '"']
  else if c = '\\' then ascii ['\\', '\\']
  else if c.toNat = 0x08 then ascii ['\\', 'b']
  else if c.toNat = 0x0C then ascii ['\\', 'f']
  else if c = '\n' then ascii ['\\', 'n']
  else if c = '\r' then ascii ['\\', 'r']
  else if c = '\t' then ascii ['\\', 't']
  else if c.toNat < 0x20 then
    ascii ['\\', 'u', '0', '0', Hex.digit (c.toNat / 16), Hex.digit (c.toNat % 16)]
  else String.utf8EncodeChar c

/-- A string. -/
def writeString (s : String) : Bytes :=
  '"'.toUInt8 :: s.toList.flatMap escapeChar ++ ['"'.toUInt8]

/-- A truth value. -/
def writeBool (b : Bool) : Bytes :=
  ascii (if b then ['t', 'r', 'u', 'e'] else ['f', 'a', 'l', 's', 'e'])

/-- An integer. -/
def writeInt (n : Int) : Bytes :=
  ascii (Decimal.intChars n)

/-- Written values with commas between them. -/
def commas : List Bytes → Bytes
  | [] => []
  | [x] => x
  | x :: y :: rest => x ++ ','.toUInt8 :: commas (y :: rest)

/-- A list of written values. -/
def writeList (xs : List Bytes) : Bytes :=
  '['.toUInt8 :: commas xs ++ [']'.toUInt8]

/-- A member of an object. -/
def writeMember (m : String × Bytes) : Bytes :=
  writeString m.1 ++ ':'.toUInt8 :: m.2

/-- An object of written values. -/
def writeObject (ms : List (String × Bytes)) : Bytes :=
  '\x7b'.toUInt8 :: commas (ms.map writeMember) ++ ['\x7d'.toUInt8]

end DeviceSetup.Json
