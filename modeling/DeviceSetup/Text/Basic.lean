import DeviceSetup.Text.Property

/-!
# Blanks, parts and quotes

The characters that Unicode calls white space, trimming by them, and texts taken apart at a
separator.

In messages a text is shown between double quotes, with a backslash before quotes and
backslashes, short names for the common controls, and the code point in braces for
any other character that would not be seen as itself.
-/

namespace DeviceSetup.Text

/-! ## Blanks and parts -/

/-- The ranges of code points with the Unicode property White_Space. -/
def blankRanges : List (Nat × Nat) :=
  [(0x09, 0x0D), (0x20, 0x20), (0x85, 0x85), (0xA0, 0xA0), (0x1680, 0x1680), (0x2000, 0x200A),
   (0x2028, 0x2029), (0x202F, 0x202F), (0x205F, 0x205F), (0x3000, 0x3000)]

/-- Whether a character is white space. -/
def isBlank (c : Char) : Bool :=
  inRanges blankRanges c

/-- Drops blanks in front. -/
def trimStart (cs : List Char) : List Char :=
  cs.dropWhile isBlank

/-- Drops blanks at both ends. -/
def trimChars (cs : List Char) : List Char :=
  (trimStart (trimStart cs).reverse).reverse

/-- Drops blanks at both ends. -/
def trim (s : String) : String :=
  String.ofList (trimChars s.toList)

/-- An ASCII capital in lower case; any other character as it is. -/
def lowerAscii (s : String) : String :=
  String.ofList (s.toList.map Char.toLower)

/-- The parts of a text between separators; there is always at least one. -/
def splitChars (sep : Char) : List Char → List (List Char)
  | [] => [[]]
  | c :: rest =>
    match splitChars sep rest with
    | [] => [[c]]
    | part :: parts => if c = sep then [] :: part :: parts else (c :: part) :: parts

/-! ## Quotes -/

/-- The lower-case hexadecimal digits of a code point. -/
def codePointDigits (c : Char) : List Char :=
  Nat.toDigits 16 c.toNat

/-- Whether a character is a letter that sounds the one before it and so extends it, but is seen
as itself: the two halfwidth sound marks. -/
def isSoundMark (c : Char) : Bool :=
  c.toNat = 0xFF9E || c.toNat = 0xFF9F

/-- Whether a character would not be seen as itself: it is not visible, or it is a mark on the
character before it. -/
def isUnseen (c : Char) : Bool :=
  inRanges invisibleRanges c || (inRanges extendRanges c && !isSoundMark c)

/-- A character as it stands between quotes. -/
def quotedChar (c : Char) : List Char :=
  if c = '"' then ['\\', '"']
  else if c = '\\' then ['\\', '\\']
  else if c = '\n' then ['\\', 'n']
  else if c = '\r' then ['\\', 'r']
  else if c = '\t' then ['\\', 't']
  else if c.toNat = 0 then ['\\', '0']
  else if isUnseen c then
    ['\\', 'u', '\x7b'] ++ codePointDigits c ++ ['\x7d']
  else [c]

/-- A text between quotes. -/
def quoted (s : String) : String :=
  String.ofList ('"' :: s.toList.flatMap quotedChar ++ ['"'])

end DeviceSetup.Text
