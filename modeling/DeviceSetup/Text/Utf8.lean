/-!
# UTF-8

Text as octets. `Utf8.encode` writes a string; `Utf8.symbols` reads any octets as
characters and ill-formed stretches, one octet at a time, so that nothing is lost
and a stretch ends as soon as no continuation of it could be a character.
`decode` accepts only well-formed octets and names the first fault; `decodeLossy`
puts U+FFFD in place of each ill-formed stretch.
-/

namespace DeviceSetup

/-- A run of octets. -/
abbrev Bytes := List UInt8

namespace Utf8

/-- The octets of a text. -/
def encodeChars (cs : List Char) : Bytes :=
  cs.flatMap String.utf8EncodeChar

/-- The octets of a string. -/
def encode (s : String) : Bytes :=
  encodeChars s.toList

/-- One item of decoded input. -/
inductive Symbol where
  | char (c : Char)
  /-- `len` octets that begin no character. -/
  | ill (len : Nat)
  /-- `len` octets of a character that the input ends in. -/
  | cut (len : Nat)
  deriving Repr, DecidableEq

/-- Where the reader stands: between characters, or `seen` octets into one. -/
inductive State where
  | between
  /-- `need` more octets follow; the next one lies in `lo..hi`. -/
  | within (seen need acc lo hi : Nat)
  deriving Repr, DecidableEq

/-- Reads the first octet of a character. -/
def start (b : Nat) : Option Symbol × State :=
  if b < 0x80 then (some (.char (Char.ofNat b)), .between)
  else if b < 0xC2 then (some (.ill 1), .between)
  else if b < 0xE0 then (none, .within 1 1 (b - 0xC0) 0x80 0xBF)
  else if b = 0xE0 then (none, .within 1 2 0 0xA0 0xBF)
  else if b = 0xED then (none, .within 1 2 0xD 0x80 0x9F)
  else if b < 0xF0 then (none, .within 1 2 (b - 0xE0) 0x80 0xBF)
  else if b = 0xF0 then (none, .within 1 3 0 0x90 0xBF)
  else if b < 0xF4 then (none, .within 1 3 (b - 0xF0) 0x80 0xBF)
  else if b = 0xF4 then (none, .within 1 3 4 0x80 0x8F)
  else (some (.ill 1), .between)

/-- Reads a further octet: it completes a character, continues one, or breaks one off and starts
anew. -/
def step : State → Nat → List Symbol × State
  | .between, b => ((start b).1.toList, (start b).2)
  | .within seen need acc lo hi, b =>
    if lo ≤ b ∧ b ≤ hi then
      let acc := acc * 64 + (b - 0x80)
      if need ≤ 1 then ([.char (Char.ofNat acc)], .between)
      else ([], .within (seen + 1) (need - 1) acc 0x80 0xBF)
    else (.ill seen :: (start b).1.toList, (start b).2)

/-- What the end of the input leaves behind. -/
def finish : State → List Symbol
  | .between => []
  | .within seen _ _ _ _ => [.cut seen]

/-- Reads on from a state; what was read before stands in `done`, last first. -/
def readFrom (state : State) (done : List Symbol) : Bytes → List Symbol
  | [] => done.reverse ++ finish state
  | b :: rest =>
    let (new, next) := step state b.toNat
    readFrom next (new.reverse ++ done) rest

/-- The symbols of any octets. -/
def symbols (bs : Bytes) : List Symbol :=
  readFrom .between [] bs

/-- Why octets are not a text. -/
inductive Fault where
  /-- `len` octets at `index` begin no character. -/
  | ill (len index : Nat)
  /-- The input ends inside the character at `index`. -/
  | cut (index : Nat)
  deriving Repr, DecidableEq

/-- The wording of a fault. -/
def Fault.message : Fault → String
  | .ill len index => s!"invalid utf-8 sequence of {len} bytes from index {index}"
  | .cut index => s!"incomplete utf-8 byte sequence from index {index}"

/-- The characters of well-formed symbols; `index` octets come before them. -/
def collect (index : Nat) (done : List Char) : List Symbol → Except Fault (List Char)
  | [] => .ok done.reverse
  | .char c :: rest => collect (index + (String.utf8EncodeChar c).length) (c :: done) rest
  | .ill len :: _ => .error (.ill len index)
  | .cut _ :: _ => .error (.cut index)

/-- The text of well-formed octets, or their first fault. -/
def decode (bs : Bytes) : Except Fault String :=
  (collect 0 [] (symbols bs)).map String.ofList

/-- The text of well-formed octets. -/
def decode? (bs : Bytes) : Option String :=
  (decode bs).toOption

/-- A symbol as a character, the replacement character where there is none. -/
def Symbol.toChar : Symbol → Char
  | .char c => c
  | .ill _ | .cut _ => '�'

/-- The text of any octets, with U+FFFD for each ill-formed stretch. -/
def decodeLossy (bs : Bytes) : String :=
  String.ofList ((symbols bs).map Symbol.toChar)

end Utf8

end DeviceSetup
