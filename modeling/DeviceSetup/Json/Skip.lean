import DeviceSetup.Json.Reader

/-!
# Skipping JSON values

A value that nobody asked for is passed over without building anything: its brackets
are kept on a stack of any depth, its strings are not checked to be UTF-8, and its
numbers may be of any size.
-/

namespace DeviceSetup.Json

/-! ## Scalars -/

/-- Passes over digits, of which there must be one; a fault there counts the octet at fault as
read. -/
def skipDigits : Bytes → Except Fault Bytes
  | [] => .error (.before .badNumber [])
  | b :: rest =>
    if isDigit b then .ok (rest.dropWhile isDigit) else .error (.before .badNumber rest)

/-- Passes over an exponent whose mark has been read. -/
def skipExponent (bs : Bytes) : Except Fault Bytes :=
  skipDigits (exponentSign bs).2

/-- Passes over a point and digits, and an exponent, if they are there. -/
def skipFraction : Bytes → Except Fault Bytes
  | [] => .ok []
  | b :: rest =>
    if b = '.'.toUInt8 then
      match digits rest with
      | ([], rest) => .error (.on .badNumber rest)
      | (_, []) => .ok []
      | (_, c :: rest) =>
        if c = 'e'.toUInt8 || c = 'E'.toUInt8 then skipExponent rest else .ok (c :: rest)
    else if b = 'e'.toUInt8 || b = 'E'.toUInt8 then skipExponent rest
    else .ok (b :: rest)

/-- Passes over a number whose sign has been read. -/
def skipNumber : Bytes → Except Fault Bytes
  | [] => .error (.before .badNumber [])
  | b :: rest =>
    if b = '0'.toUInt8 then
      match rest with
      | c :: _ => if isDigit c then .error (.on .badNumber rest) else skipFraction rest
      | [] => .ok []
    else if isDigit b then skipFraction (rest.dropWhile isDigit)
    else .error (.before .badNumber rest)

/-- Where the passer over a string stands. -/
inductive SkipState where
  | plain
  | escape
  /-- Within `\u`, with the octets that are still to come and whether all so far were digits. -/
  | hex (left : Nat) (valid : Bool)
  deriving Repr, DecidableEq

/-- Passes over the rest of a string. -/
def skipString : SkipState → Bytes → Except Fault Bytes
  | _, [] => .error (.before .endInString [])
  | .plain, b :: rest =>
    if b = '"'.toUInt8 then .ok rest
    else if b = '\\'.toUInt8 then skipString .escape rest
    else if b < 0x20 then .error (.before .controlCharacter (b :: rest))
    else skipString .plain rest
  | .escape, b :: rest =>
    if b = 'u'.toUInt8 then skipString (.hex 4 true) rest
    else if (shortEscape? b).isSome then skipString .plain rest
    else .error (.before .badEscape rest)
  | .hex left valid, b :: rest =>
    let valid := valid && (addHex (some 0) b).isSome
    if 1 < left then skipString (.hex (left - 1) valid) rest
    else if valid then skipString .plain rest
    else .error (.before .badEscape rest)

/-! ## Any value -/

/-- An open bracket. -/
inductive Frame where
  | list
  | object
  deriving Repr, DecidableEq

/-- The fault of input that ends within a bracket. -/
def Frame.endCause : Frame → Cause
  | .list => .endInList
  | .object => .endInObject

/-- The fault of a missing comma. -/
def Frame.commaCause : Frame → Cause
  | .list => .noListComma
  | .object => .noObjectComma

/-- The closing bracket. -/
def Frame.close : Frame → UInt8
  | .list => ']'.toUInt8
  | .object => '\x7d'.toUInt8

/-- What the passer expects next. -/
inductive SkipPoint where
  | value
  /-- A member or the closing bracket; a comma comes first if `comma`. -/
  | inside (comma : Bool)
  deriving Repr, DecidableEq

/-- Passes over a scalar whose first octet is `b`; none if `b` begins no scalar. -/
def skipScalar? (b : UInt8) (rest : Bytes) : Option (Except Fault Bytes) :=
  if b = '"'.toUInt8 then some (skipString .plain rest)
  else if b = '-'.toUInt8 then some (skipNumber rest)
  else if isDigit b then some (skipNumber (b :: rest))
  else if b = 'n'.toUInt8 then some (word ['u', 'l', 'l'] rest)
  else if b = 't'.toUInt8 then some (word ['r', 'u', 'e'] rest)
  else if b = 'f'.toUInt8 then some (word ['a', 'l', 's', 'e'] rest)
  else none

/-- Passes over the key and colon that come before a value inside `frame`. -/
def skipKey (frame : Frame) (bs : Bytes) : Except Fault Bytes :=
  match frame with
  | .list => .ok bs
  | .object =>
    match skipBlank bs with
    | [] => .error (.on .endInObject [])
    | b :: rest =>
      if b = '"'.toUInt8 then do colon (← skipString .plain rest)
      else .error (.on .keyNotString (b :: rest))

/-- Passes over what is left of a value with brackets open; each octet takes at most two steps. -/
def skipLoop : Nat → SkipPoint → List Frame → Bytes → Except Fault Bytes
  | 0, _, _, bs => .error (.on .endInValue bs)
  | fuel + 1, .value, stack, bs =>
    match skipBlank bs with
    | [] => .error (.on .endInValue [])
    | b :: rest =>
      if b = '['.toUInt8 then skipLoop fuel (.inside false) (.list :: stack) rest
      else if b = '\x7b'.toUInt8 then skipLoop fuel (.inside false) (.object :: stack) rest
      else
        match skipScalar? b rest with
        | none => .error (.on .noValue (b :: rest))
        | some (.error f) => .error f
        | some (.ok rest) => skipLoop fuel (.inside true) stack rest
  | _ + 1, .inside _, [], bs => .ok bs
  | fuel + 1, .inside comma, frame :: stack, bs =>
    match skipBlank bs with
    | [] => .error (.on frame.endCause [])
    | b :: rest =>
      if comma && b = ','.toUInt8 then do
        skipLoop fuel .value (frame :: stack) (← skipKey frame rest)
      else if b = frame.close then skipLoop fuel (.inside true) stack rest
      else if comma then .error (.on frame.commaCause (b :: rest))
      else do skipLoop fuel .value (frame :: stack) (← skipKey frame (b :: rest))

/-- Passes over one value. -/
def skipValue (bs : Bytes) : Except Fault Bytes :=
  skipLoop (2 * bs.length + 2) .value [] bs

end DeviceSetup.Json
