import DeviceSetup.Json.Fault
import DeviceSetup.Text.Hex

/-!
# Lexemes of JSON

Blanks, words, numbers and strings at the front of the input. A `Reader` takes what it
reads off the front and gives the rest back. Strings are read one octet at a time
by a small machine; their octets are then taken for UTF-8.
-/

namespace DeviceSetup.Json

/-- Takes a value off the front of the input. -/
abbrev Reader (α : Type) := Bytes → Except Fault (α × Bytes)

/-- Whether an octet may stand between lexemes. -/
def isBlank (b : UInt8) : Bool :=
  b = 0x20 || b = 0x0A || b = 0x09 || b = 0x0D

/-- Drops blanks in front. -/
def skipBlank (bs : Bytes) : Bytes :=
  bs.dropWhile isBlank

/-- Whether an octet is a digit. -/
def isDigit (b : UInt8) : Bool :=
  '0'.toUInt8 ≤ b && b ≤ '9'.toUInt8

/-- The value of a digit. -/
def digitValue (b : UInt8) : Nat :=
  b.toNat - '0'.toNat

/-! ## Words -/

/-- Reads the rest of a word, letter by letter. -/
def word : List Char → Bytes → Except Fault Bytes
  | [], bs => .ok bs
  | _ :: _, [] => .error (.before .endInValue [])
  | c :: cs, b :: rest => if b = c.toUInt8 then word cs rest else .error (.before .badWord rest)

/-! ## Numbers -/

/-- A number as it is written. -/
structure Numeral where
  negative : Bool
  whole : Bytes
  fraction : Option Bytes
  /-- Whether the exponent is negative, and its digits. -/
  exponent : Option (Bool × Bytes)
  deriving Repr, DecidableEq

/-- A number as it is read: an integer if it is written as one and fits 64 bits. -/
inductive Number where
  | natural (n : Nat)
  | negative (n : Int)
  | float (x : Double)
  deriving Repr, DecidableEq

/-- What a number is called in messages. -/
def Number.found : Number → Found
  | .natural n => .integer n
  | .negative n => .integer n
  | .float x => .float x

/-- The digits in front, and the rest. -/
def digits (bs : Bytes) : Bytes × Bytes :=
  (bs.takeWhile isDigit, bs.dropWhile isDigit)

/-- Reads the integer digits: a zero stands alone. -/
def wholeDigits : Reader Bytes
  | [] => .error (.before .endInValue [])
  | b :: rest =>
    if b = '0'.toUInt8 then
      match rest with
      | c :: _ => if isDigit c then .error (.on .badNumber rest) else .ok ([b], rest)
      | [] => .ok ([b], rest)
    else if isDigit b then
      let (ds, rest) := digits rest
      .ok (b :: ds, rest)
    else .error (.before .badNumber rest)

/-- Reads a point and at least one digit, if there is a point. -/
def fractionDigits : Reader (Option Bytes)
  | [] => .ok (none, [])
  | b :: rest =>
    if b = '.'.toUInt8 then
      match digits rest with
      | ([], []) => .error (.on .endInValue [])
      | ([], rest) => .error (.on .badNumber rest)
      | (ds, rest) => .ok (some ds, rest)
    else .ok (none, b :: rest)

/-- Reads a sign, if there is one; true for minus. -/
def exponentSign : Bytes → Bool × Bytes
  | [] => (false, [])
  | b :: rest =>
    if b = '+'.toUInt8 then (false, rest)
    else if b = '-'.toUInt8 then (true, rest)
    else (false, b :: rest)

/-- Reads an exponent with at least one digit, if there is a mark for one. -/
def exponentDigits : Reader (Option (Bool × Bytes))
  | [] => .ok (none, [])
  | b :: rest =>
    if b = 'e'.toUInt8 || b = 'E'.toUInt8 then
      let (negative, rest) := exponentSign rest
      match digits rest with
      | ([], []) => .error (.before .endInValue [])
      | ([], _ :: rest) => .error (.before .badNumber rest)
      | (ds, rest) => .ok (some (negative, ds), rest)
    else .ok (none, b :: rest)

/-- Reads a number whose sign has been read. -/
def numeral (negative : Bool) : Reader Numeral := fun bs => do
  let (whole, bs) ← wholeDigits bs
  let (fraction, bs) ← fractionDigits bs
  let (exponent, bs) ← exponentDigits bs
  return (⟨negative, whole, fraction, exponent⟩, bs)

/-- The greatest number of 64 bits. -/
def maxWord : Nat := 2 ^ 64 - 1

/-- Appends digits to a number while it fits 64 bits; gives back the digits left over. -/
def appendDigits (n : Nat) : Bytes → Nat × Bytes
  | [] => (n, [])
  | d :: ds =>
    if n * 10 + digitValue d ≤ maxWord then appendDigits (n * 10 + digitValue d) ds
    else (n, d :: ds)

/-- The number that digits denote. -/
def digitsValue (ds : Bytes) : Nat :=
  ds.foldl (fun n d => n * 10 + digitValue d) 0

/-- The digits behind the one at which an exponent passes 31 bits. -/
def beyondExponent (n : Nat) : Bytes → Option Bytes
  | [] => none
  | d :: ds =>
    if n * 10 + digitValue d < 2 ^ 31 then beyondExponent (n * 10 + digitValue d) ds else some ds

namespace Numeral

/-- The leading digits that fit 64 bits, and the power of ten that they are to be scaled by. -/
def significand (t : Numeral) : Nat × Int :=
  let (n, dropped) := appendDigits 0 t.whole
  let fraction := t.fraction.getD []
  let (n, unused) := appendDigits n fraction
  (n, (dropped.length : Int) - (fraction.length - unused.length : Nat))

/-- The written exponent. -/
def exponentValue (t : Numeral) : Int :=
  match t.exponent with
  | none => 0
  | some (negative, ds) => if negative then -(digitsValue ds : Int) else digitsValue ds

/-- The number as a double; none if it is too great. -/
def double? (t : Numeral) : Option Double :=
  let (n, scale) := t.significand
  (Dyadic.ofDecimal n (scale + t.exponentValue)).map (.finite t.negative)

/-- The digits of an integer that fits 64 bits; none for any other number. -/
def integer? (t : Numeral) : Option Nat :=
  match t.fraction, t.exponent, appendDigits 0 t.whole with
  | none, none, (n, []) => some n
  | _, _, _ => none

/-- Where a number that is too great is noticed, with `rest` behind it. -/
def overflowLeft (t : Numeral) (rest : Bytes) : Nat :=
  match t.exponent with
  | some (_, ds) => rest.length + ((beyondExponent 0 ds).getD []).length
  | none => rest.length

/-- The number, with `rest` behind it. Minus zero and what fits no integer of 64 bits is a
double. -/
def value (t : Numeral) (rest : Bytes) : Except Fault Number :=
  match t.integer? with
  | some n =>
    if !t.negative then .ok (.natural n)
    else if 0 < n ∧ n ≤ 2 ^ 63 then .ok (.negative (-(n : Int)))
    else .ok (.float (.finite true (Dyadic.ofNat n)))
  | none =>
    match t.double? with
    | some x => .ok (.float x)
    | none => .error ⟨.numberOutOfRange, t.overflowLeft rest⟩

end Numeral

/-- Reads a number whose sign has been read. -/
def number (negative : Bool) : Reader Number := fun bs => do
  let (t, rest) ← numeral negative bs
  let n ← t.value rest
  return (n, rest)

/-! ## Strings -/

/-- Whether a code unit is the first half of a pair. -/
def isHighSurrogate (n : Nat) : Bool :=
  0xD800 ≤ n && n ≤ 0xDBFF

/-- Whether a code unit is the second half of a pair. -/
def isLowSurrogate (n : Nat) : Bool :=
  0xDC00 ≤ n && n ≤ 0xDFFF

/-- The code point of a pair of halves. -/
def pairValue (high low : Nat) : Nat :=
  (high - 0xD800) * 0x400 + (low - 0xDC00) + 0x10000

/-- Where the reader of a string stands. -/
inductive StringState where
  | plain
  | escape
  /-- Within `\u`, `count` octets of four read; `value` is none once one was no digit. -/
  | hex (high : Option Nat) (count : Nat) (value : Option Nat)
  /-- A second escape must follow the first half of a pair. -/
  | wantBackslash (high : Nat)
  | wantMark (high : Nat)
  deriving Repr, DecidableEq

/-- The octet that a one-letter escape stands for. -/
def shortEscape? (b : UInt8) : Option UInt8 :=
  if b = '"'.toUInt8 then some 0x22
  else if b = '\\'.toUInt8 then some 0x5C
  else if b = '/'.toUInt8 then some 0x2F
  else if b = 'b'.toUInt8 then some 0x08
  else if b = 'f'.toUInt8 then some 0x0C
  else if b = 'n'.toUInt8 then some 0x0A
  else if b = 'r'.toUInt8 then some 0x0D
  else if b = 't'.toUInt8 then some 0x09
  else none

/-- Adds a hexadecimal digit to a number. -/
def addHex (value : Option Nat) (b : UInt8) : Option Nat := do
  let n ← value
  let d ← Hex.digitValue? (Char.ofNat b.toNat)
  return n * 16 + d

/-- What a complete `\u` escape comes to: a character or the first half of a pair. -/
def hexEscape (high : Option Nat) (value : Option Nat) : Except Cause (Nat ⊕ Char) :=
  match value, high with
  | none, _ => .error .badEscape
  | some n, none =>
    if isLowSurrogate n then .error .loneSurrogate
    else if isHighSurrogate n then .ok (.inl n)
    else .ok (.inr (Char.ofNat n))
  | some n, some h =>
    if isLowSurrogate n then .ok (.inr (Char.ofNat (pairValue h n))) else .error .loneSurrogate

/-- One step of reading a string: the octets it adds and the next state, or none at the closing
quote. -/
def stringStep (state : StringState) (b : UInt8) : Except Cause (Option (Bytes × StringState)) :=
  match state with
  | .plain =>
    if b = '"'.toUInt8 then .ok none
    else if b = '\\'.toUInt8 then .ok (some ([], .escape))
    else if b < 0x20 then .error .controlCharacter
    else .ok (some ([b], .plain))
  | .escape =>
    if b = 'u'.toUInt8 then .ok (some ([], .hex none 0 (some 0)))
    else
      match shortEscape? b with
      | some c => .ok (some ([c], .plain))
      | none => .error .badEscape
  | .hex high count value =>
    let value := addHex value b
    if count < 3 then .ok (some ([], .hex high (count + 1) value))
    else
      match hexEscape high value with
      | .error cause => .error cause
      | .ok (.inl h) => .ok (some ([], .wantBackslash h))
      | .ok (.inr c) => .ok (some (String.utf8EncodeChar c, .plain))
  | .wantBackslash high =>
    if b = '\\'.toUInt8 then .ok (some ([], .wantMark high)) else .error .endInSurrogates
  | .wantMark high =>
    if b = 'u'.toUInt8 then .ok (some ([], .hex (some high) 0 (some 0)))
    else .error .endInSurrogates

/-- Reads on in a string up to its closing quote; `done` holds its octets so far, last first. -/
def stringOctets (state : StringState) (done : Bytes) : Reader Bytes
  | [] => .error (.before .endInString [])
  | b :: rest =>
    match stringStep state b with
    | .error cause => .error (.before cause rest)
    | .ok none => .ok (done.reverse, rest)
    | .ok (some (new, next)) => stringOctets next (new.reverse ++ done) rest

/-- Reads a string whose opening quote has been read. -/
def string : Reader String := fun bs => do
  let (octets, rest) ← stringOctets .plain [] bs
  match Utf8.decode? octets with
  | some s => return (s, rest)
  | none => throw (.before .badCodePoint rest)

end DeviceSetup.Json
