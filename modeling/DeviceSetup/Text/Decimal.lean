import DeviceSetup.Number.Words

/-!
# Decimal integers

Integers as decimal text, and reading them within bounds. A text is an optional
sign and ASCII digits, nothing else.
-/

namespace DeviceSetup.Decimal

/-- Whether a character is an ASCII digit. -/
def isDigit (c : Char) : Bool :=
  '0' ≤ c && c ≤ '9'

/-- The value of a digit. -/
def digitValue (c : Char) : Nat :=
  c.toNat - '0'.toNat

/-- The number that a run of digits denotes, the first digit the highest. -/
def ofDigits (cs : List Char) : Nat :=
  cs.foldl (fun n c => n * 10 + digitValue c) 0

/-- The digits of a number. -/
def natDigits (n : Nat) : List Char :=
  Nat.toDigits 10 n

/-- The decimal text of an integer. -/
def intChars : Int → List Char
  | .ofNat n => natDigits n
  | .negSucc n => '-' :: natDigits (n + 1)

/-- The decimal text of a number. -/
def ofNat (n : Nat) : String :=
  String.ofList (natDigits n)

/-- The decimal text of an integer. -/
def ofInt (n : Int) : String :=
  String.ofList (intChars n)

/-- Why a text is not an integer of the wanted range. -/
inductive Fault where
  | empty
  | invalidDigit
  | tooLarge
  | tooSmall
  deriving Repr, DecidableEq

/-- The wording of a fault. -/
def Fault.message : Fault → String
  | .empty => "cannot parse integer from empty string"
  | .invalidDigit => "invalid digit found in string"
  | .tooLarge => "number too large to fit in target type"
  | .tooSmall => "number too small to fit in target type"

/-- Adds digits to `n` until one is no digit or the bound is passed, whichever comes first. -/
def readUpTo (bound : Nat) (beyond : Fault) (n : Nat) : List Char → Except Fault Nat
  | [] => .ok n
  | c :: rest =>
    if !isDigit c then .error .invalidDigit
    else if bound < n * 10 + digitValue c then .error beyond
    else readUpTo bound beyond (n * 10 + digitValue c) rest

/-- Reads a natural number up to `bound`; a plus sign may stand in front. -/
def readNat (bound : Nat) (cs : List Char) : Except Fault Nat :=
  match cs with
  | [] => .error .empty
  | ['+'] | ['-'] => .error .invalidDigit
  | '+' :: rest => readUpTo bound .tooLarge 0 rest
  | rest => readUpTo bound .tooLarge 0 rest

/-- Reads an integer of 64 bits in two's complement; either sign may stand in front. -/
def readInt64 (cs : List Char) : Except Fault Int :=
  match cs with
  | [] => .error .empty
  | ['+'] | ['-'] => .error .invalidDigit
  | '-' :: rest => (readUpTo (2 ^ 63) .tooSmall 0 rest).map fun n => -(n : Int)
  | '+' :: rest => (readUpTo (2 ^ 63 - 1) .tooLarge 0 rest).map Int.ofNat
  | rest => (readUpTo (2 ^ 63 - 1) .tooLarge 0 rest).map Int.ofNat

end DeviceSetup.Decimal
