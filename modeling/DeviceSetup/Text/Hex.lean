import DeviceSetup.Text.Utf8

/-!
# Hexadecimal text

Octets as pairs of digits, high half first. Writing uses lower case; reading takes
either case.

In an address an octet may be written as a percent sign and two digits. A percent sign that
is not followed by two digits stands for itself.
-/

namespace DeviceSetup

namespace Hex

/-- The digit of a number below sixteen, in lower case. -/
def digit (n : Nat) : Char :=
  if n < 10 then Char.ofNat ('0'.toNat + n) else Char.ofNat ('a'.toNat + (n - 10))

/-- The value of a digit in either case. -/
def digitValue? (c : Char) : Option Nat :=
  if '0' ≤ c ∧ c ≤ '9' then some (c.toNat - '0'.toNat)
  else if 'a' ≤ c ∧ c ≤ 'f' then some (c.toNat - 'a'.toNat + 10)
  else if 'A' ≤ c ∧ c ≤ 'F' then some (c.toNat - 'A'.toNat + 10)
  else none

/-- The two digits of an octet. -/
def pair (b : UInt8) : List Char :=
  [digit (b.toNat / 16), digit (b.toNat % 16)]

/-- The digits of octets. -/
def digits (bs : Bytes) : List Char :=
  bs.flatMap pair

/-- Octets as lower-case hexadecimal text. -/
def encode (bs : Bytes) : String :=
  String.ofList (digits bs)

/-- Reads pairs of digits; an odd count or another character is refused. -/
def decodeDigits? : List Char → Option Bytes
  | [] => some []
  | [_] => none
  | high :: low :: rest => do
    let h ← digitValue? high
    let l ← digitValue? low
    let bs ← decodeDigits? rest
    return UInt8.ofNat (h * 16 + l) :: bs

/-- The octets of hexadecimal text. -/
def decode? (s : String) : Option Bytes :=
  decodeDigits? s.toList

end Hex

/-! ## Percent signs in addresses -/

namespace Percent

/-- The octet that three octets of an address stand for, if they are a percent sign and two
digits. -/
def octet? (sign high low : UInt8) : Option UInt8 :=
  if sign = '%'.toUInt8 then do
    let h ← Hex.digitValue? (Char.ofNat high.toNat)
    let l ← Hex.digitValue? (Char.ofNat low.toNat)
    return UInt8.ofNat (h * 16 + l)
  else none

/-- Replaces what stands for octets by those octets, except where the octet is to be kept as
written. -/
def decode (keep : UInt8 → Bool) : Bytes → Bytes
  | sign :: high :: low :: rest =>
    match octet? sign high low with
    | none => sign :: decode keep (high :: low :: rest)
    | some b => if keep b then sign :: decode keep (high :: low :: rest) else b :: decode keep rest
  | bs => bs

end Percent

end DeviceSetup
