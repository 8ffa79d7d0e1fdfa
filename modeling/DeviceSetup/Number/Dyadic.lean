import DeviceSetup.Number.Words

/-!
# Binary fractions of 53 bits

A `Dyadic` is a non-negative number `mantissa * 2 ^ exponent`. `Dyadic.ofRatio` rounds a
ratio to the nearest one with at most 53 bits and an exponent of at least -1074, a
half going to the even mantissa. `Double` adds the sign, the infinities and the
value that is no number, and reads the two interchange formats.
-/

namespace DeviceSetup

/-- Rounds `num / den` to the nearest integer, a half to the even neighbour. -/
def roundDiv (num den : Nat) : Nat :=
  let q := num / den
  let r := num % den
  if 2 * r < den then q
  else if den < 2 * r then q + 1
  else if q % 2 = 0 then q else q + 1

/-- The number `mantissa * 2 ^ exponent`. -/
structure Dyadic where
  mantissa : Nat
  exponent : Int
  deriving Repr, DecidableEq

namespace Dyadic

/-- The least exponent, which the numbers next to zero have. -/
def minExponent : Int := -1074

/-- The greatest exponent of a finite number. -/
def maxExponent : Int := 971

/-- Zero, with the exponent of its neighbours. -/
def zero : Dyadic := ⟨0, minExponent⟩

/-- `num / (den * 2 ^ q)` as numerator and denominator. -/
def scaled (num den : Nat) : Int → Nat × Nat
  | .ofNat k => (num, den * Nat.pow 2 k)
  | .negSucc k => (num * Nat.pow 2 (k + 1), den)

/-- The exponent at which `num / den` has 53 bits, but no less than the least one. -/
def exponentFor (num den : Nat) : Int :=
  let q : Int := (num.log2 : Int) - den.log2 - 53
  let (n, d) := scaled num den q
  max (if d * 2 ^ 53 ≤ n then q + 1 else q) minExponent

/-- The nearest number to `num / den`. -/
def ofRatio (num den : Nat) : Dyadic :=
  if num = 0 then zero
  else
    let q := exponentFor num den
    let (n, d) := scaled num den q
    let m := roundDiv n d
    -- rounding up may need one bit more
    if m = 2 ^ 53 then ⟨2 ^ 52, q + 1⟩ else ⟨m, q⟩

/-- The nearest number to a natural number. -/
def ofNat (n : Nat) : Dyadic :=
  ofRatio n 1

/-- Whether the number is within the finite range. -/
def isFinite (d : Dyadic) : Bool :=
  d.exponent ≤ maxExponent

/-- The exact numerator and denominator. -/
def ratio (d : Dyadic) : Nat × Nat :=
  match d.exponent with
  | .ofNat k => (d.mantissa * Nat.pow 2 k, 1)
  | .negSucc k => (d.mantissa, Nat.pow 2 (k + 1))

/-- The rounded product. -/
def mul (a b : Dyadic) : Dyadic :=
  let (n, d) := a.ratio
  let (n', d') := b.ratio
  ofRatio (n * n') (d * d')

/-- The rounded quotient. -/
def div (a b : Dyadic) : Dyadic :=
  let (n, d) := a.ratio
  let (n', d') := b.ratio
  ofRatio (n * d') (d * n')

/-- The natural number that this is, if it is whole. -/
def whole? (a : Dyadic) : Option Nat :=
  let (n, d) := a.ratio
  if n % d = 0 then some (n / d) else none

/-- The greatest power of ten that a quotient is taken by at once. -/
def maxTenPower : Nat := 308

/-- Divides by `10 ^ k`, in steps of at most `10 ^ 308`; a few steps reach zero. -/
def divTenPower : Nat → Dyadic → Nat → Dyadic
  | 0, _, _ => zero
  | fuel + 1, a, k =>
    if k ≤ maxTenPower then a.div (ofNat (Nat.pow 10 k))
    else if a.mantissa = 0 then a
    else divTenPower fuel (a.div (ofNat (Nat.pow 10 maxTenPower))) (k - maxTenPower)

/-- The number `significand * 10 ^ exponent`, rounded once for the significand and once
for the product or quotient; `none` beyond the finite range. -/
def ofDecimal (significand : Nat) (exponent : Int) : Option Dyadic :=
  match exponent with
  | .ofNat k =>
    if significand = 0 then some zero
    else if maxTenPower < k then none
    else
      let a := (ofNat significand).mul (ofNat (Nat.pow 10 k))
      if a.isFinite then some a else none
  | .negSucc k => some (divTenPower 4 (ofNat significand) (k + 1))

end Dyadic

/-- A number of double precision. -/
inductive Double where
  | finite (negative : Bool) (size : Dyadic)
  | infinite (negative : Bool)
  | nan
  deriving Repr, DecidableEq

namespace Double

/-- The number `mantissa * 2 ^ exponent`, which must have at most 53 bits. -/
def ofScaled (negative : Bool) (mantissa : Nat) (exponent : Int) : Double :=
  let (n, d) := (⟨mantissa, exponent⟩ : Dyadic).ratio
  .finite negative (Dyadic.ofRatio n d)

/-- Reads an interchange format with the given widths of exponent and fraction. -/
def ofFormat (exponentBits fractionBits : Nat) (bits : Nat) : Double :=
  let fraction := bits % Nat.pow 2 fractionBits
  let biased := bits / Nat.pow 2 fractionBits % Nat.pow 2 exponentBits
  let negative := bits / Nat.pow 2 (fractionBits + exponentBits) % 2 = 1
  let bias : Int := Nat.pow 2 (exponentBits - 1) - 1
  if biased = Nat.pow 2 exponentBits - 1 then
    if fraction = 0 then .infinite negative else .nan
  else if biased = 0 then
    ofScaled negative fraction (1 - bias - fractionBits)
  else
    ofScaled negative (Nat.pow 2 fractionBits + fraction) (biased - bias - fractionBits)

/-- Reads 32 bits of single precision. -/
def ofBits32 (bits : Nat) : Double :=
  ofFormat 8 23 bits

/-- Reads 64 bits of double precision. -/
def ofBits64 (bits : Nat) : Double :=
  ofFormat 11 52 bits

/-- The integer that this is, if it is whole. -/
def whole? : Double → Option Int
  | .finite negative size => size.whole?.map fun n => if negative then -(n : Int) else n
  | .infinite _ | .nan => none

end Double

end DeviceSetup
