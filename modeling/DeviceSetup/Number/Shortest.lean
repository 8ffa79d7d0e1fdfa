import DeviceSetup.Number.Dyadic
import DeviceSetup.Text.Decimal

/-!
# Shortest decimal text of a double

`Dyadic.shortest` gives the fewest decimal digits that round back to the number, and
of those the nearest. Where two are equally near, a `TieRule` decides. A `NumberLayout`
says how such digits are laid out.
-/

namespace DeviceSetup

/-- The number `digits * 10 ^ exponent`. -/
structure DecimalFloat where
  digits : Nat
  exponent : Int
  deriving Repr, DecidableEq

namespace DecimalFloat

/-- The exact numerator and denominator. -/
def ratio (d : DecimalFloat) : Nat × Nat :=
  match d.exponent with
  | .ofNat k => (d.digits * Nat.pow 10 k, 1)
  | .negSucc k => (d.digits, Nat.pow 10 (k + 1))

/-- Drops up to `count` zeros at the end of the digits. -/
def dropZeros : Nat → DecimalFloat → DecimalFloat
  | 0, d => d
  | count + 1, d =>
    if d.digits ≠ 0 ∧ d.digits % 10 = 0 then dropZeros count ⟨d.digits / 10, d.exponent + 1⟩
    else d

end DecimalFloat

/-- Which of two equally near neighbours is taken. -/
inductive TieRule where
  | up
  | toEven
  deriving Repr, DecidableEq

/-- Whether the lower of two equally near neighbours is taken. -/
def TieRule.takesLower : TieRule → Nat → Bool
  | .up, _ => false
  | .toEven, lower => lower % 2 = 0

namespace Dyadic

/-- Raises `e` while `10 ^ (e + 1)` is no greater than `num / den`, at most `fuel` times. -/
def raiseLog10 (num den : Nat) : Nat → Int → Int
  | 0, e => e
  | fuel + 1, e =>
    let (n, d) := (⟨1, e + 1⟩ : DecimalFloat).ratio
    if n * den ≤ num * d then raiseLog10 num den fuel (e + 1) else e

/-- The exponent of the highest decimal place of `num / den`. -/
def log10 (num den : Nat) : Int :=
  let log2 : Int := (num.log2 : Int) - den.log2 - 1
  raiseLog10 num den 4 (Int.fdiv (log2 * 30103) 100000 - 1)

/-- The neighbour of `num / den` on the grid of `count` digits that rounds to `a`; of two, the
nearer. -/
def onGrid? (tie : TieRule) (a : Dyadic) (num den : Nat) (top : Int) (count : Nat) :
    Option DecimalFloat :=
  let place := top - count + 1
  -- `num / den` in units of the last place
  let (n, d) := (⟨1, place⟩ : DecimalFloat).ratio
  let num' := num * d
  let den' := den * n
  let below : DecimalFloat := ⟨num' / den', place⟩
  let above : DecimalFloat := ⟨num' / den' + 1, place⟩
  let hits (x : DecimalFloat) : Bool := ofRatio x.ratio.1 x.ratio.2 = a
  match hits below, hits above with
  | true, true =>
    let twice := 2 * (num' % den')
    let lower := twice < den' || (twice = den' && tie.takesLower below.digits)
    some (if lower then below else above)
  | true, false => some below
  | false, true => some above
  | false, false => none

/-- The fewest digits that round back to `a`, and of those the nearest to it. -/
def shortest (tie : TieRule) (a : Dyadic) : DecimalFloat :=
  if a.mantissa = 0 then ⟨0, 0⟩
  else
    let (num, den) := a.ratio
    let top := log10 num den
    -- seventeen digits always suffice
    (((List.range' 1 17).findSome? (onGrid? tie a num den top)).getD ⟨0, 0⟩).dropZeros 20

end Dyadic

/-- How the text of a double is laid out. -/
structure NumberLayout where
  /-- Whether a number with this exponent of its highest place is written without exponent. -/
  positional : Int → Bool
  /-- Whether a whole number written without exponent ends in `.0`. -/
  keepPoint : Bool
  /-- Which of two equally near texts is taken. -/
  tie : TieRule

namespace NumberLayout

/-- No exponent, and no point behind a whole number; a tie goes up. -/
def plain : NumberLayout := ⟨fun _ => true, false, .up⟩

/-- No exponent, and a point in every number; a tie goes up. -/
def pointed : NumberLayout := ⟨fun _ => true, true, .up⟩

/-- An exponent from `1e+16` up and below `0.00001`, and a point in every other number; a tie
goes to the even digit. -/
def compact : NumberLayout := ⟨fun e => -5 ≤ e && e ≤ 15, true, .toEven⟩

/-- Digits without an exponent. -/
def positionalChars (keepPoint : Bool) (digits : List Char) (exponent : Int) : List Char :=
  match exponent with
  | .ofNat k => digits ++ List.replicate k '0' ++ (if keepPoint then ['.', '0'] else [])
  | .negSucc k =>
    let places := k + 1
    if places < digits.length then
      digits.take (digits.length - places) ++ '.' :: digits.drop (digits.length - places)
    else '0' :: '.' :: (List.replicate (places - digits.length) '0' ++ digits)

/-- Digits with an exponent, whose sign is always written. -/
def exponentChars (digits : List Char) (top : Int) : List Char :=
  let lead := match digits with
    | [] => []
    | [d] => [d]
    | d :: rest => d :: '.' :: rest
  let sign := if top < 0 then '-' else '+'
  lead ++ 'e' :: sign :: Decimal.natDigits top.natAbs

/-- The text of a size. -/
def sizeChars (layout : NumberLayout) (size : Dyadic) : List Char :=
  let x := size.shortest layout.tie
  let digits := Decimal.natDigits x.digits
  let top := x.exponent + digits.length - 1
  if layout.positional top then positionalChars layout.keepPoint digits x.exponent
  else exponentChars digits top

/-- The text of a double. -/
def render (layout : NumberLayout) : Double → String
  | .finite negative size =>
    String.ofList ((if negative then ['-'] else []) ++ layout.sizeChars size)
  | .infinite negative => if negative then "-inf" else "inf"
  | .nan => "NaN"

end NumberLayout

end DeviceSetup
