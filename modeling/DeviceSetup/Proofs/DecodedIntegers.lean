import Mathlib
import DeviceSetup.Proofs.JsonRoundTrip
import DeviceSetup.Proofs.Octets
import DeviceSetup.Proofs.RoundedTenths

/-!
# Which integers JSON keeps

An integer of 64 bits that is written as its digits is read as that integer. Every other number
is read through a double, which counts as an integer if it is whole and from `-2 ^ 63` to `2 ^ 63`.
So the integers next below the least one are rounded to it, and `2 ^ 63` with a fraction of
zero is taken for the greatest one. With a fraction of zero ten times the number is rounded first
if it fits 64 bits, and some integers slip to a neighbour or off the integers.
-/

namespace DeviceSetup.Json

/-! ## Numerals -/

/-- Once a digit does not fit, what stands behind the digits changes nothing but the rest. -/
theorem appendDigits_append_left {a m : Nat} {d : UInt8} {xs ds : Bytes}
    (h : appendDigits a xs = (m, d :: ds)) (ys : Bytes) :
    appendDigits a (xs ++ ys) = (m, d :: (ds ++ ys)) := by
  induction xs generalizing a with
  | nil => cases (Prod.mk.inj h).2
  | cons x xs ih =>
      rw [appendDigits] at h
      rw [List.cons_append, appendDigits]
      split at h
      · rename_i hfits
        rw [if_pos hfits]
        exact ih h
      · rename_i hfull
        obtain ⟨rfl, hds⟩ := Prod.mk.inj h
        obtain ⟨rfl, rfl⟩ := List.cons.inj hds
        rw [if_neg hfull]

/-- The digits of a greater number are taken up to the one that does not fit. What was taken by
then is within one digit of the limit, so the number is out of range however it is rounded. -/
theorem appendDigits_beyond {n : Nat} (h : maxWord < n) :
    ∃ m d ds, appendDigits 0 (digitOctets n) = (m, d :: ds) ∧ maxWord ≤ m * 10 + 9 := by
  induction n using Nat.strongRecOn with
  | ind n ih =>
    have hten : ¬ n < 10 := by
      unfold maxWord at h
      omega
    have hlast : n % 10 < 10 := Nat.mod_lt _ (by decide)
    rw [digitOctets_eq, if_neg hten]
    -- the last digit is the one that does not fit, or a digit before it was
    by_cases hfits : n / 10 ≤ maxWord
    · refine ⟨n / 10, UInt8.ofNat (48 + n % 10), [], ?_, by omega⟩
      rw [appendDigits_append (appendDigits_digitOctets hfits), appendDigits,
        digitValue_octet hlast, if_neg (by omega)]
    · obtain ⟨m, d, ds, heq, hm⟩ := ih (n / 10) (by omega) (by omega)
      exact ⟨m, d, _, appendDigits_append_left heq _, hm⟩

/-- A fraction of zero. -/
def pointZero : Bytes :=
  ascii ['.', '0']

theorem numeral_pointZero (negative : Bool) (n : Nat) :
    numeral negative (digitOctets n ++ pointZero)
      = .ok (⟨negative, digitOctets n, some ['0'.toUInt8], none⟩, []) := by
  have hpoint : EndsDigits pointZero := rfl
  unfold numeral
  rw [wholeDigits_digitOctets n hpoint]
  rfl

theorem number_of_numeral {negative : Bool} {bs rest : Bytes} {t : Numeral}
    (h : numeral negative bs = .ok (t, rest)) :
    number negative bs = (t.value rest).map fun x => (x, rest) := by
  unfold number
  rw [h]
  rfl

namespace Numeral

/-- An integer as it is written: its digits, and no fraction or a fraction of zero. Beyond 64 bits
both spellings take one way, so the lemmas on that way are stated for this. -/
structure IsInteger (t : Numeral) (z : Int) : Prop where
  negative : t.negative = decide (z < 0)
  whole : t.whole = digitOctets z.natAbs
  fraction : t.fraction = none ∨ t.fraction = some ['0'.toUInt8]
  exponent : t.exponent = none

variable {t : Numeral} {z : Int}

/-- A significand that was cut off stands for a number near the limit or above it. -/
theorem significand_beyond (ht : t.IsInteger z) (h : maxWord < z.natAbs) :
    ∃ s k : Nat, t.significand = (s, (k : Int)) ∧ maxWord ≤ s * 10 ^ k + 9 := by
  obtain ⟨m, d, ds, heq, hm⟩ := appendDigits_beyond h
  have hpow : 10 ≤ 10 ^ (ds.length + 1) := by
    rw [Nat.pow_succ]
    have := Nat.one_le_pow ds.length 10 (by decide)
    omega
  have hscale : maxWord ≤ m * 10 ^ (ds.length + 1) + 9 := by
    have hmul := Nat.mul_le_mul_left m hpow
    omega
  unfold significand
  rcases ht.fraction with hfraction | hfraction
  · refine ⟨m, ds.length + 1, ?_, hscale⟩
    rw [ht.whole, heq, hfraction]
    rfl
  · rw [ht.whole, heq, hfraction]
    dsimp only [Option.getD_some]
    have hdigit : digitValue '0'.toUInt8 = 0 := rfl
    -- the zero of the fraction may still fit, and then it counts as a digit that was dropped
    rw [appendDigits, hdigit]
    split
    · refine ⟨m * 10, ds.length, ?_, ?_⟩
      · simp [appendDigits]
      · rw [Nat.mul_assoc, ← Nat.pow_succ']
        exact hscale
    · exact ⟨m, ds.length + 1, by simp, hscale⟩

theorem integer?_beyond (ht : t.IsInteger z) (h : maxWord < z.natAbs) : t.integer? = none := by
  obtain ⟨m, d, ds, heq, -⟩ := appendDigits_beyond h
  unfold integer?
  rw [ht.whole, heq]
  split
  · rename_i hpair
    cases (Prod.mk.inj hpair).2
  · rfl

theorem integer?_fraction {ds : Bytes} (h : t.fraction = some ds) : t.integer? = none := by
  unfold integer?
  rw [h]

end Numeral

end DeviceSetup.Json

namespace DeviceSetup.Double

/-! ## Doubles -/

theorem whole?_finite (negative : Bool) (a : Dyadic) :
    (finite negative a).whole? =
      a.whole?.map fun n : Nat => if negative then -(n : Int) else (n : Int) := by
  unfold whole?
  dsimp only
  cases a.whole? <;> rfl

/-- The integers that are doubles: those that some finite double within the format's bounds stands
for. This is the exact value, without any rounding. -/
def Represents (z : Int) : Prop :=
  ∃ negative a, a.mantissa < 2 ^ 53 ∧ Dyadic.minExponent ≤ a.exponent ∧ a.isFinite ∧
    (finite negative a).whole? = some z

/-- Such an integer is one of 53 bits with zeros behind them. -/
theorem Represents.has53Bits {z : Int} (h : Represents z) :
    Dyadic.Has53Bits z.natAbs := by
  obtain ⟨negative, a, hmantissa, -, -, hwhole⟩ := h
  rw [whole?_finite] at hwhole
  obtain ⟨n, hn, hz⟩ := Option.map_eq_some_iff.mp hwhole
  have habs : z.natAbs = n := by
    rw [← hz]
    split <;> omega
  have hvalue : (a.mantissa : ℚ) * 2 ^ a.exponent = n := Dyadic.toRat_of_whole? hn
  rw [habs]
  cases hexponent : a.exponent with
  | ofNat k =>
      rw [hexponent, Int.ofNat_eq_natCast, zpow_natCast] at hvalue
      exact ⟨a.mantissa, k, hmantissa, by exact_mod_cast hvalue.symm⟩
  | negSucc k =>
      -- a mantissa with zeros to drop
      have hdrop : a.mantissa = n * 2 ^ (k + 1) := by
        rw [hexponent, zpow_negSucc, ← div_eq_mul_inv, div_eq_iff (by positivity)] at hvalue
        exact_mod_cast hvalue
      have hle : n ≤ n * 2 ^ (k + 1) := Nat.le_mul_of_pos_right n (by positivity)
      exact ⟨n, 0, by omega, by rw [Nat.pow_zero, Nat.mul_one]⟩

end DeviceSetup.Double

namespace DeviceSetup.Value

open Json (digitOctets digitValue maxWord pointZero Numeral)

theorem ofDouble?_of_toRat {a : Dyadic} {z : Int} (h : a.toRat = z.natAbs) :
    ofDouble? (.finite (decide (z < 0)) a) =
      if -2 ^ 63 ≤ z ∧ z ≤ 2 ^ 63 then some (Int64.ofInt (min z (2 ^ 63 - 1))) else none := by
  have hsigned : (if decide (z < 0) then -(z.natAbs : Int) else (z.natAbs : Int)) = z := by
    simp only [decide_eq_true_eq]
    split <;> omega
  unfold ofDouble?
  rw [Double.whole?_finite, Dyadic.whole?_of_toRat h, Option.map_some, hsigned]

theorem ofDouble?_beyond {negative : Bool} {a : Dyadic} (h : 2 ^ 63 < a.toRat) :
    ofDouble? (.finite negative a) = none := by
  unfold ofDouble?
  rw [Double.whole?_finite]
  cases hwhole : a.whole? with
  | none => rfl
  | some n =>
      rw [Dyadic.toRat_of_whole? hwhole] at h
      have hn : 2 ^ 63 < n := by exact_mod_cast h
      rw [Option.map_some]
      refine if_neg ?_
      split <;> omega

theorem ofDouble?_of_not_whole {negative : Bool} {a : Dyadic} (h : ∀ n : Nat, a.toRat ≠ n) :
    ofDouble? (.finite negative a) = none := by
  unfold ofDouble?
  rw [Double.whole?_finite]
  cases hwhole : a.whole? with
  | none => rfl
  | some n => exact absurd (Dyadic.toRat_of_whole? hwhole) (h n)

/-! ## From the text to the numeral -/

/-- The value of a number as it is written, with nothing behind it. The reader's faults are left
out: only whether there is a value matters here. -/
def ofNumeral (t : Numeral) : Option Value :=
  match t.value [] with
  | .ok x => (ofNumber x).toOption
  | .error _ => none

theorem opening_writeInt (z : Int) (tail : Bytes) :
    Json.opening (Json.writeInt z ++ tail) =
      (Json.number (decide (z < 0)) (digitOctets z.natAbs ++ tail)).map
        fun p => (.scalar (.number p.1), p.2) := by
  cases z with
  | ofNat n => exact Json.opening_digitOctets n tail
  | negSucc n =>
      rw [decide_eq_true (Int.negSucc_lt_zero n)]
      exact Json.opening_minusOctet (digitOctets (n + 1) ++ tail)

/--
**What an integer with a tail is read as depends on its numeral alone.**

From here on octets play no part: what is left is a question about digits, a fraction and an
exponent.
-/
theorem toOption_ofJson {z : Int} {tail : Bytes} {t : Numeral}
    (h : Json.numeral (decide (z < 0)) (digitOctets z.natAbs ++ tail) = .ok (t, [])) :
    (ofJson (Json.writeInt z ++ tail)).toOption = ofNumeral t := by
  have hopening := opening_writeInt z tail
  rw [Json.number_of_numeral h] at hopening
  unfold ofJson Json.parse reader ofNumeral
  simp only [bind, Except.bind, hopening]
  cases t.value [] with
  | error f => rfl
  | ok x =>
      simp only [Except.map, ofScalar]
      cases ofNumber x <;> rfl

section

variable {t : Numeral}

theorem ofNumeral_of_double? {x : Double} (hinteger : t.integer? = none)
    (hdouble : t.double? = some x) : ofNumeral t = (ofDouble? x).map .int := by
  unfold ofNumeral Numeral.value
  simp only [hinteger, hdouble, ofNumber]
  cases ofDouble? x <;> rfl

theorem ofNumeral_of_double?_none (hinteger : t.integer? = none) (hdouble : t.double? = none) :
    ofNumeral t = none := by
  unfold ofNumeral Numeral.value
  simp only [hinteger, hdouble]

/-- **Nothing beyond 64 bits is read.** The digits are cut off and the rest becomes an exponent, so
the number goes through a double; the cut leaves it large enough to be out of range. -/
theorem ofNumeral_beyond {z : Int} (ht : t.IsInteger z) (h : maxWord < z.natAbs) :
    ofNumeral t = none := by
  have hinteger := Numeral.integer?_beyond ht h
  obtain ⟨s, k, hsignificand, hlarge⟩ := Numeral.significand_beyond ht h
  have hdouble : t.double? = (Dyadic.ofDecimal s k).map (.finite t.negative) := by
    unfold Numeral.double? Numeral.exponentValue
    rw [hsignificand, ht.exponent]
    simp only [add_zero]
  unfold maxWord at hlarge
  cases hdecimal : Dyadic.ofDecimal s k with
  | none =>
      -- too large even for a double
      rw [hdecimal] at hdouble
      exact ofNumeral_of_double?_none hinteger hdouble
  | some a =>
      rw [hdecimal] at hdouble
      -- rounding does not bring it back below the limit
      have hle := Dyadic.le_toRat_ofDecimal (by omega) hdecimal
      have hcast : ((2 ^ 64 - 10 : Nat) : ℚ) ≤ ((s * 10 ^ k : Nat) : ℚ) := by
        exact_mod_cast (by omega)
      rw [ofNumeral_of_double? hinteger hdouble, ofDouble?_beyond, Option.map_none]
      norm_num at hcast ⊢
      push_cast at hle
      linarith

end

/-! ## Digits alone -/

section

variable {z : Int}

/-- The numeral of an integer's digits. -/
def digitsOnly (z : Int) : Numeral :=
  ⟨decide (z < 0), digitOctets z.natAbs, none, none⟩

theorem isInteger_digitsOnly (z : Int) : (digitsOnly z).IsInteger z :=
  ⟨rfl, rfl, .inl rfl, rfl⟩

theorem toOption_ofJson_digits (z : Int) :
    (ofJson (Json.writeInt z)).toOption = ofNumeral (digitsOnly z) := by
  have hnumeral := Json.numeral_digitOctets (decide (z < 0)) z.natAbs
    (show Json.EndsNumber [] from trivial)
  have hread := toOption_ofJson hnumeral
  rwa [List.append_nil] at hread

/-- Which of the three kinds of number an integer's digits are: without a sign, with one, or a
double if the sign leaves it below the least integer. -/
theorem value_digitsOnly (hfits : z.natAbs ≤ maxWord) :
    (digitsOnly z).value [] = .ok (if 0 ≤ z then .natural z.natAbs
      else if z.natAbs ≤ 2 ^ 63 then .negative z
      else .float (.finite true (Dyadic.ofNat z.natAbs))) := by
  have hinteger : (digitsOnly z).integer? = some z.natAbs := Json.integer?_digitOctets _ hfits
  unfold Numeral.value
  rw [hinteger]
  dsimp only
  have hsigned : (!(digitsOnly z).negative) = true ↔ 0 ≤ z := by simp [digitsOnly]
  by_cases hsign : 0 ≤ z
  · rw [if_pos (hsigned.mpr hsign), if_pos hsign]
  · have hback : -(z.natAbs : Int) = z := by omega
    have hpos : 0 < z.natAbs := by omega
    rw [if_neg (mt hsigned.mp hsign), if_neg hsign, hback]
    by_cases hsize : z.natAbs ≤ 2 ^ 63
    · rw [if_pos ⟨hpos, hsize⟩, if_pos hsize]
    · rw [if_neg fun hboth => hsize hboth.2, if_neg hsize]

theorem ofNumeral_digitsOnly (hlo : -2 ^ 63 ≤ z) (hhi : z < 2 ^ 63) :
    ofNumeral (digitsOnly z) = some (.int (Int64.ofInt z)) := by
  have hfits : z.natAbs ≤ maxWord := by
    unfold maxWord
    omega
  unfold ofNumeral
  rw [value_digitsOnly hfits]
  by_cases hsign : 0 ≤ z
  · have hback : (z.natAbs : Int) = z := by omega
    simp only [if_pos hsign, ofNumber, if_pos (show z.natAbs < 2 ^ 63 by omega), hback]
    rfl
  · simp only [if_neg hsign, if_pos (show z.natAbs ≤ 2 ^ 63 by omega), ofNumber]
    rfl

/-- Below the least integer the nearest double counts. That is the least integer itself for the
first 1024 of them, a tie included, and a number out of range for the others. -/
theorem ofNumeral_digitsOnly_below (hfits : z.natAbs ≤ maxWord) (h : z < -2 ^ 63) :
    ofNumeral (digitsOnly z) = if -2 ^ 63 - 1024 ≤ z then some (.int Int64.minValue) else none := by
  have hread : ofNumeral (digitsOnly z)
      = (ofDouble? (.finite true (Dyadic.ofNat z.natAbs))).map .int := by
    unfold ofNumeral
    rw [value_digitsOnly hfits]
    simp only [if_neg (show ¬ 0 ≤ z by omega), if_neg (show ¬ z.natAbs ≤ 2 ^ 63 by omega), ofNumber]
    cases ofDouble? (.finite true (Dyadic.ofNat z.natAbs)) <;> rfl
  -- the doubles from `2 ^ 63` on are `2048` apart
  have hround : (Dyadic.ofNat z.natAbs).toRat = roundDiv z.natAbs 2048 * 2 ^ (11 : Int) := by
    unfold maxWord at hfits
    refine Dyadic.toRat_ofNat ?_ (by omega) (by omega) (by decide)
    norm_num
  obtain ⟨hbelow, habove, heven⟩ := roundDiv_spec z.natAbs (show 0 < 2048 by decide)
  -- the multiple that is nearest, of which only its distance matters from here on
  generalize roundDiv z.natAbs 2048 = r at hround hbelow habove heven
  have hdouble := ofDouble?_of_toRat (z := -(r * 2048 : Nat)) (a := Dyadic.ofNat z.natAbs) (by
    rw [hround, Int.natAbs_neg, Int.natAbs_natCast]
    push_cast
    norm_num)
  rw [decide_eq_true (by omega)] at hdouble
  rw [hread, hdouble]
  by_cases hedge : -2 ^ 63 - 1024 ≤ z
  · obtain rfl : r = 2 ^ 52 := by omega
    rw [if_pos hedge]
    rfl
  · rw [if_neg hedge, if_neg (by omega), Option.map_none]

theorem ofNumeral_digitsOnly_above (hfits : z.natAbs ≤ maxWord) (h : 2 ^ 63 ≤ z) :
    ofNumeral (digitsOnly z) = none := by
  unfold ofNumeral
  rw [value_digitsOnly hfits]
  simp only [if_pos (show 0 ≤ z by omega), ofNumber, if_neg (show ¬ z.natAbs < 2 ^ 63 by omega)]
  rfl

end

/-! ## A fraction of zero -/

section

variable {z : Int}

/-- The numeral of an integer with a fraction of zero. -/
def pointed (z : Int) : Numeral :=
  ⟨decide (z < 0), digitOctets z.natAbs, some ['0'.toUInt8], none⟩

theorem isInteger_pointed (z : Int) : (pointed z).IsInteger z :=
  ⟨rfl, rfl, .inr rfl, rfl⟩

theorem toOption_ofJson_pointed (z : Int) :
    (ofJson (Json.writeInt z ++ pointZero)).toOption = ofNumeral (pointed z) :=
  toOption_ofJson (Json.numeral_pointZero _ _)

theorem ofNumeral_pointed {x : Double} (h : (pointed z).double? = some x) :
    ofNumeral (pointed z) = (ofDouble? x).map .int :=
  ofNumeral_of_double? (Numeral.integer?_fraction rfl) h

/-- The zero is appended if it fits. So the number is ten times itself, to be divided by ten, and
this is where an exact double may be lost. -/
theorem significand_pointed (hfits : z.natAbs ≤ maxWord) :
    (pointed z).significand =
      if 10 * z.natAbs ≤ maxWord then (10 * z.natAbs, -1) else (z.natAbs, 0) := by
  have hdigit : digitValue '0'.toUInt8 = 0 := rfl
  unfold Numeral.significand
  dsimp only [pointed, Option.getD_some]
  rw [Json.appendDigits_digitOctets hfits]
  dsimp only
  rw [Json.appendDigits, hdigit, Nat.mul_comm z.natAbs 10, Nat.add_zero]
  split
  · rfl
  · rfl

theorem double?_pointed_of_appended (h : 10 * z.natAbs ≤ maxWord) :
    (pointed z).double? = some (.finite (decide (z < 0))
      ((Dyadic.ofNat (10 * z.natAbs)).div (Dyadic.ofNat 10))) := by
  have hexponent : (pointed z).exponentValue = 0 := rfl
  unfold Numeral.double?
  rw [significand_pointed (by omega), if_pos h, hexponent]
  dsimp only
  rw [add_zero, Dyadic.ofDecimal_neg_one, Option.map_some]
  rfl

theorem double?_pointed_of_full (h : maxWord < 10 * z.natAbs) (hfits : z.natAbs ≤ maxWord)
    (hbits : Dyadic.Has53Bits z.natAbs) :
    ∃ a, (pointed z).double? = some (.finite (decide (z < 0)) a) ∧ a.toRat = z.natAbs := by
  have hexponent : (pointed z).exponentValue = 0 := rfl
  obtain ⟨a, hdecimal, ha⟩ := Dyadic.ofDecimal_zero hbits (by omega) (by
    unfold maxWord at hfits
    omega)
  refine ⟨a, ?_, ha⟩
  unfold Numeral.double?
  rw [significand_pointed hfits, if_neg (by omega), hexponent]
  dsimp only
  rw [add_zero, hdecimal, Option.map_some]
  rfl

/-- The integers that a fraction of zero alters: the zero is appended, and the tenth slips. -/
def SlipsWithZero (z : Int) : Prop :=
  10 * z.natAbs ≤ maxWord ∧ Dyadic.Slips z.natAbs

instance (z : Int) : Decidable (SlipsWithZero z) :=
  inferInstanceAs (Decidable (_ ∧ _))

theorem ofNumeral_pointed_of_toRat {a : Dyadic}
    (hdouble : (pointed z).double? = some (.finite (decide (z < 0)) a)) (ha : a.toRat = z.natAbs) :
    ofNumeral (pointed z) = if -2 ^ 63 ≤ z ∧ z ≤ 2 ^ 63
      then some (.int (Int64.ofInt (min z (2 ^ 63 - 1)))) else none := by
  rw [ofNumeral_pointed hdouble, ofDouble?_of_toRat ha]
  split <;> rfl

/--
**Every other double is read as it is, or refused beyond the range.**

At `2 ^ 63` the bound is one too high: that number is let in and clamped to the largest integer.
-/
theorem ofNumeral_pointed_of_not_slips (hbits : Dyadic.Has53Bits z.natAbs)
    (hkept : ¬ SlipsWithZero z) :
    ofNumeral (pointed z) = if -2 ^ 63 ≤ z ∧ z ≤ 2 ^ 63
      then some (.int (Int64.ofInt (min z (2 ^ 63 - 1)))) else none := by
  -- the zero is appended, or does not fit any more, or not even the digits do
  by_cases hfits : z.natAbs ≤ maxWord
  · by_cases happended : 10 * z.natAbs ≤ maxWord
    · exact ofNumeral_pointed_of_toRat (double?_pointed_of_appended happended)
        (Dyadic.toRat_tenth_of_not_slips hbits fun hslips => hkept ⟨happended, hslips⟩)
    · obtain ⟨a, hdouble, ha⟩ := double?_pointed_of_full (by omega) hfits hbits
      exact ofNumeral_pointed_of_toRat hdouble ha
  · rw [ofNumeral_beyond (isInteger_pointed z) (by omega), if_neg]
    unfold maxWord at hfits
    omega

/--
**A double that slips is read as its neighbour**, one unit in the last place away.

Nothing is refused, so an integer that was written with a fraction of zero is stored as another
integer.
-/
theorem ofNumeral_pointed_of_slips (hbits : Dyadic.Has53Bits z.natAbs) (hslips : SlipsWithZero z)
    (hlarge : 2 ^ 52 ≤ z.natAbs) :
    ∃ z' : Int, (z' = z + 2 ^ (z.natAbs.log2 - 52) ∨ z' = z - 2 ^ (z.natAbs.log2 - 52)) ∧
      -2 ^ 63 ≤ z' ∧ z' < 2 ^ 63 ∧ ofNumeral (pointed z) = some (.int (Int64.ofInt z')) := by
  obtain ⟨happended, hslips⟩ := hslips
  obtain ⟨n', hvalue, hn'⟩ := Dyadic.toRat_tenth_of_slips hbits hlarge hslips
  -- the unit is smaller than the number, so the sign stays
  have hunit : 2 ^ (z.natAbs.log2 - 52) < z.natAbs := by
    have hpos : z.natAbs ≠ 0 := by omega
    have hlog : 52 ≤ z.natAbs.log2 := (Nat.le_log2 hpos).mpr hlarge
    calc 2 ^ (z.natAbs.log2 - 52) < 2 ^ z.natAbs.log2 :=
          Nat.pow_lt_pow_right (by decide) (by omega)
      _ ≤ z.natAbs := Nat.log2_self_le hpos
  have hcast : ((2 ^ (z.natAbs.log2 - 52) : Nat) : Int) = 2 ^ (z.natAbs.log2 - 52) := by
    push_cast
    rfl
  rw [← hcast]
  generalize 2 ^ (z.natAbs.log2 - 52) = u at hn' hunit
  unfold maxWord at happended
  -- the neighbour has the sign of the number
  have hsign : ∃ z' : Int, z'.natAbs = n' ∧ decide (z' < 0) = decide (z < 0) ∧
      (z' = z + u ∨ z' = z - u) := by
    by_cases hneg : z < 0
    · exact ⟨-n', by omega, decide_eq_decide.mpr (by omega), by omega⟩
    · exact ⟨n', by omega, decide_eq_decide.mpr (by omega), by omega⟩
  obtain ⟨z', rfl, hsame, hz'⟩ := hsign
  have hrange : -2 ^ 63 ≤ z' ∧ z' < 2 ^ 63 := by omega
  -- and is read as it is, since it is in range
  refine ⟨z', hz', hrange.1, hrange.2, ?_⟩
  rw [ofNumeral_pointed (double?_pointed_of_appended (by unfold maxWord; omega)), ← hsame,
    ofDouble?_of_toRat hvalue, if_pos ⟨hrange.1, hrange.2.le⟩, min_eq_left (by omega)]
  rfl

/-- Below `2 ^ 52` the neighbour lies between two integers, and so is none. -/
theorem ofNumeral_pointed_off (hbits : Dyadic.Has53Bits z.natAbs) (hslips : SlipsWithZero z)
    (hsmall : z.natAbs < 2 ^ 52) : ofNumeral (pointed z) = none := by
  rw [ofNumeral_pointed (double?_pointed_of_appended hslips.1),
    ofDouble?_of_not_whole (Dyadic.toRat_tenth_ne_of_slips hbits hsmall hslips.2), Option.map_none]

end

/-! ## What is read -/

/-- What the digits of an integer are read as. -/
structure DigitsRead (z : Int) : Prop where
  /-- An integer of 64 bits is kept. -/
  kept : -2 ^ 63 ≤ z → z < 2 ^ 63 → ofJson (Json.writeInt z) = .ok (.int (Int64.ofInt z))
  /-- The 1024 integers below the least one come to it. -/
  raised : -2 ^ 63 - 1024 ≤ z → z < -2 ^ 63 → ofJson (Json.writeInt z) = .ok (.int Int64.minValue)
  /-- All others are refused. -/
  refused : z < -2 ^ 63 - 1024 ∨ 2 ^ 63 ≤ z → ∃ e, ofJson (Json.writeInt z) = .error e

theorem digitsRead (z : Int) : DigitsRead z where
  kept := by
    intro hlo hhi
    refine eq_ok_of_toOption ?_
    rw [toOption_ofJson_digits, ofNumeral_digitsOnly hlo hhi]
  raised := by
    intro hlo hhi
    refine eq_ok_of_toOption ?_
    rw [toOption_ofJson_digits, ofNumeral_digitsOnly_below (by unfold maxWord; omega) hhi,
      if_pos hlo]
  refused := by
    intro hout
    refine exists_error_of_toOption ?_
    rw [toOption_ofJson_digits]
    -- beyond 64 bits the digits are cut off before they are rounded
    by_cases hfits : z.natAbs ≤ maxWord
    · rcases hout with hbelow | habove
      · rw [ofNumeral_digitsOnly_below hfits (by omega), if_neg (by omega)]
      · exact ofNumeral_digitsOnly_above hfits habove
    · exact ofNumeral_beyond (isInteger_digitsOnly z) (by omega)

/-- What an integer that is a double is read as, when it is written with a fraction of zero. -/
structure PointedRead (z : Int) : Prop where
  /-- A double within the range is kept unless it slips. -/
  kept : -2 ^ 63 ≤ z → z < 2 ^ 63 → ¬ SlipsWithZero z →
    ofJson (Json.writeInt z ++ pointZero) = .ok (.int (Int64.ofInt z))
  /-- One that slips comes to the next double, if the doubles there are whole. -/
  shifted : SlipsWithZero z → 2 ^ 52 ≤ z.natAbs → ∃ z' : Int,
    (z' = z + 2 ^ (z.natAbs.log2 - 52) ∨ z' = z - 2 ^ (z.natAbs.log2 - 52)) ∧
      -2 ^ 63 ≤ z' ∧ z' < 2 ^ 63 ∧
      ofJson (Json.writeInt z ++ pointZero) = .ok (.int (Int64.ofInt z'))
  /-- Where the next double is not whole, one that slips is refused. -/
  broken : SlipsWithZero z → z.natAbs < 2 ^ 52 →
    ∃ e, ofJson (Json.writeInt z ++ pointZero) = .error e
  /-- The double next above the greatest integer comes to it. -/
  clamped : z = 2 ^ 63 → ofJson (Json.writeInt z ++ pointZero) = .ok (.int Int64.maxValue)
  /-- All others are refused. -/
  refused : z < -2 ^ 63 ∨ 2 ^ 63 < z → ∃ e, ofJson (Json.writeInt z ++ pointZero) = .error e

theorem pointedRead {z : Int} (h : Double.Represents z) : PointedRead z := by
  have hbits := h.has53Bits
  -- what does not fit with the zero does not slip
  have hlarge : 2 ^ 63 ≤ z.natAbs → ¬ SlipsWithZero z := by
    intro hsize hslips
    have hfits := hslips.1
    unfold maxWord at hfits
    omega
  constructor
  case kept =>
    intro hlo hhi hkept
    refine eq_ok_of_toOption ?_
    rw [toOption_ofJson_pointed, ofNumeral_pointed_of_not_slips hbits hkept,
      if_pos ⟨hlo, hhi.le⟩, min_eq_left (by omega)]
  case shifted =>
    intro hslips hsize
    obtain ⟨z', hnext, hlo, hhi, hread⟩ := ofNumeral_pointed_of_slips hbits hslips hsize
    refine ⟨z', hnext, hlo, hhi, eq_ok_of_toOption ?_⟩
    rw [toOption_ofJson_pointed, hread]
  case broken =>
    intro hslips hsize
    refine exists_error_of_toOption ?_
    rw [toOption_ofJson_pointed, ofNumeral_pointed_off hbits hslips hsize]
  case clamped =>
    intro hedge
    refine eq_ok_of_toOption ?_
    rw [toOption_ofJson_pointed, ofNumeral_pointed_of_not_slips hbits (hlarge (by omega)),
      if_pos (by omega), hedge]
    rfl
  case refused =>
    intro hout
    refine exists_error_of_toOption ?_
    rw [toOption_ofJson_pointed, ofNumeral_pointed_of_not_slips hbits (hlarge (by omega)),
      if_neg (by omega)]

/--
**An integer is altered only where it is rounded on the way.**

Digits alone keep every integer of 64 bits; the 1024 integers below the least one come to it,
and all others are refused. With a fraction of zero a double is kept unless it slips: then it comes
to the next double or, where that is not whole, is refused. The double `2 ^ 63` comes to the
greatest integer, and all others out of range are refused. A client that writes integers as digits
and keeps them within 64 bits is thus safe; one that writes them with a fraction is not.
-/
theorem integers_altered_only_by_rounding (z : Int) :
    DigitsRead z ∧ (Double.Represents z → PointedRead z) :=
  ⟨digitsRead z, pointedRead⟩

/-- The double `2 ^ 63`, an integer below the least one and a double that slips are read as other
integers, and a smaller double that slips is refused. -/
theorem integers_altered_only_by_rounding_edges :
    ofJson (Json.writeInt (2 ^ 63) ++ pointZero) = .ok (.int Int64.maxValue) ∧
    ofJson (Json.writeInt (-2 ^ 63 - 1)) = .ok (.int Int64.minValue) ∧
    (∃ z' : Int, z' ≠ 7205759403792801 ∧ -2 ^ 63 ≤ z' ∧ z' < 2 ^ 63 ∧
      ofJson (Json.writeInt 7205759403792801 ++ pointZero) = .ok (.int (Int64.ofInt z'))) ∧
    ∃ e, ofJson (Json.writeInt 1801439850948199 ++ pointZero) = .error e := by
  have hedge : Double.Represents (2 ^ 63) := ⟨false, ⟨1, 63⟩, by decide, by decide, rfl, rfl⟩
  have hlarge : Double.Represents 7205759403792801 :=
    ⟨false, ⟨7205759403792801, 0⟩, by decide, by decide, rfl, rfl⟩
  have hsmall : Double.Represents 1801439850948199 :=
    ⟨false, ⟨1801439850948199, 0⟩, by decide, by decide, rfl, rfl⟩
  refine ⟨?_, ?_, ?_, ?_⟩
  · exact ((integers_altered_only_by_rounding (2 ^ 63)).2 hedge).clamped rfl
  · exact (integers_altered_only_by_rounding (-2 ^ 63 - 1)).1.raised (by decide) (by decide)
  · obtain ⟨z', hnext, hread⟩ :=
      ((integers_altered_only_by_rounding 7205759403792801).2 hlarge).shifted (by decide)
        (by decide)
    have hlog : (7205759403792801 : Int).natAbs.log2 = 52 := by decide
    rw [hlog] at hnext
    exact ⟨z', by omega, hread⟩
  · exact ((integers_altered_only_by_rounding 1801439850948199).2 hsmall).broken (by decide)
      (by decide)

/-- Neither digits alone nor a fraction of zero refuse every integer out of range, and a fraction of
zero does not keep every double within it. -/
theorem integers_clamped_and_shifted :
    ofJson (Json.writeInt (2 ^ 63) ++ pointZero) = .ok (.int Int64.maxValue) ∧
    ofJson (Json.writeInt (-2 ^ 63 - 1)) = .ok (.int Int64.minValue) ∧
    ofJson (Json.writeInt 7205759403792801 ++ pointZero) = .ok (.int 7205759403792802) := by
  refine ⟨eq_ok_of_toOption ?_, eq_ok_of_toOption ?_, eq_ok_of_toOption ?_⟩ <;> decide +kernel

end DeviceSetup.Value
