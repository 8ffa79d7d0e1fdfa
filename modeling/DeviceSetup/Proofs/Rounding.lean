import Mathlib
import DeviceSetup.Number.Dyadic

/-!
# What rounding to 53 bits comes to

A binary fraction is read as a rational number. A ratio between `2 ^ 52 * 2 ^ q` and
`2 ^ 53 * 2 ^ q` is rounded to a multiple of `2 ^ q`, so once it is written as
`u / v * 2 ^ q` with `u / v` between `2 ^ 52` and `2 ^ 53` its rounding is that of `u / v` to an
integer. Products and quotients are rounded in the same way, and the whole numbers are told from
the others by their value alone.
-/

namespace DeviceSetup

/-! ## Rounding to an integer -/

theorem roundDiv_mul_right {c : Nat} (hc : 0 < c) (num den : Nat) :
    roundDiv (num * c) (den * c) = roundDiv num den := by
  have hless : ∀ a b : Nat, a * c < b * c ↔ a < b := fun a b => Nat.mul_lt_mul_right hc
  unfold roundDiv
  simp only [Nat.mul_div_mul_right _ _ hc, Nat.mul_mod_mul_right, ← Nat.mul_assoc, hless]

/-- Only the ratio counts. -/
theorem roundDiv_congr {num den u v : Nat} (hden : 0 < den) (hv : 0 < v)
    (h : num * v = u * den) : roundDiv num den = roundDiv u v := by
  rw [← roundDiv_mul_right hv, h, Nat.mul_comm den v, roundDiv_mul_right hden]

/-- A rounded ratio is at most a half away, and even if it is a half away. -/
theorem roundDiv_spec (num : Nat) {den : Nat} (h : 0 < den) :
    2 * (den * roundDiv num den) ≤ 2 * num + den ∧ 2 * num ≤ 2 * (den * roundDiv num den) + den ∧
      (2 * (den * roundDiv num den) = 2 * num + den ∨
        2 * num = 2 * (den * roundDiv num den) + den → roundDiv num den % 2 = 0) := by
  -- quotient and remainder; the remainder against the half decides
  have hsplit := Nat.div_add_mod num den
  have hless := Nat.mod_lt num h
  unfold roundDiv
  dsimp only
  split
  · omega
  split
  · rw [Nat.mul_add_one]
    omega
  split
  · omega
  · rw [Nat.mul_add_one]
    omega

namespace Dyadic

/-! ## Values -/

/-- The number as a rational. Two numbers with one value may differ in mantissa and exponent, and
nothing here depends on that. -/
def toRat (a : Dyadic) : ℚ := a.mantissa * 2 ^ a.exponent

theorem toRat_nonneg (a : Dyadic) : 0 ≤ a.toRat := by
  unfold toRat
  positivity

theorem ratio_pos (a : Dyadic) : 0 < a.ratio.2 := by
  unfold ratio
  split
  · exact Nat.one_pos
  · exact Nat.pow_pos (by decide)

theorem ratio_div (a : Dyadic) : (a.ratio.1 : ℚ) / a.ratio.2 = a.toRat := by
  unfold ratio toRat
  cases a.exponent with
  | ofNat k => simp
  | negSucc k => simp [zpow_negSucc, div_eq_mul_inv]

/-- Whether a number is whole is a question about its value. -/
theorem whole?_of_toRat {a : Dyadic} {n : Nat} (h : a.toRat = n) : a.whole? = some n := by
  have hpos := a.ratio_pos
  have hnum : a.ratio.1 = n * a.ratio.2 := by
    have hden : (a.ratio.2 : ℚ) ≠ 0 := by exact_mod_cast hpos.ne'
    have hdiv := (div_eq_iff hden).mp (a.ratio_div.trans h)
    exact_mod_cast hdiv
  unfold whole?
  dsimp only
  rw [hnum, Nat.mul_mod_left, if_pos rfl, Nat.mul_div_cancel _ hpos]

theorem toRat_of_whole? {a : Dyadic} {n : Nat} (h : a.whole? = some n) : a.toRat = n := by
  have hpos := a.ratio_pos
  unfold whole? at h
  dsimp only at h
  split at h
  · rename_i hmod
    have hdvd := Nat.dvd_of_mod_eq_zero hmod
    rw [← a.ratio_div, ← Option.some.inj h, Nat.cast_div hdvd (by exact_mod_cast hpos.ne')]
  · cases h

/-! ## Rounding -/

theorem scaled_pos (num : Nat) {den : Nat} (h : 0 < den) (q : Int) : 0 < (scaled num den q).2 := by
  cases q with
  | ofNat k => exact Nat.mul_pos h (Nat.pow_pos (by decide))
  | negSucc k => exact h

/-- Scaling moves the point and leaves the ratio. -/
theorem scaled_div (num den : Nat) (q : Int) :
    ((scaled num den q).1 : ℚ) / (scaled num den q).2 = num / den / 2 ^ q := by
  cases q with
  | ofNat k => simp [scaled, div_div]
  | negSucc k =>
      simp only [scaled, zpow_negSucc, Nat.pow_eq]
      push_cast
      field_simp

/-- The two logarithms give the exponent of the ratio up to one. -/
theorem ratio_bounds {num den : Nat} (hnum : 0 < num) (hden : 0 < den) :
    (2 : ℚ) ^ ((num.log2 : Int) - den.log2 - 1) < num / den ∧
      (num : ℚ) / den < 2 ^ ((num.log2 : Int) - den.log2 + 1) := by
  have hden' : (0 : ℚ) < den := by exact_mod_cast hden
  have hnumLo : (2 : ℚ) ^ (num.log2 : Int) ≤ num := by
    exact_mod_cast Nat.log2_self_le hnum.ne'
  have hnumHi : (num : ℚ) < 2 ^ ((num.log2 : Int) + 1) := by
    exact_mod_cast Nat.lt_log2_self
  have hdenLo : (2 : ℚ) ^ (den.log2 : Int) ≤ den := by
    exact_mod_cast Nat.log2_self_le hden.ne'
  have hdenHi : (den : ℚ) < 2 ^ ((den.log2 : Int) + 1) := by
    exact_mod_cast Nat.lt_log2_self
  constructor
  · rw [lt_div_iff₀ hden']
    calc (2 : ℚ) ^ ((num.log2 : Int) - den.log2 - 1) * den
        < 2 ^ ((num.log2 : Int) - den.log2 - 1) * 2 ^ ((den.log2 : Int) + 1) := by gcongr
      _ = 2 ^ (num.log2 : Int) := by
          rw [← zpow_add₀ two_ne_zero]
          congr 1
          ring
      _ ≤ num := hnumLo
  · rw [div_lt_iff₀ hden']
    calc (num : ℚ) < 2 ^ ((num.log2 : Int) + 1) := hnumHi
      _ = 2 ^ ((num.log2 : Int) - den.log2 + 1) * 2 ^ (den.log2 : Int) := by
          rw [← zpow_add₀ two_ne_zero]
          congr 1
          ring
      _ ≤ 2 ^ ((num.log2 : Int) - den.log2 + 1) * den := by gcongr

/-- The exponent is the one at which the ratio has 53 bits. -/
theorem exponentFor_eq {num den : Nat} {q : Int} (hden : 0 < den)
    (hlo : (2 : ℚ) ^ (52 + q) ≤ num / den) (hhi : (num : ℚ) / den < 2 ^ (53 + q))
    (hq : minExponent ≤ q) : exponentFor num den = q := by
  have hnum : 0 < num := by
    rcases Nat.eq_zero_or_pos num with rfl | hpos
    · have hpow : (0 : ℚ) < 2 ^ (52 + q) := by positivity
      rw [Nat.cast_zero, zero_div] at hlo
      exact absurd hlo (not_le.mpr hpow)
    · exact hpos
  obtain ⟨hbelow, habove⟩ := ratio_bounds hnum hden
  have hup := (zpow_lt_zpow_iff_right₀ (by norm_num : (1 : ℚ) < 2)).mp (hlo.trans_lt habove)
  have hdown := (zpow_lt_zpow_iff_right₀ (by norm_num : (1 : ℚ) < 2)).mp (hbelow.trans hhi)
  unfold exponentFor
  dsimp only
  generalize hguess : (num.log2 : Int) - den.log2 - 53 = guess
  -- the test on scaled numbers is one on the ratio
  have htest : (scaled num den guess).2 * 2 ^ 53 ≤ (scaled num den guess).1 ↔
      (2 : ℚ) ^ (53 + guess) ≤ num / den := by
    have hpos : (0 : ℚ) < (scaled num den guess).2 := by
      exact_mod_cast scaled_pos num hden guess
    rw [zpow_add₀ two_ne_zero, ← le_div_iff₀ (by positivity), ← scaled_div, le_div_iff₀ hpos,
      mul_comm]
    exact_mod_cast Iff.rfl
  -- the logarithms leave two exponents, and the test tells them apart
  rcases show q = guess ∨ q = guess + 1 by omega with rfl | rfl
  · rw [if_neg (mt htest.mp (not_le.mpr hhi)), max_eq_left hq]
  · have hreached : (2 : ℚ) ^ (53 + guess) ≤ num / den := by
      rwa [show 53 + guess = 52 + (guess + 1) by ring]
    rw [if_pos (htest.mpr hreached), max_eq_left hq]

/--
**A ratio with 53 bits above the point is rounded as an integer.**

Every rounding in reading a number is of this form, so all that is known about roundings follows
from `roundDiv_spec`. The condition on `q` leaves out the numbers below the normal ones.
-/
theorem toRat_ofRatio {num den u v : Nat} {q : Int} (hden : 0 < den)
    (hvalue : (num : ℚ) / den = u / v * 2 ^ q) (hlo : 2 ^ 52 * v ≤ u) (hhi : u < 2 ^ 53 * v)
    (hq : minExponent ≤ q) : (ofRatio num den).toRat = roundDiv u v * 2 ^ q := by
  have hv : 0 < v := by omega
  have hv' : (0 : ℚ) < v := by exact_mod_cast hv
  have hlo' : (2 : ℚ) ^ 52 ≤ u / v := by
    rw [le_div_iff₀ hv']
    exact_mod_cast hlo
  have hhi' : (u : ℚ) / v < 2 ^ 53 := by
    rw [div_lt_iff₀ hv']
    exact_mod_cast hhi
  have hexponent : exponentFor num den = q := by
    refine exponentFor_eq hden ?_ ?_ hq
    · rw [hvalue, zpow_add₀ two_ne_zero]
      gcongr
      exact_mod_cast hlo'
    · rw [hvalue, zpow_add₀ two_ne_zero]
      gcongr
      exact_mod_cast hhi'
  have hnum : num ≠ 0 := by
    rintro rfl
    have hpos : (0 : ℚ) < u / v * 2 ^ q := by
      have hu : (0 : ℚ) < u / v := lt_of_lt_of_le (by norm_num) hlo'
      positivity
    rw [← hvalue, Nat.cast_zero, zero_div] at hpos
    exact lt_irrefl _ hpos
  have hround : roundDiv (scaled num den q).1 (scaled num den q).2 = roundDiv u v := by
    have hpos := scaled_pos num hden q
    refine roundDiv_congr hpos hv ?_
    have hratio : ((scaled num den q).1 : ℚ) / (scaled num den q).2 = u / v := by
      rw [scaled_div, hvalue]
      field_simp
    have hcross := (div_eq_div_iff (by exact_mod_cast hpos.ne') hv'.ne').mp hratio
    exact_mod_cast hcross
  unfold ofRatio toRat
  rw [if_neg hnum, hexponent]
  dsimp only
  rw [hround]
  split
  · -- rounded up to the next power of two, the same value has another mantissa
    rename_i hcarry
    rw [hcarry]
    dsimp only
    rw [zpow_add₀ two_ne_zero]
    push_cast
    ring
  · rfl

theorem toRat_ofNat {n u v : Nat} {q : Int} (hvalue : (n : ℚ) = u / v * 2 ^ q)
    (hlo : 2 ^ 52 * v ≤ u) (hhi : u < 2 ^ 53 * v) (hq : minExponent ≤ q) :
    (ofNat n).toRat = roundDiv u v * 2 ^ q :=
  toRat_ofRatio Nat.one_pos (by rw [Nat.cast_one, div_one, hvalue]) hlo hhi hq

theorem mul_eq (a b : Dyadic) :
    a.mul b = ofRatio (a.ratio.1 * b.ratio.1) (a.ratio.2 * b.ratio.2) := rfl

theorem ratio_mul_div (a b : Dyadic) :
    ((a.ratio.1 * b.ratio.1 : Nat) : ℚ) / (a.ratio.2 * b.ratio.2 : Nat) = a.toRat * b.toRat := by
  rw [← a.ratio_div, ← b.ratio_div]
  push_cast
  exact (div_mul_div_comm _ _ _ _).symm

/-- A quotient is rounded once, from the exact ratio. -/
theorem toRat_div {a b : Dyadic} {u v : Nat} {q : Int} (hb : b.toRat ≠ 0)
    (hvalue : a.toRat / b.toRat = u / v * 2 ^ q) (hlo : 2 ^ 52 * v ≤ u) (hhi : u < 2 ^ 53 * v)
    (hq : minExponent ≤ q) : (a.div b).toRat = roundDiv u v * 2 ^ q := by
  have hnum : 0 < b.ratio.1 := by
    refine Nat.pos_of_ne_zero fun hzero => hb ?_
    rw [← b.ratio_div, hzero, Nat.cast_zero, zero_div]
  refine toRat_ofRatio (Nat.mul_pos a.ratio_pos hnum) ?_ hlo hhi hq
  rw [← hvalue, ← a.ratio_div, ← b.ratio_div]
  push_cast
  exact (div_div_div_eq _ _ _ _).symm

/-! ## How much rounding takes away -/

/-- A rational of at least one has an exponent at which it has 53 bits. -/
theorem exists_binade {x : ℚ} (h : 1 ≤ x) :
    ∃ q : Int, minExponent ≤ q ∧ (2 : ℚ) ^ 52 * 2 ^ q ≤ x ∧ x < 2 ^ 53 * 2 ^ q := by
  have hpos : 0 < x := lt_of_lt_of_le one_pos h
  refine ⟨Int.log 2 x - 52, ?_, ?_, ?_⟩
  · have hlog : 0 ≤ Int.log 2 x :=
      (Int.zpow_le_iff_le_log (by decide) hpos).mp (by simpa using h)
    unfold minExponent
    omega
  · have hle := Int.zpow_log_le_self (b := 2) (by decide) hpos
    rw [zpow_sub₀ two_ne_zero]
    push_cast at hle
    linarith
  · have hlt := Int.lt_zpow_succ_log_self (b := 2) (by decide) x
    rw [zpow_add₀ (by norm_num)] at hlt
    rw [zpow_sub₀ two_ne_zero]
    push_cast at hlt
    linarith

/-- Rounding takes little from a ratio of at least one. A coarse bound is enough: what follows only
has to tell large numbers from small ones. -/
theorem le_toRat_ofRatio {num den : Nat} (hden : 0 < den) (h : (1 : ℚ) ≤ num / den) :
    7 / 8 * ((num : ℚ) / den) ≤ (ofRatio num den).toRat := by
  obtain ⟨q, hq, hlo, hhi⟩ := exists_binade h
  generalize hu : (scaled num den q).1 = u
  generalize hv : (scaled num den q).2 = v
  have hvpos : 0 < v := hv ▸ scaled_pos num hden q
  have hvpos' : (0 : ℚ) < v := by exact_mod_cast hvpos
  have hratio : (u : ℚ) / v = num / den / 2 ^ q := by rw [← hu, ← hv, scaled_div]
  have hvalue : (num : ℚ) / den = u / v * 2 ^ q := by
    rw [hratio]
    field_simp
  have hlo' : 2 ^ 52 * v ≤ u := by
    have hle : (2 : ℚ) ^ 52 ≤ u / v := by
      rw [hratio, le_div_iff₀ (by positivity)]
      exact hlo
    exact_mod_cast (le_div_iff₀ hvpos').mp hle
  have hhi' : u < 2 ^ 53 * v := by
    have hlt : (u : ℚ) / v < 2 ^ 53 := by
      rw [hratio, div_lt_iff₀ (by positivity)]
      exact hhi
    exact_mod_cast (div_lt_iff₀ hvpos').mp hlt
  -- half a unit is little against `2 ^ 52` units
  have hclose : 7 * u ≤ 8 * (v * roundDiv u v) := by
    have hnear := (roundDiv_spec u hvpos).2.1
    omega
  have hclose' : (7 : ℚ) * u ≤ 8 * (v * roundDiv u v) := by exact_mod_cast hclose
  rw [toRat_ofRatio hden hvalue hlo' hhi' hq, hvalue, ← mul_assoc]
  refine mul_le_mul_of_nonneg_right ?_ (by positivity)
  rw [← mul_div_assoc, div_le_iff₀ hvpos']
  linarith

theorem le_toRat_ofNat {n : Nat} (h : 1 ≤ n) : 7 / 8 * (n : ℚ) ≤ (ofNat n).toRat := by
  have hone : (1 : ℚ) ≤ (n : ℚ) / (1 : Nat) := by
    rw [Nat.cast_one, div_one]
    exact_mod_cast h
  have hle := le_toRat_ofRatio Nat.one_pos hone
  rwa [Nat.cast_one, div_one] at hle

theorem le_toRat_mul {a b : Dyadic} (h : 1 ≤ a.toRat * b.toRat) :
    7 / 8 * (a.toRat * b.toRat) ≤ (a.mul b).toRat := by
  have hle := le_toRat_ofRatio (Nat.mul_pos a.ratio_pos b.ratio_pos)
    (h.trans_eq (ratio_mul_div a b).symm)
  rwa [ratio_mul_div] at hle

/-- With an exponent of zero or more a number is scaled by one product, if that is in range. -/
theorem ofDecimal_natCast {s : Nat} (hs : 0 < s) (k : Nat) :
    ofDecimal s k = if maxTenPower < k then none
      else if ((ofNat s).mul (ofNat (10 ^ k))).isFinite then some ((ofNat s).mul (ofNat (10 ^ k)))
      else none :=
  if_neg hs.ne'

/-- The three roundings of a scaled number together take less than a third. -/
theorem le_toRat_ofDecimal {s k : Nat} {a : Dyadic} (h : 2 ≤ s * 10 ^ k)
    (ha : ofDecimal s k = some a) : 2 / 3 * ((s * 10 ^ k : Nat) : ℚ) ≤ a.toRat := by
  have hs : 0 < s := by
    rcases Nat.eq_zero_or_pos s with rfl | hpos
    · rw [Nat.zero_mul] at h
      exact absurd h (by decide)
    · exact hpos
  have hsignificand := le_toRat_ofNat hs
  have hpower := le_toRat_ofNat (Nat.one_le_pow k 10 (by decide))
  -- two roundings before the product, a third after it
  have hproduct : 49 / 64 * ((s * 10 ^ k : Nat) : ℚ)
      ≤ (ofNat s).toRat * (ofNat (10 ^ k)).toRat := by
    have hmul := mul_le_mul hsignificand hpower (by positivity) (toRat_nonneg _)
    push_cast at hmul ⊢
    linarith
  have htwo : (2 : ℚ) ≤ ((s * 10 ^ k : Nat) : ℚ) := by exact_mod_cast h
  have hround := le_toRat_mul (le_trans (by linarith) hproduct)
  rw [ofDecimal_natCast hs] at ha
  split at ha
  · cases ha
  split at ha
  · rw [← Option.some.inj ha]
    linarith
  · cases ha

/-- A number that is not zero is not less than its unit. -/
theorem exponent_lt {a : Dyadic} {e : Int} (hpos : 0 < a.toRat) (h : a.toRat < 2 ^ e) :
    a.exponent < e := by
  have hmantissa : (1 : ℚ) ≤ a.mantissa := by
    rcases Nat.eq_zero_or_pos a.mantissa with hzero | hmantissa
    · rw [toRat, hzero, Nat.cast_zero, zero_mul] at hpos
      exact absurd hpos (lt_irrefl 0)
    · exact_mod_cast hmantissa
  have hunit : (2 : ℚ) ^ a.exponent ≤ a.toRat := le_mul_of_one_le_left (by positivity) hmantissa
  exact (zpow_lt_zpow_iff_right₀ (by norm_num)).mp (hunit.trans_lt h)

end Dyadic

end DeviceSetup
