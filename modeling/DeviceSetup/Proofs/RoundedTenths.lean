import Mathlib
import DeviceSetup.Proofs.Rounding

/-!
# Ten times a double, and a tenth of that

A number that is written with a fraction of zero is read as ten times that number, divided by
ten, each rounded to 53 bits. For a number of 53 bits the two roundings cancel unless ten times the
number has 57 bits: then four bits are lost, and what comes back is the next number above or
below where the first rounding was off by more than five units. The 53 leading bits tell
which numbers these are.
-/

namespace DeviceSetup.Dyadic

/-- The 53 leading bits of a number of at most 53 bits, with zeros behind. -/
def leading (n : Nat) : Nat :=
  n * 2 ^ 52 / 2 ^ n.log2

/-- Whether ten times a number, rounded and divided by ten, rounds to another number. The condition
is on the leading bits alone: so many that ten times the number has 57 bits, and such a remainder
that the first rounding is off by more than the second one can take back. -/
def Slips (n : Nat) : Prop :=
  2 ^ 55 ≤ 5 * leading n ∧ leading n % 8 ∈ [1, 4, 7]

instance (n : Nat) : Decidable (Slips n) :=
  inferInstanceAs (Decidable (_ ∧ _))

/-- A number of at most 53 bits with zeros behind. These are the numbers that a double holds
exactly. -/
def Has53Bits (n : Nat) : Prop :=
  ∃ m e : Nat, m < 2 ^ 53 ∧ n = m * 2 ^ e

/-! ## The leading bits -/

/-- No bit is lost when the leading bits are taken. -/
theorem leading_mul {n : Nat} (h : Has53Bits n) (hpos : 0 < n) :
    leading n * 2 ^ n.log2 = n * 2 ^ 52 := by
  obtain ⟨m, e, hm, heq⟩ := h
  refine Nat.div_mul_cancel ?_
  -- the exponent is at least that of the leading bit less 52
  have hexponent : n.log2 ≤ e + 52 := by
    by_contra hlt
    have hlow := Nat.log2_self_le hpos.ne'
    have hhigh : m * 2 ^ e < 2 ^ 53 * 2 ^ e := Nat.mul_lt_mul_of_pos_right hm (by positivity)
    rw [← Nat.pow_add] at hhigh
    have hpow : 2 ^ (53 + e) ≤ 2 ^ n.log2 := Nat.pow_le_pow_right (by decide) (by omega)
    omega
  calc 2 ^ n.log2 ∣ 2 ^ (e + 52) := Nat.pow_dvd_pow 2 hexponent
    _ ∣ n * 2 ^ 52 := by
        rw [heq, Nat.pow_add, Nat.mul_assoc]
        exact Nat.dvd_mul_left _ _

theorem le_leading {n : Nat} (hpos : 0 < n) : 2 ^ 52 ≤ leading n := by
  unfold leading
  rw [Nat.le_div_iff_mul_le (by positivity), Nat.mul_comm]
  exact Nat.mul_le_mul_right _ (Nat.log2_self_le hpos.ne')

theorem leading_lt (n : Nat) : leading n < 2 ^ 53 := by
  have hlt : n < 2 ^ (n.log2 + 1) := Nat.lt_log2_self
  unfold leading
  rw [Nat.div_lt_iff_lt_mul (by positivity)]
  rw [Nat.pow_succ] at hlt
  omega

/-- The exponent of the last of the 53 leading bits. -/
def unit (n : Nat) : Int :=
  n.log2 - 52

theorem minExponent_le_unit (n : Nat) : minExponent ≤ unit n := by
  unfold minExponent unit
  omega

/-- The number as its leading bits and the unit of the last of them. -/
theorem cast_eq_leading {n : Nat} (h : Has53Bits n) (hpos : 0 < n) :
    (n : ℚ) = leading n * 2 ^ unit n := by
  have hmul : (leading n : ℚ) * 2 ^ n.log2 = n * 2 ^ 52 := by exact_mod_cast leading_mul h hpos
  unfold unit
  rw [zpow_sub₀ two_ne_zero, zpow_natCast, ← mul_div_assoc, hmul]
  norm_num

/-- A ratio that is a number of at most 53 bits is not rounded, whatever the two numbers are that
it is the ratio of. -/
theorem toRat_ofRatio_of_has53Bits {num den n : Nat} (hden : 0 < den) (h : Has53Bits n)
    (hpos : 0 < n) (hvalue : (num : ℚ) / den = n) : (ofRatio num den).toRat = n := by
  have hleading : (n : ℚ) = (leading n : ℚ) / (1 : Nat) * 2 ^ unit n := by
    rw [Nat.cast_one, div_one]
    exact cast_eq_leading h hpos
  have hlo := le_leading hpos
  have hhi := leading_lt n
  -- an integer is its own rounding
  have hround : roundDiv (leading n) 1 = leading n := by
    obtain ⟨hbelow, habove, -⟩ := roundDiv_spec (leading n) Nat.one_pos
    omega
  rw [toRat_ofRatio hden (hvalue.trans hleading) (by omega) (by omega) (minExponent_le_unit n),
    hround]
  exact (cast_eq_leading h hpos).symm

/-- Nor is such a number that is taken as it is. -/
theorem ofDecimal_zero {n : Nat} (h : Has53Bits n) (hpos : 0 < n) (hword : n < 2 ^ 64) :
    ∃ a, ofDecimal n 0 = some a ∧ a.toRat = n := by
  have hn : (ofNat n).toRat = n :=
    toRat_ofRatio_of_has53Bits Nat.one_pos h hpos (by rw [Nat.cast_one, div_one])
  have hone : (ofNat (10 ^ 0)).toRat = 1 := by
    have hwhole := toRat_of_whole? (show (ofNat (10 ^ 0)).whole? = some 1 by decide)
    rwa [Nat.cast_one] at hwhole
  -- a number without an exponent is still multiplied, by one
  have hproduct : ((ofNat n).mul (ofNat (10 ^ 0))).toRat = n := by
    rw [mul_eq]
    refine toRat_ofRatio_of_has53Bits (Nat.mul_pos (ratio_pos _) (ratio_pos _)) h hpos ?_
    rw [ratio_mul_div, hn, hone, mul_one]
  have hrange : ((ofNat n).mul (ofNat (10 ^ 0))).isFinite = true := by
    have hpos' : (0 : ℚ) < n := by exact_mod_cast hpos
    have hword' : (n : ℚ) < 2 ^ (64 : Int) := by exact_mod_cast hword
    have hexponent := exponent_lt (hproduct ▸ hpos') (hproduct ▸ hword')
    refine decide_eq_true ?_
    unfold maxExponent
    omega
  have hdecimal := ofDecimal_natCast hpos 0
  rw [if_neg (by decide), if_pos hrange] at hdecimal
  exact ⟨_, hdecimal, hproduct⟩

/-! ## Ten times and back -/

/-- With 56 bits the two roundings cancel: three bits are lost, so the first one is off by at most
four, which is less than half a unit once it is divided by ten. -/
theorem roundDiv_quarter {m : Nat} (hlo : 2 ^ 52 ≤ m) (hhi : 5 * m < 2 ^ 55) :
    2 ^ 52 * 5 ≤ 4 * roundDiv (5 * m) 4 ∧ 4 * roundDiv (5 * m) 4 < 2 ^ 53 * 5 ∧
      roundDiv (4 * roundDiv (5 * m) 4) 5 = m := by
  obtain ⟨hbelow, habove, -⟩ := roundDiv_spec (5 * m) (show 0 < 4 by decide)
  generalize roundDiv (5 * m) 4 = r at hbelow habove
  obtain ⟨hbelow', habove', -⟩ := roundDiv_spec (4 * r) (show 0 < 5 by decide)
  omega

/-- With 57 bits they may be off by one. The first rounding is off by up to eight then, and the last
three bits of the number say by how much. -/
theorem roundDiv_eighth {m : Nat} (hlo : 2 ^ 55 ≤ 5 * m) (hhi : m < 2 ^ 53) :
    2 ^ 52 * 5 ≤ 8 * roundDiv (5 * m) 8 ∧ 8 * roundDiv (5 * m) 8 < 2 ^ 53 * 5 ∧
      (m % 8 ∈ [1, 4, 7] → roundDiv (8 * roundDiv (5 * m) 8) 5 = m + 1 ∨
        roundDiv (8 * roundDiv (5 * m) 8) 5 + 1 = m) ∧
      (m % 8 ∉ [1, 4, 7] → roundDiv (8 * roundDiv (5 * m) 8) 5 = m) := by
  obtain ⟨hbelow, habove, -⟩ := roundDiv_spec (5 * m) (show 0 < 8 by decide)
  generalize roundDiv (5 * m) 8 = r at hbelow habove
  obtain ⟨hbelow', habove', -⟩ := roundDiv_spec (8 * r) (show 0 < 5 by decide)
  generalize roundDiv (8 * r) 5 = back at hbelow' habove'
  simp only [List.mem_cons, List.not_mem_nil, or_false]
  -- the last three bits decide how far off the first rounding is
  obtain ⟨t, low, hlow, rfl⟩ : ∃ t low, low < 8 ∧ m = 8 * t + low :=
    ⟨m / 8, m % 8, Nat.mod_lt _ (by decide), (Nat.div_add_mod m 8).symm⟩
  refine ⟨by omega, by omega, ?_, ?_⟩
  · intro hslip
    interval_cases low <;> omega
  · intro hkept
    interval_cases low <;> omega

/-- One place behind the point takes one division by ten. -/
theorem ofDecimal_neg_one (s : Nat) : ofDecimal s (-1) = some ((ofNat s).div (ofNat 10)) := by
  have hpow : Nat.pow 10 1 = 10 := rfl
  have hstep : ofDecimal s (-1) = some (divTenPower 4 (ofNat s) 1) := rfl
  rw [hstep, divTenPower, if_pos (by decide), hpow]

theorem toRat_ten : (ofNat 10).toRat = 10 :=
  toRat_of_whole? (by decide)

/-- The two roundings, where the first one loses the bits below `2 * v`. -/
theorem toRat_tenth_of_scale {n m v k : Nat} {q : Int} (hvalue : (n : ℚ) = m * 2 ^ q)
    (hq : minExponent ≤ q) (hv : 2 ^ k = 2 * v) (hlo : 2 ^ 52 * v ≤ 5 * m)
    (hhi : 5 * m < 2 ^ 53 * v) (hlo' : 2 ^ 52 * 5 ≤ v * roundDiv (5 * m) v)
    (hhi' : v * roundDiv (5 * m) v < 2 ^ 53 * 5) :
    ((ofNat (10 * n)).div (ofNat 10)).toRat = roundDiv (v * roundDiv (5 * m) v) 5 * 2 ^ q := by
  have hv' : (2 : ℚ) ^ (k : Int) = 2 * v := by exact_mod_cast hv
  have hpos : (v : ℚ) ≠ 0 := by
    intro hzero
    rw [hzero, mul_zero] at hv'
    exact absurd hv' (by positivity)
  -- the first rounding, at the unit of ten times the number
  have hten : (ofNat (10 * n)).toRat = roundDiv (5 * m) v * 2 ^ (q + k) := by
    refine toRat_ofNat ?_ hlo hhi (by omega)
    rw [zpow_add₀ two_ne_zero, hv']
    push_cast
    rw [hvalue]
    field_simp
    ring
  -- and the second, back at the unit of the number
  refine toRat_div (by rw [toRat_ten]; norm_num) ?_ hlo' hhi' hq
  rw [hten, toRat_ten, zpow_add₀ two_ne_zero, hv']
  push_cast
  ring

/--
**Ten times a number, divided by ten, is that number unless it slips by one unit.**

So a whole number written as `n.0` is read as `n` or as a neighbour of it among the doubles, and
`Slips` decides which.
-/
theorem toRat_tenth {n : Nat} (h : Has53Bits n) (hpos : 0 < n) :
    ∃ r : Nat, ((ofNat (10 * n)).div (ofNat 10)).toRat = r * 2 ^ unit n ∧
      (Slips n → r = leading n + 1 ∨ r + 1 = leading n) ∧ (¬ Slips n → r = leading n) := by
  have hvalue := cast_eq_leading h hpos
  have hunit := minExponent_le_unit n
  have hlo := le_leading hpos
  have hhi := leading_lt n
  -- ten times the number has 57 bits or 56
  by_cases hbits : 2 ^ 55 ≤ 5 * leading n
  · obtain ⟨hlo', hhi', hslips, hkept⟩ := roundDiv_eighth hbits hhi
    exact ⟨_, toRat_tenth_of_scale hvalue hunit (show 2 ^ 4 = 2 * 8 by decide) (by omega) (by omega)
      hlo' hhi', fun h => hslips h.2, fun h => hkept fun hlow => h ⟨hbits, hlow⟩⟩
  · obtain ⟨hlo', hhi', hkept⟩ := roundDiv_quarter hlo (by omega)
    exact ⟨_, toRat_tenth_of_scale hvalue hunit (show 2 ^ 3 = 2 * 4 by decide) (by omega) (by omega)
      hlo' hhi', fun h => absurd h.1 hbits, fun _ => hkept⟩

theorem toRat_tenth_of_not_slips {n : Nat} (h : Has53Bits n) (hkept : ¬ Slips n) :
    ((ofNat (10 * n)).div (ofNat 10)).toRat = n := by
  rcases Nat.eq_zero_or_pos n with rfl | hpos
  · exact toRat_of_whole? (by decide +kernel)
  · obtain ⟨r, hvalue, -, hr⟩ := toRat_tenth h hpos
    rw [hvalue, hr hkept]
    exact (cast_eq_leading h hpos).symm

theorem pos_of_slips {n : Nat} (h : Slips n) : 0 < n := by
  refine Nat.pos_of_ne_zero ?_
  rintro rfl
  exact absurd h (by decide)

/-- A number with 53 bits above the point slips to a neighbour, which is an integer again: it is
read as another number than was written. -/
theorem toRat_tenth_of_slips {n : Nat} (h : Has53Bits n) (hlarge : 2 ^ 52 ≤ n) (hslips : Slips n) :
    ∃ n' : Nat, ((ofNat (10 * n)).div (ofNat 10)).toRat = n' ∧
      (n' = n + 2 ^ (n.log2 - 52) ∨ n' + 2 ^ (n.log2 - 52) = n) := by
  have hpos : 0 < n := pos_of_slips hslips
  have hlog : 52 ≤ n.log2 := (Nat.le_log2 hpos.ne').mpr hlarge
  have hunit : unit n = (n.log2 - 52 : Nat) := by
    unfold unit
    omega
  obtain ⟨r, hvalue, hr, -⟩ := toRat_tenth h hpos
  have hn : n = leading n * 2 ^ (n.log2 - 52) := by
    have hcast := cast_eq_leading h hpos
    rw [hunit, zpow_natCast] at hcast
    exact_mod_cast hcast
  refine ⟨r * 2 ^ (n.log2 - 52), ?_, ?_⟩
  · rw [hvalue, hunit, zpow_natCast]
    push_cast
    rfl
  · rcases hr hslips with hr | hr
    · left
      rw [hr, Nat.add_one_mul, ← hn]
    · right
      rw [← Nat.add_one_mul, hr, ← hn]

/-- A number with fewer bits above the point slips off the integers, so that what comes of it is no
integer at all. -/
theorem toRat_tenth_ne_of_slips {n : Nat} (h : Has53Bits n) (hsmall : n < 2 ^ 52)
    (hslips : Slips n) (k : Nat) : ((ofNat (10 * n)).div (ofNat 10)).toRat ≠ k := by
  have hpos : 0 < n := pos_of_slips hslips
  have hlog : n.log2 < 52 := (Nat.log2_lt hpos.ne').mpr hsmall
  -- an integer has at least one zero behind its leading bits, and `2 ^ unit n` is at most a half
  have heven : ∀ {r j : Nat}, (j : ℚ) = r * 2 ^ unit n → r % 2 = 0 := by
    intro r j hj
    have hpow : (2 : ℚ) ^ unit n * 2 ^ (52 - n.log2) = 1 := by
      rw [← zpow_natCast, ← zpow_add₀ two_ne_zero, show unit n + (52 - n.log2 : Nat) = 0 by
        unfold unit; omega, zpow_zero]
    have hr : r = j * 2 ^ (52 - n.log2) := by
      have hcast : (r : ℚ) = j * 2 ^ (52 - n.log2) := by rw [hj, mul_assoc, hpow, mul_one]
      exact_mod_cast hcast
    rw [hr, show 52 - n.log2 = (51 - n.log2) + 1 by omega, Nat.pow_succ, ← Nat.mul_assoc]
    exact Nat.mul_mod_left _ _
  obtain ⟨r, hvalue, hr, -⟩ := toRat_tenth h hpos
  intro hk
  have hrEven := heven (hk.symm.trans hvalue)
  have hleading := heven (cast_eq_leading h hpos)
  rcases hr hslips with hr | hr <;> omega

end DeviceSetup.Dyadic
