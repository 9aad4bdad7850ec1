import Mathlib.Algebra.Order.Field.Power
import Mathlib.Data.Rat.Cast.Order
import Mathlib.Tactic.FieldSimp
import Mathlib.Tactic.Linarith
import Mathlib.Tactic.Positivity
import Mathlib.Tactic.Ring
import RuleAtlas.Binary64.Decimal

/-! # Rounding to double precision

What the rounding functions compute, said of rational numbers.  `Near` are the rationals that
lie nearest to a positive double; every fraction with such a value is rounded to that double,
and every fraction is rounded to a number in the one way of the format. -/

namespace RuleAtlas.Binary64

/-! ## Fractions and powers of two -/

theorem two_zpow_pos (k : ℤ) : (0 : ℚ) < 2 ^ k := zpow_pos (by norm_num) k

theorem two_zpow_add (j k : ℤ) : (2 : ℚ) ^ (j + k) = 2 ^ j * 2 ^ k :=
  zpow_add₀ (by norm_num) j k

/-- A power of two with a natural part of the exponent taken out. -/
theorem two_zpow_add_natCast (k : ℤ) (n : ℕ) : (2 : ℚ) ^ (k + n) = (2 ^ n : ℕ) * 2 ^ k := by
  rw [two_zpow_add, zpow_natCast, mul_comm]
  push_cast
  rfl

/-- A power of two in quarters of another one. -/
theorem two_zpow_quarters (k : ℤ) (n : ℕ) :
    (2 : ℚ) ^ (k + n) = (2 ^ (n + 2) : ℕ) * 2 ^ (k - 2) := by
  rw [← two_zpow_add_natCast]
  congr 1
  push_cast
  ring

theorem two_zpow_four_quarters (k : ℤ) : (2 : ℚ) ^ k = 4 * 2 ^ (k - 2) := by
  have quarters := two_zpow_quarters k 0
  norm_num at quarters
  exact quarters

theorem two_zpow_mono {j k : ℤ} (h : j ≤ k) : (2 : ℚ) ^ j ≤ 2 ^ k :=
  zpow_le_zpow_right₀ (by norm_num) h

/-- Powers of two are compared by their exponents. -/
theorem two_zpow_lt_iff {j k : ℤ} : (2 : ℚ) ^ j < 2 ^ k ↔ j < k :=
  zpow_lt_zpow_iff_right₀ (by norm_num)

theorem normalSignificand_eq : normalSignificand = 2 ^ 52 := rfl

/-- Scaling a fraction down divides its value by the power of two. -/
theorem scaleDown_spec (num : ℕ) {den : ℕ} (positive : 0 < den) (exponent : ℤ) :
    0 < (scaleDown num den exponent).2 ∧
      ((scaleDown num den exponent).1 : ℚ) / (scaleDown num den exponent).2 =
        (num : ℚ) / den / 2 ^ exponent := by
  have denNonzero : (den : ℚ) ≠ 0 := by positivity
  cases exponent with
  | ofNat k =>
    refine ⟨Nat.mul_pos positive (Nat.two_pow_pos k), ?_⟩
    simp only [scaleDown, Nat.pow_eq, Int.ofNat_eq_natCast, zpow_natCast]
    push_cast
    rw [div_div]
  | negSucc k =>
    refine ⟨positive, ?_⟩
    simp only [scaleDown, Nat.pow_eq, zpow_negSucc]
    push_cast
    field_simp

/-- The binary logarithm of a positive fraction is rounded down. -/
theorem floorLog2_spec {num den : ℕ} (numPositive : 0 < num) (denPositive : 0 < den) :
    (2 : ℚ) ^ floorLog2 num den ≤ (num : ℚ) / den ∧
      (num : ℚ) / den < 2 ^ (floorLog2 num den + 1) := by
  have denCast : (0 : ℚ) < den := by exact_mod_cast denPositive
  have numLow : (2 : ℚ) ^ (num.log2 : ℤ) ≤ num := by
    exact_mod_cast Nat.log2_self_le numPositive.ne'
  have numHigh : (num : ℚ) < 2 ^ ((num.log2 : ℤ) + 1) := by
    exact_mod_cast Nat.lt_log2_self (n := num)
  have denLow : (2 : ℚ) ^ (den.log2 : ℤ) ≤ den := by
    exact_mod_cast Nat.log2_self_le denPositive.ne'
  have denHigh : (den : ℚ) < 2 ^ ((den.log2 : ℤ) + 1) := by
    exact_mod_cast Nat.lt_log2_self (n := den)
  -- The difference of the logarithms is right, or one too large.
  generalize guessed : (num.log2 : ℤ) - den.log2 = guess
  have numExponent : (num.log2 : ℤ) = guess + den.log2 := by omega
  have guessLow : (2 : ℚ) ^ (guess - 1) ≤ (num : ℚ) / den := by
    rw [le_div_iff₀ denCast]
    calc (2 : ℚ) ^ (guess - 1) * den
        ≤ 2 ^ (guess - 1) * 2 ^ ((den.log2 : ℤ) + 1) :=
          mul_le_mul_of_nonneg_left denHigh.le (two_zpow_pos _).le
      _ = 2 ^ (num.log2 : ℤ) := by rw [← two_zpow_add]; congr 1; omega
      _ ≤ num := numLow
  have guessHigh : (num : ℚ) / den < 2 ^ (guess + 1) := by
    rw [div_lt_iff₀ denCast]
    calc (num : ℚ) < 2 ^ ((num.log2 : ℤ) + 1) := numHigh
      _ = 2 ^ (guess + 1) * 2 ^ (den.log2 : ℤ) := by rw [← two_zpow_add]; congr 1; omega
      _ ≤ 2 ^ (guess + 1) * den := mul_le_mul_of_nonneg_left denLow (two_zpow_pos _).le
  obtain ⟨scaledPositive, scaledValue⟩ := scaleDown_spec num denPositive guess
  have scaledCast : (0 : ℚ) < (scaleDown num den guess).2 := by exact_mod_cast scaledPositive
  have below : (scaleDown num den guess).1 < (scaleDown num den guess).2 ↔
      (num : ℚ) / den < 2 ^ guess := by
    rw [← Nat.cast_lt (α := ℚ), ← div_lt_one scaledCast, scaledValue, div_lt_one (two_zpow_pos _)]
  have unfolded : floorLog2 num den =
      if (scaleDown num den guess).1 < (scaleDown num den guess).2 then guess - 1 else guess := by
    unfold floorLog2
    rw [guessed]
  rw [unfolded]
  split
  · rename_i small
    refine ⟨guessLow, ?_⟩
    rw [sub_add_cancel]
    exact below.1 small
  · rename_i large
    exact ⟨not_lt.1 fun small => large (below.2 small), guessHigh⟩

/-- A power of two below a fraction and one above it bound its logarithm. -/
theorem floorLog2_eq {num den : ℕ} (numPositive : 0 < num) (denPositive : 0 < den) {k : ℤ}
    (low : (2 : ℚ) ^ k ≤ (num : ℚ) / den) (high : (num : ℚ) / den < 2 ^ (k + 1)) :
    floorLog2 num den = k := by
  obtain ⟨logLow, logHigh⟩ := floorLog2_spec numPositive denPositive
  have atMost := two_zpow_lt_iff.1 (lt_of_le_of_lt low logHigh)
  have atLeast := two_zpow_lt_iff.1 (lt_of_le_of_lt logLow high)
  omega

/-! ## Quotients -/

/-- The rounded quotient is the quotient rounded down or the number after it. -/
theorem roundDiv_bounds (num den : ℕ) :
    num / den ≤ roundDiv num den ∧ roundDiv num den ≤ num / den + 1 := by
  unfold roundDiv
  simp only
  split
  · omega
  · split
    · omega
    · split <;> omega

/-- A number not further than one half from a quotient is what the quotient is rounded to; at
exactly one half it has to be even. -/
theorem roundDiv_eq {num den nearest : ℕ} (positive : 0 < den)
    (low : 2 * (nearest * den) ≤ 2 * num + den) (high : 2 * num ≤ 2 * (nearest * den) + den)
    (tie : nearest % 2 = 0 ∨
      (2 * (nearest * den) < 2 * num + den ∧ 2 * num < 2 * (nearest * den) + den)) :
    roundDiv num den = nearest := by
  have division := Nat.div_add_mod num den
  have remainder := Nat.mod_lt num positive
  have product : nearest * den = den * nearest := Nat.mul_comm ..
  rw [product] at low high tie
  unfold roundDiv
  generalize num / den = quotient at *
  generalize num % den = rest at *
  rcases Nat.lt_trichotomy quotient nearest with less | rfl | more
  · -- Only the number after the quotient is near enough.
    have next : quotient + 1 = nearest := by
      by_contra far
      have gap : den * (quotient + 2) ≤ den * nearest := Nat.mul_le_mul_left _ (by omega)
      rw [Nat.mul_add] at gap
      omega
    subst next
    rw [Nat.mul_add] at low high tie
    simp only
    split
    · omega
    · split
      · rfl
      · split <;> omega
  · simp only
    split
    · rfl
    · split
      · omega
      · split <;> omega
  · have gap : den * (nearest + 1) ≤ den * quotient := Nat.mul_le_mul_left _ (by omega)
    rw [Nat.mul_add] at gap
    omega

/-- A quotient is rounded to a natural number not further than one half from it. -/
theorem roundDiv_of_near {num den : ℕ} (nearest : ℕ) (positive : 0 < den)
    (low : (2 * nearest - 1 : ℚ) ≤ 2 * ((num : ℚ) / den))
    (high : 2 * ((num : ℚ) / den) ≤ 2 * nearest + 1)
    (tie : nearest % 2 = 0 ∨
      ((2 * nearest - 1 : ℚ) < 2 * ((num : ℚ) / den) ∧ 2 * ((num : ℚ) / den) < 2 * nearest + 1)) :
    roundDiv num den = nearest := by
  have cast : (0 : ℚ) < den := by exact_mod_cast positive
  have scaled : (num : ℚ) / den * den = num := div_mul_cancel₀ _ cast.ne'
  generalize (num : ℚ) / den = value at *
  apply roundDiv_eq positive
  · have product := mul_le_mul_of_nonneg_right low cast.le
    have real : (2 * (nearest * den) : ℚ) ≤ 2 * num + den := by linarith
    exact_mod_cast real
  · have product := mul_le_mul_of_nonneg_right high cast.le
    have real : (2 * num : ℚ) ≤ 2 * (nearest * den) + den := by linarith
    exact_mod_cast real
  · refine tie.imp_right fun strict => ⟨?_, ?_⟩
    · have product := mul_lt_mul_of_pos_right strict.1 cast
      have real : (2 * (nearest * den) : ℚ) < 2 * num + den := by linarith
      exact_mod_cast real
    · have product := mul_lt_mul_of_pos_right strict.2 cast
      have real : (2 * num : ℚ) < 2 * (nearest * den) + den := by linarith
      exact_mod_cast real

/-- A quotient is not further than one half from what it is rounded to; at exactly one half this
is even. -/
theorem near_roundDiv (num : ℕ) {den : ℕ} (positive : 0 < den) :
    (2 * roundDiv num den - 1 : ℚ) ≤ 2 * ((num : ℚ) / den) ∧
      2 * ((num : ℚ) / den) ≤ 2 * roundDiv num den + 1 ∧
      (roundDiv num den % 2 = 0 ∨ ((2 * roundDiv num den - 1 : ℚ) < 2 * ((num : ℚ) / den) ∧
        2 * ((num : ℚ) / den) < 2 * roundDiv num den + 1)) := by
  have cast : (0 : ℚ) < den := by exact_mod_cast positive
  have division := Nat.div_add_mod num den
  have remainder := Nat.mod_lt num positive
  have scaled : (num : ℚ) / den = (num / den : ℕ) + ((num % den : ℕ) : ℚ) / den := by
    rw [div_eq_iff cast.ne', add_mul, div_mul_cancel₀ _ cast.ne', mul_comm]
    exact_mod_cast division.symm
  have notNegative : (0 : ℚ) ≤ ((num % den : ℕ) : ℚ) / den := by positivity
  have part : ((num % den : ℕ) : ℚ) / den < 1 := by
    rw [div_lt_one cast]
    exact_mod_cast remainder
  -- The remainder and half of the divisor are compared without a division.
  have half : 2 * (num % den) < den ↔ 2 * (((num % den : ℕ) : ℚ) / den) < 1 := by
    rw [mul_div_assoc', div_lt_one cast]
    norm_cast
  have half' : den < 2 * (num % den) ↔ 1 < 2 * (((num % den : ℕ) : ℚ) / den) := by
    rw [mul_div_assoc', one_lt_div cast]
    norm_cast
  unfold roundDiv
  rw [scaled]
  generalize num / den = quotient at *
  generalize ((num % den : ℕ) : ℚ) / den = rest at *
  simp only [half, half']
  split
  · refine ⟨by linarith, by linarith, .inr ⟨by linarith, by linarith⟩⟩
  · split
    · push_cast
      refine ⟨by linarith, by linarith, .inr ⟨by linarith, by linarith⟩⟩
    · split
      · rename_i even
        exact ⟨by linarith, by linarith, .inl even⟩
      · push_cast
        exact ⟨by linarith, by linarith, .inl (by omega)⟩

/-! ## Fractions -/

/-- The exponent and the significand that a positive fraction is rounded to, before a carry. -/
theorem ofRatio_def (negative : Bool) {num den : ℕ} (positive : 0 < num) {exponent : ℤ}
    (chosen : max minExponent (floorLog2 num den - 52) = exponent) {significand : ℕ}
    (rounded : roundDiv (scaleDown num den exponent).1 (scaleDown num den exponent).2 =
      significand) :
    ofRatio negative num den =
      if significand = 2 * normalSignificand then
        if maxExponent < exponent + 1 then .infinity negative
        else .finite negative normalSignificand (exponent + 1)
      else if maxExponent < exponent then .infinity negative
      else .finite negative significand exponent := by
  unfold ofRatio
  rw [if_neg positive.ne']
  simp only [chosen, rounded]
  split <;> simp

/-- A fraction scaled by the exponent it gets is below `2 ^ 53`, and above the least exponent
it is not below `2 ^ 52`. -/
theorem scaled_bounds {num den : ℕ} (numPositive : 0 < num) (denPositive : 0 < den) {exponent : ℤ}
    (chosen : max minExponent (floorLog2 num den - 52) = exponent) :
    (scaleDown num den exponent).1 / (scaleDown num den exponent).2 < 2 * normalSignificand ∧
      (exponent = minExponent ∨
        normalSignificand ≤ (scaleDown num den exponent).1 / (scaleDown num den exponent).2) := by
  obtain ⟨logLow, logHigh⟩ := floorLog2_spec numPositive denPositive
  obtain ⟨scaledPositive, scaledValue⟩ := scaleDown_spec num denPositive exponent
  have scaledCast : (0 : ℚ) < (scaleDown num den exponent).2 := by exact_mod_cast scaledPositive
  have unitPositive := two_zpow_pos exponent
  -- Above by the choice of the exponent; below only where the exponent was not raised to the
  -- least one.
  constructor
  · rw [Nat.div_lt_iff_lt_mul scaledPositive, ← Nat.cast_lt (α := ℚ), Nat.cast_mul,
      ← div_lt_iff₀ scaledCast, scaledValue, div_lt_iff₀ unitPositive]
    calc (num : ℚ) / den < 2 ^ (floorLog2 num den + 1) := logHigh
      _ ≤ 2 ^ (53 + exponent) := two_zpow_mono (by omega)
      _ = (2 * normalSignificand : ℕ) * 2 ^ exponent := by
        rw [two_zpow_add]
        norm_num [normalSignificand_eq]
  · by_cases least : exponent = minExponent
    · exact .inl least
    · right
      rw [Nat.le_div_iff_mul_le scaledPositive, ← Nat.cast_le (α := ℚ), Nat.cast_mul,
        ← le_div_iff₀ scaledCast, scaledValue, le_div_iff₀ unitPositive]
      calc ((normalSignificand : ℕ) : ℚ) * 2 ^ exponent = 2 ^ (52 + exponent) := by
            rw [two_zpow_add]
            norm_num [normalSignificand_eq]
        _ ≤ 2 ^ floorLog2 num den := two_zpow_mono (by omega)
        _ ≤ (num : ℚ) / den := logLow

/-- Rounding gives numbers in the one way of the format. -/
theorem canonical_ofRatio (negative : Bool) (num : ℕ) {den : ℕ} (positive : 0 < den) :
    Canonical (ofRatio negative num den) := by
  rcases Nat.eq_zero_or_pos num with rfl | numPositive
  · simp [ofRatio, zero, Canonical, normalSignificand_eq, minExponent, maxExponent]
  generalize chosen : max minExponent (floorLog2 num den - 52) = exponent
  generalize rounded :
    roundDiv (scaleDown num den exponent).1 (scaleDown num den exponent).2 = significand
  obtain ⟨quotientSmall, quotientLarge⟩ := scaled_bounds numPositive positive chosen
  have bounds := roundDiv_bounds (scaleDown num den exponent).1 (scaleDown num den exponent).2
  rw [rounded] at bounds
  have least : minExponent ≤ exponent := by omega
  rw [ofRatio_def negative numPositive chosen rounded]
  -- Either the significand is carried to the next power of two, or it keeps to its bounds.
  split
  · split
    · trivial
    · refine ⟨?_, ?_, ?_, .inl le_rfl⟩ <;> first | omega | (rw [normalSignificand_eq]; omega)
  · split
    · trivial
    · refine ⟨?_, least, ?_, ?_⟩ <;> omega

/-! ## The numbers that round to a double -/

/-- How far the rationals that round to a positive double go down, in quarters of its last
place: the lower neighbour of a power of two is nearer. -/
def gapBelow (significand : ℕ) (exponent : ℤ) : ℕ :=
  if significand = normalSignificand ∧ minExponent < exponent then 1 else 2

/-- The rational lies between the halves of the way from `significand * 2 ^ exponent` to its
neighbours.  The halves themselves belong to it when the significand is even. -/
structure Near (significand : ℕ) (exponent : ℤ) (value : ℚ) : Prop where
  low : (4 * significand - gapBelow significand exponent : ℚ) * 2 ^ (exponent - 2) ≤ value
  high : value ≤ (4 * significand + 2 : ℚ) * 2 ^ (exponent - 2)
  tie : significand % 2 = 0 ∨
    ((4 * significand - gapBelow significand exponent : ℚ) * 2 ^ (exponent - 2) < value ∧
      value < (4 * significand + 2 : ℚ) * 2 ^ (exponent - 2))

theorem gapBelow_pos (significand : ℕ) (exponent : ℤ) : 0 < gapBelow significand exponent := by
  unfold gapBelow
  split <;> omega

theorem gapBelow_le (significand : ℕ) (exponent : ℤ) : gapBelow significand exponent ≤ 2 := by
  unfold gapBelow
  split <;> omega

namespace Near

variable {significand : ℕ} {exponent : ℤ} {value : ℚ}

/-- A rational near a positive double is positive. -/
theorem pos (near : Near significand exponent value) (positive : 0 < significand) : 0 < value := by
  have gap : (gapBelow significand exponent : ℚ) ≤ 2 := by
    exact_mod_cast gapBelow_le significand exponent
  have least : (1 : ℚ) ≤ significand := by exact_mod_cast positive
  have factor : (0 : ℚ) < 4 * significand - gapBelow significand exponent := by linarith
  exact lt_of_lt_of_le (mul_pos factor (two_zpow_pos _)) near.low

/-- In units of the last place a rational near a double is not further than one half from the
significand. -/
theorem units (near : Near significand exponent value) :
    (2 * significand - 1 : ℚ) ≤ 2 * (value / 2 ^ exponent) ∧
      2 * (value / 2 ^ exponent) ≤ 2 * significand + 1 ∧
      (significand % 2 = 0 ∨ ((2 * significand - 1 : ℚ) < 2 * (value / 2 ^ exponent) ∧
        2 * (value / 2 ^ exponent) < 2 * significand + 1)) := by
  have gap : (gapBelow significand exponent : ℚ) ≤ 2 := by
    exact_mod_cast gapBelow_le significand exponent
  have unit := two_zpow_pos exponent
  have quarter : (2 : ℚ) ^ (exponent - 2) = 2 ^ exponent / 4 := by
    rw [two_zpow_four_quarters exponent, mul_div_cancel_left₀ _ four_ne_zero]
  obtain ⟨low, high, tie⟩ := near
  rw [quarter] at low high tie
  -- Everything is divided by the unit in the last place.
  have scaled : value / 2 ^ exponent * 2 ^ exponent = value := div_mul_cancel₀ _ unit.ne'
  generalize value / 2 ^ exponent = quotient at *
  subst scaled
  have divided : ∀ a : ℚ, a * (2 ^ exponent / 4) = a / 4 * 2 ^ exponent := by intros; ring
  simp only [divided] at low high tie
  have low := le_of_mul_le_mul_right low unit
  have high := le_of_mul_le_mul_right high unit
  refine ⟨by linarith, by linarith, tie.imp_right fun strict => ?_⟩
  have below := lt_of_mul_lt_mul_right strict.1 unit.le
  have above := lt_of_mul_lt_mul_right strict.2 unit.le
  exact ⟨by linarith, by linarith⟩

/-- A rational near a double of the format is below the next power of two. -/
theorem lt_two_zpow (near : Near significand exponent value)
    (bounded : significand < 2 * normalSignificand) : value < 2 ^ (exponent + 53) := by
  have factor : (4 * significand + 2 : ℚ) < 2 ^ 55 := by
    have largest : 4 * significand + 2 < 2 ^ 55 := by rw [normalSignificand_eq] at bounded; omega
    exact_mod_cast largest
  calc value ≤ (4 * significand + 2 : ℚ) * 2 ^ (exponent - 2) := near.high
    _ < 2 ^ 55 * 2 ^ (exponent - 2) := mul_lt_mul_of_pos_right factor (two_zpow_pos _)
    _ = 2 ^ (exponent + 53) := by
      rw [show (53 : ℤ) = (53 : ℕ) from rfl, two_zpow_quarters]
      norm_num

/-- Only the significand of a power of two is near rationals below the power. -/
theorem eq_normalSignificand (near : Near significand exponent value)
    (below : value < 2 ^ (exponent + 52)) (normal : normalSignificand ≤ significand) :
    significand = normalSignificand := by
  have gap := gapBelow_le significand exponent
  have strict := lt_of_le_of_lt near.low below
  rw [show (52 : ℤ) = (52 : ℕ) from rfl, two_zpow_quarters] at strict
  have factor := lt_of_mul_lt_mul_right strict (two_zpow_pos _).le
  have real : (4 * significand : ℚ) < (2 ^ 54 : ℕ) + gapBelow significand exponent := by linarith
  have natural : 4 * significand < 2 ^ 54 + gapBelow significand exponent := by
    exact_mod_cast real
  rw [normalSignificand_eq] at normal ⊢
  omega

/-- Below a power of two only a quarter of the last place is near. -/
theorem low_of_power (near : Near normalSignificand exponent value)
    (notLeast : minExponent < exponent) :
    ((2 ^ 54 : ℕ) - 1 : ℚ) * 2 ^ (exponent - 2) ≤ value := by
  have nearer : gapBelow normalSignificand exponent = 1 := by
    unfold gapBelow
    rw [if_pos ⟨rfl, notLeast⟩]
  have bound := near.low
  rw [nearer] at bound
  norm_num [normalSignificand_eq] at bound ⊢
  exact bound

/-- What is not further than half a unit in the last place from a double is near it; below a
power of two a quarter is the limit. -/
theorem of_units (low : (2 * significand - 1 : ℚ) ≤ 2 * (value / 2 ^ exponent))
    (high : 2 * (value / 2 ^ exponent) ≤ 2 * significand + 1)
    (tie : significand % 2 = 0 ∨ ((2 * significand - 1 : ℚ) < 2 * (value / 2 ^ exponent) ∧
      2 * (value / 2 ^ exponent) < 2 * significand + 1))
    (power : gapBelow significand exponent = 1 →
      (4 * significand - 1 : ℚ) ≤ 4 * (value / 2 ^ exponent)) :
    Near significand exponent value := by
  have unit := two_zpow_pos (exponent - 2)
  have scaled : value = 4 * (value / 2 ^ exponent) * 2 ^ (exponent - 2) := by
    have quarters := div_mul_cancel₀ value (two_zpow_pos exponent).ne'
    rw [two_zpow_four_quarters] at quarters ⊢
    linarith
  have gap : gapBelow significand exponent = 1 ∧ significand % 2 = 0 ∨
      gapBelow significand exponent = 2 := by
    unfold gapBelow
    split
    · rename_i here
      exact .inl ⟨rfl, by rw [here.1]; rfl⟩
    · exact .inr rfl
  -- From here on everything is counted in quarters of a unit.
  rw [scaled]
  generalize value / 2 ^ exponent = quotient at *
  have upper : 4 * quotient ≤ 4 * significand + 2 := by linarith
  rcases gap with ⟨quarter, even⟩ | half
  · have lower := power quarter
    refine ⟨?_, mul_le_mul_of_nonneg_right upper unit.le, .inl even⟩
    rw [quarter, Nat.cast_one]
    exact mul_le_mul_of_nonneg_right lower unit.le
  · have lower : (4 * significand - 2 : ℚ) ≤ 4 * quotient := by linarith
    refine ⟨?_, mul_le_mul_of_nonneg_right upper unit.le, tie.imp_right fun strict => ⟨?_, ?_⟩⟩
    · rw [half, Nat.cast_two]
      exact mul_le_mul_of_nonneg_right lower unit.le
    · rw [half, Nat.cast_two]
      exact mul_lt_mul_of_pos_right (by linarith [strict.1]) unit
    · exact mul_lt_mul_of_pos_right (by linarith [strict.2]) unit

/-- What is rounded up to twice the least normal significand is near the next power of two. -/
theorem of_carry (low : (2 * (2 * normalSignificand : ℕ) - 1 : ℚ) ≤ 2 * (value / 2 ^ exponent))
    (below : value / 2 ^ exponent < (2 * normalSignificand : ℕ)) :
    Near normalSignificand (exponent + 1) value := by
  have halved : value / 2 ^ (exponent + 1) = value / 2 ^ exponent / 2 := by
    rw [two_zpow_add, zpow_one]
    exact (div_div ..).symm
  rw [normalSignificand_eq] at low below
  push_cast at low below
  apply of_units
  all_goals rw [halved, normalSignificand_eq]
  · push_cast
    linarith
  · push_cast
    linarith
  · exact .inl rfl
  · intro _
    push_cast
    linarith

end Near

/-- A fraction that a quarter of the last place separates from the power of two above it gets
a smaller exponent first, and is rounded up to the power. -/
theorem ofRatio_of_below_power (negative : Bool) {num den : ℕ} {exponent : ℤ}
    (numPositive : 0 < num) (denPositive : 0 < den) (notLeast : minExponent < exponent)
    (most : exponent ≤ maxExponent)
    (low : ((2 ^ 54 : ℕ) - 1 : ℚ) * 2 ^ (exponent - 2) ≤ (num : ℚ) / den)
    (below : (num : ℚ) / den < 2 ^ (exponent + 52)) :
    ofRatio negative num den = .finite negative normalSignificand exponent := by
  have unit := two_zpow_pos (exponent - 2)
  have halfPower : (2 : ℚ) ^ (exponent + 51) ≤ (num : ℚ) / den := by
    refine le_trans ?_ low
    rw [show (51 : ℤ) = (51 : ℕ) from rfl, two_zpow_quarters]
    exact mul_le_mul_of_nonneg_right (by norm_num) unit.le
  have log := floorLog2_eq numPositive denPositive halfPower
    (by rw [show exponent + 51 + 1 = exponent + 52 by ring]; exact below)
  -- The exponent below is chosen, for which the fraction is rounded up to twice the power.
  have chosen : max minExponent (floorLog2 num den - 52) = exponent - 1 := by omega
  obtain ⟨scaledPositive, scaledValue⟩ := scaleDown_spec num denPositive (exponent - 1)
  have doubled : 2 * ((num : ℚ) / den / 2 ^ (exponent - 1)) =
      (num : ℚ) / den / 2 ^ (exponent - 2) := by
    rw [show exponent - 1 = exponent - 2 + 1 by ring, two_zpow_add]
    field_simp
  have rounded := roundDiv_of_near (2 * normalSignificand) scaledPositive
    (by
      rw [scaledValue, doubled, le_div_iff₀ unit]
      norm_num [normalSignificand_eq] at low ⊢
      exact low)
    (by
      rw [scaledValue, doubled, div_le_iff₀ unit]
      rw [show (52 : ℤ) = (52 : ℕ) from rfl, two_zpow_quarters] at below
      norm_num [normalSignificand_eq] at below ⊢
      linarith)
    (.inl (by simp))
  rw [ofRatio_def negative numPositive chosen rounded, if_pos rfl, sub_add_cancel,
    if_neg (by omega)]

/-- A fraction near a positive double of the format is rounded to it. -/
theorem ofRatio_of_near (negative : Bool) {num den significand : ℕ} {exponent : ℤ}
    (denPositive : 0 < den) (positive : 0 < significand)
    (canonical : Canonical (.finite negative significand exponent))
    (near : Near significand exponent ((num : ℚ) / den)) :
    ofRatio negative num den = .finite negative significand exponent := by
  obtain ⟨bounded, least, most, normal⟩ := canonical
  have denCast : (0 : ℚ) < den := by exact_mod_cast denPositive
  have valuePositive := near.pos positive
  have numPositive : 0 < num := by
    rw [div_pos_iff_of_pos_right denCast] at valuePositive
    exact_mod_cast valuePositive
  have high := near.lt_two_zpow bounded
  obtain ⟨logLow, logHigh⟩ := floorLog2_spec numPositive denPositive
  have logAtMost : floorLog2 num den < exponent + 53 :=
    two_zpow_lt_iff.1 (lt_of_le_of_lt logLow high)
  by_cases inPlace : max minExponent (floorLog2 num den - 52) = exponent
  · -- The fraction gets the exponent of the double.
    obtain ⟨scaledPositive, scaledValue⟩ := scaleDown_spec num denPositive exponent
    obtain ⟨unitsLow, unitsHigh, unitsTie⟩ := near.units
    rw [← scaledValue] at unitsLow unitsHigh unitsTie
    have rounded := roundDiv_of_near _ scaledPositive unitsLow unitsHigh unitsTie
    rw [ofRatio_def negative numPositive inPlace rounded, if_neg (by omega), if_neg (by omega)]
  · -- The fraction lies below a power of two, to which it is rounded up.
    have logSmall : floorLog2 num den + 1 ≤ exponent + 52 := by omega
    have notLeast : minExponent < exponent := by omega
    have below := lt_of_lt_of_le logHigh (two_zpow_mono logSmall)
    obtain rfl := near.eq_normalSignificand below (normal.resolve_right (by omega))
    exact ofRatio_of_below_power negative numPositive denPositive notLeast most
      (near.low_of_power notLeast) below

/-- A fraction below half of the greatest power of two is rounded to a finite number. -/
theorem isFinite_ofRatio (negative : Bool) {num den : ℕ} (denPositive : 0 < den)
    (small : (num : ℚ) / den < 2 ^ (1023 : ℤ)) : (ofRatio negative num den).isFinite = true := by
  rcases Nat.eq_zero_or_pos num with rfl | numPositive
  · rfl
  · have log := two_zpow_lt_iff.1 (lt_of_le_of_lt (floorLog2_spec numPositive denPositive).1 small)
    -- Even with a carry the exponent is not beyond the greatest one.
    have carried : max minExponent (floorLog2 num den - 52) + 1 ≤ maxExponent := by
      unfold minExponent maxExponent
      omega
    have most : ¬maxExponent < max minExponent (floorLog2 num den - 52) := by omega
    rw [ofRatio_def negative numPositive rfl rfl, if_neg (not_lt.2 carried), if_neg most]
    split <;> rfl

/-- Numbers not greater than half of the least double are near zero. -/
theorem near_zero {value : ℚ} (notNegative : 0 ≤ value)
    (small : value ≤ 2 * 2 ^ (minExponent - 2)) :
    Near 0 minExponent value := by
  have unit := two_zpow_pos (minExponent - 2)
  refine ⟨?_, ?_, .inl rfl⟩
  · simp only [gapBelow]
    norm_num
    linarith
  · norm_num
    exact small

/-- A fraction is near the double that it is rounded to. -/
theorem near_of_ofRatio {negative : Bool} {num den significand : ℕ} {exponent : ℤ}
    (denPositive : 0 < den)
    (rounded : ofRatio negative num den = .finite negative significand exponent) :
    Near significand exponent ((num : ℚ) / den) := by
  rcases Nat.eq_zero_or_pos num with rfl | numPositive
  · obtain ⟨rfl, rfl⟩ : 0 = significand ∧ minExponent = exponent := by
      simpa [ofRatio, zero] using rounded
    apply near_zero
    · positivity
    · simp only [Nat.cast_zero, zero_div]
      positivity
  generalize chosen : max minExponent (floorLog2 num den - 52) = scale
  generalize quotient :
    roundDiv (scaleDown num den scale).1 (scaleDown num den scale).2 = units
  obtain ⟨scaledPositive, scaledValue⟩ := scaleDown_spec num denPositive scale
  obtain ⟨low, high, tie⟩ := near_roundDiv (scaleDown num den scale).1 scaledPositive
  obtain ⟨small, large⟩ := scaled_bounds numPositive denPositive chosen
  rw [quotient, scaledValue] at low high tie
  rw [ofRatio_def negative numPositive chosen quotient] at rounded
  have scaledCast : (0 : ℚ) < (scaleDown num den scale).2 := by exact_mod_cast scaledPositive
  have below : (num : ℚ) / den / 2 ^ scale < (2 * normalSignificand : ℕ) := by
    rw [Nat.div_lt_iff_lt_mul scaledPositive] at small
    rw [← scaledValue, div_lt_iff₀ scaledCast]
    exact_mod_cast small
  split at rounded
  · -- The significand was carried to the power of two.
    rename_i carry
    split at rounded
    · cases rounded
    · cases rounded
      exact .of_carry (carry ▸ low) below
  · split at rounded
    · cases rounded
    · cases rounded
      refine .of_units low high tie fun quarter => ?_
      have power : significand = normalSignificand ∧ minExponent < exponent := by
        by_contra other
        rw [gapBelow, if_neg other] at quarter
        cases quarter
      -- Above the least exponent the quotient itself comes up to the power of two.
      have reached := large.resolve_left power.2.ne'
      rw [← power.1, Nat.le_div_iff_mul_le scaledPositive] at reached
      have product : (significand : ℚ) ≤ num / den / 2 ^ exponent := by
        rw [← scaledValue, le_div_iff₀ scaledCast]
        exact_mod_cast reached
      linarith

end RuleAtlas.Binary64
