import Mathlib.Data.Nat.Cast.Order.Field
import RuleAtlas.Proofs.Binary64.Digits
import RuleAtlas.Proofs.Binary64.Rounding

/-! # The search for digits

What the search for the digits of a positive double works with, said of rational numbers: the
decimals in its interval are those near it, and the decimal logarithm of its fraction is rounded
down. -/

namespace RuleAtlas.Binary64

def Digits.value (decimal : Digits) : ℚ := decimal.digits * 10 ^ decimal.exponent

theorem Digits.value_negSucc (digits k : ℕ) :
    Digits.value ⟨digits, .negSucc k⟩ = digits * 10 ^ (-((k + 1 : ℕ) : ℤ)) := rfl

theorem ten_zpow_pos (k : ℤ) : (0 : ℚ) < 10 ^ k := zpow_pos (by norm_num) k

/-! ## The interval -/

/-- The fractions in an interval are those between its bounds, and off them unless the interval
is closed. -/
theorem RoundingInterval.contains_iff {interval : RoundingInterval} {num den : ℕ}
    (intervalPositive : 0 < interval.den) (denPositive : 0 < den) :
    interval.contains num den = true ↔
      (interval.low : ℚ) / interval.den ≤ (num : ℚ) / den ∧
        (num : ℚ) / den ≤ (interval.high : ℚ) / interval.den ∧
        (interval.closed = true ∨ ((interval.low : ℚ) / interval.den < (num : ℚ) / den ∧
          (num : ℚ) / den < (interval.high : ℚ) / interval.den)) := by
  have intervalCast : (0 : ℚ) < interval.den := by exact_mod_cast intervalPositive
  have denCast : (0 : ℚ) < den := by exact_mod_cast denPositive
  rw [div_le_div_iff₀ intervalCast denCast, div_le_div_iff₀ denCast intervalCast,
    div_lt_div_iff₀ intervalCast denCast, div_lt_div_iff₀ denCast intervalCast]
  norm_cast
  unfold RoundingInterval.contains
  cases interval.closed with
  | true => simp
  | false =>
    simp only [Bool.false_eq_true, if_false, Bool.and_eq_true, decide_eq_true_eq, false_or]
    exact ⟨fun strict => ⟨strict.1.le, strict.2.le, strict⟩, fun bounds => bounds.2.2⟩

/-- The bounds of the interval of a positive double are the halves of the way to its
neighbours. -/
theorem roundingInterval_spec {significand : ℕ} (exponent : ℤ) (positive : 0 < significand) :
    0 < (roundingInterval significand exponent).den ∧
      ((roundingInterval significand exponent).low : ℚ) /
        (roundingInterval significand exponent).den =
          (4 * significand - gapBelow significand exponent : ℚ) * 2 ^ (exponent - 2) ∧
      ((roundingInterval significand exponent).high : ℚ) /
        (roundingInterval significand exponent).den =
          (4 * significand + 2 : ℚ) * 2 ^ (exponent - 2) := by
  obtain ⟨unitPositive, unitValue⟩ := scaleDown_spec 1 Nat.one_pos (-(exponent - 2))
  have unitValue : ((scaleDown 1 1 (-(exponent - 2))).1 : ℚ) / (scaleDown 1 1 (-(exponent - 2))).2
      = 2 ^ (exponent - 2) := by
    rw [unitValue, zpow_neg]
    simp
  have gap : (if significand = normalSignificand && minExponent < exponent then 1 else 2) =
      gapBelow significand exponent := by
    simp [gapBelow]
  have small : gapBelow significand exponent ≤ 4 * significand := by
    have atMost := gapBelow_le significand exponent
    omega
  refine ⟨unitPositive, ?_, ?_⟩
  · rw [← unitValue, mul_div_assoc']
    simp only [roundingInterval, fraction, gap]
    push_cast [small]
    rfl
  · rw [← unitValue, mul_div_assoc']
    simp only [roundingInterval, fraction]
    push_cast
    rfl

/-- The fractions in the interval of a positive double are those that are near it. -/
theorem contains_iff_near {significand num den : ℕ} {exponent : ℤ} (positive : 0 < significand)
    (denPositive : 0 < den) : (roundingInterval significand exponent).contains num den = true ↔
      Near significand exponent ((num : ℚ) / den) := by
  obtain ⟨intervalPositive, low, high⟩ := roundingInterval_spec exponent positive
  have closed : (roundingInterval significand exponent).closed = true ↔ significand % 2 = 0 := by
    simp [roundingInterval]
  rw [RoundingInterval.contains_iff intervalPositive denPositive, low, high, closed]
  exact ⟨fun bounds => ⟨bounds.1, bounds.2.1, bounds.2.2⟩, fun near => ⟨near.1, near.2, near.3⟩⟩

/-! ## The digits -/

/-- Scaling a fraction down by a power of ten divides its value by it. -/
theorem scaleDownTen_spec (num : ℕ) {den : ℕ} (positive : 0 < den) (exponent : ℤ) :
    0 < (scaleDownTen num den exponent).2 ∧
      ((scaleDownTen num den exponent).1 : ℚ) / (scaleDownTen num den exponent).2 =
        (num : ℚ) / den / 10 ^ exponent := by
  have denNonzero : (den : ℚ) ≠ 0 := by positivity
  cases exponent with
  | ofNat k =>
    refine ⟨Nat.mul_pos positive (Nat.pow_pos (by decide)), ?_⟩
    simp only [scaleDownTen, Nat.pow_eq, Int.ofNat_eq_natCast, zpow_natCast]
    push_cast
    rw [div_div]
  | negSucc k =>
    refine ⟨positive, ?_⟩
    simp only [scaleDownTen, Nat.pow_eq, zpow_negSucc]
    push_cast
    field_simp

/-- The places behind the first digit of a number, as an integer. -/
theorem length_toDigits_sub_one (n : ℕ) :
    ((Nat.toDigits 10 n).length : ℤ) - 1 = (((Nat.toDigits 10 n).length - 1 : ℕ) : ℤ) := by
  have count := Nat.length_toDigits_pos (b := 10) (n := n)
  omega

/-- The decimal logarithm of a positive fraction is rounded down. -/
theorem floorLog10_spec {num den : ℕ} (numPositive : 0 < num) (denPositive : 0 < den) :
    (10 : ℚ) ^ floorLog10 num den ≤ (num : ℚ) / den ∧
      (num : ℚ) / den < 10 ^ (floorLog10 num den + 1) := by
  have denCast : (0 : ℚ) < den := by exact_mod_cast denPositive
  unfold floorLog10
  split
  · -- From one on, the digits of the quotient are counted.
    rename_i large
    have reached := pow_length_toDigits_le (Nat.div_pos large denPositive)
    have below := lt_pow_length_toDigits (num / den)
    rw [sub_add_cancel, length_toDigits_sub_one, zpow_natCast, zpow_natCast, le_div_iff₀ denCast,
      div_lt_iff₀ denCast]
    rw [Nat.le_div_iff_mul_le denPositive] at reached
    rw [Nat.div_lt_iff_lt_mul denPositive] at below
    exact ⟨by exact_mod_cast reached, by exact_mod_cast below⟩
  · -- Below one, those of the inverse are, which is rounded up unless it is a power of ten.
    rename_i small
    have reached := pow_length_toDigits_le (Nat.div_pos (not_le.1 small).le numPositive)
    have below := lt_pow_length_toDigits (den / num)
    rw [Nat.le_div_iff_mul_le numPositive] at reached
    rw [Nat.div_lt_iff_lt_mul numPositive] at below
    simp only
    split
    · rename_i exact
      have same : (num : ℚ) / den = 10 ^ (-(((Nat.toDigits 10 (den / num)).length : ℤ) - 1)) := by
        rw [length_toDigits_sub_one, zpow_neg, zpow_natCast, div_eq_iff denCast.ne',
          eq_inv_mul_iff_mul_eq₀ (by positivity), mul_comm]
        exact_mod_cast exact
      rw [same]
      exact ⟨le_rfl, (zpow_lt_zpow_iff_right₀ (by norm_num)).2 (lt_add_one _)⟩
    · rename_i inexact
      have index : -((Nat.toDigits 10 (den / num)).length : ℤ) + 1 =
          -(((Nat.toDigits 10 (den / num)).length - 1 : ℕ) : ℤ) := by
        rw [← length_toDigits_sub_one]
        ring
      have strict := lt_of_le_of_ne reached fun same => inexact (by rw [mul_comm]; exact same)
      rw [index, zpow_neg, zpow_neg, zpow_natCast, zpow_natCast, le_div_iff₀ denCast,
        inv_mul_le_iff₀ (by positivity), div_lt_iff₀ denCast, lt_inv_mul_iff₀ (by positivity)]
      exact ⟨by exact_mod_cast below.le, by exact_mod_cast strict⟩

def RoundingInterval.containsDigits (interval : RoundingInterval) (decimal : Digits) : Bool :=
  match decimal.exponent with
  | .ofNat k => interval.contains (decimal.digits * 10 ^ k) 1
  | .negSucc k => interval.contains decimal.digits (10 ^ (k + 1))

theorem containsDigits_iff_near {significand : ℕ} {exponent : ℤ} {decimal : Digits}
    (positive : 0 < significand) :
    (roundingInterval significand exponent).containsDigits decimal = true ↔
      Near significand exponent decimal.value := by
  obtain ⟨digits, place⟩ := decimal
  cases place with
  | ofNat k =>
    refine (contains_iff_near positive Nat.one_pos).trans ?_
    simp [Digits.value]
  | negSucc k =>
    refine (contains_iff_near positive (Nat.pow_pos (by decide))).trans ?_
    simp [Digits.value, div_eq_mul_inv, zpow_negSucc]

/-- The fraction that is searched for digits has the value of the double. -/
theorem fraction_spec {significand : ℕ} (exponent : ℤ) (positive : 0 < significand) :
    0 < (fraction significand exponent).1 ∧ 0 < (fraction significand exponent).2 ∧
      ((fraction significand exponent).1 : ℚ) / (fraction significand exponent).2 =
        significand * 2 ^ exponent := by
  obtain ⟨denPositive, value⟩ := scaleDown_spec significand Nat.one_pos (-exponent)
  have exact : ((fraction significand exponent).1 : ℚ) / (fraction significand exponent).2 =
      significand * 2 ^ exponent := by
    rw [fraction, value, zpow_neg]
    simp
  have denCast : (0 : ℚ) < (fraction significand exponent).2 := by exact_mod_cast denPositive
  have product : (0 : ℚ) < significand * 2 ^ exponent :=
    mul_pos (by exact_mod_cast positive) (two_zpow_pos _)
  rw [← exact, div_pos_iff_of_pos_right denCast] at product
  exact ⟨by exact_mod_cast product, denPositive, exact⟩

end RuleAtlas.Binary64
