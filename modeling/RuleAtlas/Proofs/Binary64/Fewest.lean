import RuleAtlas.Proofs.Binary64.Shortest

/-! # The fewest digits and the nearest

Of all decimals that lie near a positive double, the one that the search for few digits ends at
has no more digits than any other.  Of those with as few digits it is the nearest to the double,
and the upper one of two that are equally near. -/

namespace RuleAtlas.Binary64

/-! ## Digits that count -/

/-- So many digits and a power of ten are enough to write the number. -/
def HasDigits (value : ℚ) (count : ℕ) : Prop :=
  ∃ digits < 10 ^ count, ∃ place : ℤ, value = (digits : ℕ) * 10 ^ place

theorem HasDigits.mono {value : ℚ} {few many : ℕ} (enough : HasDigits value few)
    (atMost : few ≤ many) : HasDigits value many := by
  obtain ⟨digits, small, place, same⟩ := enough
  exact ⟨digits, lt_of_lt_of_le small (Nat.pow_le_pow_right (by decide) atMost), place, same⟩

theorem HasDigits.count_pos {value : ℚ} {count : ℕ} (enough : HasDigits value count)
    (positive : 0 < value) : 0 < count := by
  obtain ⟨digits, small, place, rfl⟩ := enough
  by_contra zero
  obtain rfl : count = 0 := by omega
  obtain rfl : digits = 0 := by simpa using small
  simp at positive

theorem ten_zpow_add_natCast (k : ℤ) (n : ℕ) : (10 : ℚ) ^ (k + n) = (10 ^ n : ℕ) * 10 ^ k := by
  rw [zpow_add₀ (by norm_num), zpow_natCast, mul_comm]
  push_cast
  rfl

theorem ten_zpow_lt_iff {j k : ℤ} : (10 : ℚ) ^ j < 10 ^ k ↔ j < k :=
  zpow_lt_zpow_iff_right₀ (by norm_num)

/-- A number of so many digits that reaches a power of ten is a multiple of the power where the
digits from there on end. -/
theorem HasDigits.onGrid {value : ℚ} {count : ℕ} {top place : ℤ} (enough : HasDigits value count)
    (reaches : (10 : ℚ) ^ top ≤ value) (last : place + count = top + 1) :
    ∃ multiple : ℕ, value = multiple * 10 ^ place := by
  obtain ⟨digits, small, from_, rfl⟩ := enough
  have unit := ten_zpow_pos from_
  have below : (digits : ℚ) * 10 ^ from_ < 10 ^ (from_ + count) := by
    rw [ten_zpow_add_natCast]
    exact mul_lt_mul_of_pos_right (by exact_mod_cast small) unit
  have high := ten_zpow_lt_iff.1 (lt_of_le_of_lt reaches below)
  obtain ⟨more, same⟩ : ∃ more : ℕ, from_ = place + more := ⟨(from_ - place).toNat, by omega⟩
  refine ⟨digits * 10 ^ more, ?_⟩
  rw [same, ten_zpow_add_natCast]
  push_cast
  ring

/-! ## Nearer decimals -/

/-- The first number is nearer to the center than the second one, or equally near and not below
it. -/
def IsNearer (center value other : ℚ) : Prop :=
  |value - center| < |other - center| ∨ |value - center| = |other - center| ∧ other ≤ value

namespace IsNearer

variable {center value other third : ℚ}

theorem trans (first : IsNearer center value other) (second : IsNearer center other third) :
    IsNearer center value third := by
  rcases first with less | ⟨same, above⟩
  · rcases second with less' | ⟨same', -⟩
    · exact .inl (less.trans less')
    · exact .inl (same' ▸ less)
  · rcases second with less' | ⟨same', above'⟩
    · exact .inl (same ▸ less')
    · exact .inr ⟨same.trans same', above'.trans above⟩

theorem antisymm (first : IsNearer center value other) (second : IsNearer center other value) :
    value = other := by
  rcases first with less | ⟨same, above⟩
  · rcases second with less' | ⟨same', -⟩
    · exact absurd less' less.asymm
    · exact absurd same'.symm less.ne
  · rcases second with less' | ⟨-, above'⟩
    · exact absurd same.symm less'.ne
    · exact le_antisymm above' above

theorem of_below (far : other ≤ value) (below : value ≤ center) : IsNearer center value other := by
  unfold IsNearer
  rw [abs_of_nonpos (by linarith), abs_of_nonpos (by linarith)]
  rcases lt_or_eq_of_le far with less | rfl
  · exact .inl (by linarith)
  · exact .inr ⟨rfl, le_rfl⟩

theorem of_above (above : center ≤ value) (far : value ≤ other) : IsNearer center value other := by
  unfold IsNearer
  rw [abs_of_nonneg (by linarith), abs_of_nonneg (by linarith)]
  rcases lt_or_eq_of_le far with less | rfl
  · exact .inl (by linarith)
  · exact .inr ⟨rfl, le_rfl⟩

/-- Of two numbers around the center the upper one counts as nearer where they are equally
near. -/
theorem of_around_upper (below : other ≤ center) (above : center ≤ value)
    (near : value - center ≤ center - other) : IsNearer center value other := by
  unfold IsNearer
  rw [abs_of_nonneg (by linarith), abs_of_nonpos (by linarith)]
  rcases lt_or_eq_of_le near with less | same
  · exact .inl (by linarith)
  · exact .inr ⟨by linarith, by linarith⟩

theorem of_around_lower (below : value ≤ center) (near : center - value < other - center) :
    IsNearer center value other := by
  unfold IsNearer
  rw [abs_of_nonpos (by linarith), abs_of_nonneg (by linarith)]
  exact .inl (by linarith)

end IsNearer

/-! ## The interval -/

namespace Near

variable {significand : ℕ} {exponent : ℤ} {value low high : ℚ}

/-- What lies between numbers that are near is near. -/
theorem between (lowNear : Near significand exponent low)
    (highNear : Near significand exponent high) (above : low ≤ value) (below : value ≤ high) :
    Near significand exponent value where
  low := lowNear.low.trans above
  high := below.trans highNear.high
  tie := by
    rcases lowNear.tie with even | ⟨lowStrict, -⟩
    · exact .inl even
    · refine highNear.tie.imp_right fun highStrict => ⟨?_, ?_⟩
      · exact lt_of_lt_of_le lowStrict above
      · exact lt_of_le_of_lt below highStrict.2

/-- The double lies strictly inside. -/
theorem strict (significand : ℕ) (exponent : ℤ) :
    (4 * significand - gapBelow significand exponent : ℚ) * 2 ^ (exponent - 2) <
        significand * 2 ^ exponent ∧
      (significand * 2 ^ exponent : ℚ) < (4 * significand + 2) * 2 ^ (exponent - 2) := by
  have unit := two_zpow_pos (exponent - 2)
  have gap : (0 : ℚ) < gapBelow significand exponent := by
    exact_mod_cast gapBelow_pos significand exponent
  rw [two_zpow_four_quarters exponent]
  constructor <;> nlinarith

theorem center (significand : ℕ) (exponent : ℤ) :
    Near significand exponent (significand * 2 ^ exponent) :=
  ⟨(strict significand exponent).1.le, (strict significand exponent).2.le,
    .inr (strict significand exponent)⟩

end Near

/-! ## Grids -/

section
variable {significand num den : ℕ} {exponent place : ℤ}

/-- How often a power of ten goes into the fraction. -/
def wholeUnits (num den : ℕ) (place : ℤ) : ℕ :=
  (scaleDownTen num den place).1 / (scaleDownTen num den place).2

/-- What is left of the fraction, in units of a power of ten, is at least one half. -/
def isUpperHalf (num den : ℕ) (place : ℤ) : Bool :=
  (scaleDownTen num den place).2 ≤
    2 * ((scaleDownTen num den place).1 % (scaleDownTen num den place).2)

/-- The fraction is a multiple of the power of ten, and a part of it more. -/
theorem exists_rest (num : ℕ) (denPositive : 0 < den) (place : ℤ) :
    ∃ rest : ℚ, 0 ≤ rest ∧ rest < 1 ∧ (isUpperHalf num den place = true ↔ 1 ≤ 2 * rest) ∧
      (num : ℚ) / den = (wholeUnits num den place + rest) * 10 ^ place := by
  obtain ⟨scaledPositive, scaledValue⟩ := scaleDownTen_spec num denPositive place
  unfold isUpperHalf wholeUnits
  generalize (scaleDownTen num den place).1 = scaledNum at *
  generalize (scaleDownTen num den place).2 = scaledDen at *
  have scaledCast : (0 : ℚ) < scaledDen := by exact_mod_cast scaledPositive
  have remainder := Nat.mod_lt scaledNum scaledPositive
  have division : (scaledNum : ℚ) / scaledDen =
      (scaledNum / scaledDen : ℕ) + ((scaledNum % scaledDen : ℕ) : ℚ) / scaledDen := by
    rw [div_eq_iff scaledCast.ne', add_mul, div_mul_cancel₀ _ scaledCast.ne', mul_comm]
    exact_mod_cast (Nat.div_add_mod scaledNum scaledDen).symm
  refine ⟨((scaledNum % scaledDen : ℕ) : ℚ) / scaledDen, by positivity, ?_, ?_, ?_⟩
  · rw [div_lt_one scaledCast]
    exact_mod_cast remainder
  · rw [decide_eq_true_iff, mul_div_assoc', le_div_iff₀ scaledCast, one_mul]
    norm_cast
  · rw [← division, scaledValue, div_mul_cancel₀ _ (ten_zpow_pos place).ne']

theorem wholeUnits_bounds (num : ℕ) (denPositive : 0 < den) (place : ℤ) :
    (wholeUnits num den place : ℚ) * 10 ^ place ≤ (num : ℚ) / den ∧
      (num : ℚ) / den < ((wholeUnits num den place + 1 : ℕ) : ℚ) * 10 ^ place := by
  have unit := ten_zpow_pos place
  obtain ⟨rest, notNegative, part, -, exact⟩ := exists_rest num denPositive place
  rw [exact]
  push_cast
  constructor <;> nlinarith

/-- From one half on, the multiple above the fraction is as near as the one below. -/
theorem isUpperHalf_iff (num : ℕ) (denPositive : 0 < den) (place : ℤ) :
    isUpperHalf num den place = true ↔
      ((wholeUnits num den place + 1 : ℕ) : ℚ) * 10 ^ place - (num : ℚ) / den ≤
        (num : ℚ) / den - wholeUnits num den place * 10 ^ place := by
  obtain ⟨rest, -, -, half, exact⟩ := exists_rest num denPositive place
  have above : ((wholeUnits num den place + 1 : ℕ) : ℚ) * 10 ^ place - (num : ℚ) / den =
      (1 - rest) * 10 ^ place := by
    rw [exact]
    push_cast
    ring
  have below : (num : ℚ) / den - wholeUnits num den place * 10 ^ place = rest * 10 ^ place := by
    rw [exact]
    ring
  rw [half, above, below, mul_le_mul_iff_left₀ (ten_zpow_pos place)]
  constructor <;> intro bound <;> linarith

theorem isNearer_above (num : ℕ) (denPositive : 0 < den) {place : ℤ}
    (half : isUpperHalf num den place = true) :
    IsNearer ((num : ℚ) / den) ((wholeUnits num den place + 1 : ℕ) * 10 ^ place)
      (wholeUnits num den place * 10 ^ place) := by
  obtain ⟨below, above⟩ := wholeUnits_bounds num denPositive place
  exact .of_around_upper below above.le ((isUpperHalf_iff num denPositive place).1 half)

theorem isNearer_below (num : ℕ) (denPositive : 0 < den) {place : ℤ}
    (half : isUpperHalf num den place = false) :
    IsNearer ((num : ℚ) / den) (wholeUnits num den place * 10 ^ place)
      ((wholeUnits num den place + 1 : ℕ) * 10 ^ place) := by
  apply IsNearer.of_around_lower (wholeUnits_bounds num denPositive place).1
  by_contra far
  rw [(isUpperHalf_iff num denPositive place).2 (not_lt.1 far)] at half
  cases half

theorem gridPoint?_eq (interval : RoundingInterval) (num den : ℕ) (place : ℤ) :
    gridPoint? interval num den place =
      match wholeUnits num den place ≠ 0 &&
          interval.containsDigits ⟨wholeUnits num den place, place⟩,
        interval.containsDigits ⟨wholeUnits num den place + 1, place⟩ with
      | true, true =>
        some (if isUpperHalf num den place then wholeUnits num den place + 1
          else wholeUnits num den place)
      | true, false => some (wholeUnits num den place)
      | false, true => some (wholeUnits num den place + 1)
      | false, false => none := by
  cases place <;> simp only [gridPoint?, isUpperHalf, decide_eq_true_eq] <;> rfl

/-- The point that the grid of a power of ten gives lies in the interval. -/
theorem containsDigits_of_gridPoint {interval : RoundingInterval} {num den digits : ℕ} {place : ℤ}
    (found : gridPoint? interval num den place = some digits) :
    interval.containsDigits ⟨digits, place⟩ = true := by
  rw [gridPoint?_eq] at found
  split at found
  · rename_i low high
    cases half : isUpperHalf num den place with
    | true =>
      obtain rfl : wholeUnits num den place + 1 = digits := by simpa [half] using found
      exact high
    | false =>
      obtain rfl : wholeUnits num den place = digits := by simpa [half] using found
      exact (Bool.and_eq_true_iff.1 low).2
  · rename_i low _
    cases found
    exact (Bool.and_eq_true_iff.1 low).2
  · rename_i _ high
    cases found
    exact high
  · cases found

/-- A multiple of the power of ten that is near lies behind one of the two around the fraction,
which is near as well and nearer to the fraction. -/
theorem around_of_near (denPositive : 0 < den)
    (exact : (num : ℚ) / den = significand * 2 ^ exponent)
    {multiple : ℕ} (near : Near significand exponent (multiple * 10 ^ place)) :
    (Near significand exponent (wholeUnits num den place * 10 ^ place) ∧
        IsNearer ((num : ℚ) / den) (wholeUnits num den place * 10 ^ place)
          (multiple * 10 ^ place)) ∨
      (Near significand exponent ((wholeUnits num den place + 1 : ℕ) * 10 ^ place) ∧
        IsNearer ((num : ℚ) / den) ((wholeUnits num den place + 1 : ℕ) * 10 ^ place)
          (multiple * 10 ^ place)) := by
  have unit := ten_zpow_pos place
  have center := Near.center significand exponent
  obtain ⟨below, above⟩ := wholeUnits_bounds num denPositive place
  rw [← exact] at center
  rcases Nat.lt_or_ge (wholeUnits num den place) multiple with more | less
  · right
    have behind : ((wholeUnits num den place + 1 : ℕ) : ℚ) * 10 ^ place ≤ multiple * 10 ^ place :=
      mul_le_mul_of_nonneg_right (by exact_mod_cast more) unit.le
    exact ⟨center.between near above.le behind, .of_above above.le behind⟩
  · left
    have behind : (multiple : ℚ) * 10 ^ place ≤ wholeUnits num den place * 10 ^ place :=
      mul_le_mul_of_nonneg_right (by exact_mod_cast less) unit.le
    exact ⟨near.between center behind below, .of_below behind below⟩

/-- Where a multiple of the power of ten is near, the grid of the power gives the nearest one. -/
theorem gridPoint?_of_near (positive : 0 < significand) (denPositive : 0 < den)
    (exact : (num : ℚ) / den = significand * 2 ^ exponent)
    (reaches : (10 : ℚ) ^ place ≤ (num : ℚ) / den) {multiple : ℕ}
    (near : Near significand exponent (multiple * 10 ^ place)) :
    ∃ best, gridPoint? (roundingInterval significand exponent) num den place = some best ∧
      best ≤ wholeUnits num den place + 1 ∧ Near significand exponent (best * 10 ^ place) ∧
      ∀ other : ℕ, Near significand exponent (other * 10 ^ place) →
        IsNearer ((num : ℚ) / den) (best * 10 ^ place) (other * 10 ^ place) := by
  have around := fun {other : ℕ} (otherNear : Near significand exponent (other * 10 ^ place)) =>
    around_of_near denPositive exact otherNear
  have inside : ∀ digits : ℕ,
      (roundingInterval significand exponent).containsDigits ⟨digits, place⟩ = true ↔
        Near significand exponent (digits * 10 ^ place) :=
    fun digits => containsDigits_iff_near positive
  have nearerAbove := @isNearer_above den num denPositive place
  have nearerBelow := @isNearer_below den num denPositive place
  -- The fraction is not below the first multiple.
  have some_units : wholeUnits num den place ≠ 0 := by
    intro zero
    have above := (wholeUnits_bounds num denPositive place).2
    rw [zero] at above
    simp only [Nat.zero_add, Nat.cast_one, one_mul] at above
    exact absurd reaches (not_le.2 above)
  rw [gridPoint?_eq]
  generalize wholeUnits num den place = lower at *
  simp only [some_units, ne_eq, not_false_eq_true, decide_true, Bool.true_and]
  cases lowerInside : (roundingInterval significand exponent).containsDigits ⟨lower, place⟩ with
  | true =>
    have lowerNear := (inside _).1 lowerInside
    cases upperInside :
        (roundingInterval significand exponent).containsDigits ⟨lower + 1, place⟩ with
    | true =>
      -- Both are near, and the nearer one is taken.
      have upperNear := (inside _).1 upperInside
      cases half : isUpperHalf num den place with
      | true =>
        refine ⟨lower + 1, rfl, le_rfl, upperNear, fun other otherNear => ?_⟩
        exact (around otherNear).elim ((nearerAbove half).trans ·.2) And.right
      | false =>
        refine ⟨lower, rfl, Nat.le_succ _, lowerNear, fun other otherNear => ?_⟩
        exact (around otherNear).elim And.right ((nearerBelow half).trans ·.2)
    | false =>
      refine ⟨lower, rfl, Nat.le_succ _, lowerNear, fun other otherNear => ?_⟩
      refine (around otherNear).elim And.right fun upper => ?_
      rw [(inside _).2 upper.1] at upperInside
      cases upperInside
  | false =>
    have notLower : ¬Near significand exponent (lower * 10 ^ place) := fun lowerNear => by
      rw [(inside _).2 lowerNear] at lowerInside
      cases lowerInside
    have upperNear := ((around near).resolve_left fun here => notLower here.1).1
    rw [(inside _).2 upperNear]
    refine ⟨lower + 1, rfl, le_rfl, upperNear, fun other otherNear => ?_⟩
    exact ((around otherNear).resolve_left fun here => notLower here.1).2

/-! ## The search -/

/-- A decimal near the double leads to a multiple on the grid of its count of digits, which is
near as well and not farther from the double. -/
theorem exists_multiple {top : ℤ} {value : ℚ} {count : ℕ} (positive : 0 < significand)
    (reaches : (10 : ℚ) ^ top ≤ significand * 2 ^ exponent)
    (near : Near significand exponent value) (enough : HasDigits value count) :
    ∃ multiple : ℕ, Near significand exponent (multiple * 10 ^ (top - count + 1)) ∧
      IsNearer (significand * 2 ^ exponent) (multiple * 10 ^ (top - count + 1)) value := by
  have counted := enough.count_pos (near.pos positive)
  rcases le_or_gt ((10 : ℚ) ^ top) value with large | small
  · have last : top - count + 1 + count = top + 1 := by omega
    obtain ⟨multiple, rfl⟩ := enough.onGrid large last
    exact ⟨multiple, near, .inr ⟨rfl, le_rfl⟩⟩
  · -- The power of ten between the decimal and the double is on every grid.
    have power : ((10 ^ (count - 1) : ℕ) : ℚ) * 10 ^ (top - count + 1) = 10 ^ top := by
      rw [← ten_zpow_add_natCast]
      congr 1
      omega
    refine ⟨10 ^ (count - 1), ?_, ?_⟩
    · rw [power]
      exact near.between (.center significand exponent) small.le reaches
    · rw [power]
      exact .of_below small.le reaches

/-- The multiples around a fraction have no more digits than the grid is for. -/
theorem hasDigits_multiple {top : ℤ} {count multiple : ℕ} (denPositive : 0 < den)
    (below : (num : ℚ) / den < 10 ^ (top + 1))
    (around : multiple ≤ wholeUnits num den (top - count + 1) + 1) (counted : 0 < count) :
    HasDigits (multiple * 10 ^ (top - count + 1)) count := by
  have small : wholeUnits num den (top - count + 1) < 10 ^ count := by
    have less := lt_of_le_of_lt (wholeUnits_bounds num denPositive (top - count + 1)).1 below
    rw [show top + 1 = top - count + 1 + (count : ℤ) by omega, ten_zpow_add_natCast] at less
    exact_mod_cast lt_of_mul_lt_mul_right less (ten_zpow_pos _).le
  rcases Nat.lt_or_ge multiple (10 ^ count) with fits | carry
  · exact ⟨multiple, fits, _, rfl⟩
  · -- The upper one may be the next power of ten, which has one digit.
    obtain rfl : multiple = 10 ^ count := by omega
    refine ⟨1, Nat.one_lt_pow counted.ne' (by decide), top - count + 1 + count, ?_⟩
    rw [ten_zpow_add_natCast, Nat.cast_one, one_mul]

/-- Seventeen digits are enough for some decimal near a double. -/
theorem exists_multiple_seventeen {top : ℤ} (bounded : significand < 2 * normalSignificand)
    (denPositive : 0 < den) (exact : (num : ℚ) / den = significand * 2 ^ exponent)
    (reaches : (10 : ℚ) ^ top ≤ (num : ℚ) / den) (last : place + (16 : ℕ) = top) :
    ∃ multiple ≤ wholeUnits num den place + 1,
      Near significand exponent (multiple * 10 ^ place) := by
  obtain ⟨below, above⟩ := wholeUnits_bounds num denPositive place
  have strict := Near.strict significand exponent
  have quarter := two_zpow_pos (exponent - 2)
  -- The unit of the grid is smaller than the interval.
  have unit : (10 : ℚ) ^ place < (gapBelow significand exponent + 2) * 2 ^ (exponent - 2) := by
    rw [← last, ten_zpow_add_natCast, exact, two_zpow_four_quarters] at reaches
    unfold gapBelow
    split
    · rename_i power
      rw [power.1, normalSignificand_eq] at reaches
      norm_num at reaches ⊢
      linarith
    · have size : (significand : ℚ) < 2 ^ 53 := by
        have natural : significand < 2 ^ 53 := by rw [normalSignificand_eq] at bounded; omega
        exact_mod_cast natural
      have product := mul_lt_mul_of_pos_right size quarter
      norm_num at reaches product ⊢
      linarith
  rw [exact] at below above
  push_cast at above
  rcases le_or_gt (wholeUnits num den place * (10 : ℚ) ^ place)
      ((4 * significand - gapBelow significand exponent : ℚ) * 2 ^ (exponent - 2)) with far | near
  · have low := strict.1.trans above
    have high : ((wholeUnits num den place : ℚ) + 1) * 10 ^ place <
        (4 * significand + 2 : ℚ) * 2 ^ (exponent - 2) := by linarith
    refine ⟨wholeUnits num den place + 1, le_rfl, ?_⟩
    push_cast
    exact ⟨low.le, high.le, .inr ⟨low, high⟩⟩
  · have high := lt_of_le_of_lt below strict.2
    exact ⟨wholeUnits num den place, Nat.le_succ _, near.le, high.le, .inr ⟨near, high⟩⟩

/-- The decimal is near the double, no decimal that is near has fewer digits, and of those with
as few digits it is the nearest. -/
structure IsFewest (significand : ℕ) (exponent : ℤ) (value : ℚ) : Prop where
  near : Near significand exponent value
  fewest : ∀ {other count}, Near significand exponent other → HasDigits other count →
    HasDigits value count
  nearest : ∀ {other}, Near significand exponent other →
    (∀ count, HasDigits value count → HasDigits other count) →
    IsNearer (significand * 2 ^ exponent) value other

/-- Where no decimal near the double has fewer digits than the search looks for, it ends at the
best one. -/
theorem isFewest_shortestFrom {top : ℤ} (positive : 0 < significand)
    (bounded : significand < 2 * normalSignificand) (denPositive : 0 < den)
    (exact : (num : ℚ) / den = significand * 2 ^ exponent)
    (reaches : (10 : ℚ) ^ top ≤ (num : ℚ) / den) (below : (num : ℚ) / den < 10 ^ (top + 1))
    (more count : ℕ) (total : more + count = 18) (counted : 0 < count)
    (noFewer : ∀ {other few}, Near significand exponent other → HasDigits other few →
      count ≤ few) :
    IsFewest significand exponent
      (shortestFrom (roundingInterval significand exponent) num den top more count).value := by
  induction more generalizing count with
  | zero =>
    -- With seventeen digits one was found before.
    obtain rfl : count = 18 := by omega
    have last : top - (17 : ℕ) + 1 + (16 : ℕ) = top := by omega
    obtain ⟨multiple, around, near⟩ :=
      exists_multiple_seventeen bounded denPositive exact reaches last
    exact absurd (noFewer near (hasDigits_multiple denPositive below around (by omega)))
      (by decide)
  | succ more inductionHypothesis =>
    have unit : (10 : ℚ) ^ (top - count + 1) ≤ (num : ℚ) / den :=
      (zpow_le_zpow_right₀ (by norm_num) (by omega)).trans reaches
    have reachesDouble : (10 : ℚ) ^ top ≤ significand * 2 ^ exponent := by rwa [← exact]
    simp only [shortestFrom]
    split
    · rename_i digits found
      have near := (containsDigits_iff_near positive).1 (containsDigits_of_gridPoint found)
      obtain ⟨best, same, around, -, nearest⟩ :=
        gridPoint?_of_near positive denPositive exact unit near
      obtain rfl : digits = best := Option.some.inj (found.symm.trans same)
      have enough := hasDigits_multiple denPositive below around counted
      refine ⟨near, fun otherNear few => enough.mono (noFewer otherNear few), ?_⟩
      intro other otherNear asFew
      obtain ⟨multiple, multipleNear, nearer⟩ :=
        exists_multiple positive reachesDouble otherNear (asFew _ enough)
      have first := nearest multiple multipleNear
      rw [exact] at first
      exact first.trans nearer
    · rename_i nothing
      refine inductionHypothesis (count + 1) (by omega) (by omega) fun {other few} near enough => ?_
      rcases Nat.lt_or_eq_of_le (noFewer near enough) with more | rfl
      · exact more
      · -- A decimal of so many digits would have led to one on the grid.
        obtain ⟨multiple, multipleNear, -⟩ := exists_multiple positive reachesDouble near enough
        obtain ⟨best, same, -⟩ := gridPoint?_of_near positive denPositive exact unit multipleNear
        rw [nothing] at same
        cases same

/-- The digits that a positive double of the format is written with are the fewest ones near
it, and the nearest of these. -/
theorem isFewest_shortest (exponent : ℤ) (positive : 0 < significand)
    (bounded : significand < 2 * normalSignificand) :
    IsFewest significand exponent (shortest significand exponent).value := by
  obtain ⟨numPositive, denPositive, exact⟩ := fraction_spec exponent positive
  obtain ⟨reaches, below⟩ := floorLog10_spec numPositive denPositive
  apply isFewest_shortestFrom positive bounded denPositive exact reaches below 17 1 rfl Nat.one_pos
  intro other few near enough
  exact enough.count_pos (near.pos positive)

end

end RuleAtlas.Binary64
