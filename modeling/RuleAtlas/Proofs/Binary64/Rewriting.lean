import RuleAtlas.Proofs.Binary64.Reading

/-! # Numerals that are written again

A numeral is read as a double, and the double is written as a numeral.  This is the numeral that
was read if and only if it has no useless zeros, no numeral with the same double needs fewer
digits, and none that needs as few is nearer to the double. -/

namespace RuleAtlas.Binary64.Numeral

/-- No numeral with the same double needs fewer digits, and of those that need no more this one is
the nearest to the double. -/
structure IsShortest (n : Numeral) (center : ℚ) : Prop where
  fewest : ∀ {other : Numeral} {count}, other.double = n.double → HasDigits other.value count →
    HasDigits n.value count
  nearest : ∀ {other : Numeral}, other.double = n.double →
    (∀ count, HasDigits n.value count → HasDigits other.value count) →
    IsNearer center n.value other.value

/-- The numeral stands for a finite double, has no useless zeros and is the shortest one of the
double. -/
def IsStandard (n : Numeral) : Prop :=
  ∃ significand exponent, n.double = .finite false significand exponent ∧ n.IsTidy ∧
    n.IsShortest (significand * 2 ^ exponent)

variable {significand : ℕ} {exponent : ℤ} {a b : Numeral}

/-- There is one standard numeral of a double. -/
theorem IsStandard.eq_of_double (aStandard : a.IsStandard) (bStandard : b.IsStandard)
    (same : a.double = b.double) : a = b := by
  obtain ⟨significand, exponent, aDouble, aTidy, aShortest⟩ := aStandard
  obtain ⟨significand', exponent', bDouble, bTidy, bShortest⟩ := bStandard
  rw [aDouble, bDouble] at same
  cases same
  have here : b.double = a.double := bDouble.trans aDouble.symm
  -- Both need the same digits, so each of them is at least as near as the other one.
  have first := aShortest.nearest here fun _ => bShortest.fewest here.symm
  have second := bShortest.nearest here.symm fun _ => aShortest.fewest here
  exact aTidy.eq_of_value bTidy (first.antisymm second)

/-- Zero. -/
def zero : Numeral := ⟨['0'], none, by simp, by simp [AllDigits], by simp⟩

theorem isStandard_zero : zero.IsStandard := by
  have value : zero.value = 0 := by
    simp [Numeral.value, digits, places, zero, natOfDigits]
  refine ⟨0, minExponent, by decide, ⟨.inl rfl, by simp [zero]⟩, ?_, ?_⟩
  · intro other count _ _
    exact ⟨0, Nat.pow_pos (by decide), 0, by simp [value]⟩
  · intro other _ asFew
    -- No digits at all are enough for zero only.
    obtain ⟨digits, none, place, same⟩ := asFew 0 ⟨0, Nat.one_pos, 0, by simp [value]⟩
    obtain rfl : digits = 0 := by simpa using none
    right
    simp [value, same]

/-- The text of a double without a sign is its standard numeral. -/
theorem exists_isStandard (canonical : Canonical (.finite false significand exponent)) :
    ∃ n : Numeral, n.text = finiteText false significand exponent ∧
      n.double = .finite false significand exponent ∧ n.IsStandard := by
  rcases Nat.eq_zero_or_pos significand with rfl | positive
  · obtain ⟨-, -, -, normal | rfl⟩ := canonical
    · exact absurd normal (by decide)
    · exact ⟨zero, rfl, by decide, isStandard_zero⟩
  · have best := isFewest_shortest exponent positive canonical.1
    have digitsPositive := digits_pos_of_near positive best.near
    obtain ⟨n, tidy, text, value⟩ := isDecimalText_positional digitsPositive
    rw [← value] at best
    have double : n.double = .finite false significand exponent :=
      ofDecimal_of_near false n.digits_digits positive canonical best.near
    have near : ∀ {other : Numeral}, other.double = n.double →
        Near significand exponent other.value := fun same =>
      near_of_ofDecimal (Numeral.digits_digits _) (same.trans double)
    refine ⟨n, by simp [finiteText, positive.ne', text], double, significand, exponent, double,
      tidy, ?_, ?_⟩
    · exact fun same => best.fewest (near same)
    · exact fun same => best.nearest (near same)

/-- A numeral of a finite double is what the double is written as if it is the standard one, and
only then. -/
theorem render_double_eq_iff {n : Numeral} (names : SpecialNames)
    (finite : n.double.isFinite = true) :
    n.double.render names = String.ofList n.text ↔ n.IsStandard := by
  cases double : n.double with
  | nan => rw [double] at finite; cases finite
  | infinity => rw [double] at finite; cases finite
  | finite negative significand exponent =>
    have unsigned : IsUnsigned n.double := isUnsigned_ofDecimal _ _
    have canonical : Canonical n.double := canonical_ofDecimal _ _ _
    rw [double] at unsigned canonical
    obtain rfl : negative = false := unsigned
    obtain ⟨written, text, sameDouble, standard⟩ := exists_isStandard canonical
    rw [Binary64.render, ← text, String.ofList_inj]
    constructor
    · intro same
      rwa [← text_injective same]
    · intro own
      rw [own.eq_of_double standard (double.trans sameDouble.symm)]

end RuleAtlas.Binary64.Numeral
