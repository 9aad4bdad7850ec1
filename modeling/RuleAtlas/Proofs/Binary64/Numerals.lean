import RuleAtlas.Proofs.Binary64.Shortest

/-! # Numerals

A numeral is written with digits, and perhaps a point and digits behind it.  A tidy one has no
zeros that could be left out.  Every number has at most one tidy numeral, and the text of a
decimal without an exponent is the tidy numeral of its value. -/

namespace RuleAtlas.Binary64

/-- Digits, and those behind the point if there is one. -/
structure Numeral where
  whole : List Char
  fraction : Option (List Char)
  whole_ne_nil : whole ≠ []
  whole_digits : AllDigits whole
  fraction_digits : ∀ places ∈ fraction, AllDigits places

namespace Numeral

/-- The digits behind the point. -/
def places (n : Numeral) : List Char := n.fraction.getD []

def digits (n : Numeral) : List Char := n.whole ++ n.places

/-- The point and the digits behind it. -/
def tail (n : Numeral) : List Char :=
  match n.fraction with
  | none => []
  | some places => '.' :: places

def text (n : Numeral) : List Char := n.whole ++ n.tail

def value (n : Numeral) : ℚ := natOfDigits n.digits * 10 ^ (-(n.places.length : ℤ))

/-- There is no zero in front of other digits, and none at the end behind the point, which has
digits behind it. -/
structure IsTidy (n : Numeral) : Prop where
  unpadded : IsUnpadded n.whole
  ends : ∀ places ∈ n.fraction, EndsNonzero places

variable {a b : Numeral}

theorem places_digits (n : Numeral) : AllDigits n.places := by
  unfold places
  cases fraction : n.fraction with
  | none => simp [AllDigits]
  | some places => exact n.fraction_digits places fraction

theorem digits_digits (n : Numeral) : AllDigits n.digits :=
  allDigits_append.2 ⟨n.whole_digits, n.places_digits⟩

theorem stops_tail (n : Numeral) : Text.Stops Char.isDigit n.tail := by
  unfold tail
  split
  · exact Text.stops_nil
  · exact Text.stops_cons.2 rfl

/-- A numeral is told by its text. -/
theorem text_injective (same : a.text = b.text) : a = b := by
  have whole := congrArg (List.takeWhile Char.isDigit) same
  have tail := congrArg (List.dropWhile Char.isDigit) same
  simp only [text, Text.takeWhile_of_stops a.whole_digits a.stops_tail,
    Text.takeWhile_of_stops b.whole_digits b.stops_tail] at whole
  simp only [text, Text.dropWhile_of_stops a.whole_digits a.stops_tail,
    Text.dropWhile_of_stops b.whole_digits b.stops_tail] at tail
  obtain ⟨aWhole, aFraction, _, _, _⟩ := a
  obtain ⟨bWhole, bFraction, _, _, _⟩ := b
  obtain rfl : aWhole = bWhole := whole
  have fraction : aFraction = bFraction := by
    cases aFraction <;> cases bFraction <;> simp_all [Numeral.tail]
  subst fraction
  rfl

/-! ## Tidy numerals -/

/-- A tidy numeral with places ends in another digit than zero. -/
theorem IsTidy.endsNonzero (tidy : a.IsTidy) (some_places : a.places ≠ []) :
    EndsNonzero a.digits := by
  unfold digits places at *
  cases fraction : a.fraction with
  | none => simp [fraction] at some_places
  | some places =>
    obtain ⟨front, c, last, nonzero⟩ := tidy.ends places fraction
    exact ⟨a.whole ++ front, c, by simp [last], nonzero⟩

/-- A tidy numeral has no more places than another one of the same value. -/
theorem IsTidy.places_le (tidy : a.IsTidy) (same : a.value = b.value) :
    a.places.length ≤ b.places.length := by
  by_contra more
  obtain ⟨zeros, longer⟩ : ∃ zeros, a.places.length = b.places.length + (zeros + 1) :=
    ⟨a.places.length - b.places.length - 1, by omega⟩
  have some_places : a.places ≠ [] := List.ne_nil_of_length_pos (by omega)
  have last := (tidy.endsNonzero some_places).mod_ten a.digits_digits
  -- The number of the digits would be a multiple of ten.
  have power : (10 : ℚ) ^ (-(b.places.length : ℤ)) =
      10 ^ (zeros + 1) * 10 ^ (-(a.places.length : ℤ)) := by
    rw [longer, ← zpow_natCast, ← zpow_add₀ (by norm_num)]
    congr 1
    push_cast
    ring
  have multiple : natOfDigits a.digits = natOfDigits b.digits * 10 ^ (zeros + 1) := by
    unfold value at same
    rw [power, ← mul_assoc, mul_left_inj' (ten_zpow_pos _).ne'] at same
    exact_mod_cast same
  rw [multiple, Nat.pow_succ, ← Nat.mul_assoc] at last
  exact last (Nat.mul_mod_left ..)

/-- The value has one tidy numeral. -/
theorem IsTidy.eq_of_value (aTidy : a.IsTidy) (bTidy : b.IsTidy) (same : a.value = b.value) :
    a = b := by
  have lengths : a.places.length = b.places.length :=
    le_antisymm (aTidy.places_le same) (bTidy.places_le same.symm)
  have numbers : natOfDigits a.digits = natOfDigits b.digits := by
    unfold value at same
    rw [lengths, mul_left_inj' (ten_zpow_pos _).ne'] at same
    exact_mod_cast same
  obtain ⟨wholeNumbers, placesNumbers⟩ :=
    natOfDigits_append_inj a.places_digits b.places_digits lengths numbers
  have wholes : a.whole = b.whole := by
    rw [← toDigits_natOfDigits a.whole_ne_nil a.whole_digits aTidy.unpadded, wholeNumbers,
      toDigits_natOfDigits b.whole_ne_nil b.whole_digits bTidy.unpadded]
  have places := eq_of_natOfDigits_eq a.places_digits b.places_digits lengths placesNumbers
  -- A point has digits behind it, so the places tell whether there is one.
  have ends := aTidy.ends
  have ends' := bTidy.ends
  apply text_injective
  unfold text tail
  unfold Numeral.places at places
  rw [wholes]
  cases fraction : a.fraction <;> cases fraction' : b.fraction <;>
    simp_all [EndsNonzero]

end Numeral

/-! ## The text of a decimal -/

/-- A point and the digits behind it, if there are any. -/
def pointed (fraction : List Char) : List Char :=
  if fraction.isEmpty then [] else '.' :: fraction

theorem Numeral.IsTidy.tail_eq {n : Numeral} (tidy : n.IsTidy) : n.tail = pointed n.places := by
  unfold Numeral.tail Numeral.places pointed
  cases fraction : n.fraction with
  | none => rfl
  | some places =>
    obtain ⟨front, c, last, -⟩ := tidy.ends places fraction
    simp [last]

/-- The text is the tidy numeral of the number. -/
def IsDecimalText (text : List Char) (value : ℚ) : Prop :=
  ∃ n : Numeral, n.IsTidy ∧ n.text = text ∧ n.value = value

/-- Digits without useless zeros, with a point between them if there are some behind it. -/
theorem isDecimalText_of_digits {whole fraction : List Char} (nonempty : whole ≠ [])
    (unpadded : IsUnpadded whole) (wholeDigits : AllDigits whole)
    (fractionDigits : AllDigits fraction) (ends : fraction ≠ [] → EndsNonzero fraction) :
    IsDecimalText (whole ++ pointed fraction)
      (natOfDigits (whole ++ fraction) * 10 ^ (-(fraction.length : ℤ))) := by
  cases fraction with
  | nil =>
    refine ⟨⟨whole, none, nonempty, wholeDigits, by simp⟩, ⟨unpadded, by simp⟩, ?_, ?_⟩
    · rfl
    · rfl
  | cons c fraction =>
    refine ⟨⟨whole, some (c :: fraction), nonempty, wholeDigits, by simpa⟩, ⟨unpadded, ?_⟩, ?_, ?_⟩
    · simpa using ends
    · rfl
    · rfl

/-- Zeros at the end of a fraction do not count. -/
theorem trailing_zeros_value (digits : List Char) (count places : ℕ) :
    (natOfDigits (digits ++ List.replicate count '0') : ℚ) * 10 ^ (-((places + count : ℕ) : ℤ)) =
      natOfDigits digits * 10 ^ (-(places : ℤ)) := by
  rw [natOfDigits_append, natOfDigits_zeros, List.length_replicate]
  push_cast
  rw [neg_add, zpow_add₀ (by norm_num), zpow_neg _ (count : ℤ), zpow_natCast]
  field_simp
  ring

/-- Digits with a point between them. -/
theorem isDecimalText_inside {written : List Char} {places : ℕ} (all : AllDigits written)
    (nonzero : written.head? ≠ some '0') (inside : places < written.length) :
    IsDecimalText (written.take (written.length - places) ++
        pointed (withoutTrailingZeros (written.drop (written.length - places))))
      (natOfDigits written * 10 ^ (-(places : ℤ))) := by
  obtain ⟨count, restored⟩ := withoutTrailingZeros_append (written.drop (written.length - places))
  have whole := List.take_append_drop (written.length - places) written
  have fractionLength := congrArg List.length restored
  rw [List.length_append, List.length_replicate, List.length_drop] at fractionLength
  have back : (withoutTrailingZeros (written.drop (written.length - places))).length + count =
      places := by omega
  have value : (natOfDigits written : ℚ) * 10 ^ (-(places : ℤ)) =
      natOfDigits (written.take (written.length - places) ++
          withoutTrailingZeros (written.drop (written.length - places))) *
        10 ^ (-((withoutTrailingZeros (written.drop (written.length - places))).length : ℤ)) := by
    rw [← trailing_zeros_value (_ ++ withoutTrailingZeros _) count, List.append_assoc, restored,
      whole, back]
  rw [← whole, allDigits_append, ← restored, allDigits_append] at all
  rw [value]
  apply isDecimalText_of_digits
  · rw [Ne, List.take_eq_nil_iff, not_or]
    exact ⟨by omega, List.ne_nil_of_length_pos (by omega)⟩
  · right
    rwa [List.head?_take, if_neg (by omega)]
  · exact all.1
  · exact all.2.1
  · exact endsNonzero_withoutTrailingZeros

/-- Digits behind a point, with zeros in front of them. -/
theorem isDecimalText_outside {written : List Char} {places : ℕ} (all : AllDigits written)
    (positive : 0 < natOfDigits written) (outside : written.length ≤ places) :
    IsDecimalText ('0' :: '.' :: (List.replicate (places - written.length) '0' ++
        withoutTrailingZeros written))
      (natOfDigits written * 10 ^ (-(places : ℤ))) := by
  obtain ⟨count, restored⟩ := withoutTrailingZeros_append written
  have lengths := congrArg List.length restored
  rw [List.length_append, List.length_replicate] at lengths
  have kept : withoutTrailingZeros written ≠ [] := by
    intro none
    rw [none, List.nil_append] at restored
    rw [← restored, natOfDigits_zeros] at positive
    omega
  generalize fraction :
    List.replicate (places - written.length) '0' ++ withoutTrailingZeros written = padded
  have text : '0' :: '.' :: padded = ['0'] ++ pointed padded := by
    simp [← fraction, pointed, kept]
  have back : padded.length + count = places := by
    rw [← fraction, List.length_append, List.length_replicate]
    omega
  -- The zeros at the end count for nothing, so the digits without them are at the same place.
  have value : (natOfDigits written : ℚ) * 10 ^ (-(places : ℤ)) =
      natOfDigits (['0'] ++ padded) * 10 ^ (-(padded.length : ℤ)) := by
    have zeros : natOfDigits (['0'] ++ padded) = natOfDigits (withoutTrailingZeros written) := by
      simp [← fraction, natOfDigits_append, natOfDigits_cons]
    rw [zeros, ← trailing_zeros_value (withoutTrailingZeros written) count, restored, back]
  have split := all
  rw [← restored, allDigits_append] at split
  rw [text, value]
  apply isDecimalText_of_digits
  · simp
  · exact .inl rfl
  · simp [AllDigits]
  · rw [← fraction]
    exact allDigits_append.2 ⟨allDigits_zeros _, split.1⟩
  · intro _
    obtain ⟨front, c, last, nonzero⟩ := endsNonzero_withoutTrailingZeros kept
    exact ⟨List.replicate (places - written.length) '0' ++ front, c, by
      rw [← fraction, last, List.append_assoc], nonzero⟩

/-- A positive decimal is written as its tidy numeral. -/
theorem isDecimalText_positional {decimal : Digits} (positive : 0 < decimal.digits) :
    IsDecimalText decimal.positional decimal.value := by
  obtain ⟨digits, place⟩ := decimal
  change 0 < digits at positive
  have all := allDigits_toDigits digits
  have number := natOfDigits_toDigits digits
  have nonempty : Nat.toDigits 10 digits ≠ [] := by simp
  have nonzero : (Nat.toDigits 10 digits).head? ≠ some '0' := by
    apply (isUnpadded_toDigits digits).resolve_left
    intro zero
    rw [zero] at number
    exact positive.ne number
  simp only [Digits.positional]
  generalize Nat.toDigits 10 digits = written at *
  cases place with
  | ofNat k =>
    have noPlaces : AllDigits [] := fun _ member => by cases member
    have text := isDecimalText_of_digits
      (List.append_ne_nil_of_left_ne_nil nonempty (List.replicate k '0'))
      (.inr (by rwa [List.head?_append_of_ne_nil _ nonempty]))
      (allDigits_append.2 ⟨all, allDigits_zeros k⟩) noPlaces (absurd rfl)
    simpa [pointed, Digits.value, natOfDigits_append, number] using text
  | negSucc k =>
    rw [Digits.value_negSucc, ← number]
    simp only
    split
    · rename_i inside
      exact isDecimalText_inside all nonzero inside
    · rename_i outside
      exact isDecimalText_outside all (by rwa [number]) (not_lt.1 outside)

end RuleAtlas.Binary64
