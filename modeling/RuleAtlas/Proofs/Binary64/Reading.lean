import RuleAtlas.Proofs.Binary64.Fewest
import RuleAtlas.Proofs.Binary64.Numerals

/-! # Reading decimal text

Digits near a positive double are read as that double, so the text of a double that is no
infinity reads back.  Whatever is read from digits is not negative and is a number in the one
way of the format. -/

namespace RuleAtlas.Binary64

/-! ## Digits and a power of ten -/

/-- Five decimal places hold sixteen binary ones. -/
theorem two_zpow_le_ten_zpow (count : ℕ) :
    (2 : ℚ) ^ ((16 * count : ℕ) : ℤ) ≤ 10 ^ ((5 * count : ℕ) : ℤ) := by
  rw [zpow_natCast, zpow_natCast, pow_mul, pow_mul]
  exact pow_le_pow_left₀ (by norm_num) (by norm_num) count

theorem ten_zpow_le_two_zpow : (10 : ℚ) ^ (-340 : ℤ) ≤ 2 ^ (-1088 : ℤ) := by
  rw [zpow_neg, zpow_neg]
  exact inv_anti₀ (two_zpow_pos _) (two_zpow_le_ten_zpow 68)

namespace Near

variable {significand : ℕ} {exponent : ℤ} {value : ℚ}

theorem lt_ten_zpow (near : Near significand exponent value)
    (bounded : significand < 2 * normalSignificand) (most : exponent ≤ maxExponent) :
    value < 10 ^ (320 : ℤ) := by
  calc value < 2 ^ (exponent + 53) := near.lt_two_zpow bounded
    _ ≤ 2 ^ (1024 : ℤ) := two_zpow_mono (by unfold maxExponent at most; omega)
    _ ≤ 10 ^ (320 : ℤ) := two_zpow_le_ten_zpow 64

theorem ten_zpow_le (near : Near significand exponent value) (positive : 0 < significand)
    (least : minExponent ≤ exponent) : (10 : ℚ) ^ (-340 : ℤ) ≤ value := by
  have gap : (gapBelow significand exponent : ℚ) ≤ 2 := by
    exact_mod_cast gapBelow_le significand exponent
  have one : (1 : ℚ) ≤ significand := by exact_mod_cast positive
  have factor : (1 : ℚ) ≤ 4 * significand - gapBelow significand exponent := by linarith
  calc (10 : ℚ) ^ (-340 : ℤ) ≤ 2 ^ (-1088 : ℤ) := ten_zpow_le_two_zpow
    _ ≤ 2 ^ (exponent - 2) := two_zpow_mono (by unfold minExponent at least; omega)
    _ = 1 * 2 ^ (exponent - 2) := (one_mul _).symm
    _ ≤ _ := mul_le_mul_of_nonneg_right factor (two_zpow_pos _).le
    _ ≤ value := near.low

end Near

/-- The first digit that counts gives the magnitude of a decimal. -/
theorem place_bounds {c : Char} {digits : List Char} (all : AllDigits (c :: digits))
    (nonzero : c ≠ '0') {low place high : ℤ}
    (large : (10 : ℚ) ^ low ≤ natOfDigits (c :: digits) * 10 ^ place)
    (small : (natOfDigits (c :: digits) : ℚ) * 10 ^ place < 10 ^ high) :
    low < digits.length + 1 + place ∧ digits.length + place < high := by
  have unit := ten_zpow_pos place
  have ten : (10 : ℚ) ≠ 0 := by norm_num
  have atLeast : (10 : ℚ) ^ (digits.length : ℤ) ≤ natOfDigits (c :: digits) := by
    rw [zpow_natCast]
    exact_mod_cast pow_le_natOfDigits (all c List.mem_cons_self) nonzero
  have below : (natOfDigits (c :: digits) : ℚ) < 10 ^ ((digits.length + 1 : ℕ) : ℤ) := by
    rw [zpow_natCast]
    exact_mod_cast natOfDigits_lt all
  constructor
  · have product := mul_lt_mul_of_pos_right below unit
    rw [← zpow_add₀ ten] at product
    exact (zpow_lt_zpow_iff_right₀ (by norm_num)).1 (lt_of_le_of_lt large product)
  · have product := mul_le_mul_of_nonneg_right atLeast unit.le
    rw [← zpow_add₀ ten] at product
    exact (zpow_lt_zpow_iff_right₀ (by norm_num)).1 (lt_of_le_of_lt product small)

/-- A string of digits and a power of ten near a positive double are read as that double. -/
theorem ofDecimal_of_near (negative : Bool) {digits : List Char} (all : AllDigits digits)
    {exponent place : ℤ} {significand : ℕ} (positive : 0 < significand)
    (canonical : Canonical (.finite negative significand exponent))
    (near : Near significand exponent (natOfDigits digits * 10 ^ place)) :
    ofDecimal negative digits place = .finite negative significand exponent := by
  obtain ⟨bounded, least, most, -⟩ := id canonical
  have keptAll : AllDigits (digits.dropWhile (· = '0')) := fun c member =>
    all c ((List.dropWhile_suffix _).subset member)
  have keptHead : Text.Stops (fun c => decide (c = '0')) (digits.dropWhile (· = '0')) :=
    Text.stops_dropWhile digits
  -- Zeros in front do not count, so the digits begin with another one.
  rw [← natOfDigits_dropWhile_zero] at near
  unfold ofDecimal
  simp only
  generalize digits.dropWhile (· = '0') = kept at *
  cases kept with
  | nil => simpa using near.pos positive
  | cons c kept =>
    have nonzero : c ≠ '0' := by simpa using keptHead
    obtain ⟨notTiny, notHuge⟩ := place_bounds keptAll nonzero (near.ten_zpow_le positive least)
      (near.lt_ten_zpow bounded most)
    rw [if_neg (by simp), List.length_cons, if_neg (by push_cast; omega),
      if_neg (by push_cast; omega)]
    cases place with
    | ofNat k =>
      exact ofRatio_of_near negative Nat.one_pos positive canonical (by simpa using near)
    | negSucc k =>
      refine ofRatio_of_near negative (Nat.pow_pos (by decide)) positive canonical ?_
      simpa [div_eq_mul_inv, zpow_negSucc] using near

/-- Digits and a power of ten lie near the double that they are read as. -/
theorem near_of_ofDecimal {negative : Bool} {digits : List Char} (all : AllDigits digits)
    {exponent place : ℤ} {significand : ℕ}
    (read : ofDecimal negative digits place = .finite negative significand exponent) :
    Near significand exponent (natOfDigits digits * 10 ^ place) := by
  have keptAll : AllDigits (digits.dropWhile (· = '0')) := fun c member =>
    all c ((List.dropWhile_suffix _).subset member)
  rw [← natOfDigits_dropWhile_zero]
  unfold ofDecimal at read
  simp only at read
  generalize digits.dropWhile (· = '0') = kept at *
  have notNegative : (0 : ℚ) ≤ natOfDigits kept * 10 ^ place :=
    mul_nonneg (Nat.cast_nonneg _) (ten_zpow_pos _).le
  split at read
  · -- There are no digits but zeros.
    rename_i empty
    obtain ⟨rfl, rfl⟩ : 0 = significand ∧ minExponent = exponent := by simpa [zero] using read
    obtain rfl : kept = [] := by simpa using empty
    apply near_zero notNegative
    simp only [natOfDigits_nil, Nat.cast_zero, zero_mul]
    exact mul_nonneg zero_le_two (two_zpow_pos _).le
  · split at read
    · cases read
    · split at read
      · -- The digits stand so far behind the point that they are less than every double.
        rename_i tiny
        obtain ⟨rfl, rfl⟩ : 0 = significand ∧ minExponent = exponent := by simpa [zero] using read
        apply near_zero notNegative
        have below : (natOfDigits kept : ℚ) ≤ (10 ^ kept.length : ℕ) := by
          exact_mod_cast (natOfDigits_lt keptAll).le
        calc (natOfDigits kept : ℚ) * 10 ^ place
            ≤ (10 ^ kept.length : ℕ) * 10 ^ place :=
              mul_le_mul_of_nonneg_right below (ten_zpow_pos _).le
          _ = 10 ^ (place + kept.length) := (ten_zpow_add_natCast ..).symm
          _ ≤ 10 ^ (-340 : ℤ) := zpow_le_zpow_right₀ (by norm_num) (by omega)
          _ ≤ 2 ^ (-1088 : ℤ) := ten_zpow_le_two_zpow
          _ ≤ 2 ^ (minExponent - 2) := two_zpow_mono (by decide)
          _ ≤ 2 * 2 ^ (minExponent - 2) := by linarith [two_zpow_pos (minExponent - 2)]
      · cases place with
        | ofNat k => simpa using near_of_ofRatio Nat.one_pos read
        | negSucc k =>
          have near := near_of_ofRatio (Nat.pow_pos (by decide)) read
          simpa [div_eq_mul_inv, zpow_negSucc] using near

theorem canonical_ofDecimal (negative : Bool) (digits : List Char) (place : ℤ) :
    Canonical (ofDecimal negative digits place) := by
  have zeroCanonical : Canonical (zero negative) := by cases negative <;> decide
  unfold ofDecimal
  simp only
  split
  · exact zeroCanonical
  · split
    · trivial
    · split
      · exact zeroCanonical
      · cases place with
        | ofNat k => exact canonical_ofRatio negative _ Nat.one_pos
        | negSucc k => exact canonical_ofRatio negative _ (Nat.pow_pos (by decide))

/-- Digits of 64 bits are read as the integer that they stand for, and come to a finite number. -/
theorem ofDecimal_of_lt {digits : List Char} (all : AllDigits digits)
    (fits : natOfDigits digits < 2 ^ 64) :
    ofDecimal false digits 0 = ofInt (natOfDigits digits) ∧
      (ofInt (natOfDigits digits)).isFinite = true := by
  have integer : ofInt (natOfDigits digits) = ofRatio false (natOfDigits digits) 1 := by
    rw [ofInt, decide_eq_false (Int.not_lt.2 (Int.natCast_nonneg _)), Int.natAbs_natCast]
  have keptAll : AllDigits (digits.dropWhile (· = '0')) := fun c member =>
    all c ((List.dropWhile_suffix _).subset member)
  have keptHead : Text.Stops (fun c => decide (c = '0')) (digits.dropWhile (· = '0')) :=
    Text.stops_dropWhile digits
  rw [integer, ← natOfDigits_dropWhile_zero] at *
  constructor
  · unfold ofDecimal
    simp only
    generalize digits.dropWhile (· = '0') = kept at *
    cases kept with
    | nil => rfl
    | cons c kept =>
      -- There are no more than twenty digits.
      have reached : 10 ^ kept.length ≤ natOfDigits (c :: kept) :=
        pow_le_natOfDigits (keptAll c List.mem_cons_self) (by simpa using keptHead)
      have places : kept.length < 20 := by
        apply (Nat.pow_lt_pow_iff_right (a := 10) (by decide)).1
        exact Nat.lt_of_le_of_lt reached (Nat.lt_trans fits (by decide))
      rw [if_neg (by simp), List.length_cons, if_neg (by push_cast; omega),
        if_neg (by push_cast; omega)]
      exact congrArg (ofRatio false · 1) (Nat.mul_one _)
  · apply isFinite_ofRatio false Nat.one_pos
    rw [Nat.cast_one, div_one]
    calc (natOfDigits (digits.dropWhile (· = '0')) : ℚ) < (2 ^ 64 : ℕ) := by exact_mod_cast fits
      _ = 2 ^ (64 : ℤ) := by norm_num
      _ ≤ 2 ^ (1023 : ℤ) := two_zpow_mono (by decide)

/-! ## Text -/

/-- The number is an infinity above all others, or it is finite and has no minus sign. -/
def IsUnsigned : Binary64 → Prop
  | .nan => False
  | .infinity negative => negative = false
  | .finite negative _ _ => negative = false

theorem isUnsigned_ofRatio (num den : ℕ) : IsUnsigned (ofRatio false num den) := by
  unfold ofRatio
  split
  · rfl
  · simp only
    split <;> split <;> rfl

theorem isUnsigned_ofDecimal (digits : List Char) (place : ℤ) :
    IsUnsigned (ofDecimal false digits place) := by
  unfold ofDecimal
  simp only
  split
  · rfl
  · split
    · rfl
    · split
      · rfl
      · cases place with
        | ofNat k => exact isUnsigned_ofRatio _ _
        | negSucc k => exact isUnsigned_ofRatio _ _

/-- The text begins as numbers without a sign do. -/
def BeginsNumber (text : List Char) : Prop := ∃ c ∈ text.head?, c.isDigit = true ∨ c = '.'

/-- A text that begins with a digit or a point is no word and has no sign. -/
theorem ofText?_of_beginsNumber {text : List Char} (begins : BeginsNumber text) :
    ofText? text = ofUnsignedText? false text := by
  obtain ⟨c, member, digit⟩ := begins
  obtain ⟨rest, rfl⟩ : ∃ rest, text = c :: rest := by
    cases text with
    | nil => simp at member
    | cons d rest =>
      simp only [List.head?_cons, Option.mem_def, Option.some.injEq] at member
      exact ⟨rest, by rw [member]⟩
  -- Signs and letters lie outside of these codes.
  have code : c.toNat = 46 ∨ (48 ≤ c.toNat ∧ c.toNat ≤ 57) :=
    digit.symm.imp (fun point => by rw [point]; rfl) toNat_bounds_of_isDigit
  have differs : ∀ d : Char, (d.toNat ≠ 46 ∧ (d.toNat < 48 ∨ 57 < d.toNat)) → c ≠ d := by
    rintro d other rfl
    omega
  have lower : c.toLower = c := by
    unfold Char.toLower
    rw [dif_neg]
    rintro ⟨upper, _⟩
    have bound : 65 ≤ c.toNat := UInt32.le_iff_toNat_le.1 upper
    omega
  have unsigned : ofText? (c :: rest) = ofMagnitudeText? false (c :: rest) := by
    unfold ofText?
    split
    · rename_i same
      exact absurd (List.cons.inj same).1 (differs '-' (by decide))
    · rename_i same
      exact absurd (List.cons.inj same).1 (differs '+' (by decide))
    · rfl
  have noI : c ≠ 'i' := differs 'i' (by decide)
  have noN : c ≠ 'n' := differs 'n' (by decide)
  rw [unsigned, ofMagnitudeText?]
  simp [lower, noI, noN]

/-- The double that a numeral stands for. -/
def Numeral.double (n : Numeral) : Binary64 :=
  ofDecimal false n.digits (-(n.places.length : ℤ))

/-- A numeral is read as the double that it stands for. -/
theorem Numeral.ofText?_text (n : Numeral) : ofText? n.text = some n.double := by
  have begins : BeginsNumber n.text := by
    obtain ⟨c, rest, whole⟩ := List.exists_cons_of_ne_nil n.whole_ne_nil
    refine ⟨c, by simp [text, whole], .inl (n.whole_digits c ?_)⟩
    rw [whole]
    exact List.mem_cons_self
  rw [ofText?_of_beginsNumber begins, ofUnsignedText?, text]
  simp only [Text.takeWhile_of_stops n.whole_digits n.stops_tail,
    Text.dropWhile_of_stops n.whole_digits n.stops_tail]
  unfold double digits places tail
  cases fraction : n.fraction with
  | none => simp [n.whole_ne_nil]
  | some places =>
    have all := n.fraction_digits places fraction
    have run : places.takeWhile Char.isDigit = places := by
      simpa using Text.takeWhile_of_stops all Text.stops_nil
    have behind : places.dropWhile Char.isDigit = [] := by
      simpa using Text.dropWhile_of_stops all Text.stops_nil
    simp [run, behind, n.whole_ne_nil]

/-- A number with digits behind a sign is in the one way of the format. -/
theorem canonical_of_ofUnsignedText? {text : List Char} {number : Binary64}
    (read : ofUnsignedText? false text = some number) : Canonical number ∧ IsUnsigned number := by
  unfold ofUnsignedText? at read
  simp only at read
  -- With and without a point the digits are read alike.
  split at read
  all_goals
    split at read
    · cases read
    · obtain ⟨exponent, _, rfl⟩ := Option.map_eq_some_iff.1 read
      exact ⟨canonical_ofDecimal .., isUnsigned_ofDecimal ..⟩

theorem digits_pos_of_near {significand : ℕ} {exponent : ℤ} {decimal : Digits}
    (positive : 0 < significand) (near : Near significand exponent decimal.value) :
    0 < decimal.digits := by
  have product := near.pos positive
  rw [Digits.value, mul_pos_iff_of_pos_right (ten_zpow_pos _)] at product
  exact_mod_cast product

/-- A double of the format without a sign reads back from its text. -/
theorem ofText?_finiteText {significand : ℕ} {exponent : ℤ}
    (canonical : Canonical (.finite false significand exponent)) :
    ∃ whole fraction, finiteText false significand exponent = whole ++ pointed fraction ∧
      whole ≠ [] ∧ AllDigits whole ∧ AllDigits fraction ∧
      ofText? (whole ++ pointed fraction) = some (.finite false significand exponent) := by
  rcases Nat.eq_zero_or_pos significand with rfl | positive
  · obtain ⟨_, _, _, normal | least⟩ := canonical
    · exact absurd normal (by decide)
    · subst least
      exact ⟨['0'], [], rfl, by simp, by simp [AllDigits], by simp [AllDigits], by decide⟩
  · have near := (isFewest_shortest exponent positive canonical.1).near
    have digitsPositive := digits_pos_of_near positive near
    obtain ⟨numeral, tidy, text, value⟩ := isDecimalText_positional digitsPositive
    refine ⟨numeral.whole, numeral.places, ?_, numeral.whole_ne_nil, numeral.whole_digits,
      numeral.places_digits, ?_⟩
    · rw [← tidy.tail_eq]
      simp [finiteText, positive.ne', ← text, Numeral.text]
    · rw [← value] at near
      rw [← tidy.tail_eq]
      refine numeral.ofText?_text.trans (congrArg some ?_)
      exact ofDecimal_of_near false numeral.digits_digits positive canonical near

end RuleAtlas.Binary64
