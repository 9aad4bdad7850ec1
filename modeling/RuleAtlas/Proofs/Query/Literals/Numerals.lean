import Mathlib.Data.Nat.Digits.Defs
import RuleAtlas.Proofs.Query.Lexical

/-! # Numerals

The digits of a base up to sixteen, the letters among them in either case, and the numbers
that strings of digits stand for, the first digit counting most.  The readers of escapes and
of hexadecimal numbers find these numbers. -/

namespace RuleAtlas.Text

/-- The character is the digit of the base with this value. -/
def IsDigit (base value : Nat) (c : Char) : Prop :=
  value < base ∧ c ∈ [value.digitChar, value.digitChar.toUpper]

/-- The text is made of digits of the base, and the number has these digits. -/
def IsNumeral (base : Nat) (text : List Char) (number : Nat) : Prop :=
  ∃ digits, List.Forall₂ (IsDigit base) digits text ∧ Nat.ofDigits base digits.reverse = number

/-- What holds of the values of a base in both cases holds of every digit. -/
theorem IsDigit.of_each {base value : Nat} {c : Char} {property : Nat → Char → Prop}
    (digit : IsDigit base value c) (each : ∀ value < base,
      property value value.digitChar ∧ property value value.digitChar.toUpper) :
    property value c := by
  obtain ⟨small, written⟩ := digit
  obtain rfl | rfl := List.mem_pair.1 written
  · exact (each value small).1
  · exact (each value small).2

namespace IsNumeral

variable {base number : Nat} {text : List Char}

theorem nil_iff : IsNumeral base [] number ↔ number = 0 := by
  constructor
  · rintro ⟨digits, each, rfl⟩
    cases each
    rfl
  · rintro rfl
    exact ⟨[], .nil, rfl⟩

/-- A digit counts as much as the digits behind it leave places. -/
theorem cons_iff {c : Char} : IsNumeral base (c :: text) number ↔
    ∃ value rest, IsDigit base value c ∧ IsNumeral base text rest ∧
      number = value * base ^ text.length + rest := by
  have place : ∀ {value : Nat} {digits : List Nat}, List.Forall₂ (IsDigit base) digits text →
      Nat.ofDigits base (value :: digits).reverse =
        value * base ^ text.length + Nat.ofDigits base digits.reverse := by
    intro value digits each
    rw [List.reverse_cons, Nat.ofDigits_append, Nat.ofDigits_singleton, List.length_reverse,
      each.length_eq, Nat.mul_comm, Nat.add_comm]
  constructor
  · rintro ⟨digits, each, rfl⟩
    cases each with
    | @cons value _ digits _ first others =>
      exact ⟨value, _, first, ⟨digits, others, rfl⟩, place others⟩
  · rintro ⟨value, rest, first, ⟨digits, others, rfl⟩, rfl⟩
    exact ⟨value :: digits, .cons first others, place others⟩

/-- A numeral stays below the power of its base with as many places. -/
theorem lt_pow (numeral : IsNumeral base text number) : number < base ^ text.length := by
  induction text generalizing number with
  | nil =>
    rw [nil_iff.1 numeral]
    exact Nat.one_pos
  | cons c text inductionHypothesis =>
    obtain ⟨value, rest, first, others, rfl⟩ := cons_iff.1 numeral
    calc value * base ^ text.length + rest
        < value * base ^ text.length + base ^ text.length :=
          Nat.add_lt_add_left (inductionHypothesis others) _
      _ = (value + 1) * base ^ text.length := (Nat.succ_mul _ _).symm
      _ ≤ base * base ^ text.length := Nat.mul_le_mul_right _ first.1
      _ = base ^ (text.length + 1) := (Nat.pow_succ').symm

end IsNumeral

end RuleAtlas.Text

namespace RuleAtlas.Query

open Text (IsDigit IsNumeral)

/-! ## The values of digits -/

/-- In a smaller base the digits have the same values. -/
theorem digitValue?_eq_some {base value : Nat} (atMost : base ≤ 16) {c : Char} :
    digitValue? base c = some value ↔ digitValue? 16 c = some value ∧ value < base := by
  simp only [digitValue?, Option.filter_eq_some_iff, decide_eq_true_eq]
  constructor
  · rintro ⟨found, small⟩
    exact ⟨⟨found, by omega⟩, small⟩
  · rintro ⟨⟨found, -⟩, small⟩
    exact ⟨found, small⟩

theorem digitValue?_of_isDigit {c : Char} {value : Nat} (digit : IsDigit 16 value c) :
    digitValue? 16 c = some value := by
  apply digit.of_each
  decide

/-- Every character with a value is the digit of that value, in one of the two cases. -/
theorem isDigit_of_digitValue? {c : Char} {value : Nat} (found : digitValue? 16 c = some value) :
    IsDigit 16 value c := by
  have below : c.toNat < 128 := by
    by_contra beyond
    have noDigit : c.isDigit = false := by
      refine Bool.eq_false_iff.2 fun digit => ?_
      have bounds := Binary64.toNat_bounds_of_isDigit digit
      omega
    have noLetter : ∀ last : Char, last.toNat < 128 → ¬ c ≤ last := by
      intro last small atMost
      exact beyond (Nat.lt_of_le_of_lt (UInt32.le_iff_toNat_le.1 atMost) small)
    simp [digitValue?, noDigit, noLetter 'f' (by decide), noLetter 'F' (by decide)] at found
  -- The characters of the small codes, one by one.
  have each : ∀ code < 128, ∀ value ∈ digitValue? 16 (Char.ofNat code),
      value < 16 ∧ Char.ofNat code ∈ [value.digitChar, value.digitChar.toUpper] := by
    decide +kernel
  have here := each c.toNat below
  rw [Char.ofNat_toNat] at here
  exact here value found

theorem digitValue?_iff {base : Nat} (atMost : base ≤ 16) {c : Char} {value : Nat} :
    digitValue? base c = some value ↔ IsDigit base value c := by
  rw [digitValue?_eq_some atMost]
  constructor
  · rintro ⟨found, small⟩
    exact ⟨small, (isDigit_of_digitValue? found).2⟩
  · rintro ⟨small, written⟩
    exact ⟨digitValue?_of_isDigit ⟨Nat.lt_of_lt_of_le small atMost, written⟩, small⟩

/-! ## The readers of digits -/

/-- A digit behind a value leaves it one place further to the left. -/
theorem shift_digit (value digit number base places : Nat) :
    (value * base + digit) * base ^ places + number =
      value * base ^ (places + 1) + (digit * base ^ places + number) := by
  rw [Nat.add_mul, Nat.mul_assoc, ← Nat.pow_succ', Nat.add_assoc]

/-- Digits are read as the number that they stand for, behind the value in front of them. -/
theorem readDigits_of_isNumeral {base : Nat} (atMost : base ≤ 16) {digits : List Char}
    {number : Nat} (numeral : IsNumeral base digits number) (value : Nat) (rest : List Char) :
    readDigits base digits.length value (digits ++ rest) =
      .found digits (value * base ^ digits.length + number) := by
  induction digits generalizing number value with
  | nil =>
    rw [IsNumeral.nil_iff.1 numeral]
    simp [readDigits]
  | cons c digits inductionHypothesis =>
    obtain ⟨digit, others, first, behind, rfl⟩ := IsNumeral.cons_iff.1 numeral
    rw [List.cons_append, List.length_cons, readDigits, (digitValue?_iff atMost).2 first]
    simp only [inductionHypothesis behind]
    rw [shift_digit]
    rfl

/-- Where as many digits are read as asked for, they are the digits of a number. -/
theorem isNumeral_of_readDigits {base : Nat} (atMost : base ≤ 16) {count value code : Nat}
    {text : List Char} (found : (readDigits base count value text).outcome = .ok code) :
    ∃ digits rest number, text = digits ++ rest ∧ digits.length = count ∧
      IsNumeral base digits number ∧ code = value * base ^ count + number := by
  induction count generalizing value text with
  | zero =>
    cases found
    exact ⟨[], text, 0, rfl, rfl, IsNumeral.nil_iff.2 rfl, by simp⟩
  | succ count inductionHypothesis =>
    cases text with
    | nil => cases found
    | cons c text =>
      rw [readDigits] at found
      split at found
      · cases found
      · rename_i digit here
        obtain ⟨digits, rest, number, rfl, rfl, numeral, rfl⟩ :=
          inductionHypothesis (Reading.outcome_of_behind found)
        have first : IsDigit base digit c := (digitValue?_iff atMost).1 here
        exact ⟨c :: digits, rest, _, rfl, rfl,
          IsNumeral.cons_iff.2 ⟨digit, number, first, numeral, rfl⟩, shift_digit ..⟩

end RuleAtlas.Query
