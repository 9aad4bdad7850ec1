import RuleAtlas.Proofs.Query.Literals.Numbers
import RuleAtlas.Query.Expr.Parser

/-! # What number tokens stand for

Every token of a number is written by the grammar of numbers, and stands for a double, unless
it is hexadecimal and its value has more than 64 bits. -/

namespace RuleAtlas.Query

open Binary64 (AllDigits)
open Text (IsDigit IsNumeral)

/-! ## Hexadecimal numbers -/

/-- Digits behind a value add their number to it, the value moved to the left. -/
theorem foldl_of_isNumeral {digits : List Char} {number : Nat}
    (numeral : IsNumeral 16 digits number) (value : Nat) :
    digits.foldl (fun value c => value * 16 + (digitValue? 16 c).getD 0) value =
      value * 16 ^ digits.length + number := by
  induction digits generalizing number value with
  | nil =>
    rw [IsNumeral.nil_iff.1 numeral]
    simp
  | cons c digits inductionHypothesis =>
    obtain ⟨digit, rest, first, others, rfl⟩ := IsNumeral.cons_iff.1 numeral
    rw [List.foldl_cons, inductionHypothesis others, (digitValue?_iff (by decide)).2 first,
      Option.getD_some, shift_digit, List.length_cons]

theorem hexadecimalValue_of_isNumeral {digits : List Char} {number : Nat}
    (numeral : IsNumeral 16 digits number) : hexadecimalValue digits = number := by
  rw [hexadecimalValue, foldl_of_isNumeral numeral, Nat.zero_mul, Nat.zero_add]

theorem numberValue?_of_isHexadecimal {text : List Char} {value : Nat}
    (number : IsHexadecimal text value) :
    numberValue? text = if 2 ^ 64 ≤ value then none else some (Binary64.ofInt value) := by
  obtain ⟨mark, digits, marks, nonempty, numeral, rfl⟩ := number
  have same : numberValue? ('0' :: mark :: digits) = ofHexadecimal? digits := by
    simp only [List.mem_cons, List.not_mem_nil, or_false] at marks
    obtain rfl | rfl := marks <;> rfl
  have all : digits.all isHexDigit = true :=
    List.all_eq_true.2 (exists_isNumeral_iff.1 ⟨value, numeral⟩)
  have some_digits : digits.isEmpty = false := by simpa using nonempty
  rw [same, ofHexadecimal?, hexadecimalValue_of_isNumeral numeral, all, some_digits]
  simp

/-! ## Decimal numbers -/

theorem exponentOfText?_of_digits {sign digits : List Char} (signs : sign ∈ [[], ['+'], ['-']])
    (nonempty : digits ≠ []) (all : AllDigits digits) :
    (Binary64.exponentOfText? (sign ++ digits)).isSome = true := by
  obtain ⟨d, digits, rfl⟩ := List.exists_cons_of_ne_nil nonempty
  have each : (d :: digits).all Char.isDigit = true := List.all_eq_true.2 all
  have digit := all d List.mem_cons_self
  simp only [List.mem_cons, List.not_mem_nil, or_false] at signs
  unfold Binary64.exponentOfText?
  obtain rfl | rfl | rfl := signs
  · -- Digits do not begin with a sign.
    split
    · rename_i same
      obtain ⟨rfl, -⟩ := List.cons.inj same
      cases digit
    · rename_i same
      obtain ⟨rfl, -⟩ := List.cons.inj same
      cases digit
    · simp [each]
  · simp [each]
  · simp [each]

theorem ofUnsignedText?_of_isDecimal {text : List Char} (decimal : IsDecimal text) :
    (Binary64.ofUnsignedText? false text).isSome = true := by
  obtain ⟨mantissa, exponent, isMantissa, isExponent, rfl⟩ := decimal
  obtain ⟨whole, fraction, rfl, all, isFraction, some_digits⟩ := isMantissa.parts
  have noDigit : Text.Stops Char.isDigit exponent := by
    rw [← exponentPart_of_isExponent isExponent]
    exact stops_exponentPart exponent rfl
  have behind : Text.Stops Char.isDigit (fraction ++ exponent) := by
    rw [← fractionPart_of_isFraction isFraction]
    exact stops_append (stops_fractionPart fraction) noDigit
  rw [List.append_assoc, Binary64.ofUnsignedText?]
  simp only [Text.takeWhile_of_stops all behind, Text.dropWhile_of_stops all behind]
  -- With and without a point, in front of each of the exponents.
  cases isFraction with
  | nil =>
    have some_whole : whole ≠ [] := fun none => by simpa using some_digits none
    cases isExponent with
    | nil => simp [some_whole]
    | digits marks signs nonempty all =>
      have place := exponentOfText?_of_digits signs nonempty all
      simp only [List.mem_cons, List.not_mem_nil, or_false] at marks
      obtain rfl | rfl := marks <;> simp [some_whole, place]
  | @point digits fractionAll =>
    have some_digit : ¬(whole = [] ∧ digits = []) := by
      rintro ⟨none, rfl⟩
      simpa using some_digits none
    have run := Text.takeWhile_of_stops fractionAll noDigit
    have tail := Text.dropWhile_of_stops fractionAll noDigit
    simp only [List.cons_append, run, tail]
    cases isExponent with
    | nil => simp [some_digit]
    | digits marks signs nonempty all =>
      have place := exponentOfText?_of_digits signs nonempty all
      simp only [List.mem_cons, List.not_mem_nil, or_false] at marks
      obtain rfl | rfl := marks <;> simp [some_digit, place]

theorem IsMantissa.beginsNumber {text : List Char} (mantissa : IsMantissa text)
    (rest : List Char) : Binary64.BeginsNumber (text ++ rest) := by
  cases mantissa with
  | whole nonempty all _ =>
    obtain ⟨d, digits, rfl⟩ := List.exists_cons_of_ne_nil nonempty
    exact ⟨d, rfl, .inl (all d List.mem_cons_self)⟩
  | point => exact ⟨'.', rfl, .inr rfl⟩

theorem IsDecimal.not_marksHexadecimal {text : List Char} (decimal : IsDecimal text) :
    ¬MarksHexadecimal text := by
  obtain ⟨mantissa, exponent, isMantissa, isExponent, rfl⟩ := decimal
  obtain ⟨whole, fraction, rfl, all, isFraction, -⟩ := isMantissa.parts
  have parts := decimalParts_of_isFraction all isFraction isExponent Text.stops_nil
  rw [List.append_nil, ← List.append_assoc] at parts
  apply not_marked_of_stops
  rw [parts]
  exact Text.stops_nil

theorem numberValue?_of_isDecimal {text : List Char} (decimal : IsDecimal text) :
    (numberValue? text).isSome = true := by
  have plain : numberValue? text = Binary64.ofText? text := by
    unfold numberValue?
    split
    · exact absurd ⟨'x', _, rfl, .inl rfl⟩ decimal.not_marksHexadecimal
    · exact absurd ⟨'X', _, rfl, .inr rfl⟩ decimal.not_marksHexadecimal
    · rfl
  have begins : Binary64.BeginsNumber text := by
    obtain ⟨mantissa, exponent, isMantissa, -, rfl⟩ := decimal
    exact isMantissa.beginsNumber exponent
  rw [plain, Binary64.ofText?_of_beginsNumber begins]
  exact ofUnsignedText?_of_isDecimal decimal

/-- Of the numbers only those that are hexadecimal and too large stand for no double. -/
theorem numberValue?_eq_none_iff {text : List Char} (number : IsNumeric .number text) :
    numberValue? text = none ↔ ∃ value, IsHexadecimal text value ∧ 2 ^ 64 ≤ value := by
  constructor
  · intro none
    cases number with
    | @hexadecimal _ value isHexadecimal =>
      rw [numberValue?_of_isHexadecimal isHexadecimal] at none
      refine ⟨value, isHexadecimal, ?_⟩
      by_contra small
      rw [if_neg small] at none
      cases none
    | decimal isDecimal =>
      have some := numberValue?_of_isDecimal isDecimal
      rw [none] at some
      cases some
  · rintro ⟨value, isHexadecimal, large⟩
    rw [numberValue?_of_isHexadecimal isHexadecimal, if_pos large]

/-! ## Tokens -/

/-- Only where a number begins the token of a number is found. -/
theorem startsNumber_of_number {first : Char} {rest : List Char} {lexeme : Lexeme}
    (found : (readLexeme first rest).outcome = .ok lexeme) (number : lexeme.kind = .number) :
    startsNumber first rest = true := by
  by_contra starts
  unfold readLexeme at found
  rw [if_neg starts] at found
  split_ifs at found
  · obtain ⟨_, -, rfl⟩ := Reading.outcome_of_map found
    cases number
  · obtain ⟨_, -, rfl⟩ := Reading.outcome_of_map found
    cases number
  · cases found
    cases number
  · obtain ⟨kind, symbol, rfl⟩ := Reading.outcome_of_map found
    cases number
    exact absurd (readSymbol_lexical symbol) (by decide)

theorem isNumeric_of_next {cursor behind : Cursor} {token : Token}
    (came : cursor.next = (.ok token, behind)) (number : token.kind = .number) :
    IsNumeric .number token.text.toList := by
  cases here : cursor.skipGap.rest with
  | nil =>
    unfold Cursor.next at came
    simp only [here] at came
    cases came
    cases number
  | cons first rest =>
    obtain ⟨lexeme, found, rfl, -⟩ := Cursor.next_of_ok here (congrArg Prod.fst came)
    have starts := startsNumber_of_number found number
    rw [(readLexeme_of_startsNumber starts).2] at found
    obtain ⟨kind, inside, rfl⟩ := Reading.outcome_of_map found
    obtain ⟨source, behind, whole, numeric, ends⟩ := isNumeric_of_readNumber starts inside
    cases number
    rw [whole, readNumber_of_isNumeric numeric ends, String.toList_ofList]
    exact numeric

/-- Numbers and durations are read exactly by their grammar.  What the token of a number stands
for is a double, unless the number is hexadecimal and does not fit in 64 bits. -/
theorem numeric_readsBy {first : Char} {rest : List Char}
    (starts : first.isDigit = true ∨ first = '.' ∧ ∃ c ∈ rest.head?, c.isDigit = true)
    (pos : Nat) : (Cursor.mk pos (first :: rest)).ReadsBy numericLiteral ∧
      ∀ cursor token behind, Cursor.next cursor = (.ok token, behind) → token.kind = .number →
        IsNumeric .number token.text.toList ∧ (numberValue? token.text.toList = none ↔
          ∃ value, IsHexadecimal token.text.toList value ∧ 2 ^ 64 ≤ value) := by
  refine ⟨readsBy_numericLiteral (startsNumber_iff.2 starts) pos, ?_⟩
  intro cursor token behind came number
  have numeric := isNumeric_of_next came number
  exact ⟨numeric, numberValue?_eq_none_iff numeric⟩

/-- The least number that does not fit, in front of a bracket. -/
theorem numeric_readsBy_beyond : ('0'.isDigit = true ∨ '0' = '.' ∧
      ∃ c ∈ "x10000000000000000)".toList.head?, c.isDigit = true) ∧
    (Cursor.mk 7 ('0' :: "x10000000000000000)".toList)).next =
      (.ok ⟨.number, "0x10000000000000000", 7⟩, ⟨26, [')']⟩) ∧
    numberValue? "0x10000000000000000".toList = none := by
  have digits : IsNumeral 16 "10000000000000000".toList (2 ^ 64) :=
    ⟨1 :: List.replicate 16 0, by simp [IsDigit, List.replicate], by decide⟩
  have number : IsHexadecimal "0x10000000000000000".toList (2 ^ 64) :=
    ⟨'x', "10000000000000000".toList, by decide, by decide, digits, rfl⟩
  have reads := @numeric_readsBy '0' "x10000000000000000)".toList (.inl rfl) 7
  have came := (reads.1.found ⟨.number, "0x10000000000000000", 7⟩ ⟨26, [')']⟩).2
    ⟨_, [')'], ⟨.number, "0x10000000000000000".toList⟩,
      ⟨rfl, .hexadecimal number, rfl, by simp⟩, rfl, rfl⟩
  exact ⟨.inl rfl, came, (reads.2 _ _ _ came rfl).2.2 ⟨_, number, Nat.le_refl _⟩⟩

end RuleAtlas.Query
