import RuleAtlas.Proofs.Query.Durations
import RuleAtlas.Proofs.Query.Literals.Basic
import RuleAtlas.Proofs.Query.Literals.Numerals
import RuleAtlas.Proofs.Query.Recurring

/-! # The grammar of numbers and durations

A number is hexadecimal, or a decimal with a point and an exponent where they are wanted.  A
duration is groups of digits and a unit.  Neither is followed by a letter, a digit, an
underscore or a point.  A numeric token is read exactly if it is written by this grammar: of
all texts that are numbers or durations at most one ends where it may. -/

namespace RuleAtlas.Query

open Binary64 (AllDigits)
open Text (IsDigit IsNumeral)

/-! ## The grammar -/

/-- The text is the number with this value, its digits hexadecimal. -/
def IsHexadecimal (text : List Char) (value : Nat) : Prop :=
  ∃ mark digits, mark ∈ ['x', 'X'] ∧ digits ≠ [] ∧ IsNumeral 16 digits value ∧
    text = '0' :: mark :: digits

/-- The text is a point and any digits, if it is not empty. -/
inductive IsFraction : List Char → Prop where
  | nil : IsFraction []
  | point {digits : List Char} (all : AllDigits digits) : IsFraction ('.' :: digits)

/-- The text is digits and perhaps a fraction, or a point and digits. -/
inductive IsMantissa : List Char → Prop where
  | whole {digits fraction : List Char} (nonempty : digits ≠ []) (all : AllDigits digits)
      (behind : IsFraction fraction) : IsMantissa (digits ++ fraction)
  | point {digits : List Char} (nonempty : digits ≠ []) (all : AllDigits digits) :
      IsMantissa ('.' :: digits)

/-- The text is a letter, perhaps a sign, and digits, if it is not empty. -/
inductive IsExponent : List Char → Prop where
  | nil : IsExponent []
  | digits {letter : Char} {sign digits : List Char} (marks : letter ∈ ['e', 'E'])
      (signs : sign ∈ [[], ['+'], ['-']]) (nonempty : digits ≠ []) (all : AllDigits digits) :
      IsExponent (letter :: (sign ++ digits))

def IsDecimal (text : List Char) : Prop :=
  ∃ mantissa exponent, IsMantissa mantissa ∧ IsExponent exponent ∧ text = mantissa ++ exponent

/-- The text is a number or a duration, and the kind says which of them. -/
inductive IsNumeric : TokenKind → List Char → Prop where
  | hexadecimal {text : List Char} {value : Nat} (number : IsHexadecimal text value) :
      IsNumeric .number text
  | decimal {text : List Char} (number : IsDecimal text) : IsNumeric .number text
  | duration {text : List Char} (groups : AreGroups text) (nonempty : text ≠ []) :
      IsNumeric .duration text

/-- The units of groups. -/
example : durationUnits.map (String.ofList ·.name) = ["y", "w", "d", "h", "m", "s", "ms"] := rfl

/-- Numbers and durations stand in front of a text that does not go on with them. -/
def numericLiteral : Grammar := fun source rest lexeme =>
  IsNumeric lexeme.kind source ∧ lexeme.text = source ∧
    ∀ c ∈ rest.head?, c.isAlphanum = false ∧ c ≠ '_' ∧ c ≠ '.'

theorem stops_sticksToNumber_iff {rest : List Char} : Text.Stops sticksToNumber rest ↔
    ∀ c ∈ rest.head?, c.isAlphanum = false ∧ c ≠ '_' ∧ c ≠ '.' := by
  have each : ∀ c, sticksToNumber c = false ↔ c.isAlphanum = false ∧ c ≠ '_' ∧ c ≠ '.' := by
    intro c
    simp only [sticksToNumber, Bool.or_eq_false_iff, beq_eq_false_iff_ne]
    tauto
  exact forall₂_congr fun c _ => each c

/-! ## Hexadecimal numbers -/

theorem isHexDigit_iff {c : Char} : isHexDigit c = true ↔ ∃ value, IsDigit 16 value c := by
  rw [isHexDigit, Option.isSome_iff_exists]
  exact exists_congr fun value => digitValue?_iff (by decide)

theorem sticksToNumber_of_isHexDigit {c : Char} (digit : isHexDigit c = true) :
    sticksToNumber c = true := by
  obtain ⟨value, isDigit⟩ := isHexDigit_iff.1 digit
  apply isDigit.of_each
  decide

/-- Digits are a numeral, and the characters of a numeral are digits. -/
theorem exists_isNumeral_iff {text : List Char} :
    (∃ value, IsNumeral 16 text value) ↔ ∀ c ∈ text, isHexDigit c = true := by
  induction text with
  | nil => simp [IsNumeral.nil_iff]
  | cons c text inductionHypothesis =>
    rw [List.forall_mem_cons, isHexDigit_iff, ← inductionHypothesis]
    constructor
    · rintro ⟨value, numeral⟩
      obtain ⟨digit, rest, first, others, -⟩ := IsNumeral.cons_iff.1 numeral
      exact ⟨⟨digit, first⟩, rest, others⟩
    · rintro ⟨⟨digit, first⟩, rest, others⟩
      exact ⟨_, IsNumeral.cons_iff.2 ⟨digit, rest, first, others, rfl⟩⟩

theorem readNumber_of_isHexadecimal {text rest : List Char} {value : Nat}
    (number : IsHexadecimal text value) (stops : Text.Stops sticksToNumber rest) :
    readNumber (text ++ rest) = .found text .number := by
  obtain ⟨mark, digits, marks, nonempty, numeral, rfl⟩ := number
  have same : readNumber ('0' :: mark :: digits ++ rest) =
      readHexadecimal ['0', mark] (digits ++ rest) := by
    simp only [List.mem_cons, List.not_mem_nil, or_false] at marks
    obtain rfl | rfl := marks <;> rfl
  have run : (digits ++ rest).takeWhile isHexDigit = digits :=
    Text.takeWhile_of_stops (exists_isNumeral_iff.1 ⟨value, numeral⟩)
      (stops.mono fun c => sticksToNumber_of_isHexDigit)
  rw [same, readHexadecimal]
  simp only [run, List.drop_left, List.isEmpty_iff]
  rw [if_neg nonempty, finishNumber_of_stops stops]
  rfl

/-! ## Decimal numbers -/

theorem takeWhile_of_allDigits {digits : List Char} (all : AllDigits digits) :
    digits.takeWhile Char.isDigit = digits := by
  simpa using Text.takeWhile_of_stops all Text.stops_nil

theorem fractionPart_of_isFraction {fraction : List Char} (isFraction : IsFraction fraction) :
    fractionPart fraction = fraction := by
  cases isFraction with
  | nil => rfl
  | point all => rw [fractionPart, takeWhile_of_allDigits all]

theorem exponentPart_of_isExponent {exponent : List Char} (isExponent : IsExponent exponent) :
    exponentPart exponent = exponent := by
  cases isExponent with
  | nil => rfl
  | @digits letter sign digits marks signs nonempty all =>
    obtain ⟨d, digits, rfl⟩ := List.exists_cons_of_ne_nil nonempty
    obtain ⟨digit, others⟩ := List.forall_mem_cons.1 all
    have run : digits.takeWhile Char.isDigit = digits := takeWhile_of_allDigits others
    simp only [List.mem_cons, List.not_mem_nil, or_false] at marks signs
    obtain rfl | rfl | rfl := signs
    all_goals simp [exponentPart, marks, digit, run, show ('+').isDigit = false from rfl,
      show ('-').isDigit = false from rfl]

theorem isFraction_fractionPart (text : List Char) : IsFraction (fractionPart text) := by
  obtain none | ⟨run, some, all⟩ := fractionPart_cases text
  · exact none ▸ .nil
  · exact some ▸ .point all

theorem isExponent_exponentPart (text : List Char) : IsExponent (exponentPart text) := by
  obtain none | ⟨e, sign, d, run, some, letter, signs, all⟩ := exponentPart_cases text
  · exact none ▸ .nil
  · exact some ▸ .digits (by simpa using letter) (by simpa using signs) (by simp) all

/-- A mantissa is digits and a fraction, and where there are no digits the fraction has some. -/
theorem IsMantissa.parts {text : List Char} (mantissa : IsMantissa text) :
    ∃ whole fraction, text = whole ++ fraction ∧ AllDigits whole ∧ IsFraction fraction ∧
      (whole = [] → ∃ d digits, fraction = '.' :: d :: digits) := by
  cases mantissa with
  | whole nonempty all behind => exact ⟨_, _, rfl, all, behind, fun none => absurd none nonempty⟩
  | point nonempty all =>
    obtain ⟨d, digits, rfl⟩ := List.exists_cons_of_ne_nil nonempty
    exact ⟨[], _, rfl, List.forall_mem_nil _, .point all, fun _ => ⟨d, digits, rfl⟩⟩

/-- The parts of a decimal number are split off where they stand. -/
theorem decimalParts_of_isFraction {whole fraction exponent rest : List Char}
    (all : AllDigits whole) (isFraction : IsFraction fraction) (isExponent : IsExponent exponent)
    (stops : Text.Stops sticksToNumber rest) :
    decimalParts (whole ++ (fraction ++ (exponent ++ rest))) =
      ⟨whole, fraction, exponent, rest⟩ := by
  have fractionSame := fractionPart_of_isFraction isFraction
  have exponentSame := exponentPart_of_isExponent isExponent
  have point : Text.Stops (· == '.') rest := stops.mono fun c point => by
    rw [eq_of_beq point]
    rfl
  have exponentStops : ∀ {kind : Char → Bool}, ['e', 'E'].any kind = false →
      Text.Stops kind rest → Text.Stops kind (exponent ++ rest) := by
    intro kind none behind
    rw [← exponentSame]
    exact stops_append (stops_exponentPart exponent none) behind
  have noDigit := exponentStops rfl (isDigit_of_stops stops)
  apply decimalParts_of_parts all
  · rw [← fractionSame]
    exact stops_append (stops_fractionPart fraction) noDigit
  · rw [← fractionSame]
    exact fractionPart_again noDigit (exponentStops rfl point)
  · rw [← exponentSame]
    exact exponentPart_again stops

/-- Where a hexadecimal number is marked, the decimal number at the head of the text is a zero,
and the mark goes on with it. -/
theorem not_marked_of_stops {text : List Char}
    (stops : Text.Stops sticksToNumber (decimalParts text).rest) : ¬MarksHexadecimal text := by
  rintro ⟨x, rest, rfl, rfl | rfl⟩
  all_goals
    have sticks := Text.stops_cons.1 stops
    cases sticks

theorem readNumber_of_isDecimal {text rest : List Char} (number : IsDecimal text)
    (stops : Text.Stops sticksToNumber rest) :
    readNumber (text ++ rest) = .found text .number := by
  obtain ⟨mantissa, exponent, isMantissa, isExponent, rfl⟩ := number
  obtain ⟨whole, fraction, rfl, all, isFraction, -⟩ := isMantissa.parts
  have parts := decimalParts_of_isFraction all isFraction isExponent stops
  have noUnit := (nothing_of_stops stops).2.2
  rw [List.append_assoc, List.append_assoc, readNumber_of_not_marked, readDecimal]
  · simp only [parts, noUnit, Option.isSome_none, Bool.and_false]
    rw [if_neg (by simp), finishNumber_of_stops stops, List.append_assoc]
  · apply not_marked_of_stops
    rwa [parts]

/-! ## What is read -/

theorem readNumber_of_isNumeric {kind : TokenKind} {text rest : List Char}
    (numeric : IsNumeric kind text) (stops : Text.Stops sticksToNumber rest) :
    readNumber (text ++ rest) = .found text kind := by
  cases numeric with
  | hexadecimal number => exact readNumber_of_isHexadecimal number stops
  | decimal number => exact readNumber_of_isDecimal number stops
  | duration groups nonempty => exact (readNumber_groups groups nonempty stops).1

theorem stops_of_finishNumber {kind other : TokenKind} {source rest : List Char}
    (found : (finishNumber kind source rest).outcome = .ok other) :
    Text.Stops sticksToNumber rest := by
  cases rest with
  | nil => exact Text.stops_nil
  | cons c rest =>
    rw [finishNumber] at found
    split at found
    · cases found
    · rename_i free
      exact Text.stops_cons.2 (Bool.not_eq_true _ ▸ free)

/-- The digits behind the mark of a hexadecimal number are those of its value. -/
theorem isNumeric_of_readHexadecimal {mark : Char} (marks : mark ∈ ['x', 'X']) {rest : List Char}
    {kind : TokenKind} (found : (readHexadecimal ['0', mark] rest).outcome = .ok kind) :
    ∃ source behind, '0' :: mark :: rest = source ++ behind ∧ IsNumeric kind source ∧
      Text.Stops sticksToNumber behind := by
  unfold readHexadecimal at found
  simp only at found
  split at found
  · cases found
  · rename_i nonempty
    obtain rfl := kind_finishNumber found
    obtain ⟨value, numeral⟩ := exists_isNumeral_iff.2
      (List.all_eq_true.1 (List.all_takeWhile (l := rest) (p := isHexDigit)))
    refine ⟨_, _, ?_, .hexadecimal ⟨mark, _, marks, ?_, numeral, rfl⟩,
      stops_of_finishNumber found⟩
    · rw [List.cons_append, List.cons_append,
        List.prefix_iff_eq_append.1 (List.takeWhile_prefix isHexDigit)]
    · simpa using nonempty

/-- What stands in front of the exponent is digits and perhaps a fraction, or a point and
digits. -/
theorem isMantissa_decimalParts {first : Char} {rest : List Char}
    (starts : startsNumber first rest = true) :
    IsMantissa
      ((decimalParts (first :: rest)).whole ++ (decimalParts (first :: rest)).fraction) := by
  by_cases digit : first.isDigit = true
  · apply IsMantissa.whole
    · simp [decimalParts, digit]
    · exact List.all_eq_true.1 List.all_takeWhile
    · exact isFraction_fractionPart _
  · simp only [startsNumber, digit, Bool.false_or, Bool.and_eq_true, beq_iff_eq] at starts
    obtain ⟨rfl, following⟩ := starts
    cases rest with
    | nil => cases following
    | cons d rest =>
      have second : d.isDigit = true := by simpa using following
      show IsMantissa ('.' :: (d :: rest).takeWhile Char.isDigit)
      apply IsMantissa.point
      · simp [second]
      · exact List.all_eq_true.1 List.all_takeWhile

theorem IsMantissa.ne_nil {text : List Char} (mantissa : IsMantissa text) : text ≠ [] := by
  cases mantissa with
  | whole nonempty _ _ => simp [nonempty]
  | point _ _ => simp

/-- A unit that is found is one of the units. -/
theorem exists_unit {text letters : List Char} (found : durationUnit? text = some letters) :
    ∃ unit ∈ durationUnits, unit.name = letters := by
  have each : ∀ name ∈ [['m', 's'], ['m'], ['y'], ['w'], ['d'], ['h'], ['s']],
      ∃ unit ∈ durationUnits, unit.name = name := by
    decide
  apply each
  unfold durationUnit? at found
  split at found
  · cases found
    decide
  · cases found
    decide
  · split at found
    · rename_i listed
      cases found
      simp only [List.mem_cons, List.not_mem_nil, or_false] at listed
      obtain rfl | rfl | rfl | rfl | rfl := listed <;> decide
    · cases found
  · cases found

/-- Digits in front of units that are read are groups with them. -/
theorem areGroups_of_readUnits {digits text : List Char} (nonempty : digits ≠ [])
    (all : AllDigits digits) (found : (readUnits text).outcome = .ok ()) :
    AreGroups (digits ++ (readUnits text).source) := by
  cases letters : durationUnit? text with
  | none =>
    rw [readUnits] at found
    simp only [letters] at found
    cases found
  | some name =>
    obtain ⟨unit, member, rfl⟩ := exists_unit letters
    obtain ⟨run, rest, rfl, others, stops⟩ := exists_run letters
    cases run with
    | nil =>
      rw [List.nil_append] at letters ⊢
      rw [readUnits_of_stops letters stops]
      have groups := AreGroups.group nonempty all member .nil
      rwa [List.append_nil] at groups
    | cons d run =>
      have same := readUnits_of_digits letters others (by simp) stops
      rw [← List.append_assoc, same] at found ⊢
      rw [source_behind, List.append_assoc]
      exact .group nonempty all member
        (areGroups_of_readUnits (by simp) others (Reading.outcome_of_behind found))
termination_by text.length
decreasing_by
  subst_vars
  simp only [List.length_append, List.length_cons]
  omega

theorem isNumeric_of_readDecimal {first : Char} {rest : List Char} {kind : TokenKind}
    (starts : startsNumber first rest = true)
    (found : (readDecimal (first :: rest)).outcome = .ok kind) :
    ∃ source behind, first :: rest = source ++ behind ∧ IsNumeric kind source ∧
      Text.Stops sticksToNumber behind := by
  have whole := decimalParts_append (first :: rest)
  have mantissa := isMantissa_decimalParts starts
  unfold readDecimal at found
  simp only at found
  split at found
  · -- Neither a fraction nor an exponent: digits, and a unit behind them.
    rename_i integral
    simp only [Bool.and_eq_true, List.isEmpty_iff] at integral
    obtain ⟨⟨noFraction, noExponent⟩, -⟩ := integral
    rw [noFraction, noExponent, List.append_nil, List.append_nil] at whole
    rw [noFraction, List.append_nil] at mantissa
    have all : AllDigits (decimalParts (first :: rest)).whole :=
      List.all_eq_true.1 List.all_takeWhile
    obtain ⟨units, -⟩ := readDuration_of_ok found
    have behind := List.prefix_iff_eq_append.1 (takes_readUnits (decimalParts (first :: rest)).rest)
    have groups := areGroups_of_readUnits mantissa.ne_nil all units
    unfold readDuration at found
    simp only [units] at found
    obtain rfl := kind_finishNumber found
    refine ⟨_, _, ?_, .duration groups ?_, stops_of_finishNumber found⟩
    · rw [List.append_assoc, behind, whole]
    · simp [mantissa.ne_nil]
  · obtain rfl := kind_finishNumber found
    exact ⟨_, _, whole.symm, .decimal ⟨_, _, mantissa, isExponent_exponentPart _, rfl⟩,
      stops_of_finishNumber found⟩

theorem isNumeric_of_readNumber {first : Char} {rest : List Char} {kind : TokenKind}
    (starts : startsNumber first rest = true)
    (found : (readNumber (first :: rest)).outcome = .ok kind) :
    ∃ source behind, first :: rest = source ++ behind ∧ IsNumeric kind source ∧
      Text.Stops sticksToNumber behind := by
  by_cases marked : MarksHexadecimal (first :: rest)
  · obtain ⟨mark, digits, same, marks⟩ := marked
    rw [same] at found ⊢
    apply isNumeric_of_readHexadecimal (by simpa using marks)
    obtain rfl | rfl := marks <;> exact found
  · rw [readNumber_of_not_marked marked] at found
    exact isNumeric_of_readDecimal starts found

/-! ## Tokens -/

theorem startsNumber_iff {first : Char} {rest : List Char} : startsNumber first rest = true ↔
    first.isDigit = true ∨ first = '.' ∧ ∃ c ∈ rest.head?, c.isDigit = true := by
  cases rest <;> simp [startsNumber]

/-- Where a number begins, a number or duration is read. -/
theorem readLexeme_of_startsNumber {first : Char} {rest : List Char}
    (starts : startsNumber first rest = true) :
    gap false (first :: rest) = [] ∧
      readLexeme first rest = (readNumber (first :: rest)).verbatim := by
  obtain digit | ⟨rfl, -⟩ := startsNumber_iff.1 starts
  · exact readLexeme_of_isDigit digit rest
  · refine ⟨rfl, ?_⟩
    rw [readLexeme, if_neg (by decide), if_neg (by decide), if_pos starts]

theorem readsBy_numericLiteral {first : Char} {rest : List Char}
    (starts : startsNumber first rest = true) (pos : Nat) :
    (Cursor.mk pos (first :: rest)).ReadsBy numericLiteral := by
  obtain ⟨noGap, read⟩ := readLexeme_of_startsNumber starts
  apply Cursor.readsBy_of_reading noGap
  · rintro source behind ⟨kind, text⟩ ⟨whole, numeric, rfl, ends⟩
    rw [read, whole, readNumber_of_isNumeric numeric (stops_sticksToNumber_iff.2 ends)]
    rfl
  · intro lexeme found
    rw [read] at found
    obtain ⟨kind, number, rfl⟩ := Reading.outcome_of_map found
    obtain ⟨source, behind, whole, numeric, ends⟩ := isNumeric_of_readNumber starts number
    refine ⟨source, behind, whole, numeric, ?_, stops_sticksToNumber_iff.1 ends⟩
    rw [whole, readNumber_of_isNumeric numeric ends]
    rfl

end RuleAtlas.Query
