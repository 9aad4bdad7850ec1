import RuleAtlas.Proofs.Binary64.Reading
import RuleAtlas.Proofs.Query.Lexing

/-! # Pieces that are one token

Symbols, words, quoted strings and plain numbers, each in front of a text that does not go on
with them, are read as one token. -/

namespace RuleAtlas.Query

/-! ## Characters -/

theorem toNat_of_isWordStart {c : Char} (h : isWordStart c = true) : 65 ≤ c.toNat := by
  have letter : c.isAlpha = (decide (c.val ≥ 'A'.val ∧ c.val ≤ 'Z'.val) ||
      (c.val ≥ 'a'.val && c.val ≤ 'z'.val)) := rfl
  simp only [isWordStart, letter, Bool.or_eq_true, Bool.and_eq_true, decide_eq_true_eq,
    beq_iff_eq, ge_iff_le, UInt32.le_iff_toNat_le] at h
  rcases h with (⟨low, _⟩ | ⟨low, _⟩) | rfl
  · exact low
  · exact Nat.le_trans (by decide) low
  · decide

theorem isWordPart_of_isWordStart {c : Char} (h : isWordStart c = true) : isWordPart c = true := by
  simp only [isWordStart, Bool.or_eq_true] at h
  simp only [isWordPart, Char.isAlphanum, Bool.or_eq_true]
  exact .inl (h.imp_left .inl)

/-! ## Symbols -/

theorem lexes_symbol {c : Char} {kind : TokenKind} (symbol : symbol? c = some kind)
    (rest : List Char) (colon : c = ':' → Text.Stops isWordStart rest) :
    Lexes [c] [⟨kind, [c]⟩] rest := by
  unfold symbol? at symbol
  split at symbol
  all_goals first | contradiction | cases symbol
  -- Only a colon could be the beginning of a word.
  case h_8 =>
    refine Lexes.of_readLexeme [] (by simp [gap, isGapCharacter]) ?_
    cases rest with
    | nil => rfl
    | cons next rest =>
      have noWord : isWordStart next = false := by simpa using colon rfl
      simp [readLexeme, startsNumber, startsWord, noWord, readSymbol, pairSymbol?]
      rfl
  all_goals
    refine Lexes.of_readLexeme [] (by simp [gap, isGapCharacter]) ?_
    cases rest <;> rfl

/-! ## Words -/

/-- The text is a word: it begins as words do and goes on as they do. -/
def isWord : List Char → Bool
  | [] => false
  | first :: rest => startsWord first rest && rest.all isWordPart

theorem startsWord_append {first : Char} {more : List Char} (rest : List Char)
    (starts : startsWord first more = true) : startsWord first (more ++ rest) = true := by
  cases more with
  | nil =>
    have letter : isWordStart first = true := by simpa [startsWord] using starts
    simp [startsWord, letter]
  | cons next more => simpa [startsWord] using starts

/-- A character that begins a word begins no gap, no string, no number. -/
theorem readLexeme_of_startsWord {first : Char} {rest : List Char}
    (starts : startsWord first rest = true) :
    gap false (first :: rest) = [] ∧
      readLexeme first rest = (readWord first rest).verbatim := by
  -- All that begins gaps, strings and numbers comes before the colon, but for the backquote.
  have late : 58 ≤ first.toNat := by
    simp only [startsWord, Bool.or_eq_true, Bool.and_eq_true, beq_iff_eq] at starts
    rcases starts with letter | ⟨rfl, _⟩
    · exact Nat.le_trans (by decide) (toNat_of_isWordStart letter)
    · decide
  have differs : ∀ d : Char, d.toNat < 58 → first ≠ d := by
    rintro d early rfl
    omega
  have notBackquote : first ≠ '\x60' := by
    rintro rfl
    simp [startsWord, isWordStart] at starts
  have notDigit : first.isDigit = false := by
    cases digit : first.isDigit with
    | false => rfl
    | true =>
      have bounds := Char.isDigit_iff_toNat.1 digit
      have small : first.toNat ≤ 57 := bounds.2
      omega
  constructor
  · simp [gap, isGapCharacter, differs ' ' (by decide), differs '\t' (by decide),
      differs '\n' (by decide), differs '\r' (by decide), differs '#' (by decide)]
  · simp [readLexeme, startsNumber, notDigit, notBackquote, starts, differs '\x22' (by decide),
      differs '\x27' (by decide), differs '.' (by decide)]

theorem lexes_word {text rest : List Char} (word : isWord text = true)
    (stops : Text.Stops isWordPart rest) : Lexes text [⟨.ident, text⟩] rest := by
  cases text with
  | nil => cases word
  | cons first more =>
    simp only [isWord, Bool.and_eq_true, List.all_eq_true] at word
    obtain ⟨noGap, read⟩ := readLexeme_of_startsWord (startsWord_append rest word.1)
    refine Lexes.of_readLexeme _ noGap ?_
    rw [read, readWord, Text.takeWhile_of_stops word.2 stops]
    rfl

/-! ## Quoted strings -/

end RuleAtlas.Query

namespace RuleAtlas.Text

/-- Between double quotes the character is written as a zero behind a backslash, or by its
code point in braces. -/
def isWrittenByCode (c : Char) : Bool :=
  escapeChar '\x22' c == ['\\', '0'] || escapeChar '\x22' c == codeEscape c

/-- No character of the text is written by a code. -/
def IsPlain (text : String) : Prop := ∀ c ∈ text.toList, isWrittenByCode c = false

end RuleAtlas.Text

namespace RuleAtlas.Query

open Text (escapeChar isWrittenByCode)

/-- A character without a code is written by a letter behind a backslash, or as it is. -/
theorem escapeChar_of_plain {c : Char} (plain : isWrittenByCode c = false) :
    (∃ letter, escapeChar '\x22' c = ['\\', letter] ∧ letterEscape? '\x22' letter = some c) ∨
      (escapeChar '\x22' c = [c] ∧ c ≠ '\x22' ∧ c ≠ '\n' ∧ c ≠ '\\') := by
  unfold isWrittenByCode escapeChar at plain
  unfold escapeChar
  -- The characters in the order in which they are looked for.
  by_cases zero : c = '\x00'
  · simp [zero] at plain
  by_cases tab : c = '\t'
  · exact .inl ⟨'t', by simp [tab], by rw [tab]; rfl⟩
  by_cases carriage : c = '\r'
  · exact .inl ⟨'r', by simp [carriage], by rw [carriage]; rfl⟩
  by_cases line : c = '\n'
  · exact .inl ⟨'n', by simp [line], by rw [line]; rfl⟩
  by_cases backslash : c = '\\'
  · exact .inl ⟨'\\', by simp [backslash], by rw [backslash]; rfl⟩
  by_cases quote : c = '\x22'
  · exact .inl ⟨'\x22', by simp [quote], by rw [quote]; rfl⟩
  by_cases code : Text.needsCode c = true
  · simp [zero, tab, carriage, line, backslash, quote, code] at plain
  · right
    simp [zero, tab, carriage, line, backslash, quote, code]

/-- A quoted text without codes is read up to its closing quote. -/
theorem readQuoted_escaped {text : List Char} (plain : ∀ c ∈ text, isWrittenByCode c = false)
    (rest : List Char) :
    readQuoted '\x22' (text.flatMap (escapeChar '\x22') ++ '\x22' :: rest) =
      .found (text.flatMap (escapeChar '\x22') ++ ['\x22']) text := by
  induction text with
  | nil =>
    rw [List.flatMap_nil, List.nil_append, readQuoted]
    rfl
  | cons c text inductionHypothesis =>
    have following := inductionHypothesis fun d member => plain d (List.mem_cons_of_mem _ member)
    rw [List.flatMap_cons]
    -- An escape is two characters, neither of which ends the string.
    rcases escapeChar_of_plain (plain c List.mem_cons_self) with
      ⟨letter, written, stands⟩ | ⟨written, noQuote, noLine, noBackslash⟩
    · have escape : ∀ tail, readEscape '\x22' (letter :: tail) = .found [letter] c := by
        intro tail
        simp [readEscape, stands]
      rw [written, List.append_assoc, List.cons_append, List.singleton_append, readQuoted]
      simp only [escape, Reading.found, List.length_singleton, List.drop_succ_cons, List.drop_zero]
      rw [if_neg (by decide), if_neg (by decide), if_pos trivial, following]
      rfl
    · rw [written, List.append_assoc, List.singleton_append, readQuoted, if_neg noQuote,
        if_neg noLine, if_neg noBackslash, following]
      rfl

theorem lexes_quoted {text : String} (plain : Text.IsPlain text) (rest : List Char) :
    Lexes (Text.quoted text).toList [⟨.string, text.toList⟩] rest := by
  have written : (Text.quoted text).toList =
      '\x22' :: (text.toList.flatMap (escapeChar '\x22') ++ ['\x22']) := by
    simp [Text.quoted]
  rw [written]
  refine Lexes.of_readLexeme _ (by simp [gap, isGapCharacter]) ?_
  rw [List.append_assoc, List.singleton_append]
  simp only [readLexeme, readString, readQuoted_escaped plain]
  rfl

/-! ## Plain numbers -/

/-- Behind a number nothing follows that would go on with it. -/
theorem nothing_of_stops {rest : List Char} (stops : Text.Stops sticksToNumber rest) :
    fractionPart rest = [] ∧ exponentPart rest = [] ∧ durationUnit? rest = none := by
  cases rest with
  | nil => exact ⟨rfl, rfl, rfl⟩
  | cons c rest =>
    have free : sticksToNumber c = false := by simpa using stops
    -- What goes on with a number begins with one of the characters that stick to it.
    have differs : ∀ d : Char, sticksToNumber d = true → c ≠ d := by
      rintro d sticks rfl
      rw [free] at sticks
      cases sticks
    refine ⟨?_, ?_, ?_⟩
    · simp [fractionPart, differs '.' (by decide)]
    · simp [exponentPart, differs 'e' (by decide), differs 'E' (by decide)]
    · simp [durationUnit?, differs 'm' (by decide), differs 'y' (by decide),
        differs 'w' (by decide), differs 'd' (by decide), differs 'h' (by decide),
        differs 's' (by decide)]

theorem isDigit_of_stops {rest : List Char} (stops : Text.Stops sticksToNumber rest) :
    Text.Stops Char.isDigit rest :=
  stops.mono fun c digit => by simp [sticksToNumber, Char.isAlphanum, digit]

/-- Digits with a point between them are split off as they are written. -/
theorem decimalParts_of_stops {whole fraction rest : List Char}
    (wholeDigits : Binary64.AllDigits whole) (fractionDigits : Binary64.AllDigits fraction)
    (stops : Text.Stops sticksToNumber rest) :
    decimalParts (whole ++ (Binary64.pointed fraction ++ rest)) =
      ⟨whole, Binary64.pointed fraction, [], rest⟩ := by
  obtain ⟨noFraction, noExponent, _⟩ := nothing_of_stops stops
  have stopped : Text.Stops Char.isDigit (Binary64.pointed fraction ++ rest) := by
    unfold Binary64.pointed
    split
    · exact isDigit_of_stops stops
    · exact Text.stops_cons.2 rfl
  have part : fractionPart (Binary64.pointed fraction ++ rest) = Binary64.pointed fraction := by
    cases fraction with
    | nil => exact noFraction
    | cons d fraction =>
      change '.' :: ((d :: fraction) ++ rest).takeWhile Char.isDigit = '.' :: d :: fraction
      rw [Text.takeWhile_of_stops fractionDigits (isDigit_of_stops stops)]
  simp only [decimalParts, Text.takeWhile_of_stops wholeDigits stopped, List.drop_left, part,
    noExponent, List.length_nil, List.drop_zero]

/-- A text that begins with a digit and has no letter behind it is no hexadecimal number. -/
theorem readNumber_of_second {first : Char} {more : List Char}
    (second : ∀ c ∈ more.head?, c ≠ 'x' ∧ c ≠ 'X') :
    readNumber (first :: more) = readDecimal (first :: more) := by
  unfold readNumber
  split
  · rename_i rest same
    obtain ⟨-, rfl⟩ := List.cons.inj same
    exact absurd rfl (second 'x' rfl).1
  · rename_i rest same
    obtain ⟨-, rfl⟩ := List.cons.inj same
    exact absurd rfl (second 'X' rfl).2
  · rfl

/-- A text that begins with a digit is a number or a duration. -/
theorem readLexeme_of_isDigit {first : Char} (digit : first.isDigit = true) (rest : List Char) :
    gap false (first :: rest) = [] ∧
      readLexeme first rest = (readNumber (first :: rest)).verbatim := by
  have code := Binary64.toNat_bounds_of_isDigit digit
  have differs : ∀ d : Char, d.toNat < 48 ∨ 57 < d.toNat → first ≠ d := by
    rintro d other rfl
    omega
  constructor
  · simp [gap, isGapCharacter, differs ' ' (by decide), differs '\t' (by decide),
      differs '\n' (by decide), differs '\r' (by decide), differs '#' (by decide)]
  · simp [readLexeme, startsNumber, digit, differs '\x60' (by decide),
      differs '\x22' (by decide), differs '\x27' (by decide)]

theorem finishNumber_of_stops {kind : TokenKind} {source rest : List Char}
    (stops : Text.Stops sticksToNumber rest) :
    finishNumber kind source rest = .found source kind := by
  cases rest with
  | nil => rfl
  | cons c rest =>
    rw [finishNumber, if_neg]
    simpa using stops

/-- The text behind a first digit goes on with a digit or a point, or stops. -/
theorem second_of_digits {digits behind : List Char} (all : Binary64.AllDigits digits)
    (next : ∀ c ∈ behind.head?, c ≠ 'x' ∧ c ≠ 'X') :
    ∀ c ∈ (digits ++ behind).head?, c ≠ 'x' ∧ c ≠ 'X' := by
  cases digits with
  | nil => exact next
  | cons d digits =>
    intro c member
    have digit := all d List.mem_cons_self
    cases member
    constructor
    all_goals
      rintro rfl
      cases digit

/-- Digits with a point between them are one number. -/
theorem lexes_number {whole fraction rest : List Char} (nonempty : whole ≠ [])
    (wholeDigits : Binary64.AllDigits whole) (fractionDigits : Binary64.AllDigits fraction)
    (stops : Text.Stops sticksToNumber rest) :
    Lexes (whole ++ Binary64.pointed fraction) [⟨.number, whole ++ Binary64.pointed fraction⟩]
      rest := by
  obtain ⟨first, more, rfl⟩ := List.exists_cons_of_ne_nil nonempty
  have digit := wholeDigits first List.mem_cons_self
  have parts := decimalParts_of_stops wholeDigits fractionDigits stops
  obtain ⟨-, -, noUnit⟩ := nothing_of_stops stops
  obtain ⟨noGap, read⟩ := readLexeme_of_isDigit digit (more ++ Binary64.pointed fraction ++ rest)
  -- The point in front of a fraction is no mark of a hexadecimal number, nor is what follows.
  have behind : ∀ c ∈ (Binary64.pointed fraction ++ rest).head?, c ≠ 'x' ∧ c ≠ 'X' := by
    cases fraction with
    | nil =>
      intro c member
      have free := stops c member
      constructor
      all_goals
        rintro rfl
        cases free
    | cons d fraction =>
      intro c member
      cases member
      decide
  have decimal : readNumber (first :: (more ++ Binary64.pointed fraction ++ rest)) =
      .found (first :: (more ++ Binary64.pointed fraction)) .number := by
    rw [List.append_assoc, readNumber_of_second (second_of_digits
      (fun c member => wholeDigits c (List.mem_cons_of_mem _ member)) behind), readDecimal]
    rw [List.cons_append] at parts
    simp only [parts, noUnit, Option.isSome_none, Bool.and_false, Bool.false_eq_true, if_false,
      List.append_nil, finishNumber_of_stops stops, List.cons_append]
  refine Lexes.of_readLexeme (more ++ Binary64.pointed fraction) noGap ?_
  rw [read, decimal]
  rfl

end RuleAtlas.Query
