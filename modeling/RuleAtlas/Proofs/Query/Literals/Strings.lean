import RuleAtlas.Proofs.Query.Literals.Basic
import RuleAtlas.Proofs.Query.Literals.Numerals

/-! # The grammar of string literals

Between two quotes of one kind stands a sequence of items, each of which means one character:
the character itself, or an escape behind a backslash.  Between backquotes every character
means itself.  A literal is read exactly if it is written by this grammar, as what its items
mean, and reading goes on behind its closing quote. -/

namespace RuleAtlas.Query

open Text (IsDigit IsNumeral byteLength)

/-! ## The grammar -/

/-- The letters that mean a character behind a backslash, and what they mean. -/
def letterEscapes : List (Char × Char) :=
  [('a', '\x07'), ('b', '\x08'), ('f', '\x0c'), ('n', '\n'), ('r', '\r'), ('t', '\t'),
   ('v', '\x0b'), ('\\', '\\')]

/-- The letters that hexadecimal digits follow behind a backslash, and how many. -/
def codeEscapes : List (Char × Nat) := [('x', 2), ('u', 4), ('U', 8)]

/-- The text is one item between such quotes, and means the character. -/
inductive IsItem (quote : Char) : List Char → Char → Prop where
  | plain {c : Char} (free : c ∉ [quote, '\n', '\\']) : IsItem quote [c] c
  | letter {letter c : Char} (listed : (letter, c) ∈ letterEscapes) : IsItem quote ['\\', letter] c
  | quote : IsItem quote ['\\', quote] quote
  | code {letter : Char} {digits : List Char} {c : Char}
      (listed : (letter, digits.length) ∈ codeEscapes) (numeral : IsNumeral 16 digits c.toNat) :
      IsItem quote ('\\' :: letter :: digits) c
  | octal {digits : List Char} {c : Char} (three : digits.length = 3)
      (numeral : IsNumeral 8 digits c.toNat) (small : c.toNat ≤ 255) :
      IsItem quote ('\\' :: digits) c

/-- The text is a sequence of items, and means their characters one after the other. -/
inductive AreItems (quote : Char) : List Char → List Char → Prop where
  | nil : AreItems quote [] []
  | cons {source text value : List Char} {c : Char} (item : IsItem quote source c)
      (following : AreItems quote text value) : AreItems quote (source ++ text) (c :: value)

/-- The text may stand between two quotes of this kind, and means the value. -/
inductive IsBetween : (quote : Char) → List Char → List Char → Prop where
  | quoted {quote : Char} {text value : List Char} (opens : quote ∈ ['\x22', '\x27'])
      (items : AreItems quote text value) : IsBetween quote text value
  | raw {text : List Char} (free : '\x60' ∉ text) : IsBetween '\x60' text text

/-! ## Characters and their codes -/

/-- The code of a character is read as that character. -/
theorem characterOf_found {digits : List Char} {c : Char} {limit : Nat} (fits : c.toNat ≤ limit) :
    characterOf (.found digits c.toNat) limit = .found digits c := by
  have valid : c.toNat.isValidChar := c.valid
  simp [characterOf, Reading.found, Nat.not_lt.2 fits, valid]

/-- A character that is read is that of the code. -/
theorem characterOf_eq_ok {reading : Reading Nat} {limit : Nat} {c : Char}
    (found : (characterOf reading limit).outcome = .ok c) :
    reading.outcome = .ok c.toNat ∧ c.toNat ≤ limit := by
  unfold characterOf at found
  split at found
  · cases found
  · rename_i code came
    split_ifs at found with large valid
    · cases found
    · have same : (Char.ofNat code).toNat = code := by
        rw [Char.ofNat, dif_pos valid]
        rfl
      obtain rfl : Char.ofNat code = c := Except.ok.inj found
      rw [came, same]
      exact ⟨rfl, Nat.not_lt.1 large⟩
    · cases found

theorem toNat_le (c : Char) : c.toNat ≤ Nat.pow 2 32 :=
  Nat.le_of_lt c.val.toNat_lt

/-! ## Escapes -/

/-- What an escape begins with behind its backslash decides how it is read. -/
theorem readEscape_of_letter {quote letter c : Char} (means : letterEscape? quote letter = some c)
    (rest : List Char) : readEscape quote (letter :: rest) = .found [letter] c := by
  simp only [readEscape, means]

theorem letterEscape?_of_listed {letter c : Char} (listed : (letter, c) ∈ letterEscapes)
    (quote : Char) : letterEscape? quote letter = some c := by
  have each : ∀ entry ∈ letterEscapes, letterEscape? quote entry.1 = some entry.2 := by
    simp [letterEscapes, letterEscape?]
  exact each _ listed

/-- What a letter means is listed, or the letter is the quote. -/
theorem of_letterEscape? {quote letter c : Char} (means : letterEscape? quote letter = some c) :
    (letter, c) ∈ letterEscapes ∨ letter = quote ∧ c = quote := by
  unfold letterEscape? at means
  split_ifs at means
  all_goals
    subst_vars
    cases means
    first | exact .inl (by decide) | exact .inr ⟨rfl, rfl⟩

section
variable {quote : Char} (opens : quote ∈ ['\x22', '\x27'])
include opens

theorem letterEscape?_quote : letterEscape? quote quote = some quote := by
  obtain rfl | rfl := List.mem_pair.1 opens <;> rfl

theorem readEscape_of_code {letter : Char} {count : Nat} (listed : (letter, count) ∈ codeEscapes)
    (rest : List Char) : readEscape quote (letter :: rest) =
      (characterOf (readDigits 16 count 0 rest) (Nat.pow 2 32)).behind [letter] := by
  have none : ∀ entry ∈ codeEscapes, letterEscape? quote entry.1 = none := by
    obtain rfl | rfl := List.mem_pair.1 opens <;> decide
  have here := none _ listed
  simp only [codeEscapes, List.mem_cons, Prod.mk.injEq, List.not_mem_nil, or_false] at listed
  obtain ⟨rfl, rfl⟩ | ⟨rfl, rfl⟩ | ⟨rfl, rfl⟩ := listed
  all_goals
    simp only [readEscape, here]
    rfl

theorem readEscape_of_octal {c : Char} {digit : Nat} (octal : digitValue? 8 c = some digit)
    (rest : List Char) : readEscape quote (c :: rest) =
      (characterOf (readDigits 8 2 digit rest) 255).behind [c] := by
  have isDigit : IsDigit 8 digit c := (digitValue?_iff (by decide)).1 octal
  obtain ⟨noLetter, noTwo, noFour, noEight⟩ :
      letterEscape? quote c = none ∧ c ≠ 'x' ∧ c ≠ 'u' ∧ c ≠ 'U' := by
    apply isDigit.of_each
    obtain rfl | rfl := List.mem_pair.1 opens <;> decide
  simp only [readEscape, noLetter, if_neg noTwo, if_neg noFour, if_neg noEight, octal]

end

/-- An escape that is read begins with a letter that means a character, with one that digits
follow, or with an octal digit. -/
theorem readEscape_cases {quote c : Char} {text : List Char}
    (found : (readEscape quote text).outcome = .ok c) :
    ∃ letter rest, text = letter :: rest ∧
      (letterEscape? quote letter = some c ∨
        (∃ count, (letter, count) ∈ codeEscapes ∧
          (readDigits 16 count 0 rest).outcome = .ok c.toNat) ∨
        ∃ digit, digitValue? 8 letter = some digit ∧ c.toNat ≤ 255 ∧
          (readDigits 8 2 digit rest).outcome = .ok c.toNat) := by
  cases text with
  | nil => cases found
  | cons letter rest =>
    refine ⟨letter, rest, rfl, ?_⟩
    -- Every code gives the number of its digits, within the limit of its base.
    have code : ∀ {base count value limit}, ((characterOf (readDigits base count value rest)
        limit).behind [letter]).outcome = .ok c →
        (readDigits base count value rest).outcome = .ok c.toNat ∧ c.toNat ≤ limit :=
      fun came => characterOf_eq_ok (Reading.outcome_of_behind came)
    unfold readEscape at found
    dsimp only at found
    split at found
    · rename_i value means
      cases found
      exact .inl means
    · split_ifs at found with two four eight
      · exact .inr (.inl ⟨2, by rw [two]; decide, (code found).1⟩)
      · exact .inr (.inl ⟨4, by rw [four]; decide, (code found).1⟩)
      · exact .inr (.inl ⟨8, by rw [eight]; decide, (code found).1⟩)
      · split at found
        · rename_i digit octal
          exact .inr (.inr ⟨digit, octal, (code found).2, (code found).1⟩)
        · cases found

/-! ## Items -/

/-- Only a character that means itself is no escape. -/
theorem IsItem.plain_or_escape {quote : Char} {source : List Char} {c : Char}
    (item : IsItem quote source c) :
    (source = [c] ∧ c ∉ [quote, '\n', '\\']) ∨ ∃ escape, source = '\\' :: escape := by
  cases item with
  | plain free => exact .inl ⟨rfl, free⟩
  | letter | quote | code | octal => exact .inr ⟨_, rfl⟩

section
variable {quote : Char} (opens : quote ∈ ['\x22', '\x27'])
include opens

/-- An escape of the grammar is read as the character that it means. -/
theorem readEscape_of_isItem {escape : List Char} {c : Char}
    (item : IsItem quote ('\\' :: escape) c) (rest : List Char) :
    readEscape quote (escape ++ rest) = .found escape c := by
  cases item with
  | plain free => simp at free
  | letter listed => exact readEscape_of_letter (letterEscape?_of_listed listed quote) rest
  | quote => exact readEscape_of_letter (letterEscape?_quote opens) rest
  | code listed numeral =>
    have digits := readDigits_of_isNumeral (by decide) numeral 0 rest
    rw [Nat.zero_mul, Nat.zero_add] at digits
    rw [List.cons_append, readEscape_of_code opens listed, digits,
      characterOf_found (toNat_le c)]
    rfl
  | octal three numeral small =>
    obtain ⟨first, digits, rfl⟩ := List.exists_cons_of_length_eq_add_one three
    obtain ⟨digit, others, isDigit, behind, same⟩ := IsNumeral.cons_iff.1 numeral
    have two : digits.length = 2 := Nat.succ.inj three
    have read := readDigits_of_isNumeral (by decide) behind digit rest
    rw [← same, two] at read
    rw [List.cons_append, readEscape_of_octal opens ((digitValue?_iff (by decide)).2 isDigit),
      read, characterOf_found small]
    rfl

/-- What is read behind a backslash is an escape of the grammar. -/
theorem isItem_of_readEscape {text : List Char} {c : Char}
    (found : (readEscape quote text).outcome = .ok c) :
    ∃ escape rest, text = escape ++ rest ∧ IsItem quote ('\\' :: escape) c := by
  obtain ⟨letter, rest, rfl, means | ⟨count, listed, read⟩ | ⟨digit, octal, small, read⟩⟩ :=
    readEscape_cases found
  · obtain listed | ⟨rfl, rfl⟩ := of_letterEscape? means
    · exact ⟨[letter], rest, rfl, .letter listed⟩
    · exact ⟨[_], rest, rfl, .quote⟩
  · obtain ⟨digits, tail, number, rfl, rfl, numeral, same⟩ :=
      isNumeral_of_readDigits (by decide) read
    rw [Nat.zero_mul, Nat.zero_add] at same
    exact ⟨letter :: digits, tail, rfl, .code listed (same ▸ numeral)⟩
  · obtain ⟨digits, tail, number, rfl, two, numeral, same⟩ :=
      isNumeral_of_readDigits (by decide) read
    have first : IsDigit 8 digit letter := (digitValue?_iff (by decide)).1 octal
    refine ⟨letter :: digits, tail, rfl, .octal (congrArg (· + 1) two) ?_ small⟩
    exact IsNumeral.cons_iff.2 ⟨digit, number, first, numeral, by rw [same, two]⟩

/-- An item is read first, and then what stands behind it. -/
theorem readQuoted_of_isItem {source : List Char} {c : Char} (item : IsItem quote source c)
    (rest : List Char) : readQuoted quote (source ++ rest) =
      ((readQuoted quote rest).map (c :: ·)).behind source := by
  obtain ⟨rfl, free⟩ | ⟨escape, rfl⟩ := item.plain_or_escape
  · simp only [List.mem_cons, List.not_mem_nil, or_false, not_or] at free
    rw [List.singleton_append, readQuoted, if_neg free.1, if_neg free.2.1, if_neg free.2.2]
  · have notQuote : '\\' ≠ quote := by
      rintro rfl
      revert opens
      decide
    rw [List.cons_append, readQuoted, if_neg notQuote, if_neg (by decide), if_pos rfl]
    simp only [readEscape_of_isItem opens item, Reading.found, List.drop_left]

theorem readQuoted_of_areItems {text value : List Char} (items : AreItems quote text value)
    (rest : List Char) :
    readQuoted quote (text ++ quote :: rest) = .found (text ++ [quote]) value := by
  induction items with
  | nil => simp [readQuoted]
  | cons item following inductionHypothesis =>
    rw [List.append_assoc, readQuoted_of_isItem opens item, inductionHypothesis,
      List.append_assoc]
    rfl

/-- What is read up to a closing quote is a sequence of items. -/
theorem areItems_of_readQuoted {text value : List Char}
    (found : (readQuoted quote text).outcome = .ok value) :
    ∃ inner rest, text = inner ++ quote :: rest ∧ AreItems quote inner value := by
  -- By the reader's own cases: the closing quote, an escape, or any other character.
  fun_induction readQuoted quote text generalizing value with
  | case1 => cases found
  | case2 rest =>
    cases found
    exact ⟨[], rest, rfl, .nil⟩
  | case3 => cases found
  | case4 => cases found
  | case5 rest escape c here notQuote _ =>
    rename_i inductionHypothesis
    obtain ⟨others, behind, rfl⟩ := Reading.outcome_of_map (Reading.outcome_of_behind found)
    obtain ⟨source, tail, rfl, item⟩ := isItem_of_readEscape opens here
    have same : escape = .found source c := readEscape_of_isItem opens item tail
    obtain ⟨inner, rest, whole, items⟩ := inductionHypothesis behind
    have drop : (source ++ tail).drop escape.source.length = tail := by
      rw [same]
      exact List.drop_left
    rw [drop] at whole
    refine ⟨'\\' :: source ++ inner, rest, ?_, .cons item items⟩
    rw [whole, List.append_assoc]
    rfl
  | case6 c rest notQuote notLine notBackslash inductionHypothesis =>
    obtain ⟨others, behind, rfl⟩ := Reading.outcome_of_map (Reading.outcome_of_behind found)
    obtain ⟨inner, rest, rfl, items⟩ := inductionHypothesis behind
    have plain : IsItem quote [c] c := .plain (by simp [notQuote, notLine, notBackslash])
    exact ⟨[c] ++ inner, rest, rfl, .cons plain items⟩

end

/-! ## Raw strings -/

theorem readRaw_of_free {quote : Char} {text : List Char} (free : quote ∉ text)
    (rest : List Char) :
    readRaw quote (text ++ quote :: rest) = .found (quote :: (text ++ [quote])) text := by
  have all : ∀ c ∈ text, (c != quote) = true := by
    intro c member
    simpa using ne_of_mem_of_not_mem member free
  have closes : Text.Stops (· != quote) (quote :: rest) := Text.stops_cons.2 (by simp)
  unfold readRaw
  simp only [Text.takeWhile_of_stops all closes, Text.dropWhile_of_stops all closes]

theorem free_of_readRaw {quote : Char} {text value : List Char}
    (found : (readRaw quote text).outcome = .ok value) :
    ∃ inner rest, text = inner ++ quote :: rest ∧ quote ∉ inner := by
  have all : ∀ c ∈ text.takeWhile (· != quote), (c != quote) = true :=
    List.all_eq_true.1 List.all_takeWhile
  have stops : Text.Stops (· != quote) (text.dropWhile (· != quote)) := Text.stops_dropWhile text
  unfold readRaw at found
  simp only at found
  split at found
  · cases found
  · rename_i c rest ends
    rw [ends, Text.stops_cons] at stops
    have closes : c = quote := by simpa using stops
    refine ⟨text.takeWhile (· != quote), rest, ?_, fun member => ?_⟩
    · rw [← closes, ← ends, closes, List.takeWhile_append_dropWhile]
    · simpa using all quote member

/-! ## Literals -/

/-- The characters are a literal in quotes of this kind, and the lexeme is a string of what
stands between them. -/
def stringLiteral (quote : Char) : Grammar := fun source _ lexeme =>
  ∃ text value, IsBetween quote text value ∧ source = quote :: (text ++ [quote]) ∧
    lexeme = ⟨.string, value⟩

theorem readLexeme_of_isBetween {quote : Char} {text value : List Char}
    (between : IsBetween quote text value) (rest : List Char) :
    readLexeme quote (text ++ quote :: rest) =
      .found (quote :: (text ++ [quote])) ⟨.string, value⟩ := by
  cases between with
  | quoted opens items =>
    have string : readString quote (text ++ quote :: rest) =
        .found (quote :: (text ++ [quote])) value := by
      simp only [readString, readQuoted_of_areItems opens items]
      rfl
    simp only [List.mem_cons, List.not_mem_nil, or_false] at opens
    rw [readLexeme, if_pos (by simpa using opens), string]
    rfl
  | raw free =>
    rw [readLexeme, if_neg (by decide), if_pos rfl, readRaw_of_free free]
    rfl

theorem isBetween_of_readLexeme {quote : Char} (opens : quote ∈ ['\x22', '\x27', '\x60'])
    {text : List Char} {lexeme : Lexeme} (found : (readLexeme quote text).outcome = .ok lexeme) :
    ∃ inner value rest, text = inner ++ quote :: rest ∧ IsBetween quote inner value := by
  by_cases raw : quote = '\x60'
  · subst raw
    have reader : readLexeme '\x60' text = (readRaw '\x60' text).map (⟨.string, ·⟩) := rfl
    rw [reader] at found
    obtain ⟨value, inside, -⟩ := Reading.outcome_of_map found
    obtain ⟨inner, rest, rfl, free⟩ := free_of_readRaw inside
    exact ⟨inner, inner, rest, rfl, .raw free⟩
  · have quoted : quote ∈ ['\x22', '\x27'] := by
      simpa [raw] using opens
    have here : (quote = '\x22' || quote = '\x27') = true := by simpa using quoted
    rw [readLexeme, if_pos here] at found
    obtain ⟨value, inside, -⟩ := Reading.outcome_of_map found
    obtain ⟨inner, rest, rfl, items⟩ :=
      areItems_of_readQuoted quoted (readQuoted_of_readString inside)
    exact ⟨inner, value, rest, rfl, .quoted quoted items⟩

theorem gap_of_quote {quote : Char} (opens : quote ∈ ['\x22', '\x27', '\x60'])
    (text : List Char) : gap false (quote :: text) = [] := by
  simp only [List.mem_cons, List.not_mem_nil, or_false] at opens
  obtain rfl | rfl | rfl := opens <;> rfl

/-- A string literal is read exactly by its grammar, whichever quote it begins with. -/
theorem string_readsBy {quote : Char} (opens : quote ∈ ['\x22', '\x27', '\x60']) (pos : Nat)
    (text : List Char) : (Cursor.mk pos (quote :: text)).ReadsBy (stringLiteral quote) := by
  apply Cursor.readsBy_of_reading (gap_of_quote opens text)
  · rintro source rest lexeme ⟨whole, inner, value, between, rfl, rfl⟩
    obtain rfl : text = inner ++ quote :: rest := by simpa using whole
    exact readLexeme_of_isBetween between rest
  · intro lexeme found
    obtain ⟨inner, value, rest, rfl, between⟩ := isBetween_of_readLexeme opens found
    rw [readLexeme_of_isBetween between] at found
    cases found
    exact ⟨quote :: (inner ++ [quote]), rest, by simp, inner, value, between, rfl, rfl⟩

/-- An escape of four hexadecimal digits, one of three octal digits, the quote behind a
backslash and the other quote as it stands, with a word behind the literal. -/
theorem string_readsBy_escapes : '\x27' ∈ ['\x22', '\x27', '\x60'] ∧
    (Cursor.mk 4 ('\x27' :: "\\u00e9\\101\\'\x22'up".toList)).next =
      (.ok ⟨.string, "éA'\x22", 4⟩, ⟨19, ['u', 'p']⟩) := by
  have accent : IsNumeral 16 ['0', '0', 'e', '9'] 'é'.toNat :=
    ⟨[0, 0, 14, 9], by simp [IsDigit], by decide⟩
  have letter : IsNumeral 8 ['1', '0', '1'] 'A'.toNat :=
    ⟨[1, 0, 1], by simp [IsDigit], by decide⟩
  have items : AreItems '\x27' "\\u00e9\\101\\'\x22".toList ['é', 'A', '\x27', '\x22'] :=
    .cons (.code (by decide) accent) (.cons (.octal rfl letter (by decide))
      (.cons .quote (.cons (.plain (by decide)) .nil)))
  have opens : '\x27' ∈ ['\x22', '\x27', '\x60'] := by decide
  refine ⟨opens, ((string_readsBy opens 4 _).found _ _).2 ?_⟩
  exact ⟨_, ['u', 'p'], _, ⟨rfl, _, _, .quoted (by decide) items, rfl, rfl⟩, rfl, rfl⟩

end RuleAtlas.Query
