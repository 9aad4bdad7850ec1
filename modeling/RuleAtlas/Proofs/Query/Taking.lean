import RuleAtlas.Proofs.Query.Lexical

/-! # Readings take characters from the head of a text

Whether a reading finds a token or a fault, the characters that it reports are those at the
head of the text it was given, so nothing is skipped and nothing is read twice.  What a token
is then shows in these characters: a string is written between two quotes of one kind, and
every other token is written as its own text. -/

namespace RuleAtlas.Query

/-- The characters that were read stand at the head of the text. -/
def Reading.Takes {α : Type} (reading : Reading α) (text : List Char) : Prop :=
  reading.source <+: text

namespace Reading.Takes

variable {α β : Type} {reading : Reading α} {front text : List Char}

theorem of_source (head : front <+: text) (same : reading.source = front) :
    reading.Takes text := by
  rw [Reading.Takes, same]
  exact head

theorem behind (takes : reading.Takes text) : (reading.behind front).Takes (front ++ text) := by
  rw [Reading.Takes, source_behind]
  exact List.prefix_append_right_inj front |>.2 takes

/-- A reading goes on behind what was taken before it. -/
theorem behind_drop (head : front <+: text) (takes : reading.Takes (text.drop front.length)) :
    (reading.behind front).Takes text := by
  have whole : front ++ text.drop front.length = text := List.prefix_iff_eq_append.1 head
  rw [← whole]
  exact takes.behind

theorem map (f : α → β) (takes : reading.Takes text) : (reading.map f).Takes text := takes

end Reading.Takes

/-! ## Gaps -/

theorem gap_head (inComment : Bool) (text : List Char) : gap inComment text <+: text := by
  fun_induction gap inComment text with
  | case1 | case4 | case6 => exact List.nil_prefix
  | case2 c rest _ inductionHypothesis => exact List.cons_prefix_cons.2 ⟨rfl, inductionHypothesis⟩
  | case3 rest _ inductionHypothesis => exact List.cons_prefix_cons.2 ⟨rfl, inductionHypothesis⟩
  | case5 rest inductionHypothesis => exact List.cons_prefix_cons.2 ⟨rfl, inductionHypothesis⟩
  | case7 c rest _ _ inductionHypothesis => exact List.cons_prefix_cons.2 ⟨rfl, inductionHypothesis⟩

/-! ## Strings -/

theorem takes_readDigits (base count value : Nat) (text : List Char) :
    (readDigits base count value text).Takes text := by
  fun_induction readDigits base count value text with
  | case1 | case2 => exact List.nil_prefix
  | case3 => exact List.cons_prefix_cons.2 ⟨rfl, List.nil_prefix⟩
  | case4 count value c rest digit _ inductionHypothesis => exact inductionHypothesis.behind

theorem source_characterOf (reading : Reading Nat) (limit : Nat) :
    (characterOf reading limit).source = reading.source := by
  unfold characterOf
  split
  · rfl
  · split
    · rfl
    · split <;> rfl

theorem takes_readEscape (quote : Char) (text : List Char) :
    (readEscape quote text).Takes text := by
  cases text with
  | nil => exact List.nil_prefix
  | cons c rest =>
    have single : [c] <+: c :: rest := List.cons_prefix_cons.2 ⟨rfl, List.nil_prefix⟩
    have code : ∀ base count value limit,
        ((characterOf (readDigits base count value rest) limit).behind [c]).Takes (c :: rest) := by
      intro base count value limit
      exact Reading.Takes.behind
        (.of_source (takes_readDigits base count value rest) (source_characterOf ..))
    unfold readEscape
    simp only
    split
    · exact single
    · split
      · exact code ..
      · split
        · exact code ..
        · split
          · exact code ..
          · split
            · exact code ..
            · exact single

theorem takes_readQuoted (quote : Char) (text : List Char) :
    (readQuoted quote text).Takes text := by
  fun_induction readQuoted quote text with
  | case1 => exact List.nil_prefix
  | case2 => exact List.cons_prefix_cons.2 ⟨rfl, List.nil_prefix⟩
  | case3 => exact List.cons_prefix_cons.2 ⟨rfl, List.nil_prefix⟩
  | case4 rest => exact List.cons_prefix_cons.2 ⟨rfl, takes_readEscape quote rest⟩
  | case5 rest _ _ _ _ _ inductionHypothesis =>
    have head : '\\' :: (readEscape quote rest).source <+: '\\' :: rest :=
      List.cons_prefix_cons.2 ⟨rfl, takes_readEscape quote rest⟩
    exact .behind_drop head (inductionHypothesis.map _)
  | case6 c rest _ _ _ inductionHypothesis => exact (inductionHypothesis.map _).behind

/-- A string that is found was read up to its closing quote. -/
theorem source_readQuoted {quote : Char} {text value : List Char}
    (found : (readQuoted quote text).outcome = .ok value) :
    ∃ body, (readQuoted quote text).source = body ++ [quote] := by
  fun_induction readQuoted quote text generalizing value with
  | case1 => cases found
  | case2 => exact ⟨[], rfl⟩
  | case3 => cases found
  | case4 => cases found
  | case5 rest =>
    rename_i inductionHypothesis
    obtain ⟨value, found, -⟩ := Reading.outcome_of_map (Reading.outcome_of_behind found)
    obtain ⟨body, same⟩ := inductionHypothesis found
    refine ⟨'\\' :: (readEscape quote rest).source ++ body, ?_⟩
    rw [source_behind, source_map, same, List.append_assoc]
  | case6 c rest _ _ _ inductionHypothesis =>
    obtain ⟨value, found, -⟩ := Reading.outcome_of_map (Reading.outcome_of_behind found)
    obtain ⟨body, same⟩ := inductionHypothesis found
    refine ⟨c :: body, ?_⟩
    rw [source_behind, source_map, same]
    rfl

/-- The characters are a quote, any others, and the same quote again. -/
def IsQuoted (source : List Char) : Prop :=
  ∃ quote body, quote ∈ ['\x22', '\x27', '\x60'] ∧ source = quote :: (body ++ [quote])

theorem source_readString (quote : Char) (rest : List Char) :
    (readString quote rest).source = quote :: (readQuoted quote rest).source := by
  unfold readString
  simp only
  split <;> rfl

/-- A string is what was read up to its closing quote. -/
theorem readQuoted_of_readString {quote : Char} {rest value : List Char}
    (found : (readString quote rest).outcome = .ok value) :
    (readQuoted quote rest).outcome = .ok value := by
  unfold readString at found
  simp only at found
  split at found
  · -- A fault that is moved to the opening quote is still a fault.
    rename_i fault
    unfold Reading.atStart at found
    rw [fault] at found
    cases found
  · exact Reading.outcome_of_behind found

theorem isQuoted_readString {quote : Char} {rest value : List Char}
    (opens : quote = '\x22' ∨ quote = '\x27')
    (found : (readString quote rest).outcome = .ok value) :
    IsQuoted (readString quote rest).source := by
  obtain ⟨body, same⟩ := source_readQuoted (readQuoted_of_readString found)
  refine ⟨quote, body, ?_, by rw [source_readString, same]⟩
  rcases opens with rfl | rfl <;> decide

theorem takes_readRaw (quote : Char) (rest : List Char) :
    (readRaw quote rest).Takes (quote :: rest) := by
  have whole := List.takeWhile_append_dropWhile (p := (· != quote)) (l := rest)
  have stops : Text.Stops (· != quote) (rest.dropWhile (· != quote)) := Text.stops_dropWhile rest
  unfold readRaw
  simp only
  split
  · exact List.cons_prefix_cons.2 ⟨rfl, List.takeWhile_prefix _⟩
  · rename_i c more ends
    -- The run can only have been stopped by the quote.
    rw [ends, Text.stops_cons] at stops
    have closes : c = quote := by simpa using stops
    rw [ends, closes] at whole
    refine List.cons_prefix_cons.2 ⟨rfl, more, ?_⟩
    simpa using whole

theorem isQuoted_readRaw {rest value : List Char}
    (found : (readRaw '\x60' rest).outcome = .ok value) :
    IsQuoted (readRaw '\x60' rest).source := by
  unfold readRaw at found ⊢
  simp only at found ⊢
  split at found
  · cases found
  · rename_i c more ends
    exact ⟨'\x60', _, by decide, rfl⟩

/-! ## Numbers and durations -/

theorem durationUnit?_head {text unit : List Char} (found : durationUnit? text = some unit) :
    unit <+: text := by
  unfold durationUnit? at found
  split at found
  · cases found
    exact ⟨_, rfl⟩
  · cases found
    exact ⟨_, rfl⟩
  · split at found
    · cases found
      exact ⟨_, rfl⟩
    · cases found
  · cases found

theorem takes_readUnits (text : List Char) : (readUnits text).Takes text := by
  fun_induction readUnits text with
  | case1 => exact List.nil_prefix
  | case2 text unit found => exact durationUnit?_head found
  | case3 text unit found rest digits _ inductionHypothesis =>
    have parts : unit ++ digits <+: text := by
      rw [← List.prefix_iff_eq_append.1 (durationUnit?_head found)]
      exact (List.prefix_append_right_inj unit).2 (List.takeWhile_prefix _)
    apply Reading.Takes.behind_drop parts
    rw [List.length_append, ← List.drop_drop]
    exact inductionHypothesis

theorem fractionPart_head (text : List Char) : fractionPart text <+: text := by
  unfold fractionPart
  split
  · exact List.cons_prefix_cons.2 ⟨rfl, List.takeWhile_prefix _⟩
  · exact List.nil_prefix

theorem exponentPart_head (text : List Char) : exponentPart text <+: text := by
  have digits : ∀ rest : List Char, rest.takeWhile Char.isDigit <+: rest :=
    fun rest => List.takeWhile_prefix _
  unfold exponentPart
  split
  · split
    · split
      · exact List.nil_prefix
      · rename_i e c rest
        split
        · simpa using digits rest
        · split
          · split
            · exact List.nil_prefix
            · rename_i d more run
              have head := digits rest
              rw [run] at head
              simpa using head
          · exact List.nil_prefix
    · exact List.nil_prefix
  · exact List.nil_prefix

/-- The parts of a decimal number stand behind each other. -/
theorem decimalParts_append (text : List Char) :
    (decimalParts text).whole ++ (decimalParts text).fraction ++ (decimalParts text).exponent ++
      (decimalParts text).rest = text := by
  simp only [decimalParts, List.append_assoc]
  rw [List.prefix_iff_eq_append.1 (exponentPart_head _),
    List.prefix_iff_eq_append.1 (fractionPart_head _),
    List.prefix_iff_eq_append.1 (List.takeWhile_prefix _)]

theorem takes_readHexadecimal (lead rest : List Char) :
    (readHexadecimal lead rest).Takes (lead ++ rest) := by
  unfold readHexadecimal
  simp only
  split
  · exact List.prefix_append lead rest
  · apply Reading.Takes.of_source _ (source_finishNumber ..)
    exact (List.prefix_append_right_inj lead).2 (List.takeWhile_prefix _)

theorem takes_readDecimal (text : List Char) : (readDecimal text).Takes text := by
  have whole := decimalParts_append text
  unfold readDecimal
  simp only
  split
  · rename_i integral
    simp only [Bool.and_eq_true, List.isEmpty_iff] at integral
    rw [integral.1.1, integral.1.2, List.append_nil, List.append_nil] at whole
    rw [Reading.Takes, source_readDuration]
    calc (decimalParts text).whole ++ (readUnits (decimalParts text).rest).source
        <+: (decimalParts text).whole ++ (decimalParts text).rest := by
          exact (List.prefix_append_right_inj _).2 (takes_readUnits _)
      _ = text := whole
  · exact .of_source ⟨_, whole⟩ (source_finishNumber ..)

theorem takes_readNumber (text : List Char) : (readNumber text).Takes text := by
  unfold readNumber
  split
  · exact takes_readHexadecimal ['0', 'x'] _
  · exact takes_readHexadecimal ['0', 'X'] _
  · exact takes_readDecimal _

/-! ## Words, symbols and all tokens -/

theorem takes_readSymbol (c : Char) (rest : List Char) : (readSymbol c rest).Takes (c :: rest) := by
  have single : (readSingle c).Takes (c :: rest) :=
    .of_source ⟨rest, rfl⟩ (source_readSingle c)
  unfold readSymbol
  split
  · exact single
  · split
    · exact ⟨_, rfl⟩
    · exact single

theorem takes_readLexeme (first : Char) (rest : List Char) :
    (readLexeme first rest).Takes (first :: rest) := by
  unfold readLexeme
  split
  · exact .of_source (List.cons_prefix_cons.2 ⟨rfl, takes_readQuoted first rest⟩)
      (source_readString first rest)
  · split
    · exact (takes_readRaw first rest).map _
    · split
      · exact (takes_readNumber (first :: rest)).map _
      · split
        · exact List.cons_prefix_cons.2 ⟨rfl, List.takeWhile_prefix _⟩
        · exact (takes_readSymbol first rest).map _

/-- How a lexeme stands in the text: a string between quotes, any other as its own text. -/
structure Lexeme.IsWrittenAs (lexeme : Lexeme) (source : List Char) : Prop where
  notEnd : lexeme.kind ≠ .eof
  verbatim : lexeme.kind ≠ .string → lexeme.text = source
  quoted : lexeme.kind = .string → IsQuoted source

theorem isWrittenAs_string {source text : List Char} (quoted : IsQuoted source) :
    Lexeme.IsWrittenAs ⟨.string, text⟩ source :=
  ⟨by simp, fun other => absurd rfl other, fun _ => quoted⟩

theorem isWrittenAs_verbatim {kind : TokenKind} {source : List Char} (notEnd : kind ≠ .eof)
    (noString : kind ≠ .string) : Lexeme.IsWrittenAs ⟨kind, source⟩ source :=
  ⟨notEnd, fun _ => rfl, fun string => absurd string noString⟩

/-- Every reader writes its lexeme in one of the two ways. -/
theorem readLexeme_written {first : Char} {rest : List Char} {lexeme : Lexeme}
    (found : (readLexeme first rest).outcome = .ok lexeme) :
    lexeme.IsWrittenAs (readLexeme first rest).source := by
  unfold readLexeme at found ⊢
  -- In the order in which the kinds of lexemes are tried.
  split at found
  · rename_i opens
    obtain ⟨text, string, rfl⟩ := Reading.outcome_of_map found
    rw [if_pos opens]
    exact isWrittenAs_string (isQuoted_readString (by simpa using opens) string)
  · rename_i noString
    rw [if_neg noString]
    split at found
    · rename_i opens
      subst opens
      obtain ⟨text, raw, rfl⟩ := Reading.outcome_of_map found
      exact isWrittenAs_string (isQuoted_readRaw raw)
    · rename_i noRaw
      rw [if_neg noRaw]
      split at found
      · rename_i starts
        obtain ⟨kind, number, rfl⟩ := Reading.outcome_of_map found
        rw [if_pos starts]
        rcases readNumber_lexical starts number with rfl | ⟨rfl, -⟩
        · exact isWrittenAs_verbatim (by decide) (by decide)
        · exact isWrittenAs_verbatim (by decide) (by decide)
      · rename_i noNumber
        rw [if_neg noNumber]
        split at found
        · rename_i starts
          cases found
          rw [if_pos starts]
          exact isWrittenAs_verbatim (by decide) (by decide)
        · rename_i noWord
          rw [if_neg noWord]
          obtain ⟨kind, symbol, rfl⟩ := Reading.outcome_of_map found
          have isSymbol := readSymbol_lexical symbol
          apply isWrittenAs_verbatim
          all_goals
            rintro rfl
            exact absurd isSymbol (by decide)

/-- No token begins with a NUL character. -/
theorem readLexeme_nul (rest : List Char) (lexeme : Lexeme) :
    (readLexeme '\x00' rest).outcome ≠ .ok lexeme := by
  have symbol : readLexeme '\x00' rest = (readSymbol '\x00' rest).verbatim := by
    simp [readLexeme, startsNumber, startsWord, isWordStart]
  have single : readSymbol '\x00' rest = readSingle '\x00' := by
    cases rest <;> rfl
  rw [symbol, single]
  intro found
  cases found

end RuleAtlas.Query
