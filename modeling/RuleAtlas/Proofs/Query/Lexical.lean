import RuleAtlas.Proofs.Query.Pieces

/-! # The texts of tokens

Whatever the input, a token of a word is a word, and a token of a number begins with a digit
or a point. -/

namespace RuleAtlas.Query

def Lexeme.IsLexical (lexeme : Lexeme) : Prop :=
  (lexeme.kind = .ident → isWord lexeme.text = true) ∧
    (lexeme.kind = .number → Binary64.BeginsNumber lexeme.text)

/-- A text fits every kind but those of words and numbers. -/
theorem Lexeme.isLexical_of_ne {lexeme : Lexeme} (noWord : lexeme.kind ≠ .ident)
    (noNumber : lexeme.kind ≠ .number) : lexeme.IsLexical :=
  ⟨fun word => absurd word noWord, fun number => absurd number noNumber⟩

/-! ## What readings find -/

namespace Reading

variable {α β : Type} {reading : Reading α}

theorem outcome_of_map {f : α → β} {b : β} (found : (reading.map f).outcome = .ok b) :
    ∃ a, reading.outcome = .ok a ∧ f a = b := by
  unfold Reading.map at found
  cases same : reading.outcome with
  | error stumble =>
    rw [same] at found
    cases found
  | ok a =>
    rw [same] at found
    exact ⟨a, rfl, Except.ok.inj found⟩

theorem outcome_of_behind {front : List Char} {a : α}
    (found : (reading.behind front).outcome = .ok a) : reading.outcome = .ok a := by
  unfold Reading.behind at found
  cases same : reading.outcome with
  | error stumble =>
    rw [same] at found
    cases found
  | ok b =>
    rw [same] at found
    exact found

end Reading

/-! ## Single tokens -/

theorem isWord_readWord {first : Char} {rest : List Char} (starts : startsWord first rest = true) :
    isWord (first :: rest.takeWhile isWordPart) = true := by
  rw [isWord, List.all_takeWhile, Bool.and_true]
  simp only [startsWord, Bool.or_eq_true, Bool.and_eq_true] at starts ⊢
  rcases starts with letter | ⟨colon, following⟩
  · exact .inl letter
  refine .inr ⟨colon, ?_⟩
  cases rest with
  | nil => cases following
  | cons next rest =>
    have letter : isWordStart next = true := by simpa using following
    rw [List.takeWhile_cons_of_pos (isWordPart_of_isWordStart letter)]
    simpa using letter

theorem kind_finishNumber {kind other : TokenKind} {source rest : List Char}
    (found : (finishNumber kind source rest).outcome = .ok other) : other = kind := by
  unfold finishNumber at found
  split at found
  · cases found
    rfl
  · split at found
    · cases found
    · cases found
      rfl

/-- What is found is a number, which begins as numbers do, or a duration. -/
theorem readNumber_lexical {first : Char} {rest : List Char} {kind : TokenKind}
    (starts : startsNumber first rest = true)
    (found : (readNumber (first :: rest)).outcome = .ok kind) :
    kind = .duration ∨
      kind = .number ∧ Binary64.BeginsNumber (readNumber (first :: rest)).source := by
  -- Both marks of a hexadecimal number stand behind a zero.
  have hexadecimal : ∀ (second : Char) (digits : List Char),
      (readHexadecimal ['0', second] digits).outcome = .ok kind →
      kind = .duration ∨
        kind = .number ∧ Binary64.BeginsNumber (readHexadecimal ['0', second] digits).source := by
    intro second digits found
    unfold readHexadecimal at found ⊢
    simp only at found ⊢
    split at found
    · cases found
    · rename_i some_digits
      rw [if_neg some_digits, source_finishNumber, kind_finishNumber found]
      exact .inr ⟨rfl, '0', rfl, .inl rfl⟩
  unfold readNumber at found ⊢
  split at found
  · exact hexadecimal _ _ found
  · exact hexadecimal _ _ found
  · unfold readDecimal readDuration at found
    unfold readDecimal
    simp only at found ⊢
    split at found
    · split at found
      · cases found
      · exact .inl (kind_finishNumber found)
    · rename_i number
      rw [if_neg number, source_finishNumber, kind_finishNumber found]
      refine .inr ⟨rfl, ?_⟩
      -- A number that does not begin with a digit begins with a point.
      by_cases digit : first.isDigit = true
      · refine ⟨first, ?_, .inl digit⟩
        simp [decimalParts, List.takeWhile_cons_of_pos digit]
      · have point : first = '.' := by
          simp only [startsNumber, digit, Bool.false_or, Bool.and_eq_true, beq_iff_eq] at starts
          exact starts.1
        subst point
        exact ⟨'.', rfl, .inr rfl⟩

/-- The kind is that of a symbol, neither of a longer token nor of the end. -/
def TokenKind.IsSymbol (kind : TokenKind) : Prop :=
  kind ∉ [.ident, .number, .duration, .string, .eof]

instance (kind : TokenKind) : Decidable kind.IsSymbol :=
  inferInstanceAs (Decidable (kind ∉ _))

theorem readSymbol_lexical {c : Char} {rest : List Char} {kind : TokenKind}
    (found : (readSymbol c rest).outcome = .ok kind) : kind.IsSymbol := by
  have single : (readSingle c).outcome = .ok kind → kind.IsSymbol := by
    intro found
    unfold readSingle at found
    split at found
    case h_5 =>
      split at found
      · rename_i symbol
        cases found
        unfold symbol? at symbol
        split at symbol
        all_goals first | contradiction | (cases symbol; decide)
      · cases found
    all_goals
      cases found
      try decide
  unfold readSymbol at found
  split at found
  · exact single found
  · split at found
    · rename_i pair
      cases found
      unfold pairSymbol? at pair
      split at pair
      all_goals first | contradiction | (cases pair; decide)
    · exact single found

/-- What a token is read as fits its kind. -/
theorem readLexeme_lexical {first : Char} {rest : List Char} {lexeme : Lexeme}
    (found : (readLexeme first rest).outcome = .ok lexeme) : lexeme.IsLexical := by
  -- String, raw string, number, word, symbol: in the order in which they are tried.
  unfold readLexeme at found
  split at found
  · obtain ⟨text, -, rfl⟩ := Reading.outcome_of_map found
    exact Lexeme.isLexical_of_ne (by simp) (by simp)
  · split at found
    · obtain ⟨text, -, rfl⟩ := Reading.outcome_of_map found
      exact Lexeme.isLexical_of_ne (by simp) (by simp)
    · split at found
      · rename_i starts
        obtain ⟨kind, same, rfl⟩ := Reading.outcome_of_map found
        rcases readNumber_lexical starts same with rfl | ⟨rfl, begins⟩
        · exact Lexeme.isLexical_of_ne (by simp) (by simp)
        · exact ⟨fun word => (by cases word), fun _ => begins⟩
      · split at found
        · rename_i starts
          cases found
          exact ⟨fun _ => isWord_readWord starts, fun number => by cases number⟩
        · obtain ⟨kind, same, rfl⟩ := Reading.outcome_of_map found
          have symbol := readSymbol_lexical same
          constructor
          all_goals
            rintro rfl
            exact absurd symbol (by decide)

/-! ## All tokens of an input -/

def Lexical (tokens : List Token) : Prop := ∀ token ∈ tokens, token.lexeme.IsLexical

theorem Cursor.lexical_tokens {cursor : Cursor} {tokens : List Token}
    (read : cursor.tokens = .ok tokens) : Lexical tokens := by
  -- Over the tokens: the end, a fault, or a token and those behind it.
  fun_induction Cursor.tokens cursor generalizing tokens with
  | case1 cursor finished =>
    cases read
    intro token member
    rw [List.mem_singleton.1 member]
    exact Lexeme.isLexical_of_ne (by simp [Token.lexeme]) (by simp [Token.lexeme])
  | case2 => cases read
  | case3 cursor first rest unfinished token here inductionHypothesis =>
    cases following : cursor.next.2.tokens with
    | error error =>
      rw [following] at read
      cases read
    | ok others =>
      rw [following] at read
      cases read
      intro other member
      rcases List.mem_cons.1 member with rfl | member
      · obtain ⟨lexeme, found, rfl, -⟩ := Cursor.next_of_ok unfinished here
        simpa [Token.lexeme] using readLexeme_lexical found
      · exact inductionHypothesis following other member

theorem lexical_tokenize {input : String} {tokens : List Token}
    (read : tokenize input = .ok tokens) : Lexical tokens :=
  Cursor.lexical_tokens read

end RuleAtlas.Query
