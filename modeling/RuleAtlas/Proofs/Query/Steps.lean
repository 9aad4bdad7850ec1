import RuleAtlas.Proofs.Query.Refinement

/-! # Words, clauses and operators one by one

How a word is taken, and that the rounds that read clauses behind an operand and operators
between operands take a token each, so that these loops end. -/

namespace RuleAtlas.Query

open Parse

variable {tokens rest : List Token}

/-! ## Words -/

theorem kind_of_isWord {token : Token} {word : String} (here : token.isWord word = true) :
    token.kind = .ident := by
  simp only [Token.isWord, Bool.and_eq_true, beq_iff_eq] at here
  exact here.1

theorem isWord_of_kind_ne {token : Token} (other : token.kind ≠ .ident) (word : String) :
    token.isWord word = false := by
  simp [Token.isWord, other]

theorem acceptWord_cons {token : Token} {word : String} (here : token.isWord word = true)
    (rest : List Token) : acceptWord word (token :: rest) = (.ok true, rest) := by
  have inner : token.kind ≠ .eof := by
    rw [kind_of_isWord here]
    decide
  rw [acceptWord, peek_bind, first_cons, if_pos here, bind_of_ok (next_cons inner rest)]
  rfl

theorem acceptWord_of_not {word : String} (other : (first tokens).isWord word = false) :
    acceptWord word tokens = (.ok false, tokens) := by
  rw [acceptWord, peek_bind, other]
  rfl

/-- A word is taken exactly if it was there. -/
theorem acceptWord_eq_ok {word : String} {taken : Bool}
    (came : acceptWord word tokens = (.ok taken, rest)) :
    (taken = true ∧ ∃ token, tokens = token :: rest ∧ token.isWord word = true) ∨
      (taken = false ∧ tokens = rest ∧ (first tokens).isWord word = false) := by
  cases here : (first tokens).isWord word with
  | true =>
    obtain ⟨token, behind, rfl, -⟩ := eq_cons_of_first (kind_of_isWord here) (by decide)
    rw [first_cons] at here
    rw [acceptWord_cons here] at came
    cases came
    exact .inl ⟨rfl, token, rfl, here⟩
  | false =>
    rw [acceptWord_of_not here] at came
    cases came
    exact .inr ⟨rfl, rfl, rfl⟩

/-! ## Lengths -/

/-- A parse of the grammar leaves no more tokens than it was given. -/
theorem length_le_of_same {α : Type} {parse : Parse α} (same : leaving.Same parse parse)
    {result : Except ParseError α} (came : parse tokens = (result, rest)) :
    rest.length ≤ tokens.length :=
  (suffix_of_same same came).length_le

/-! ## Clauses behind an operand -/

/-- What a round that reads a clause did. -/
theorem readPostfix_again {expr result : Expr}
    (came : readPostfix expr tokens = (.ok (.again result), rest)) :
    ∃ token middle, tokens = token :: middle ∧
      ((token.kind = .leftBracket ∧ readRange expr middle = (.ok result, rest)) ∨
        (token.isWord "offset" = true ∧ ∃ offset, readOffset middle = (.ok offset, rest) ∧
          applyOffset expr offset = .ok result) ∨
        (token.kind = .atSign ∧ ∃ instant, readInstant middle = (.ok instant, rest) ∧
          applyInstant expr instant = .ok result)) := by
  rw [readPostfix, bind_eq_ok] at came
  obtain ⟨bracket, middle, accepted, came⟩ := came
  -- The clauses are tried one after the other, each by its first token.
  rcases accept_eq_ok (by decide) accepted with
    ⟨rfl, token, rfl, kind⟩ | ⟨rfl, rfl, noBracket⟩
  · rw [if_pos rfl, map_eq_ok] at came
    obtain ⟨range, read, again⟩ := came
    cases again
    exact ⟨token, middle, rfl, .inl ⟨kind, read⟩⟩
  · rw [if_neg Bool.false_ne_true, bind_eq_ok] at came
    obtain ⟨word, middle, accepted, came⟩ := came
    rcases acceptWord_eq_ok accepted with ⟨rfl, token, rfl, here⟩ | ⟨rfl, rfl, noOffset⟩
    · rw [if_pos rfl, bind_eq_ok] at came
      obtain ⟨offset, behind, read, came⟩ := came
      rw [map_eq_ok] at came
      obtain ⟨applied, lifted, again⟩ := came
      cases again
      obtain ⟨applied, rfl⟩ := lift_eq_ok.1 lifted
      exact ⟨token, middle, rfl, .inr (.inl ⟨here, offset, read, applied⟩)⟩
    · rw [if_neg Bool.false_ne_true, bind_eq_ok] at came
      obtain ⟨symbol, middle, accepted, came⟩ := came
      rcases accept_eq_ok (by decide) accepted with
        ⟨rfl, token, rfl, kind⟩ | ⟨rfl, rfl, noSymbol⟩
      · rw [if_pos rfl, bind_eq_ok] at came
        obtain ⟨instant, behind, read, came⟩ := came
        rw [map_eq_ok] at came
        obtain ⟨applied, lifted, again⟩ := came
        cases again
        obtain ⟨applied, rfl⟩ := lift_eq_ok.1 lifted
        exact ⟨token, middle, rfl, .inr (.inr ⟨kind, instant, read, applied⟩)⟩
      · rw [if_neg Bool.false_ne_true] at came
        cases came

/-- The token begins a clause behind an operand. -/
def Token.beginsPostfix (token : Token) : Prop :=
  token.kind = .leftBracket ∨ token.isWord "offset" = true ∨ token.kind = .atSign

/-- In front of a token that begins no clause reading clauses is over. -/
theorem readPostfix_done {expr : Expr} (none : ¬(first tokens).beginsPostfix) :
    readPostfix expr tokens = (.ok (.done expr), tokens) := by
  unfold Token.beginsPostfix at none
  rw [not_or, not_or, Bool.not_eq_true] at none
  obtain ⟨noBracket, noOffset, noSymbol⟩ := none
  rw [readPostfix, bind_of_ok (accept_of_ne noBracket), if_neg Bool.false_ne_true,
    bind_of_ok (acceptWord_of_not noOffset), if_neg Bool.false_ne_true,
    bind_of_ok (accept_of_ne noSymbol), if_neg Bool.false_ne_true]
  rfl

/-- Where reading clauses is over nothing was done. -/
theorem eq_of_readPostfix_done {expr result : Expr}
    (came : readPostfix expr tokens = (.ok (.done result), rest)) :
    result = expr ∧ rest = tokens := by
  rw [readPostfix, bind_eq_ok] at came
  obtain ⟨bracket, middle, accepted, came⟩ := came
  -- Every clause that is read makes the round one that goes on.
  rcases accept_eq_ok (by decide) accepted with ⟨rfl, _⟩ | ⟨rfl, rfl, _⟩
  · rw [if_pos rfl, map_eq_ok] at came
    obtain ⟨range, read, again⟩ := came
    cases again
  · rw [if_neg Bool.false_ne_true, bind_eq_ok] at came
    obtain ⟨word, middle, accepted, came⟩ := came
    rcases acceptWord_eq_ok accepted with ⟨rfl, _⟩ | ⟨rfl, rfl, _⟩
    · rw [if_pos rfl, bind_eq_ok] at came
      obtain ⟨offset, behind, read, came⟩ := came
      obtain ⟨applied, lifted, again⟩ := map_eq_ok.1 came
      cases again
    · rw [if_neg Bool.false_ne_true, bind_eq_ok] at came
      obtain ⟨symbol, middle, accepted, came⟩ := came
      rcases accept_eq_ok (by decide) accepted with ⟨rfl, _⟩ | ⟨rfl, rfl, _⟩
      · rw [if_pos rfl, bind_eq_ok] at came
        obtain ⟨instant, behind, read, came⟩ := came
        obtain ⟨applied, lifted, again⟩ := map_eq_ok.1 came
        cases again
      · cases came
        exact ⟨rfl, rfl⟩

theorem advances_readPostfix : Advances readPostfix where
  shortens came := by
    obtain ⟨token, middle, rfl, cases⟩ := readPostfix_again came
    rw [List.length_cons, Nat.lt_succ_iff]
    rcases cases with ⟨-, read⟩ | ⟨-, offset, read, -⟩ | ⟨-, instant, read, -⟩
    · exact length_le_of_same (Relation.readRange _) read
    · exact length_le_of_same Relation.readOffset read
    · exact length_le_of_same Relation.readInstant read
  ends expr := rfl

/-! ## Operators between operands -/

theorem kind_of_binaryOp {token : Token} {op : BinaryOp} (here : binaryOp? token = some op) :
    token.kind ≠ .eof := by
  intro eof
  rw [binaryOp?, eof] at here
  cases here

/-- What a round that reads an operator and its right operand did. -/
theorem readOperation_again {inner : Nat → Parse Expr} {least : Nat} {left result : Expr}
    (came : readOperation inner least left tokens = (.ok (.again result), rest)) :
    ∃ token middle op clause behind right, tokens = token :: middle ∧
      binaryOp? token = some op ∧ least ≤ op.precedence ∧
      readClause op middle = (.ok clause, behind) ∧
      inner op.rightPrecedence behind = (.ok right, rest) ∧
      result = .binary clause left right := by
  rw [readOperation, peek_bind] at came
  cases found : (binaryOp? (first tokens)).filter (least ≤ ·.precedence) with
  | none =>
    rw [found] at came
    cases came
  | some op =>
    rw [found] at came
    dsimp only at came
    obtain ⟨here, tight⟩ := Option.filter_eq_some_iff.1 found
    cases tokens with
    | nil => cases here
    | cons token middle =>
      rw [first_cons] at here
      rw [bind_of_ok (next_cons (kind_of_binaryOp here) middle), bind_eq_ok] at came
      obtain ⟨clause, behind, read, came⟩ := came
      rw [bind_eq_ok] at came
      obtain ⟨right, final, within, came⟩ := came
      cases came
      exact ⟨token, middle, op, clause, behind, right, rfl, here, by simpa using tight, read,
        within, rfl⟩

/-- In front of a token that is no operator that binds tightly enough reading operators is over. -/
theorem readOperation_done {inner : Nat → Parse Expr} {least : Nat} {left : Expr}
    (loose : ∀ op, binaryOp? (first tokens) = some op → op.precedence < least) :
    readOperation inner least left tokens = (.ok (.done left), tokens) := by
  have none : (binaryOp? (first tokens)).filter (least ≤ ·.precedence) = none := by
    rw [Option.filter_eq_none_iff]
    intro op here
    have below := loose op here
    simpa using below
  rw [readOperation, peek_bind, none]
  rfl

/-- Where reading operators is over the first token is none that binds tightly enough. -/
theorem loose_of_readOperation_done {inner : Nat → Parse Expr} {least : Nat} {left result : Expr}
    (came : readOperation inner least left tokens = (.ok (.done result), rest)) :
    result = left ∧ rest = tokens ∧
      ∀ op, binaryOp? (first tokens) = some op → op.precedence < least := by
  rw [readOperation, peek_bind] at came
  cases found : (binaryOp? (first tokens)).filter (least ≤ ·.precedence) with
  | none =>
    rw [found] at came
    cases came
    refine ⟨rfl, rfl, fun op here => ?_⟩
    have none := Option.filter_eq_none_iff.1 found op here
    simpa using none
  | some op =>
    rw [found] at came
    dsimp only at came
    rw [bind_eq_ok] at came
    obtain ⟨token, middle, -, came⟩ := came
    rw [bind_eq_ok] at came
    obtain ⟨clause, behind, -, came⟩ := came
    rw [bind_eq_ok] at came
    obtain ⟨right, final, -, came⟩ := came
    cases came

theorem advances_readOperation {inner : Nat → Parse Expr} {least : Nat}
    (within : ∀ least, leaving.Same (inner least) (inner least)) :
    Advances (readOperation inner least) where
  shortens came := by
    obtain ⟨token, middle, op, clause, behind, right, rfl, -, -, read, inside, -⟩ :=
      readOperation_again came
    have clauseLength := length_le_of_same (Relation.readClause op) read
    have rightLength := length_le_of_same (within op.rightPrecedence) inside
    rw [List.length_cons]
    omega
  ends expr := by
    rw [readOperation_done]
    intro op here
    cases here

theorem BinaryOp.precedence_le (op : BinaryOp) : op.precedence ≤ signPrecedence := by
  cases op <;> decide

theorem BinaryOp.rightPrecedence_le (op : BinaryOp) : op.rightPrecedence ≤ signPrecedence := by
  cases op <;> decide

/-- The right operand of an operator holds no operator that binds less tightly. -/
theorem BinaryOp.precedence_le_rightPrecedence (op : BinaryOp) :
    op.precedence ≤ op.rightPrecedence := by
  cases op <;> decide

/-! ## Whole texts -/

/-- Behind an expression that is read as a whole only the end is left. -/
theorem readWhole_eq_ok {expr : Expr} (came : (readWhole tokens).1 = .ok expr) :
    ∃ rest, readExpr tokens = (.ok expr, rest) ∧ (first rest).isEof = true := by
  obtain ⟨rest, came⟩ : ∃ rest, readWhole tokens = (.ok expr, rest) := ⟨_, Prod.ext came rfl⟩
  rw [readWhole, peek_bind] at came
  split at came
  · cases came
  · obtain ⟨read, middle, inside, came⟩ := bind_eq_ok.1 came
    rw [peek_bind] at came
    split at came
    · rename_i finished
      cases came
      exact ⟨rest, inside, finished⟩
    · cases came

/-- A text stands for an expression if its tokens are read as this. -/
theorem parse_eq_ok {input : String} {expr : Expr} : Expr.parse input = .ok expr ↔
    ∃ tokens, tokenize input = .ok tokens ∧ (readWhole tokens).1 = .ok expr := by
  unfold Expr.parse
  cases lexed : tokenize input with
  | error error => simp
  | ok tokens => cases came : (readWhole tokens).1 <;> simp [came, Except.mapError]

/-! ## Computed outcomes -/

/-- A value may be computed where the errors cannot be compared. -/
theorem eq_ok_of_toOption {ε α : Type} {result : Except ε α} {value : α}
    (computed : result.toOption = some value) : result = .ok value := by
  cases result with
  | error => cases computed
  | ok found => rw [Option.some.inj computed]

theorem exists_eq_ok_of_isOk {ε α : Type} {result : Except ε α} (isOk : result.isOk = true) :
    ∃ value, result = .ok value := by
  cases result with
  | error => cases isOk
  | ok value => exact ⟨value, rfl⟩

end RuleAtlas.Query
