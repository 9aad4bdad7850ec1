import RuleAtlas.Proofs.Query.Accepted.Parts

/-! # What readings of expressions come to

Every reading of tokens whose texts fit their kinds comes to a tree that can be read again.
What is left of the tokens behind an expression begins with no operator that the expression
would have taken. -/

namespace RuleAtlas.Query

open Parse
open Binary64 (Canonical IsUnsigned)

variable {tokens rest : List Token} {levels : Nat} {expr : Expr}

/-! ## Primary expressions -/

/-- The words that the written expression begins with are those of the token. -/
def Begins (token : Token) (expr : Expr) : Prop :=
  ∀ word, (first expr.tokens).isWord word = true → token.isWord word = true

theorem begins_of_kind_ne {token : Token} (other : (first expr.tokens).kind ≠ .ident) :
    Begins token expr := by
  intro word here
  exact absurd (kind_of_isWord here) other

/-- The written expression begins with the word of the token, up to the case of its letters. -/
theorem begins_of_word {token : Token} {text : String} (kind : token.kind = .ident)
    (written : first expr.tokens = Written.word text)
    (same : lowercase text = lowercase token.text) : Begins token expr := by
  intro word here
  rw [written, Written.word, Token.isWord] at here
  rw [Token.isWord, kind, ← same]
  exact here

/-- A number without a sign is written without a word. -/
theorem kind_of_isUnsigned {value : Binary64} (unsigned : IsUnsigned value) :
    (first (Expr.number value).tokens).kind ≠ .ident := by
  cases value with
  | nan => cases unsigned
  | infinity negative =>
    cases unsigned
    simp [Expr.tokens, numberTokens, UnaryOp.token]
  | finite negative significand exponent =>
    cases unsigned
    simp [Expr.tokens, numberTokens, Written.digits]

theorem of_numberWord {token : Token} {value : Binary64} (kind : token.kind = .ident)
    (number : numberWord? token.text = some value) :
    Operand levels (.number value) ∧ Begins token (.number value) := by
  unfold numberWord? at number
  split at number
  · cases number
    exact ⟨⟨.number (.inr ⟨trivial, rfl⟩), rfl⟩, begins_of_kind_ne (kind_of_isUnsigned rfl)⟩
  · split at number
    · rename_i same
      cases number
      exact ⟨⟨.number (.inl rfl), rfl⟩, begins_of_word kind rfl (by rw [same]; decide)⟩
    · cases number

/-- The word of an aggregation is its symbol in some letter case. -/
theorem lowercase_of_aggregation {text : String} {following : Token} {op : AggregateOp}
    (aggregation : aggregation? text following = some op) :
    lowercase op.symbol = lowercase text := by
  unfold aggregation? at aggregation
  split at aggregation
  · have symbol : op.symbol = lowercase text := by
      simpa using List.find?_some aggregation
    rw [← symbol]
    cases op <;> decide
  · cases aggregation

/-- What a reading of an expression comes to: a tree that can be read again and begins with the
same words, and in front of what is left no operator that binds tightly enough. -/
structure Comes (levels least : Nat) (tokens : List Token) (expr : Expr) (rest : List Token) :
    Prop where
  readable : Readable levels least expr
  begins : Begins (first tokens) expr
  loose : ∀ op, binaryOp? (first rest) = some op → op.precedence < least

/-- Parses of inner expressions that come to trees of fewer levels. -/
structure Within (levels : Nat) (inner : Nat → Parse Expr) : Prop where
  leaves : ∀ least, leaving.Same (inner least) (inner least)
  comes : ∀ {least : Nat} {tokens rest : List Token} {expr : Expr}, Lexical tokens →
    inner least tokens = (.ok expr, rest) →
    ∃ below, levels = below + 1 ∧ Comes below least tokens expr rest

section
variable {inner : Nat → Parse Expr} (within : Within levels inner)
include within

theorem Within.readable {least : Nat} (lexical : Lexical tokens)
    (came : inner least tokens = (.ok expr, rest)) :
    ∃ below, levels = below + 1 ∧ Readable below least expr := by
  obtain ⟨below, same, comes⟩ := within.comes lexical came
  exact ⟨below, same, comes.readable⟩

theorem Within.of_readParen (lexical : Lexical tokens)
    (came : readParen inner tokens = (.ok expr, rest)) :
    Operand levels expr ∧ (first expr.tokens).kind ≠ .ident := by
  rw [readParen, bind_eq_ok] at came
  obtain ⟨body, middle, read, came⟩ := came
  rw [bind_eq_ok] at came
  obtain ⟨closing, behind, -, came⟩ := came
  cases came
  obtain ⟨below, rfl, readable⟩ := within.readable lexical read
  exact ⟨⟨.paren readable, rfl⟩, by simp [Expr.tokens, Written.leftParen]⟩

theorem Within.of_readCall {name : String} (lexical : Lexical tokens)
    (word : isWord name.toList = true) (noNumber : numberWord? name = none)
    (noAggregate : AggregateOp.ofWord? name = none)
    (came : readCall inner name tokens = (.ok expr, rest)) :
    Operand levels expr ∧ first expr.tokens = Written.word name := by
  rw [readCall] at came
  cases known : function? name with
  | none =>
    rw [known] at came
    cases came
  | some entry =>
    rw [known] at came
    dsimp only at came
    rw [bind_eq_ok] at came
    obtain ⟨opening, middle, expected, came⟩ := came
    have lexicalMiddle := lexical.left (Relation.expect .leftParen .call) expected
    obtain ⟨arguments, behind, chosen, came⟩ := choice_eq_ok came
    rw [bind_eq_ok] at came
    obtain ⟨closing, final, -, came⟩ := came
    split at came
    · rename_i counted
      cases came
      refine ⟨?_, by simp [Expr.tokens]⟩
      -- Where there is an argument there was a level left for it.
      have inside : ∀ argument ∈ arguments, 0 < levels ∧ Readable (levels - 1) 0 argument := by
        split at chosen
        · cases chosen
          intro argument member
          cases member
        · refine mem_items ?_ (within.leaves 0) lexicalMiddle chosen
          intro tokens argument rest lexical read
          obtain ⟨below, rfl, readable⟩ := within.readable lexical read
          exact ⟨Nat.succ_pos below, readable⟩
      refine ⟨.call word noNumber noAggregate known counted ?_ fun argument member =>
        (inside argument member).2, rfl⟩
      intro some_arguments
      obtain ⟨argument, others, rfl⟩ := List.exists_cons_of_ne_nil some_arguments
      exact (inside argument List.mem_cons_self).1
    · cases came

theorem Within.of_readAggregated {op : AggregateOp} {aggregated : Aggregated}
    (lexical : Lexical tokens) (came : readAggregated inner op tokens = (.ok aggregated, rest)) :
    ∃ below, levels = below + 1 ∧ aggregated.parameter.isSome = op.takesParameter ∧
      (∀ expr ∈ aggregated.parameter, Readable below 0 expr) ∧
      Readable below 0 aggregated.body := by
  rw [readAggregated, bind_eq_ok] at came
  obtain ⟨first, middle, read, came⟩ := came
  obtain ⟨below, rfl, readable⟩ := within.readable lexical read
  have lexicalMiddle := lexical.left (within.leaves 0) read
  refine ⟨below, rfl, ?_⟩
  -- The first expression is the parameter where the operator takes one, and the body elsewhere.
  split at came
  · rename_i takes
    rw [bind_eq_ok] at came
    obtain ⟨comma, behind, expected, came⟩ := came
    have lexicalBehind :=
      lexicalMiddle.left (Relation.expect .comma .aggregationParameter) expected
    rw [bind_eq_ok] at came
    obtain ⟨body, final, readBody, came⟩ := came
    cases came
    obtain ⟨same, equal, readableBody⟩ := within.readable lexicalBehind readBody
    cases equal
    refine ⟨takes.symm, ?_, readableBody⟩
    intro expr member
    cases member
    exact readable
  · rename_i takesNone
    cases came
    refine ⟨(Bool.eq_false_iff.2 takesNone).symm, ?_, readable⟩
    intro expr member
    cases member

theorem Within.of_readAggregate {op : AggregateOp} (lexical : Lexical tokens)
    (came : readAggregate inner op tokens = (.ok expr, rest)) :
    Operand levels expr ∧ first expr.tokens = Written.word op.symbol := by
  rw [readAggregate, bind_eq_ok] at came
  -- What is left behind each part is lexical too, which makes the labels of a grouping words.
  obtain ⟨before, middle, readBefore, came⟩ := came
  have words := areWords_of_readGrouping lexical readBefore
  have lexicalMiddle := lexical.left Relation.readGrouping readBefore
  rw [bind_eq_ok] at came
  obtain ⟨opening, behind, expected, came⟩ := came
  have lexicalBehind := lexicalMiddle.left (Relation.expect .leftParen .aggregation) expected
  rw [peek_bind] at came
  split at came
  · cases came
  · rw [bind_eq_ok] at came
    obtain ⟨aggregated, inside, read, came⟩ := came
    obtain ⟨below, rfl, takes, readableParameter, readable⟩ :=
      within.of_readAggregated lexicalBehind read
    have lexicalInside :=
      lexicalBehind.left (Relation.readAggregated (within.leaves 0) op) read
    rw [bind_eq_ok] at came
    obtain ⟨comma, afterComma, accepted, came⟩ := came
    have lexicalAfter := lexicalInside.left (Relation.accept .comma) accepted
    rw [bind_eq_ok] at came
    obtain ⟨closing, final, expected, came⟩ := came
    have lexicalFinal := lexicalAfter.left (Relation.expect .rightParen .aggregation) expected
    rw [bind_eq_ok] at came
    obtain ⟨grouping, last, readSecond, came⟩ := came
    cases came
    exact ⟨⟨.aggregate (areWords_of_readSecondGrouping lexicalFinal words readSecond) takes
      readableParameter readable, rfl⟩, by simp [Expr.tokens]⟩

/-- What begins with a word can be read again and begins with that word. -/
theorem Within.of_readWordExpr (lexical : Lexical tokens)
    (kind : (first tokens).kind = .ident) (came : readWordExpr inner tokens = (.ok expr, rest)) :
    Operand levels expr ∧ Begins (first tokens) expr := by
  obtain ⟨token, middle, rfl, tokenKind⟩ := eq_cons_of_first kind (by decide)
  have word := (lexical token List.mem_cons_self).1 tokenKind
  have lexicalMiddle := lexical.behind
  rw [readWordExpr, peekSecond_bind, bind_of_ok (next_cons (by rw [tokenKind]; decide) middle)]
    at came
  generalize first ((token :: middle).drop 1) = following at came
  rw [first_cons]
  -- In the order of the parser: a number, an aggregation, a call, a selector.
  cases number : numberWord? token.text with
  | some value =>
    rw [number] at came
    cases came
    exact of_numberWord tokenKind number
  | none =>
    rw [number] at came
    dsimp only at came
    cases aggregation : aggregation? token.text following with
    | some op =>
      rw [aggregation] at came
      obtain ⟨operand, written⟩ := within.of_readAggregate lexicalMiddle came
      refine ⟨operand, begins_of_word tokenKind written ?_⟩
      exact lowercase_of_aggregation aggregation
    | none =>
      rw [aggregation] at came
      dsimp only at came
      split at came
      · rename_i call
        rw [aggregation?, call] at aggregation
        obtain ⟨operand, written⟩ :=
          within.of_readCall lexicalMiddle word number (by simpa using aggregation) came
        exact ⟨operand, begins_of_word tokenKind written rfl⟩
      · obtain ⟨matchers, rfl, fits⟩ := fits_of_readSelector lexicalMiddle
          (by rintro text same; cases same; exact ⟨word, number⟩) came
        refine ⟨⟨.vector ⟨fits, Modifiers.proper_none⟩, rfl⟩, begins_of_word tokenKind ?_ rfl⟩
        rw [Expr.tokens, first_append (Selector.baseTokens_ne_nil _), Selector.baseTokens,
          fits.name?_eq, first_cons]

theorem Within.of_readPrimary (lexical : Lexical tokens)
    (came : readPrimary inner tokens = (.ok expr, rest)) :
    Operand levels expr ∧ Begins (first tokens) expr := by
  rw [readPrimary, peek_bind] at came
  cases kind : (first tokens).kind with
  | number =>
    rw [kind] at came
    obtain ⟨token, middle, rfl, tokenKind⟩ := eq_cons_of_first kind (by decide)
    dsimp only at came
    rw [bind_of_ok (next_cons (by rw [tokenKind]; decide) middle), map_eq_ok] at came
    obtain ⟨value, read, rfl⟩ := came
    obtain ⟨canonical, unsigned⟩ :=
      proper_of_numberOf ((lexical token List.mem_cons_self).2 tokenKind) read
    refine ⟨⟨.number (.inr ⟨canonical, unsigned⟩), rfl⟩, begins_of_kind_ne ?_⟩
    exact kind_of_isUnsigned unsigned
  | string =>
    rw [kind] at came
    obtain ⟨token, middle, rfl, tokenKind⟩ := eq_cons_of_first kind (by decide)
    dsimp only at came
    rw [bind_of_ok (next_cons (by rw [tokenKind]; decide) middle)] at came
    cases came
    exact ⟨⟨.string _, rfl⟩, begins_of_kind_ne (by simp [Expr.tokens, Written.string])⟩
  | leftParen =>
    rw [kind] at came
    obtain ⟨token, middle, rfl, tokenKind⟩ := eq_cons_of_first kind (by decide)
    dsimp only at came
    rw [bind_of_ok (next_cons (by rw [tokenKind]; decide) middle)] at came
    obtain ⟨operand, other⟩ := within.of_readParen lexical.behind came
    exact ⟨operand, begins_of_kind_ne other⟩
  | leftBrace =>
    rw [kind] at came
    obtain ⟨matchers, rfl, fits⟩ :=
      fits_of_readSelector lexical (fun text member => by cases member) came
    exact ⟨⟨.vector ⟨fits, Modifiers.proper_none⟩, rfl⟩, begins_of_kind_ne (by
      simp [Expr.tokens, Selector.baseTokens, Selector.name?, matcherTokens, Written.leftBrace])⟩
  | ident =>
    rw [kind] at came
    exact within.of_readWordExpr lexical kind came
  | _ =>
    rw [kind] at came
    cases came

end

/-! ## Operands and operators -/

/-- A clause admits every token that is fewer words. -/
theorem BinaryClause.Admits.mono {clause : BinaryClause} {token other : Token}
    (admits : clause.Admits token)
    (fewer : ∀ word, other.isWord word = true → token.isWord word = true) :
    clause.Admits other := by
  have not : ∀ word, token.isWord word = false → other.isWord word = false := by
    intro word absent
    cases present : other.isWord word with
    | false => rfl
    | true =>
      rw [fewer word present] at absent
      cases absent
  refine ⟨fun returns none => not _ (admits.bool returns none), fun none => ?_,
    fun matching same noGroup => ?_⟩
  · obtain ⟨noOn, noIgnoring⟩ := admits.labels none
    exact ⟨not _ noOn, not _ noIgnoring⟩
  · obtain ⟨noLeft, noRight⟩ := admits.group matching same noGroup
    exact ⟨not _ noLeft, not _ noRight⟩

/-- An expression that was read up to here, in front of operators that it did not take. -/
structure Opened (levels least : Nat) (start : Token) (expr : Expr) (rest : List Token) :
    Prop where
  readable : Readable levels least expr
  begins : Begins start expr
  loose : ∀ op, binaryOp? (first rest) = some op → op.precedence < expr.tailLimit

/-- Behind an operand any operator may stand. -/
theorem Operand.opened {least : Nat} {start : Token} (operand : Operand levels expr)
    (begins : Begins start expr) : Opened levels least start expr rest := by
  refine ⟨operand.readable.of_isOperand operand.operand, begins, fun op _ => ?_⟩
  have limit : expr.tailLimit = signPrecedence + 1 := by
    obtain ⟨-, isOperand⟩ := operand
    cases expr with
    | binary => cases isOperand
    | unary => cases isOperand
    | _ => rfl
  rw [limit]
  exact Nat.lt_succ_of_le op.precedence_le

section
variable {inner : Nat → Parse Expr} (within : Within levels inner)
include within

theorem Within.of_readUnary (least : Nat) (lexical : Lexical tokens)
    (came : readUnary inner tokens = (.ok expr, rest)) :
    Opened levels least (first tokens) expr rest := by
  rw [readUnary, peek_bind] at came
  cases sign : unaryOp? (first tokens).kind with
  | some op =>
    rw [sign] at came
    have noEnd : (first tokens).kind ≠ .eof := by
      intro eof
      rw [eof] at sign
      cases sign
    obtain ⟨token, middle, rfl, -⟩ := eq_cons_of_first rfl noEnd
    rw [first_cons] at noEnd
    dsimp only at came
    rw [bind_of_ok (next_cons noEnd middle), map_eq_ok] at came
    obtain ⟨body, read, rfl⟩ := came
    obtain ⟨below, rfl, comes⟩ := within.comes lexical.behind read
    refine ⟨.unary comes.readable, begins_of_kind_ne ?_, comes.loose⟩
    rw [Expr.tokens, first_cons]
    cases op <;> simp [UnaryOp.token]
  | none =>
    rw [sign] at came
    dsimp only at came
    rw [bind_eq_ok] at came
    obtain ⟨primary, middle, read, came⟩ := came
    obtain ⟨operand, begins⟩ := within.of_readPrimary lexical read
    have lexicalMiddle := lexical.left (Relation.readPrimary (within.leaves 0)) read
    obtain ⟨behind, same⟩ := operand.of_readPostfixes lexicalMiddle came
    refine behind.opened ?_
    intro word here
    rw [same] at here
    exact begins word here

/-- An operator and its right operand behind an expression are read as one. -/
theorem Within.of_readOperation {least : Nat} {start : Token} {left : Expr}
    (opened : Opened levels least start left tokens) (lexical : Lexical tokens)
    (came : readOperation inner least left tokens = (.ok (.again expr), rest)) :
    Opened levels least start expr rest := by
  obtain ⟨token, middle, op, clause, behind, right, rfl, here, tight, read, inside, rfl⟩ :=
    readOperation_again came
  obtain ⟨rfl, proper, admits⟩ := readClause_eq_ok lexical.behind read
  have lexicalBehind := lexical.behind.left (Relation.readClause clause.op) read
  obtain ⟨below, rfl, comes⟩ := within.comes lexicalBehind inside
  -- The operator was left to the loop by what stands on its left.
  refine ⟨.binary tight opened.readable (opened.loose clause.op here) comes.readable proper
    (admits.mono comes.begins), ?_, comes.loose⟩
  intro word written
  rw [Expr.tokens, first_append left.tokens_ne_nil] at written
  exact opened.begins word written

theorem Within.of_readOperands {least : Nat} (lexical : Lexical tokens)
    (came : readOperands inner least tokens = (.ok expr, rest)) :
    Comes levels least tokens expr rest := by
  rw [readOperands, bind_eq_ok] at came
  obtain ⟨left, middle, read, came⟩ := came
  have opened := within.of_readUnary least lexical read
  have lexicalMiddle := lexical.left (Relation.readUnary within.leaves) read
  -- From round to round what was read is open to the operators behind it; in the end none of
  -- them is tight enough.
  refine loop_eq_ok (advances_readOperation within.leaves)
    (fun expr behind => Opened levels least (first tokens) expr behind ∧ Lexical behind)
    (fun expr behind => Comes levels least tokens expr behind) ?_ ?_ ⟨opened, lexicalMiddle⟩ came
  · rintro before after tokens rest ⟨opened, lexical⟩ again
    exact ⟨within.of_readOperation opened lexical again,
      lexical.left (Relation.readOperation within.leaves least before) again⟩
  · rintro before after tokens rest ⟨opened, lexical⟩ done
    obtain ⟨rfl, rfl, loose⟩ := loose_of_readOperation_done done
    exact ⟨opened.readable, opened.begins, loose⟩

end

theorem within_readLevels (levels : Nat) : Within levels (readLevels levels) := by
  refine ⟨fun least => Relation.readLevels levels least, ?_⟩
  -- The parses inside have one level less.
  induction levels with
  | zero =>
    intro least tokens rest expr lexical came
    cases came
  | succ levels inductionHypothesis =>
    intro least tokens rest expr lexical came
    have within : Within levels (readLevels levels) :=
      ⟨fun least => Relation.readLevels levels least, inductionHypothesis⟩
    exact ⟨levels, rfl, within.of_readOperands lexical came⟩

/-- An expression that takes all tokens can be read again, up to the number of levels. -/
theorem readable_of_readWhole (lexical : Lexical tokens)
    (came : (readWhole tokens).1 = .ok expr) : Readable (maxLevels - 1) 0 expr := by
  obtain ⟨rest, read, -⟩ := readWhole_eq_ok came
  obtain ⟨below, same, comes⟩ := (within_readLevels maxLevels).comes lexical read
  rw [same, Nat.add_sub_cancel]
  exact comes.readable

/-- A text that is an expression stands for a tree that can be read again. -/
theorem readable_of_parse {input : String} (came : Expr.parse input = .ok expr) :
    Readable (maxLevels - 1) 0 expr := by
  obtain ⟨tokens, lexed, read⟩ := parse_eq_ok.1 came
  exact readable_of_readWhole (lexical_tokenize lexed) read

end RuleAtlas.Query
