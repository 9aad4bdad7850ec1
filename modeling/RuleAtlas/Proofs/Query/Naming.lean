import RuleAtlas.Proofs.Query.Consuming
import RuleAtlas.Proofs.Query.Spans

/-! # The names in a text

No reference is lost and none is made up: the series that an expression refers to are named by
identifiers of its text, in their order, and all other identifiers have other roles. -/

namespace RuleAtlas.Query

open Parse

variable {tokens : List Token} {word : Token} {names : List String}

/-! ## Words and parentheses -/

/-- A word that names a series, in front of matchers or alone. -/
theorem spells_selector (ident : word.kind = .ident)
    (matchers : IsMatcherList tokens ∨ tokens = []) : Spells (word :: tokens) [word.text] := by
  rcases matchers with list | rfl
  · exact ⟨.name ident list.spells.accounted.anywhere,
      list.spells.ends.mono (List.suffix_cons _ _)⟩
  · exact ⟨.name ident .done, .ident, by decide, [], by simp [ident]⟩

theorem spells_parentheses {opening closing : Token} (opens : opening.kind = .leftParen)
    (accounted : Accounted [] [] tokens names) (closes : closing.kind = .rightParen) :
    Spells (opening :: (tokens ++ [closing])) names := by
  have last : Spells [closing] [] := .of_kinds [[.rightParen]] (by simp [closes]) (by decide)
  have both := (Spells.of_append accounted last).cons (by simp [opens] : opening.kind ≠ .ident)
  rwa [List.append_nil] at both

/-- A word that has another role in front of an operand. -/
theorem spells_of_serves (spelled : Spells tokens names) (serves : word.Serves [] tokens) :
    Spells (word :: tokens) names := by
  refine ⟨.other (fun _ => ?_) spelled.accounted.anywhere, spelled.ends.mono (List.suffix_cons _ _)⟩
  rwa [List.append_nil]

/-- An aggregation with a grouping in front of its parentheses or behind them. -/
theorem spells_aggregate {opening closing : Token} {before inside comma grouping : List Token}
    (known : (AggregateOp.ofWord? word.text).isSome = true) (isBefore : IsGrouping before)
    (opens : opening.kind = .leftParen) (accounted : Accounted [] [] inside names)
    (isComma : ∀ token ∈ comma, token.kind = .comma) (closes : closing.kind = .rightParen)
    (isGrouping : IsGrouping grouping) :
    Spells (word :: (before ++ opening :: (inside ++ (comma ++ closing :: grouping)))) names := by
  have last : Spells (closing :: grouping) [] := by
    refine ⟨.other (fun ident => by simp [closes] at ident)
      (isGrouping.accounted (.inl closes)), ?_⟩
    rcases isGrouping with rfl | ⟨first, list, rfl, -, isList⟩
    · exact ⟨.rightParen, by decide, [], by simp [closes]⟩
    · exact (isList.endsAsOperand (by decide)).mono ⟨[closing, first], rfl⟩
  have noWord : Accounted [] [] comma [] :=
    .of_noWord fun token member => by simp [isComma token member]
  have parentheses := (Spells.of_append accounted (.of_append noWord last)).cons
    (by simp [opens] : opening.kind ≠ .ident)
  rw [List.append_nil, List.append_nil] at parentheses
  -- The word is known by what stands behind it: a grouping, or else the parenthesis.
  have serves :
      word.Serves [] (before ++ opening :: (inside ++ (comma ++ closing :: grouping))) := by
    refine .aggregation known ?_
    rcases isBefore with rfl | ⟨first, list, rfl, begins, -⟩
    · exact .inl ⟨_, by simp [opens]; rfl⟩
    · exact .inr ⟨first, begins, _, rfl⟩
  have grouped : Accounted (opening :: (inside ++ (comma ++ closing :: grouping)) ++ [])
      ([] ++ [word]) before [] :=
    (isBefore.accounted (.inr known)).mono (List.suffix_refl _) List.nil_prefix
  refine ⟨.other (fun _ => by rwa [List.append_nil])
    (grouped.append parentheses.accounted.anywhere), ?_⟩
  exact parentheses.ends.mono ⟨word :: before, rfl⟩

/-- An operator between operands, with its clause. -/
theorem spells_binary {operator : Token} {op : BinaryOp} {front bool matching back : List Token}
    {others : List String} (left : Spells front names) (known : binaryOp? operator = some op)
    (isBool : IsBool op bool) (isMatching : IsMatching matching) (right : Spells back others) :
    Spells (front ++ operator :: (bool ++ matching ++ back)) (names ++ others) := by
  have serves : operator.kind = .ident →
      operator.Serves front (bool ++ matching ++ back ++ []) := by
    intro ident
    have isWord : wordOp? (lowercase operator.text) = some op := by
      rwa [binaryOp?, ident] at known
    exact .operator (Option.isSome_iff_exists.2 ⟨op, isWord⟩) left.ends
  have clause : Accounted (back ++ []) (front ++ [operator]) (bool ++ matching) [] :=
    (accounted_clause known isBool isMatching).mono (List.suffix_append _ _) List.nil_prefix
  refine ⟨left.accounted.anywhere.append (.other serves ?_), ?_⟩
  · exact clause.append right.accounted.anywhere
  · exact right.ends.mono ⟨front ++ operator :: (bool ++ matching), by simp⟩

/-! ## Expressions -/

/-- A sign is a symbol. -/
theorem kind_of_unaryOp {kind : TokenKind} {op : UnaryOp} (sign : unaryOp? kind = some op) :
    kind ≠ .ident ∧ kind ≠ .eof := by
  constructor
  · rintro rfl
    cases sign
  · rintro rfl
    cases sign

theorem accounted_of_joined {exprs : List Expr}
    (joined : Joined (fun taken expr => Spells taken expr.names) tokens exprs) :
    Accounted [] [] tokens (exprs.flatMap Expr.names) := by
  induction joined with
  | nil => exact .done
  | single spelled =>
    rw [List.flatMap_singleton]
    exact spelled.accounted
  | more spelled separates _ inductionHypothesis =>
    exact spelled.accounted.anywhere.append
      (.other (fun ident => by simp [separates] at ident) inductionHypothesis.anywhere)

section
variable {inner : Nat → Parse Expr} (within : ∀ least tokens,
  (inner least).Consumes tokens fun taken expr => Spells taken expr.names)
include within

theorem consumes_readCall (word : Token) :
    (readCall inner word.text).Consumes tokens fun taken expr =>
      Spells (word :: taken) expr.names := by
  unfold readCall
  cases known : function? word.text with
  | none => exact .fault _
  | some entry =>
    refine (Consumes.expect .call (by decide)).behind ?_
    rintro _ opening rest ⟨rfl, opens⟩
    refine .choice _ (fun _ => .value .nil) (fun _ => .separated (within 0) none) ?_
    intro inside arguments rest joined
    refine (Consumes.expect .callArguments (by decide)).behind ?_
    rintro _ closing rest ⟨rfl, closes⟩
    split
    · refine .value (spells_of_serves ?_ (.function (by simp [known]) ⟨_, by simp [opens]; rfl⟩))
      rw [Expr.names_call, List.append_nil]
      exact spells_parentheses opens (accounted_of_joined joined) closes
    · exact .fault _

theorem consumes_readAggregated (op : AggregateOp) :
    (readAggregated inner op).Consumes tokens fun taken aggregated =>
      Joined (fun taken expr => Spells taken expr.names) taken
        (aggregated.parameter.toList ++ [aggregated.body]) := by
  refine (within 0 tokens).behind fun front first rest spelled => ?_
  split
  · refine (Consumes.expect .aggregationParameter (by decide)).behind ?_
    rintro _ comma rest ⟨rfl, separates⟩
    refine (within 0 rest).behind fun back body rest spelledToo => .value ?_
    rw [List.append_nil]
    exact .more spelled separates (.single spelledToo)
  · refine .value ?_
    rw [List.append_nil]
    exact .single spelled

theorem consumes_readAggregate {op : AggregateOp}
    (known : AggregateOp.ofWord? word.text = some op) :
    (readAggregate inner op).Consumes tokens fun taken expr =>
      Spells (word :: taken) expr.names := by
  refine consumes_readGrouping.behind fun before _ rest isBefore => ?_
  refine (Consumes.expect .aggregation (by decide)).behind ?_
  rintro _ opening rest ⟨rfl, opens⟩
  refine .peek ?_
  split
  · exact .fault _
  refine (consumes_readAggregated within op).behind fun inside aggregated rest joined => ?_
  have comma : (accept .comma).Consumes rest fun taken _ =>
      ∀ token ∈ taken, token.kind = .comma := by
    refine (Consumes.accept (by decide)).mono ?_
    rintro taken _ (⟨-, token, rfl, isComma⟩ | ⟨-, rfl⟩)
    · simpa using isComma
    · simp
  refine comma.behind fun comma _ rest isComma => ?_
  refine (Consumes.expect .aggregation (by decide)).behind ?_
  rintro _ closing rest ⟨rfl, closes⟩
  refine (consumes_readSecondGrouping _).behind fun grouping _ rest isGrouping => .value ?_
  rw [Expr.names_aggregate, List.append_nil]
  exact spells_aggregate (by simp [known]) isBefore opens (accounted_of_joined joined) isComma
    closes isGrouping

/-- What a word begins: a number, an aggregation, a call, or a selector with this name. -/
theorem consumes_readBehindWord (following : Token) (ident : word.kind = .ident)
    (nonempty : word.text ≠ "") :
    (readBehindWord inner following word).Consumes tokens fun taken expr =>
      Spells (word :: taken) expr.names := by
  unfold readBehindWord
  -- In the order of the parser: a number, an aggregation, a call, a selector.
  split
  · rename_i number isNumber
    refine .value ⟨?_, .ident, by decide, [], by simp [ident]⟩
    rw [Expr.names_number]
    exact .other (fun _ => .number (by simp [isNumber])) .done
  split
  · rename_i op aggregation
    unfold aggregation? at aggregation
    split at aggregation
    · exact consumes_readAggregate within aggregation
    · cases aggregation
  split
  · exact consumes_readCall within word
  · refine (consumes_readSelector _).mono ?_
    rintro taken _ ⟨⟨matchers, rfl⟩, read⟩
    have named : Selector.name? ⟨some word.text, matchers, .none⟩ = some word.text := by
      simp [Selector.name?, nonempty]
    rw [Expr.names_vector, named]
    exact spells_selector ident (read.imp_right And.left)

theorem consumes_readPrimary :
    (readPrimary inner).Consumes tokens fun taken expr => Spells taken expr.names := by
  refine .peek ?_
  -- A number, a text, an expression in parentheses, matchers, or a word.
  split
  · rename_i here
    obtain ⟨token, rest, rfl, kind⟩ := eq_cons_of_first here (by decide)
    refine .next (by simp [kind]) (.map ((consumes_numberOf token).mono ?_))
    rintro _ number rfl
    rw [Expr.names_number]
    exact .of_kinds [[.number]] (by simp [kind]) (by decide)
  · rename_i here
    obtain ⟨token, rest, rfl, kind⟩ := eq_cons_of_first here (by decide)
    refine .next (by simp [kind]) (.value ?_)
    rw [Expr.names_string]
    exact .of_kinds [[.string]] (by simp [kind]) (by decide)
  · rename_i here
    obtain ⟨opening, rest, rfl, opens⟩ := eq_cons_of_first here (by decide)
    refine .next (by simp [opens]) ((within 0 rest).behind fun inside body rest spelled => ?_)
    refine (Consumes.expect .parenthesis (by decide)).behind ?_
    rintro _ closing rest ⟨rfl, closes⟩
    refine .value ?_
    rw [Expr.names_paren, List.append_nil]
    exact spells_parentheses opens spelled.accounted closes
  · refine (consumes_readSelector none).mono ?_
    rintro taken _ ⟨⟨matchers, rfl⟩, list | ⟨-, named⟩⟩
    · rw [Expr.names_vector]
      exact list.spells
    · cases named
  · rename_i here
    obtain ⟨word, rest, rfl, ident⟩ := eq_cons_of_first here (by decide)
    intro lexical
    have isWord := (lexical word List.mem_cons_self).1 ident
    have nonempty : word.text ≠ "" := by
      intro empty
      rw [Token.lexeme, empty] at isWord
      cases isWord
    have noEnd : word.kind ≠ .eof := by simp [ident]
    have read : (Parse.next >>= readBehindWord inner (first rest)).Consumes (word :: rest)
        fun taken expr => Spells taken expr.names :=
      .next noEnd (consumes_readBehindWord within (first rest) ident nonempty)
    rw [readWordExpr_eq]
    exact Consumes.peekSecond read lexical
  · exact .unexpected _

theorem consumes_readUnary :
    (readUnary inner).Consumes tokens fun taken expr => Spells taken expr.names := by
  refine .peek ?_
  split
  · rename_i op sign
    obtain ⟨noWord, noEnd⟩ := kind_of_unaryOp sign
    obtain ⟨token, rest, rfl, -⟩ := eq_cons_of_first rfl noEnd
    refine .next noEnd (.map ((within signPrecedence rest).mono fun taken body spelled => ?_))
    rw [Expr.names_unary]
    exact spelled.cons noWord
  · refine (consumes_readPrimary within).behind fun front primary rest spelled => ?_
    refine (consumes_readPostfixes primary).mono ?_
    rintro taken result ⟨rfl | clauses, same⟩
    · rwa [List.append_nil, same]
    · rw [same]
      simpa using spelled.append clauses

/-- An operator and its right operand go on with what stands on their left. -/
theorem consumes_readOperation (least : Nat) {front : List Token} {left : Expr}
    (spelled : Spells front left.names) :
    (readOperation inner least left).Consumes tokens fun taken outcome =>
      Spells (front ++ taken) outcome.value.names := by
  refine .peek ?_
  split
  · exact .value (by rwa [List.append_nil])
  · rename_i op found
    obtain ⟨known, -⟩ := Option.filter_eq_some_iff.1 found
    obtain ⟨operator, rest, rfl, -⟩ := eq_cons_of_first rfl (kind_of_binaryOp known)
    refine .next (kind_of_binaryOp known) ((consumes_readClause op).behind ?_)
    rintro _ clause rest ⟨bool, matching, rfl, isBool, isMatching⟩
    refine (within _ rest).behind fun back right rest spelledToo => .value ?_
    rw [Round.value, Expr.names_binary, List.append_nil]
    exact spells_binary spelled known isBool isMatching spelledToo

theorem consumes_readOperands (least : Nat) :
    (readOperands inner least).Consumes tokens fun taken expr => Spells taken expr.names := by
  refine (consumes_readUnary within).behind fun front left rest spelled => ?_
  -- From round to round all tokens that were taken spell what was read so far.
  refine .loop (by rwa [List.append_nil]) fun taken before tokens kept => ?_
  refine (consumes_readOperation within least kept).mono fun more outcome read => ?_
  rwa [List.append_assoc] at read

end

theorem consumes_readLevels (levels least : Nat) (tokens : List Token) :
    (readLevels levels least).Consumes tokens fun taken expr => Spells taken expr.names := by
  -- The parses inside have one level less.
  induction levels generalizing least tokens with
  | zero => exact .fault _
  | succ levels inductionHypothesis => exact consumes_readOperands inductionHypothesis least

/-! ## Texts -/

/-- Where the end is next there is nothing but the end. -/
theorem noWord_of_end {input : String} {taken rest : List Token}
    (lexed : tokenize input = .ok (taken ++ rest)) (finished : (first rest).isEof = true) :
    ∀ token ∈ rest, token.kind ≠ .ident := by
  obtain ⟨inner, ending, whole, -, noEnd⟩ := ends_of_tokenize lexed
  cases rest with
  | nil => simp
  | cons last more =>
    have eof : last.kind = .eof := by simpa [Token.isEof] using finished
    rcases List.eq_nil_or_concat more with rfl | ⟨others, final, rfl⟩
    · simp [eof]
    · -- Then an end would stand in front of the last token.
      have same : (taken ++ last :: others) ++ [final] = inner ++ [ending] := by
        simpa using whole
      obtain ⟨before, -⟩ := List.append_inj' same rfl
      exact absurd eof (noEnd last (by simp [← before]))

/-- The names of an expression stand, in their order, at identifiers of its text, and each of the
other identifiers has another role between its neighbours. -/
theorem naming_of_parse {input : String} {expr : Expr} (parsed : Expr.parse input = .ok expr) :
    ∃ tokens places, tokenize input = .ok tokens ∧
      Naming 0 tokens.length tokens expr.names places := by
  obtain ⟨tokens, lexed, whole⟩ := parse_eq_ok.1 parsed
  obtain ⟨rest, read, finished⟩ := readWhole_eq_ok whole
  obtain ⟨taken, rfl, spelled⟩ :=
    consumes_readLevels maxLevels 0 tokens (lexical_tokenize lexed) expr rest read
  have accounted : Accounted [] [] (taken ++ rest) (expr.names ++ []) :=
    spelled.accounted.anywhere.append (.of_noWord (noWord_of_end lexed finished))
  obtain ⟨places, naming⟩ := accounted.exists_naming
  refine ⟨taken ++ rest, places, lexed, ?_⟩
  simpa using naming

/-- Words of the grammar that name series, beside words in other roles. -/
theorem naming_of_parse_words :
    let input := "sum by(on)(by offset 5m)and on(sum)rate(bool[5m]@end())"
    ∃ expr, Expr.parse input = .ok expr ∧ expr.names = ["by", "bool"] ∧
      ∃ tokens places, tokenize input = .ok tokens ∧
        Naming 0 tokens.length tokens expr.names places := by
  intro input
  have names : (Expr.parse input).toOption.map (fun expr =>
      expr.leafList.flatMap fun leaf => leaf.name?.toList) = some ["by", "bool"] := by
    decide +kernel
  obtain ⟨expr, computed, named⟩ := Option.map_eq_some_iff.1 names
  have parsed := eq_ok_of_toOption computed
  refine ⟨expr, parsed, ?_, naming_of_parse parsed⟩
  rw [Expr.names_eq_leafList]
  exact named

end RuleAtlas.Query
