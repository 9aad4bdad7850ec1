import RuleAtlas.Proofs.Query.Rendering
import RuleAtlas.Proofs.Query.Rereading.Parts

/-! # Reading the tokens of a tree

The tokens that a readable tree is written with are read as that tree.  For the operators this
takes two statements at once: in front of any operator that the tree would not have taken the
loop that reads operators goes on behind the tree, so in front of one that does not bind
tightly enough the tree is what is read. -/

namespace RuleAtlas.Query

open Parse Written

variable {rest : List Token} {levels least : Nat} {expr : Expr}

/-! ## What is shown of every tree -/

/-- The tokens of the tree are read as the tree: as an operand with clauses behind it, if it is
one, and as an operand or more in front of operators. -/
structure Rereads (levels least : Nat) (expr : Expr) : Prop where
  opens : (first expr.tokens).kind ≠ .rightParen
  operand : expr.isOperand = true → unaryOp? (first expr.tokens).kind = none ∧
    ∀ rest : List Token, (first rest).EndsPrimary →
      (readPrimary (readLevels levels) >>= readPostfixes) (expr.tokens ++ rest) =
        loop readPostfix expr rest
  operands : ∀ rest : List Token, (first rest).EndsOperand →
    (∀ op, binaryOp? (first rest) = some op → op.precedence < expr.tailLimit) →
    readOperands (readLevels levels) least (expr.tokens ++ rest) =
      loop (readOperation (readLevels levels) least) expr rest

/-- It is enough to read an operand with its clauses. -/
theorem Rereads.of_operand (opens : (first expr.tokens).kind ≠ .rightParen)
    (noSign : unaryOp? (first expr.tokens).kind = none)
    (operand : ∀ rest : List Token, (first rest).EndsPrimary →
      (readPrimary (readLevels levels) >>= readPostfixes) (expr.tokens ++ rest) =
        loop readPostfix expr rest) : Rereads levels least expr where
  opens := opens
  operand _ := ⟨noSign, operand⟩
  operands rest ends _ := by
    -- Behind the operand stands no clause, so reading clauses is over with the last of its own.
    have unary : readUnary (readLevels levels) (expr.tokens ++ rest) = (.ok expr, rest) := by
      rw [readUnary, peek_bind, first_append expr.tokens_ne_nil, noSign]
      dsimp only
      rw [operand rest ends.toEndsPrimary]
      exact loop_done advances_readPostfix (readPostfix_done ends.noPostfix)
    rw [readOperands, bind_of_ok unary]

/-- The operators of an expression bind as tightly as asked for. -/
theorem Readable.least_le_tailLimit (readable : Readable levels least expr)
    (bounded : least ≤ signPrecedence) : least ≤ expr.tailLimit := by
  cases readable with
  | @binary _ _ clause _ _ tight =>
    exact Nat.le_trans tight clause.op.precedence_le_rightPrecedence
  | unary readable => exact bounded
  | _ => exact Nat.le_succ_of_le bounded

/-- In front of an operator that does not bind tightly enough the tree is what is read. -/
theorem Rereads.readLevels (rereads : Rereads levels least expr)
    (readable : Readable levels least expr) (bounded : least ≤ signPrecedence)
    (ends : (first rest).EndsOperand)
    (loose : ∀ op, binaryOp? (first rest) = some op → op.precedence < least) :
    readLevels (levels + 1) least (expr.tokens ++ rest) = (.ok expr, rest) := by
  have limit := readable.least_le_tailLimit bounded
  rw [Query.readLevels, rereads.operands rest ends fun op here =>
    Nat.lt_of_lt_of_le (loose op here) limit]
  exact loop_done (advances_readOperation fun least => Relation.readLevels levels least)
    (readOperation_done loose)

/-- A token that closes an expression is no operator. -/
theorem binaryOp?_of_kind {token : Token} {kind : TokenKind} (here : token.kind = kind)
    (closing : kind = .rightParen ∨ kind = .comma ∨ kind = .eof) : binaryOp? token = none := by
  rcases closing with rfl | rfl | rfl <;> rw [binaryOp?, here]

/-- In front of a token that closes an expression the tree is what is read. -/
theorem Rereads.inside (rereads : Rereads levels 0 expr) (readable : Readable levels 0 expr)
    {kind : TokenKind} (here : (first rest).kind = kind)
    (closing : kind = .rightParen ∨ kind = .comma ∨ kind = .eof) :
    Query.readLevels (levels + 1) 0 (expr.tokens ++ rest) = (.ok expr, rest) := by
  refine rereads.readLevels readable (Nat.zero_le _) (.of_kind here closing) ?_
  intro op operator
  rw [binaryOp?_of_kind here closing] at operator
  cases operator

/-! ## Literals and selectors -/

/-- A primary expression without clauses. -/
theorem rereads_of_readPrimary (opens : (first expr.tokens).kind ≠ .rightParen)
    (noSign : unaryOp? (first expr.tokens).kind = none)
    (read : ∀ rest : List Token, (first rest).EndsPrimary →
      readPrimary (readLevels levels) (expr.tokens ++ rest) = (.ok expr, rest)) :
    Rereads levels least expr :=
  .of_operand opens noSign fun rest ends => bind_of_ok (read rest ends)

theorem rereads_number {value : Binary64} (proper : ProperNumber value)
    (finite : ∀ negative, value ≠ .infinity negative) :
    Rereads levels least (.number value) := by
  have nan : Rereads levels least (.number .nan) := by
    refine rereads_of_readPrimary (by decide) (by decide) fun rest ends => ?_
    have number : numberWord? "NaN" = some .nan := by rfl
    refine (readPrimary_word _ "NaN" rest).trans ?_
    rw [number]
    rfl
  rcases proper with rfl | ⟨canonical, unsigned⟩
  · exact nan
  · cases value with
    | nan => exact nan
    | infinity negative => exact absurd rfl (finite negative)
    | finite negative significand exponent =>
      cases unsigned
      refine rereads_of_readPrimary (by simp [Expr.tokens, numberTokens, digits])
        (by simp [Expr.tokens, numberTokens, digits, unaryOp?]) fun rest ends => ?_
      have read := numberOf_written canonical rest
      exact map_of_ok read

theorem rereads_string (value : String) : Rereads levels least (.string value) :=
  rereads_of_readPrimary (by simp [Expr.tokens, Written.string]) rfl fun _ _ => rfl

theorem Selector.first_baseTokens (selector : Selector) :
    (first selector.baseTokens).kind ≠ .rightParen ∧
      unaryOp? (first selector.baseTokens).kind = none := by
  unfold Selector.baseTokens
  split
  · exact ⟨by simp [matcherTokens, leftBrace], rfl⟩
  · exact ⟨by simp [word], rfl⟩

theorem rereads_vector {selector : Selector} (proper : selector.Proper) :
    Rereads levels least (.vector selector) := by
  obtain ⟨opens, noSign⟩ := selector.first_baseTokens
  have same : first (Expr.vector selector).tokens = first selector.baseTokens := by
    rw [Expr.tokens, first_append selector.baseTokens_ne_nil]
  refine .of_operand (same ▸ opens) (same ▸ noSign) fun rest ends => ?_
  rw [Expr.tokens, List.append_assoc,
    bind_of_ok (readPrimary_base proper.fits (endsPrimary_modifiers selector.modifiers ends)),
    readPostfixes, loop_modifiers rfl proper.modifiers]
  rfl

theorem rereads_matrix {selector : Selector} {range : Duration} (proper : selector.Proper)
    (bounded : range.Proper) : Rereads levels least (.matrix selector range) := by
  obtain ⟨opens, noSign⟩ := selector.first_baseTokens
  have same : first (Expr.matrix selector range).tokens = first selector.baseTokens := by
    rw [Expr.tokens, first_append selector.baseTokens_ne_nil]
  refine .of_operand (same ▸ opens) (same ▸ noSign) fun rest ends => ?_
  have bracket : leftBracket.EndsPrimary := .of_kind (by decide) (by decide) (by decide)
  have base : readPrimary (readLevels levels)
      (selector.baseTokens ++ (rangeTokens range ++ (selector.modifiers.tokens ++ rest))) =
      (.ok (.vector { selector with modifiers := .none }),
        rangeTokens range ++ (selector.modifiers.tokens ++ rest)) :=
    readPrimary_base proper.fits bracket
  rw [Expr.tokens, List.append_assoc, List.append_assoc, bind_of_ok base, readPostfixes,
    loop_range rfl bounded, loop_modifiers rfl proper.modifiers]
  rfl

theorem rereads_subquery {body : Expr} {clause : SubqueryClause} (rereads : Rereads levels 0 body)
    (operand : body.isOperand = true) (noRange : body.kind ≠ .matrixSelector)
    (proper : clause.Proper) : Rereads levels least (.subquery body clause) := by
  obtain ⟨noSign, read⟩ := rereads.operand operand
  have same : first (Expr.subquery body clause).tokens = first body.tokens := by
    rw [Expr.tokens, first_append body.tokens_ne_nil]
  refine .of_operand (same ▸ rereads.opens) (same ▸ noSign) fun rest ends => ?_
  have bracket : leftBracket.EndsPrimary := .of_kind (by decide) (by decide) (by decide)
  rw [Expr.tokens, List.append_assoc, read (clause.tokens ++ rest) bracket,
    loop_subquery noRange proper]

/-! ## Parentheses, calls and aggregations -/

theorem rereads_paren {body : Expr} (rereads : Rereads levels 0 body)
    (readable : Readable levels 0 body) : Rereads (levels + 1) least (.paren body) := by
  refine rereads_of_readPrimary (by simp [Expr.tokens, leftParen]) rfl fun rest ends => ?_
  have inside : Query.readLevels (levels + 1) 0 (body.tokens ++ rightParen :: rest) =
      (.ok body, rightParen :: rest) := rereads.inside readable rfl (.inl rfl)
  have tokens : (Expr.paren body).tokens ++ rest =
      leftParen :: (body.tokens ++ rightParen :: rest) := by
    simp [Expr.tokens]
  rw [tokens]
  change readParen (Query.readLevels (levels + 1)) (body.tokens ++ rightParen :: rest) = _
  rw [readParen, bind_of_ok inside]
  rfl

/-- The expression is read in front of every token that closes one, and does not close a list of
arguments itself. -/
structure ReadInside (inner : Nat → Parse Expr) (expr : Expr) : Prop where
  opens : (first expr.tokens).kind ≠ .rightParen
  read : ∀ (rest : List Token) (kind : TokenKind), (first rest).kind = kind →
    (kind = .rightParen ∨ kind = .comma ∨ kind = .eof) →
    inner 0 (expr.tokens ++ rest) = (.ok expr, rest)

/-- Arguments are read in front of the parenthesis that closes them. -/
theorem separated_arguments {inner : Nat → Parse Expr} {argument : Expr} {arguments : List Expr}
    (inside : ∀ other ∈ argument :: arguments, ReadInside inner other) (rest : List Token) :
    separated (inner 0) none
        (joined ((argument :: arguments).map Expr.tokens) ++ rightParen :: rest) =
      (.ok (argument :: arguments), rightParen :: rest) := by
  refine separated_joined (fun token => token.kind = .rightParen ∨ token.kind = .comma) ?_
    (fun _ _ _ => by simp) (.inr rfl) (.inl rfl) (by simp [rightParen])
    (List.cons_ne_nil _ _) (fun other _ => other.tokens_ne_nil)
  intro other member behind closing
  rcases closing with here | here
  · exact (inside other member).read behind _ here (.inl rfl)
  · exact (inside other member).read behind _ here (.inr (.inl rfl))

theorem rereads_call {name : String} {entry : FunctionEntry} {arguments : List Expr}
    (noNumber : numberWord? name = none) (noAggregate : AggregateOp.ofWord? name = none)
    (known : function? name = some entry) (counted : entry.accepts arguments.length = true)
    (inside : ∀ argument ∈ arguments, ReadInside (readLevels levels) argument) :
    Rereads levels least (.call name arguments) := by
  refine rereads_of_readPrimary (by simp [Expr.tokens, word]) rfl fun rest ends => ?_
  have tokens : (Expr.call name arguments).tokens ++ rest =
      word name :: leftParen :: (joined (arguments.map Expr.tokens) ++ rightParen :: rest) := by
    simp [Expr.tokens]
  have aggregation : aggregation? name leftParen = none := by
    simp [aggregation?, leftParen, noAggregate]
  -- A name in front of a parenthesis is no number and no aggregation, so it is a call.
  rw [tokens, readPrimary_word, noNumber, first_cons, aggregation]
  dsimp only
  rw [if_pos (by rfl), readCall, known]
  dsimp only
  rw [bind_of_ok (expect_cons (by rfl) (by decide) _ _)]
  have closed : expect .rightParen .callArguments (rightParen :: rest) = (.ok rightParen, rest) :=
    expect_cons rfl (by decide) _ rest
  cases arguments with
  | nil =>
    refine (choice_of_kind rfl).trans ?_
    rw [bind_of_ok (pure_apply _ _)]
    refine (bind_of_ok closed).trans ?_
    rw [if_pos counted]
    rfl
  | cons argument arguments =>
    have opens : (first (joined ((argument :: arguments).map Expr.tokens) ++
        rightParen :: rest)).kind ≠ .rightParen := by
      obtain ⟨behind, begins⟩ :=
        joined_append argument.tokens (arguments.map Expr.tokens) (rightParen :: rest)
      rw [List.map_cons, begins, first_append argument.tokens_ne_nil]
      exact (inside argument List.mem_cons_self).opens
    refine (choice_of_ne opens).trans ?_
    rw [bind_of_ok (separated_arguments inside rest), bind_of_ok closed, if_pos counted]
    rfl

/-- A grouping is read in front of a parenthesis or of what does not go on with it. -/
theorem readGrouping_written (grouping : Option Grouping)
    (noGrouping : (first rest).beginsGrouping = false) :
    readGrouping (optionalTokens Grouping.tokens grouping ++ rest) = (.ok grouping, rest) := by
  cases grouping with
  | none =>
    rw [Token.beginsGrouping, Bool.or_eq_false_iff] at noGrouping
    have noBy := acceptWord_of_not noGrouping.1
    have noWithout := acceptWord_of_not noGrouping.2
    simp only [optionalTokens, List.nil_append]
    rw [readGrouping, bind_of_ok noBy, if_neg Bool.false_ne_true, bind_of_ok noWithout]
    rfl
  | some grouping =>
    cases grouping with
    | «by» labels =>
      simp only [optionalTokens, Grouping.tokens, List.cons_append]
      rw [readGrouping, bind_of_ok (acceptWord_cons (by rfl) _), if_pos rfl]
      exact map_of_ok (readLabels_written .grouping labels rest)
    | without labels =>
      have noBy : acceptWord "by" (word "without" :: (labelTokens labels ++ rest)) =
          (.ok false, word "without" :: (labelTokens labels ++ rest)) :=
        acceptWord_of_not (show (word "without").isWord "by" = false by decide)
      simp only [optionalTokens, Grouping.tokens, List.cons_append]
      rw [readGrouping, bind_of_ok noBy, if_neg Bool.false_ne_true,
        bind_of_ok (acceptWord_cons (by rfl) _), if_pos rfl]
      exact map_of_ok (readLabels_written .grouping labels rest)

theorem readSecondGrouping_written (grouping : Option Grouping)
    (noGrouping : (first rest).beginsGrouping = false) :
    readSecondGrouping grouping rest = (.ok grouping, rest) := by
  cases grouping with
  | none => exact readGrouping_written none noGrouping
  | some grouping =>
    rw [readSecondGrouping, peek_bind, noGrouping]
    rfl

/-- The parameter and the operand of an aggregation are read in front of its end. -/
theorem readAggregated_written {op : AggregateOp} {parameter : Option Expr} {body : Expr}
    (takes : parameter.isSome = op.takesParameter)
    (parameterRereads : ∀ expr ∈ parameter, Rereads levels 0 expr)
    (parameterReadable : ∀ expr ∈ parameter, Readable levels 0 expr)
    (rereads : Rereads levels 0 body) (readable : Readable levels 0 body) (rest : List Token) :
    readAggregated (readLevels (levels + 1)) op
      (Expr.parameterTokens parameter ++ (body.tokens ++ rightParen :: rest)) =
      (.ok ⟨parameter, body⟩, rightParen :: rest) := by
  have operand : readLevels (levels + 1) 0 (body.tokens ++ rightParen :: rest) =
      (.ok body, rightParen :: rest) := rereads.inside readable rfl (.inl rfl)
  cases parameter with
  | none =>
    change readAggregated _ _ (body.tokens ++ rightParen :: rest) = _
    rw [readAggregated, bind_of_ok operand, ← takes]
    rfl
  | some first =>
    have before : readLevels (levels + 1) 0
        (first.tokens ++ comma :: (body.tokens ++ rightParen :: rest)) =
        (.ok first, comma :: (body.tokens ++ rightParen :: rest)) :=
      (parameterRereads first rfl).inside (parameterReadable first rfl) rfl (.inr (.inl rfl))
    simp only [Expr.parameterTokens, List.append_assoc, List.cons_append, List.nil_append]
    have takesOne : op.takesParameter = true := takes.symm
    rw [readAggregated, bind_of_ok before, if_pos takesOne,
      bind_of_ok (expect_cons (by rfl) (by decide) _ _), bind_of_ok operand]
    rfl

theorem ofWord?_symbol (op : AggregateOp) :
    AggregateOp.ofWord? op.symbol = some op ∧ numberWord? op.symbol = none := by
  cases op <;> decide

/-- A word of a grouping behind the name makes it an aggregation, just as a parenthesis does. -/
theorem aggregation?_written (op : AggregateOp) (grouping : Option Grouping) (rest : List Token) :
    aggregation? op.symbol (first (optionalTokens Grouping.tokens grouping ++ leftParen :: rest)) =
      some op := by
  unfold aggregation?
  rw [if_pos ?_, (ofWord?_symbol op).1]
  have byWord : (word "by").beginsGrouping = true := by decide
  have withoutWord : (word "without").beginsGrouping = true := by decide
  cases grouping with
  | none => rfl
  | some grouping =>
    cases grouping <;> simp [optionalTokens, Grouping.tokens, byWord, withoutWord]

theorem rereads_aggregate {op : AggregateOp} {parameter : Option Expr} {body : Expr}
    {grouping : Option Grouping} (takes : parameter.isSome = op.takesParameter)
    (parameterRereads : ∀ expr ∈ parameter, Rereads levels 0 expr)
    (parameterReadable : ∀ expr ∈ parameter, Readable levels 0 expr)
    (rereads : Rereads levels 0 body) (readable : Readable levels 0 body) :
    Rereads (levels + 1) least (.aggregate op parameter body grouping) := by
  refine rereads_of_readPrimary (by simp [Expr.tokens, word]) rfl fun rest ends => ?_
  let inside := Expr.parameterTokens parameter ++ (body.tokens ++ rightParen :: rest)
  have tokens : (Expr.aggregate op parameter body grouping).tokens ++ rest =
      word op.symbol :: (optionalTokens Grouping.tokens grouping ++ leftParen :: inside) := by
    simp [Expr.tokens, inside]
  have opens : (first inside).kind ≠ .rightParen := by
    cases parameter with
    | none =>
      change (first (body.tokens ++ rightParen :: rest)).kind ≠ .rightParen
      rw [first_append body.tokens_ne_nil]
      exact rereads.opens
    | some before =>
      simp only [inside, Expr.parameterTokens, List.append_assoc]
      rw [first_append before.tokens_ne_nil]
      exact (parameterRereads before rfl).opens
  have read : readAggregated (readLevels (levels + 1)) op inside =
      (.ok ⟨parameter, body⟩, rightParen :: rest) :=
    readAggregated_written takes parameterRereads parameterReadable rereads readable rest
  rw [tokens, readPrimary_word, (ofWord?_symbol op).2, aggregation?_written]
  dsimp only
  rw [readAggregate, bind_of_ok (readGrouping_written grouping (by rfl)),
    bind_of_ok (expect_cons (by rfl) (by decide) _ _), peek_bind, if_neg opens, bind_of_ok read,
    bind_of_ok (accept_of_ne (by simp [rightParen])),
    bind_of_ok (expect_cons (by rfl) (by decide) _ _),
    bind_of_ok (readSecondGrouping_written grouping ends.noGrouping)]
  rfl

/-! ## Signs and operators -/

theorem rereads_unary {op : UnaryOp} {body : Expr} (rereads : Rereads levels signPrecedence body)
    (readable : Readable levels signPrecedence body) :
    Rereads (levels + 1) least (.unary op body) where
  opens := by cases op <;> simp [Expr.tokens, UnaryOp.token]
  operand isOperand := by cases isOperand
  operands rest ends loose := by
    have sign : unaryOp? op.token.kind = some op := by cases op <;> rfl
    have noEnd : op.token.kind ≠ .eof := by cases op <;> decide
    have inside : Query.readLevels (levels + 1) signPrecedence (body.tokens ++ rest) =
        (.ok body, rest) := rereads.readLevels readable (Nat.le_refl _) ends loose
    have unary : readUnary (Query.readLevels (levels + 1)) (op.token :: (body.tokens ++ rest)) =
        (.ok (.unary op body), rest) := by
      rw [readUnary, peek_bind, first_cons, sign]
      dsimp only
      rw [bind_of_ok (next_cons noEnd _)]
      exact map_of_ok inside
    rw [Expr.tokens, List.cons_append, readOperands, bind_of_ok unary]

theorem readGroupModifier_written {op : BinaryOp} {group : Option GroupModifier}
    (noSet : ∀ side ∈ group, op.isSetOperator = false)
    (ends : group = none → (first rest).isWord "group_left" = false ∧
      (first rest).isWord "group_right" = false) :
    readGroupModifier op (optionalTokens GroupModifier.tokens group ++ rest) =
      (.ok group, rest) := by
  cases group with
  | none =>
    obtain ⟨noLeft, noRight⟩ := ends rfl
    simp only [optionalTokens, List.nil_append]
    rw [readGroupModifier, peek_bind, noLeft, noRight]
    rfl
  | some side =>
    have taken : ∀ labels, readTakenLabels (labelTokens labels ++ rest) = (.ok labels, rest) :=
      fun labels => readLabels_written .groupModifier labels rest
    have noSetOperator := noSet side rfl
    cases side with
    | left labels | right labels =>
      simp only [optionalTokens, GroupModifier.tokens, List.cons_append]
      rw [readGroupModifier, peek_bind, first_cons, if_pos (by decide), noSetOperator,
        if_neg Bool.false_ne_true, bind_of_ok (next_cons (by decide) _),
        bind_of_ok (taken labels)]
      rfl

theorem readMatchingLabels_written (labels : MatchingLabels) (rest : List Token) :
    readMatchingLabels (labels.tokens ++ rest) = (.ok (some labels), rest) := by
  cases labels with
  | on labels =>
    rw [MatchingLabels.tokens, List.cons_append, readMatchingLabels,
      bind_of_ok (acceptWord_cons (by rfl) _), if_pos rfl]
    exact map_of_ok (readLabels_written .onLabels labels rest)
  | ignoring labels =>
    have noOn : acceptWord "on" (word "ignoring" :: (labelTokens labels ++ rest)) =
        (.ok false, word "ignoring" :: (labelTokens labels ++ rest)) :=
      acceptWord_of_not (show (word "ignoring").isWord "on" = false by decide)
    rw [MatchingLabels.tokens, List.cons_append, readMatchingLabels, bind_of_ok noOn,
      if_neg Bool.false_ne_true, bind_of_ok (acceptWord_cons (by rfl) _), if_pos rfl]
    exact map_of_ok (readLabels_written .ignoringLabels labels rest)

theorem readMatching_written {op : BinaryOp} {matching : Option VectorMatching}
    (proper : ∀ parts ∈ matching, parts.Proper op)
    (noLabels : matching = none → (first rest).isWord "on" = false ∧
      (first rest).isWord "ignoring" = false)
    (noGroup : ∀ parts ∈ matching, parts.group = none →
      (first rest).isWord "group_left" = false ∧ (first rest).isWord "group_right" = false) :
    readMatching op (optionalTokens VectorMatching.tokens matching ++ rest) =
      (.ok matching, rest) := by
  cases matching with
  | none =>
    obtain ⟨noOn, noIgnoring⟩ := noLabels rfl
    have none : readMatchingLabels rest = (.ok none, rest) := by
      rw [readMatchingLabels, bind_of_ok (acceptWord_of_not noOn), if_neg Bool.false_ne_true,
        bind_of_ok (acceptWord_of_not noIgnoring)]
      rfl
    simp only [optionalTokens, List.nil_append]
    rw [readMatching, bind_of_ok none]
    rfl
  | some parts =>
    obtain ⟨labels, side⟩ := parts
    have noSet : ∀ modifier ∈ side, op.isSetOperator = false :=
      fun modifier member => ((proper _ rfl).group modifier member).1
    change readMatching op
      (labels.tokens ++ optionalTokens GroupModifier.tokens side ++ rest) = _
    rw [List.append_assoc, readMatching, bind_of_ok (readMatchingLabels_written labels _)]
    dsimp only
    rw [bind_of_ok (readGroupModifier_written noSet (noGroup _ rfl))]
    rfl

theorem readBool_written {op : BinaryOp} {returnsBool : Bool}
    (comparison : returnsBool = true → op.isComparison = true)
    (noBool : returnsBool = false → (first rest).isWord "bool" = false) :
    readBool op ((if returnsBool then [word "bool"] else []) ++ rest) =
      (.ok returnsBool, rest) := by
  cases returnsBool with
  | false =>
    simp only [Bool.false_eq_true, if_false, List.nil_append]
    rw [readBool, peek_bind, noBool rfl]
    rfl
  | true =>
    simp only [if_true, List.cons_append, List.nil_append]
    rw [readBool, peek_bind, first_cons, if_pos (by rfl), if_pos (comparison rfl),
      bind_of_ok (next_cons (by decide) _)]
    rfl

/-- The words for how operands are put together do not begin with the word for a comparison. -/
theorem isWord_bool_matching (matching : VectorMatching) (rest : List Token) :
    (first (matching.tokens ++ rest)).isWord "bool" = false := by
  have onWord : (word "on").isWord "bool" = false := by decide
  have ignoringWord : (word "ignoring").isWord "bool" = false := by decide
  obtain ⟨labels, group⟩ := matching
  cases labels <;> simp [VectorMatching.tokens, MatchingLabels.tokens, onWord, ignoringWord]

theorem readClause_written {clause : BinaryClause} (proper : clause.Proper)
    (admits : clause.Admits (first rest)) :
    readClause clause.op (clause.wordTokens ++ rest) = (.ok clause, rest) := by
  obtain ⟨op, returnsBool, matching⟩ := clause
  have noBool : returnsBool = false →
      (first (optionalTokens VectorMatching.tokens matching ++ rest)).isWord "bool" = false := by
    intro noBool
    cases matching with
    | none => exact admits.bool noBool rfl
    | some matching => exact isWord_bool_matching matching rest
  rw [BinaryClause.wordTokens, List.append_assoc, readClause,
    bind_of_ok (readBool_written proper.comparison noBool),
    bind_of_ok (readMatching_written proper.matching admits.labels admits.group)]
  rfl

theorem rereads_binary {clause : BinaryClause} {left right : Expr}
    (tight : least ≤ clause.op.precedence) (rereadsLeft : Rereads (levels + 1) least left)
    (loose : clause.op.precedence < left.tailLimit)
    (rereadsRight : Rereads levels clause.op.rightPrecedence right)
    (readableRight : Readable levels clause.op.rightPrecedence right) (proper : clause.Proper)
    (admits : clause.Admits (first right.tokens)) :
    Rereads (levels + 1) least (.binary clause left right) where
  opens := by
    rw [Expr.tokens, first_append left.tokens_ne_nil]
    exact rereadsLeft.opens
  operand isOperand := by cases isOperand
  operands rest ends looseRest := by
    have operator : binaryOp? clause.op.token = some clause.op := binaryOp?_token clause.op
    have noEnd : clause.op.token.kind ≠ .eof := kind_of_binaryOp operator
    -- The right operand is read up to `rest`, which begins with no operator that it would take.
    have inside : Query.readLevels (levels + 1) clause.op.rightPrecedence (right.tokens ++ rest) =
        (.ok right, rest) :=
      rereadsRight.readLevels readableRight clause.op.rightPrecedence_le ends looseRest
    have words : readClause clause.op (clause.wordTokens ++ (right.tokens ++ rest)) =
        (.ok clause, right.tokens ++ rest) := by
      refine readClause_written proper ?_
      rw [first_append right.tokens_ne_nil]
      exact admits
    have found : (binaryOp? clause.op.token).filter (least ≤ ·.precedence) = some clause.op := by
      rw [operator, Option.filter_some, if_pos (decide_eq_true tight)]
    have round : readOperation (Query.readLevels (levels + 1)) least left
        (clause.op.token :: (clause.wordTokens ++ (right.tokens ++ rest))) =
        (.ok (.again (.binary clause left right)), rest) := by
      rw [readOperation, peek_bind, first_cons, found]
      dsimp only
      rw [bind_of_ok (next_cons noEnd _), bind_of_ok words, bind_of_ok inside]
      rfl
    have tokens : (Expr.binary clause left right).tokens ++ rest =
        left.tokens ++ clause.op.token :: (clause.wordTokens ++ (right.tokens ++ rest)) := by
      simp [Expr.tokens, BinaryClause.tokens]
    -- The left operand leaves this operator to the loop, for it binds less tightly.
    rw [tokens, rereadsLeft.operands
      (clause.op.token :: (clause.wordTokens ++ (right.tokens ++ rest)))
      (endsOperand_token clause.op) ?_]
    · exact loop_again (advances_readOperation fun least => Relation.readLevels (levels + 1) least)
        round
    · intro op here
      rw [first_cons, operator] at here
      cases here
      exact loose

/-! ## All trees -/

/-- A readable tree without an infinite number is read from its tokens. -/
theorem rereads_of_readable (readable : Readable levels least expr)
    (spelled : expr.Everywhere Expr.IsSpelled) : Rereads levels least expr := by
  induction readable with
  | number proper => exact rereads_number proper spelled.here
  | string value => exact rereads_string value
  | vector proper => exact rereads_vector proper
  | matrix proper bounded => exact rereads_matrix proper bounded
  | subquery readable operand noRange proper inductionHypothesis =>
    exact rereads_subquery (inductionHypothesis (spelled.inside (by simp [Expr.children]))) operand
      noRange proper
  | call word noNumber noAggregate known counted room readable inductionHypothesis =>
    refine rereads_call noNumber noAggregate known counted fun argument member => ?_
    have rereads := inductionHypothesis argument member (spelled.inside member)
    refine ⟨rereads.opens, fun rest kind here closing => ?_⟩
    have positive := room (List.ne_nil_of_mem member)
    rw [← Nat.sub_one_add_one (Nat.ne_of_gt positive)]
    exact rereads.inside (readable argument member) here closing
  | aggregate words takes readableParameter readable parameterHypothesis bodyHypothesis =>
    refine rereads_aggregate takes (fun expr member => ?_) readableParameter
      (bodyHypothesis (spelled.inside (by simp [Expr.children]))) readable
    refine parameterHypothesis expr member (spelled.inside ?_)
    rw [Option.mem_def.1 member]
    simp [Expr.children]
  | binary tight readableLeft loose readableRight proper admits leftHypothesis rightHypothesis =>
    exact rereads_binary tight (leftHypothesis (spelled.inside (by simp [Expr.children]))) loose
      (rightHypothesis (spelled.inside (by simp [Expr.children]))) readableRight proper admits
  | unary readable inductionHypothesis =>
    exact rereads_unary (inductionHypothesis (spelled.inside (by simp [Expr.children]))) readable
  | paren readable inductionHypothesis =>
    exact rereads_paren (inductionHypothesis (spelled.inside (by simp [Expr.children]))) readable

end RuleAtlas.Query
