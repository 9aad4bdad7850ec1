import RuleAtlas.Proofs.Query.Durations
import RuleAtlas.Proofs.Query.Readable
import RuleAtlas.Proofs.Query.Steps

/-! # Reading the tokens of parts

The tokens that labels, numbers, selectors, ranges and clauses are written with are read as
what they stand for, whatever comes behind them, as long as it does not go on with them. -/

namespace RuleAtlas.Query

open Parse Written

variable {rest : List Token}

/-! ## Items with commas between them -/

theorem length_le_joined {pieces : List (List Token)} (some_tokens : ∀ piece ∈ pieces, piece ≠ []) :
    pieces.length ≤ (joined pieces).length := by
  induction pieces with
  | nil => exact Nat.zero_le _
  | cons piece pieces inductionHypothesis =>
    have positive := List.length_pos_iff.2 (some_tokens piece List.mem_cons_self)
    cases pieces with
    | nil => exact positive
    | cons next pieces =>
      have following := inductionHypothesis fun other member =>
        some_tokens other (List.mem_cons_of_mem _ member)
      rw [joined_cons_cons, List.length_append]
      simp only [List.length_cons] at following ⊢
      omega

/-- Pieces with commas between them begin with the first piece. -/
theorem joined_append (piece : List Token) (pieces : List (List Token)) (rest : List Token) :
    ∃ behind, joined (piece :: pieces) ++ rest = piece ++ behind := by
  cases pieces with
  | nil => exact ⟨rest, rfl⟩
  | cons next pieces => exact ⟨_, by rw [joined_cons_cons, List.append_assoc]⟩

section
variable {α : Type} {item : Parse α} {tokens : α → List Token} {closing : Option TokenKind}
  {as : List α}

/-- Items that are read one by one are read with commas between them, if no item begins as the
list is closed. -/
theorem items_joined (ends : Token → Prop) (each : ∀ a ∈ as, ∀ behind, ends (first behind) →
      item (tokens a ++ behind) = (.ok a, behind))
    (opens : ∀ a ∈ as, ∀ behind, some (first (tokens a ++ behind)).kind ≠ closing)
    (comma_ends : ends comma) (rest_ends : ends (first rest)) (noComma : (first rest).kind ≠ .comma)
    (some_items : as ≠ []) {count : Nat} (enough : as.length ≤ count) :
    items item closing count (joined (as.map tokens) ++ rest) = (.ok as, rest) := by
  -- Over the items: behind each one stands a comma, or what closes the list.
  induction as generalizing count with
  | nil => exact absurd rfl some_items
  | cons a as inductionHypothesis =>
    obtain ⟨count, rfl⟩ : ∃ fewer, count = fewer + 1 :=
      ⟨count - 1, by rw [List.length_cons] at enough; omega⟩
    have here := each a List.mem_cons_self
    cases as with
    | nil =>
      rw [List.map_cons, List.map_nil, joined, items, bind_of_ok (here rest rest_ends),
        bind_of_ok (accept_of_ne noComma)]
      rfl
    | cons b as =>
      have following : items item closing count (joined ((b :: as).map tokens) ++ rest) =
          (.ok (b :: as), rest) := inductionHypothesis
        (fun c member => each c (List.mem_cons_of_mem _ member))
        (fun c member => opens c (List.mem_cons_of_mem _ member)) (List.cons_ne_nil b as)
        (by rw [List.length_cons] at enough; omega)
      have opensNext : some (first (joined ((b :: as).map tokens) ++ rest)).kind ≠ closing := by
        obtain ⟨behind, begins⟩ := joined_append (tokens b) (as.map tokens) rest
        rw [List.map_cons, begins]
        exact opens b (List.mem_cons_of_mem _ List.mem_cons_self) behind
      have regrouped : joined ((a :: b :: as).map tokens) ++ rest =
          tokens a ++ comma :: (joined ((b :: as).map tokens) ++ rest) := by
        simp [joined_cons_cons]
      have read := here (comma :: (joined ((b :: as).map tokens) ++ rest)) comma_ends
      rw [regrouped, items, bind_of_ok read,
        bind_of_ok (accept_cons (by rfl) (by decide) _), if_pos rfl, peek_bind, if_neg opensNext,
        bind_of_ok following]
      rfl

theorem separated_joined (ends : Token → Prop) (each : ∀ a ∈ as, ∀ behind, ends (first behind) →
      item (tokens a ++ behind) = (.ok a, behind))
    (opens : ∀ a ∈ as, ∀ behind, some (first (tokens a ++ behind)).kind ≠ closing)
    (comma_ends : ends comma) (rest_ends : ends (first rest)) (noComma : (first rest).kind ≠ .comma)
    (some_items : as ≠ []) (some_tokens : ∀ a ∈ as, tokens a ≠ []) :
    separated item closing (joined (as.map tokens) ++ rest) = (.ok as, rest) := by
  refine items_joined ends each opens comma_ends rest_ends noComma some_items ?_
  have length : (as.map tokens).length ≤ (joined (as.map tokens)).length := by
    refine length_le_joined fun piece member => ?_
    obtain ⟨a, here, rfl⟩ := List.mem_map.1 member
    exact some_tokens a here
  rw [List.length_map] at length
  rw [List.length_append]
  omega

end

/-! ## Tokens that end a part -/

/-- Behind the token no selector, call or aggregation goes on. -/
structure Token.EndsPrimary (token : Token) : Prop where
  noBrace : token.kind ≠ .leftBrace
  noParen : token.kind ≠ .leftParen
  noGrouping : token.beginsGrouping = false

/-- Behind the token no operand goes on, with no range and no clause either. -/
structure Token.EndsOperand (token : Token) : Prop extends token.EndsPrimary where
  noPostfix : ¬token.beginsPostfix

theorem Token.EndsPrimary.of_kind {token : Token} (noWord : token.kind ≠ .ident)
    (noBrace : token.kind ≠ .leftBrace) (noParen : token.kind ≠ .leftParen) :
    token.EndsPrimary where
  noBrace := noBrace
  noParen := noParen
  noGrouping := by
    rw [Token.beginsGrouping, isWord_of_kind_ne noWord, isWord_of_kind_ne noWord]
    rfl

theorem Token.EndsOperand.of_kind {token : Token} {kind : TokenKind} (here : token.kind = kind)
    (closing : kind = .rightParen ∨ kind = .comma ∨ kind = .eof) : token.EndsOperand := by
  subst here
  have noWord : token.kind ≠ .ident := by
    rcases closing with same | same | same <;> rw [same] <;> decide
  refine ⟨.of_kind noWord ?_ ?_, ?_⟩
  · rcases closing with same | same | same <;> rw [same] <;> decide
  · rcases closing with same | same | same <;> rw [same] <;> decide
  · rintro (bracket | word | symbol)
    · rcases closing with same | same | same <;> rw [same] at bracket <;> cases bracket
    · rw [isWord_of_kind_ne noWord] at word
      cases word
    · rcases closing with same | same | same <;> rw [same] at symbol <;> cases symbol

theorem endsOperand_token (op : BinaryOp) : op.token.EndsOperand := by
  refine ⟨⟨?_, ?_, ?_⟩, ?_⟩
  · cases op <;> decide
  · cases op <;> decide
  · cases op <;> decide
  · unfold Token.beginsPostfix
    cases op <;> decide

theorem binaryOp?_token (op : BinaryOp) : binaryOp? op.token = some op := by
  cases op <;> rfl

/-! ## Labels, numbers and durations -/

theorem readLabel_written (place : Place) (label : String) (rest : List Token) :
    readLabel place (word label :: rest) = (.ok label, rest) := by
  rw [readLabel, bind_of_ok (expect_cons (by rfl) (by decide) place rest)]
  rfl

theorem readLabels_written (place : Place) (labels : List String) (rest : List Token) :
    readLabels place (labelTokens labels ++ rest) = (.ok labels, rest) := by
  simp only [labelTokens, List.cons_append, List.append_assoc, List.nil_append]
  rw [readLabels, bind_of_ok (expect_cons (by rfl) (by decide) place _)]
  cases labels with
  | nil => rfl
  | cons label labels =>
    have items : separated (readLabel place) (some .rightParen)
        (joined ((label :: labels).map fun label => [word label]) ++ rightParen :: rest) =
        (.ok (label :: labels), rightParen :: rest) :=
      separated_joined (fun _ => True)
        (fun label _ behind _ => readLabel_written place label behind)
        (fun _ _ _ => by simp [word]) trivial trivial (by simp [rightParen])
        (List.cons_ne_nil _ _) (fun _ _ => List.cons_ne_nil _ _)
    refine (choice_of_ne ?_).trans ?_
    · obtain ⟨behind, begins⟩ :=
        joined_append [word label] (labels.map fun label => [word label]) (rightParen :: rest)
      rw [List.map_cons, begins]
      simp [word]
    · rw [bind_of_ok items]
      rfl

theorem readDurationToken_written {duration : Duration} (proper : duration.Proper)
    (place : Place) (rest : List Token) :
    readDurationToken place (duration.token :: rest) = (.ok duration, rest) := by
  rw [readDurationToken, bind_of_ok (expect_cons (by rfl) (by decide) place rest)]
  change lift ((Duration.parse duration.render).mapError _) rest = _
  rw [Duration.parse_render proper]
  rfl

/-- Digits with a point between them are no hexadecimal number. -/
theorem numberValue?_of_digits {whole fraction : List Char} (nonempty : whole ≠ [])
    (wholeDigits : Binary64.AllDigits whole) :
    numberValue? (whole ++ Binary64.pointed fraction) =
      Binary64.ofText? (whole ++ Binary64.pointed fraction) := by
  obtain ⟨first, more, rfl⟩ := List.exists_cons_of_ne_nil nonempty
  have second : ∀ c ∈ (more ++ Binary64.pointed fraction).head?, c ≠ 'x' ∧ c ≠ 'X' := by
    refine second_of_digits (fun c member => wholeDigits c (List.mem_cons_of_mem _ member)) ?_
    unfold Binary64.pointed
    split
    · intro c member
      cases member
    · intro c member
      cases member
      decide
  rw [List.cons_append]
  unfold numberValue?
  split
  · rename_i rest same
    rw [(List.cons.inj same).2] at second
    exact absurd rfl (second 'x' rfl).1
  · rename_i rest same
    rw [(List.cons.inj same).2] at second
    exact absurd rfl (second 'X' rfl).2
  · rfl

/-- The text of a finite number without a sign is a number token of that number. -/
theorem numberOf_written {significand : ℕ} {exponent : ℤ}
    (canonical : Binary64.Canonical (.finite false significand exponent)) (rest : List Token) :
    numberOf (digits .number (Binary64.finiteText false significand exponent)) rest =
      (.ok (.finite false significand exponent), rest) := by
  obtain ⟨whole, fraction, text, nonempty, wholeDigits, fractionDigits, read⟩ :=
    Binary64.ofText?_finiteText canonical
  have value : numberValue? (Binary64.finiteText false significand exponent) =
      some (.finite false significand exponent) := by
    rw [text, numberValue?_of_digits nonempty wholeDigits, read]
  rw [numberOf, digits]
  simp only [String.toList_ofList, value]
  rfl

/-! ## Selectors -/

theorem make_written (matcher : LabelMatcher) :
    LabelMatcher.make matcher.label matcher.condition.kind matcher.condition.text =
      .ok matcher := by
  obtain ⟨label, condition⟩ := matcher
  have pattern (pattern : Pattern) : Pattern.ofSource? pattern.source = some pattern :=
    Pattern.ofSource?_eq_some_iff.2 rfl
  cases condition with
  | equal value => rfl
  | notEqual value => rfl
  | like source =>
    simp [LabelMatcher.make, Condition.of?, Condition.kind, Condition.text, pattern]
  | unlike source =>
    simp [LabelMatcher.make, Condition.of?, Condition.kind, Condition.text, pattern]

theorem readMatcher_written (matcher : LabelMatcher) (rest : List Token) :
    readMatcher (matcher.tokens ++ rest) = (.ok matcher, rest) := by
  have kind : matchKind? matcher.condition.kind.token.kind = some matcher.condition.kind := by
    cases matcher.condition.kind <;> rfl
  have inner : matcher.condition.kind.token.kind ≠ .eof := by
    cases matcher.condition.kind <;> decide
  simp only [LabelMatcher.tokens, List.cons_append, List.nil_append]
  rw [readMatcher, bind_of_ok (readLabel_written .matcherLabel matcher.label _), peek_bind,
    first_cons, kind]
  dsimp only
  rw [bind_of_ok (next_cons inner _), bind_of_ok (expect_cons (by rfl) (by decide) _ rest)]
  change lift ((LabelMatcher.make _ _ matcher.condition.text).mapError _) rest = _
  rw [make_written]
  rfl

theorem readMatchers_written (matchers : List LabelMatcher) (rest : List Token) :
    readMatchers (matcherTokens matchers ++ rest) = (.ok matchers, rest) := by
  simp only [matcherTokens, List.cons_append, List.append_assoc, List.nil_append]
  rw [readMatchers, bind_of_ok (expect_cons (by rfl) (by decide) _ _)]
  cases matchers with
  | nil => rfl
  | cons matcher matchers =>
    have items : separated readMatcher (some .rightBrace)
        (joined ((matcher :: matchers).map LabelMatcher.tokens) ++ rightBrace :: rest) =
        (.ok (matcher :: matchers), rightBrace :: rest) :=
      separated_joined (fun _ => True)
        (fun matcher _ behind _ => readMatcher_written matcher behind)
        (fun _ _ _ => by simp [LabelMatcher.tokens, word]) trivial trivial (by simp [rightBrace])
        (List.cons_ne_nil _ _) (fun _ _ => List.cons_ne_nil _ _)
    refine (choice_of_ne ?_).trans ?_
    · obtain ⟨behind, begins⟩ :=
        joined_append matcher.tokens (matchers.map LabelMatcher.tokens) (rightBrace :: rest)
      rw [List.map_cons, begins]
      simp [LabelMatcher.tokens, word]
    · rw [bind_of_ok items]
      rfl

/-- The matchers of a selector that fits together are read behind its name. -/
theorem readSelector_written {selector : Selector} (fits : selector.Fits)
    (some_matchers : selector.matchers ≠ []) (rest : List Token) :
    readSelector selector.name (matcherTokens selector.matchers ++ rest) =
      (.ok (.vector { selector with modifiers := .none }), rest) := by
  obtain ⟨name, matchers, modifiers⟩ := selector
  unfold readSelector
  refine (choice_of_kind rfl).trans ?_
  rw [bind_of_ok (readMatchers_written matchers rest)]
  cases name with
  | none =>
    have selects := fits.unnamed rfl
    simp only [Option.isSome_none, Bool.false_and, Bool.false_eq_true, if_false,
      Option.isNone_none, Bool.true_and, selects]
    rfl
  | some name =>
    obtain ⟨-, -, once⟩ := fits.named name rfl
    simp only [Option.isSome_some, Bool.true_and, once, Bool.false_eq_true, if_false,
      Option.isNone_some, Bool.false_and]
    rfl

/-- A name without matchers is read as a selector. -/
theorem readSelector_name {name : String} (noBrace : (first rest).kind ≠ .leftBrace) :
    readSelector (some name) rest = (.ok (.vector ⟨some name, [], .none⟩), rest) := by
  unfold readSelector
  refine (choice_of_ne noBrace).trans ?_
  rfl

/-! ## Ranges and clauses in time -/

/-- A number behind a sign, or without one, is read as a timestamp. -/
theorem readInstant_number {tokens behind : List Token} {number : Token} {negative : Bool}
    {value : Binary64} (noWord : (first tokens).kind ≠ .ident)
    (sign : readSign tokens = (.ok negative, number :: behind)) (kind : number.kind = .number)
    (read : numberOf number behind = (.ok value, behind)) (finite : value.isFinite = true) :
    readInstant tokens = (.ok (.timestamp (if negative then value.neg else value)), behind) := by
  rw [readInstant, peek_bind, isWord_of_kind_ne noWord, if_neg Bool.false_ne_true,
    isWord_of_kind_ne noWord, if_neg Bool.false_ne_true, bind_of_ok sign,
    bind_of_ok (expect_cons kind (by decide) _ behind), bind_of_ok read, if_pos finite]
  rfl

theorem readInstant_written {instant : Instant} (proper : instant.Proper) (rest : List Token) :
    readInstant (instant.tokens ++ rest) = (.ok instant, rest) := by
  cases instant with
  | rangeStart =>
    simp only [Instant.tokens, List.cons_append, List.nil_append]
    rw [readInstant, peek_bind, first_cons, if_pos (by rfl)]
    rfl
  | rangeEnd =>
    simp only [Instant.tokens, List.cons_append, List.nil_append]
    rw [readInstant, peek_bind, first_cons, if_neg (by decide), if_pos (by rfl)]
    rfl
  | timestamp seconds =>
    obtain ⟨finite, canonical⟩ := proper
    cases seconds with
    | nan => cases finite
    | infinity negative => cases finite
    | finite negative significand exponent =>
      -- A minus is a token of its own in front of the digits.
      let token := digits .number (Binary64.finiteText false significand exponent)
      have number : numberOf token rest = (.ok (.finite false significand exponent), rest) :=
        numberOf_written canonical rest
      cases negative with
      | false =>
        have sign : readSign (token :: rest) = (.ok false, token :: rest) := rfl
        exact readInstant_number (by simp [token, digits]) sign rfl number rfl
      | true =>
        have sign : readSign (minus :: token :: rest) = (.ok true, token :: rest) := rfl
        exact readInstant_number (by simp [minus]) sign rfl number rfl

theorem readOffset_written {offset : Offset} (proper : offset.duration.Proper)
    (rest : List Token) : readOffset (offset.tokens ++ rest) = (.ok offset, rest) := by
  obtain ⟨negative, duration⟩ := offset
  have read := readDurationToken_written proper .offset rest
  cases negative with
  | false =>
    have sign : accept .sub (duration.token :: rest) = (.ok false, duration.token :: rest) :=
      accept_of_ne (by simp [Duration.token, digits])
    change readOffset (duration.token :: rest) = _
    rw [readOffset, bind_of_ok sign, bind_of_ok read]
    rfl
  | true =>
    change readOffset (minus :: duration.token :: rest) = _
    rw [readOffset, bind_of_ok (accept_cons (by rfl) (by decide) _), bind_of_ok read]
    rfl

section
variable {expr : Expr} {modifiers : Modifiers}

theorem withModifiers_withModifiers (expr : Expr) (before after : Modifiers) :
    (expr.withModifiers before).withModifiers after = expr.withModifiers after := by
  cases expr <;> rfl

theorem withModifiers_self (here : expr.modifiers? = some modifiers) :
    expr.withModifiers modifiers = expr := by
  cases expr with
  | vector selector => cases here; rfl
  | matrix selector range => cases here; rfl
  | subquery body clause => cases here; rfl
  | _ => rfl

theorem modifiers?_withModifiers (here : expr.modifiers? = some modifiers) (after : Modifiers) :
    (expr.withModifiers after).modifiers? = some after := by
  cases expr with
  | vector selector => rfl
  | matrix selector range => rfl
  | subquery body clause => rfl
  | _ => cases here

/-- An offset is read behind an expression that has none. -/
theorem loop_offset {offset : Offset} (here : expr.modifiers? = some modifiers)
    (none : modifiers.offset = .none) (proper : offset.duration.Proper) (rest : List Token) :
    loop readPostfix expr (word "offset" :: (offset.tokens ++ rest)) =
      loop readPostfix (expr.withModifiers { modifiers with offset := some offset }) rest := by
  apply loop_again advances_readPostfix
  have applied : applyOffset expr offset =
      .ok (expr.withModifiers { modifiers with offset := some offset }) := by
    simp [applyOffset, here, none]
  have noBracket : accept .leftBracket (word "offset" :: (offset.tokens ++ rest)) =
      (.ok false, word "offset" :: (offset.tokens ++ rest)) := accept_of_ne (by simp [word])
  rw [readPostfix, bind_of_ok noBracket, if_neg Bool.false_ne_true,
    bind_of_ok (acceptWord_cons (by rfl) _), if_pos rfl,
    bind_of_ok (readOffset_written proper rest), applied]
  rfl

/-- A point in time is read behind an expression that has none. -/
theorem loop_instant {instant : Instant} (here : expr.modifiers? = some modifiers)
    (none : modifiers.instant = .none) (proper : instant.Proper) (rest : List Token) :
    loop readPostfix expr (atSign :: (instant.tokens ++ rest)) =
      loop readPostfix (expr.withModifiers { modifiers with instant := some instant }) rest := by
  apply loop_again advances_readPostfix
  have applied : applyInstant expr instant =
      .ok (expr.withModifiers { modifiers with instant := some instant }) := by
    simp [applyInstant, here, none]
  have noBracket : accept .leftBracket (atSign :: (instant.tokens ++ rest)) =
      (.ok false, atSign :: (instant.tokens ++ rest)) := accept_of_ne (by simp [atSign])
  have noWord : acceptWord "offset" (atSign :: (instant.tokens ++ rest)) =
      (.ok false, atSign :: (instant.tokens ++ rest)) := acceptWord_of_not (by rfl)
  rw [readPostfix, bind_of_ok noBracket, if_neg Bool.false_ne_true, bind_of_ok noWord,
    if_neg Bool.false_ne_true, bind_of_ok (accept_cons (by rfl) (by decide) _), if_pos rfl,
    bind_of_ok (readInstant_written proper rest), applied]
  rfl

/-- The clauses in time are read behind an expression that has none. -/
theorem loop_modifiers (here : expr.modifiers? = some .none) (proper : modifiers.Proper)
    (rest : List Token) :
    loop readPostfix expr (modifiers.tokens ++ rest) =
      loop readPostfix (expr.withModifiers modifiers) rest := by
  obtain ⟨offset, instant⟩ := modifiers
  cases instant with
  | none =>
    cases offset with
    | none =>
      change loop readPostfix expr rest = loop readPostfix (expr.withModifiers .none) rest
      rw [withModifiers_self here]
    | some offset => exact loop_offset here rfl (proper.offset offset rfl) rest
  | some instant =>
    have first := loop_instant here rfl (proper.instant instant rfl)
    cases offset with
    | none =>
      have tokens : Modifiers.tokens ⟨none, some instant⟩ ++ rest =
          atSign :: (instant.tokens ++ rest) := by
        simp [Modifiers.tokens, optionalTokens]
      rw [tokens, first]
      rfl
    | some offset =>
      have tokens : Modifiers.tokens ⟨some offset, some instant⟩ ++ rest =
          atSign :: (instant.tokens ++ (word "offset" :: (offset.tokens ++ rest))) := by
        simp [Modifiers.tokens, optionalTokens]
      rw [tokens, first, loop_offset (modifiers?_withModifiers here _) rfl
        (proper.offset offset rfl), withModifiers_withModifiers]

end

/-- A range is read behind a selector that has no clause yet. -/
theorem loop_range {selector : Selector} {range : Duration} (none : selector.modifiers = .none)
    (proper : range.Proper) (rest : List Token) :
    loop readPostfix (.vector selector) (rangeTokens range ++ rest) =
      loop readPostfix (.matrix selector range) rest := by
  apply loop_again advances_readPostfix
  have applied : applyRange (.vector selector) range = .ok (.matrix selector range) := by
    simp [applyRange, none, Modifiers.none]
  simp only [rangeTokens, List.cons_append, List.nil_append]
  rw [readPostfix, bind_of_ok (accept_cons (by rfl) (by decide) _), if_pos rfl, readRange]
  apply map_of_ok
  rw [bind_of_ok (readDurationToken_written proper .range _),
    bind_of_ok (accept_cons (by rfl) (by decide) _), if_pos rfl, applied]
  rfl

/-- The range and step of a subquery are read behind an operand, and its clauses behind them. -/
theorem loop_subquery {body : Expr} {clause : SubqueryClause}
    (noRange : body.kind ≠ .matrixSelector) (proper : clause.Proper) (rest : List Token) :
    loop readPostfix body (clause.tokens ++ rest) =
      loop readPostfix (.subquery body clause) rest := by
  obtain ⟨range, step, modifiers⟩ := clause
  have applied : applySubquery body range step = .ok (.subquery body ⟨range, step, .none⟩) := by
    cases body with
    | matrix selector range => exact absurd rfl noRange
    | _ => rfl
  have noBracket : ∀ tail, accept .rightBracket (colon :: tail) = (.ok false, colon :: tail) :=
    fun tail => accept_of_ne (by simp [colon])
  -- One round reads the range and the step; the clauses are left to the rounds behind it.
  have round : readPostfix body (SubqueryClause.tokens ⟨range, step, modifiers⟩ ++ rest) =
      (.ok (.again (.subquery body ⟨range, step, .none⟩)), modifiers.tokens ++ rest) := by
    simp only [SubqueryClause.tokens, List.cons_append, List.nil_append, List.append_assoc]
    rw [readPostfix, bind_of_ok (accept_cons (by rfl) (by decide) _), if_pos rfl, readRange]
    apply map_of_ok
    rw [bind_of_ok (readDurationToken_written proper.range .range _),
      bind_of_ok (noBracket _), if_neg Bool.false_ne_true,
      bind_of_ok (expect_cons (by rfl) (by decide) _ _)]
    cases step with
    | none =>
      refine (choice_of_ne (by simp [optionalTokens, rightBracket])).trans ?_
      rw [bind_of_ok (pure_apply _ _)]
      dsimp only [optionalTokens, List.nil_append]
      rw [bind_of_ok (expect_cons (by rfl) (by decide) _ _), applied]
      rfl
    | some step =>
      refine (choice_of_kind rfl).trans ?_
      have read := readDurationToken_written (proper.step step rfl) .subqueryStep
        (rightBracket :: (modifiers.tokens ++ rest))
      simp only [optionalTokens, List.cons_append, List.nil_append]
      rw [bind_of_ok (map_of_ok read), bind_of_ok (expect_cons (by rfl) (by decide) _ _), applied]
      rfl
  rw [loop_again advances_readPostfix round, loop_modifiers rfl proper.modifiers]
  rfl

/-! ## Primary expressions -/

theorem endsPrimary_modifiers (modifiers : Modifiers) (ends : (first rest).EndsPrimary) :
    (first (modifiers.tokens ++ rest)).EndsPrimary := by
  obtain ⟨offset, instant⟩ := modifiers
  cases instant with
  | some instant => exact (.of_kind (by decide) (by decide) (by decide) : atSign.EndsPrimary)
  | none =>
    cases offset with
    | none => exact ends
    | some offset =>
      exact (⟨by decide, by decide, by decide⟩ : (word "offset").EndsPrimary)

/-- What a word begins depends on the word and on the token behind it. -/
theorem readPrimary_word (inner : Nat → Parse Expr) (text : String) (rest : List Token) :
    readPrimary inner (word text :: rest) = (match numberWord? text with
      | some number => pure (Expr.number number)
      | none =>
        match aggregation? text (first rest) with
        | some op => readAggregate inner op
        | none =>
          if (first rest).kind = TokenKind.leftParen then readCall inner text
          else readSelector (some text)) rest := rfl

/-- A word in front of no parenthesis and no grouping is a selector, unless it is a number. -/
theorem readPrimary_name {inner : Nat → Parse Expr} {name : String}
    (noNumber : numberWord? name = none) (noParen : (first rest).kind ≠ .leftParen)
    (noGrouping : (first rest).beginsGrouping = false) :
    readPrimary inner (word name :: rest) = readSelector (some name) rest := by
  have noAggregation : aggregation? name (first rest) = none := by
    simp [aggregation?, noParen, noGrouping]
  rw [readPrimary_word, noNumber, noAggregation]
  dsimp only
  rw [if_neg noParen]

/-- The name and matchers of a selector are read up to its clauses. -/
theorem readPrimary_base {inner : Nat → Parse Expr} {selector : Selector} (fits : selector.Fits)
    (ends : (first rest).EndsPrimary) :
    readPrimary inner (selector.baseTokens ++ rest) =
      (.ok (.vector { selector with modifiers := .none }), rest) := by
  unfold Selector.baseTokens
  rw [fits.name?_eq]
  cases here : selector.name with
  | none =>
    have some_matchers : selector.matchers ≠ [] := by
      intro none
      have selects := fits.unnamed here
      rw [none] at selects
      cases selects
    have read := readSelector_written fits some_matchers rest
    rw [here] at read
    exact read
  | some name =>
    obtain ⟨-, noNumber, -⟩ := fits.named name here
    by_cases empty : selector.matchers = []
    · obtain ⟨name', matchers, modifiers⟩ := selector
      cases here
      cases empty
      refine (readPrimary_name noNumber ends.noParen ends.noGrouping).trans ?_
      exact readSelector_name ends.noBrace
    · have read := readSelector_written fits empty rest
      rw [here] at read
      have nonempty : selector.matchers.isEmpty = false := by simpa using empty
      simp only [nonempty, Bool.false_eq_true, if_false, List.cons_append]
      rw [readPrimary_name noNumber (by simp [matcherTokens, leftBrace]) (by rfl)]
      exact read

end RuleAtlas.Query
