import RuleAtlas.Proofs.Query.Listing
import RuleAtlas.Proofs.Query.Naming
import RuleAtlas.Proofs.Query.Rereading.Trees
import RuleAtlas.Proofs.Query.Swapping
import RuleAtlas.Query.Expr.Printer

/-! # Two ways to write an expression

The grouping of an aggregation stands in front of its parentheses or behind them, and a list of
labels, of matchers or of what is aggregated may end with a comma.  Wherever this is done in a
text, the text stands for the same tree, or for none. -/

namespace RuleAtlas.Query

open Parse

variable {tokens rest left inside after : List Token} {opening closing comma : Token}

/-! ## Words -/

/-- The words that a list of labels belongs to. -/
def labelWords : List String := ["by", "without", "on", "ignoring", "group_left", "group_right"]

/-- The other words that have a meaning of their own behind an operand or in front of one. -/
def otherWords : List String :=
  ["offset", "start", "end", "bool", "and", "or", "unless", "atan2", "inf", "nan"]

/-- The word of an aggregation. -/
def Token.aggregates (token : Token) : Prop :=
  token.kind = .ident ∧ (AggregateOp.ofWord? token.text).isSome = true

theorem lowercase_of_ofWord? {text : String} {op : AggregateOp}
    (known : AggregateOp.ofWord? text = some op) : lowercase text = op.symbol := by
  have symbol : op.symbol = lowercase text := by simpa using List.find?_some known
  exact symbol.symm

theorem AggregateOp.symbol_notMem (op : AggregateOp) :
    op.symbol ∉ labelWords ∧ op.symbol ∉ otherWords := by
  cases op <;> decide

theorem lowercase_of_isWord {token : Token} {word : String} (isWord : token.isWord word = true) :
    lowercase token.text = word := by
  simp only [Token.isWord, Bool.and_eq_true, beq_iff_eq] at isWord
  exact isWord.2

theorem lowercase_of_hasLabels {token : Token} (hasLabels : token.hasLabels = true) :
    token.kind = .ident ∧ lowercase token.text ∈ labelWords := by
  simp only [Token.hasLabels, Token.beginsGrouping, Token.isMatching, Token.isGroupModifier,
    Bool.or_eq_true] at hasLabels
  rcases hasLabels with ((isWord | isWord) | isWord | isWord) | isWord | isWord
  all_goals exact ⟨kind_of_isWord isWord, by simp [labelWords, lowercase_of_isWord isWord]⟩

section
variable {token : Token} (other : lowercase token.text ∉ otherWords)
include other

theorem binaryOp?_of_notMem (ident : token.kind = .ident) : binaryOp? token = none := by
  simp only [otherWords, List.mem_cons, List.not_mem_nil, or_false, not_or] at other
  simp [binaryOp?, ident, wordOp?, other]

theorem numberWord?_of_notMem : numberWord? token.text = none := by
  simp only [otherWords, List.mem_cons, List.not_mem_nil, or_false, not_or] at other
  simp [numberWord?, other]

theorem noClause_of_notMem :
    ∀ word ∈ ["offset", "start", "end", "bool"], token.isWord word = false := by
  intro word member
  rw [← Bool.not_eq_true]
  intro isWord
  rw [lowercase_of_isWord isWord] at other
  exact other ((by decide : ["offset", "start", "end", "bool"] ⊆ otherWords) member)

end

theorem notMem_otherWords : ∀ word ∈ labelWords, word ∉ otherWords := by
  decide

theorem lowercase_function : ∀ entry ∈ functionTable, lowercase entry.name ∉ labelWords := by
  decide +kernel

/-- No function and no aggregation has the name of a word with labels. -/
theorem readBehindWord_of_hasLabels {inner : Nat → Parse Expr} {word : Token} {expr : Expr}
    (hasLabels : word.hasLabels = true) (opens : opening.kind = .leftParen) :
    readBehindWord inner opening word tokens ≠ (.ok expr, left) := by
  obtain ⟨-, member⟩ := lowercase_of_hasLabels hasLabels
  have noNumber := numberWord?_of_notMem (notMem_otherWords _ member)
  have noAggregation : aggregation? word.text opening = none := by
    rw [aggregation?, opens]
    cases known : AggregateOp.ofWord? word.text with
    | none => rfl
    | some op =>
      rw [lowercase_of_ofWord? known] at member
      exact absurd member op.symbol_notMem.1
  have noFunction : function? word.text = none := by
    cases known : function? word.text with
    | none => rfl
    | some entry =>
      have named : entry.name = word.text := by simpa using List.find?_some known
      rw [← named] at member
      exact absurd member (lowercase_function entry (List.mem_of_find?_eq_some known))
  intro came
  rw [readBehindWord, noNumber, noAggregation, if_pos opens, readCall, noFunction] at came
  cases came

/-- Behind its word an aggregation goes on with its grouping or its parentheses. -/
def Token.goesOn (token : Token) : Prop :=
  token.kind = .leftParen ∨ token.beginsGrouping = true

theorem readBehindWord_of_aggregates {inner : Nat → Parse Expr} {word following : Token}
    {op : AggregateOp} (known : AggregateOp.ofWord? word.text = some op)
    (goesOn : following.goesOn) : readBehindWord inner following word = readAggregate inner op := by
  have other : lowercase word.text ∉ otherWords := by
    rw [lowercase_of_ofWord? known]
    exact op.symbol_notMem.2
  have aggregation : aggregation? word.text following = some op := by
    rw [aggregation?, if_pos (by simpa [Token.goesOn] using goesOn), known]
  rw [readBehindWord, numberWord?_of_notMem other, aggregation]

/-! ## Swaps behind the words -/

section
variable {head : Token} {old new : List Token}

/-- Behind the word of an aggregation. -/
theorem fits_of_aggregates {op : AggregateOp} (ident : head.kind = .ident)
    (known : AggregateOp.ofWord? head.text = some op) (goesOn : (first old).goesOn)
    (goesOnToo : (first new).goesOn)
    (same : ∀ levels expr left, readAggregate (readLevels levels) op old = (.ok expr, left) →
      readAggregate (readLevels levels) op new = (.ok expr, left)) :
    Swap.Fits ⟨head, old, new⟩ := by
  obtain ⟨noLabels, other⟩ := op.symbol_notMem
  rw [← lowercase_of_ofWord? known] at noLabels other
  exact {
    kind := .inl ident
    noOperator := binaryOp?_of_notMem other ident
    noClause := noClause_of_notMem other
    behind := by
      refine fun _ => goesOn.symm.imp (fun begins => ?_) id
      exact (Bool.or_eq_true_iff.1 begins).elim kind_of_isWord kind_of_isWord
    labels := fun hasLabels => absurd (lowercase_of_hasLabels hasLabels).2 noLabels
    matchers := fun brace => by cases ident.symm.trans brace
    word := by
      intro _ levels expr left came
      dsimp only at came ⊢
      rw [readBehindWord_of_aggregates known goesOn] at came
      rw [readBehindWord_of_aggregates known goesOnToo]
      exact same levels expr left came }

/-- Behind a word with labels. -/
theorem fits_of_hasLabels (hasLabels : head.hasLabels = true)
    (opens : (first old).kind = .leftParen) (opensToo : (first new).kind = .leftParen)
    (same : ∀ place labels left, readLabels place old = (.ok labels, left) →
      readLabels place new = (.ok labels, left)) : Swap.Fits ⟨head, old, new⟩ := by
  obtain ⟨ident, member⟩ := lowercase_of_hasLabels hasLabels
  have other := notMem_otherWords _ member
  exact {
    kind := .inl ident
    noOperator := binaryOp?_of_notMem other ident
    noClause := noClause_of_notMem other
    behind := fun _ => .inr opens
    labels := fun _ => ⟨opens, opensToo, same⟩
    matchers := fun brace => by cases ident.symm.trans brace
    word := fun _ _ _ _ came => absurd came (readBehindWord_of_hasLabels hasLabels opens) }

/-- Behind the brace that opens a list of matchers. -/
theorem fits_of_leftBrace (brace : head.kind = .leftBrace)
    (same : ∀ matchers left, readMatchers (head :: old) = (.ok matchers, left) →
      readMatchers (head :: new) = (.ok matchers, left)) : Swap.Fits ⟨head, old, new⟩ := by
  have noWord : head.kind ≠ .ident := by simp [brace]
  exact {
    kind := .inr brace
    noOperator := by simp [binaryOp?, brace]
    noClause := fun word _ => isWord_of_kind_ne noWord word
    behind := fun ident => absurd ident noWord
    labels := fun hasLabels => absurd (lowercase_of_hasLabels hasLabels).1 noWord
    matchers := fun _ => same
    word := fun ident => absurd ident noWord }

end

/-! ## What is aggregated -/

section
variable {levels : Nat} {op : AggregateOp} {aggregated result : Aggregated}

theorem closeArguments_eq_ok (came : closeArguments aggregated tokens = (.ok result, left)) :
    result = aggregated ∧ ∃ commas closer, (commas = [] ∨ ∃ comma : Token, commas = [comma] ∧
      comma.kind = .comma) ∧ closer.kind = .rightParen ∧ tokens = commas ++ closer :: left := by
  obtain ⟨found, middle, accepted, came⟩ := bind_eq_ok.1 came
  obtain ⟨closer, behind, expected, came⟩ := bind_eq_ok.1 came
  cases came
  obtain ⟨rfl, closes⟩ := expect_eq_ok (by decide) expected
  rcases accept_eq_ok (by decide) accepted with ⟨-, comma, rfl, separates⟩ | ⟨-, rfl, -⟩
  · exact ⟨rfl, [comma], closer, .inr ⟨comma, rfl, separates⟩, closes, rfl⟩
  · exact ⟨rfl, [], closer, .inl rfl, closes, rfl⟩

theorem closeArguments_closing (closes : closing.kind = .rightParen) :
    closeArguments aggregated (closing :: rest) = (.ok aggregated, rest) := by
  have noComma : (first (closing :: rest)).kind ≠ .comma := by simp [closes]
  rw [closeArguments, bind_of_ok (accept_of_ne noComma),
    bind_of_ok (expect_cons closes (by decide) _ _)]
  rfl

theorem closeArguments_comma (separates : comma.kind = .comma)
    (closes : closing.kind = .rightParen) :
    closeArguments aggregated (comma :: closing :: rest) = (.ok aggregated, rest) := by
  rw [closeArguments, bind_of_ok (accept_cons separates (by decide) _),
    bind_of_ok (expect_cons closes (by decide) _ _)]
  rfl

/-- What is aggregated is read from the tokens, whatever ends it. -/
structure IsAggregated (levels : Nat) (op : AggregateOp) (tokens : List Token)
    (aggregated : Aggregated) : Prop where
  ends : EndsAsOperand tokens
  begins : ∀ rest, (first (tokens ++ rest)).kind ≠ .rightParen
  reads : ∀ closer rest, closer.IsCloser →
    readAggregated (readLevels levels) op (tokens ++ closer :: rest) =
      (.ok aggregated, closer :: rest)

theorem readArguments_of_isAggregated (isAggregated : IsAggregated levels op inside aggregated)
    {closer : Token} (isCloser : closer.IsCloser)
    (closed : closeArguments aggregated (closer :: rest) = (.ok aggregated, left)) :
    readArguments (readLevels levels) op (inside ++ closer :: rest) = (.ok aggregated, left) := by
  rw [readArguments, peek_bind, if_neg (isAggregated.begins _),
    bind_of_ok (isAggregated.reads closer rest isCloser)]
  exact closed

theorem consumes_endsAsOperand :
    (readAggregated (readLevels levels) op).Consumes tokens fun taken _ => EndsAsOperand taken := by
  have within : ∀ tokens, (readLevels levels 0).Consumes tokens
      fun taken _ => EndsAsOperand taken := fun tokens =>
    (consumes_readLevels levels 0 tokens).mono fun _ _ spelled => spelled.ends
  refine (within tokens).behind fun front first rest ends => ?_
  split
  · refine (Consumes.expect .aggregationParameter (by decide)).behind ?_
    rintro _ comma rest ⟨rfl, -⟩
    refine (within rest).behind fun back body rest endsToo => .value ?_
    exact endsToo.mono ⟨front ++ [comma], by simp⟩
  · exact .value (by rwa [List.append_nil])

/-- Behind what is aggregated stands at most a comma in front of the parenthesis. -/
theorem eq_of_closeArguments {more : List Token} (balanced : Balanced more)
    (closes : closing.kind = .rightParen)
    (came : closeArguments aggregated (more ++ closing :: rest) = (.ok result, left)) :
    result = aggregated ∧ left = rest ∧
      (more = [] ∨ ∃ comma : Token, more = [comma] ∧ comma.kind = .comma) := by
  obtain ⟨rfl, commas, closer, isComma, closesToo, whole⟩ := closeArguments_eq_ok came
  refine ⟨rfl, ?_⟩
  rcases isComma with rfl | ⟨comma, rfl, separates⟩
  · obtain ⟨rfl, rfl⟩ := balanced.eq_nil closesToo whole.symm
    exact ⟨rfl, .inl rfl⟩
  · cases more with
    | nil =>
      obtain ⟨rfl, -⟩ := List.cons.inj whole
      cases closes.symm.trans separates
    | cons token more =>
      obtain ⟨rfl, behind⟩ := List.cons.inj whole
      have front : Balanced [token] := .of_noParens (by simp [separates])
      have balancedBehind : Balanced more :=
        Leads.of_append front balanced
      obtain ⟨rfl, rfl⟩ := balancedBehind.eq_nil closesToo behind.symm
      exact ⟨rfl, .inr ⟨token, rfl, separates⟩⟩

/-- Between parentheses that belong together stands what is aggregated, and perhaps a comma. -/
theorem exists_of_readArguments (balanced : Balanced inside) (closes : closing.kind = .rightParen)
    (lexical : Lexical (inside ++ closing :: rest))
    (came : readArguments (readLevels levels) op (inside ++ closing :: rest) =
      (.ok aggregated, left)) :
    left = rest ∧ ∃ front commas, inside = front ++ commas ∧
      IsAggregated levels op front aggregated ∧
        (commas = [] ∨ ∃ comma : Token, commas = [comma] ∧ comma.kind = .comma) := by
  rw [readArguments, peek_bind] at came
  split at came
  · cases came
  rename_i begins
  obtain ⟨read, middle, parsed, came⟩ := bind_eq_ok.1 came
  -- What was read is balanced, so it ends in front of the parenthesis that closes it.
  obtain ⟨taken, whole, ends⟩ := consumes_endsAsOperand lexical _ _ parsed
  obtain ⟨same, wholeToo, balancedTaken⟩ :=
    leads_readAggregated (leads_readLevels levels) op _ lexical _ _ parsed
  obtain rfl : taken = same := List.append_cancel_right (whole.symm.trans wholeToo)
  obtain ⟨more, rfl, rfl, balancedMore⟩ := Balanced.split balancedTaken balanced closes whole
  obtain ⟨rfl, rfl, commas⟩ := eq_of_closeArguments balancedMore closes came
  refine ⟨rfl, taken, more, rfl, ⟨ends, fun rest => ?_, fun closer rest isCloser => ?_⟩, commas⟩
  · have nonempty : taken ≠ [] := by
      rintro rfl
      obtain ⟨kind, -, last⟩ := ends
      simp [EndsWith] at last
    rw [List.append_assoc, first_append nonempty] at begins
    rwa [first_append nonempty]
  · -- It was followed by a comma or by the parenthesis, and another one may stand there.
    obtain ⟨token, behind, tail, ends⟩ : ∃ token behind,
        more ++ closing :: left = token :: behind ∧ token.IsCloser := by
      rcases commas with rfl | ⟨comma, rfl, separates⟩
      · exact ⟨closing, left, rfl, .inl closes⟩
      · exact ⟨comma, closing :: left, rfl, .inr separates⟩
    rw [List.append_assoc, tail] at parsed
    exact (framed_readAggregated (framed_readLevels .closing levels 0) op).framed parsed
      (.inr ⟨ends, isCloser⟩)

/-- What stands behind the parenthesis is not looked at. -/
theorem readArguments_elsewhere (balanced : Balanced inside) (closes : closing.kind = .rightParen)
    (lexical : Lexical (inside ++ closing :: rest))
    (came : readArguments (readLevels levels) op (inside ++ closing :: rest) =
      (.ok aggregated, left)) (other : List Token) :
    left = rest ∧ readArguments (readLevels levels) op (inside ++ closing :: other) =
      (.ok aggregated, other) := by
  obtain ⟨rfl, front, commas, rfl, isAggregated, rfl | ⟨comma, rfl, separates⟩⟩ :=
    exists_of_readArguments balanced closes lexical came
  · rw [List.append_nil]
    exact ⟨rfl, readArguments_of_isAggregated isAggregated (.inl closes)
      (closeArguments_closing closes)⟩
  · rw [List.append_assoc]
    exact ⟨rfl, readArguments_of_isAggregated isAggregated (.inr separates)
      (closeArguments_comma separates closes)⟩

/-- A comma behind what is aggregated makes no difference. -/
theorem readArguments_comma (balanced : Balanced inside) (ends : EndsWithItem inside)
    (separates : comma.kind = .comma) (closes : closing.kind = .rightParen)
    (lexical : Lexical (inside ++ closing :: rest)) :
    readArguments (readLevels levels) op (inside ++ closing :: rest) = (.ok aggregated, left) ↔
      readArguments (readLevels levels) op (inside ++ comma :: closing :: rest) =
        (.ok aggregated, left) := by
  have regrouped : inside ++ comma :: closing :: rest = (inside ++ [comma]) ++ closing :: rest := by
    simp
  obtain ⟨others, last, whole, noComma⟩ := ends
  constructor
  · intro came
    obtain ⟨rfl, front, commas, same, isAggregated, rfl | ⟨between, rfl, separatesToo⟩⟩ :=
      exists_of_readArguments balanced closes lexical came
    · rw [List.append_nil] at same
      rw [same]
      exact readArguments_of_isAggregated isAggregated (.inr separates)
        (closeArguments_comma separates closes)
    · -- A comma behind what is aggregated would be the last token.
      obtain ⟨-, rfl⟩ := List.append_singleton_inj.1 (whole.symm.trans same)
      exact absurd separatesToo noComma
  · intro came
    have balancedToo : Balanced (inside ++ [comma]) :=
      Leads.append balanced (.of_noParens (by simp [separates]) 0)
    have lexicalToo : Lexical ((inside ++ [comma]) ++ closing :: rest) := by
      rw [← regrouped]
      exact lexical.insert separates
    rw [regrouped] at came
    obtain ⟨rfl, front, commas, same, isAggregated, rfl | ⟨between, rfl, separatesToo⟩⟩ :=
      exists_of_readArguments balancedToo closes lexicalToo came
    · -- An expression does not end with a comma.
      rw [List.append_nil] at same
      obtain ⟨kind, allowed, last⟩ := isAggregated.ends
      rw [← same, EndsWith, List.map_append] at last
      obtain ⟨kinds, same⟩ := last
      obtain ⟨-, rfl⟩ := List.append_singleton_inj.1 same
      rw [separates] at allowed
      cases (by decide : TokenKind.comma ∉ operandEnds) allowed
    · obtain ⟨rfl, -⟩ := List.append_singleton_inj.1 same
      exact readArguments_of_isAggregated isAggregated (.inl closes)
        (closeArguments_closing closes)

end

/-! ## Groupings -/

section
variable {word operator : Token} {list : List Token} {levels : Nat} {op : AggregateOp}

/-- Behind the word of a grouping its labels are read. -/
theorem readGrouping_word (begins : word.beginsGrouping = true) :
    ∃ grouping : List String → Grouping, ∀ tokens, readGrouping (word :: tokens) =
      ((fun labels => some (grouping labels)) <$> readLabels .grouping) tokens := by
  cases isBy : word.isWord "by" with
  | true =>
    refine ⟨.by, fun tokens => ?_⟩
    rw [readGrouping, bind_of_ok (acceptWord_cons isBy tokens), if_pos rfl]
  | false =>
    have isWithout : word.isWord "without" = true := by
      rwa [Token.beginsGrouping, isBy, Bool.false_or] at begins
    refine ⟨.without, fun tokens => ?_⟩
    have noBy : acceptWord "by" (word :: tokens) = (.ok false, word :: tokens) :=
      acceptWord_of_not isBy
    rw [readGrouping, bind_of_ok noBy, if_neg Bool.false_ne_true,
      bind_of_ok (acceptWord_cons isWithout tokens), if_pos rfl]

/-- A grouping is read from its word and its labels, whatever stands behind them. -/
theorem readGrouping_elsewhere {read : Option Grouping} (begins : word.beginsGrouping = true)
    (isList : IsLabelList list) (lexical : Lexical (list ++ rest))
    (came : readGrouping (word :: (list ++ rest)) = (.ok read, left)) :
    left = rest ∧ ∃ grouping, read = some grouping ∧
      ∀ other, readGrouping (word :: (list ++ other)) = (.ok (some grouping), other) := by
  obtain ⟨grouping, same⟩ := readGrouping_word begins
  rw [same] at came
  obtain ⟨labels, listed, rfl⟩ := map_eq_ok.1 came
  have elsewhere := readLabels_elsewhere isList lexical listed
  refine ⟨(elsewhere []).1, grouping labels, rfl, fun other => ?_⟩
  rw [same]
  exact map_of_ok (elsewhere other).2

/-- The tree of an aggregation whose grouping and whose operand are read from the tokens,
wherever these stand. -/
def IsAggregation (levels : Nat) (op : AggregateOp) (clause inside : List Token) (expr : Expr) :
    Prop :=
  ∃ grouping aggregated,
    (∀ other, readGrouping (clause ++ other) = (.ok (some grouping), other)) ∧
    (∀ other, readArguments (readLevels levels) op (inside ++ other) = (.ok aggregated, other)) ∧
    expr = .aggregate op aggregated.parameter aggregated.body (some grouping)

section
variable {expr : Expr} (begins : word.beginsGrouping = true) (isList : IsLabelList list)
  (opens : opening.kind = .leftParen) (balanced : Balanced inside)
  (closes : closing.kind = .rightParen)
include begins isList opens balanced closes

/-- With the grouping in front of the parentheses. -/
theorem readAggregate_before (single : (first after).beginsGrouping = false)
    (lexical : Lexical (word :: (list ++ opening :: (inside ++ closing :: after)))) :
    readAggregate (readLevels levels) op
        (word :: (list ++ opening :: (inside ++ closing :: after))) = (.ok expr, left) ↔
      left = after ∧ IsAggregation levels op (word :: list) (inside ++ [closing]) expr := by
  rw [readAggregate_eq]
  -- Both parts are read alike in other places, so they may be taken apart and put together.
  constructor
  · intro came
    obtain ⟨read, middle, grouped, came⟩ := bind_eq_ok.1 came
    obtain ⟨rfl, grouping, rfl, groupedElsewhere⟩ :=
      readGrouping_elsewhere begins isList lexical.behind grouped
    rw [bind_of_ok (expect_cons opens (by decide) _ _)] at came
    obtain ⟨aggregated, middle, enclosed, finished⟩ := bind_eq_ok.1 came
    have lexicalInside := (lexical.behind.of_suffix (List.suffix_append list _)).behind
    have enclosedElsewhere := readArguments_elsewhere balanced closes lexicalInside enclosed
    rw [(enclosedElsewhere []).1,
      bind_of_ok (readSecondGrouping_written (some grouping) single)] at finished
    cases finished
    refine ⟨rfl, grouping, aggregated, groupedElsewhere, fun other => ?_, rfl⟩
    simpa using (enclosedElsewhere other).2
  · rintro ⟨rfl, grouping, aggregated, grouped, enclosed, rfl⟩
    have enclosedHere := enclosed left
    rw [List.append_assoc] at enclosedHere
    refine (bind_of_ok (grouped _)).trans ?_
    rw [bind_of_ok (expect_cons opens (by decide) _ _)]
    refine (bind_of_ok enclosedHere).trans ?_
    rw [bind_of_ok (readSecondGrouping_written (some grouping) single)]
    rfl

/-- With the grouping behind the parentheses. -/
theorem readAggregate_behind
    (lexical : Lexical (opening :: (inside ++ closing :: word :: (list ++ after)))) :
    readAggregate (readLevels levels) op
        (opening :: (inside ++ closing :: word :: (list ++ after))) = (.ok expr, left) ↔
      left = after ∧ IsAggregation levels op (word :: list) (inside ++ [closing]) expr := by
  have noGrouping : opening.beginsGrouping = false :=
    beginsGrouping_of_kind_ne (by simp [opens])
  have none : readGrouping (opening :: (inside ++ closing :: word :: (list ++ after))) = _ :=
    readGrouping_written none noGrouping
  rw [readAggregate_eq, bind_of_ok none, bind_of_ok (expect_cons opens (by decide) _ _)]
  constructor
  · intro came
    obtain ⟨aggregated, middle, enclosed, came⟩ := bind_eq_ok.1 came
    have enclosedElsewhere := readArguments_elsewhere balanced closes lexical.behind enclosed
    rw [(enclosedElsewhere []).1] at came
    obtain ⟨read, last, grouped, finished⟩ := bind_eq_ok.1 came
    have lexicalList := (lexical.behind.of_suffix (List.suffix_append inside _)).behind.behind
    obtain ⟨rfl, grouping, rfl, groupedElsewhere⟩ :=
      readGrouping_elsewhere begins isList lexicalList grouped
    cases finished
    refine ⟨rfl, grouping, aggregated, groupedElsewhere, fun other => ?_, rfl⟩
    simpa using (enclosedElsewhere other).2
  · rintro ⟨rfl, grouping, aggregated, grouped, enclosed, rfl⟩
    have enclosedHere := enclosed (word :: (list ++ left))
    rw [List.append_assoc] at enclosedHere
    refine (bind_of_ok enclosedHere).trans ?_
    exact bind_of_ok (grouped left)

end

/-- Where an aggregation goes on as before behind its opening parenthesis it is the same. -/
theorem readAggregate_congr {clause behind other : List Token} {expr : Expr}
    (isGrouping : IsGrouping clause) (opens : opening.kind = .leftParen)
    (lexical : Lexical (clause ++ opening :: behind))
    (same : ∀ aggregated left,
      readArguments (readLevels levels) op behind = (.ok aggregated, left) →
        readArguments (readLevels levels) op other = (.ok aggregated, left))
    (came : readAggregate (readLevels levels) op (clause ++ opening :: behind) =
      (.ok expr, left)) :
    readAggregate (readLevels levels) op (clause ++ opening :: other) = (.ok expr, left) := by
  rw [readAggregate_eq] at came ⊢
  obtain ⟨before, middle, grouped, came⟩ := bind_eq_ok.1 came
  -- The grouping, if there is one, ends in front of the parenthesis.
  obtain rfl : middle = opening :: behind := by
    rcases isGrouping with rfl | ⟨word, list, rfl, begins, isList⟩
    · have noGrouping : opening.beginsGrouping = false :=
        beginsGrouping_of_kind_ne (by simp [opens])
      cases grouped.symm.trans (readGrouping_written none noGrouping)
      rfl
    · exact (readGrouping_elsewhere begins isList lexical.behind grouped).1
  have moved : readGrouping (clause ++ opening :: other) = (.ok before, opening :: other) :=
    (framed_readGrouping : readGrouping.Framed .exact).framed grouped rfl
  rw [bind_of_ok (expect_cons opens (by decide) _ _)] at came
  obtain ⟨aggregated, middle, enclosed, finished⟩ := bind_eq_ok.1 came
  rw [bind_of_ok moved, bind_of_ok (expect_cons opens (by decide) _ _),
    bind_of_ok (same aggregated middle enclosed)]
  exact finished

end

/-! ## Rewordings -/

/-- Behind the first token the same is said in two ways.  A grouping moves from the front of the
parentheses behind them, or a list gets a comma behind its last item. -/
inductive Rewording : Token → List Token → List Token → Prop
  | grouping {operator word opening closing : Token} {list inside after : List Token}
    (aggregates : operator.aggregates) (begins : word.beginsGrouping = true)
    (labels : IsLabelList list) (opens : opening.kind = .leftParen) (balanced : Balanced inside)
    (closes : closing.kind = .rightParen) (single : (first after).beginsGrouping = false) :
    Rewording operator (word :: (list ++ opening :: (inside ++ closing :: after)))
      (opening :: (inside ++ closing :: word :: (list ++ after)))
  | aggregatedComma {operator opening comma closing : Token} {clause inside after : List Token}
    (aggregates : operator.aggregates) (grouping : IsGrouping clause)
    (opens : opening.kind = .leftParen) (balanced : Balanced inside) (ends : EndsWithItem inside)
    (separates : comma.kind = .comma) (closes : closing.kind = .rightParen) :
    Rewording operator (clause ++ opening :: (inside ++ closing :: after))
      (clause ++ opening :: (inside ++ comma :: closing :: after))
  | labelComma {word opening comma closing : Token} {inside after : List Token}
    (hasLabels : word.hasLabels = true) (labels : IsLabelList (opening :: (inside ++ [closing])))
    (ends : EndsWithItem inside) (separates : comma.kind = .comma) :
    Rewording word (opening :: (inside ++ closing :: after))
      (opening :: (inside ++ comma :: closing :: after))
  | matcherComma {opening comma closing : Token} {inside after : List Token}
    (matchers : IsMatcherList (opening :: (inside ++ [closing]))) (ends : EndsWithItem inside)
    (separates : comma.kind = .comma) :
    Rewording opening (inside ++ closing :: after) (inside ++ comma :: closing :: after)

/-- Both ways fit in the place of the other one. -/
theorem Rewording.fits {head : Token} {old new : List Token} (rewording : Rewording head old new)
    (lexical : Lexical (head :: old)) (lexicalToo : Lexical (head :: new)) :
    Swap.Fits ⟨head, old, new⟩ ∧ Swap.Fits ⟨head, new, old⟩ := by
  cases rewording with
  | grouping aggregates begins labels opens balanced closes single =>
    obtain ⟨ident, known⟩ := aggregates
    obtain ⟨op, known⟩ := Option.isSome_iff_exists.1 known
    -- In either order the tokens are the same aggregation.
    have same : ∀ levels expr left,
        readAggregate (readLevels levels) op _ = (.ok expr, left) ↔
          readAggregate (readLevels levels) op _ = (.ok expr, left) := fun levels expr left =>
      (readAggregate_before begins labels opens balanced closes single lexical.behind).trans
        (readAggregate_behind begins labels opens balanced closes lexicalToo.behind).symm
    exact ⟨fits_of_aggregates ident known (.inr begins) (.inl opens)
        fun levels expr left => (same levels expr left).1,
      fits_of_aggregates ident known (.inl opens) (.inr begins)
        fun levels expr left => (same levels expr left).2⟩
  | @aggregatedComma opening comma closing clause inside after aggregates grouping opens balanced
      ends separates closes =>
    obtain ⟨ident, known⟩ := aggregates
    obtain ⟨op, known⟩ := Option.isSome_iff_exists.1 known
    have goesOn : ∀ behind, (first (clause ++ opening :: behind)).goesOn := by
      intro behind
      rcases grouping with rfl | ⟨word, list, rfl, begins, -⟩
      · exact .inl opens
      · exact .inr begins
    have lexicalInside := (lexical.behind.of_suffix (List.suffix_append clause _)).behind
    have same : ∀ levels aggregated left,
        readArguments (readLevels levels) op (inside ++ closing :: after) =
            (.ok aggregated, left) ↔
          readArguments (readLevels levels) op (inside ++ comma :: closing :: after) =
            (.ok aggregated, left) := fun levels aggregated left =>
      readArguments_comma balanced ends separates closes lexicalInside
    exact ⟨fits_of_aggregates ident known (goesOn _) (goesOn _) fun levels expr left =>
        readAggregate_congr grouping opens lexical.behind fun aggregated left =>
          (same levels aggregated left).1,
      fits_of_aggregates ident known (goesOn _) (goesOn _) fun levels expr left =>
        readAggregate_congr grouping opens lexicalToo.behind fun aggregated left =>
          (same levels aggregated left).2⟩
  | labelComma hasLabels labels ends separates =>
    obtain ⟨opens, -⟩ := Enclosed.kinds labels
    exact ⟨fits_of_hasLabels hasLabels opens opens fun place found left =>
        (readLabels_comma labels ends separates lexical.behind).1,
      fits_of_hasLabels hasLabels opens opens fun place found left =>
        (readLabels_comma labels ends separates lexical.behind).2⟩
  | matcherComma matchers ends separates =>
    obtain ⟨opens, -⟩ := Enclosed.kinds matchers
    exact ⟨fits_of_leftBrace opens fun found left =>
        (readMatchers_comma matchers ends separates lexical).1,
      fits_of_leftBrace opens fun found left =>
        (readMatchers_comma matchers ends separates lexical).2⟩

/-! ## Texts -/

theorem Lexical.of_lexeme {others : List Token} (lexical : Lexical tokens)
    (same : others.map Token.lexeme = tokens.map Token.lexeme) : Lexical others := by
  intro token member
  have among : token.lexeme ∈ tokens.map Token.lexeme := by
    rw [← same]
    exact List.mem_map_of_mem member
  obtain ⟨other, here, equal⟩ := List.mem_map.1 among
  rw [← equal]
  exact lexical other here

theorem kinds_of_lexeme {others : List Token}
    (same : others.map Token.lexeme = tokens.map Token.lexeme) :
    others.map Token.kind = tokens.map Token.kind := by
  have kinds := congrArg (List.map Lexeme.kind) same
  simpa [List.map_map, Function.comp_def, Token.lexeme] using kinds

/-- Two texts whose tokens are the same but for a rewording stand for the same tree, or both for
none. -/
theorem rewordings_agree {input other : String} {head : Token} {before old new others : List Token}
    (lexed : tokenize input = .ok (before ++ head :: old))
    (lexedToo : tokenize other = .ok others)
    (written : others.map Token.lexeme = (before ++ head :: new).map Token.lexeme)
    (rewording : Rewording head old new) (tree : Expr) :
    Expr.parse input = .ok tree ↔ Expr.parse other = .ok tree := by
  have lexical := lexical_tokenize lexed
  have lexicalToo : Lexical (before ++ head :: new) :=
    (lexical_tokenize lexedToo).of_lexeme written.symm
  have ends := endsOnce_of_tokenize lexed
  have endsToo : EndsOnce (before ++ head :: new) :=
    (endsOnce_of_tokenize lexedToo).of_map (kinds_of_lexeme written.symm)
  obtain ⟨fits, fitsToo⟩ := rewording.fits (lexical.of_suffix (List.suffix_append before _))
    (lexicalToo.of_suffix (List.suffix_append before _))
  rw [parse_eq_ok, parse_eq_ok]
  constructor
  · rintro ⟨tokens, lexedHere, came⟩
    obtain rfl := Except.ok.inj (lexed.symm.trans lexedHere)
    have moved := readWhole_of_swap fits lexical ends came
    exact ⟨others, lexedToo, readWhole_of_lexeme written (Prod.ext moved rfl)⟩
  · rintro ⟨tokens, lexedHere, came⟩
    obtain rfl := Except.ok.inj (lexedToo.symm.trans lexedHere)
    have placed : (readWhole (before ++ head :: new)).1 = .ok tree :=
      readWhole_of_lexeme written.symm (Prod.ext came rfl)
    exact ⟨_, lexed, readWhole_of_swap fitsToo lexicalToo endsToo placed⟩

/-- The outer grouping moves, and a comma is put in front of it; words of the grammar are labels. -/
theorem rewordings_agree_nested :
    let grouped := "SUM by (on) (max(a) without (by,))"
    let moved := "SUM(max(a) without (by,)) by (on)"
    let closed := "SUM(max(a) without (by,),) by (on)"
    ∃ tree, tree.render = "sum by (on) (max without (by) (a))" ∧
      Expr.parse grouped = .ok tree ∧ Expr.parse moved = .ok tree ∧
      Expr.parse closed = .ok tree := by
  intro grouped moved closed
  let labels : List Token := [⟨.leftParen, "(", 7⟩, ⟨.ident, "on", 8⟩, ⟨.rightParen, ")", 10⟩]
  let inside : List Token :=
    [⟨.ident, "max", 13⟩, ⟨.leftParen, "(", 16⟩, ⟨.ident, "a", 17⟩, ⟨.rightParen, ")", 18⟩,
      ⟨.ident, "without", 20⟩, ⟨.leftParen, "(", 28⟩, ⟨.ident, "by", 29⟩, ⟨.comma, ",", 31⟩,
      ⟨.rightParen, ")", 32⟩]
  let insideMoved : List Token :=
    [⟨.ident, "max", 4⟩, ⟨.leftParen, "(", 7⟩, ⟨.ident, "a", 8⟩, ⟨.rightParen, ")", 9⟩,
      ⟨.ident, "without", 11⟩, ⟨.leftParen, "(", 19⟩, ⟨.ident, "by", 20⟩, ⟨.comma, ",", 22⟩,
      ⟨.rightParen, ")", 23⟩]
  let clauseMoved : List Token :=
    [⟨.ident, "by", 26⟩, ⟨.leftParen, "(", 29⟩, ⟨.ident, "on", 30⟩, ⟨.rightParen, ")", 32⟩,
      ⟨.eof, "", 33⟩]
  have lexed : tokenize grouped = .ok (([] : List Token) ++ ⟨.ident, "SUM", 0⟩ ::
      ⟨.ident, "by", 4⟩ :: (labels ++ ⟨.leftParen, "(", 12⟩ ::
        (inside ++ ⟨.rightParen, ")", 33⟩ :: [⟨.eof, "", 34⟩]))) := by
    decide +kernel
  have lexedMoved : tokenize moved = .ok (([] : List Token) ++ ⟨.ident, "SUM", 0⟩ ::
      (([] : List Token) ++ ⟨.leftParen, "(", 3⟩ ::
        (insideMoved ++ ⟨.rightParen, ")", 24⟩ :: clauseMoved))) := by
    decide +kernel
  have lexedClosed : tokenize closed = .ok
      [⟨.ident, "SUM", 0⟩, ⟨.leftParen, "(", 3⟩, ⟨.ident, "max", 4⟩, ⟨.leftParen, "(", 7⟩,
        ⟨.ident, "a", 8⟩, ⟨.rightParen, ")", 9⟩, ⟨.ident, "without", 11⟩, ⟨.leftParen, "(", 19⟩,
        ⟨.ident, "by", 20⟩, ⟨.comma, ",", 22⟩, ⟨.rightParen, ")", 23⟩, ⟨.comma, ",", 24⟩,
        ⟨.rightParen, ")", 25⟩, ⟨.ident, "by", 27⟩, ⟨.leftParen, "(", 30⟩, ⟨.ident, "on", 31⟩,
        ⟨.rightParen, ")", 33⟩, ⟨.eof, "", 34⟩] := by
    decide +kernel
  have aggregates : Token.aggregates ⟨.ident, "SUM", 0⟩ := ⟨rfl, by decide +kernel⟩
  have isList : IsLabelList labels :=
    ⟨_, [⟨.ident, "on", 8⟩], _, rfl, rfl, rfl, ["on"], .single ⟨_, rfl, rfl, rfl⟩⟩
  have ends : EndsWithItem insideMoved :=
    ⟨insideMoved.dropLast, ⟨.rightParen, ")", 23⟩, rfl, by decide⟩
  have separates : (⟨.comma, ",", 24⟩ : Token).kind = .comma := rfl
  have agree := rewordings_agree lexed lexedMoved (by rfl) (.grouping aggregates
    (by decide +kernel) isList rfl (by decide) rfl (by decide +kernel))
  have agreeClosed := rewordings_agree lexedMoved lexedClosed (by rfl)
    (.aggregatedComma aggregates (.inl rfl) rfl (by decide) ends separates rfl)
  have rendered : (Expr.parse grouped).toOption.map Expr.render =
      some "sum by (on) (max without (by) (a))" := by
    decide +kernel
  obtain ⟨tree, computed, written⟩ := Option.map_eq_some_iff.1 rendered
  have read := eq_ok_of_toOption computed
  have readMoved := (agree tree).1 read
  exact ⟨tree, written, read, readMoved, (agreeClosed tree).1 readMoved⟩

end RuleAtlas.Query
