import RuleAtlas.Proofs.Query.Indexed.Following

/-! # Every reader follows its parse

The readers of the grammar, in the order in which they are built on each other.  Readers that
read expressions inside of others follow where the reader of those expressions does, one
deeper for one level less. -/

namespace RuleAtlas.Query

variable {input : Input} {depth pos : Nat}

namespace Run

variable {β : Type}

/-- The token behind the word is looked up where the word may begin an aggregation. -/
theorem aggregationAhead_bind {text : String} {following : Option AggregateOp → Run β}
    (there : pos + 1 < input.tokens.length) :
    (aggregationAhead? text >>= following) input ⟨pos, depth⟩ =
      following (aggregation? text input.tokens[pos + 1]) input ⟨pos, depth⟩ := by
  unfold aggregationAhead? aggregation?
  cases AggregateOp.ofWord? text with
  | none =>
    rw [ite_self]
    rfl
  | some op =>
    dsimp only
    rw [bind_assoc, kindAhead_bind there]
    by_cases word : input.tokens[pos + 1].kind = .ident
    · rw [if_pos word, bind_assoc, ahead_bind there]
      rfl
    · -- No other kind of token goes on an aggregation but a parenthesis.
      have noGrouping : input.tokens[pos + 1].beginsGrouping = false := by
        simp [Token.beginsGrouping, isWord_of_kind_ne word]
      rw [if_neg word, noGrouping]
      rfl

/-- Reads an expression behind the word it begins with, given the token behind the word too. -/
def readBehindWord (inner : Nat → Run Expr) (following word : Token) : Run Expr :=
  match numberWord? word.text with
  | some number => pure (.number number)
  | none =>
    match aggregation? word.text following with
    | some op => readAggregate inner op
    | none =>
      if following.kind = .leftParen then readCall inner word.text
      else readSelector (some word.text)

theorem readWordExpr_eq {inner : Nat → Run Expr} (inRange : pos < input.tokens.length)
    (noEnd : input.tokens[pos].kind ≠ .eof) (there : pos + 1 < input.tokens.length) :
    readWordExpr inner input ⟨pos, depth⟩ =
      readBehindWord inner input.tokens[pos + 1] input.tokens[pos] input ⟨pos + 1, depth⟩ := by
  rw [readWordExpr, here_bind inRange, readBehindWord]
  cases numberWord? input.tokens[pos].text with
  | some number => exact take_bind inRange noEnd
  | none =>
    dsimp only
    rw [aggregationAhead_bind there]
    cases aggregation? input.tokens[pos].text input.tokens[pos + 1] with
    | some op => exact take_bind inRange noEnd
    | none =>
      dsimp only
      rw [kindAhead_bind there]
      split
      · exact take_bind inRange noEnd
      · exact take_bind inRange noEnd

end Run

namespace Follows

theorem numberOf (token : Token) : Follows input depth (numberOf token) (Run.numberOf token) := by
  unfold Query.numberOf Run.numberOf
  cases numberValue? token.text.toList with
  | none => exact fails (.badNumber token.text)
  | some number => exact same number

variable (sound : input.Sound)
include sound

/-! ## Labels and durations -/

theorem readLabel (place : Place) :
    Follows input depth (readLabel place) (Run.readLabel place) :=
  behind (expect sound .ident place) fun token => same token.text

theorem readLabels (place : Place) :
    Follows input depth (readLabels place) (Run.readLabels place) := by
  refine behindExpected sound .leftParen place ?_
  refine listed sound (readLabel sound place) fun labels => ?_
  exact behindExpected sound .rightParen place (same labels)

theorem readDurationToken (place : Place) :
    Follows input depth (readDurationToken place) (Run.readDurationToken place) :=
  behind (expect sound .duration place) fun _ => lift _

/-! ## Selectors -/

theorem readMatcher : Follows input depth readMatcher Run.readMatcher := by
  refine behind (readLabel sound .matcherLabel) fun label => behind peek fun token => ?_
  cases matchKind? token.kind with
  | none => exact unexpected .matcherOperator
  | some kind =>
    refine behindNext sound (behind (expect sound .string .matcherText) fun text => ?_)
    exact lift _

theorem readMatchers : Follows input depth readMatchers Run.readMatchers := by
  refine behindExpected sound .leftBrace .matchers ?_
  refine listed sound (readMatcher sound) fun matchers => ?_
  exact behindExpected sound .rightBrace .matchersEnd (same matchers)

theorem readSelector (name : Option String) :
    Follows input depth (readSelector name) (Run.readSelector name) := by
  refine choice (readMatchers sound) (same []) fun matchers => ?_
  dsimp only
  split
  · exact fails .nameTwice
  · split
    · exact fails .selectsEverything
    · exact same _

/-! ## Ranges and clauses in time -/

theorem readRange (expr : Expr) : Follows input depth (readRange expr) (Run.readRange expr) := by
  refine behind (readDurationToken sound .range) fun range => ?_
  refine behind (accept sound .rightBracket) fun taken => ?_
  cases taken with
  | true => exact lift _
  | false =>
    refine behindExpected sound .colon .subqueryColon ?_
    refine choice (map some (readDurationToken sound .subqueryStep)) (same none) fun step => ?_
    exact behindExpected sound .rightBracket .subqueryEnd (lift _)

theorem readOffset : Follows input depth readOffset Run.readOffset :=
  behind (accept sound .sub) fun _ => behind (readDurationToken sound .offset) fun _ => same _

theorem readRangeBound (bound : Instant) :
    Follows input depth (readRangeBound bound) (Run.readRangeBound bound) := by
  refine behindNext sound (behindExpected sound .leftParen .instant ?_)
  exact behindExpected sound .rightParen .instant (same bound)

theorem readSign : Follows input depth readSign Run.readSign := by
  refine behind (accept sound .sub) fun negative => ?_
  cases negative with
  | true => exact same true
  | false => exact behind (accept sound .add) fun _ => same false

theorem readInstant : Follows input depth readInstant Run.readInstant := by
  refine behind peek fun token => ?_
  split
  · exact readRangeBound sound .rangeStart
  · split
    · exact readRangeBound sound .rangeEnd
    · refine behind (readSign sound) fun negative => ?_
      refine behind (expect sound .number .instantTimestamp) fun token => ?_
      refine behind (numberOf token) fun number => ?_
      split
      · exact same _
      · exact fails .timestampOutOfBounds

theorem readPostfix (expr : Expr) :
    Follows input depth (readPostfix expr) (Run.readPostfix expr) := by
  refine behind (accept sound .leftBracket) fun bracket => ?_
  cases bracket with
  | true => exact map _ (readRange sound expr)
  | false =>
    refine behind (acceptWord sound "offset") fun word => ?_
    cases word with
    | true => exact behind (readOffset sound) fun offset => map _ (lift _)
    | false =>
      refine behind (accept sound .atSign) fun symbol => ?_
      cases symbol with
      | true => exact behind (readInstant sound) fun instant => map _ (lift _)
      | false => exact same _

theorem readPostfixes (expr : Expr) :
    Follows input depth (readPostfixes expr) (Run.readPostfixes expr) :=
  loop sound advances_readPostfix (readPostfix sound) expr

/-! ## Clauses of operators -/

theorem readBool (op : BinaryOp) : Follows input depth (readBool op) (Run.readBool op) := by
  refine behind peek fun token => ?_
  split
  · split
    · exact behindNext sound (same true)
    · exact fails .boolWithoutComparison
  · exact same false

theorem readTakenLabels : Follows input depth readTakenLabels Run.readTakenLabels :=
  byKind (readLabels sound .groupModifier) (same [])

theorem readGroupModifier (op : BinaryOp) :
    Follows input depth (readGroupModifier op) (Run.readGroupModifier op) := by
  refine behind peek fun token => ?_
  split
  · split
    · exact fails (.groupingOfSetOperator op)
    · exact behindNext sound (behind (readTakenLabels sound) fun labels => same _)
  · exact same none

theorem readMatchingLabels : Follows input depth readMatchingLabels Run.readMatchingLabels := by
  refine behind (acceptWord sound "on") fun onWord => ?_
  cases onWord with
  | true => exact map _ (readLabels sound .onLabels)
  | false =>
    refine behind (acceptWord sound "ignoring") fun ignoringWord => ?_
    cases ignoringWord with
    | true => exact map _ (readLabels sound .ignoringLabels)
    | false => exact same none

theorem readMatching (op : BinaryOp) :
    Follows input depth (readMatching op) (Run.readMatching op) := by
  refine behind (readMatchingLabels sound) fun labels => ?_
  cases labels with
  | none => exact same none
  | some labels => exact behind (readGroupModifier sound op) fun group => same _

theorem readClause (op : BinaryOp) : Follows input depth (readClause op) (Run.readClause op) :=
  behind (readBool sound op) fun _ => behind (readMatching sound op) fun _ => same _

/-! ## Calls and aggregations -/

theorem readGrouping : Follows input depth readGrouping Run.readGrouping := by
  refine behind (acceptWord sound "by") fun byWord => ?_
  cases byWord with
  | true => exact map _ (readLabels sound .grouping)
  | false =>
    refine behind (acceptWord sound "without") fun withoutWord => ?_
    cases withoutWord with
    | true => exact map _ (readLabels sound .grouping)
    | false => exact same none

theorem readSecondGrouping (before : Option Grouping) :
    Follows input depth (readSecondGrouping before) (Run.readSecondGrouping before) := by
  cases before with
  | none => exact readGrouping sound
  | some grouping =>
    refine behind peek fun token => ?_
    split
    · exact fails .groupingTwice
    · exact same _

section
variable {inner : Nat → Parse Expr} {nested : Nat → Run Expr}
  (within : Follows input depth (inner 0) (nested 0))
include within

theorem readAggregated (op : AggregateOp) :
    Follows input depth (readAggregated inner op) (Run.readAggregated nested op) := by
  refine behind within fun first => ?_
  split
  · refine behindExpected sound .comma .aggregationParameter ?_
    exact behind within fun body => same _
  · exact same _

theorem readAggregate (op : AggregateOp) :
    Follows input depth (readAggregate inner op) (Run.readAggregate nested op) := by
  refine behind (readGrouping sound) fun before => ?_
  refine behindExpected sound .leftParen .aggregation ?_
  refine byKind (fails (.noAggregated op)) (behind (readAggregated sound within op) fun read => ?_)
  refine behind (accept sound .comma) fun _ => behindExpected sound .rightParen .aggregation ?_
  exact behind (readSecondGrouping sound before) fun grouping => same _

theorem readCall (name : String) :
    Follows input depth (readCall inner name) (Run.readCall nested name) := by
  unfold Query.readCall Run.readCall
  cases function? name with
  | none => exact fails (.unknownFunction name)
  | some entry =>
    refine behindExpected sound .leftParen .call ?_
    have arguments : Follows input depth (Parse.separated (inner 0) none)
        (Run.listed (nested 0) none) :=
      fun pos inRange => separated sound within inRange (Option.some_ne_none _)
    refine choice (same []) arguments fun arguments => ?_
    refine behindExpected sound .rightParen .callArguments ?_
    split
    · exact same _
    · exact fails (.wrongArgumentCount entry.name arguments.length)

/-! ## Primary expressions -/

theorem readBehindWord (following word : Token) :
    Follows input depth (readBehindWord inner following word)
      (Run.readBehindWord nested following word) := by
  unfold Query.readBehindWord Run.readBehindWord
  cases numberWord? word.text with
  | some number => exact same (Expr.number number)
  | none =>
    cases aggregation? word.text following with
    | some op => exact readAggregate sound within op
    | none =>
      dsimp only
      split
      · exact readCall sound within word.text
      · exact readSelector sound (some word.text)

/-- In front of a word there is a token behind it to look at. -/
theorem readWordExpr (inRange : pos < input.tokens.length)
    (word : input.tokens[pos].kind = .ident) :
    FollowsAt input (readWordExpr inner) (Run.readWordExpr nested) ⟨pos, depth⟩ := by
  have noEnd : input.tokens[pos].kind ≠ .eof := by simp [word]
  have there := sound.succ_lt inRange noEnd
  have behind := readBehindWord sound within input.tokens[pos + 1] input.tokens[pos]
  refine .moved (behind (pos + 1) there) (Nat.le_succ pos) ?_
    (Run.readWordExpr_eq inRange noEnd there)
  rw [readWordExpr_eq, List.drop_eq_getElem_cons inRange, Parse.peekSecond_bind,
    Parse.bind_of_ok (Parse.next_cons noEnd _), List.drop_one, List.tail_cons, first_drop there]

theorem readParen : Follows input depth (readParen inner) (Run.readParen nested) :=
  behind within fun _ => behindExpected sound .rightParen .parenthesis (same _)

theorem readPrimary : Follows input depth (readPrimary inner) (Run.readPrimary nested) := by
  intro pos inRange
  refine .peeked inRange ?_
  generalize here : input.tokens[pos].kind = kind
  cases kind with
  | number => exact behind (next sound) (fun token => map _ (numberOf token)) pos inRange
  | string => exact behind (next sound) (fun token => same _) pos inRange
  | leftParen => exact behindNext sound (readParen sound within) pos inRange
  | leftBrace => exact readSelector sound none pos inRange
  | ident => exact readWordExpr sound within inRange here
  | _ => exact unexpected .expression pos inRange

end

/-! ## Operators and levels -/

section
variable {inner : Nat → Parse Expr} {nested : Nat → Run Expr}
  (within : ∀ least, Follows input depth (inner least) (nested least))
include within

theorem readUnary : Follows input depth (readUnary inner) (Run.readUnary nested) := by
  refine behind peek fun token => ?_
  cases unaryOp? token.kind with
  | some op => exact behindNext sound (map _ (within signPrecedence))
  | none => exact behind (readPrimary sound (within 0)) (readPostfixes sound)

theorem readOperation (least : Nat) (left : Expr) :
    Follows input depth (readOperation inner least left) (Run.readOperation nested least left) := by
  refine behind peek fun token => ?_
  cases (binaryOp? token).filter (least ≤ ·.precedence) with
  | none => exact same _
  | some op =>
    refine behindNext sound (behind (readClause sound op) fun clause => ?_)
    exact behind (within op.rightPrecedence) fun right => same _

theorem readOperands (leaves : ∀ least, leaving.Same (inner least) (inner least)) (least : Nat) :
    Follows input depth (readOperands inner least) (Run.readOperands nested least) :=
  behind (readUnary sound within) fun left =>
    loop sound (advances_readOperation leaves) (readOperation sound within least) left

end

/-- An expression inside of so many others has as many levels less. -/
theorem readNested {steps : Nat} (shallow : depth ≤ maxLevels) (enough : maxLevels < steps + depth)
    (least : Nat) :
    Follows input depth (readLevels (maxLevels - depth) least) (Run.readNested steps least) := by
  -- By the number of steps; the depth of the run and the levels that the parse has left add up
  -- to the same number all the way down.
  induction steps generalizing depth least with
  | zero => omega
  | succ steps inductionHypothesis =>
    intro pos inRange
    by_cases deep : maxLevels ≤ depth
    · have none : maxLevels - depth = 0 := by omega
      rw [none]
      refine .moved (fails .nestedTooDeeply pos inRange) (Nat.le_refl pos) rfl ?_
      rw [Run.readNested, Run.bind_apply, Run.depth]
      dsimp only
      rw [if_pos deep]
    · obtain ⟨levels, more⟩ : ∃ levels, maxLevels - depth = levels + 1 :=
        ⟨maxLevels - depth - 1, by omega⟩
      have fewer : maxLevels - (depth + 1) = levels := by omega
      have within : ∀ least, Follows input (depth + 1) (readLevels levels least)
          (Run.readNested steps least) := by
        intro least
        rw [← fewer]
        exact inductionHypothesis (by omega) (by omega) least
      have leaves : ∀ least, leaving.Same (readLevels levels least) (readLevels levels least) :=
        Relation.readLevels levels
      rw [more]
      refine .moved (deeper (readOperands sound within leaves least) pos inRange) (Nat.le_refl pos)
        rfl ?_
      rw [Run.readNested, Run.bind_apply, Run.depth]
      dsimp only
      rw [if_neg deep]

theorem readExpr : Follows input 0 readExpr Run.readExpr := by
  have enough := sound.steps
  exact readNested sound (Nat.zero_le maxLevels) (by omega) 0

end Follows

end RuleAtlas.Query
