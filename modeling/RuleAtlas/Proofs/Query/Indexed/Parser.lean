import RuleAtlas.Proofs.Query.Indexed.Machine

/-! # The grammar on the parser with an index

Every parse of the grammar as a run.  Only the word at the head of an expression is read in
another order: the run looks at the token behind it, and takes the word when it is clear what
it begins. -/

namespace RuleAtlas.Query.Run

open Parse (Round)

/-! ## Labels, numbers and durations -/

def readLabel (place : Place) : Run String := do
  let token ← expect .ident place
  pure token.text

def readLabels (place : Place) : Run (List String) := do
  let _ ← expect .leftParen place
  let labels ← listed (readLabel place) (some .rightParen)
  let _ ← expect .rightParen place
  pure labels

def numberOf (token : Token) : Run Binary64 :=
  match numberValue? token.text.toList with
  | some number => value number
  | none => refuse (.badNumber token.text)

def readDurationToken (place : Place) : Run Duration := do
  let token ← expect .duration place
  settle ((Duration.parse token.text).mapError .badDuration)

/-! ## Selectors -/

def readMatcher : Run LabelMatcher := do
  let label ← readLabel .matcherLabel
  match matchKind? (← here).kind with
  | none => unexpected .matcherOperator
  | some kind =>
    let _ ← take
    let text ← expect .string .matcherText
    settle ((LabelMatcher.make label kind text.text).mapError .badMatcher)

def readMatchers : Run (List LabelMatcher) := do
  let _ ← expect .leftBrace .matchers
  let matchers ← listed readMatcher (some .rightBrace)
  let _ ← expect .rightBrace .matchersEnd
  pure matchers

def readSelector (name : Option String) : Run Expr := do
  let matchers ← if (← here).kind = .leftBrace then readMatchers else pure []
  if name.isSome && matchers.any (·.label == seriesNameLabel) then refuse .nameTwice
  else if name.isNone && matchers.all LabelMatcher.acceptsEmpty then refuse .selectsEverything
  else pure (.vector ⟨name, matchers, .none⟩)

/-! ## Ranges and clauses in time -/

def readRange (expr : Expr) : Run Expr := do
  let range ← readDurationToken .range
  if ← accept .rightBracket then settle (applyRange expr range)
  else
    let _ ← expect .colon .subqueryColon
    let step ←
      if (← here).kind = .duration then some <$> readDurationToken .subqueryStep else pure none
    let _ ← expect .rightBracket .subqueryEnd
    settle (applySubquery expr range step)

def readOffset : Run Offset := do
  let negative ← accept .sub
  let duration ← readDurationToken .offset
  pure ⟨negative, duration⟩

def readRangeBound (bound : Instant) : Run Instant := do
  let _ ← take
  let _ ← expect .leftParen .instant
  let _ ← expect .rightParen .instant
  pure bound

def readSign : Run Bool := do
  if ← accept .sub then pure true
  else
    let _ ← accept .add
    pure false

def readInstant : Run Instant := do
  let token ← here
  if token.isWord "start" then readRangeBound .rangeStart
  else if token.isWord "end" then readRangeBound .rangeEnd
  else
    let negative ← readSign
    let number ← numberOf (← expect .number .instantTimestamp)
    if number.isFinite then pure (.timestamp (if negative then number.neg else number))
    else refuse .timestampOutOfBounds

def readPostfix (expr : Expr) : Run (Round Expr) := do
  if ← accept .leftBracket then .again <$> readRange expr
  else if ← acceptWord "offset" then
    let offset ← readOffset
    .again <$> settle (applyOffset expr offset)
  else if ← accept .atSign then
    let instant ← readInstant
    .again <$> settle (applyInstant expr instant)
  else pure (.done expr)

def readPostfixes (expr : Expr) : Run Expr := loop readPostfix expr

/-! ## Calls and aggregations -/

def readCall (inner : Nat → Run Expr) (name : String) : Run Expr :=
  match function? name with
  | none => refuse (.unknownFunction name)
  | some entry => do
    let _ ← expect .leftParen .call
    let arguments ← if (← here).kind = .rightParen then pure [] else listed (inner 0) none
    let _ ← expect .rightParen .callArguments
    if entry.accepts arguments.length then pure (.call name arguments)
    else refuse (.wrongArgumentCount entry.name arguments.length)

def readGrouping : Run (Option Grouping) := do
  if ← acceptWord "by" then (fun labels => some (.by labels)) <$> readLabels .grouping
  else if ← acceptWord "without" then
    (fun labels => some (.without labels)) <$> readLabels .grouping
  else pure none

def readAggregated (inner : Nat → Run Expr) (op : AggregateOp) : Run Aggregated := do
  let first ← inner 0
  if op.takesParameter then
    let _ ← expect .comma .aggregationParameter
    let body ← inner 0
    pure ⟨some first, body⟩
  else pure ⟨none, first⟩

def readSecondGrouping (before : Option Grouping) : Run (Option Grouping) := do
  match before with
  | none => readGrouping
  | some grouping =>
    if (← here).beginsGrouping then refuse .groupingTwice else pure (some grouping)

def readAggregate (inner : Nat → Run Expr) (op : AggregateOp) : Run Expr := do
  let before ← readGrouping
  let _ ← expect .leftParen .aggregation
  if (← here).kind = .rightParen then refuse (.noAggregated op)
  else
    let aggregated ← readAggregated inner op
    let _ ← accept .comma
    let _ ← expect .rightParen .aggregation
    let grouping ← readSecondGrouping before
    pure (.aggregate op aggregated.parameter aggregated.body grouping)

/-! ## Primary expressions -/

/-- The aggregation that a word stands for, if the token behind it goes on an aggregation; that
token is looked up only where it is a word. -/
def aggregationAhead? (text : String) : Run (Option AggregateOp) :=
  match AggregateOp.ofWord? text with
  | none => pure none
  | some op => do
    let kind ← kindAhead 1
    let groups ←
      if kind = .ident then do
        let keyword ← ahead 1
        pure keyword.beginsGrouping
      else pure false
    pure (if kind = .leftParen || groups then some op else none)

def readWordExpr (inner : Nat → Run Expr) : Run Expr := do
  let word ← here
  match numberWord? word.text with
  | some number =>
    let _ ← take
    pure (.number number)
  | none =>
    match ← aggregationAhead? word.text with
    | some op =>
      let _ ← take
      readAggregate inner op
    | none =>
      if (← kindAhead 1) = .leftParen then
        let _ ← take
        readCall inner word.text
      else
        let _ ← take
        readSelector (some word.text)

def readParen (inner : Nat → Run Expr) : Run Expr := do
  let body ← inner 0
  let _ ← expect .rightParen .parenthesis
  pure (.paren body)

def readPrimary (inner : Nat → Run Expr) : Run Expr := do
  match (← here).kind with
  | .number =>
    let token ← take
    .number <$> numberOf token
  | .string =>
    let token ← take
    pure (.string token.text)
  | .leftParen =>
    let _ ← take
    readParen inner
  | .leftBrace => readSelector none
  | .ident => readWordExpr inner
  | _ => unexpected .expression

/-! ## Operators -/

def readUnary (inner : Nat → Run Expr) : Run Expr := do
  match unaryOp? (← here).kind with
  | some op =>
    let _ ← take
    .unary op <$> inner signPrecedence
  | none =>
    let primary ← readPrimary inner
    readPostfixes primary

def readBool (op : BinaryOp) : Run Bool := do
  if (← here).isWord "bool" then
    if op.isComparison then
      let _ ← take
      pure true
    else refuse .boolWithoutComparison
  else pure false

def readTakenLabels : Run (List String) := do
  if (← here).kind = .leftParen then readLabels .groupModifier else pure []

def readGroupModifier (op : BinaryOp) : Run (Option GroupModifier) := do
  let token ← here
  if token.isWord "group_left" || token.isWord "group_right" then
    if op.isSetOperator then refuse (.groupingOfSetOperator op)
    else
      let _ ← take
      let labels ← readTakenLabels
      pure (some (if token.isWord "group_left" then .left labels else .right labels))
  else pure none

def readMatchingLabels : Run (Option MatchingLabels) := do
  if ← acceptWord "on" then (fun labels => some (.on labels)) <$> readLabels .onLabels
  else if ← acceptWord "ignoring" then
    (fun labels => some (.ignoring labels)) <$> readLabels .ignoringLabels
  else pure none

def readMatching (op : BinaryOp) : Run (Option VectorMatching) := do
  match ← readMatchingLabels with
  | none => pure none
  | some labels =>
    let group ← readGroupModifier op
    pure (some ⟨labels, group⟩)

def readClause (op : BinaryOp) : Run BinaryClause := do
  let returnsBool ← readBool op
  let matching ← readMatching op
  pure ⟨op, returnsBool, matching⟩

def readOperation (inner : Nat → Run Expr) (least : Nat) (left : Expr) : Run (Round Expr) := do
  match (binaryOp? (← here)).filter (least ≤ ·.precedence) with
  | none => pure (.done left)
  | some op =>
    let _ ← take
    let clause ← readClause op
    let right ← inner op.rightPrecedence
    pure (.again (.binary clause left right))

def readOperands (inner : Nat → Run Expr) (least : Nat) : Run Expr := do
  let left ← readUnary inner
  loop (readOperation inner least) left

/-- Reads an expression, unless the parser is inside of too many; expressions inside of it are
read by the same run. -/
def readNested : (steps least : Nat) → Run Expr
  | 0, _ => stop .outOfSteps
  | steps + 1, least => do
    if maxLevels ≤ (← depth) then refuse .nestedTooDeeply
    else deeper (readOperands (readNested steps) least)

/-- Reads the longest expression from the current token on. -/
def readExpr : Run Expr := fun input point => readNested input.steps 0 input point

end RuleAtlas.Query.Run
