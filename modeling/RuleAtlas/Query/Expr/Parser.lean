import RuleAtlas.Query.Expr
import RuleAtlas.Query.Function
import RuleAtlas.Query.Parse

/-! # Reading expressions

Operands stand between binary operators, which are put together by how tightly they bind.  An
operand is a sign before operands, or a primary expression with ranges and clauses behind it.
Expressions inside expressions are read by a parse for one level less, which every layer here
takes as a parameter: `inner p` reads an expression whose operators bind at least as tightly
as `p`.  The number of levels is limited. -/

namespace RuleAtlas.Query

open Parse

/-! ## Words, labels and numbers -/

def Token.isWord (token : Token) (word : String) : Bool :=
  token.kind == .ident && lowercase token.text == word

/-- Takes a token if it is this word, and says whether it was. -/
def acceptWord (word : String) : Parse Bool := do
  if (← peek).isWord word then
    let _ ← next
    pure true
  else pure false

def readLabel (place : Place) : Parse String := do
  let token ← expect .ident place
  pure token.text

/-- Reads labels in parentheses, with commas between them and perhaps behind them. -/
def readLabels (place : Place) : Parse (List String) := do
  let _ ← expect .leftParen place
  let labels ←
    if (← peek).kind = .rightParen then pure []
    else separated (readLabel place) (some .rightParen)
  let _ ← expect .rightParen place
  pure labels

def hexadecimalValue (digits : List Char) : Nat :=
  digits.foldl (fun value c => value * 16 + (digitValue? 16 c).getD 0) 0

/-- The number that hexadecimal digits stand for, if it fits in 64 bits. -/
def ofHexadecimal? (digits : List Char) : Option Binary64 :=
  if digits.isEmpty || !digits.all isHexDigit || Nat.pow 2 64 ≤ hexadecimalValue digits then none
  else some (Binary64.ofInt (hexadecimalValue digits))

/-- The number that the text of a number token stands for. -/
def numberValue? : List Char → Option Binary64
  | '0' :: 'x' :: digits => ofHexadecimal? digits
  | '0' :: 'X' :: digits => ofHexadecimal? digits
  | text => Binary64.ofText? text

def numberOf (token : Token) : Parse Binary64 :=
  match numberValue? token.text.toList with
  | some number => value number
  | none => fault (.badNumber token.text)

def readDurationToken (place : Place) : Parse Duration := do
  let token ← expect .duration place
  lift ((Duration.parse token.text).mapError .badDuration)

/-! ## Selectors -/

/-- The way to compare that a token between a label and a text stands for. -/
def matchKind? : TokenKind → Option MatchKind
  | .assign => some .equal
  | .notEqual => some .notEqual
  | .equalRegex => some .like
  | .notEqualRegex => some .unlike
  | _ => none

def readMatcher : Parse LabelMatcher := do
  let label ← readLabel .matcherLabel
  match matchKind? (← peek).kind with
  | none => unexpected .matcherOperator
  | some kind =>
    let _ ← next
    let text ← expect .string .matcherText
    lift ((LabelMatcher.make label kind text.text).mapError .badMatcher)

/-- Reads label matchers in braces, with commas between them and perhaps behind them. -/
def readMatchers : Parse (List LabelMatcher) := do
  let _ ← expect .leftBrace .matchers
  let matchers ←
    if (← peek).kind = .rightBrace then pure []
    else separated readMatcher (some .rightBrace)
  let _ ← expect .rightBrace .matchersEnd
  pure matchers

/-- Reads what follows the name of a selector, if it has one.  A selector with a name has no
matcher on the name; one without has a matcher that a missing label does not satisfy. -/
def readSelector (name : Option String) : Parse Expr := do
  let matchers ← if (← peek).kind = .leftBrace then readMatchers else pure []
  if name.isSome && matchers.any (·.label == seriesNameLabel) then fault .nameTwice
  else if name.isNone && matchers.all LabelMatcher.acceptsEmpty then fault .selectsEverything
  else pure (.vector ⟨name, matchers, .none⟩)

/-! ## Ranges and clauses in time -/

def applyRange (expr : Expr) (range : Duration) : Except SyntaxFault Expr :=
  match expr with
  | .vector selector =>
    if selector.modifiers.offset.isNone && selector.modifiers.instant.isNone then
      .ok (.matrix selector range)
    else .error .rangeBehindModifiers
  | _ => .error .rangeWithoutSelector

def applySubquery (expr : Expr) (range : Duration) (step : Option Duration) :
    Except SyntaxFault Expr :=
  match expr with
  | .matrix _ _ => .error .subqueryOfRange
  | _ => .ok (.subquery expr ⟨range, step, .none⟩)

/-- The clauses that move an expression in time, where it can have them. -/
def Expr.modifiers? : Expr → Option Modifiers
  | .vector selector => some selector.modifiers
  | .matrix selector _ => some selector.modifiers
  | .subquery _ clause => some clause.modifiers
  | _ => none

/-- The expression with other clauses, where it can have them. -/
def Expr.withModifiers (expr : Expr) (modifiers : Modifiers) : Expr :=
  match expr with
  | .vector selector => .vector { selector with modifiers := modifiers }
  | .matrix selector range => .matrix { selector with modifiers := modifiers } range
  | .subquery body clause => .subquery body { clause with modifiers := modifiers }
  | _ => expr

def applyOffset (expr : Expr) (offset : Offset) : Except SyntaxFault Expr :=
  match expr.modifiers? with
  | none => .error .offsetWithoutSelector
  | some modifiers =>
    if modifiers.offset.isSome then .error .offsetTwice
    else .ok (expr.withModifiers { modifiers with offset := some offset })

def applyInstant (expr : Expr) (instant : Instant) : Except SyntaxFault Expr :=
  match expr.modifiers? with
  | none => .error .instantWithoutSelector
  | some modifiers =>
    if modifiers.instant.isSome then .error .instantTwice
    else .ok (expr.withModifiers { modifiers with instant := some instant })

/-- Reads the rest of a range or subquery, behind its opening bracket. -/
def readRange (expr : Expr) : Parse Expr := do
  let range ← readDurationToken .range
  if ← accept .rightBracket then lift (applyRange expr range)
  else
    let _ ← expect .colon .subqueryColon
    let step ←
      if (← peek).kind = .duration then some <$> readDurationToken .subqueryStep else pure none
    let _ ← expect .rightBracket .subqueryEnd
    lift (applySubquery expr range step)

/-- Reads the rest of an offset, behind its word. -/
def readOffset : Parse Offset := do
  let negative ← accept .sub
  let duration ← readDurationToken .offset
  pure ⟨negative, duration⟩

/-- Reads the parentheses behind the word for an end of the range. -/
def readRangeBound (bound : Instant) : Parse Instant := do
  let _ ← next
  let _ ← expect .leftParen .instant
  let _ ← expect .rightParen .instant
  pure bound

/-- Reads the sign of a timestamp, and says whether it is a minus. -/
def readSign : Parse Bool := do
  if ← accept .sub then pure true
  else
    let _ ← accept .add
    pure false

def readInstant : Parse Instant := do
  let token ← peek
  if token.isWord "start" then readRangeBound .rangeStart
  else if token.isWord "end" then readRangeBound .rangeEnd
  else
    let negative ← readSign
    let number ← numberOf (← expect .number .instantTimestamp)
    if number.isFinite then pure (.timestamp (if negative then number.neg else number))
    else fault .timestampOutOfBounds

/-- Reads one range or clause behind an expression, if there is one. -/
def readPostfix (expr : Expr) : Parse (Round Expr) := do
  if ← accept .leftBracket then .again <$> readRange expr
  else if ← acceptWord "offset" then
    let offset ← readOffset
    .again <$> lift (applyOffset expr offset)
  else if ← accept .atSign then
    let instant ← readInstant
    .again <$> lift (applyInstant expr instant)
  else pure (.done expr)

def readPostfixes (expr : Expr) : Parse Expr := loop readPostfix expr

/-! ## Calls and aggregations -/

def readCall (inner : Nat → Parse Expr) (name : String) : Parse Expr :=
  match function? name with
  | none => fault (.unknownFunction name)
  | some entry => do
    let _ ← expect .leftParen .call
    let arguments ←
      if (← peek).kind = .rightParen then pure [] else separated (inner 0) none
    let _ ← expect .rightParen .callArguments
    if entry.accepts arguments.length then pure (.call name arguments)
    else fault (.wrongArgumentCount entry.name arguments.length)

/-- The token is a word that begins a grouping. -/
def Token.beginsGrouping (token : Token) : Bool := token.isWord "by" || token.isWord "without"

def readGrouping : Parse (Option Grouping) := do
  if ← acceptWord "by" then (fun labels => some (.by labels)) <$> readLabels .grouping
  else if ← acceptWord "without" then
    (fun labels => some (.without labels)) <$> readLabels .grouping
  else pure none

structure Aggregated where
  parameter : Option Expr
  body : Expr

def readAggregated (inner : Nat → Parse Expr) (op : AggregateOp) : Parse Aggregated := do
  let first ← inner 0
  if op.takesParameter then
    let _ ← expect .comma .aggregationParameter
    let body ← inner 0
    pure ⟨some first, body⟩
  else pure ⟨none, first⟩

/-- Reads a grouping behind an operand, unless there was one before it. -/
def readSecondGrouping (before : Option Grouping) : Parse (Option Grouping) := do
  match before with
  | none => readGrouping
  | some grouping =>
    if (← peek).beginsGrouping then fault .groupingTwice else pure (some grouping)

def readAggregate (inner : Nat → Parse Expr) (op : AggregateOp) : Parse Expr := do
  let before ← readGrouping
  let _ ← expect .leftParen .aggregation
  if (← peek).kind = .rightParen then fault (.noAggregated op)
  else
    let aggregated ← readAggregated inner op
    let _ ← accept .comma
    let _ ← expect .rightParen .aggregation
    let grouping ← readSecondGrouping before
    pure (.aggregate op aggregated.parameter aggregated.body grouping)

/-! ## Primary expressions -/

/-- The number that a word stands for, in any letter case. -/
def numberWord? (text : String) : Option Binary64 :=
  if lowercase text = "inf" then some (.infinity false)
  else if lowercase text = "nan" then some .nan
  else none

/-- The aggregation that a word stands for, if the next token goes on an aggregation. -/
def aggregation? (text : String) (following : Token) : Option AggregateOp :=
  if following.kind = .leftParen || following.beginsGrouping then AggregateOp.ofWord? text
  else none

/-- Reads an expression that begins with a word: a number, an aggregation, a call, or a
selector. -/
def readWordExpr (inner : Nat → Parse Expr) : Parse Expr := do
  let following ← peekSecond
  let token ← next
  match numberWord? token.text with
  | some number => pure (.number number)
  | none =>
    match aggregation? token.text following with
    | some op => readAggregate inner op
    | none =>
      if following.kind = .leftParen then readCall inner token.text
      else readSelector (some token.text)

def readParen (inner : Nat → Parse Expr) : Parse Expr := do
  let body ← inner 0
  let _ ← expect .rightParen .parenthesis
  pure (.paren body)

/-- Reads an expression without operators and without clauses behind it. -/
def readPrimary (inner : Nat → Parse Expr) : Parse Expr := do
  match (← peek).kind with
  | .number =>
    let token ← next
    .number <$> numberOf token
  | .string =>
    let token ← next
    pure (.string token.text)
  | .leftParen =>
    let _ ← next
    readParen inner
  | .leftBrace => readSelector none
  | .ident => readWordExpr inner
  | _ => unexpected .expression

/-! ## Operators -/

def unaryOp? : TokenKind → Option UnaryOp
  | .sub => some .neg
  | .add => some .pos
  | _ => none

/-- How tightly signs bind: tighter than products, as tightly as powers. -/
def signPrecedence : Nat := 6

/-- Reads an operand: a sign before operands, or a primary expression with clauses. -/
def readUnary (inner : Nat → Parse Expr) : Parse Expr := do
  match unaryOp? (← peek).kind with
  | some op =>
    let _ ← next
    .unary op <$> inner signPrecedence
  | none =>
    let primary ← readPrimary inner
    readPostfixes primary

def wordOp? (text : String) : Option BinaryOp :=
  if text = "and" then some .and
  else if text = "or" then some .or
  else if text = "unless" then some .unless
  else if text = "atan2" then some .atan2
  else none

def binaryOp? (token : Token) : Option BinaryOp :=
  match token.kind with
  | .add => some .add
  | .sub => some .sub
  | .mul => some .mul
  | .div => some .div
  | .mod => some .mod
  | .pow => some .pow
  | .equal => some .equal
  | .notEqual => some .notEqual
  | .greater => some .greater
  | .less => some .less
  | .greaterEqual => some .greaterEqual
  | .lessEqual => some .lessEqual
  | .ident => wordOp? (lowercase token.text)
  | _ => none

/-- Reads the word that makes a comparison give numbers, if it is there. -/
def readBool (op : BinaryOp) : Parse Bool := do
  if (← peek).isWord "bool" then
    if op.isComparison then
      let _ ← next
      pure true
    else fault .boolWithoutComparison
  else pure false

def readTakenLabels : Parse (List String) := do
  if (← peek).kind = .leftParen then readLabels .groupModifier else pure []

/-- Reads which side may have many series, if that is said. -/
def readGroupModifier (op : BinaryOp) : Parse (Option GroupModifier) := do
  let token ← peek
  if token.isWord "group_left" || token.isWord "group_right" then
    if op.isSetOperator then fault (.groupingOfSetOperator op)
    else
      let _ ← next
      let labels ← readTakenLabels
      pure (some (if token.isWord "group_left" then .left labels else .right labels))
  else pure none

def readMatchingLabels : Parse (Option MatchingLabels) := do
  if ← acceptWord "on" then (fun labels => some (.on labels)) <$> readLabels .onLabels
  else if ← acceptWord "ignoring" then
    (fun labels => some (.ignoring labels)) <$> readLabels .ignoringLabels
  else pure none

def readMatching (op : BinaryOp) : Parse (Option VectorMatching) := do
  match ← readMatchingLabels with
  | none => pure none
  | some labels =>
    let group ← readGroupModifier op
    pure (some ⟨labels, group⟩)

/-- How tightly the operators of the right operand have to bind. -/
def BinaryOp.rightPrecedence (op : BinaryOp) : Nat :=
  if op.isRightAssociative then op.precedence else op.precedence + 1

def readClause (op : BinaryOp) : Parse BinaryClause := do
  let returnsBool ← readBool op
  let matching ← readMatching op
  pure ⟨op, returnsBool, matching⟩

/-- Reads an operator that binds tightly enough and its right operand, if there is one. -/
def readOperation (inner : Nat → Parse Expr) (least : Nat) (left : Expr) :
    Parse (Round Expr) := do
  match (binaryOp? (← peek)).filter (least ≤ ·.precedence) with
  | none => pure (.done left)
  | some op =>
    let _ ← next
    let clause ← readClause op
    let right ← inner op.rightPrecedence
    pure (.again (.binary clause left right))

/-- Reads operands and the operators between them that bind at least as tightly as said. -/
def readOperands (inner : Nat → Parse Expr) (least : Nat) : Parse Expr := do
  let left ← readUnary inner
  loop (readOperation inner least) left

/-- Reads an expression that may have as many levels as said, with operators that bind at
least as tightly as said. -/
def readLevels : (levels least : Nat) → Parse Expr
  | 0, _ => fault .nestedTooDeeply
  | levels + 1, least => readOperands (readLevels levels) least

def maxLevels : Nat := 64

/-- Reads the longest expression at the front of the tokens. -/
def readExpr : Parse Expr := readLevels maxLevels 0

def readWhole : Parse Expr := do
  if (← peek).isEof then fault .noExpression
  else
    let expr ← readExpr
    if (← peek).isEof then pure expr else unexpected .expression

/-! ## Texts -/

/-- Why a text is no expression. -/
inductive QueryError where
  | lexical (error : LexicalError)
  | syntactic (error : ParseError)
  deriving DecidableEq, Repr, Inhabited

def QueryError.toFailure : QueryError → Failure
  | .lexical error => error.toFailure
  | .syntactic error => error.toFailure

def Expr.parse (input : String) : Except QueryError Expr :=
  match tokenize input with
  | .error error => .error (.lexical error)
  | .ok tokens => (readWhole tokens).1.mapError .syntactic

end RuleAtlas.Query
