import RuleAtlas.Query.Expr
import RuleAtlas.Query.Token.Lexer

/-! # Parses over tokens

A parse takes tokens from the front of a list and comes to a value or to an error; in both
cases the tokens that it did not take remain.  The token that stands for the end of the input
is never taken.  An error is reported at the first token that remains. -/

namespace RuleAtlas.Query

/-- Where a token that was not expected stands. -/
inductive Place where
  | expression
  | onLabels
  | ignoringLabels
  | groupModifier
  | grouping
  | range
  | subqueryColon
  | subqueryStep
  | subqueryEnd
  | offset
  | instant
  | instantTimestamp
  | parenthesis
  | call
  | callArguments
  | aggregation
  | aggregationParameter
  | matchers
  | matcherLabel
  | matcherOperator
  | matcherText
  | matchersEnd
  deriving DecidableEq, Repr, Inhabited

def Place.text : Place → String
  | .expression => "in expression"
  | .onLabels => "in on(...)"
  | .ignoringLabels => "in ignoring(...)"
  | .groupModifier => "in grouping modifier"
  | .grouping => "in grouping"
  | .range => "in range, expected duration"
  | .subqueryColon => "in subquery, expected \":\" or \"]\""
  | .subqueryStep => "in subquery step"
  | .subqueryEnd => "in subquery, expected \"]\""
  | .offset => "in offset, expected duration"
  | .instant => "in @ modifier"
  | .instantTimestamp => "in @ modifier, expected timestamp"
  | .parenthesis => "in parenthesized expression"
  | .call => "in function call"
  | .callArguments => "in function call argument list"
  | .aggregation => "in aggregation"
  | .aggregationParameter => "in aggregation, expected parameter and expression"
  | .matchers => "in label matching"
  | .matcherLabel => "in label matching, expected label"
  | .matcherOperator => "in label matching, expected label matching operator"
  | .matcherText => "in label matching, expected string"
  | .matchersEnd => "in label matching, expected \",\" or \"\x7d\""

/-- What is wrong with the tokens of an expression. -/
inductive SyntaxFault where
  | noExpression
  | nestedTooDeeply
  | unexpected (token : Token) (place : Place)
  | boolWithoutComparison
  | groupingOfSetOperator (op : BinaryOp)
  | badDuration (error : DurationError)
  | rangeBehindModifiers
  | rangeWithoutSelector
  | subqueryOfRange
  | offsetWithoutSelector
  | offsetTwice
  | instantWithoutSelector
  | instantTwice
  | timestampOutOfBounds
  | badNumber (text : String)
  | unknownFunction (name : String)
  | wrongArgumentCount (name : String) (count : Nat)
  | noAggregated (op : AggregateOp)
  | groupingTwice
  | nameTwice
  | selectsEverything
  | badMatcher (error : MatcherError)
  deriving DecidableEq, Repr, Inhabited

/-- The operands that may be moved in time. -/
def movableOperands : String :=
  "an instant vector selector or range vector selector or a subquery"

def SyntaxFault.message : SyntaxFault → String
  | .noExpression => "no expression found in input"
  | .nestedTooDeeply => "expression nested too deeply"
  | .unexpected token place => "unexpected " ++ token.describe ++ " " ++ place.text
  | .boolWithoutComparison => "bool modifier can only be used on comparison operators"
  | .groupingOfSetOperator op => "no grouping allowed for \"" ++ op.symbol ++ "\" operation"
  | .badDuration error => error.message
  | .rangeBehindModifiers => "range must be placed before offset and @ modifiers"
  | .rangeWithoutSelector => "ranges only allowed for vector selectors"
  | .subqueryOfRange => "subquery is only allowed on instant vector"
  | .offsetWithoutSelector => "offset modifier must be preceded by " ++ movableOperands
  | .offsetTwice => "offset may not be set multiple times"
  | .instantWithoutSelector => "@ modifier must be preceded by " ++ movableOperands
  | .instantTwice => "@ <timestamp> may not be set multiple times"
  | .timestampOutOfBounds => "timestamp out of bounds for @ modifier"
  | .badNumber text => "invalid number " ++ Text.quoted text
  | .unknownFunction name => "unknown function with name " ++ Text.quoted name
  | .wrongArgumentCount name count =>
    "wrong number of arguments for function " ++ Text.quoted name ++ ": got " ++ toString count
  | .noAggregated op => "no arguments for aggregate expression " ++ op.symbol ++ " provided"
  | .groupingTwice => "aggregation must only contain one grouping clause"
  | .nameTwice => "metric name must not be set twice"
  | .selectsEverything => "vector selector must contain at least one non-empty matcher"
  | .badMatcher error => error.message

/-- A fault and its byte offset in the input. -/
structure ParseError where
  fault : SyntaxFault
  position : Nat
  deriving DecidableEq, Repr, Inhabited

def ParseError.toFailure (error : ParseError) : Failure :=
  ((Failure.of .parseFailed error.fault.message).withOperation "promql::parse").withContext
    "position" (toString error.position)

/-- A parse comes to a value or an error, and leaves tokens. -/
def Parse (α : Type) : Type := List Token → Except ParseError α × List Token

namespace Parse

variable {α β : Type}

def value (a : α) : Parse α := fun tokens => (.ok a, tokens)

/-- One parse behind another one, which may depend on the value of the first. -/
def andThen (first : Parse α) (second : α → Parse β) : Parse β := fun tokens =>
  match first tokens with
  | (.ok a, rest) => second a rest
  | (.error error, rest) => (.error error, rest)

instance : Monad Parse where
  pure := value
  bind := andThen

/-- The first token; behind the last one there is only the end. -/
def first (tokens : List Token) : Token := tokens.headD ⟨.eof, "", 0⟩

/-- A fault, reported at the first token. -/
def fault (fault : SyntaxFault) : Parse α := fun tokens =>
  (.error ⟨fault, (first tokens).pos⟩, tokens)

/-- The fault that the first token was not expected. -/
def unexpected (place : Place) : Parse α := fun tokens =>
  fault (.unexpected (first tokens) place) tokens

/-- The value, or a fault reported at the first token. -/
def lift (result : Except SyntaxFault α) : Parse α :=
  match result with
  | .ok a => value a
  | .error cause => fault cause

/-- The first token, which is not taken. -/
def peek : Parse Token := fun tokens => (.ok (first tokens), tokens)

/-- The second token, which is not taken. -/
def peekSecond : Parse Token := fun tokens => (.ok (first (tokens.drop 1)), tokens)

/-- Takes the first token, unless it stands for the end. -/
def next : Parse Token := fun tokens =>
  (.ok (first tokens), if (first tokens).isEof then tokens else tokens.drop 1)

/-- Takes a token of the given kind. -/
def expect (kind : TokenKind) (place : Place) : Parse Token := do
  if (← peek).kind = kind then next else unexpected place

/-- Takes a token if it is of the given kind, and says whether it was. -/
def accept (kind : TokenKind) : Parse Bool := do
  if (← peek).kind = kind then
    let _ ← next
    pure true
  else pure false

/-- What a round of a loop comes to. -/
inductive Round (α : Type) where
  | again (a : α)
  | done (a : α)

/-- Runs rounds, at most the given number of them. -/
def rounds (round : α → Parse (Round α)) : Nat → α → Parse α
  | 0, a => pure a
  | count + 1, a => do
    match ← round a with
    | .again b => rounds round count b
    | .done b => pure b

/-- Runs rounds until one is the last.  Every round but the last takes a token, so there are
no more rounds than tokens. -/
def loop (round : α → Parse (Round α)) (a : α) : Parse α := fun tokens =>
  rounds round tokens.length a tokens

/-- Items with commas between them, at most the given number.  A comma may stand behind the
last item where the closing token is given. -/
def items (item : Parse α) (closing : Option TokenKind) : Nat → Parse (List α)
  | 0 => pure []
  | count + 1 => do
    let a ← item
    if ← accept .comma then
      if some (← peek).kind = closing then pure [a]
      else
        let others ← items item closing count
        pure (a :: others)
    else pure [a]

/-- Items with commas between them, at least one.  Every item takes a token, so there are no
more items than tokens. -/
def separated (item : Parse α) (closing : Option TokenKind) : Parse (List α) := fun tokens =>
  items item closing tokens.length tokens

end Parse

end RuleAtlas.Query
