import RuleAtlas.Proofs.Query.Lexical
import RuleAtlas.Proofs.Query.Written
import RuleAtlas.Query.Expr.Parser

/-! # Trees that readings come to

What holds of the parts of a tree that was read, and how its operators fit together: a binary
operator stands behind a left operand whose last part would not have taken it, and its right
operand holds only operators that bind more tightly. -/

namespace RuleAtlas.Query

open Binary64 (Canonical IsUnsigned)

/-! ## Parts -/

def AreWords (labels : List String) : Prop := ∀ label ∈ labels, isWord label.toList = true

def Duration.Proper (duration : Duration) : Prop := duration.millis < Duration.limit

/-- A number that is read from a token: not a number, or one without a sign. -/
def ProperNumber (number : Binary64) : Prop :=
  number = .nan ∨ (Canonical number ∧ IsUnsigned number)

/-- A timestamp is finite. -/
def Instant.Proper : Instant → Prop
  | .timestamp seconds => seconds.isFinite = true ∧ Canonical seconds
  | .rangeStart => True
  | .rangeEnd => True

structure Modifiers.Proper (modifiers : Modifiers) : Prop where
  offset : ∀ offset ∈ modifiers.offset, offset.duration.Proper
  instant : ∀ instant ∈ modifiers.instant, instant.Proper

theorem Modifiers.proper_none : Modifiers.none.Proper where
  offset _ member := by cases member
  instant _ member := by cases member

/-- The matchers of a selector, and what its name and they ask of each other. -/
structure Selector.Fits (selector : Selector) : Prop where
  labels : ∀ matcher ∈ selector.matchers, isWord matcher.label.toList = true
  named : ∀ name ∈ selector.name, isWord name.toList = true ∧ numberWord? name = none ∧
    selector.matchers.any (·.label == seriesNameLabel) = false
  unnamed : selector.name = none → selector.matchers.all LabelMatcher.acceptsEmpty = false

/-- A name is a word, so it is not empty. -/
theorem Selector.Fits.name?_eq {selector : Selector} (fits : selector.Fits) :
    selector.name? = selector.name := by
  unfold Selector.name?
  cases here : selector.name with
  | none => rfl
  | some name =>
    obtain ⟨word, -⟩ := fits.named name here
    have nonempty : name.isEmpty = false := by
      cases empty : name.isEmpty with
      | false => rfl
      | true =>
        rw [String.isEmpty_iff.1 empty] at word
        cases word
    simp [nonempty]

structure Selector.Proper (selector : Selector) : Prop where
  fits : selector.Fits
  modifiers : selector.modifiers.Proper

def Grouping.labels : Grouping → List String
  | .by labels => labels
  | .without labels => labels

def MatchingLabels.labels : MatchingLabels → List String
  | .on labels => labels
  | .ignoring labels => labels

def GroupModifier.labels : GroupModifier → List String
  | .left labels => labels
  | .right labels => labels

structure VectorMatching.Proper (op : BinaryOp) (matching : VectorMatching) : Prop where
  labels : AreWords matching.labels.labels
  group : ∀ group ∈ matching.group, op.isSetOperator = false ∧ AreWords group.labels

structure BinaryClause.Proper (clause : BinaryClause) : Prop where
  comparison : clause.returnsBool = true → clause.op.isComparison = true
  matching : ∀ matching ∈ clause.matching, matching.Proper clause.op

structure SubqueryClause.Proper (clause : SubqueryClause) : Prop where
  range : clause.range.Proper
  step : ∀ step ∈ clause.step, step.Proper
  modifiers : clause.modifiers.Proper

/-! ## Operators -/

/-- The right operand may begin with the token: the clause does not go on with it. -/
structure BinaryClause.Admits (clause : BinaryClause) (token : Token) : Prop where
  bool : clause.returnsBool = false → clause.matching = none → token.isWord "bool" = false
  labels : clause.matching = none → token.isWord "on" = false ∧ token.isWord "ignoring" = false
  group : ∀ matching ∈ clause.matching, matching.group = none →
    token.isWord "group_left" = false ∧ token.isWord "group_right" = false

/-- The expression is one operand, with no operator outside of brackets. -/
def Expr.isOperand : Expr → Bool
  | .binary _ _ _ => false
  | .unary _ _ => false
  | _ => true

/-- Behind the expression stands no operator that binds as tightly: its last part would have
taken it. -/
def Expr.tailLimit : Expr → Nat
  | .binary clause _ _ => clause.op.rightPrecedence
  | .unary _ _ => signPrecedence
  | _ => signPrecedence + 1

/-- The expression can be read where its operators have to bind at least as tightly as said
and the expressions inside it may have as many levels as said. -/
inductive Readable : (levels least : Nat) → Expr → Prop
  | number {levels least : Nat} {value : Binary64} (proper : ProperNumber value) :
    Readable levels least (.number value)
  | string {levels least : Nat} (value : String) : Readable levels least (.string value)
  | vector {levels least : Nat} {selector : Selector} (proper : selector.Proper) :
    Readable levels least (.vector selector)
  | matrix {levels least : Nat} {selector : Selector} {range : Duration}
    (proper : selector.Proper) (bounded : range.Proper) :
    Readable levels least (.matrix selector range)
  | subquery {levels least : Nat} {body : Expr} {clause : SubqueryClause}
    (readable : Readable levels 0 body) (operand : body.isOperand = true)
    (noRange : body.kind ≠ .matrixSelector) (proper : clause.Proper) :
    Readable levels least (.subquery body clause)
  | call {levels least : Nat} {name : String} {entry : FunctionEntry} {arguments : List Expr}
    (word : isWord name.toList = true) (noNumber : numberWord? name = none)
    (noAggregate : AggregateOp.ofWord? name = none) (known : function? name = some entry)
    (counted : entry.accepts arguments.length = true) (room : arguments ≠ [] → 0 < levels)
    (readable : ∀ argument ∈ arguments, Readable (levels - 1) 0 argument) :
    Readable levels least (.call name arguments)
  | aggregate {levels least : Nat} {op : AggregateOp} {parameter : Option Expr} {body : Expr}
    {grouping : Option Grouping} (words : ∀ labels ∈ grouping.map Grouping.labels, AreWords labels)
    (takes : parameter.isSome = op.takesParameter)
    (readableParameter : ∀ expr ∈ parameter, Readable levels 0 expr)
    (readable : Readable levels 0 body) :
    Readable (levels + 1) least (.aggregate op parameter body grouping)
  | binary {levels least : Nat} {clause : BinaryClause} {left right : Expr}
    (tight : least ≤ clause.op.precedence) (readableLeft : Readable (levels + 1) least left)
    (loose : clause.op.precedence < left.tailLimit)
    (readableRight : Readable levels clause.op.rightPrecedence right) (proper : clause.Proper)
    (admits : clause.Admits (Parse.first right.tokens)) :
    Readable (levels + 1) least (.binary clause left right)
  | unary {levels least : Nat} {op : UnaryOp} {body : Expr}
    (readable : Readable levels signPrecedence body) :
    Readable (levels + 1) least (.unary op body)
  | paren {levels least : Nat} {body : Expr} (readable : Readable levels 0 body) :
    Readable (levels + 1) least (.paren body)

/-- An operand can be read wherever operators have to bind at least as tightly as said. -/
theorem Readable.of_isOperand {levels least other : Nat} {expr : Expr}
    (readable : Readable levels least expr) (operand : expr.isOperand = true) :
    Readable levels other expr := by
  cases readable with
  | number proper => exact .number proper
  | string value => exact .string value
  | vector proper => exact .vector proper
  | matrix proper bounded => exact .matrix proper bounded
  | subquery readable inner noRange proper => exact .subquery readable inner noRange proper
  | call word noNumber noAggregate known counted room readable =>
    exact .call word noNumber noAggregate known counted room readable
  | aggregate words takes readableParameter readable =>
    exact .aggregate words takes readableParameter readable
  | binary => cases operand
  | unary => cases operand
  | paren readable => exact .paren readable

end RuleAtlas.Query
