import RuleAtlas.Query.Duration
import RuleAtlas.Query.Matcher
import RuleAtlas.Query.Operator

/-! # Query expressions

The tree of a query expression.  A selector names the series that it stands for and may be
shifted in time; with a range it stands for a stretch of them.  Selectors, numbers and strings
are the leaves of the tree. -/

namespace RuleAtlas.Query

def alertsSeries : String := "ALERTS"

def alertNameLabel : String := "alertname"

def seriesNameLabel : String := "__name__"

/-- A shift back in time, or forward when it is negative. -/
structure Offset where
  negative : Bool
  duration : Duration
  deriving DecidableEq, Repr, Inhabited

inductive Instant where
  | timestamp (seconds : Binary64)
  | rangeStart
  | rangeEnd
  deriving DecidableEq, Repr, Inhabited

/-- The clauses behind a selector or subquery that move it in time. -/
structure Modifiers where
  offset : Option Offset
  instant : Option Instant
  deriving DecidableEq, Repr, Inhabited

def Modifiers.none : Modifiers := ⟨.none, .none⟩

/-- A reference to series by name and by conditions on their labels. -/
structure Selector where
  name : Option String
  matchers : List LabelMatcher
  modifiers : Modifiers
  deriving DecidableEq, Repr

namespace Selector

/-- The name, unless it is empty. -/
def name? (selector : Selector) : Option String := selector.name.filter (!·.isEmpty)

def matchersOn (selector : Selector) (label : String) : List LabelMatcher :=
  selector.matchers.filter (·.label = label)

end Selector

/-- The labels that an aggregation keeps or drops. -/
inductive Grouping where
  | by (labels : List String)
  | without (labels : List String)
  deriving DecidableEq, Repr, Inhabited

/-- The labels that decide which series of two operands belong together. -/
inductive MatchingLabels where
  | on (labels : List String)
  | ignoring (labels : List String)
  deriving DecidableEq, Repr, Inhabited

/-- The operand that may have many series for one of the other, and the labels taken over. -/
inductive GroupModifier where
  | left (labels : List String)
  | right (labels : List String)
  deriving DecidableEq, Repr, Inhabited

structure VectorMatching where
  labels : MatchingLabels
  group : Option GroupModifier
  deriving DecidableEq, Repr, Inhabited

structure BinaryClause where
  op : BinaryOp
  returnsBool : Bool
  matching : Option VectorMatching
  deriving DecidableEq, Repr, Inhabited

/-- What stands at a subquery besides its operand. -/
structure SubqueryClause where
  range : Duration
  step : Option Duration
  modifiers : Modifiers
  deriving DecidableEq, Repr, Inhabited

inductive Expr where
  | number (value : Binary64)
  | string (value : String)
  | vector (selector : Selector)
  | matrix (selector : Selector) (range : Duration)
  | subquery (body : Expr) (clause : SubqueryClause)
  | call (name : String) (arguments : List Expr)
  | aggregate (op : AggregateOp) (parameter : Option Expr) (body : Expr)
      (grouping : Option Grouping)
  | binary (clause : BinaryClause) (left right : Expr)
  | unary (op : UnaryOp) (body : Expr)
  | paren (body : Expr)
  deriving Repr

inductive ExprKind where
  | numberLiteral
  | stringLiteral
  | vectorSelector
  | matrixSelector
  | subquery
  | call
  | aggregate
  | binary
  | unary
  | paren
  deriving DecidableEq, Repr, Inhabited

namespace ExprKind

def name : ExprKind → String
  | .numberLiteral => "number_literal"
  | .stringLiteral => "string_literal"
  | .vectorSelector => "vector_selector"
  | .matrixSelector => "matrix_selector"
  | .subquery => "subquery"
  | .call => "call"
  | .aggregate => "aggregate"
  | .binary => "binary"
  | .unary => "unary"
  | .paren => "paren"

def all : List ExprKind :=
  [.numberLiteral, .stringLiteral, .vectorSelector, .matrixSelector, .subquery, .call,
   .aggregate, .binary, .unary, .paren]

def ofName? (text : String) : Option ExprKind := all.find? (·.name = text)

end ExprKind

/-! ## Equality

Two expressions are the same when they are built alike from the same parts, where numbers are
compared as numbers: the zeros are the same, and a value that is not a number differs from
every other one. -/

def Instant.same : Instant → Instant → Bool
  | .timestamp a, .timestamp b => a.equal b
  | .rangeStart, .rangeStart => true
  | .rangeEnd, .rangeEnd => true
  | _, _ => false

def Modifiers.same (a b : Modifiers) : Bool :=
  a.offset == b.offset &&
    (match a.instant, b.instant with
    | .none, .none => true
    | .some first, .some second => first.same second
    | _, _ => false)

def Selector.same (a b : Selector) : Bool :=
  a.name == b.name && a.matchers == b.matchers && a.modifiers.same b.modifiers

def SubqueryClause.same (a b : SubqueryClause) : Bool :=
  a.range == b.range && a.step == b.step && a.modifiers.same b.modifiers

namespace Expr

def kind : Expr → ExprKind
  | .number _ => .numberLiteral
  | .string _ => .stringLiteral
  | .vector _ => .vectorSelector
  | .matrix _ _ => .matrixSelector
  | .subquery _ _ => .subquery
  | .call _ _ => .call
  | .aggregate _ _ _ _ => .aggregate
  | .binary _ _ _ => .binary
  | .unary _ _ => .unary
  | .paren _ => .paren

/-- The operands in the order in which they are written. -/
def children : Expr → List Expr
  | .number _ => []
  | .string _ => []
  | .vector _ => []
  | .matrix _ _ => []
  | .subquery body _ => [body]
  | .call _ arguments => arguments
  | .aggregate _ parameter body _ => parameter.toList ++ [body]
  | .binary _ left right => [left, right]
  | .unary _ body => [body]
  | .paren body => [body]

mutual

def same : Expr → Expr → Bool
  | .number a, .number b => a.equal b
  | .string a, .string b => a == b
  | .vector a, .vector b => a.same b
  | .matrix a range, .matrix b other => range == other && a.same b
  | .subquery a clause, .subquery b other => clause.same other && a.same b
  | .call name arguments, .call other others => name == other && sameAll arguments others
  | .aggregate op parameter body grouping, .aggregate op₂ parameter₂ body₂ grouping₂ =>
    op == op₂ && grouping == grouping₂ && sameOption parameter parameter₂ && body.same body₂
  | .binary clause left right, .binary clause₂ left₂ right₂ =>
    clause == clause₂ && left.same left₂ && right.same right₂
  | .unary op body, .unary op₂ body₂ => op == op₂ && body.same body₂
  | .paren body, .paren body₂ => body.same body₂
  | _, _ => false

def sameAll : List Expr → List Expr → Bool
  | [], [] => true
  | a :: as, b :: bs => a.same b && sameAll as bs
  | _, _ => false

/-- Both expressions are missing, or they are the same. -/
def sameOption : Option Expr → Option Expr → Bool
  | none, none => true
  | some a, some b => a.same b
  | _, _ => false

end

end Expr

end RuleAtlas.Query
