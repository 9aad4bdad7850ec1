import RuleAtlas.Failure.Basic
import RuleAtlas.Pattern

/-! # Label matchers

A label matcher is a condition on the value of a label: it equals a text or matches a pattern
as a whole, or it does not. -/

namespace RuleAtlas.Query

inductive MatchKind where
  | equal
  | notEqual
  | like
  | unlike
  deriving DecidableEq, Repr, Inhabited

namespace MatchKind

def symbol : MatchKind → String
  | .equal => "="
  | .notEqual => "!="
  | .like => "=~"
  | .unlike => "!~"

def all : List MatchKind := [.equal, .notEqual, .like, .unlike]

def ofSymbol? (text : String) : Option MatchKind := all.find? (·.symbol = text)

end MatchKind

inductive Condition where
  | equal (value : String)
  | notEqual (value : String)
  | like (pattern : Pattern)
  | unlike (pattern : Pattern)
  deriving DecidableEq, Repr

namespace Condition

def kind : Condition → MatchKind
  | .equal _ => .equal
  | .notEqual _ => .notEqual
  | .like _ => .like
  | .unlike _ => .unlike

def text : Condition → String
  | .equal value => value
  | .notEqual value => value
  | .like pattern => pattern.source
  | .unlike pattern => pattern.source

def holds : Condition → String → Bool
  | .equal value, candidate => value == candidate
  | .notEqual value, candidate => value != candidate
  | .like pattern, candidate => pattern.matchesValue candidate
  | .unlike pattern, candidate => !pattern.matchesValue candidate

/-- The condition of a kind with a text, if the text is a pattern where one is needed. -/
def of? (kind : MatchKind) (text : String) : Option Condition :=
  match kind with
  | .equal => some (.equal text)
  | .notEqual => some (.notEqual text)
  | .like => (Pattern.ofSource? text).map .like
  | .unlike => (Pattern.ofSource? text).map .unlike

end Condition

structure LabelMatcher where
  label : String
  condition : Condition
  deriving DecidableEq, Repr

/-- A matcher as it is written: label, operator and quoted text. -/
def writtenMatcher (label : String) (kind : MatchKind) (text : String) : String :=
  label ++ kind.symbol ++ Text.quoted text

/-- A matcher whose text is not a pattern. -/
structure MatcherError where
  label : String
  kind : MatchKind
  text : String
  deriving DecidableEq, Repr, Inhabited

def MatcherError.message (error : MatcherError) : String :=
  "invalid regular expression in matcher " ++ writtenMatcher error.label error.kind error.text

def MatcherError.toFailure (error : MatcherError) : Failure :=
  ((Failure.of .parseFailed error.message).withOperation "promql::matcher").withCause
    .invalidPattern

namespace LabelMatcher

def make (label : String) (kind : MatchKind) (text : String) : Except MatcherError LabelMatcher :=
  match Condition.of? kind text with
  | some condition => .ok ⟨label, condition⟩
  | none => .error ⟨label, kind, text⟩

def accepts (self : LabelMatcher) (candidate : String) : Bool := self.condition.holds candidate

/-- The value of a label that is not there satisfies the matcher. -/
def acceptsEmpty (self : LabelMatcher) : Bool := self.accepts ""

def render (self : LabelMatcher) : String :=
  writtenMatcher self.label self.condition.kind self.condition.text

end LabelMatcher

end RuleAtlas.Query
