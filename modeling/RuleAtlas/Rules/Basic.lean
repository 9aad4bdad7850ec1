import RuleAtlas.Graph.Basic

/-! # Rules

A recording rule gives the values of an expression a name, an alerting rule watches an
expression.  Rules come in groups. -/

namespace RuleAtlas

inductive RuleKind where
  | recording
  | alerting
  deriving DecidableEq, Repr, Inhabited

namespace RuleKind

def name : RuleKind → String
  | .recording => "recording"
  | .alerting => "alerting"

def all : List RuleKind := [.recording, .alerting]

def ofName? (text : String) : Option RuleKind := all.find? (·.name = text)

def nodeType : RuleKind → NodeType
  | .recording => .recorded
  | .alerting => .alerted

end RuleKind

structure Rule where
  kind : RuleKind
  declaredName : String
  expr : String
  holdFor : Option String
  keepFiringFor : Option String
  labels : SortedMap String String
  annotations : SortedMap String String
  deriving DecidableEq, Repr, Inhabited

namespace Rule

/-- A rule with a name and an expression only. -/
def of (kind : RuleKind) (declaredName expr : String) : Rule :=
  ⟨kind, declaredName, expr, none, none, .empty, .empty⟩

/-- The name of a rule's node: the declared name up to the first opening brace. -/
def name (rule : Rule) : String :=
  String.ofList (rule.declaredName.toList.takeWhile (· != '\x7b'))

end Rule

structure RuleGroup where
  name : String
  interval : Option String
  limit : Option Nat
  rules : List Rule
  deriving DecidableEq, Repr, Inhabited

end RuleAtlas
