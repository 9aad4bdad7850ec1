import RuleAtlas.Graph.Basic
import RuleAtlas.Query.Expr.Traversal

/-! # References of an expression

An expression refers to the names of its selectors.  A selector of the alert series refers to
alerts of the graph instead: every matcher on the name of the alert gives those that satisfy
it, each matcher by itself.  A selector without a name refers to nothing. -/

namespace RuleAtlas

open Query

namespace RuleGraph

/-- The alerts of the graph that satisfy a matcher, in ascending order. -/
def alertsAccepted (graph : RuleGraph) (matcher : LabelMatcher) : List String :=
  (graph.nodesOfType .alerted).filter matcher.accepts

def referencesOf (graph : RuleGraph) (selector : Selector) : List String :=
  match selector.name? with
  | none => []
  | some name =>
    if name = alertsSeries then
      (selector.matchersOn alertNameLabel).flatMap graph.alertsAccepted
    else [name]

/-- Collects the names that the selectors of an expression refer to. -/
def referenceCollector (graph : RuleGraph) : Visitor (List String) where
  number _ names := names
  string _ names := names
  vector selector names := names ++ graph.referencesOf selector
  enter _ names := (names, true)

/-- The names that an expression refers to, in the order in which they are found. -/
def references (graph : RuleGraph) (expr : Expr) : List String :=
  graph.referenceCollector.walk expr []

end RuleGraph

end RuleAtlas
