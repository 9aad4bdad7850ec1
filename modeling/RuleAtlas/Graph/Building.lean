import RuleAtlas.Graph.References
import RuleAtlas.Query.Expr.Parser
import RuleAtlas.Rules.Basic

/-! # The graph of rules

All rules are declared before any expression is looked at, so a rule may refer to alerts that
are declared behind it.  Then every rule gets an edge to each name that its expression refers
to. -/

namespace RuleAtlas

open Query

/-- A rule whose expression is none. -/
structure BuildError where
  rule : Rule
  error : QueryError

def BuildError.toFailure (error : BuildError) : Failure :=
  let inner := error.error.toFailure
  ((((Failure.of .parseFailed inner.message).withOperation "graph::add_rule_edges").withContext
    "rule" error.rule.name).withContext "expr" error.rule.expr).withCause (.failure inner)

namespace RuleGraph

def declareRule (graph : RuleGraph) (rule : Rule) : RuleGraph :=
  graph.declare rule.name rule.kind.nodeType

def addEdges (graph : RuleGraph) (source : String) (targets : List String) : RuleGraph :=
  targets.foldl (fun graph target => graph.addEdge source target) graph

def addRule (graph : RuleGraph) (rule : Rule) : Except BuildError RuleGraph :=
  match Expr.parse rule.expr with
  | .ok expr => .ok (graph.addEdges rule.name (graph.references expr))
  | .error error => .error ⟨rule, error⟩

def addRules : RuleGraph → List Rule → Except BuildError RuleGraph
  | graph, [] => .ok graph
  | graph, rule :: rules =>
    match graph.addRule rule with
    | .ok next => next.addRules rules
    | .error error => .error error

/-- The graph of the rules of groups. -/
def ofGroups (groups : List RuleGroup) : Except BuildError RuleGraph :=
  let rules := groups.flatMap RuleGroup.rules
  (rules.foldl declareRule empty).addRules rules

end RuleGraph

end RuleAtlas
