import RuleAtlas.Proofs.Graph.References

/-! # How references are resolved

The references of an expression are those of its selectors from left to right.  So they are the
same for all expressions with these selectors, whatever stands around them, and for all graphs
with the same alerts.  A matcher and its opposite share out the alerts between them. -/

namespace RuleAtlas

open Query

/-! ## What stands around selectors -/

namespace Query

/-- The leaf without the clauses that move it in time. -/
def Leaf.still : Leaf → Leaf
  | .vector selector => .vector { selector with modifiers := .none }
  | leaf => leaf

namespace Expr

mutual

/-- The expression without what leaves its selectors as they are: parentheses, signs and
subqueries, clauses that move in time, and the clauses of operators and aggregations. -/
def bare : Expr → Expr
  | .number value => .number value
  | .string value => .string value
  | .vector selector => .vector { selector with modifiers := .none }
  | .matrix selector range => .matrix { selector with modifiers := .none } range
  | .subquery body _ => body.bare
  | .call name arguments => .call name (bareAll arguments)
  | .aggregate op parameter body _ => .aggregate op (bareOption parameter) body.bare none
  | .binary clause left right => .binary ⟨clause.op, false, none⟩ left.bare right.bare
  | .unary _ body => body.bare
  | .paren body => body.bare

def bareAll : List Expr → List Expr
  | [] => []
  | argument :: arguments => argument.bare :: bareAll arguments

def bareOption : Option Expr → Option Expr
  | none => none
  | some parameter => some parameter.bare

end

mutual

theorem leafList_bare (expr : Expr) : expr.bare.leafList = expr.leafList.map Leaf.still := by
  cases expr with
  | number value => rfl
  | string value => rfl
  | vector selector => rfl
  | matrix selector range => rfl
  | subquery body clause => exact leafList_bare body
  | call name arguments => exact leafListAll_bareAll arguments
  | aggregate op parameter body grouping =>
    rw [bare, leafList, leafList, List.map_append, leafListOption_bareOption parameter,
      leafList_bare body]
  | binary clause left right =>
    rw [bare, leafList, leafList, List.map_append, leafList_bare left, leafList_bare right]
  | unary op body => exact leafList_bare body
  | paren body => exact leafList_bare body

theorem leafListAll_bareAll (arguments : List Expr) :
    leafListAll (bareAll arguments) = (leafListAll arguments).map Leaf.still := by
  cases arguments with
  | nil => rfl
  | cons argument arguments =>
    rw [bareAll, leafListAll, leafListAll, List.map_append, leafList_bare argument,
      leafListAll_bareAll arguments]

theorem leafListOption_bareOption (parameter : Option Expr) :
    leafListOption (bareOption parameter) = (leafListOption parameter).map Leaf.still := by
  cases parameter with
  | none => rfl
  | some parameter => exact leafList_bare parameter

end

end Expr

end Query

namespace RuleGraph

variable {graph later : RuleGraph} {name : String}

theorem referencesAt_still (graph : RuleGraph) (leaf : Leaf) :
    graph.referencesAt leaf.still = graph.referencesAt leaf := by
  cases leaf <;> rfl

theorem references_bare (graph : RuleGraph) (expr : Expr) :
    graph.references expr.bare = graph.references expr := by
  rw [references_eq_leafList, references_eq_leafList, Expr.leafList_bare, List.flatMap_map]
  exact List.flatMap_congr fun leaf _ => graph.referencesAt_still leaf

/-! ## One selector -/

/-- The names that a selector refers to: its own name, or the alerts that satisfy one of its
matchers on the name of the alert, those of each matcher in ascending order. -/
inductive Resolves (graph : RuleGraph) (selector : Selector) : List String → Prop
  | unnamed (none : selector.name = none ∨ selector.name = some "") : Resolves graph selector []
  | named {name : String} (here : selector.name = some name) (nonempty : name ≠ "")
    (other : name ≠ alertsSeries) : Resolves graph selector [name]
  | alerts {lists : List (List String)} (here : selector.name = some alertsSeries)
    (found : List.Forall₂ (fun matcher names => names.Pairwise (· < ·) ∧ ∀ name, name ∈ names ↔
        graph.nodeType? name = some .alerted ∧ matcher.accepts name = true)
      (selector.matchers.filter (·.label = alertNameLabel)) lists) :
    Resolves graph selector lists.flatten

theorem ascending_nodesOfType (graph : RuleGraph) (type : NodeType) :
    (graph.nodesOfType type).Pairwise (· < ·) :=
  List.pairwise_map.2 (graph.ascending_nodeList.filter _)

theorem mem_alertsAccepted {matcher : LabelMatcher} : name ∈ graph.alertsAccepted matcher ↔
    graph.nodeType? name = some .alerted ∧ matcher.accepts name = true := by
  rw [alertsAccepted, List.mem_filter, mem_nodesOfType]

theorem resolves_referencesOf (graph : RuleGraph) (selector : Selector) :
    graph.Resolves selector (graph.referencesOf selector) := by
  unfold referencesOf
  cases here : selector.name? with
  | none => exact .unnamed (Selector.name?_eq_none_iff.1 here)
  | some name =>
    obtain ⟨here, nonempty⟩ := Selector.name?_eq_some_iff.1 here
    by_cases alerts : name = alertsSeries
    · subst alerts
      rw [List.flatMap_def]
      dsimp only
      rw [if_pos rfl]
      refine .alerts here (List.forall₂_map_right_iff.2 (List.forall₂_same.2 ?_))
      intro matcher _
      exact ⟨(graph.ascending_nodesOfType .alerted).filter _, fun name => mem_alertsAccepted⟩
    · dsimp only
      rw [if_neg alerts]
      exact .named here nonempty alerts

/-! ## Graphs with more nodes and edges -/

/-- The second graph comes from the first one by adding edges, and nodes that are no alerts
under names that the first graph does not have. -/
inductive GrowsTo (graph : RuleGraph) : RuleGraph → Prop
  | same : GrowsTo graph graph
  | edge {later : RuleGraph} (grown : GrowsTo graph later) (source target : String) :
    GrowsTo graph (later.addEdge source target)
  | node {later : RuleGraph} (grown : GrowsTo graph later) {name : String} {type : NodeType}
    (absent : graph.nodeType? name = none) (noAlert : type ≠ .alerted) :
    GrowsTo graph (later.declare name type)

theorem GrowsTo.alerted_iff (grows : graph.GrowsTo later) (name : String) :
    later.nodeType? name = some .alerted ↔ graph.nodeType? name = some .alerted := by
  induction grows with
  | same => rfl
  | @edge later _ source target inductionHypothesis =>
    rw [← inductionHypothesis, nodeType?_addEdge]
    -- An end that was missing has no known type.
    cases later.nodeType? name with
    | none => split <;> simp
    | some type => split <;> simp
  | @node later _ declared type absent noAlert inductionHypothesis =>
    rw [← inductionHypothesis, nodeType?_declare]
    split
    · rename_i same
      subst same
      simp [noAlert, inductionHypothesis, absent]
    · rfl

/-- Names in ascending order are determined by which names they are. -/
theorem nodesOfType_congr {other : RuleGraph} {type : NodeType}
    (same : ∀ name, graph.nodeType? name = some type ↔ other.nodeType? name = some type) :
    graph.nodesOfType type = other.nodesOfType type := by
  have distinct : ∀ graph : RuleGraph, (graph.nodesOfType type).Nodup := fun graph =>
    (graph.ascending_nodesOfType type).imp fun lower => ne_of_lt lower
  refine List.Perm.eq_of_pairwise (fun a b _ _ lower upper => ?_)
    (graph.ascending_nodesOfType type) (other.ascending_nodesOfType type) ?_
  · exact absurd (lt_trans lower upper) (lt_irrefl a)
  · refine (List.perm_ext_iff_of_nodup (distinct graph) (distinct other)).2 fun name => ?_
    rw [mem_nodesOfType, mem_nodesOfType, same]

/-- Of the graph only the alerts count. -/
theorem references_congr {other : RuleGraph}
    (alerts : graph.nodesOfType .alerted = other.nodesOfType .alerted) (expr : Expr) :
    graph.references expr = other.references expr := by
  have accepted : graph.alertsAccepted = other.alertsAccepted := by
    funext matcher
    rw [alertsAccepted, alertsAccepted, alerts]
  have same : graph.referencesOf = other.referencesOf := by
    funext selector
    rw [referencesOf, referencesOf, accepted]
  rw [references_eq, references_eq, same]

/-! ## Opposite matchers -/

/-- A selector of the alert series with one matcher. -/
def alertsWith (matcher : LabelMatcher) : Expr := .vector ⟨some alertsSeries, [matcher], .none⟩

/-- Every alert is found with exactly one of the matchers. -/
structure Divides (graph : RuleGraph) (matcher opposite : LabelMatcher) : Prop where
  disjoint : (graph.references (alertsWith matcher)).Disjoint
    (graph.references (alertsWith opposite))
  whole : (graph.references (alertsWith matcher) ++ graph.references (alertsWith opposite)).Perm
    (graph.nodesOfType .alerted)

theorem references_alertsWith {matcher : LabelMatcher} (label : matcher.label = alertNameLabel) :
    graph.references (alertsWith matcher) = graph.alertsAccepted matcher := by
  have series : (Selector.mk (some alertsSeries) [matcher] .none).name? = some alertsSeries := rfl
  rw [references_eq_leafList, alertsWith]
  simp [Expr.leafList, referencesAt, Leaf.selector?, referencesOf, series, Selector.matchersOn,
    label]

theorem divides_of_not {matcher opposite : LabelMatcher} (label : matcher.label = alertNameLabel)
    (labelToo : opposite.label = alertNameLabel)
    (negates : ∀ name, opposite.accepts name = !matcher.accepts name) :
    graph.Divides matcher opposite := by
  have others : graph.alertsAccepted opposite =
      (graph.nodesOfType .alerted).filter fun name => !matcher.accepts name :=
    List.filter_congr fun name _ => negates name
  constructor
  · rw [references_alertsWith label, references_alertsWith labelToo]
    intro name first second
    obtain ⟨-, accepted⟩ := mem_alertsAccepted.1 first
    obtain ⟨-, acceptedToo⟩ := mem_alertsAccepted.1 second
    rw [negates, accepted] at acceptedToo
    cases acceptedToo
  · rw [references_alertsWith label, references_alertsWith labelToo, others]
    exact List.filter_append_perm _ _

/-- A text and its matchers for being equal and not being equal. -/
theorem exists_divides_equal (graph : RuleGraph) (value : String) :
    ∃ matcher opposite, LabelMatcher.make alertNameLabel .equal value = .ok matcher ∧
      LabelMatcher.make alertNameLabel .notEqual value = .ok opposite ∧
      graph.Divides matcher opposite :=
  ⟨⟨alertNameLabel, .equal value⟩, ⟨alertNameLabel, .notEqual value⟩, rfl, rfl,
    divides_of_not rfl rfl fun _ => rfl⟩

/-- A pattern and its matchers for being like it and not being like it. -/
theorem exists_divides_like {value : String} {matcher : LabelMatcher}
    (made : LabelMatcher.make alertNameLabel .like value = .ok matcher) :
    ∃ opposite, LabelMatcher.make alertNameLabel .unlike value = .ok opposite ∧
      graph.Divides matcher opposite := by
  unfold LabelMatcher.make Condition.of? at made ⊢
  cases compiled : Pattern.ofSource? value with
  | none =>
    rw [compiled] at made
    cases made
  | some pattern =>
    rw [compiled] at made
    cases made
    exact ⟨⟨alertNameLabel, .unlike pattern⟩, rfl, divides_of_not rfl rfl fun _ => rfl⟩

/-! ## All references -/

/-- The references of an expression are those of its selectors from left to right, each resolved
by itself.  They do not change with what stands around the selectors, nor while edges and nodes
that are no alerts are added to the graph, and opposite matchers divide the alerts. -/
theorem references_resolved (graph : RuleGraph) (expr : Expr) :
    (∃ lists, List.Forall₂ graph.Resolves (expr.leafList.filterMap Leaf.selector?) lists ∧
      graph.references expr = lists.flatten) ∧
    (∀ other : Expr, other.bare = expr.bare → graph.references other = graph.references expr) ∧
    (∀ later, graph.GrowsTo later → later.references expr = graph.references expr) ∧
    (∀ value, ∃ matcher opposite, LabelMatcher.make alertNameLabel .equal value = .ok matcher ∧
      LabelMatcher.make alertNameLabel .notEqual value = .ok opposite ∧
      graph.Divides matcher opposite) ∧
    ∀ value matcher, LabelMatcher.make alertNameLabel .like value = .ok matcher →
      ∃ opposite, LabelMatcher.make alertNameLabel .unlike value = .ok opposite ∧
        graph.Divides matcher opposite := by
  refine ⟨⟨(expr.leafList.filterMap Leaf.selector?).map graph.referencesOf, ?_, ?_⟩, ?_, ?_,
    graph.exists_divides_equal, fun value matcher => exists_divides_like⟩
  · exact List.forall₂_map_right_iff.2
      (List.forall₂_same.2 fun selector _ => graph.resolves_referencesOf selector)
  · rw [references_eq, List.flatMap_def]
  · intro other same
    rw [← graph.references_bare other, same, references_bare]
  · intro later grows
    exact references_congr (nodesOfType_congr fun name => grows.alerted_iff name) expr

/-- The alerts but one and then this one, below a sign and a subquery in an aggregation with a
parameter, and without these; the graph gets a recording rule and an edge to it. -/
theorem references_resolved_nested :
    let disks := (empty.declare "DiskFull" .alerted).declare "DiskSlow" .alerted
    let later := (disks.addEdge "DiskSlow" "disk:usage").declare "disk:usage" .recorded
    let count : Selector := ⟨some "k", [], .none⟩
    let moved : Selector :=
      ⟨some "ALERTS", [⟨"alertname", .notEqual "DiskFull"⟩, ⟨"job", .equal "DiskSlow"⟩,
        ⟨"alertname", .equal "DiskFull"⟩], ⟨none, some .rangeEnd⟩⟩
    let still : Selector := { moved with modifiers := .none }
    let nested : Expr := .aggregate .topk (some (.vector count))
      (.unary .neg (.subquery (.paren (.vector moved)) ⟨⟨60000⟩, none, .none⟩)) (some (.by ["x"]))
    let plain : Expr := .aggregate .topk (some (.vector count)) (.vector still) none
    disks.GrowsTo later ∧ plain.bare = nested.bare ∧
      disks.references plain = disks.references nested ∧
      later.references nested = disks.references nested ∧
      disks.references nested = ["k", "DiskSlow", "DiskFull"] := by
  intro disks later count moved still nested plain
  have grows : disks.GrowsTo later := .node (.edge .same _ _) (by decide +kernel) (by decide)
  obtain ⟨-, bare, growing, -⟩ := references_resolved disks nested
  refine ⟨grows, rfl, bare plain rfl, growing later grows, ?_⟩
  rw [references_eq_leafList]
  decide +kernel

end RuleGraph

end RuleAtlas
