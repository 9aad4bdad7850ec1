import RuleAtlas.Graph.References
import RuleAtlas.Proofs.Graph.Basic
import RuleAtlas.Proofs.Query.Leaves

/-! # What an expression refers to

The walk that collects references gathers those of the selectors, from left to right.  The
references of a selector only depend on which nodes of the graph are alerts. -/

namespace RuleAtlas

open Query

/-- The name that a selector has is one that is not empty. -/
theorem Query.Selector.name?_eq_some_iff {selector : Selector} {name : String} :
    selector.name? = some name ↔ selector.name = some name ∧ name ≠ "" := by
  simp [Selector.name?, Option.filter_eq_some_iff]

theorem Query.Selector.name?_eq_none_iff {selector : Selector} :
    selector.name? = none ↔ selector.name = none ∨ selector.name = some "" := by
  cases named : selector.name <;> simp [Selector.name?, named]

namespace RuleGraph

variable {graph : RuleGraph} {name target : String}

/-- What the leaves of an expression refer to. -/
def referencesAt (graph : RuleGraph) (leaf : Leaf) : List String :=
  leaf.selector?.toList.flatMap graph.referencesOf

theorem referenceCollector_eq (graph : RuleGraph) :
    graph.referenceCollector = gatherer graph.referencesAt := by
  simp [referenceCollector, gatherer, referencesAt, Leaf.selector?]

theorem references_eq_leafList (graph : RuleGraph) (expr : Expr) :
    graph.references expr = expr.leafList.flatMap graph.referencesAt := by
  rw [references, referenceCollector_eq, walk_gatherer, List.nil_append]

/-- The references are those of the selectors, in their order. -/
theorem references_eq (graph : RuleGraph) (expr : Expr) : graph.references expr =
    (expr.leafList.filterMap Leaf.selector?).flatMap graph.referencesOf := by
  rw [references_eq_leafList, List.filterMap_eq_flatMap_toList, List.flatMap_assoc]
  rfl

/-- A selector of the alert series refers to the alerts that satisfy one of its matchers on the
name of the alert, any other one to its own name. -/
theorem mem_referencesOf {selector : Selector} : target ∈ graph.referencesOf selector ↔
    ∃ name, selector.name = some name ∧ name ≠ "" ∧
      if name = alertsSeries then
        graph.nodeType? target = some .alerted ∧
          ∃ matcher ∈ selector.matchers, matcher.label = alertNameLabel ∧
            matcher.accepts target = true
      else target = name := by
  simp only [← and_assoc, ← Selector.name?_eq_some_iff]
  unfold referencesOf
  cases named : selector.name? with
  | none => simp
  | some name =>
    by_cases alerts : name = alertsSeries
    · subst alerts
      simp [alertsAccepted, mem_nodesOfType, Selector.matchersOn, and_assoc]
      tauto
    · simp [alerts]

theorem mem_references {expr : Expr} : target ∈ graph.references expr ↔
    ∃ selector, .vector selector ∈ expr.leafList ∧ target ∈ graph.referencesOf selector := by
  rw [references_eq, List.mem_flatMap]
  refine exists_congr fun selector => and_congr_left fun _ => ?_
  rw [List.mem_filterMap]
  constructor
  · rintro ⟨leaf, member, same⟩
    cases leaf <;> cases same
    exact member
  · intro member
    exact ⟨_, member, rfl⟩

end RuleGraph

end RuleAtlas
