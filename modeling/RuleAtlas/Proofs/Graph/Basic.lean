import Mathlib.Data.String.Basic
import RuleAtlas.Graph.Basic
import RuleAtlas.Proofs.SortedMap

/-! # Nodes and edges after each operation

A graph is known by the types of its names and by the pairs of names with an edge.  Both are
followed here through the two operations that build graphs. -/

namespace RuleAtlas

instance : Std.LawfulEqOrd Edge where
  eq_of_compare {a b} same := by
    obtain ⟨source, target⟩ := a
    obtain ⟨otherSource, otherTarget⟩ := b
    obtain ⟨sources, targets⟩ := Ordering.then_eq_eq.1 same
    obtain rfl : source = otherSource := Std.LawfulEqOrd.eq_of_compare sources
    obtain rfl : target = otherTarget := Std.LawfulEqOrd.eq_of_compare targets
    rfl

namespace RuleGraph

variable {graph : RuleGraph} {name source target : String} {type : NodeType}

theorem mem_nodesOfType : name ∈ graph.nodesOfType type ↔ graph.nodeType? name = some type := by
  simp [nodesOfType, nodeList, nodeType?, SortedMap.mem_entries_iff]

theorem mem_names : (∃ type, (name, type) ∈ graph.nodeList) ↔ (graph.nodeType? name).isSome := by
  simp [nodeList, nodeType?, SortedMap.mem_entries_iff, Option.isSome_iff_exists]

theorem mem_edgeList : ⟨source, target⟩ ∈ graph.edgeList ↔ graph.hasEdge source target = true := by
  rw [edgeList, hasEdge, SortedMap.mem_keys_iff, SortedMap.contains_eq]

/-- Graphs with the same types of names and the same edges are equal. -/
theorem ext_lookups {graph other : RuleGraph}
    (types : ∀ name, graph.nodeType? name = other.nodeType? name)
    (edges : ∀ source target, graph.hasEdge source target = other.hasEdge source target) :
    graph = other := by
  obtain ⟨nodes, arrows⟩ := graph
  obtain ⟨otherNodes, otherArrows⟩ := other
  obtain rfl : nodes = otherNodes := SortedMap.ext_find? types
  have same : arrows = otherArrows := by
    refine SortedMap.ext_find? fun ⟨source, target⟩ => ?_
    have present := edges source target
    simp only [hasEdge, SortedMap.contains_eq] at present
    -- An edge carries no value, so it is there or it is not.
    cases here : arrows.find? ⟨source, target⟩ <;>
      cases there : otherArrows.find? ⟨source, target⟩ <;> simp [here, there] at present ⊢
  rw [same]

/-! ## Iteration -/

theorem ascending_nodeList (graph : RuleGraph) : graph.nodeList.Pairwise fun a b => a.1 < b.1 :=
  graph.nodes.ascending.imp fun lower => compareOfLessAndEq_eq_lt.1 lower

theorem ascending_edgeList (graph : RuleGraph) : graph.edgeList.Pairwise fun a b =>
    a.source < b.source ∨ (a.source = b.source ∧ a.target < b.target) := by
  refine List.pairwise_map.2 (graph.edges.ascending.imp ?_)
  intro a b lower
  -- The targets decide only where the sources are equal.
  rcases Ordering.then_eq_lt.1 lower with sources | ⟨sources, targets⟩
  · exact Or.inl (compareOfLessAndEq_eq_lt.1 sources)
  · exact Or.inr ⟨Std.LawfulEqOrd.eq_of_compare sources, compareOfLessAndEq_eq_lt.1 targets⟩

/-! ## Declarations -/

theorem nodeType?_declare (graph : RuleGraph) (declared name : String) (type : NodeType) :
    (graph.declare declared type).nodeType? name =
      if name = declared then some type else graph.nodeType? name :=
  SortedMap.find?_insert _ _ _ _

@[simp] theorem hasEdge_declare (graph : RuleGraph) (declared : String) (type : NodeType)
    (source target : String) :
    (graph.declare declared type).hasEdge source target = graph.hasEdge source target := rfl

/-! ## Edges -/

/-- An edge adds the nodes at its ends, of no known type, and touches no other node. -/
theorem nodeType?_addEdge (graph : RuleGraph) (source target name : String) :
    (graph.addEdge source target).nodeType? name =
      if name = source ∨ name = target then some ((graph.nodeType? name).getD .unknown)
      else graph.nodeType? name := by
  unfold nodeType? addEdge
  rw [SortedMap.find?_insertNew, SortedMap.find?_insertNew, SortedMap.find?_insertNew]
  by_cases atSource : name = source
  · subst atSource
    by_cases loop : name = target
    · simp [loop]
    · simp [loop]
  · by_cases atTarget : name = target
    · subst atTarget
      simp [atSource]
    · simp [atSource, atTarget]

theorem hasEdge_addEdge {graph : RuleGraph} {source target a b : String} :
    (graph.addEdge source target).hasEdge a b = true ↔
      graph.hasEdge a b = true ∨ (a = source ∧ b = target) := by
  unfold hasEdge addEdge
  rw [SortedMap.contains_eq, SortedMap.contains_eq, SortedMap.find?_insertNew]
  by_cases same : (⟨a, b⟩ : Edge) = ⟨source, target⟩
  · simp [Edge.mk.inj same]
  · have apart : ¬(a = source ∧ b = target) := fun ⟨sources, targets⟩ =>
      same (by rw [sources, targets])
    simp [same, apart]

end RuleGraph

end RuleAtlas
