import Mathlib.Data.List.Induction
import RuleAtlas.Proofs.Graph.Basic

/-! # Graphs and their histories

A graph is built by declarations and edges in some order.  What it holds in the end is said
here of these operations alone: a declared name has the type declared last, whatever edges came
before or behind, and of the edges it only counts which ones there are.  So their order does
not matter, and that of declarations only among those of one name. -/

namespace RuleAtlas.RuleGraph

inductive Operation where
  | declare (name : String) (type : NodeType)
  | edge (source target : String)
  deriving DecidableEq, Repr

/-- A graph with what the operations answered that led to it: an edge, whether it was new. -/
structure History where
  graph : RuleGraph
  answers : List (Option Bool)
  deriving DecidableEq

def History.step (history : History) : Operation → History
  | .declare name type => ⟨history.graph.declare name type, history.answers ++ [none]⟩
  | .edge source target =>
    let (isNew, graph) := history.graph.insertEdge source target
    ⟨graph, history.answers ++ [some isNew]⟩

/-- The history of operations on the empty graph. -/
def run (operations : List Operation) : History := operations.foldl History.step ⟨empty, []⟩

/-! ## What operations say -/

namespace Operation

/-- The type that the operation declares for the name. -/
def typeOf? (name : String) : Operation → Option NodeType
  | .declare declared type => if declared = name then some type else none
  | .edge _ _ => none

/-- The name is declared or is an end of the edge. -/
def mentions (name : String) : Operation → Bool
  | .declare declared _ => declared == name
  | .edge source target => source == name || target == name

end Operation

/-- The types that are declared for the name, in the order of their declarations. -/
def declaredTypes (operations : List Operation) (name : String) : List NodeType :=
  operations.filterMap (Operation.typeOf? name)

/-- The graph holds what the operations say. -/
structure Records (graph : RuleGraph) (operations : List Operation) : Prop where
  ends : ∀ source target, ⟨source, target⟩ ∈ graph.edgeList →
    source ∈ graph.nodeList.map Prod.fst ∧ target ∈ graph.nodeList.map Prod.fst
  names : ∀ name, name ∈ graph.nodeList.map Prod.fst ↔
    (∃ type, .declare name type ∈ operations) ∨
      ∃ other, .edge name other ∈ operations ∨ .edge other name ∈ operations
  types : ∀ name type, (name, type) ∈ graph.nodeList →
    type = (declaredTypes operations name).getLast?.getD .unknown
  edges : ∀ source target, ⟨source, target⟩ ∈ graph.edgeList ↔ .edge source target ∈ operations

variable {operations others : List Operation} {name source target : String}

theorem exists_mentions_iff : operations.any (Operation.mentions name) = true ↔
    (∃ type, .declare name type ∈ operations) ∨
      ∃ other, .edge name other ∈ operations ∨ .edge other name ∈ operations := by
  rw [List.any_eq_true]
  constructor
  · rintro ⟨operation, member, mentioned⟩
    cases operation with
    | declare declared type =>
      obtain rfl : declared = name := by simpa [Operation.mentions] using mentioned
      exact .inl ⟨type, member⟩
    | edge source target =>
      have atEnd : source = name ∨ target = name := by simpa [Operation.mentions] using mentioned
      rcases atEnd with rfl | rfl
      · exact .inr ⟨target, .inl member⟩
      · exact .inr ⟨source, .inr member⟩
  · rintro (⟨type, member⟩ | ⟨other, member | member⟩)
    · exact ⟨_, member, by simp [Operation.mentions]⟩
    · exact ⟨_, member, by simp [Operation.mentions]⟩
    · exact ⟨_, member, by simp [Operation.mentions]⟩

/-! ## One operation -/

/-- An operation touches the names that it mentions: it gives them the type that it declares,
or leaves them their own. -/
theorem nodeType?_step (history : History) (operation : Operation) (name : String) :
    (history.step operation).graph.nodeType? name =
      if operation.mentions name then
        some ((operation.typeOf? name).getD ((history.graph.nodeType? name).getD .unknown))
      else history.graph.nodeType? name := by
  cases operation with
  | declare declared type =>
    rw [History.step, nodeType?_declare]
    by_cases same : declared = name
    · simp [Operation.mentions, Operation.typeOf?, same]
    · simp [Operation.mentions, same, Ne.symm same]
  | edge source target =>
    rw [History.step, insertEdge, nodeType?_addEdge]
    simp [Operation.mentions, Operation.typeOf?, eq_comm (a := name)]

theorem hasEdge_step {history : History} {operation : Operation} :
    (history.step operation).graph.hasEdge source target = true ↔
      history.graph.hasEdge source target = true ∨ operation = .edge source target := by
  cases operation with
  | declare declared type => simp [History.step]
  | edge first second =>
    rw [History.step, insertEdge, hasEdge_addEdge, Operation.edge.injEq, eq_comm (a := first),
      eq_comm (a := second)]

/-! ## All operations -/

theorem run_concat (operations : List Operation) (operation : Operation) :
    run (operations ++ [operation]) = (run operations).step operation :=
  List.foldl_concat ..

theorem nodeType?_run (operations : List Operation) (name : String) :
    (run operations).graph.nodeType? name =
      if operations.any (Operation.mentions name) then
        some ((declaredTypes operations name).getLast?.getD .unknown)
      else none := by
  induction operations using List.reverseRecOn with
  | nil => rfl
  | append_singleton operations operation inductionHypothesis =>
    have declared : declaredTypes (operations ++ [operation]) name =
        declaredTypes operations name ++ (operation.typeOf? name).toList := by
      rw [declaredTypes, List.filterMap_append]
      cases here : operation.typeOf? name <;> simp [declaredTypes, here]
    rw [run_concat, nodeType?_step, inductionHypothesis, List.any_append, declared]
    cases mentioned : operation.mentions name with
    | false =>
      -- An operation that does not mention the name declares no type for it.
      have none : operation.typeOf? name = none := by
        cases operation with
        | declare other type => simpa [Operation.mentions, Operation.typeOf?] using mentioned
        | edge source target => rfl
      simp [mentioned, none]
    | true =>
      cases here : operation.typeOf? name with
      | some type => simp [mentioned]
      | none =>
        cases before : operations.any (Operation.mentions name) with
        | true => simp [mentioned]
        | false =>
          -- Nothing was declared for a name that was not mentioned.
          have undeclared : declaredTypes operations name = [] := by
            refine List.filterMap_eq_nil_iff.2 fun other member => ?_
            have unmentioned := List.any_eq_false.1 before other member
            cases other with
            | declare declared type =>
              simpa [Operation.mentions, Operation.typeOf?] using unmentioned
            | edge source target => rfl
          simp [mentioned, undeclared]

theorem hasEdge_run : (run operations).graph.hasEdge source target = true ↔
    .edge source target ∈ operations := by
  induction operations using List.reverseRecOn with
  | nil => simp [run, hasEdge, empty, SortedMap.contains, SortedMap.empty]
  | append_singleton operations operation inductionHypothesis =>
    rw [run_concat, hasEdge_step, inductionHypothesis, List.mem_append, List.mem_singleton]
    exact or_congr_right eq_comm

theorem records_run (operations : List Operation) : (run operations).graph.Records operations := by
  have present : ∀ name, name ∈ (run operations).graph.nodeList.map Prod.fst ↔
      operations.any (Operation.mentions name) = true := by
    intro name
    have known : name ∈ (run operations).graph.nodeList.map Prod.fst ↔
        ((run operations).graph.nodeType? name).isSome := by
      rw [← mem_names]
      simp
    rw [known, nodeType?_run]
    split <;> simp_all
  refine ⟨?_, fun name => (present name).trans exists_mentions_iff, ?_, ?_⟩
  · intro source target member
    rw [mem_edgeList, hasEdge_run] at member
    exact ⟨(present source).2 (exists_mentions_iff.2 (.inr ⟨target, .inl member⟩)),
      (present target).2 (exists_mentions_iff.2 (.inr ⟨source, .inr member⟩))⟩
  · intro name type member
    have here : (run operations).graph.nodeType? name = some type :=
      SortedMap.mem_entries_iff.1 member
    rw [nodeType?_run] at here
    split at here
    · exact (Option.some.inj here).symm
    · cases here
  · intro source target
    rw [mem_edgeList, hasEdge_run]

/-! ## Answers -/

theorem length_answers (operations : List Operation) :
    (run operations).answers.length = operations.length := by
  induction operations using List.reverseRecOn with
  | nil => rfl
  | append_singleton operations operation inductionHypothesis =>
    rw [run_concat]
    cases operation <;> simp [History.step, insertEdge, inductionHypothesis]

/-- What was answered stays as it is. -/
theorem answers_kept (before after : List Operation) :
    (run before).answers <+: (run (before ++ after)).answers := by
  induction after using List.reverseRecOn with
  | nil => simp
  | append_singleton after operation inductionHypothesis =>
    refine inductionHypothesis.trans ?_
    rw [← List.append_assoc, run_concat]
    cases operation with
    | declare name type => exact List.prefix_append _ _
    | edge source target => exact List.prefix_append _ _

/-- An edge is new where it was not added before. -/
theorem answer_edge (before after : List Operation) (source target : String) :
    (run (before ++ .edge source target :: after)).answers[before.length]? =
      some (some (decide (.edge source target ∉ before))) := by
  have last : (run (before ++ [.edge source target])).answers =
      (run before).answers ++ [some (!(run before).graph.hasEdge source target)] := by
    rw [run_concat]
    rfl
  have isNew : (!(run before).graph.hasEdge source target) =
      decide (.edge source target ∉ before) := by
    rw [Bool.eq_iff_iff, Bool.not_eq_true', decide_eq_true_iff, ← hasEdge_run, Bool.not_eq_true]
  have kept := answers_kept (before ++ [.edge source target]) after
  rw [List.append_assoc, List.singleton_append, last] at kept
  rw [List.prefix_iff_getElem?.1 kept before.length (by simp [length_answers])]
  simp [length_answers, isNew]

/-! ## Order -/

theorem graph_run_of_perm (reordered : others.Perm operations)
    (types : ∀ name, declaredTypes others name = declaredTypes operations name) :
    (run others).graph = (run operations).graph := by
  refine ext_lookups (fun name => ?_) fun source target => ?_
  · have mentioned : others.any (Operation.mentions name) =
        operations.any (Operation.mentions name) := by
      rw [Bool.eq_iff_iff, List.any_eq_true, List.any_eq_true]
      simp only [reordered.mem_iff]
    rw [nodeType?_run, nodeType?_run, types, mentioned]
  · rw [Bool.eq_iff_iff, hasEdge_run, hasEdge_run, reordered.mem_iff]

/-- A graph holds what its operations say, in ascending order, and an edge is new exactly the
first time it is added.  The same operations in another order come to the same graph as long as
those that declare one name stay in order. -/
theorem run_spec (operations : List Operation) :
    (run operations).graph.Records operations ∧
      (run operations).graph.nodeList.Pairwise (fun a b => a.1 < b.1) ∧
      (run operations).graph.edgeList.Pairwise (fun a b =>
        a.source < b.source ∨ (a.source = b.source ∧ a.target < b.target)) ∧
      (∀ before source target after, operations = before ++ .edge source target :: after →
        (run operations).answers[before.length]? =
          some (some (decide (.edge source target ∉ before)))) ∧
      ∀ others, others.Perm operations →
        (∀ name, declaredTypes others name = declaredTypes operations name) →
        (run others).graph = (run operations).graph := by
  refine ⟨records_run operations, ascending_nodeList _, ascending_edgeList _, ?_,
    fun others reordered types => graph_run_of_perm reordered types⟩
  rintro before source target after rfl
  exact answer_edge before after source target

/-- A name that is an end of edges before and behind its declarations. -/
theorem run_spec_late :
    let late : List Operation := [.edge "a" "b", .declare "b" .recorded, .edge "b" "b",
      .declare "b" .alerted, .edge "a" "b"]
    let early : List Operation := [.declare "b" .recorded, .declare "b" .alerted, .edge "a" "b",
      .edge "a" "b", .edge "b" "b"]
    (run late).graph.nodeList = [("a", .unknown), ("b", .alerted)] ∧
      (run late).answers[4]? = some (some false) ∧ (run early).graph = (run late).graph := by
  intro late early
  obtain ⟨-, -, -, answers, orders⟩ := run_spec late
  have reordered : early.Perm late := by decide
  have types : ∀ name, declaredTypes early name = declaredTypes late name := by
    intro name
    by_cases same : "b" = name
    · subst same
      decide
    · simp [early, late, declaredTypes, Operation.typeOf?, List.filterMap_cons, same]
  refine ⟨by decide +kernel, ?_, orders early reordered types⟩
  exact answers [.edge "a" "b", .declare "b" .recorded, .edge "b" "b", .declare "b" .alerted] "a"
    "b" [] rfl

end RuleAtlas.RuleGraph
