import Mathlib.Data.List.Induction
import RuleAtlas.Graph.Building
import RuleAtlas.Proofs.Graph.References
import RuleAtlas.Proofs.Query.Steps

/-! # The graph of rules

What the graph of some rules holds, said of the rules alone: a name has the type of the last
rule of that name, and an edge leads from a rule's name to each name that the rule refers to.
Building the graph keeps to this although references are looked up while edges are added,
since an edge adds no alert and changes the type of no node. -/

namespace RuleAtlas

open Query

/-! ## What rules say -/

/-- The rules of groups, in the order of the input. -/
def allRules (groups : List RuleGroup) : List Rule := groups.flatMap RuleGroup.rules

/-- The kind of the last rule of the name. -/
def declaredKind? (rules : List Rule) (name : String) : Option RuleKind :=
  (rules.filter (·.name = name)).getLast?.map Rule.kind

/-- The selector refers to the name: one of the alert series to every declared alert that
satisfies one of its matchers on the name of the alert, any other one to its own name. -/
def Query.Selector.RefersTo (rules : List Rule) (selector : Selector) (target : String) : Prop :=
  ∃ name, selector.name = some name ∧ name ≠ "" ∧
    if name = alertsSeries then
      declaredKind? rules target = some .alerting ∧
        ∃ matcher ∈ selector.matchers, matcher.label = alertNameLabel ∧
          matcher.accepts target = true
    else target = name

namespace Rule

def Parses (rule : Rule) : Prop := ∃ expr, Expr.parse rule.expr = .ok expr

/-- Among the rules, the expression of this one refers to the name. -/
def RefersTo (rules : List Rule) (rule : Rule) (target : String) : Prop :=
  ∃ expr, Expr.parse rule.expr = .ok expr ∧
    ∃ selector, .vector selector ∈ expr.leafList ∧ selector.RefersTo rules target

end Rule

/-- The graph is that of the rules. -/
structure RuleGraph.Describes (graph : RuleGraph) (rules : List Rule) : Prop where
  names : ∀ name, (∃ type, (name, type) ∈ graph.nodeList) ↔
    ∃ rule ∈ rules, rule.name = name ∨ rule.RefersTo rules name
  types : ∀ name type, (name, type) ∈ graph.nodeList →
    type = ((declaredKind? rules name).map RuleKind.nodeType).getD .unknown
  unknown : ∀ name type, (name, type) ∈ graph.nodeList →
    (type = .unknown ↔ ∀ rule ∈ rules, rule.name ≠ name)
  edges : ∀ source target, ⟨source, target⟩ ∈ graph.edgeList ↔
    ∃ rule ∈ rules, rule.name = source ∧ rule.RefersTo rules target

variable {rules others done : List Rule} {rule : Rule} {graph : RuleGraph}
  {name source target : String}

theorem declaredKind?_concat (rules : List Rule) (rule : Rule) (name : String) :
    declaredKind? (rules ++ [rule]) name =
      if rule.name = name then some rule.kind else declaredKind? rules name := by
  unfold declaredKind?
  by_cases same : rule.name = name <;> simp [List.filter_append, same]

theorem declaredKind?_eq_none :
    declaredKind? rules name = none ↔ ∀ rule ∈ rules, rule.name ≠ name := by
  simp [declaredKind?]

theorem exists_of_declaredKind? {kind : RuleKind}
    (declared : declaredKind? rules name = some kind) :
    ∃ rule ∈ rules, rule.name = name ∧ rule.kind = kind := by
  obtain ⟨rule, last, rfl⟩ := Option.map_eq_some_iff.1 declared
  obtain ⟨member, same⟩ := List.mem_filter.1 (List.mem_of_getLast? last)
  exact ⟨rule, member, by simpa using same, rfl⟩

theorem refersTo_congr (same : ∀ name, declaredKind? rules name = declaredKind? others name) :
    rule.RefersTo rules target ↔ rule.RefersTo others target := by
  simp only [Rule.RefersTo, Selector.RefersTo, same]

namespace RuleGraph

/-! ## Declarations -/

theorem nodeType?_declareRules (rules : List Rule) (name : String) :
    (rules.foldl declareRule empty).nodeType? name =
      (declaredKind? rules name).map RuleKind.nodeType := by
  induction rules using List.reverseRecOn with
  | nil => rfl
  | append_singleton rules rule inductionHypothesis =>
    rw [List.foldl_concat, declareRule, nodeType?_declare, inductionHypothesis,
      declaredKind?_concat]
    by_cases same : rule.name = name
    · simp [same]
    · simp [same, Ne.symm same]

theorem hasEdge_declareRules (rules : List Rule) (source target : String) :
    (rules.foldl declareRule empty).hasEdge source target = false := by
  induction rules using List.reverseRecOn with
  | nil => rfl
  | append_singleton rules rule inductionHypothesis =>
    rw [List.foldl_concat, declareRule, hasEdge_declare, inductionHypothesis]

/-! ## Edges of one rule -/

theorem addEdges_cons (graph : RuleGraph) (source target : String) (targets : List String) :
    graph.addEdges source (target :: targets) =
      (graph.addEdge source target).addEdges source targets := rfl

/-- Edges from a node that is there add their targets, of no known type. -/
theorem nodeType?_addEdges {targets : List String} (present : (graph.nodeType? source).isSome) :
    (graph.addEdges source targets).nodeType? name =
      if name ∈ targets then some ((graph.nodeType? name).getD .unknown)
      else graph.nodeType? name := by
  induction targets generalizing graph with
  | nil => simp [addEdges]
  | cons target targets inductionHypothesis =>
    obtain ⟨type, here⟩ := Option.isSome_iff_exists.1 present
    -- The source is there, so the first edge adds its target alone.
    have after : (graph.addEdge source target).nodeType? name =
        if name = target then some ((graph.nodeType? name).getD .unknown)
        else graph.nodeType? name := by
      rw [nodeType?_addEdge]
      by_cases atSource : name = source
      · simp [atSource, here]
      · simp [atSource]
    have still : ((graph.addEdge source target).nodeType? source).isSome := by
      simp [nodeType?_addEdge]
    rw [addEdges_cons, inductionHypothesis still, after]
    by_cases atTarget : name = target
    · simp [atTarget]
    · simp [atTarget]

theorem hasEdge_addEdges {targets : List String} {a b : String} :
    (graph.addEdges source targets).hasEdge a b = true ↔
      graph.hasEdge a b = true ∨ (a = source ∧ b ∈ targets) := by
  induction targets generalizing graph with
  | nil => simp [addEdges]
  | cons target targets inductionHypothesis =>
    rw [addEdges_cons, inductionHypothesis, hasEdge_addEdge, List.mem_cons]
    tauto

/-! ## Edges of all rules -/

/-- The graph while edges are added: the rules are declared, and the edges of some are there. -/
structure Adding (rules done : List Rule) (graph : RuleGraph) : Prop where
  declared : ∀ name kind, declaredKind? rules name = some kind →
    graph.nodeType? name = some kind.nodeType
  undeclared : ∀ name type, declaredKind? rules name = none →
    (graph.nodeType? name = some type ↔
      type = .unknown ∧ ∃ rule ∈ done, rule.RefersTo rules name)
  edges : ∀ source target, graph.hasEdge source target = true ↔
    ∃ rule ∈ done, rule.name = source ∧ rule.RefersTo rules target

theorem adding_declareRules (rules : List Rule) :
    Adding rules [] (rules.foldl declareRule empty) where
  declared name kind here := by rw [nodeType?_declareRules, here, Option.map_some]
  undeclared name type here := by simp [nodeType?_declareRules, here]
  edges source target := by simp [hasEdge_declareRules]

namespace Adding

/-- Which nodes are alerts does not change while edges are added. -/
theorem alerted_iff (adding : Adding rules done graph) :
    graph.nodeType? name = some .alerted ↔ declaredKind? rules name = some .alerting := by
  cases here : declaredKind? rules name with
  | none => simp [adding.undeclared name .alerted here]
  | some kind =>
    rw [adding.declared name kind here]
    cases kind <;> simp [RuleKind.nodeType]

theorem mem_references (adding : Adding rules done graph) {expr : Expr}
    (parsed : Expr.parse rule.expr = .ok expr) :
    target ∈ graph.references expr ↔ rule.RefersTo rules target := by
  have selectors : target ∈ graph.references expr ↔
      ∃ selector, .vector selector ∈ expr.leafList ∧ selector.RefersTo rules target := by
    simp only [RuleGraph.mem_references, mem_referencesOf, adding.alerted_iff, Selector.RefersTo]
  rw [selectors, Rule.RefersTo]
  constructor
  · intro found
    exact ⟨expr, parsed, found⟩
  · rintro ⟨other, parsedToo, found⟩
    rw [parsed] at parsedToo
    cases parsedToo
    exact found

theorem addEdges (adding : Adding rules done graph) (member : rule ∈ rules) {expr : Expr}
    (parsed : Expr.parse rule.expr = .ok expr) :
    Adding rules (done ++ [rule]) (graph.addEdges rule.name (graph.references expr)) := by
  have present : (graph.nodeType? rule.name).isSome := by
    cases here : declaredKind? rules rule.name with
    | none => exact absurd rfl (declaredKind?_eq_none.1 here rule member)
    | some kind => rw [adding.declared rule.name kind here, Option.isSome_some]
  constructor
  · -- A declared name is there already and keeps its type.
    intro name kind here
    simp [nodeType?_addEdges present, adding.declared name kind here]
  · -- A name without a rule appears once something refers to it, and has no known type.
    intro name type here
    have noType : (graph.nodeType? name).getD .unknown = .unknown := by
      cases found : graph.nodeType? name with
      | none => rfl
      | some other => exact ((adding.undeclared name other here).1 found).1
    rw [nodeType?_addEdges present, noType]
    by_cases refers : name ∈ graph.references expr
    · have found := (adding.mem_references parsed).1 refers
      rw [if_pos refers, Option.some_inj]
      constructor
      · rintro rfl
        exact ⟨rfl, rule, List.mem_append_right _ List.mem_cons_self, found⟩
      · rintro ⟨rfl, -⟩
        rfl
    · have apart : ¬rule.RefersTo rules name := fun found =>
        refers ((adding.mem_references parsed).2 found)
      simp [if_neg refers, adding.undeclared name type here, or_and_right, exists_or, apart]
  · intro source target
    rw [hasEdge_addEdges, adding.edges, adding.mem_references parsed]
    simp [or_and_right, exists_or, eq_comm]

theorem addRules (adding : Adding rules done graph) {remaining : List Rule}
    (members : ∀ rule ∈ remaining, rule ∈ rules) (parse : ∀ rule ∈ remaining, rule.Parses) :
    ∃ built, graph.addRules remaining = .ok built ∧ Adding rules (done ++ remaining) built := by
  -- The invariant is handed from rule to rule.
  induction remaining generalizing done graph with
  | nil => exact ⟨graph, rfl, by simpa using adding⟩
  | cons rule remaining inductionHypothesis =>
    obtain ⟨expr, parsed⟩ := parse rule List.mem_cons_self
    have next := adding.addEdges (members rule List.mem_cons_self) parsed
    obtain ⟨built, came, whole⟩ := inductionHypothesis next
      (fun other member => members other (List.mem_cons_of_mem _ member))
      (fun other member => parse other (List.mem_cons_of_mem _ member))
    refine ⟨built, ?_, by simpa using whole⟩
    rw [RuleGraph.addRules, addRule, parsed]
    exact came

/-- Once all edges are there the graph is that of the rules. -/
theorem describes (adding : Adding rules rules graph) : graph.Describes rules := by
  have types : ∀ name type, (name, type) ∈ graph.nodeList ↔ graph.nodeType? name = some type :=
    fun name type => SortedMap.mem_entries_iff
  constructor
  · intro name
    simp only [types]
    -- A name has a rule, or it appeared because a rule refers to it.
    cases here : declaredKind? rules name with
    | none =>
      constructor
      · rintro ⟨type, found⟩
        obtain ⟨-, rule, member, refers⟩ := (adding.undeclared name type here).1 found
        exact ⟨rule, member, .inr refers⟩
      · rintro ⟨rule, member, same | refers⟩
        · exact absurd same (declaredKind?_eq_none.1 here rule member)
        · exact ⟨.unknown, (adding.undeclared name .unknown here).2 ⟨rfl, rule, member, refers⟩⟩
    | some kind =>
      obtain ⟨rule, member, same, -⟩ := exists_of_declaredKind? here
      exact ⟨fun _ => ⟨rule, member, .inl same⟩,
        fun _ => ⟨kind.nodeType, adding.declared name kind here⟩⟩
  · intro name type member
    rw [types] at member
    cases here : declaredKind? rules name with
    | none => exact ((adding.undeclared name type here).1 member).1
    | some kind =>
      rw [adding.declared name kind here] at member
      exact (Option.some.inj member).symm
  · intro name type member
    rw [types] at member
    cases here : declaredKind? rules name with
    | none =>
      have noRule := declaredKind?_eq_none.1 here
      exact ⟨fun _ => noRule, fun _ => ((adding.undeclared name type here).1 member).1⟩
    | some kind =>
      rw [adding.declared name kind here] at member
      obtain ⟨rule, found, same, -⟩ := exists_of_declaredKind? here
      refine ⟨?_, fun noRule => absurd same (noRule rule found)⟩
      rintro rfl
      cases kind <;> cases member
  · intro source target
    rw [mem_edgeList, adding.edges]

end Adding

/-- The first rule without an expression is reported. -/
theorem addRules_of_error {before after : List Rule} {error : QueryError} (graph : RuleGraph)
    (parse : ∀ rule ∈ before, rule.Parses) (failed : Expr.parse rule.expr = .error error) :
    graph.addRules (before ++ rule :: after) = .error ⟨rule, error⟩ := by
  induction before generalizing graph with
  | nil => rw [List.nil_append, addRules, addRule, failed]
  | cons first before inductionHypothesis =>
    obtain ⟨expr, parsed⟩ := parse first List.mem_cons_self
    rw [List.cons_append, addRules, addRule, parsed]
    exact inductionHypothesis _ fun other member => parse other (List.mem_cons_of_mem _ member)

/-! ## All groups -/

/-- A graph is determined by the rules, and these only count as a set with their last kinds. -/
theorem Describes.eq {other : RuleGraph} (describes : graph.Describes rules)
    (describesToo : other.Describes others) (members : ∀ rule, rule ∈ rules ↔ rule ∈ others)
    (kinds : ∀ name, declaredKind? rules name = declaredKind? others name) : graph = other := by
  have refers : ∀ (rule : Rule) (target : String),
      rule.RefersTo rules target ↔ rule.RefersTo others target :=
    fun rule target => refersTo_congr kinds
  -- The same names are nodes, and their types come from the same last rules.
  refine ext_lookups (fun name => ?_) fun source target => ?_
  · have present : (graph.nodeType? name).isSome ↔ (other.nodeType? name).isSome := by
      rw [← mem_names, ← mem_names, describes.names, describesToo.names]
      simp only [members, refers]
    have same : ∀ type otherType, graph.nodeType? name = some type →
        other.nodeType? name = some otherType → type = otherType := by
      intro type otherType here there
      rw [describes.types name type (SortedMap.mem_entries_iff.2 here),
        describesToo.types name otherType (SortedMap.mem_entries_iff.2 there), kinds]
    cases here : graph.nodeType? name with
    | none =>
      cases there : other.nodeType? name with
      | none => rfl
      | some otherType => simp [here, there] at present
    | some type =>
      cases there : other.nodeType? name with
      | none => simp [here, there] at present
      | some otherType => rw [same type otherType here there]
  · rw [Bool.eq_iff_iff, ← mem_edgeList, ← mem_edgeList, describes.edges, describesToo.edges]
    simp only [members, refers]

theorem ofGroups_of_parses {groups : List RuleGroup}
    (parse : ∀ rule ∈ allRules groups, rule.Parses) :
    ∃ graph, ofGroups groups = .ok graph ∧ graph.Describes (allRules groups) := by
  obtain ⟨graph, came, adding⟩ := (adding_declareRules (allRules groups)).addRules
    (fun rule member => member) parse
  exact ⟨graph, came, adding.describes⟩

/-- The graph of groups is that of their rules if all of these have expressions, and however
else the rules are grouped and ordered, they have this graph as long as every name keeps the
kind declared last.  Otherwise the first rule without an expression is reported. -/
theorem ofGroups_spec (groups : List RuleGroup) :
    ((∀ rule ∈ allRules groups, rule.Parses) →
      ∃ graph, ofGroups groups = .ok graph ∧ graph.Describes (allRules groups) ∧
        ∀ others, (allRules others).Perm (allRules groups) →
          (∀ name, declaredKind? (allRules others) name = declaredKind? (allRules groups) name) →
          ofGroups others = .ok graph) ∧
    ∀ before rule after error, allRules groups = before ++ rule :: after →
      (∀ earlier ∈ before, earlier.Parses) → Expr.parse rule.expr = .error error →
      ∃ failed, ofGroups groups = .error failed ∧ failed.toFailure.kind = .parseFailed ∧
        failed.toFailure.context = [("rule", rule.name), ("expr", rule.expr)] := by
  constructor
  · intro parse
    obtain ⟨graph, came, describes⟩ := ofGroups_of_parses parse
    refine ⟨graph, came, describes, fun others reordered kinds => ?_⟩
    obtain ⟨other, otherCame, describesToo⟩ := @ofGroups_of_parses others fun rule member =>
      parse rule (reordered.mem_iff.1 member)
    rw [otherCame, describesToo.eq describes (fun rule => reordered.mem_iff) kinds]
  · intro before rule after error same parse failed
    refine ⟨⟨rule, error⟩, ?_, rfl, rfl⟩
    unfold ofGroups
    dsimp only
    rw [show groups.flatMap RuleGroup.rules = _ from same]
    exact addRules_of_error _ parse failed

/-- A rule that refers to an alert of a later group, which is declared with braces behind its
name, and a group behind them whose rule has no expression. -/
theorem ofGroups_spec_later :
    let early : RuleGroup :=
      ⟨"early", none, none, [.of .alerting "First" "ALERTS\x7balertname='Last'\x7d"]⟩
    let late : RuleGroup := ⟨"late", none, none, [.of .alerting "Last\x7ba\x7d" "up"]⟩
    let broken : RuleGroup := ⟨"broken", none, none, [.of .recording "sum" ""]⟩
    (∃ graph, ofGroups [early, late] = .ok graph ∧ graph.Describes (allRules [early, late]) ∧
      graph.nodeList = [("First", .alerted), ("Last", .alerted), ("up", .unknown)] ∧
      graph.edgeList = [⟨"First", "Last"⟩, ⟨"Last", "up"⟩]) ∧
      ∃ failed, ofGroups [early, late, broken] = .error failed ∧
        failed.toFailure.context = [("rule", "sum"), ("expr", "")] := by
  intro early late broken
  have both : ∀ rule ∈ allRules [early, late], rule.Parses := by
    have first : (Rule.of .alerting "First" "ALERTS\x7balertname='Last'\x7d").Parses :=
      exists_eq_ok_of_isOk (by decide +kernel)
    have last : (Rule.of .alerting "Last\x7ba\x7d" "up").Parses :=
      exists_eq_ok_of_isOk (by decide +kernel)
    simp [allRules, early, late, first, last]
  have drawn :
      (ofGroups [early, late]).toOption.map (fun graph => (graph.nodeList, graph.edgeList)) =
        some ([("First", .alerted), ("Last", .alerted), ("up", .unknown)],
          [⟨"First", "Last"⟩, ⟨"Last", "up"⟩]) := by
    decide +kernel
  have noExpr : (Expr.parse "").isOk = false := by decide +kernel
  constructor
  · obtain ⟨graph, came, describes, -⟩ := (ofGroups_spec [early, late]).1 both
    rw [came] at drawn
    obtain ⟨nodes, edges⟩ := Prod.mk.inj (Option.some.inj drawn)
    exact ⟨graph, came, describes, nodes, edges⟩
  · cases failed : Expr.parse "" with
    | ok expr =>
      rw [failed] at noExpr
      cases noExpr
    | error error =>
      obtain ⟨report, came, -, context⟩ := (ofGroups_spec [early, late, broken]).2
        (allRules [early, late]) (.of .recording "sum" "") [] error rfl both failed
      exact ⟨report, came, context⟩

end RuleGraph

end RuleAtlas
