import RuleAtlas.Proofs.Query.Places

/-! # Visiting

A visitor has a method for each kind of node, and a method that is not overridden goes on to the
parts of the node.  With methods for the leaves alone every leaf is visited once, in the order
in which the leaves are written.  A visitor that leaves out the parts of some nodes does what it
does without leaving any out, except below these nodes. -/

namespace RuleAtlas.Query

variable {σ α : Type}

/-! ## Methods -/

/-- What is done at the nodes of each kind.  The method for nodes with operands is given the
node and what visits its operands. -/
structure Methods (σ : Type) where
  number : Binary64 → σ → σ := fun _ state => state
  string : String → σ → σ := fun _ state => state
  vector : Selector → σ → σ := fun _ state => state
  matrix : Selector → Duration → σ → σ := fun selector _ => vector selector
  subquery : Expr → (σ → σ) → σ → σ := fun _ descend => descend
  call : Expr → (σ → σ) → σ → σ := fun _ descend => descend
  aggregate : Expr → (σ → σ) → σ → σ := fun _ descend => descend
  binary : Expr → (σ → σ) → σ → σ := fun _ descend => descend
  unary : Expr → (σ → σ) → σ → σ := fun _ descend => descend
  paren : Expr → (σ → σ) → σ → σ := fun _ descend => descend

namespace Methods

/-- The method for the kind of a node. -/
def dispatch (methods : Methods σ) (expr : Expr) (descend : σ → σ) : σ → σ :=
  match expr with
  | .number value => methods.number value
  | .string value => methods.string value
  | .vector selector => methods.vector selector
  | .matrix selector range => methods.matrix selector range
  | .subquery _ _ => methods.subquery expr descend
  | .call _ _ => methods.call expr descend
  | .aggregate _ _ _ _ => methods.aggregate expr descend
  | .binary _ _ _ => methods.binary expr descend
  | .unary _ _ => methods.unary expr descend
  | .paren _ => methods.paren expr descend

def visit (methods : Methods σ) (expr : Expr) : σ → σ :=
  methods.dispatch expr fun state =>
    expr.children.attach.foldl (fun state child => methods.visit child.1 state) state
termination_by sizeOf expr
decreasing_by exact Expr.sizeOf_lt_of_mem_children child.2

theorem visit_eq (methods : Methods σ) (expr : Expr) : methods.visit expr =
    methods.dispatch expr fun state =>
      expr.children.foldl (fun state child => methods.visit child state) state := by
  rw [visit]
  refine congrArg (methods.dispatch expr) (funext fun state => ?_)
  rw [List.foldl_attach (f := fun state child => methods.visit child state)]

end Methods

namespace Visitor

/-- Enters a node, and then goes on to its parts if the visitor says so. -/
def enterThen (visitor : Visitor σ) (expr : Expr) (descend : σ → σ) (state : σ) : σ :=
  if (visitor.enter expr state).2 then descend (visitor.enter expr state).1
  else (visitor.enter expr state).1

/-- The methods of a visitor that treats all nodes with parts alike. -/
def methods (visitor : Visitor σ) : Methods σ where
  number := visitor.number
  string := visitor.string
  vector := visitor.vector
  matrix selector range := visitor.enterThen (.matrix selector range) (visitor.vector selector)
  subquery := visitor.enterThen
  call := visitor.enterThen
  aggregate := visitor.enterThen
  binary := visitor.enterThen
  unary := visitor.enterThen
  paren := visitor.enterThen

/-- A walk calls the methods of the visitor. -/
theorem walk_eq_visit (visitor : Visitor σ) (expr : Expr) (state : σ) :
    visitor.walk expr state = visitor.methods.visit expr state := by
  induction expr using Expr.inductionOnParts generalizing state with
  | step expr inductionHypothesis =>
    rw [Methods.visit_eq]
    cases isLeaf : expr.leaf? with
    | some leaf => cases expr <;> first | (rw [walk]; rfl) | cases isLeaf
    | none =>
      have operands (state : σ) :
          expr.children.foldl (fun state child => visitor.walk child state) state =
            expr.children.foldl (fun state child => visitor.methods.visit child state) state := by
        refine List.foldl_ext _ _ _ fun state child member => inductionHypothesis child ?_ state
        cases expr <;> first | exact member | cases isLeaf
      rw [walk_node visitor isLeaf, operands]
      cases expr <;> first | rfl | cases isLeaf

end Visitor

/-! ## Leaves -/

/-- The leaf that an expression without parts is. -/
def Expr.asLeaf? : Expr → Option Leaf
  | .number value => some (.number value)
  | .string value => some (.string value)
  | .vector selector => some (.vector selector)
  | _ => none

/-- A leaf on its own is an expression. -/
def Leaf.expr : Leaf → Expr
  | .number value => .number value
  | .string value => .string value
  | .vector selector => .vector selector

theorem Expr.asLeaf?_eq_some_iff {expr : Expr} {leaf : Leaf} :
    expr.asLeaf? = some leaf ↔ expr = leaf.expr := by
  constructor
  · intro isLeaf
    cases expr <;> cases isLeaf <;> rfl
  · rintro rfl
    cases leaf <;> rfl

/-- An expression is a leaf, or its leaves are those of its parts. -/
theorem Expr.leafList_eq_parts (expr : Expr) :
    expr.leafList = expr.asLeaf?.toList ++ expr.parts.flatMap leafList := by
  cases expr with
  | aggregate op parameter body grouping =>
    cases parameter <;> simp [leafList, leafListOption, asLeaf?, parts]
  | _ => simp [leafList, asLeaf?, parts]

/-- The leaves with their paths are those of the recursion. -/
theorem Expr.map_snd_marks_asLeaf (expr : Expr) :
    (expr.marks asLeaf?).map Prod.snd = expr.leafList := by
  induction expr using inductionOnParts with
  | step expr inductionHypothesis =>
    rw [map_snd_marks, leafList_eq_parts, List.flatMap_congr inductionHypothesis]

theorem Expr.parts_leaf (leaf : Leaf) : leaf.expr.parts = [] := by
  cases leaf <;> rfl

/-- The method for leaves of the kind of a leaf. -/
def Methods.leaf (methods : Methods σ) : Leaf → σ → σ
  | .number value => methods.number value
  | .string value => methods.string value
  | .vector selector => methods.vector selector

namespace Visitor

theorem walk_leaf (visitor : Visitor σ) (leaf : Leaf) :
    visitor.walk leaf.expr = visitor.methods.leaf leaf := by
  funext state
  cases leaf <;> (rw [Leaf.expr, walk]; rfl)

/-- At a node with parts a walk enters the node, and then goes on to them one by one. -/
theorem walk_parts (visitor : Visitor σ) {expr : Expr} (node : expr.asLeaf? = none) (state : σ) :
    visitor.walk expr state = visitor.enterThen expr
      (fun state => expr.parts.foldl (fun state part => visitor.walk part state) state) state := by
  cases expr with
  | number value => cases node
  | string value => cases node
  | vector selector => cases node
  | matrix selector range =>
    have inside := visitor.walk_leaf (.vector selector)
    rw [Leaf.expr] at inside
    rw [walk, enterThen, Expr.parts, List.foldl_cons, List.foldl_nil, inside]
    rfl
  | _ => exact walk_node visitor rfl state

/-- A visitor that goes everywhere visits every leaf once, from left to right. -/
theorem walk_everywhere {visitor : Visitor σ}
    (everywhere : ∀ expr state, visitor.enter expr state = (state, true)) (expr : Expr)
    (state : σ) : visitor.walk expr state =
      expr.leafList.foldl (fun state leaf => visitor.methods.leaf leaf state) state := by
  induction expr using Expr.inductionOnParts generalizing state with
  | step expr inductionHypothesis =>
    rw [Expr.leafList_eq_parts]
    cases isLeaf : expr.asLeaf? with
    | some leaf =>
      obtain rfl := Expr.asLeaf?_eq_some_iff.1 isLeaf
      rw [walk_leaf, Expr.parts_leaf]
      rfl
    | none =>
      rw [walk_parts visitor isLeaf, enterThen, everywhere, if_pos rfl, Option.toList_none,
        List.nil_append, List.foldl_flatMap]
      exact List.foldl_ext _ _ _ fun state part member => inductionHypothesis part member state

end Visitor

/-! ## Events -/

/-- The kind of a node with parts. -/
def Expr.nodeKind? : Expr → Option ExprKind
  | .number _ => none
  | .string _ => none
  | .vector _ => none
  | .matrix _ _ => some .matrixSelector
  | .subquery _ _ => some .subquery
  | .call _ _ => some .call
  | .aggregate _ _ _ _ => some .aggregate
  | .binary _ _ _ => some .binary
  | .unary _ _ => some .unary
  | .paren _ => some .paren

/-- The event at a node that has one, when nothing is left out. -/
def Expr.event? (expr : Expr) : Option Step :=
  match expr with
  | .vector selector => some (.vector selector)
  | expr => expr.nodeKind?.map (.node · false)

/-- The event with the mark that says whether the parts of the node are left out. -/
def Step.flagged (prunes : ExprKind → Bool) : Step → Step
  | .vector selector => .vector selector
  | .node kind _ => .node kind (prunes kind)

/-- There is a node on the way, before the end of the path, whose parts are left out. -/
def Expr.Hidden (prunes : ExprKind → Bool) (expr : Expr) (path : List Nat) : Prop :=
  ∃ above node, above <+: path ∧ above ≠ path ∧ expr.at? above = some node ∧
    node.nodeKind?.any prunes = true

/-- The event of a node and then those of its parts, unless they are left out. -/
def Step.before (prunes : ExprKind → Bool) (kind : ExprKind) (below : List Step) : List Step :=
  .node kind (prunes kind) :: if prunes kind then [] else below

namespace Expr

mutual

/-- The events of a visit that leaves out the parts of nodes of some kinds: a node comes before
its parts, and these come from left to right. -/
def eventList (prunes : ExprKind → Bool) : Expr → List Step
  | .number _ => []
  | .string _ => []
  | .vector selector => [.vector selector]
  | .matrix selector _ => Step.before prunes .matrixSelector [.vector selector]
  | .subquery body _ => Step.before prunes .subquery (eventList prunes body)
  | .call _ arguments => Step.before prunes .call (eventListAll prunes arguments)
  | .aggregate _ parameter body _ =>
    Step.before prunes .aggregate (eventListOption prunes parameter ++ eventList prunes body)
  | .binary _ left right =>
    Step.before prunes .binary (eventList prunes left ++ eventList prunes right)
  | .unary _ body => Step.before prunes .unary (eventList prunes body)
  | .paren body => Step.before prunes .paren (eventList prunes body)

def eventListAll (prunes : ExprKind → Bool) : List Expr → List Step
  | [] => []
  | argument :: arguments => eventList prunes argument ++ eventListAll prunes arguments

def eventListOption (prunes : ExprKind → Bool) : Option Expr → List Step
  | none => []
  | some parameter => eventList prunes parameter

end

end Expr

namespace Expr

variable {prunes : ExprKind → Bool}

theorem eventListAll_eq_flatMap (arguments : List Expr) :
    eventListAll prunes arguments = arguments.flatMap (eventList prunes) := by
  induction arguments with
  | nil => rw [eventListAll, List.flatMap_nil]
  | cons argument arguments inductionHypothesis =>
    rw [eventListAll, List.flatMap_cons, inductionHypothesis]

/-- The event of a node comes first, and the events of its parts follow unless they are left
out. -/
theorem eventList_eq_parts (expr : Expr) : expr.eventList prunes =
    (expr.event?.map (Step.flagged prunes)).toList ++
      if expr.nodeKind?.any prunes then [] else expr.parts.flatMap (eventList prunes) := by
  cases expr with
  | call name arguments =>
    rw [eventList, eventListAll_eq_flatMap]
    rfl
  | aggregate op parameter body grouping =>
    cases parameter <;>
      simp [eventList, eventListOption, Step.before, event?, nodeKind?, Step.flagged, parts]
  | _ => simp [eventList, Step.before, event?, nodeKind?, Step.flagged, parts]

theorem not_hidden_nil (expr : Expr) : ¬ expr.Hidden prunes [] := by
  rintro ⟨above, node, before, proper, -⟩
  exact proper (List.prefix_nil.1 before)

theorem hidden_cons {expr : Expr} {index : Nat} {path : List Nat} :
    expr.Hidden prunes (index :: path) ↔
      expr.nodeKind?.any prunes = true ∨
        ∃ part ∈ expr.parts[index]?, part.Hidden prunes path := by
  constructor
  · rintro ⟨above, node, before, proper, leads, pruned⟩
    obtain rfl | ⟨below, rfl, within⟩ := List.prefix_cons_iff.1 before
    · cases leads
      exact .inl pruned
    · obtain ⟨part, found, leads⟩ := Option.bind_eq_some_iff.1 leads
      refine .inr ⟨part, found, below, node, within, fun same => proper ?_, leads, pruned⟩
      rw [same]
  · rintro (pruned | ⟨part, found, above, node, before, proper, leads, pruned⟩)
    · exact ⟨[], expr, List.nil_prefix, (List.cons_ne_nil _ _).symm, rfl, pruned⟩
    · refine ⟨index :: above, node, List.cons_prefix_cons.2 ⟨rfl, before⟩, fun same => ?_, ?_,
        pruned⟩
      · exact proper (List.cons.inj same).2
      · exact Option.bind_eq_some_iff.2 ⟨part, found, leads⟩

instance Hidden.decidable (prunes : ExprKind → Bool) :
    (expr : Expr) → (path : List Nat) → Decidable (expr.Hidden prunes path)
  | expr, [] => .isFalse expr.not_hidden_nil
  | _, _ :: path =>
    have : DecidablePred fun part : Expr => part.Hidden prunes path :=
      fun part => Hidden.decidable prunes part path
    decidable_of_iff _ hidden_cons.symm

/-- The events that are not hidden, with their marks. -/
def events (prunes : ExprKind → Bool) (expr : Expr) : List Step :=
  ((expr.marks event?).filter fun event => ¬ expr.Hidden prunes event.1).map
    fun event => event.2.flagged prunes

/-- What is hidden is what the recursion leaves out. -/
theorem events_eq_eventList (expr : Expr) : expr.events prunes = expr.eventList prunes := by
  induction expr using inductionOnParts with
  | step expr inductionHypothesis =>
    have hidden (index : Fin expr.parts.length) (path : List Nat) :
        expr.Hidden prunes (index.1 :: path) ↔
          expr.nodeKind?.any prunes = true ∨ expr.parts[index].Hidden prunes path := by
      rw [hidden_cons, List.getElem?_eq_getElem index.2]
      simp
    rw [eventList_eq_parts, ← List.flatMap_congr inductionHypothesis, events, marks_eq,
      List.filter_append, List.map_append, List.filter_flatMap, List.map_flatMap, ← flatMap_parts]
    congr 1
    · cases expr.event? with
      | none => rfl
      | some event => simp [not_hidden_nil]
    · split
      case isTrue pruned => simp [List.filter_map, Function.comp_def, hidden, pruned]
      case isFalse open_ => simp [events, List.filter_map, Function.comp_def, hidden, open_]

/-- When nothing is left out no event is hidden, and none is flagged. -/
theorem map_snd_marks_event (expr : Expr) :
    (expr.marks event?).map Prod.snd = expr.eventList fun _ => false := by
  have shown (path : List Nat) : ¬ expr.Hidden (fun _ => false) path := by
    rintro ⟨above, node, -, -, -, pruned⟩
    simp at pruned
  rw [← events_eq_eventList, events,
    List.filter_eq_self.2 fun event _ => decide_eq_true (shown event.1)]
  refine List.map_congr_left fun ⟨path, event⟩ member => ?_
  obtain ⟨node, -, has⟩ := (mem_marks event?).1 member
  cases node <;> cases has <;> rfl

end Expr

namespace Visitor

theorem walk_stepRecorder (prunes : ExprKind → Bool) (expr : Expr) (steps : List Step) :
    (stepRecorder prunes).walk expr steps = steps ++ expr.eventList prunes := by
  induction expr using Expr.inductionOnParts generalizing steps with
  | step expr inductionHypothesis =>
    cases isLeaf : expr.asLeaf? with
    | some leaf =>
      obtain rfl := Expr.asLeaf?_eq_some_iff.1 isLeaf
      rw [walk_leaf]
      cases leaf with
      | vector selector => rfl
      | number value => exact (List.append_nil steps).symm
      | string value => exact (List.append_nil steps).symm
    | none =>
      have kind : expr.nodeKind? = some expr.kind := by
        cases expr <;> first | rfl | cases isLeaf
      have event : expr.event? = some (.node expr.kind false) := by
        cases expr <;> first | rfl | cases isLeaf
      have operands (steps : List Step) :
          expr.parts.foldl (fun steps part => (stepRecorder prunes).walk part steps) steps =
            steps ++ expr.parts.flatMap (Expr.eventList prunes) := by
        rw [List.foldl_ext _ _ _ fun steps part member => inductionHypothesis part member steps,
          List.foldl_append_eq_append, List.flatMap_def]
      rw [walk_parts _ isLeaf, Expr.eventList_eq_parts, event, kind, enterThen, operands]
      cases pruned : prunes expr.kind <;> simp [stepRecorder, Step.flagged, pruned]

end Visitor

/-! ## In order -/

/-- The visitor that overrides the methods for the leaves alone. -/
def Methods.ofLeaves (number : Binary64 → σ → σ) (string : String → σ → σ)
    (vector : Selector → σ → σ) : Methods σ := { number, string, vector }

/-- Methods for the leaves alone are called for every leaf once, in the order in which the
leaves are written, and for the selector in a selector with a range.  A visit that leaves out
the parts of nodes of some kinds has the events of the visit that leaves out nothing, except
those below these nodes, which are flagged.  Leaves and events are those that the recursion on
the expression gives. -/
theorem visit_inOrder (expr : Expr) :
    (∀ (σ : Type) (visitor : Visitor σ) (state : σ),
      visitor.walk expr state = visitor.methods.visit expr state) ∧
    (∃ leaves : List (List Nat × Leaf),
      leaves.Pairwise (fun leaf other => leaf.1 < other.1) ∧
      (∀ path leaf, (path, leaf) ∈ leaves ↔ expr.at? path = some leaf.expr) ∧
      leaves.map Prod.snd = expr.leafList ∧ expr.leaves = expr.leafList ∧
      ∀ (σ : Type) (number : Binary64 → σ → σ) (string : String → σ → σ)
        (vector : Selector → σ → σ) (state : σ),
        (Methods.ofLeaves number string vector).visit expr state =
          leaves.foldl (fun state leaf =>
            (Methods.ofLeaves number string vector).leaf leaf.2 state) state) ∧
    ∃ events : List (List Nat × Step),
      events.Pairwise (fun event other => event.1 < other.1) ∧
      (∀ path event, (path, event) ∈ events ↔
        ∃ node, expr.at? path = some node ∧ node.event? = some event) ∧
      (stepRecorder fun _ => false).methods.visit expr [] = events.map Prod.snd ∧
      ∀ prunes : ExprKind → Bool,
        (stepRecorder prunes).methods.visit expr [] = expr.eventList prunes ∧
        (stepRecorder prunes).methods.visit expr [] =
          (events.filter fun event => ¬ expr.Hidden prunes event.1).map
            fun event => event.2.flagged prunes := by
  have visited (prunes : ExprKind → Bool) :
      (stepRecorder prunes).methods.visit expr [] = expr.eventList prunes := by
    rw [← Visitor.walk_eq_visit, Visitor.walk_stepRecorder, List.nil_append]
  refine ⟨fun _ visitor state => visitor.walk_eq_visit expr state,
    ⟨expr.marks Expr.asLeaf?, expr.marks_ascending _, fun path leaf => ?_,
      expr.map_snd_marks_asLeaf, expr.leaves_eq_leafList, fun σ number string vector state => ?_⟩,
    expr.marks Expr.event?, expr.marks_ascending _, fun path event => Expr.mem_marks _, ?_,
    fun prunes => ⟨visited prunes, ?_⟩⟩
  -- A visit is a walk, and a walk makes the steps of the marks one after the other.
  · rw [Expr.mem_marks]
    simp only [Expr.asLeaf?_eq_some_iff, exists_eq_right]
  · let visitor : Visitor σ := ⟨number, string, vector, fun _ state => (state, true)⟩
    have default : Methods.ofLeaves number string vector = visitor.methods := rfl
    rw [default, ← visitor.walk_eq_visit, Visitor.walk_everywhere fun _ _ => rfl,
      ← expr.map_snd_marks_asLeaf, List.foldl_map]
  · rw [visited, expr.map_snd_marks_event]
  · rw [visited, ← expr.events_eq_eventList, Expr.events]

/-- A sum with a range in a call and with an aggregation that has a parameter; the visit leaves
out what is in calls and behind signs. -/
theorem visit_inOrder_sum :
    let ranged : Selector := ⟨some "a", [], .none⟩
    let limit : Selector := ⟨some "k", [], .none⟩
    let plain : Selector := ⟨some "b", [], .none⟩
    let expr : Expr := .binary ⟨.add, false, none⟩ (.call "rate" [.matrix ranged ⟨300000⟩])
      (.aggregate .topk (some (.vector limit)) (.paren (.unary .neg (.vector plain))) none)
    let collects : Methods (List Selector) :=
      .ofLeaves (fun _ found => found) (fun _ found => found) fun selector found =>
        found ++ [selector]
    let prunes : ExprKind → Bool := fun kind => kind = .call ∨ kind = .unary
    collects.visit expr [] = [ranged, limit, plain] ∧
      (stepRecorder fun _ => false).methods.visit expr [] =
        [.node .binary false, .node .call false, .node .matrixSelector false, .vector ranged,
          .node .aggregate false, .vector limit, .node .paren false, .node .unary false,
          .vector plain] ∧
      (stepRecorder prunes).methods.visit expr [] =
        [.node .binary false, .node .call true, .node .aggregate false, .vector limit,
          .node .paren false, .node .unary true] := by
  intro ranged limit plain expr collects prunes
  obtain ⟨-, ⟨leaves, -, -, inOrder, -, visits⟩, events, -, -, -, pruned⟩ := visit_inOrder expr
  refine ⟨(visits _ _ _ _ _).trans ?_, (pruned _).1.trans rfl, (pruned prunes).1.trans rfl⟩
  rw [← List.foldl_map (g := fun found leaf => collects.leaf leaf found), inOrder]
  rfl

end RuleAtlas.Query
