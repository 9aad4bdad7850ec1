import RuleAtlas.Query.Expr.Traversal

/-! # Leaves from left to right

The leaves of an expression in the order in which they are written, by recursion on its parts.
A visitor that goes everywhere meets exactly these, so what it gathers at the leaves does not
depend on how the nodes above them are built. -/

namespace RuleAtlas.Query

namespace Expr

/-! ## By recursion -/

mutual

/-- The leaves of an expression; that of a selector with a range is the selector. -/
def leafList : Expr → List Leaf
  | .number value => [.number value]
  | .string value => [.string value]
  | .vector selector => [.vector selector]
  | .matrix selector _ => [.vector selector]
  | .subquery body _ => body.leafList
  | .call _ arguments => leafListAll arguments
  | .aggregate _ parameter body _ => leafListOption parameter ++ body.leafList
  | .binary _ left right => left.leafList ++ right.leafList
  | .unary _ body => body.leafList
  | .paren body => body.leafList

def leafListAll : List Expr → List Leaf
  | [] => []
  | argument :: arguments => argument.leafList ++ leafListAll arguments

def leafListOption : Option Expr → List Leaf
  | none => []
  | some parameter => parameter.leafList

end

@[simp] theorem leafListAll_eq_flatMap (arguments : List Expr) :
    leafListAll arguments = arguments.flatMap leafList := by
  induction arguments with
  | nil => rw [leafListAll, List.flatMap_nil]
  | cons argument arguments inductionHypothesis =>
    rw [leafListAll, List.flatMap_cons, inductionHypothesis]

/-- The leaf that an expression consists of, if it has no parts of its own. -/
def leaf? : Expr → Option Leaf
  | .number value => some (.number value)
  | .string value => some (.string value)
  | .vector selector => some (.vector selector)
  | .matrix selector _ => some (.vector selector)
  | _ => none

/-- An expression is a leaf, or its leaves are those of its operands. -/
theorem leafList_eq (expr : Expr) :
    expr.leafList = expr.leaf?.toList ++ expr.children.flatMap leafList := by
  cases expr with
  | aggregate op parameter body grouping =>
    cases parameter <;> simp [leafList, leafListOption, leaf?, children]
  | _ => simp [leafList, leaf?, children]

end Expr

/-! ## By walking -/

/-- At a node with operands a walk enters the node, and then goes on to them one by one. -/
theorem Visitor.walk_node {σ : Type} (visitor : Visitor σ) {expr : Expr}
    (node : expr.leaf? = none) (state : σ) : visitor.walk expr state =
      if (visitor.enter expr state).2 then
        expr.children.foldl (fun state child => visitor.walk child state)
          (visitor.enter expr state).1
      else (visitor.enter expr state).1 := by
  cases expr with
  | number value => cases node
  | string value => cases node
  | vector selector => cases node
  | matrix selector range => cases node
  | _ =>
    rw [Visitor.walk]
    · rw [List.foldl_attach (f := fun state child => visitor.walk child state)]
    all_goals simp

section
variable {α : Type} (found : Leaf → List α)

/-- The visitor that goes everywhere and puts what it finds at a leaf behind what it has. -/
def gatherer : Visitor (List α) where
  number value items := items ++ found (.number value)
  string value items := items ++ found (.string value)
  vector selector items := items ++ found (.vector selector)
  enter _ items := (items, true)

@[simp] theorem enter_gatherer (expr : Expr) (items : List α) :
    (gatherer found).enter expr items = (items, true) := rfl

theorem walk_gatherer_leaf {expr : Expr} {leaf : Leaf} (here : expr.leaf? = some leaf)
    (items : List α) : (gatherer found).walk expr items = items ++ found leaf := by
  cases expr with
  | matrix selector range =>
    cases here
    rw [Visitor.walk, enter_gatherer, if_pos rfl]
    rfl
  | number value =>
    cases here
    rw [Visitor.walk]
    rfl
  | string value =>
    cases here
    rw [Visitor.walk]
    rfl
  | vector selector =>
    cases here
    rw [Visitor.walk]
    rfl
  | _ => cases here

theorem foldl_gather {operands : List Expr} {visit : List α → Expr → List α}
    (visits : ∀ operand ∈ operands, ∀ items,
      visit items operand = items ++ operand.leafList.flatMap found) (items : List α) :
    operands.foldl visit items = items ++ (operands.flatMap Expr.leafList).flatMap found := by
  induction operands generalizing items with
  | nil => simp
  | cons operand operands inductionHypothesis =>
    rw [List.foldl_cons, visits operand List.mem_cons_self,
      inductionHypothesis fun other member => visits other (List.mem_cons_of_mem _ member)]
    simp

/-- A visitor that goes everywhere meets the leaves from left to right. -/
theorem walk_gatherer (expr : Expr) (items : List α) :
    (gatherer found).walk expr items = items ++ expr.leafList.flatMap found := by
  induction size : sizeOf expr using Nat.strongRecOn generalizing expr items with
  | ind bound inductionHypothesis =>
    cases here : expr.leaf? with
    | some leaf =>
      have noOperands : expr.children = [] := by
        cases expr <;> simp [Expr.leaf?, Expr.children] at here ⊢
      rw [walk_gatherer_leaf found here, Expr.leafList_eq, here, noOperands]
      simp
    | none =>
      -- Nothing is found at the node itself.
      rw [Visitor.walk_node _ here, enter_gatherer, if_pos rfl, Expr.leafList_eq, here]
      refine foldl_gather found (fun operand member items => ?_) items
      exact inductionHypothesis (sizeOf operand)
        (size ▸ Expr.sizeOf_lt_of_mem_children member) operand items rfl

end

theorem Expr.leaves_eq_leafList (expr : Expr) : expr.leaves = expr.leafList := by
  have walked := walk_gatherer (fun leaf => [leaf]) expr []
  rw [List.nil_append, List.flatMap_singleton'] at walked
  exact walked

/-! ## Names -/

/-- Collects the names of the selectors that have one. -/
def nameCollector : Visitor (List String) :=
  { Visitor.idle with vector := fun selector names => names ++ selector.name?.toList }

/-- The names of the series that an expression refers to, from left to right. -/
def Expr.names (expr : Expr) : List String := nameCollector.walk expr []

/-- The selector that a leaf is. -/
def Leaf.selector? : Leaf → Option Selector
  | .vector selector => some selector
  | _ => none

def Leaf.name? (leaf : Leaf) : Option String := leaf.selector?.bind Selector.name?

theorem nameCollector_eq : nameCollector = gatherer fun leaf => leaf.name?.toList := by
  simp [nameCollector, gatherer, Visitor.idle, Leaf.name?, Leaf.selector?]

theorem Expr.names_eq_leafList (expr : Expr) :
    expr.names = expr.leafList.flatMap fun leaf => leaf.name?.toList := by
  rw [Expr.names, nameCollector_eq, walk_gatherer, List.nil_append]

/-- The names of an expression are its own and then those of its operands. -/
theorem Expr.names_eq (expr : Expr) :
    expr.names = (expr.leaf?.bind Leaf.name?).toList ++ expr.children.flatMap Expr.names := by
  have operands : expr.children.flatMap Expr.names =
      (expr.children.flatMap leafList).flatMap fun leaf => leaf.name?.toList := by
    rw [List.flatMap_assoc, funext names_eq_leafList]
  rw [operands, names_eq_leafList, leafList_eq, List.flatMap_append]
  cases expr.leaf? <;> simp

@[simp] theorem Expr.names_number (value : Binary64) : (Expr.number value).names = [] := by
  rw [names_eq]
  rfl

@[simp] theorem Expr.names_string (value : String) : (Expr.string value).names = [] := by
  rw [names_eq]
  rfl

@[simp] theorem Expr.names_vector (selector : Selector) :
    (Expr.vector selector).names = selector.name?.toList := by
  rw [names_eq]
  exact List.append_nil _

@[simp] theorem Expr.names_matrix (selector : Selector) (range : Duration) :
    (Expr.matrix selector range).names = selector.name?.toList := by
  rw [names_eq]
  exact List.append_nil _

@[simp] theorem Expr.names_subquery (body : Expr) (clause : SubqueryClause) :
    (Expr.subquery body clause).names = body.names := by
  rw [names_eq]
  exact List.append_nil _

@[simp] theorem Expr.names_call (name : String) (arguments : List Expr) :
    (Expr.call name arguments).names = arguments.flatMap names := by
  rw [names_eq]
  rfl

@[simp] theorem Expr.names_aggregate (op : AggregateOp) (parameter : Option Expr) (body : Expr)
    (grouping : Option Grouping) : (Expr.aggregate op parameter body grouping).names =
      (parameter.toList ++ [body]).flatMap names := by
  rw [names_eq]
  rfl

@[simp] theorem Expr.names_binary (clause : BinaryClause) (left right : Expr) :
    (Expr.binary clause left right).names = left.names ++ right.names := by
  rw [names_eq]
  exact congrArg (left.names ++ ·) (List.append_nil _)

@[simp] theorem Expr.names_paren (body : Expr) : (Expr.paren body).names = body.names := by
  rw [names_eq]
  exact List.append_nil _

@[simp] theorem Expr.names_unary (op : UnaryOp) (body : Expr) :
    (Expr.unary op body).names = body.names := by
  rw [names_eq]
  exact List.append_nil _

end RuleAtlas.Query
