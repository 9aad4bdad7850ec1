import RuleAtlas.Query.Expr

/-! # Walking through expressions

Every function here goes from an expression to its operands in the order in which they are
written, so each one meets the nodes of the tree from left to right.  The operands of an
expression are smaller than the expression itself. -/

namespace RuleAtlas.Query

namespace Expr

/-- An operand is smaller than the expression. -/
theorem sizeOf_lt_of_mem_children {expr child : Expr} (h : child ∈ expr.children) :
    sizeOf child < sizeOf expr := by
  cases expr with
  | number value => simp [children] at h
  | string value => simp [children] at h
  | vector selector => simp [children] at h
  | matrix selector range => simp [children] at h
  | subquery body clause =>
    simp only [children, List.mem_singleton] at h
    subst h
    simp only [subquery.sizeOf_spec]
    omega
  | call name arguments =>
    simp only [children] at h
    have smaller := List.sizeOf_lt_of_mem h
    simp only [call.sizeOf_spec]
    omega
  | aggregate op parameter body grouping =>
    simp only [children, List.mem_append, Option.mem_toList,
      List.mem_singleton] at h
    simp only [aggregate.sizeOf_spec]
    rcases h with rfl | rfl
    · simp only [Option.some.sizeOf_spec]
      omega
    · omega
  | binary clause left right =>
    simp only [children, List.mem_cons, List.not_mem_nil, or_false] at h
    simp only [binary.sizeOf_spec]
    rcases h with rfl | rfl <;> omega
  | unary op body =>
    simp only [children, List.mem_singleton] at h
    subst h
    simp only [unary.sizeOf_spec]
    omega
  | paren body =>
    simp only [children, List.mem_singleton] at h
    subst h
    simp only [paren.sizeOf_spec]
    omega

/-- The nodes of an expression, each before its operands, with their depths. -/
def nodes (depth : Nat) (expr : Expr) : List (Nat × Expr) :=
  (depth, expr) :: expr.children.attach.flatMap fun child => nodes (depth + 1) child.1
termination_by sizeOf expr
decreasing_by exact sizeOf_lt_of_mem_children child.2

end Expr

/-! ## Visitors -/

/-- What is done at the nodes of an expression.  At a node with parts the visitor also says
whether to go on to them; the part of a selector with a range is the selector. -/
structure Visitor (σ : Type) where
  number : Binary64 → σ → σ
  string : String → σ → σ
  vector : Selector → σ → σ
  enter : Expr → σ → σ × Bool

namespace Visitor

variable {σ : Type}

/-- The visitor that goes everywhere and does nothing. -/
def idle : Visitor σ where
  number _ state := state
  string _ state := state
  vector _ state := state
  enter _ state := (state, true)

def walk (visitor : Visitor σ) : Expr → σ → σ
  | .number value, state => visitor.number value state
  | .string value, state => visitor.string value state
  | .vector selector, state => visitor.vector selector state
  | .matrix selector range, state =>
    let entered := visitor.enter (.matrix selector range) state
    if entered.2 then visitor.vector selector entered.1 else entered.1
  | expr, state =>
    let entered := visitor.enter expr state
    if entered.2 then
      expr.children.attach.foldl (fun state child => visitor.walk child.1 state) entered.1
    else entered.1
termination_by expr => sizeOf expr
decreasing_by exact Expr.sizeOf_lt_of_mem_children child.2

end Visitor

/-! ## Leaves -/

/-- A leaf of an expression; that of a selector with a range is the selector. -/
inductive Leaf where
  | number (value : Binary64)
  | string (value : String)
  | vector (selector : Selector)
  deriving DecidableEq, Repr

def leafCollector : Visitor (List Leaf) where
  number value leaves := leaves ++ [.number value]
  string value leaves := leaves ++ [.string value]
  vector selector leaves := leaves ++ [.vector selector]
  enter _ leaves := (leaves, true)

def Expr.leaves (expr : Expr) : List Leaf := leafCollector.walk expr []

/-! ## Pruned walks -/

/-- A step of a walk: a selector, or a node with parts, which were left out when pruned. -/
inductive Step where
  | vector (selector : Selector)
  | node (kind : ExprKind) (pruned : Bool)
  deriving DecidableEq, Repr

/-- Records the steps of a walk that leaves out the parts of nodes of some kinds. -/
def stepRecorder (prunes : ExprKind → Bool) : Visitor (List Step) where
  number _ steps := steps
  string _ steps := steps
  vector selector steps := steps ++ [.vector selector]
  enter expr steps :=
    let pruned := prunes expr.kind
    (steps ++ [.node expr.kind pruned], !pruned)

/-- The steps of a walk that leaves out the parts of nodes of some kinds. -/
def Expr.steps (prunes : ExprKind → Bool) (expr : Expr) : List Step :=
  (stepRecorder prunes).walk expr []

end RuleAtlas.Query
