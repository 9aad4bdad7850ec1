import RuleAtlas.Query.Expr.Traversal

/-! # Properties of all nodes of an expression -/

namespace RuleAtlas.Query.Expr

variable {holds : Expr → Prop} {expr : Expr}

/-- The property holds of the expression and of everything inside it. -/
inductive Everywhere (holds : Expr → Prop) : Expr → Prop
  | node {expr : Expr} (here : holds expr)
    (inside : ∀ child ∈ expr.children, Everywhere holds child) : Everywhere holds expr

theorem Everywhere.here (everywhere : Everywhere holds expr) : holds expr := by
  cases everywhere with
  | node here inside => exact here

theorem Everywhere.inside (everywhere : Everywhere holds expr) {child : Expr}
    (member : child ∈ expr.children) : Everywhere holds child := by
  cases everywhere with
  | node here inside => exact inside child member

/-- The nodes of an expression are itself and those of its operands. -/
theorem everywhere_iff_nodes {depth : Nat} :
    Everywhere holds expr ↔ ∀ node ∈ expr.nodes depth, holds node.2 := by
  constructor
  · intro everywhere
    induction everywhere generalizing depth with
    | @node expr here inside inductionHypothesis =>
      intro node member
      rw [nodes] at member
      rcases List.mem_cons.1 member with rfl | member
      · exact here
      · obtain ⟨child, -, below⟩ := List.mem_flatMap.1 member
        exact inductionHypothesis child.1 child.2 node below
  · intro all
    induction size : sizeOf expr using Nat.strongRecOn generalizing expr depth with
    | ind bound inductionHypothesis =>
      rw [nodes] at all
      refine .node (all (depth, expr) List.mem_cons_self) fun child member => ?_
      have smaller := sizeOf_lt_of_mem_children member
      refine @inductionHypothesis (sizeOf child) (by omega) child (depth + 1)
        (fun node below => ?_) rfl
      refine all node (List.mem_cons_of_mem _ (List.mem_flatMap.2 ⟨⟨child, member⟩, ?_, below⟩))
      exact List.mem_attach _ _

end RuleAtlas.Query.Expr
