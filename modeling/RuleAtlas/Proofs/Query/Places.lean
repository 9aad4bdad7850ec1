import Mathlib.Data.List.FinRange
import RuleAtlas.Proofs.Query.Leaves

/-! # Places in an expression

A path goes down from an expression, at each node to one of its parts.  The places of an
expression are its nodes with the paths that lead to them.  They come in the order in which the
nodes are written: a node before its parts, and everything in one part before the next. -/

namespace RuleAtlas.Query.Expr

/-! ## Parts -/

/-- The parts from left to right: a parameter is written before the body of its aggregation, and
the part of a selector with a range is the selector. -/
def parts : Expr → List Expr
  | .number _ => []
  | .string _ => []
  | .vector _ => []
  | .matrix selector _ => [.vector selector]
  | .subquery body _ => [body]
  | .call _ arguments => arguments
  | .aggregate _ parameter body _ => parameter.toList ++ [body]
  | .binary _ left right => [left, right]
  | .unary _ body => [body]
  | .paren body => [body]

theorem sizeOf_lt_of_mem_parts {expr part : Expr} (member : part ∈ expr.parts) :
    sizeOf part < sizeOf expr := by
  cases expr with
  | matrix selector range =>
    obtain rfl := List.mem_singleton.1 member
    cases range
    simp only [vector.sizeOf_spec, matrix.sizeOf_spec, Duration.mk.sizeOf_spec]
    omega
  | _ => exact sizeOf_lt_of_mem_children member

/-- What holds of an expression when it holds of its parts holds of every expression. -/
@[elab_as_elim]
theorem inductionOnParts {motive : Expr → Prop} (expr : Expr)
    (step : ∀ expr, (∀ part ∈ expr.parts, motive part) → motive expr) : motive expr := by
  induction size : sizeOf expr using Nat.strongRecOn generalizing expr with
  | ind bound inductionHypothesis =>
    refine step expr fun part member => ?_
    exact inductionHypothesis _ (size ▸ sizeOf_lt_of_mem_parts member) part rfl

/-- The node to which a path leads. -/
def at? : Expr → List Nat → Option Expr
  | expr, [] => some expr
  | expr, index :: path => expr.parts[index]?.bind fun part => part.at? path

@[simp] theorem at?_nil (expr : Expr) : expr.at? [] = some expr := rfl

theorem at?_cons (expr : Expr) (index : Nat) (path : List Nat) :
    expr.at? (index :: path) = expr.parts[index]?.bind fun part => part.at? path := rfl

/-! ## Places -/

/-- The nodes in the order in which they are written, each with the path that leads to it. -/
def places (expr : Expr) : List (List Nat × Expr) :=
  ([], expr) :: (List.finRange expr.parts.length).flatMap fun index =>
    (places expr.parts[index]).map fun place => (index.1 :: place.1, place.2)
termination_by sizeOf expr
decreasing_by exact sizeOf_lt_of_mem_parts (List.getElem_mem _)

/-- The places of a part are places of the expression. -/
def placesIn (expr : Expr) (index : Fin expr.parts.length) : List (List Nat × Expr) :=
  expr.parts[index].places.map fun place => (index.1 :: place.1, place.2)

theorem places_eq (expr : Expr) : expr.places =
    ([], expr) :: (List.finRange expr.parts.length).flatMap expr.placesIn := by
  rw [places]
  rfl

/-- The places are where the paths lead. -/
theorem mem_places {expr node : Expr} {path : List Nat} :
    (path, node) ∈ expr.places ↔ expr.at? path = some node := by
  induction path generalizing expr with
  | nil =>
    rw [places_eq, at?_nil, List.mem_cons, List.mem_flatMap, Option.some.injEq, Prod.mk.injEq]
    simp [placesIn, eq_comm]
  | cons index path inductionHypothesis =>
    rw [places_eq, at?_cons, Option.bind_eq_some_iff, List.mem_cons, List.mem_flatMap]
    constructor
    · rintro (same | ⟨place, -, inside⟩)
      · cases same
      · obtain ⟨⟨below, found⟩, member, same⟩ := List.mem_map.1 inside
        cases same
        exact ⟨expr.parts[place], List.getElem?_eq_getElem place.2,
          inductionHypothesis.1 member⟩
    · rintro ⟨part, found, leads⟩
      obtain ⟨bound, rfl⟩ := List.getElem?_eq_some_iff.1 found
      refine .inr ⟨⟨index, bound⟩, List.mem_finRange _, ?_⟩
      exact List.mem_map_of_mem (inductionHypothesis.2 leads)

/-- Every place is met once, and the nodes come in the order in which they are written. -/
theorem places_ascending (expr : Expr) :
    expr.places.Pairwise fun place other => place.1 < other.1 := by
  induction expr using inductionOnParts with
  | step expr inductionHypothesis =>
    rw [places_eq, List.pairwise_cons, List.pairwise_flatMap]
    refine ⟨fun place member => ?_, fun index _ => ?_, ?_⟩
    · obtain ⟨index, -, inside⟩ := List.mem_flatMap.1 member
      obtain ⟨below, -, rfl⟩ := List.mem_map.1 inside
      exact List.nil_lt_cons _ _
    · rw [placesIn, List.pairwise_map]
      refine (inductionHypothesis _ (List.getElem_mem _)).imp fun before => ?_
      exact List.cons_lt_cons_self.2 before
    · refine (List.pairwise_lt_finRange _).imp fun {index other} before => ?_
      rintro place inside another beside
      obtain ⟨below, -, rfl⟩ := List.mem_map.1 inside
      obtain ⟨above, -, rfl⟩ := List.mem_map.1 beside
      exact List.cons_lt_cons_iff.2 (.inl before)

/-! ## Marks -/

variable {α : Type} (mark? : Expr → Option α)

/-- The marks that some of the nodes have, in the order in which the nodes are written, each
with the path that leads to it. -/
def marks (expr : Expr) : List (List Nat × α) :=
  expr.places.filterMap fun place => (mark? place.2).map (place.1, ·)

theorem mem_marks {expr : Expr} {path : List Nat} {mark : α} :
    (path, mark) ∈ expr.marks mark? ↔
      ∃ node, expr.at? path = some node ∧ mark? node = some mark := by
  simp only [marks, List.mem_filterMap, Prod.exists, mem_places, Option.map_eq_some_iff,
    Prod.mk.injEq]
  constructor
  · rintro ⟨path, node, leads, mark, has, rfl, rfl⟩
    exact ⟨node, leads, has⟩
  · rintro ⟨node, leads, has⟩
    exact ⟨path, node, leads, mark, has, rfl, rfl⟩

theorem marks_ascending (expr : Expr) :
    (expr.marks mark?).Pairwise fun mark other => mark.1 < other.1 := by
  refine expr.places_ascending.filterMap _ fun place other before mark has another same => ?_
  obtain ⟨_, -, rfl⟩ := Option.map_eq_some_iff.1 has
  obtain ⟨_, -, rfl⟩ := Option.map_eq_some_iff.1 same
  exact before

/-- The marks of a node and then those of its parts. -/
theorem marks_eq (expr : Expr) : expr.marks mark? =
    ((mark? expr).map ([], ·)).toList ++
      (List.finRange expr.parts.length).flatMap fun index =>
        (expr.parts[index].marks mark?).map fun mark => (index.1 :: mark.1, mark.2) := by
  have below (index : Fin expr.parts.length) :
      (expr.placesIn index).filterMap (fun place => (mark? place.2).map (place.1, ·)) =
        (expr.parts[index].marks mark?).map fun mark => (index.1 :: mark.1, mark.2) := by
    rw [placesIn, marks, List.filterMap_map, List.map_filterMap]
    refine List.filterMap_congr fun place _ => ?_
    cases has : mark? place.2 <;> simp [has]
  rw [marks, places_eq, List.filterMap_cons, List.filterMap_flatMap, funext below]
  cases mark? expr <;> rfl

theorem flatMap_parts (expr : Expr) (items : Expr → List α) :
    ((List.finRange expr.parts.length).flatMap fun index => items expr.parts[index]) =
      expr.parts.flatMap items := by
  conv_rhs => rw [← List.map_getElem_finRange expr.parts, List.flatMap_map]
  rfl

theorem map_snd_marks (expr : Expr) : (expr.marks mark?).map Prod.snd =
    (mark? expr).toList ++ expr.parts.flatMap fun part => (part.marks mark?).map Prod.snd := by
  rw [marks_eq, List.map_append, List.map_flatMap, ← flatMap_parts]
  congr 1
  · cases mark? expr <;> rfl
  · simp only [List.map_map, Function.comp_def]

end RuleAtlas.Query.Expr
