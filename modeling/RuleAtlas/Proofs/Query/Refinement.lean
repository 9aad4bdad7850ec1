import Mathlib.Data.List.Forall2
import RuleAtlas.Proofs.Query.Lexing
import RuleAtlas.Proofs.Query.Relations

/-! # Runs on like tokens

Two runs of parses are compared: on tokens that are alike, and with faults of the first run
that the second one need not share.  Where the parses for inner expressions compare, all
parses of the grammar do.  Without a difference but the places of the tokens this says that
the grammar does not look at places; and a run leaves tokens from the end of those it is given. -/

namespace RuleAtlas.Query

open Parse

/-! ## Comparing runs -/

/-- A likeness of tokens, and the faults that only the first of two runs may come to. -/
structure Comparison where
  alike : Token → Token → Prop
  excused : SyntaxFault → Prop
  kind : ∀ {s t}, alike s t → s.kind = t.kind
  text : ∀ {s t}, alike s t → s.text = t.text
  refl : ∀ s, alike s s

namespace Comparison

variable (comparison : Comparison)

abbrev Likened (tokens others : List Token) : Prop := List.Forall₂ comparison.alike tokens others

/-- The outcomes compare: values and what is left behind them, or two faults, or a fault that
only the first run may come to. -/
def Outcomes {α : Type} (values : α → α → Prop) :
    Except ParseError α × List Token → Except ParseError α × List Token → Prop
  | (.ok a, rest), (.ok b, left) => values a b ∧ comparison.Likened rest left
  | (.ok _, _), (.error _, _) => False
  | (.error error, _), (.ok _, _) => comparison.excused error.fault
  | (.error _, _), (.error _, _) => True

/-- On like tokens the parses come to outcomes that compare. -/
def Parses {α : Type} (values : α → α → Prop) (p q : Parse α) : Prop :=
  ∀ tokens others, comparison.Likened tokens others →
    comparison.Outcomes values (p tokens) (q others)

variable {comparison}

theorem first_alike {tokens others : List Token} (likened : comparison.Likened tokens others) :
    comparison.alike (first tokens) (first others) := by
  cases likened with
  | nil => exact comparison.refl _
  | cons head tail => exact head

theorem drop_alike {tokens others : List Token} (likened : comparison.Likened tokens others) :
    comparison.Likened (tokens.drop 1) (others.drop 1) := by
  cases likened with
  | nil => exact .nil
  | cons head tail => exact tail

theorem andThen {α β : Type} {values : α → α → Prop} {results : β → β → Prop}
    {first second : Parse α} {f g : α → Parse β} (front : comparison.Parses values first second)
    (following : ∀ a b, values a b → comparison.Parses results (f a) (g b)) :
    comparison.Parses results (first >>= f) (second >>= g) := by
  intro tokens others likened
  have outcomes := front tokens others likened
  rw [bind_apply, bind_apply]
  cases firstCame : first tokens with
  | mk firstResult rest =>
    cases secondCame : second others with
    | mk secondResult left =>
      rw [firstCame, secondCame] at outcomes
      cases firstResult with
      | ok a =>
        cases secondResult with
        | ok b => exact following a b outcomes.1 rest left outcomes.2
        | error error => exact outcomes.elim
      | error error =>
        cases secondResult with
        | ok b =>
          -- Whatever the second run goes on to, the first one has come to an excused fault.
          change comparison.excused error.fault at outcomes
          change comparison.Outcomes results (.error error, rest) (g b left)
          cases g b left with
          | mk result final =>
            cases result with
            | ok c => exact outcomes
            | error other => trivial
        | error other => trivial

theorem next : comparison.Parses comparison.alike next next := by
  intro tokens others likened
  refine ⟨first_alike likened, ?_⟩
  unfold Token.isEof
  rw [comparison.kind (first_alike likened)]
  split
  · exact likened
  · exact drop_alike likened

/-- Comparing runs is a relation that the building blocks respect. -/
def relation (comparison : Comparison) : Relation where
  tokens := comparison.alike
  parses := comparison.Parses
  kind := comparison.kind
  text := comparison.text
  value same _ _ likened := ⟨same, likened⟩
  andThen := andThen
  peek _ _ likened := ⟨first_alike likened, likened⟩
  peekSecond _ _ likened := ⟨first_alike (drop_alike likened), likened⟩
  next := next
  fault _ _ _ _ := trivial
  unexpected _ _ _ _ := trivial
  measured same tokens others likened := by
    dsimp only
    rw [likened.length_eq]
    exact same others.length tokens others likened

end Comparison

/-! ## Places -/

/-- Tokens at different places are compared, and no fault is excused. -/
def placeless : Comparison where
  alike s t := s.kind = t.kind ∧ s.text = t.text
  excused _ := False
  kind same := same.1
  text same := same.2
  refl _ := ⟨rfl, rfl⟩

theorem likened_of_lexeme {tokens others : List Token}
    (same : tokens.map Token.lexeme = others.map Token.lexeme) :
    placeless.Likened tokens others := by
  rw [← List.forall₂_eq_eq_eq, List.forall₂_map_left_iff, List.forall₂_map_right_iff] at same
  refine same.imp ?_
  rintro ⟨kind, text, pos⟩ ⟨otherKind, otherText, otherPos⟩ alike
  obtain ⟨rfl, texts⟩ := Lexeme.mk.inj alike
  exact ⟨rfl, String.toList_inj.1 texts⟩

/-- Like tokens are read as the same tree. -/
theorem readWhole_of_lexeme {tokens others rest : List Token} {tree : Expr}
    (same : tokens.map Token.lexeme = others.map Token.lexeme)
    (came : readWhole others = (.ok tree, rest)) : (readWhole tokens).1 = .ok tree := by
  have outcomes := placeless.relation.readWhole others tokens (likened_of_lexeme same.symm)
  rw [came] at outcomes
  cases read : readWhole tokens with
  | mk result left =>
    rw [read] at outcomes
    cases result with
    | ok other => exact congrArg Except.ok outcomes.1.symm
    | error error => exact outcomes.elim

/-! ## What is left -/

/-- What is left is an end of what there was, and every value is related to one. -/
def Leaves {α : Type} (values : α → α → Prop) (parse _other : Parse α) : Prop :=
  ∀ tokens, (parse tokens).2 <:+ tokens ∧ ∀ a, (parse tokens).1 = .ok a → ∃ b, values a b

/-- Leaving an end of the tokens is respected by the building blocks. -/
def leaving : Relation where
  tokens := Eq
  parses := Leaves
  kind same := congrArg Token.kind same
  text same := congrArg Token.text same
  value same tokens := ⟨List.suffix_refl tokens, fun _ came => by cases came; exact ⟨_, same⟩⟩
  andThen := by
    intro α β values results first second f g front following tokens
    obtain ⟨suffix, related⟩ := front tokens
    rw [bind_apply]
    cases came : first tokens with
    | mk result rest =>
      rw [came] at suffix related
      cases result with
      | error error => exact ⟨suffix, fun _ absurd => by cases absurd⟩
      | ok a =>
        obtain ⟨b, values⟩ := related a rfl
        obtain ⟨shorter, results⟩ := following a b values rest
        exact ⟨shorter.trans suffix, results⟩
  peek tokens := ⟨List.suffix_refl tokens, fun _ came => ⟨_, rfl⟩⟩
  peekSecond tokens := ⟨List.suffix_refl tokens, fun _ came => ⟨_, rfl⟩⟩
  next tokens := by
    refine ⟨?_, fun _ came => ⟨_, rfl⟩⟩
    unfold next
    split
    · exact List.suffix_refl tokens
    · exact List.drop_suffix 1 tokens
  fault cause tokens := ⟨List.suffix_refl tokens, fun _ came => by cases came⟩
  unexpected place tokens := ⟨List.suffix_refl tokens, fun _ came => by cases came⟩
  measured same tokens := same tokens.length tokens

theorem suffix_of_same {α : Type} {parse : Parse α} (same : leaving.Same parse parse)
    {tokens rest : List Token} {result : Except ParseError α}
    (came : parse tokens = (result, rest)) : rest <:+ tokens := by
  have suffix := (same tokens).1
  rwa [came] at suffix

end RuleAtlas.Query
