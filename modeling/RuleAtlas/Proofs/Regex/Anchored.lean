import RuleAtlas.Pattern
import RuleAtlas.Proofs.Regex.Enclosed.Reading
import RuleAtlas.Proofs.Regex.Spans

/-! # Expressions between anchors

The text of a pattern is put into a group between two anchors before anything is read.  When the
whole is an expression, either the text is an expression of its own and a value matches the
pattern where the expression matches all of it, or the text closes the group itself, and is no
expression. -/

namespace RuleAtlas.Regex

/-! ## Reading -/

/-- The text closes a group that it did not open. -/
def Overcloses (text : List Char) : Prop := Reader.Overcloses { rest := text }

/-- The expression between anchors for the start and the end of a text. -/
def betweenAnchors (regex : Regex) : Regex :=
  .sequence (.look .textStart) (.sequence regex (.look .textEnd))

/-- What stands before the group of a pattern. -/
def patternFrame : GroupFrame :=
  ⟨{ pieces := [.nested ⟨.look .textStart, 0⟩] }, {}, false⟩

theorem wrapped_patternFrame (inner : Nested) :
    Reader.wrapped patternFrame inner = ⟨betweenAnchors inner.regex, inner.depth + 2⟩ := by
  simp [Reader.wrapped, patternFrame, Branches.value, Branches.branch, Branches.add, Piece.value,
    joinNested, sequenceOf, betweenAnchors, endLook]

/-- The anchor for the start and the beginning of the group are read in two steps. -/
theorem run_anchored (budget : Nat) (source : List Char) :
    Reader.run (budget + 2) { rest := RuleAtlas.anchored source } =
      Reader.run budget (Reader.enclose patternFrame { rest := source }) := rfl

theorem isSmall_betweenAnchors {regex : Regex} (small : regex.betweenAnchors.isSmall = true) :
    regex.isSmall = true := by
  simp only [isSmall, Sizes.fit, betweenAnchors, sizes, Sizes.add, Bool.and_eq_true,
    decide_eq_true_eq] at small ⊢
  omega

theorem read?_anchored {source : List Char} {regex : Regex}
    (found : read? (RuleAtlas.anchored source) = some regex) :
    (∃ inner, read? source = some inner ∧ regex = betweenAnchors inner) ∨ Overcloses source := by
  have length : (RuleAtlas.anchored source).length + 1 = source.length + 5 + 2 := by
    simp [RuleAtlas.anchored]
  rw [read?, length, run_anchored] at found
  split at found
  next => cases found
  next nested whole =>
    split at found
    case isFalse => cases found
    case isTrue shallow =>
      obtain rfl := Option.some.inj found
      obtain ⟨inner, alone, rfl⟩ | overcloses :=
        Reader.run_enclose (Nat.lt_succ_self source.length) whole
      · rw [wrapped_patternFrame] at shallow ⊢
        refine .inl ⟨inner.regex, ?_, rfl⟩
        rw [read?, alone]
        exact if_pos (Nat.le_of_add_right_le shallow)
      · exact .inr overcloses

theorem compile?_anchored {source : List Char} {regex : Regex}
    (compiles : compile? (RuleAtlas.anchored source) = some regex) :
    (∃ inner, compile? source = some inner ∧ regex = betweenAnchors inner) ∨
      Overcloses source := by
  obtain ⟨found, small⟩ := Option.filter_eq_some_iff.1 compiles
  obtain ⟨inner, alone, rfl⟩ | overcloses := read?_anchored found
  · exact .inl ⟨inner, Option.filter_eq_some_iff.2 ⟨alone, isSmall_betweenAnchors small⟩, rfl⟩
  · exact .inr overcloses

theorem compile?_of_overcloses {source : List Char} (overcloses : Overcloses source) :
    compile? source = none := by
  rw [compile?, read?, Reader.Overcloses.run overcloses]
  rfl

/-! ## Matching -/

theorem holds_textStart {text : Array Char} {place : Nat} (within : place ≤ text.size) :
    Look.textStart.holds (if place = 0 then none else text[place - 1]?) text[place]? = true ↔
      place = 0 := by
  constructor
  · intro holds
    by_contra inside
    rw [if_neg inside, Array.getElem?_eq_getElem (by omega)] at holds
    cases holds
  · rintro rfl
    rfl

theorem holds_textEnd {text : Array Char} {place : Nat} (within : place ≤ text.size)
    (before : Option Char) :
    Look.textEnd.holds before text[place]? = true ↔ place = text.size := by
  rw [Look.holds, Option.isNone_iff_eq_none, Array.getElem?_eq_none_iff]
  omega

/-- Between the anchors an expression is found where it matches all of the text. -/
theorem isFoundIn_betweenAnchors (regex : Regex) (text : String) :
    regex.betweenAnchors.isFoundIn text = true ↔ regex.MatchesWhole text := by
  rw [isFoundIn_iff, MatchesWhole]
  rw [← List.size_toArray]
  constructor
  · rintro ⟨i, start, j, k, ⟨atStart, rfl⟩, l, spans, atEnd, rfl⟩
    obtain rfl := (holds_textStart start).1 atStart
    obtain rfl := (holds_textEnd (spans.le start) _).1 atEnd
    exact spans
  · intro whole
    exact ⟨0, Nat.zero_le _, _, 0, ⟨rfl, rfl⟩, _, whole,
      (holds_textEnd (Nat.le_refl _) _).2 rfl, rfl⟩

end RuleAtlas.Regex
