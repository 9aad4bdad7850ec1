import RuleAtlas.Proofs.Regex.Anchored
import RuleAtlas.Query.Matcher

/-! # What matchers with a pattern accept

A matcher with a pattern compares whole values with the expression that its text stands for.
The text is not read on its own, but between anchors: a text that closes their group and opens
another one is taken for a pattern although it is no expression. -/

namespace RuleAtlas.Query.LabelMatcher

variable {label text : String} {matcher : LabelMatcher}

theorem make_like_iff : make label .like text = .ok matcher ↔
    ∃ pattern : Pattern, pattern.source = text ∧ matcher = ⟨label, .like pattern⟩ := by
  simp only [make, Condition.of?, ← Pattern.ofSource?_eq_some_iff]
  cases Pattern.ofSource? text <;> simp [eq_comm]

theorem make_unlike_iff : make label .unlike text = .ok matcher ↔
    ∃ pattern : Pattern, pattern.source = text ∧ matcher = ⟨label, .unlike pattern⟩ := by
  simp only [make, Condition.of?, ← Pattern.ofSource?_eq_some_iff]
  cases Pattern.ofSource? text <;> simp [eq_comm]

theorem matchesValue_iff {pattern : Pattern} {regex : Regex}
    (between : pattern.regex = regex.betweenAnchors) (candidate : String) :
    pattern.matchesValue candidate = true ↔ regex.MatchesWhole candidate := by
  rw [Pattern.matchesValue, between, Regex.isFoundIn_betweenAnchors]

/-- A matcher with a pattern accepts the values that its text, as an expression of its own,
matches as a whole, or those that it does not match; its text is such an expression, unless it
closes a group that it did not open. -/
theorem accepts_whole_iff {kind : MatchKind} (isPattern : kind = .like ∨ kind = .unlike)
    (made : make label kind text = .ok matcher) :
    (∃ regex, Regex.compile? text.toList = some regex ∧
      ∀ candidate,
        (kind = .like → (matcher.accepts candidate = true ↔ regex.MatchesWhole candidate)) ∧
        (kind = .unlike → (matcher.accepts candidate = true ↔ ¬ regex.MatchesWhole candidate))) ↔
    ¬ Regex.Overcloses text.toList := by
  constructor
  · rintro ⟨regex, compiles, -⟩ overcloses
    rw [Regex.compile?_of_overcloses overcloses] at compiles
    cases compiles
  · intro balanced
    obtain rfl | rfl := isPattern
    · obtain ⟨pattern, rfl, rfl⟩ := make_like_iff.1 made
      obtain ⟨regex, compiles, between⟩ :=
        (Regex.compile?_anchored pattern.compiles).resolve_right balanced
      refine ⟨regex, compiles, fun candidate => ⟨fun _ => ?_, nofun⟩⟩
      exact matchesValue_iff between candidate
    · obtain ⟨pattern, rfl, rfl⟩ := make_unlike_iff.1 made
      obtain ⟨regex, compiles, between⟩ :=
        (Regex.compile?_anchored pattern.compiles).resolve_right balanced
      refine ⟨regex, compiles, fun candidate => ⟨nofun, fun _ => ?_⟩⟩
      rw [← matchesValue_iff between]
      simp [accepts, Condition.holds]

theorem accepts_whole_alternatives : ∃ matcher regex,
    make "job" .like "api|web" = .ok matcher ∧ Regex.compile? "api|web".toList = some regex ∧
      ∀ candidate, matcher.accepts candidate = true ↔ regex.MatchesWhole candidate := by
  have isExpression : (Regex.compile? "api|web".toList).isSome = true := by decide +kernel
  have isPattern : (Regex.compile? (anchored "api|web".toList)).isSome = true := by decide +kernel
  obtain ⟨whole, compiles⟩ := Option.isSome_iff_exists.1 isPattern
  have made : make "job" .like "api|web" = .ok ⟨"job", .like ⟨"api|web", whole, compiles⟩⟩ :=
    make_like_iff.2 ⟨_, rfl, rfl⟩
  have balanced : ¬ Regex.Overcloses "api|web".toList := fun overcloses => by
    rw [Regex.compile?_of_overcloses overcloses] at isExpression
    cases isExpression
  obtain ⟨regex, alone, accepts⟩ := (accepts_whole_iff (.inl rfl) made).2 balanced
  exact ⟨_, regex, made, alone, fun candidate => (accepts candidate).1 rfl⟩

/-- The two halves of the group make a pattern, which is anchored at one end in each branch. -/
theorem accepts_overclosed : ∃ matcher,
    make "n" .like "a)|(?:b" = .ok matcher ∧ Regex.compile? "a)|(?:b".toList = none ∧
      matcher.accepts "ax" = true := by
  let halves : Regex :=
    .choice (.sequence (.look .textStart) (.char 'a')) (.sequence (.char 'b') (.look .textEnd))
  have compiles : Regex.compile? (anchored "a)|(?:b".toList) = some halves := by decide +kernel
  refine ⟨⟨"n", .like ⟨"a)|(?:b", halves, compiles⟩⟩, make_like_iff.2 ⟨_, rfl, rfl⟩, ?_, ?_⟩
  · decide +kernel
  · have found : halves.isFoundIn "ax" = true := by decide +kernel
    exact found

end RuleAtlas.Query.LabelMatcher
