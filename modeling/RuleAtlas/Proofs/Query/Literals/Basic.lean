import RuleAtlas.Proofs.Query.Taking

/-! # Tokens that are read by a grammar

A grammar says which characters at the head of a text are a token, and which one, and may look
at the text behind them.  At a place in an input the lexer reads exactly by a grammar if it
finds what the grammar allows there, goes on right behind it, and refuses all else. -/

namespace RuleAtlas.Query

open Text (byteLength)

/-- Which characters in front of a text are a token, and which token they are. -/
abbrev Grammar : Type := (source rest : List Char) → Lexeme → Prop

/-- The head of the text is a token of the grammar. -/
def Grammar.Allows (grammar : Grammar) (text source rest : List Char) (lexeme : Lexeme) : Prop :=
  text = source ++ rest ∧ grammar source rest lexeme

/-- At this place a token is read exactly by the grammar: the characters that it allows, of
which there are no two choices, and a syntax error where it allows none. -/
structure Cursor.ReadsBy (grammar : Grammar) (cursor : Cursor) : Prop where
  found : ∀ token behind, cursor.next = (.ok token, behind) ↔
    ∃ source rest lexeme, grammar.Allows cursor.rest source rest lexeme ∧
      token = ⟨lexeme.kind, String.ofList lexeme.text, cursor.pos⟩ ∧
      behind = ⟨cursor.pos + byteLength source, rest⟩
  refused : (∃ error, cursor.next.1 = .error error ∧ error.toFailure.kind = .syntaxError) ↔
    ¬∃ source rest lexeme, grammar.Allows cursor.rest source rest lexeme
  unique : ∀ {source rest lexeme other otherRest otherLexeme},
    grammar.Allows cursor.rest source rest lexeme →
    grammar.Allows cursor.rest other otherRest otherLexeme → source = other ∧ lexeme = otherLexeme

namespace Cursor

variable {pos : Nat} {first : Char} {text : List Char}

/-- Where no gap begins, the token is the reading at the place. -/
theorem next_of_noGap (noGap : gap false (first :: text) = []) :
    (Cursor.mk pos (first :: text)).next =
      ((match (readLexeme first text).outcome with
        | .ok lexeme => .ok ⟨lexeme.kind, String.ofList lexeme.text, pos⟩
        | .error stumble => .error ⟨stumble.fault, pos + byteLength stumble.before⟩),
        (Cursor.mk pos (first :: text)).advance (readLexeme first text).source) := by
  have here : (Cursor.mk pos (first :: text)).skipGap = ⟨pos, first :: text⟩ := by
    simp [skipGap, advance, noGap]
  unfold next
  rw [here]
  dsimp only
  cases (readLexeme first text).outcome <;> rfl

/-- A reader that finds what a grammar allows, and nothing else, reads exactly by it. -/
theorem readsBy_of_reading {grammar : Grammar} (noGap : gap false (first :: text) = [])
    (complete : ∀ {source rest lexeme}, grammar.Allows (first :: text) source rest lexeme →
      readLexeme first text = .found source lexeme)
    (sound : ∀ {lexeme}, (readLexeme first text).outcome = .ok lexeme →
      ∃ source rest, grammar.Allows (first :: text) source rest lexeme) :
    (Cursor.mk pos (first :: text)).ReadsBy grammar := by
  have next := @next_of_noGap pos first text noGap
  -- Every token that the grammar allows is the one that is read.
  have reads : ∀ {source rest lexeme}, grammar.Allows (first :: text) source rest lexeme →
      (Cursor.mk pos (first :: text)).next =
        (.ok ⟨lexeme.kind, String.ofList lexeme.text, pos⟩, ⟨pos + byteLength source, rest⟩) := by
    intro source rest lexeme allowed
    rw [next, complete allowed]
    have drop : (first :: text).drop source.length = rest := by
      rw [allowed.1, List.drop_left]
    exact congrArg (Prod.mk _) (congrArg (Cursor.mk _) drop)
  refine ⟨fun token behind => ⟨fun came => ?_, ?_⟩, ⟨?_, fun none => ?_⟩, ?_⟩
  · rw [next] at came
    cases outcome : (readLexeme first text).outcome with
    | error stumble =>
      rw [outcome] at came
      cases came
    | ok lexeme =>
      obtain ⟨source, rest, allowed⟩ := sound outcome
      have same := reads allowed
      rw [next, came] at same
      cases same
      exact ⟨source, rest, lexeme, allowed, rfl, rfl⟩
  · rintro ⟨source, rest, lexeme, allowed, rfl, rfl⟩
    exact reads allowed
  · rintro ⟨error, came, -⟩ ⟨source, rest, lexeme, allowed⟩
    rw [reads allowed] at came
    cases came
  · cases outcome : (readLexeme first text).outcome with
    | ok lexeme =>
      obtain ⟨source, rest, allowed⟩ := sound outcome
      exact absurd ⟨source, rest, lexeme, allowed⟩ none
    | error stumble =>
      rw [next, outcome]
      exact ⟨_, rfl, rfl⟩
  · intro source rest lexeme other otherRest otherLexeme allowed otherAllowed
    have same := (complete allowed).symm.trans (complete otherAllowed)
    cases same
    exact ⟨rfl, rfl⟩

end Cursor

end RuleAtlas.Query
