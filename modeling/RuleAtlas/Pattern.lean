import RuleAtlas.Regex.Matching
import RuleAtlas.Regex.Reader
import RuleAtlas.Regex.Size

/-! # Patterns for whole values

A pattern is the text of a regular expression that a whole value has to match.  It is read
between an anchor for the start and a group, and the end of the group and an anchor for the
end; the text is put there as it is, before anything is read. -/

namespace RuleAtlas

/-- Reads a regular expression that is not too large. -/
def Regex.compile? (text : List Char) : Option Regex :=
  (Regex.read? text).filter Regex.isSmall

/-- The text of a pattern between its anchors. -/
def anchored (source : List Char) : List Char :=
  ['^', '(', '?', ':'] ++ source ++ [')', '$']

/-- A pattern with the expression that its anchored text stands for. -/
structure Pattern where
  source : String
  regex : Regex
  compiles : Regex.compile? (anchored source.toList) = some regex

namespace Pattern

def ofSource? (source : String) : Option Pattern :=
  match h : Regex.compile? (anchored source.toList) with
  | none => none
  | some regex => some ⟨source, regex, h⟩

def matchesValue (pattern : Pattern) (value : String) : Bool := pattern.regex.isFoundIn value

/-- Patterns with the same text are equal. -/
theorem ext {a b : Pattern} (h : a.source = b.source) : a = b := by
  obtain ⟨source, regex, compiles⟩ := a
  obtain ⟨other, second, compilesToo⟩ := b
  cases h
  rw [compiles] at compilesToo
  cases compilesToo
  rfl

theorem ofSource?_eq_some_iff {source : String} {pattern : Pattern} :
    ofSource? source = some pattern ↔ pattern.source = source := by
  unfold ofSource?
  constructor
  · intro found
    split at found
    · cases found
    · obtain rfl := Option.some.inj found
      rfl
  · rintro rfl
    split
    next refused =>
      rw [pattern.compiles] at refused
      cases refused
    next => exact congrArg some (ext rfl)

instance : DecidableEq Pattern := fun a b =>
  if h : a.source = b.source then isTrue (ext h)
  else isFalse fun equal => h (congrArg Pattern.source equal)

instance : Repr Pattern := ⟨fun pattern _ => repr pattern.source⟩

end Pattern

end RuleAtlas
