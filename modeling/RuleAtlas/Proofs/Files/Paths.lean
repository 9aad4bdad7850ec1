import Mathlib.Data.List.Basic
import RuleAtlas.Files.Path

/-! # When paths are the same

Two paths are the same when they start at the same place and lead through the same names.  A
path starts at the root, at a dot, or at its first name; other dots, and slashes with no name
between them, lead nowhere.  The key of a path tells just this. -/

namespace RuleAtlas

theorem Text.split_eq_splitOn (separator : Char) (text : List Char) :
    split separator text = text.splitOn separator := by
  induction text with
  | nil => rfl
  | cons c rest inductionHypothesis =>
    rw [split, inductionHypothesis, List.splitOn_cons_eq_if_modifyHead]
    by_cases here : c = separator
    · rw [if_pos here, if_pos (beq_iff_eq.2 here)]
    · rw [if_neg here, if_neg (mt beq_iff_eq.1 here)]
      cases pieces : rest.splitOn separator with
      | nil => exact absurd pieces (List.splitOn_ne_nil separator rest)
      | cons piece pieces => rfl

namespace Files.Path

/-- What stands between the slashes of a path. -/
def segments (path : String) : List (List Char) := path.toList.splitOn '/'

/-- Where a path starts. -/
inductive Start where
  | root
  | dot
  | name
  deriving DecidableEq

def start (path : String) : Start :=
  if path.toList.head? = some '/' then .root
  else if (segments path).head? = some ['.'] then .dot
  else .name

/-- The names that a path leads through. -/
def names (path : String) : List (List Char) :=
  (segments path).filter fun segment => segment ≠ [] ∧ segment ≠ ['.']

/-- The paths start at the same place and lead through the same names. -/
structure Same (path other : String) : Prop where
  start : start path = start other
  names : names path = names other

instance : DecidableRel Same := fun path other =>
  decidable_of_iff (start path = start other ∧ names path = names other)
    ⟨fun same => ⟨same.1, same.2⟩, fun same => ⟨same.start, same.names⟩⟩

theorem Same.refl (path : String) : Same path path := ⟨rfl, rfl⟩

theorem Same.trans {path other third : String} (same : Same path other)
    (sameToo : Same other third) : Same path third :=
  ⟨same.start.trans sameToo.start, same.names.trans sameToo.names⟩

/-! ## Keys -/

/-- The pieces in front of the names. -/
def Start.pieces : Start → List String
  | .root => [""]
  | .dot => ["."]
  | .name => []

theorem isIdle_ofList (segment : List Char) :
    isIdle (String.ofList segment) = !decide (segment ≠ [] ∧ segment ≠ ['.']) := by
  have empty : String.ofList segment = "" ↔ segment = [] :=
    String.ofList_inj
  have dot : String.ofList segment = "." ↔ segment = ['.'] :=
    String.ofList_inj
  simp [isIdle, empty, dot]

theorem filter_map_ofList (segments : List (List Char)) :
    (segments.map String.ofList).filter (!isIdle ·) =
      (segments.filter fun segment => segment ≠ [] ∧ segment ≠ ['.']).map String.ofList := by
  rw [List.filter_map]
  congr 1
  refine List.filter_congr fun segment _ => ?_
  simp [isIdle_ofList]

theorem key_of_pieces {path first : String} {rest : List String}
    (cut : pieces path = first :: rest) (some_piece : first = "" → rest ≠ []) :
    key path = first :: rest.filter (!isIdle ·) := by
  unfold key
  rw [cut]
  split
  · contradiction
  case h_2 alone =>
    cases alone
    exact absurd rfl (some_piece rfl)
  case h_3 same =>
    cases same
    rfl

/-- The key of a path says where it starts and what names it leads through. -/
theorem key_eq (path : String) :
    key path = (start path).pieces ++ (names path).map String.ofList := by
  have cut : pieces path = (segments path).map String.ofList := by
    rw [pieces, Text.split_eq_splitOn]
    rfl
  cases text : path.toList with
  | nil =>
    have nothing : segments path = [[]] := by rw [segments, text, List.splitOn_nil]
    rw [key, cut, start, names, nothing, text]
    rfl
  | cons c rest =>
    obtain ⟨segment, more, behind⟩ := List.exists_cons_of_ne_nil (List.splitOn_ne_nil '/' rest)
    by_cases slash : c = '/'
    · subst slash
      have segments : segments path = [] :: segment :: more := by
        rw [segments, text, List.splitOn_cons_eq_if_modifyHead, if_pos (by decide), behind]
      rw [segments, List.map_cons] at cut
      rw [key_of_pieces cut (by simp), filter_map_ofList, start, names, segments, text]
      simp [Start.pieces]
    · have segments : segments path = (c :: segment) :: more := by
        rw [segments, text, List.splitOn_cons_eq_if_modifyHead, if_neg (by simpa using slash),
          behind]
        rfl
      rw [segments, List.map_cons] at cut
      rw [key_of_pieces cut (by simp), filter_map_ofList, start, names, segments, text]
      by_cases dot : c :: segment = ['.']
      · simp [dot, slash, Start.pieces]
      · simp [dot, slash, Start.pieces]

/-- Of the pieces of a key the names are those behind the first ones that lead nowhere. -/
theorem takeWhile_key (path : String) : (key path).takeWhile isIdle = (start path).pieces := by
  have idle : ∀ piece ∈ (start path).pieces, isIdle piece = true := by
    cases start path <;> decide
  have busy : ((names path).map String.ofList).takeWhile isIdle = [] := by
    cases found : names path with
    | nil => rfl
    | cons segment more =>
      have inside : segment ∈ names path := found ▸ List.mem_cons_self
      have leads := (List.mem_filter.1 inside).2
      rw [List.map_cons, List.takeWhile_cons_of_neg (by rw [isIdle_ofList, leads]; decide)]
  rw [key_eq, List.takeWhile_append_of_pos idle, busy, List.append_nil]

/-- Paths with the same key are the same. -/
theorem same_iff {path other : String} : Same path other ↔ key path = key other := by
  constructor
  · rintro ⟨start, names⟩
    rw [key_eq, key_eq, start, names]
  · intro same
    have starts : (start path).pieces = (start other).pieces := by
      rw [← takeWhile_key, ← takeWhile_key, same]
    rw [key_eq, key_eq, starts] at same
    have injective : Function.Injective String.ofList := fun _ _ => String.ofList_inj.1
    refine ⟨?_, List.map_injective_iff.2 injective (List.append_cancel_left same)⟩
    revert starts
    cases start path <;> cases start other <;> decide

example : Same "a//b/./c/" "a/b/c" ∧ ¬Same "./a" "a" ∧ ¬Same "/a" "a" := by decide +kernel

end Files.Path

end RuleAtlas
