import Mathlib.Data.List.Basic
import Mathlib.Order.Basic
import RuleAtlas.Files.Discovery
import RuleAtlas.Files.Tree
import RuleAtlas.Proofs.Files.Paths

/-! # Discovery of files

A discovery gives the paths that its patterns fit, without those that were there before.  It can
be made in one go: a search remembers the keys of the paths that it came by, and takes a path
along where its key is new.  Every step of the search keeps what it has taken, so no path is
there twice, no path that fits is lost, and more patterns only add paths behind the others. -/

namespace RuleAtlas.Files

/-- The place in a list is that of a path that is the same as no path before it. -/
def IsFirst (matched : List String) (place : String × Nat) : Prop :=
  ∀ earlier ∈ matched.take place.2, ¬Path.Same earlier place.1

instance (matched : List String) : DecidablePred (IsFirst matched) := fun place =>
  inferInstanceAs (Decidable (∀ earlier ∈ matched.take place.2, ¬Path.Same earlier place.1))

/-- The paths of a list that are the same as no path before them. -/
def firstsOf (matched : List String) : List String :=
  (matched.zipIdx.filter (IsFirst matched ·)).map Prod.fst

namespace FileSource

/-- The paths that a pattern fits, in the order of its glob; a text that is no glob fits none. -/
def matchesOf (source : FileSource Id) (pattern : String) : List String :=
  match Glob.ofText? pattern with
  | none => []
  | some glob => (source.expand glob).run

/-- The paths that the patterns fit, in the order of the patterns. -/
def matchesOfAll (source : FileSource Id) (patterns : List String) : List String :=
  patterns.flatMap source.matchesOf

end FileSource

/-! ## First paths -/

/-- Whether a path is the first of its kind is a matter of the paths before it. -/
theorem isFirst_append {matched : List String} {place : String × Nat}
    (inside : place.2 ≤ matched.length) (more : List String) :
    IsFirst (matched ++ more) place ↔ IsFirst matched place := by
  unfold IsFirst
  rw [List.take_append_of_le_length inside]

/-- The first paths of a list stay the first ones when more paths follow. -/
theorem firstsOf_append (matched more : List String) :
    firstsOf (matched ++ more) = firstsOf matched ++
      ((more.zipIdx matched.length).filter (IsFirst (matched ++ more) ·)).map Prod.fst := by
  have alike : ∀ place ∈ matched.zipIdx,
      decide (IsFirst (matched ++ more) place) = decide (IsFirst matched place) := by
    intro place member
    have inside := List.snd_lt_of_mem_zipIdx member
    exact decide_eq_decide.2 (isFirst_append (by omega) more)
  rw [firstsOf, List.zipIdx_append, List.filter_append, List.map_append, List.filter_congr alike,
    Nat.zero_add, firstsOf]

theorem firstsOf_concat (matched : List String) (path : String) :
    firstsOf (matched ++ [path]) =
      firstsOf matched ++ if ∃ earlier ∈ matched, Path.Same earlier path then [] else [path] := by
  have here : IsFirst (matched ++ [path]) (path, matched.length) ↔
      ¬∃ earlier ∈ matched, Path.Same earlier path := by
    rw [isFirst_append (Nat.le_refl _), IsFirst, List.take_length]
    simp only [not_exists, not_and]
  rw [firstsOf_append]
  by_cases known : ∃ earlier ∈ matched, Path.Same earlier path
  · simp [here, known]
  · simp [here, known]

theorem mem_of_mem_firstsOf {matched : List String} {path : String}
    (first : path ∈ firstsOf matched) : path ∈ matched := by
  obtain ⟨place, member, rfl⟩ := List.mem_map.1 first
  exact List.fst_mem_of_mem_zipIdx (List.mem_of_mem_filter member)

/-! ## The search -/

/-- What a search came by: the keys of all the paths so far, and the paths that it took along. -/
structure Search where
  seen : List (List String)
  taken : List String

namespace Search

def start : Search := ⟨[], []⟩

/-- Takes a path along where its key is new. -/
def visit (search : Search) (path : String) : Search :=
  if Path.key path ∈ search.seen then search
  else ⟨Path.key path :: search.seen, search.taken ++ [path]⟩

/-- Visits the paths that a pattern fits; a text that is no glob is passed over. -/
def follow (source : FileSource Id) (search : Search) (pattern : String) : Search :=
  match Glob.ofText? pattern with
  | none => search
  | some glob => (source.expand glob).run.foldl visit search

/-- The search has visited these paths. -/
structure After (matched : List String) (search : Search) : Prop where
  seen : ∀ key, key ∈ search.seen ↔ ∃ path ∈ matched, Path.key path = key
  taken : search.taken = firstsOf matched
  distinct : search.taken.Pairwise (¬Path.Same · ·)
  complete : ∀ path ∈ matched, ∃ kept ∈ search.taken, Path.Same kept path

theorem after_start : After [] start where
  seen := by simp [start]
  taken := rfl
  distinct := .nil
  complete := by simp

variable {matched : List String} {search : Search}

/-- A path that is the same as an earlier one adds nothing to the search. -/
theorem After.again (after : After matched search) {earlier path : String}
    (member : earlier ∈ matched) (same : Path.Same earlier path) :
    After (matched ++ [path]) search where
  seen key := by
    simp only [after.seen, List.mem_append, List.mem_singleton, or_and_right, exists_or,
      exists_eq_left]
    refine ⟨.inl, fun found => found.elim id fun last => ?_⟩
    exact ⟨earlier, member, (Path.same_iff.1 same).trans last⟩
  taken := by rw [firstsOf_concat, if_pos ⟨earlier, member, same⟩, List.append_nil, after.taken]
  distinct := after.distinct
  complete := by
    intro other otherMember
    rcases List.mem_append.1 otherMember with before | last
    · exact after.complete other before
    · obtain ⟨kept, keptMember, keptSame⟩ := after.complete earlier member
      obtain rfl := List.mem_singleton.1 last
      exact ⟨kept, keptMember, keptSame.trans same⟩

theorem After.concat (after : After matched search) {path : String}
    (new : ¬∃ earlier ∈ matched, Path.Same earlier path) :
    After (matched ++ [path]) ⟨Path.key path :: search.seen, search.taken ++ [path]⟩ where
  seen key := by
    simp only [List.mem_cons, after.seen, List.mem_append, List.not_mem_nil, or_false,
      or_and_right, exists_or, exists_eq_left]
    rw [or_comm, eq_comm]
  taken := by rw [firstsOf_concat, if_neg new, after.taken]
  distinct := by
    refine List.pairwise_append.2 ⟨after.distinct, List.pairwise_singleton .., ?_⟩
    intro kept keptMember other last same
    rw [List.mem_singleton.1 last] at same
    rw [after.taken] at keptMember
    exact new ⟨kept, mem_of_mem_firstsOf keptMember, same⟩
  complete := by
    intro other otherMember
    rcases List.mem_append.1 otherMember with before | last
    · obtain ⟨kept, keptMember, keptSame⟩ := after.complete other before
      exact ⟨kept, List.mem_append_left _ keptMember, keptSame⟩
    · exact ⟨other, List.mem_append_right _ last, .refl other⟩

theorem After.visit (after : After matched search) (path : String) :
    After (matched ++ [path]) (search.visit path) := by
  have known : Path.key path ∈ search.seen ↔ ∃ earlier ∈ matched, Path.Same earlier path := by
    simp only [after.seen, Path.same_iff]
  unfold Search.visit
  by_cases here : Path.key path ∈ search.seen
  · rw [if_pos here]
    obtain ⟨earlier, member, same⟩ := known.1 here
    exact after.again member same
  · rw [if_neg here]
    exact after.concat fun found => here (known.2 found)

theorem After.visitAll (after : After matched search) (paths : List String) :
    After (matched ++ paths) (paths.foldl Search.visit search) := by
  induction paths generalizing matched search with
  | nil => rwa [List.append_nil]
  | cons path paths inductionHypothesis =>
    have next := inductionHypothesis (after.visit path)
    rwa [List.append_assoc] at next

/-- Following patterns is visiting all the paths that they fit, in order. -/
theorem foldl_follow (source : FileSource Id) (patterns : List String) (search : Search) :
    patterns.foldl (follow source) search =
      (source.matchesOfAll patterns).foldl Search.visit search := by
  rw [FileSource.matchesOfAll, List.foldl_flatMap]
  congr 1
  funext search pattern
  unfold follow FileSource.matchesOf
  cases Glob.ofText? pattern <;> rfl

/-- Whatever the patterns are, a search that follows them has visited all that they fit. -/
theorem after_follow (source : FileSource Id) (patterns : List String) :
    After (source.matchesOfAll patterns) (patterns.foldl (follow source) start) := by
  rw [foldl_follow]
  exact after_start.visitAll _

/-- A search takes along the first occurrences, but for those with keys that it knows. -/
theorem taken_visitAll (paths : List String) (search : Search) :
    (paths.foldl visit search).taken =
      search.taken ++ (firstOccurrences paths).filter (Path.key · ∉ search.seen) := by
  induction paths generalizing search with
  | nil => simp [firstOccurrences]
  | cons path paths inductionHypothesis =>
    rw [List.foldl_cons, inductionHypothesis, firstOccurrences, visit]
    by_cases here : Path.key path ∈ search.seen
    · -- The same paths behind it are known as well.
      rw [if_pos here, List.filter_cons_of_neg (by simpa using here), List.filter_filter]
      congr 1
      apply List.filter_congr
      intro other _
      by_cases known : Path.key other ∈ search.seen
      · simp [known]
      · have apart : Path.key other ≠ Path.key path := fun same => known (same ▸ here)
        simp [known, apart]
    · rw [if_neg here, List.filter_cons_of_pos (by simpa using here), List.filter_filter,
        List.append_assoc, List.singleton_append]
      congr 2
      apply List.filter_congr
      intro other _
      by_cases same : Path.key other = Path.key path
      · simp [same]
      · simp [same]

end Search

/-! ## The discovery -/

theorem run_collect {α β : Type} (ask : α → Id (List β)) (list : List α) :
    (collect ask list).run = list.flatMap fun a => (ask a).run := by
  induction list with
  | nil => rfl
  | cons a list inductionHypothesis =>
    rw [List.flatMap_cons, ← inductionHypothesis]
    rfl

namespace FileSource

variable {source : FileSource Id} {patterns : List String}

theorem run_collect_fitting (source : FileSource Id) (patterns : List String) :
    (collect source.fitting patterns).run = source.matchesOfAll patterns := by
  have each : ∀ pattern, (source.fitting pattern).run = source.matchesOf pattern := by
    intro pattern
    unfold fitting matchesOf
    cases Glob.ofText? pattern <;> rfl
  rw [run_collect, funext each, matchesOfAll]

/-- A discovery is a search that follows one pattern after the other. -/
theorem run_discover (source : FileSource Id) (patterns : List String) :
    (source.discover patterns).run =
      match (patterns.foldl (Search.follow source) .start).taken with
      | [] => .error (nothingFound patterns)
      | paths => .ok paths := by
  have firsts : (patterns.foldl (Search.follow source) .start).taken =
      firstOccurrences (collect source.fitting patterns).run := by
    rw [Search.foldl_follow, Search.taken_visitAll, run_collect_fitting]
    simp [Search.start]
  rw [firsts]
  rfl

theorem matchesOfAll_eq_nil :
    source.matchesOfAll patterns = [] ↔ ∀ pattern ∈ patterns, source.matchesOf pattern = [] :=
  List.flatMap_eq_nil_iff

/-- Where the patterns fit something, the discovery finds what the search takes along. -/
theorem run_discover_of_matches (some_path : source.matchesOfAll patterns ≠ []) :
    (source.discover patterns).run =
      .ok (patterns.foldl (Search.follow source) .start).taken := by
  have after := Search.after_follow source patterns
  rw [run_discover]
  split
  · -- A path that fits leaves one behind.
    rename_i nothing
    obtain ⟨path, member⟩ := List.exists_mem_of_ne_nil _ some_path
    obtain ⟨kept, keptMember, -⟩ := after.complete path member
    rw [nothing] at keptMember
    cases keptMember
  · rfl

theorem run_discover_of_no_matches (no_path : source.matchesOfAll patterns = []) :
    (source.discover patterns).run = .error (nothingFound patterns) := by
  rw [run_discover, Search.foldl_follow, no_path]
  rfl

/-- A discovery finds the first ones of all paths that its patterns fit, in order; it fails only
where they fit none.  No path is found twice and none is lost, and with more patterns more paths
are found behind the others. -/
theorem discover_firsts (source : FileSource Id) (patterns more : List String) :
    ((∃ failure, (source.discover patterns).run = .error failure ∧
        failure.kind = .invalidArgument) ↔ ∀ pattern ∈ patterns, source.matchesOf pattern = []) ∧
    ((∃ pattern ∈ patterns, source.matchesOf pattern ≠ []) →
      ∃ paths, (source.discover patterns).run = .ok paths ∧
        paths = firstsOf (source.matchesOfAll patterns) ∧
        paths.Pairwise (¬Path.Same · ·) ∧
        (∀ pattern ∈ patterns, ∀ path ∈ source.matchesOf pattern, ∃ kept ∈ paths,
          Path.Same kept path) ∧
        ∃ added, (source.discover (patterns ++ more)).run = .ok (paths ++ added)) := by
  have after := Search.after_follow source patterns
  rw [← matchesOfAll_eq_nil]
  constructor
  · constructor
    · rintro ⟨failure, failed, -⟩
      by_contra some_path
      rw [run_discover_of_matches some_path] at failed
      cases failed
    · intro no_path
      exact ⟨_, run_discover_of_no_matches no_path, rfl⟩
  · rintro ⟨pattern, member, fits⟩
    have some_path : source.matchesOfAll patterns ≠ [] := fun nothing =>
      fits (matchesOfAll_eq_nil.1 nothing pattern member)
    refine ⟨_, run_discover_of_matches some_path, after.taken, after.distinct, ?_, ?_⟩
    · intro pattern member path fits
      exact after.complete path (List.mem_flatMap_of_mem member fits)
    · -- The search goes on where it stood behind the patterns before.
      have whole : source.matchesOfAll (patterns ++ more) =
          source.matchesOfAll patterns ++ source.matchesOfAll more := List.flatMap_append
      have some_more : source.matchesOfAll (patterns ++ more) ≠ [] := by
        rw [whole]
        exact List.append_ne_nil_of_left_ne_nil some_path _
      rw [run_discover_of_matches some_more, (Search.after_follow source _).taken, whole,
        firstsOf_append, after.taken]
      exact ⟨_, rfl⟩

/-- A file that two patterns fit and one that only the second one fits, behind a text that is no
glob; one more pattern fits these and another one. -/
theorem discover_firsts_overlap :
    let tree := (((FileTree.emptyAt ["w"]).create ["w", "b.rules"] (.file .empty)).create
      ["w", "a.rules"] (.file .empty)).create ["w", "c.rules"] (.file .empty)
    let patterns := ["[", "c.rules", "[bc].rules"]
    (∃ pattern ∈ patterns, tree.source.matchesOf pattern ≠ []) ∧
      tree.source.matchesOfAll patterns = ["c.rules", "b.rules", "c.rules"] ∧
      (tree.source.discover patterns).run = .ok ["c.rules", "b.rules"] ∧
      (tree.source.discover (patterns ++ ["*.rules"])).run =
        .ok (["c.rules", "b.rules"] ++ ["a.rules"]) := by
  intro tree patterns
  have some_path : ∃ pattern ∈ patterns, tree.source.matchesOf pattern ≠ [] := by
    decide +kernel
  have fit : tree.source.matchesOfAll patterns = ["c.rules", "b.rules", "c.rules"] := by
    decide +kernel
  have fitWhole : tree.source.matchesOfAll (patterns ++ ["*.rules"]) =
      ["c.rules", "b.rules", "c.rules", "a.rules", "b.rules", "c.rules"] := by
    decide +kernel
  obtain ⟨paths, found, firsts, -, -, added, whole⟩ :=
    (discover_firsts tree.source patterns ["*.rules"]).2 some_path
  obtain ⟨all, foundAll, firstsAll, -⟩ :=
    (discover_firsts tree.source (patterns ++ ["*.rules"]) []).2
      (some_path.imp fun pattern fits => ⟨List.mem_append_left _ fits.1, fits.2⟩)
  obtain rfl : paths = ["c.rules", "b.rules"] := by
    rw [firsts, fit]
    decide +kernel
  obtain rfl : all = ["c.rules", "b.rules", "a.rules"] := by
    rw [firstsAll, fitWhole]
    decide +kernel
  -- What is added is what the whole discovery finds behind the two files.
  rw [foundAll] at whole
  have behind : ["c.rules", "b.rules"] ++ ["a.rules"] = ["c.rules", "b.rules"] ++ added :=
    Except.ok.inj whole
  obtain rfl := List.append_cancel_left behind
  exact ⟨some_path, fit, found, foundAll.trans whole⟩

end FileSource

end RuleAtlas.Files
