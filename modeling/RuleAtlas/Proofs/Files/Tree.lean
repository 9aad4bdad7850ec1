import RuleAtlas.Files.Tree
import RuleAtlas.Proofs.SortedMap

/-! # Writing into a file tree

A content that is written through a path is read back through the same path, and no other
location of the tree changes.  The way to the file leads through directories only, and these are
what they were, so a path that leads somewhere still leads there after the write. -/

namespace RuleAtlas.Text

/-- A text that is not empty and does not end in the separator ends in a piece. -/
theorem split_eq_concat {separator : Char} {text : List Char} (nonempty : text ≠ [])
    (open_end : text.getLast? ≠ some separator) :
    ∃ pieces last, split separator text = pieces ++ [last] ∧ last ≠ [] := by
  induction text with
  | nil => exact absurd rfl nonempty
  | cons c rest inductionHypothesis =>
    cases rest with
    | nil =>
      have other : c ≠ separator := by simpa using open_end
      exact ⟨[], [c], by simp [split, other], by simp⟩
    | cons next more =>
      rw [List.getLast?_cons_cons] at open_end
      obtain ⟨pieces, last, same, nonemptyLast⟩ := inductionHypothesis (by simp) open_end
      by_cases here : c = separator
      · exact ⟨[] :: pieces, last, by rw [split, if_pos here, same]; rfl, nonemptyLast⟩
      · rw [split, if_neg here, same]
        cases pieces with
        | nil => exact ⟨[], c :: last, rfl, by simp⟩
        | cons piece pieces => exact ⟨(c :: piece) :: pieces, last, rfl, nonemptyLast⟩

end RuleAtlas.Text

namespace RuleAtlas.Files

theorem Path.pieces_eq_concat {path : String} (nonempty : path.isEmpty = false)
    (open_end : endsInSlash path = false) :
    ∃ names name, pieces path = names ++ [name] ∧ name ≠ "" := by
  have some_characters : path.toList ≠ [] := by
    simpa using nonempty
  have no_slash : path.toList.getLast? ≠ some '/' := by
    simpa [endsInSlash] using open_end
  obtain ⟨names, name, same, nonemptyName⟩ := Text.split_eq_concat some_characters no_slash
  refine ⟨names.map String.ofList, String.ofList name, ?_, ?_⟩
  · rw [pieces, same, List.map_append, List.map_singleton]
  · simpa using nonemptyName

namespace FileTree

variable {tree changed : FileTree} {location other : Location} {entry : Entry}
  {content : ByteArray} {path : String}

/-! ## Entries -/

theorem entry?_put (inside : location ≠ []) (tree : FileTree) (entry : Entry) (other : Location) :
    entry? (tree.put location entry) other =
      if other = location then some entry else tree.entry? other := by
  cases other with
  | nil => simp [ entry?, Ne.symm inside]
  | cons name names => simp [ entry?, put, SortedMap.find?_insert]

/-- Of two entries at one location the second one stays. -/
theorem put_put (tree : FileTree) (location : Location) (first second : Entry) :
    (tree.put location first).put location second = tree.put location second := by
  have entries : (tree.entries.insert location first).insert location second =
      tree.entries.insert location second := by
    apply SortedMap.ext_find?
    intro other
    simp only [SortedMap.find?_insert]
    by_cases same : other = location <;> simp [same]
  simp only [put, entries]

theorem isDirectory_of_entry? (here : tree.entry? location = some (.file content)) :
    tree.isDirectory location = false := by
  simp [isDirectory, here, Entry.kind]

/-- A file where no directory was leaves the directories as they are. -/
theorem isDirectory_put (inside : location ≠ []) (noDirectory : tree.isDirectory location = false)
    (content : ByteArray) (other : Location) :
    (tree.put location (.file content)).isDirectory other = tree.isDirectory other := by
  by_cases same : other = location
  · subst same
    rw [noDirectory]
    exact isDirectory_of_entry? (by rw [entry?_put inside, if_pos rfl])
  · rw [isDirectory, entry?_put inside, if_neg same, isDirectory]

/-! ## Ways through the tree -/

/-- What a step that succeeds has done: it has stayed, gone up, or gone to something there. -/
theorem step_eq_ok {place next : Location} {name : String} :
    tree.step place name = .ok next ↔ tree.isDirectory place = true ∧
      (Path.isIdle name = true ∧ next = place ∨
        Path.isIdle name = false ∧ name = ".." ∧ next = place.dropLast ∨
        Path.isIdle name = false ∧ name ≠ ".." ∧ name.utf8ByteSize ≤ maxNameLength ∧
          (tree.entry? (place ++ [name])).isSome = true ∧ next = place ++ [name]) := by
  unfold step
  cases tree.isDirectory place with
  | false => simp
  | true =>
    cases Path.isIdle name with
    | true => simp [eq_comm (a := next)]
    | false =>
      by_cases up : name = ".."
      · simp [up, eq_comm (a := next)]
      · by_cases long : maxNameLength < name.utf8ByteSize
        · simp [up, long, Nat.not_le.2 long]
        · cases (tree.entry? (place ++ [name])).isSome <;>
            simp [up, long, Nat.not_lt.1 long, eq_comm (a := next)]

/-- Only what was missing can be found where a file was put, so every step still succeeds. -/
theorem step_put (inside : location ≠ []) (noDirectory : tree.isDirectory location = false)
    (content : ByteArray) {place next : Location} {name : String}
    (stepped : tree.step place name = .ok next) :
    (tree.put location (.file content)).step place name = .ok next := by
  rw [step_eq_ok] at stepped ⊢
  rw [isDirectory_put inside noDirectory]
  refine ⟨stepped.1, stepped.2.imp_right (Or.imp_right ?_)⟩
  rintro ⟨notIdle, notUp, short, found, rfl⟩
  refine ⟨notIdle, notUp, short, ?_, rfl⟩
  rw [entry?_put inside]
  split
  · rfl
  · exact found

theorem foldlM_step_put (inside : location ≠ [])
    (noDirectory : tree.isDirectory location = false) (content : ByteArray)
    {names : List String} {place final : Location}
    (walked : names.foldlM tree.step place = .ok final) :
    names.foldlM (tree.put location (.file content)).step place = .ok final := by
  induction names generalizing place with
  | nil => exact walked
  | cons name names inductionHypothesis =>
    rw [List.foldlM_cons] at walked ⊢
    cases stepped : tree.step place name with
    | error fault =>
      rw [stepped] at walked
      cases walked
    | ok next =>
      rw [stepped] at walked
      rw [step_put inside noDirectory content stepped]
      exact inductionHypothesis walked

/-- A way that leads to a directory begins in one. -/
theorem isDirectory_of_foldlM {names : List String} {place final : Location}
    (walked : names.foldlM tree.step place = .ok final)
    (directory : tree.isDirectory final = true) : tree.isDirectory place = true := by
  cases names with
  | nil =>
    cases walked
    exact directory
  | cons name names =>
    rw [List.foldlM_cons] at walked
    cases stepped : tree.step place name with
    | error fault =>
      rw [stepped] at walked
      cases walked
    | ok next => exact (step_eq_ok.1 stepped).1

/-- Empty names between slashes do not matter on the way to a directory. -/
theorem foldlM_of_filter {names : List String} {place final : Location}
    (walked : (names.filter (· ≠ "")).foldlM tree.step place = .ok final)
    (directory : tree.isDirectory final = true) :
    names.foldlM tree.step place = .ok final := by
  induction names generalizing place with
  | nil => exact walked
  | cons name names inductionHypothesis =>
    by_cases empty : name = ""
    · subst empty
      have stays : tree.step place "" = .ok place :=
        step_eq_ok.2 ⟨isDirectory_of_foldlM walked directory, .inl ⟨rfl, rfl⟩⟩
      rw [List.foldlM_cons, stays]
      exact inductionHypothesis (by simpa using walked)
    · rw [List.filter_cons_of_pos (by simpa using empty), List.foldlM_cons] at walked
      rw [List.foldlM_cons]
      cases stepped : tree.step place name with
      | error fault =>
        rw [stepped] at walked
        cases walked
      | ok next =>
        rw [stepped] at walked
        exact inductionHypothesis walked

/-! ## Writing -/

/-- A place for a file is in a directory, and not a directory itself. -/
theorem placeFor_eq_ok {directory : Location} {name : String}
    (placed : tree.placeFor path directory name = .ok location) :
    tree.isDirectory directory = true ∧ Path.endsInSlash path = false ∧ name ≠ "." ∧
      name ≠ ".." ∧ name.utf8ByteSize ≤ maxNameLength ∧ location = directory ++ [name] ∧
      tree.isDirectory location = false := by
  unfold placeFor at placed
  split at placed
  · cases placed
  · split at placed
    · cases placed
    · split at placed
      · cases placed
      · split at placed
        · cases placed
        · cases placed
          simp_all

/-- What is known of a path that leads to a place for a file. -/
theorem locateFile_eq_ok (located : tree.locateFile path = .ok location) :
    ∃ names name directory, pathFault? path = none ∧ Path.pieces path = names ++ [name] ∧
      name ≠ "" ∧ names.foldlM tree.step (tree.startOf path) = .ok directory ∧
      tree.placeFor path directory name = .ok location := by
  unfold locateFile at located
  simp only at located
  split at located
  · cases located
  · cases located
  · rename_i name noFault lastName
    cases walked : ((Path.pieces path).filter (· ≠ "")).dropLast.foldlM tree.step
        (tree.startOf path) with
    | error fault =>
      rw [walked] at located
      cases located
    | ok directory =>
      rw [walked] at located
      have placed : tree.placeFor path directory name = .ok location := located
      obtain ⟨isDirectory, noSlash, -⟩ := placeFor_eq_ok placed
      have nonempty : path.isEmpty = false := by
        cases empty : path.isEmpty with
        | false => rfl
        | true => simp [pathFault?, empty] at noFault
      -- Empty pieces are passed over on the way, but the last one is the name of the file.
      obtain ⟨names, last, pieces, nonemptyLast⟩ := Path.pieces_eq_concat nonempty noSlash
      rw [pieces, List.filter_append, List.filter_cons_of_pos (by simpa using nonemptyLast),
        List.filter_nil] at walked lastName
      rw [List.dropLast_concat] at walked
      rw [List.getLast?_concat] at lastName
      cases lastName
      exact ⟨names, name, directory, noFault, pieces, nonemptyLast,
        foldlM_of_filter walked isDirectory, placed⟩

theorem write_eq_ok (written : tree.write path content = .ok changed) :
    ∃ location, tree.locateFile path = .ok location ∧
      changed = tree.put location (.file content) := by
  unfold write at written
  cases located : tree.locateFile path with
  | error fault =>
    rw [located] at written
    cases written
  | ok location =>
    rw [located] at written
    cases written
    exact ⟨location, rfl, rfl⟩

/-- What is written through a path is read back through it, and nothing else has changed. -/
theorem write_spec (written : tree.write path content = .ok changed) :
    ∃ location, tree.locateFile path = .ok location ∧ changed.current = tree.current ∧
      changed.locate path = .ok location ∧ changed.bytes path = .ok content ∧
      ∀ other, other ≠ location → changed.entry? other = tree.entry? other := by
  obtain ⟨location, located, rfl⟩ := write_eq_ok written
  obtain ⟨names, name, directory, noFault, pieces, nonempty, walked, placed⟩ :=
    locateFile_eq_ok located
  obtain ⟨isDirectory, -, noDot, noDots, short, rfl, noDirectory⟩ := placeFor_eq_ok placed
  have inside : directory ++ [name] ≠ [] := by simp
  have entry : entry? (tree.put (directory ++ [name]) (.file content)) (directory ++ [name]) =
      some (.file content) := by rw [entry?_put inside, if_pos rfl]
  have last : (tree.put (directory ++ [name]) (.file content)).step directory name =
      .ok (directory ++ [name]) := by
    have notIdle : Path.isIdle name = false := by simp [Path.isIdle, nonempty, noDot]
    refine step_eq_ok.2 ⟨?_, .inr (.inr ⟨notIdle, noDots, short, by rw [entry]; rfl, rfl⟩)⟩
    rwa [isDirectory_put inside noDirectory]
  -- The way to the directory is the same as before, and its last step leads to the file.
  have found : (tree.put (directory ++ [name]) (.file content)).locate path =
      .ok (directory ++ [name]) := by
    have way := foldlM_step_put inside noDirectory content walked
    have start : (tree.put (directory ++ [name]) (.file content)).startOf path =
      tree.startOf path := rfl
    have final : [name].foldlM (tree.put (directory ++ [name]) (.file content)).step directory =
        .ok (directory ++ [name]) := by
      rw [List.foldlM_cons, last]
      rfl
    unfold locate
    rw [noFault, pieces, start]
    simp only [List.foldlM_append, way]
    exact final
  refine ⟨_, located, rfl, found, ?_, fun other apart => ?_⟩
  · unfold bytes lookup
    rw [found]
    simp [Except.bind, entry]
  · rw [entry?_put inside, if_neg apart]

end FileTree

end RuleAtlas.Files
