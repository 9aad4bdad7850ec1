import RuleAtlas.Command.Session
import RuleAtlas.Proofs.Files.Observing
import RuleAtlas.Proofs.Files.Tree
import RuleAtlas.Proofs.Rules.Catalogue

/-! # All or nothing

Drawing into a file passes four stages: files are discovered, loaded, made into a graph, and
the file is opened.  If a stage fails, the tree is what it was.  Otherwise the file that was
named holds the drawing, of the files as they were before, and no other place has changed.  The
same is left behind by a program that asks about its files while they change under it, and that
empties the file before it fills it, since it asks nothing any more by then. -/

namespace RuleAtlas.Command

open Files

variable {tree : FileTree} {patterns : List String} {path : String}

/-! ## Stages -/

/-- What the file at a path comes to. -/
def loadFile (tree : FileTree) (path : String) : Except Report (List RuleGroup) :=
  loadRead path ((tree.bytes path).bind textOfBytes)

/-- The file at the path holds a text, and this text is of these groups. -/
def Loads (tree : FileTree) (path : String) (groups : List RuleGroup) : Prop :=
  ∃ content text, tree.bytes path = .ok content ∧ textOfBytes content = .ok text ∧
    loadContent path text = .ok groups

/-- The graph is that of the files that fit the patterns, as the tree holds them. -/
def Draws (tree : FileTree) (patterns : List String) (graph : RuleGraph) : Prop :=
  ∃ paths loaded, tree.source.discover patterns = .ok paths ∧
    List.Forall₂ (Loads tree) paths loaded ∧ RuleGraph.ofGroups loaded.flatten = .ok graph

/-- The failure of the first stage that fails on the way to a file. -/
inductive Fails (tree : FileTree) (patterns : List String) (path : String) : Failure → Prop where
  | discovering {failure : Failure} (refused : tree.source.discover patterns = .error failure) :
      Fails tree patterns path failure
  | loading {paths : List String} {report : Report}
      (found : tree.source.discover patterns = .ok paths)
      (refused : loadAll (loadFile tree) paths = .error report) :
      Fails tree patterns path report.toFailure
  | building {paths : List String} {loaded : List (List RuleGroup)} {error : BuildError}
      (found : tree.source.discover patterns = .ok paths)
      (read : List.Forall₂ (Loads tree) paths loaded)
      (refused : RuleGraph.ofGroups loaded.flatten = .error error) :
      Fails tree patterns path error.toFailure
  | opening {graph : RuleGraph} {fault : FileFault} (draws : Draws tree patterns graph)
      (refused : tree.locateFile path = .error fault) :
      Fails tree patterns path (sinkFailure path fault)

theorem loadRead_eq_ok {content : Except FileFault String} {groups : List RuleGroup}
    (loaded : loadRead path content = .ok groups) :
    ∃ text, content = .ok text ∧ loadContent path text = .ok groups := by
  cases content with
  | error fault => cases loaded
  | ok text => exact ⟨text, rfl, loaded⟩

theorem loads_of_loadFile {groups : List RuleGroup} (loaded : loadFile tree path = .ok groups) :
    Loads tree path groups := by
  obtain ⟨text, read, here⟩ := loadRead_eq_ok loaded
  cases content : tree.bytes path with
  | error fault =>
    rw [content] at read
    cases read
  | ok bytes =>
    rw [content] at read
    exact ⟨bytes, text, content, read, here⟩

/-- A catalogue that is loaded is loaded file by file. -/
theorem loads_of_loadAll {paths : List String} {groups : List RuleGroup}
    (loaded : loadAll (loadFile tree) paths = .ok groups) :
    ∃ each, List.Forall₂ (Loads tree) paths each ∧ groups = each.flatten := by
  have carries : ∀ result ∈ paths.map (loadFile tree), ∀ report, result = .error report →
      report.failures ≠ [] := by
    intro result member report refused
    obtain ⟨path, -, rfl⟩ := List.mem_map.1 member
    exact failures_ne_nil_of_loadRead refused
  obtain ⟨each, results, rfl⟩ := loaded_of_combine carries loaded
  refine ⟨each, ?_, rfl⟩
  clear carries loaded
  induction paths generalizing each with
  | nil =>
    cases each with
    | nil => exact .nil
    | cons groups each => simp at results
  | cons path paths inductionHypothesis =>
    cases each with
    | nil => simp at results
    | cons groups each =>
      obtain ⟨first, others⟩ := List.cons_eq_cons.1 results
      exact .cons (loads_of_loadFile first) (inductionHypothesis each others)

theorem collect_singleton {α β : Type} (answer : α → β) (list : List α) :
    Id.run (collect (fun a => pure [answer a]) list) = list.map answer := by
  induction list with
  | nil => rfl
  | cons a rest inductionHypothesis =>
    show answer a :: Id.run (collect (fun a => pure [answer a]) rest) = _
    rw [inductionHypothesis]
    rfl

theorem draw_eq (tree : FileTree) (patterns : List String) :
    Id.run (draw tree.source patterns) =
      match Id.run (tree.source.discover patterns) with
      | .error failure => .error failure
      | .ok paths => drawGroups (loadAll (loadFile tree) paths) := by
  show Id.run (match Id.run (tree.source.discover patterns) with
    | .error failure => pure (.error failure)
    | .ok paths => do
      let loaded ← collect (fun path => do
        pure [loadRead path (← tree.source.text path)]) paths
      pure (drawGroups (combine loaded))) = _
  cases Id.run (tree.source.discover patterns) with
  | error failure => rfl
  | ok paths =>
    exact congrArg (fun loaded => drawGroups (combine loaded))
      (collect_singleton (loadFile tree) paths)

/-- A drawing is of a graph of all the files, or the failure of a stage before any is opened. -/
theorem draw_cases (tree : FileTree) (patterns : List String) :
    (∃ graph, Draws tree patterns graph ∧ draw tree.source patterns = .ok graph.render) ∨
      ∃ failure, draw tree.source patterns = .error failure ∧
        ∀ path, Fails tree patterns path failure := by
  have same := draw_eq tree patterns
  cases found : Id.run (tree.source.discover patterns) with
  | error failure =>
    rw [found] at same
    exact .inr ⟨failure, same, fun path => .discovering found⟩
  | ok paths =>
    rw [found] at same
    cases loaded : loadAll (loadFile tree) paths with
    | error report =>
      simp only [loaded, drawGroups] at same
      exact .inr ⟨_, same, fun path => .loading found loaded⟩
    | ok groups =>
      obtain ⟨each, read, rfl⟩ := loads_of_loadAll loaded
      cases built : RuleGraph.ofGroups each.flatten with
      | error error =>
        simp only [loaded, drawGroups, built] at same
        exact .inr ⟨_, same, fun path => .building found read built⟩
      | ok graph =>
        simp only [loaded, drawGroups, built] at same
        exact .inl ⟨graph, ⟨paths, each, found, read, built⟩, same⟩

/-! ## Running in steps -/

/-- Opens the file that a path names: it is made, or loses what it held. -/
def openFile (path : String) : StateM FileTree (Except FileFault Location) := fun tree =>
  match tree.locateFile path with
  | .error fault => (.error fault, tree)
  | .ok location => (.ok location, tree.put location (.file .empty))

/-- Adds a content at the end of the file at a location. -/
def appendAt (location : Location) (content : ByteArray) : StateM FileTree Unit := fun tree =>
  match tree.entry? location with
  | some (.file before) => ((), tree.put location (.file (before ++ content)))
  | _ => ((), tree)

/-- Puts a drawing into a sink: a file is opened, and then it is filled. -/
def emit (drawing : String) : Sink → StateM FileTree (Except Failure Unit × String)
  | .standardOutput => pure (.ok (), drawing)
  | .file path => do
    match ← openFile path with
    | .error fault => pure (.error (sinkFailure path fault), "")
    | .ok location =>
      appendAt location drawing.toUTF8
      pure (.ok (), "")

/-- Draws the files of the tree into a sink, step by step. -/
def deliverInSteps (depth : Nat) (options : Options) :
    StateM FileTree (Except Failure Unit × String) := do
  match ← draw (presentFiles depth) options.patterns with
  | .error failure => pure (.error failure, "")
  | .ok drawing => emit drawing options.sink

theorem inside_of_locateFile {location : Location}
    (located : tree.locateFile path = .ok location) : location ≠ [] := by
  obtain ⟨names, name, directory, -, -, -, -, placed⟩ := FileTree.locateFile_eq_ok located
  obtain ⟨-, -, -, -, -, rfl, -⟩ := FileTree.placeFor_eq_ok placed
  simp

theorem appendAt_opened {location : Location} (inside : location ≠ []) (content : ByteArray)
    (tree : FileTree) :
    appendAt location content (tree.put location (.file .empty)) =
      ((), tree.put location (.file content)) := by
  have opened : FileTree.entry? (tree.put location (.file .empty)) location =
      some (.file .empty) := by
    rw [FileTree.entry?_put inside, if_pos rfl]
  unfold appendAt
  rw [opened]
  simp [FileTree.put_put]

/-- A file that is opened and then filled holds what one holds that is written at once. -/
theorem emit_file (drawing : String) (path : String) (tree : FileTree) :
    emit drawing (.file path) tree =
      match tree.write path drawing.toUTF8 with
      | .error fault => ((.error (sinkFailure path fault), ""), tree)
      | .ok changed => ((.ok (), ""), changed) := by
  unfold FileTree.write
  cases located : tree.locateFile path with
  | error fault =>
    have opened : openFile path tree = (.error fault, tree) := by
      simp only [openFile, located]
    simp only [emit, bind, StateT.bind, opened]
    rfl
  | ok location =>
    have opened : openFile path tree = (.ok location, tree.put location (.file .empty)) := by
      simp only [openFile, located]
    have filled := appendAt_opened (inside_of_locateFile located) drawing.toUTF8 tree
    simp only [emit, bind, StateT.bind, opened, filled]
    rfl

/-- A program that asks and writes step by step comes to the same. -/
theorem deliverInSteps_eq (tree : FileTree) (options : Options) :
    deliverInSteps tree.depth options tree =
      (((deliver tree options).result, (deliver tree options).printed),
        (deliver tree options).tree) := by
  have drawn : draw (presentFiles tree.depth) options.patterns tree =
      (draw tree.source options.patterns, tree) := Observes.draw options.patterns
  unfold deliverInSteps deliver
  simp only [bind, StateT.bind, drawn]
  cases draw tree.source options.patterns with
  | error failure => rfl
  | ok drawing =>
    cases options.sink with
    | standardOutput => rfl
    | file path =>
      simp only [emit_file]
      cases tree.write path drawing.toUTF8 <;> rfl

/-! ## All or nothing -/

theorem locateFile_of_write {content : ByteArray} {fault : FileFault}
    (refused : tree.write path content = .error fault) : tree.locateFile path = .error fault := by
  cases located : tree.locateFile path with
  | error other =>
    simp only [FileTree.write, located] at refused
    cases refused
    rfl
  | ok location =>
    simp only [FileTree.write, located] at refused
    cases refused

/-- Nothing has changed and nothing was printed. -/
structure Delivery.LeavesAlone (delivery : Delivery) (tree : FileTree) : Prop where
  tree : delivery.tree = tree
  printed : delivery.printed = ""

/-- The file that the path names holds the graph, and nothing else has changed. -/
structure Delivery.Writes (delivery : Delivery) (tree : FileTree) (path : String)
    (graph : RuleGraph) : Prop where
  printed : delivery.printed = ""
  current : delivery.tree.current = tree.current
  written : delivery.tree.bytes path = .ok graph.render.toUTF8
  elsewhere : ∃ location, tree.locateFile path = .ok location ∧
    delivery.tree.locate path = .ok location ∧
    ∀ other, other ≠ location → delivery.tree.entry? other = tree.entry? other

/-- A drawing into a file fails in one of its stages and changes nothing, or it changes only
the file, to the drawing of the files as they were before; and it does not matter that it asks,
opens and writes one step after the other. -/
theorem deliver_all_or_nothing (tree : FileTree) (patterns : List String) (path : String) :
    ∃ delivery, deliver tree ⟨patterns, .file path⟩ = delivery ∧
      deliverInSteps tree.depth ⟨patterns, .file path⟩ tree =
        ((delivery.result, delivery.printed), delivery.tree) ∧
      ((∃ failure, delivery.result = .error failure ∧ Fails tree patterns path failure ∧
          delivery.LeavesAlone tree) ∨
        ∃ graph, delivery.result = .ok () ∧ Draws tree patterns graph ∧
          delivery.Writes tree path graph) := by
  refine ⟨_, rfl, deliverInSteps_eq tree _, ?_⟩
  -- Nothing is opened before the graph is drawn; from then on only the opening can fail.
  obtain ⟨graph, draws, drawn⟩ | ⟨failure, drawn, fails⟩ := draw_cases tree patterns
  · cases written : tree.write path graph.render.toUTF8 with
    | error fault =>
      have delivered : deliver tree ⟨patterns, .file path⟩ =
          ⟨.error (sinkFailure path fault), tree, ""⟩ := by
        simp only [deliver, drawn, written]
      rw [delivered]
      exact .inl ⟨_, rfl, .opening draws (locateFile_of_write written), ⟨rfl, rfl⟩⟩
    | ok changed =>
      have delivered : deliver tree ⟨patterns, .file path⟩ = ⟨.ok (), changed, ""⟩ := by
        simp only [deliver, drawn, written]
      rw [delivered]
      obtain ⟨location, located, current, found, content, elsewhere⟩ :=
        FileTree.write_spec written
      exact .inr ⟨graph, rfl, draws, ⟨rfl, current, content, location, located, found, elsewhere⟩⟩
  · have delivered : deliver tree ⟨patterns, .file path⟩ = ⟨.error failure, tree, ""⟩ := by
      simp only [deliver, drawn]
    rw [delivered]
    exact .inl ⟨failure, rfl, fails path, ⟨rfl, rfl⟩⟩

end RuleAtlas.Command
