import RuleAtlas.Graph.Dot
import RuleAtlas.Proofs.Graph.Basic
import RuleAtlas.Proofs.Text.Runs

/-! # Reading DOT text back

A reader of the text of a graph, and the proof that it finds the nodes and edges that were
written.  A name ends where it says so itself: without quotes before the first character that
is not part of an identifier, between quotes at the first quote that no backslash escapes.
So a name may hold anything, even text that looks like other statements. -/

namespace RuleAtlas.Dot

/-! ## The reader -/

/-- Reads a quoted name behind its first quote. -/
def readQuoted : List Char → Option (List Char × List Char)
  | [] => none
  | '\x22' :: text => some ([], text)
  | '\\' :: escaped :: text => (readQuoted text).map fun read => (escaped :: read.1, read.2)
  | c :: text => (readQuoted text).map fun read => (c :: read.1, read.2)

def readName (text : List Char) : Option (List Char × List Char) :=
  match text with
  | '\x22' :: text => readQuoted text
  | _ => some (text.takeWhile isIdentifierPart, text.dropWhile isIdentifierPart)

def readShape (text : List Char) : Option (NodeType × List Char) :=
  NodeType.all.findSome? fun type => (type.shape.toList.isPrefixOf? text).map (type, ·)

def readNode (text : List Char) : Option ((String × NodeType) × List Char) := do
  let text ← "  ".toList.isPrefixOf? text
  let (name, text) ← readName text
  let text ← " [shape=".toList.isPrefixOf? text
  let (type, text) ← readShape text
  let text ← "]\n".toList.isPrefixOf? text
  pure ((String.ofList name, type), text)

def readEdge (text : List Char) : Option (Edge × List Char) := do
  let text ← "  ".toList.isPrefixOf? text
  let (source, text) ← readName text
  let text ← " -> ".toList.isPrefixOf? text
  let (target, text) ← readName text
  let text ← "\n".toList.isPrefixOf? text
  pure (⟨String.ofList source, String.ofList target⟩, text)

/-- Reads items, as long as there are any and at most the given number. -/
def readMany {α : Type} (item : List Char → Option (α × List Char)) :
    (count : Nat) → List Char → List α × List Char
  | 0, text => ([], text)
  | count + 1, text =>
    match item text with
    | none => ([], text)
    | some (a, text) => ((readMany item count text).map (a :: ·) id)

/-- The nodes and the edges of a digraph. -/
def decode (text : String) : Option (List (String × NodeType) × List Edge) := do
  let text ← "digraph \x7b\n".toList.isPrefixOf? text.toList
  let nodes := readMany readNode text.length text
  let text ← "\n".toList.isPrefixOf? nodes.2
  let edges := readMany readEdge text.length text
  if edges.2 = "\x7d\n".toList then some (nodes.1, edges.1) else none

/-! ## Names -/

variable {name rest : List Char}

theorem isPrefixOf?_append (front rest : List Char) :
    front.isPrefixOf? (front ++ rest) = some rest :=
  List.isPrefixOf?_eq_some_iff_append_eq.2 rfl

/-- The quotes and backslashes inside a name do not end it. -/
theorem readQuoted_escape (name rest : List Char) :
    readQuoted (escape name ++ '\x22' :: rest) = some (name, rest) := by
  induction name with
  | nil => rfl
  | cons c name inductionHypothesis =>
    have more : escape (c :: name) =
        (if c = '\\' || c = '\x22' then ['\\', c] else [c]) ++ escape name := rfl
    rw [more]
    -- A character behind a backslash is taken whatever it is; any other one stands for itself.
    by_cases special : c = '\\' ∨ c = '\x22'
    · rw [if_pos (by simpa using special)]
      simp only [List.cons_append, List.nil_append]
      rw [readQuoted, inductionHypothesis]
      rfl
    · rw [if_neg (by simpa using special)]
      obtain ⟨noBackslash, noQuote⟩ := not_or.1 special
      simp only [List.cons_append, List.nil_append]
      rw [readQuoted, inductionHypothesis]
      · rfl
      · exact noQuote
      · intro escaped text same
        exact absurd same noBackslash

/-- A bare name begins as an identifier does, and none of its characters ends it. -/
theorem exists_of_isBare (bare : isBare name = true) : ∃ first others, name = first :: others ∧
    isIdentifierStart first = true ∧ ∀ c ∈ name, isIdentifierPart c = true := by
  cases name with
  | nil => cases bare
  | cons first others =>
    obtain ⟨begins, goesOn⟩ := Bool.and_eq_true_iff.1 bare
    have start : isIdentifierPart first = true := by
      simp only [isIdentifierStart, isIdentifierPart, Bool.or_eq_true] at begins ⊢
      exact begins.imp_left fun letter => by simp [Char.isAlphanum, letter]
    exact ⟨first, others, rfl, begins, List.forall_mem_cons.2 ⟨start, List.all_eq_true.1 goesOn⟩⟩

/-- A name is read in front of anything that cannot go on with an identifier. -/
theorem readName_writtenName (name : List Char) (stops : Text.Stops isIdentifierPart rest) :
    readName (writtenName name ++ rest) = some (name, rest) := by
  unfold writtenName
  by_cases bare : isBare name = true
  · rw [if_pos bare]
    obtain ⟨first, others, rfl, begins, all⟩ := exists_of_isBare bare
    rw [readName, Text.takeWhile_of_stops all stops, Text.dropWhile_of_stops all stops]
    -- The quote that would begin a quoted name begins no identifier.
    rintro text same
    obtain ⟨rfl, -⟩ := List.cons.inj same
    cases begins
  · rw [if_neg bare]
    simp only [List.cons_append, List.append_assoc, List.nil_append]
    exact readQuoted_escape name rest

/-! ## Lines -/

def nodeLine (node : String × NodeType) : List Char :=
  (Statement.node node.1 [("shape", node.2.shape)]).render.toList

def edgeLine (edge : Edge) : List Char :=
  (Statement.edge edge.source edge.target).render.toList

theorem readShape_shape (type : NodeType) (rest : List Char) :
    readShape (type.shape.toList ++ rest) = some (type, rest) := by
  cases type <;> simp [readShape, NodeType.all, NodeType.shape, List.isPrefixOf?]

theorem readNode_render (node : String × NodeType) (rest : List Char) :
    readNode (nodeLine node ++ rest) = some (node, rest) := by
  obtain ⟨name, type⟩ := node
  have line : nodeLine (name, type) ++ rest =
      "  ".toList ++ (writtenName name.toList ++ (" [shape=".toList ++
        (type.shape.toList ++ ("]\n".toList ++ rest)))) := by
    simp [nodeLine, Statement.render, renderName, Text.joinWith]
  -- The blank behind the name is no part of an identifier.
  have stops : Text.Stops isIdentifierPart
      (" [shape=".toList ++ (type.shape.toList ++ ("]\n".toList ++ rest))) :=
    Text.stops_cons.2 rfl
  rw [line, readNode, isPrefixOf?_append]
  dsimp only [bind, Option.bind]
  rw [readName_writtenName name.toList stops]
  dsimp only
  rw [isPrefixOf?_append]
  dsimp only
  rw [readShape_shape]
  dsimp only
  rw [isPrefixOf?_append]
  simp

theorem readEdge_render (edge : Edge) (rest : List Char) :
    readEdge (edgeLine edge ++ rest) = some (edge, rest) := by
  obtain ⟨source, target⟩ := edge
  have line : edgeLine ⟨source, target⟩ ++ rest =
      "  ".toList ++ (writtenName source.toList ++ (" -> ".toList ++
        (writtenName target.toList ++ ("\n".toList ++ rest)))) := by
    simp [edgeLine, Statement.render, renderName]
  have sourceStops : Text.Stops isIdentifierPart
      (" -> ".toList ++ (writtenName target.toList ++ ("\n".toList ++ rest))) :=
    Text.stops_cons.2 rfl
  have targetStops : Text.Stops isIdentifierPart ("\n".toList ++ rest) := Text.stops_cons.2 rfl
  rw [line, readEdge, isPrefixOf?_append]
  dsimp only [bind, Option.bind]
  rw [readName_writtenName source.toList sourceStops]
  dsimp only
  rw [isPrefixOf?_append]
  dsimp only
  rw [readName_writtenName target.toList targetStops]
  dsimp only
  rw [isPrefixOf?_append]
  simp

section
variable {α : Type} {line : α → List Char}

/-- Lines that are read one by one are all read, up to where none follows. -/
theorem readMany_flatMap {item : List Char → Option (α × List Char)}
    (reads : ∀ a rest, item (line a ++ rest) = some (a, rest)) (ends : item rest = none)
    (items : List α) {count : Nat} (enough : items.length ≤ count) :
    readMany item count (items.flatMap line ++ rest) = (items, rest) := by
  induction items generalizing count with
  | nil =>
    cases count with
    | zero => rfl
    | succ count => simp [readMany, ends]
  | cons a items inductionHypothesis =>
    obtain ⟨count, rfl⟩ : ∃ more, count = more + 1 := ⟨count - 1, by simp at enough; omega⟩
    have fewer : items.length ≤ count := by simpa using enough
    rw [List.flatMap_cons, List.append_assoc, readMany, reads]
    simp [inductionHypothesis fewer]

theorem length_le_flatMap (nonempty : ∀ a, line a ≠ []) (items : List α) (rest : List Char) :
    items.length ≤ (items.flatMap line ++ rest).length := by
  induction items with
  | nil => simp
  | cons a items inductionHypothesis =>
    have positive := List.length_pos_iff.2 (nonempty a)
    simp only [List.flatMap_cons, List.length_append, List.length_cons] at inductionHypothesis ⊢
    omega

end

end RuleAtlas.Dot

namespace RuleAtlas.RuleGraph

open Dot

/-! ## Graphs -/

theorem toList_render (graph : RuleGraph) : graph.render.toList = "digraph \x7b\n".toList ++
    (graph.nodeList.flatMap nodeLine ++
      ("\n".toList ++ (graph.edgeList.flatMap edgeLine ++ "\x7d\n".toList))) := by
  have blank : Statement.blank.render = "\n" := rfl
  simp only [RuleGraph.render, Dot.render, statements, String.toList_append, String.toList_join,
    List.map_append, List.map_map, List.flatMap_append, List.flatMap_map, List.append_assoc,
    List.map_cons, List.map_nil, List.flatMap_cons, List.flatMap_nil, blank]
  rfl

/-- The text of a graph is read as its nodes and its edges. -/
theorem decode_render (graph : RuleGraph) :
    decode graph.render = some (graph.nodeList, graph.edgeList) := by
  have nodeNonempty : ∀ node, nodeLine node ≠ [] := by simp [nodeLine, Statement.render]
  have edgeNonempty : ∀ edge, edgeLine edge ≠ [] := by simp [edgeLine, Statement.render]
  rw [decode, toList_render, isPrefixOf?_append]
  dsimp only [bind, Option.bind]
  -- The blank line is no node, and the closing brace is no edge.
  rw [readMany_flatMap readNode_render (by rfl) _ (length_le_flatMap nodeNonempty _ _)]
  dsimp only
  rw [isPrefixOf?_append]
  dsimp only
  rw [readMany_flatMap readEdge_render (by rfl) _ (length_le_flatMap edgeNonempty _ _)]
  rfl

/-- The text of a graph can be read back, with all its names and edges in ascending order, so
two graphs never have the same text. -/
theorem render_unambiguous (graph : RuleGraph) :
    decode graph.render = some (graph.nodeList, graph.edgeList) ∧
      graph.nodeList.Pairwise (fun a b => a.1 < b.1) ∧
      graph.edgeList.Pairwise (fun a b =>
        a.source < b.source ∨ (a.source = b.source ∧ a.target < b.target)) ∧
      ∀ other : RuleGraph, other.render = graph.render → other = graph := by
  refine ⟨graph.decode_render, graph.ascending_nodeList, graph.ascending_edgeList, ?_⟩
  intro other same
  have read := other.decode_render
  rw [same, graph.decode_render, Option.some_inj, Prod.mk.injEq] at read
  obtain ⟨nodes, edges⟩ := read
  apply ext_lookups
  · intro name
    rw [nodeType?, nodeType?, SortedMap.ext nodes]
  · intro source target
    rw [Bool.eq_iff_iff, ← mem_edgeList, ← mem_edgeList, edges]

/-- A name that looks like the end of its line, in a graph built in two orders. -/
theorem render_unambiguous_arrow :
    let odd := "a\x22 -> b]\n"
    let graph := (empty.addEdge odd "b").addEdge "b" "c"
    decode graph.render = some ([(odd, .unknown), ("b", .unknown), ("c", .unknown)],
        [⟨odd, "b"⟩, ⟨"b", "c"⟩]) ∧
      (empty.addEdge "b" "c").addEdge odd "b" = graph := by
  intro odd graph
  obtain ⟨decoded, -, -, onlyOne⟩ := graph.render_unambiguous
  have nodes : graph.nodeList = [(odd, .unknown), ("b", .unknown), ("c", .unknown)] := by
    decide +kernel
  have edges : graph.edgeList = [⟨odd, "b"⟩, ⟨"b", "c"⟩] := by decide +kernel
  rw [nodes, edges] at decoded
  exact ⟨decoded, onlyOne _ (by decide +kernel)⟩

end RuleAtlas.RuleGraph
