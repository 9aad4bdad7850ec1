import RuleAtlas.Proofs.Graph.Basic
import RuleAtlas.Proofs.Graph.Dot

/-! # Drawings in the DOT language

The part of the DOT language that drawings are written in, by its own rules: what its tokens
are, and what statements they make.  An identifier stands in quotes, or is a word that is none
of the keywords; a keyword in front of attributes says something else than a node does.  So a
drawing means its graph exactly if none of the names that it writes is a keyword.

A drawing has no comment, numeral, port or subgraph, and no statement that ends in a semicolon;
the reader knows none of them and fails where it meets one. -/

namespace RuleAtlas.Dot.Language

/-! ## Tokens -/

inductive Keyword where
  | node
  | edge
  | graph
  | digraph
  | subgraph
  | strict
  deriving DecidableEq, Repr

namespace Keyword

def word : Keyword → String
  | .node => "node"
  | .edge => "edge"
  | .graph => "graph"
  | .digraph => "digraph"
  | .subgraph => "subgraph"
  | .strict => "strict"

def all : List Keyword := [.node, .edge, .graph, .digraph, .subgraph, .strict]

/-- The keyword that a word is, in any letter case. -/
def ofWord? (word : List Char) : Option Keyword :=
  all.find? fun keyword => keyword.word.toList = word.map Char.toLower

end Keyword

inductive Token where
  | keyword (keyword : Keyword)
  | identifier (text : List Char)
  | openBrace
  | closeBrace
  | openBracket
  | closeBracket
  | equals
  | comma
  | arrow
  deriving DecidableEq, Repr

def isBlank (c : Char) : Bool := c == ' ' || c == '\t' || c == '\r' || c == '\n'

/-- The character may begin a word: a letter or an underscore. -/
def startsWord (c : Char) : Bool :=
  ('a' ≤ c && c ≤ 'z') || ('A' ≤ c && c ≤ 'Z') || c == '_'

/-- The character may go on a word: a letter, an underscore or a digit. -/
def continuesWord (c : Char) : Bool := startsWord c || ('0' ≤ c && c ≤ '9')

/-- A word is a keyword or an identifier. -/
def wordToken (word : List Char) : Token :=
  match Keyword.ofWord? word with
  | some keyword => .keyword keyword
  | none => .identifier word

/-- Reads an identifier behind its first quote.  A backslash hides a quote and a line break that
follow it, and it stays where it is in front of anything else. -/
def readQuoted : List Char → Option (List Char × List Char)
  | [] => none
  | '\x22' :: text => some ([], text)
  | '\\' :: '\x22' :: text => (readQuoted text).map fun read => ('\x22' :: read.1, read.2)
  | '\\' :: '\n' :: text => readQuoted text
  | '\\' :: '\\' :: text => (readQuoted text).map fun read => ('\\' :: '\\' :: read.1, read.2)
  | c :: text => (readQuoted text).map fun read => (c :: read.1, read.2)

/-- Reads the token at the head of a text that begins with no blank. -/
def readToken : List Char → Option (Token × List Char)
  | [] => none
  | '\x7b' :: text => some (.openBrace, text)
  | '\x7d' :: text => some (.closeBrace, text)
  | '[' :: text => some (.openBracket, text)
  | ']' :: text => some (.closeBracket, text)
  | '=' :: text => some (.equals, text)
  | ',' :: text => some (.comma, text)
  | '-' :: '>' :: text => some (.arrow, text)
  | '\x22' :: text => (readQuoted text).map fun read => (.identifier read.1, read.2)
  | c :: text =>
    if startsWord c then
      some (wordToken (c :: text.takeWhile continuesWord), text.dropWhile continuesWord)
    else none

/-- Reads a token and the blanks behind it. -/
def readLexeme (text : List Char) : Option (Token × List Char) :=
  (readToken text).map fun read => (read.1, read.2.dropWhile isBlank)

/-! ## Statements -/

inductive Statement where
  | node (name : List Char) (attributes : List (List Char × List Char))
  | edge (source target : List Char)
  | defaults (keyword : Keyword) (attributes : List (List Char × List Char))
  deriving DecidableEq, Repr

/-- Reads attributes behind their first bracket. -/
def readAttributes : List Token → Option (List (List Char × List Char) × List Token)
  | .closeBracket :: tokens => some ([], tokens)
  | .identifier key :: .equals :: .identifier value :: .comma :: tokens =>
    (readAttributes tokens).map fun read => ((key, value) :: read.1, read.2)
  | .identifier key :: .equals :: .identifier value :: tokens =>
    (readAttributes tokens).map fun read => ((key, value) :: read.1, read.2)
  | _ => none

/-- Reads a statement.  In front of attributes the first three keywords set defaults for what
comes behind them; a keyword at any other place is an error. -/
def readStatement : List Token → Option (Statement × List Token)
  | .keyword keyword :: .openBracket :: tokens =>
    if keyword = .node ∨ keyword = .edge ∨ keyword = .graph then
      (readAttributes tokens).map fun read => (.defaults keyword read.1, read.2)
    else none
  | .identifier name :: .openBracket :: tokens =>
    (readAttributes tokens).map fun read => (.node name read.1, read.2)
  | .identifier source :: .arrow :: .identifier target :: tokens =>
    some (.edge source target, tokens)
  | _ => none

/-- The items that are read one behind the other, up to the end. -/
inductive ReadAs {α β : Type} (read : List α → Option (β × List α)) : List α → List β → Prop
  | done : ReadAs read [] []
  | item {text rest : List α} {item : β} {items : List β} (here : read text = some (item, rest))
    (behind : ReadAs read rest items) : ReadAs read text (item :: items)

/-- The text is a digraph without a name that consists of these statements. -/
def Means (text : String) (statements : List Statement) : Prop :=
  ∃ body, ReadAs readLexeme (text.toList.dropWhile isBlank)
      (.keyword .digraph :: .openBrace :: (body ++ [.closeBrace])) ∧
    ReadAs readStatement body statements

/-- The identifier of a name.  In a label, which shows the name of a node, a backslash stands for
the character behind it, so each backslash of the name is there twice. -/
def identifier (name : List Char) : List Char :=
  name.flatMap fun c => if c = '\\' then ['\\', '\\'] else [c]

/-- The label that shows an identifier; behind a backslash some letters break the line. -/
def label : List Char → List Char
  | '\\' :: c :: text => (if c = 'n' ∨ c = 'l' ∨ c = 'r' then '\n' else c) :: label text
  | c :: text => c :: label text
  | [] => []

def IsKeyword (name : String) : Prop := ∃ keyword, Keyword.ofWord? name.toList = some keyword

variable {text rest : List Char} {name : String}

/-! ## Reading is deterministic -/

section
variable {α β : Type} {read : List α → Option (β × List α)} {tokens : List α}

theorem ReadAs.eq (fails : read [] = none) {items others : List β}
    (first : ReadAs read tokens items) (second : ReadAs read tokens others) : items = others := by
  induction first generalizing others with
  | done =>
    cases second with
    | done => rfl
    | item here behind =>
      rw [fails] at here
      cases here
  | item here behind inductionHypothesis =>
    cases second with
    | done =>
      rw [fails] at here
      cases here
    | item hereToo behindToo =>
      rw [here] at hereToo
      cases hereToo
      rw [inductionHypothesis behindToo]

theorem readAs_cons_iff {item : β} {items : List β} : ReadAs read tokens (item :: items) ↔
    ∃ behind, read tokens = some (item, behind) ∧ ReadAs read behind items := by
  constructor
  · intro all
    cases all with
    | item here behind => exact ⟨_, here, behind⟩
  · rintro ⟨rest, here, behind⟩
    exact .item here behind

/-- Pieces that are read as said if they are good, and else otherwise, are all read as said
exactly if they are all good. -/
theorem readAs_flatMap_iff {γ : Type} {good : γ → Prop} {piece : γ → List α} {result : γ → β}
    (reads : ∀ a rest behind, read (piece a ++ rest) = some (result a, behind) ↔
      good a ∧ behind = rest) (pieces : List γ) {items : List β} :
    ReadAs read (pieces.flatMap piece ++ tokens) (pieces.map result ++ items) ↔
      (∀ a ∈ pieces, good a) ∧ ReadAs read tokens items := by
  induction pieces with
  | nil => simp
  | cons a pieces inductionHypothesis =>
    rw [List.flatMap_cons, List.append_assoc, List.map_cons, List.cons_append,
      List.forall_mem_cons, and_assoc, ← inductionHypothesis]
    rw [readAs_cons_iff]
    constructor
    · rintro ⟨behind, here, others⟩
      obtain ⟨goodHere, rfl⟩ := (reads _ _ _).1 here
      exact ⟨goodHere, others⟩
    · rintro ⟨goodHere, others⟩
      exact ⟨_, (reads _ _ _).2 ⟨goodHere, rfl⟩, others⟩

end

/-- A text means one list of statements at most. -/
theorem Means.eq {text : String} {statements others : List Statement}
    (first : Means text statements) (second : Means text others) : statements = others := by
  obtain ⟨body, tokens, read⟩ := first
  obtain ⟨bodyToo, tokensToo, readToo⟩ := second
  have same := tokens.eq rfl tokensToo
  simp only [List.cons.injEq, true_and, List.append_cancel_right_eq] at same
  subst same
  exact read.eq rfl readToo

/-! ## Names as tokens -/

theorem startsWord_eq (c : Char) : startsWord c = isIdentifierStart c := by
  have lower : ('a' ≤ c && c ≤ 'z') = c.isLower := rfl
  have upper : ('A' ≤ c && c ≤ 'Z') = c.isUpper := (Bool.decide_and _ _).symm
  have letter : c.isAlpha = (c.isUpper || c.isLower) := rfl
  rw [startsWord, lower, upper, isIdentifierStart, letter, Bool.or_comm c.isLower]

theorem continuesWord_eq (c : Char) : continuesWord c = isIdentifierPart c := by
  have digit : ('0' ≤ c && c ≤ '9') = c.isDigit := rfl
  rw [continuesWord, startsWord_eq, digit, isIdentifierStart, isIdentifierPart, Char.isAlphanum,
    Bool.or_right_comm]

/-- The token of a name that is written. -/
def nameToken (name : List Char) : Token :=
  match Keyword.ofWord? name with
  | some keyword => .keyword keyword
  | none => .identifier (identifier name)

theorem isAlpha_of_toLower {c : Char} (letter : c.toLower.isAlpha = true) : c.isAlpha = true := by
  unfold Char.toLower at letter
  split at letter
  · rename_i upper
    exact Bool.or_eq_true_iff.2 (.inl (decide_eq_true upper))
  · exact letter

/-- Keywords consist of letters, so they are never written between quotes. -/
theorem isBare_of_ofWord? {name : List Char} {keyword : Keyword}
    (here : Keyword.ofWord? name = some keyword) : isBare name = true := by
  have same : keyword.word.toList = name.map Char.toLower := by
    simpa using List.find?_some here
  have letters : ∀ c ∈ name, c.isAlpha = true := by
    have all : keyword.word.toList.all Char.isAlpha = true := by
      cases keyword <;> decide
    rw [same, List.all_map, List.all_eq_true] at all
    exact fun c member => isAlpha_of_toLower (all c member)
  cases name with
  | nil => cases keyword <;> cases same
  | cons first rest =>
    have part : ∀ c ∈ rest, isIdentifierPart c = true := fun c member => by
      simp [isIdentifierPart, Char.isAlphanum, letters c (List.mem_cons_of_mem _ member)]
    simp only [isBare, isIdentifierStart, letters first List.mem_cons_self, Bool.true_or,
      Bool.true_and, List.all_eq_true]
    exact part

/-- A label shows the name that its identifier was made from, whatever the name is. -/
theorem label_identifier (name : List Char) : label (identifier name) = name := by
  induction name with
  | nil => rfl
  | cons c name inductionHypothesis =>
    by_cases backslash : c = '\\'
    · subst backslash
      change label ('\\' :: '\\' :: identifier name) = '\\' :: name
      rw [label, inductionHypothesis]
      rfl
    · have more : identifier (c :: name) = c :: identifier name := by
        simp [identifier, backslash]
      rw [more, label, inductionHypothesis]
      rintro d text rfl
      exact absurd rfl backslash

/-- A name without quotes holds no backslash. -/
theorem identifier_eq_self {name : List Char} (bare : ∀ c ∈ name, isIdentifierPart c = true) :
    identifier name = name := by
  induction name with
  | nil => rfl
  | cons c name inductionHypothesis =>
    obtain ⟨part, others⟩ := List.forall_mem_cons.1 bare
    have noBackslash : c ≠ '\\' := by
      rintro rfl
      cases part
    have more : identifier (c :: name) = c :: identifier name := by
      simp [identifier, noBackslash]
    rw [more, inductionHypothesis others]

theorem readQuoted_escape (name rest : List Char) :
    readQuoted (escape name ++ '\x22' :: rest) = some (identifier name, rest) := by
  induction name with
  | nil => rfl
  | cons c name inductionHypothesis =>
    by_cases backslash : c = '\\'
    · subst backslash
      change readQuoted ('\\' :: '\\' :: (escape name ++ '\x22' :: rest)) = _
      rw [readQuoted, inductionHypothesis]
      rfl
    by_cases quote : c = '\x22'
    · subst quote
      change readQuoted ('\\' :: '\x22' :: (escape name ++ '\x22' :: rest)) = _
      rw [readQuoted, inductionHypothesis]
      rfl
    · have written : escape (c :: name) = c :: escape name := by
        simp [escape, backslash, quote]
      have read : identifier (c :: name) = c :: identifier name := by
        simp [identifier, backslash]
      rw [written, List.cons_append, readQuoted, inductionHypothesis, read]
      · rfl
      · exact quote
      all_goals
        intro text same
        exact absurd same backslash

/-- A written name is read as its token in front of anything that cannot go on with a word. -/
theorem readToken_writtenName (name : List Char) (stops : Text.Stops isIdentifierPart rest) :
    readToken (writtenName name ++ rest) = some (nameToken name, rest) := by
  unfold writtenName
  by_cases bare : isBare name = true
  · rw [if_pos bare]
    obtain ⟨first, others, rfl, begins, all⟩ := exists_of_isBare bare
    obtain ⟨-, goesOn⟩ := List.forall_mem_cons.1 all
    have same : wordToken (first :: others) = nameToken (first :: others) := by
      rw [nameToken, identifier_eq_self all, wordToken]
    have continues : continuesWord = isIdentifierPart := funext continuesWord_eq
    rw [List.cons_append, readToken, if_pos ((startsWord_eq first).trans begins), continues,
      Text.takeWhile_of_stops goesOn stops, Text.dropWhile_of_stops goesOn stops, same]
    -- None of the characters that are tokens of their own begins a word.
    all_goals
      intros
      subst_vars
      cases begins
  · have noKeyword : Keyword.ofWord? name = none := by
      cases word : Keyword.ofWord? name with
      | none => rfl
      | some keyword => exact absurd (isBare_of_ofWord? word) bare
    rw [if_neg bare, nameToken, noKeyword]
    simp only [List.cons_append, List.append_assoc, List.nil_append]
    rw [readToken, readQuoted_escape]
    rfl

/-! ## The tokens of a drawing -/

/-- The text is read as the tokens, whatever follows it. -/
def Lexes (text : List Char) (tokens : List Token) : Prop :=
  ∀ rest more, ReadAs readLexeme (rest.dropWhile isBlank) more →
    ReadAs readLexeme ((text ++ rest).dropWhile isBlank) (tokens ++ more)

section
variable {tokens others : List Token} {token : Token} {other : List Char} {c : Char}

theorem Lexes.nil : Lexes [] [] := fun _ _ behind => behind

theorem Lexes.append (first : Lexes text tokens) (second : Lexes other others) :
    Lexes (text ++ other) (tokens ++ others) := by
  intro rest more behind
  rw [List.append_assoc, List.append_assoc]
  exact first _ _ (second _ _ behind)

theorem Lexes.flatMap {α : Type} {piece : α → List Char} {spelled : α → List Token}
    (reads : ∀ a, Lexes (piece a) (spelled a)) (items : List α) :
    Lexes (items.flatMap piece) (items.flatMap spelled) := by
  induction items with
  | nil => exact .nil
  | cons a items inductionHypothesis => exact (reads a).append inductionHypothesis

theorem Lexes.of_blank (blank : isBlank c = true) (behind : Lexes text tokens) :
    Lexes (c :: text) tokens := by
  intro rest more others
  rw [List.cons_append, List.dropWhile_cons_of_pos blank]
  exact behind rest more others

/-- A token is read in front of whatever its own text is read in front of. -/
theorem Lexes.of_token {own : List Char}
    (begins : ∀ rest, (own ++ rest).dropWhile isBlank = own ++ rest)
    (reads : ∀ rest, readToken (own ++ (text ++ rest)) = some (token, text ++ rest))
    (behind : Lexes text tokens) : Lexes (own ++ text) (token :: tokens) := by
  intro rest more others
  rw [List.append_assoc, begins]
  exact .item (by rw [readLexeme, reads]; rfl) (behind rest more others)

theorem Lexes.of_symbol (begins : isBlank c = false)
    (reads : ∀ rest, readToken (c :: rest) = some (token, rest)) (behind : Lexes text tokens) :
    Lexes (c :: text) (token :: tokens) := by
  have stays : ∀ rest, ([c] ++ rest).dropWhile isBlank = [c] ++ rest := fun rest =>
    List.dropWhile_cons_of_neg (by simp [begins])
  exact .of_token stays (fun rest => reads (text ++ rest)) behind

theorem writtenName_begins (name : List Char) (rest : List Char) :
    (writtenName name ++ rest).dropWhile isBlank = writtenName name ++ rest := by
  unfold writtenName
  by_cases bare : isBare name = true
  · rw [if_pos bare]
    obtain ⟨first, others, rfl, begins, -⟩ := exists_of_isBare bare
    have noBlank : isBlank first = false := by
      by_contra blank
      simp only [isBlank, Bool.not_eq_false, Bool.or_eq_true, beq_iff_eq] at blank
      obtain ((rfl | rfl) | rfl) | rfl := blank <;> cases begins
    rw [List.cons_append, List.dropWhile_cons_of_neg (by simp [noBlank])]
  · rw [if_neg bare]
    rfl

theorem Lexes.of_name (name : List Char) (stops : isIdentifierPart c = false)
    (behind : Lexes (c :: text) tokens) :
    Lexes (writtenName name ++ c :: text) (nameToken name :: tokens) :=
  .of_token (writtenName_begins name)
    (fun _ => readToken_writtenName name (Text.stops_cons.2 stops)) behind

end

def nodeTokens (node : String × NodeType) : List Token :=
  [nameToken node.1.toList, .openBracket, .identifier "shape".toList, .equals,
    .identifier node.2.shape.toList, .closeBracket]

def edgeTokens (edge : Edge) : List Token :=
  [nameToken edge.source.toList, .arrow, nameToken edge.target.toList]

theorem lexes_lineBreak : Lexes ['\n'] [] := .of_blank rfl .nil

theorem lexes_opening : Lexes "digraph \x7b\n".toList [.keyword .digraph, .openBrace] := by
  have brace : Lexes " \x7b\n".toList [.openBrace] :=
    .of_blank rfl (.of_symbol rfl (fun _ => rfl) lexes_lineBreak)
  exact .of_name "digraph".toList rfl brace

theorem lexes_closing : Lexes "\x7d\n".toList [.closeBrace] :=
  .of_symbol rfl (fun _ => rfl) lexes_lineBreak

theorem lexes_nodeLine (node : String × NodeType) : Lexes (nodeLine node) (nodeTokens node) := by
  obtain ⟨name, type⟩ := node
  have line : nodeLine (name, type) = ' ' :: ' ' :: (writtenName name.toList ++
      ' ' :: '[' :: (writtenName "shape".toList ++
        '=' :: (writtenName type.shape.toList ++ [']', '\n']))) := by
    have bare : writtenName type.shape.toList = type.shape.toList := by cases type <;> rfl
    have key : writtenName "shape".toList = "shape".toList := rfl
    rw [bare, key]
    simp [nodeLine, Statement.render, renderName, Text.joinWith]
  have shape : nameToken type.shape.toList = .identifier type.shape.toList := by
    cases type <;> rfl
  have value : Lexes (writtenName type.shape.toList ++ [']', '\n'])
      [.identifier type.shape.toList, .closeBracket] := by
    rw [← shape]
    exact .of_name _ rfl (.of_symbol rfl (fun _ => rfl) lexes_lineBreak)
  rw [line]
  exact .of_blank rfl (.of_blank rfl (.of_name name.toList rfl (.of_blank rfl
    (.of_symbol rfl (fun _ => rfl) (.of_name "shape".toList rfl
      (.of_symbol rfl (fun _ => rfl) value))))))

theorem lexes_edgeLine (edge : Edge) : Lexes (edgeLine edge) (edgeTokens edge) := by
  obtain ⟨source, target⟩ := edge
  have line : edgeLine ⟨source, target⟩ = ' ' :: ' ' :: (writtenName source.toList ++
      ' ' :: (['-', '>'] ++ ' ' :: (writtenName target.toList ++ ['\n']))) := by
    simp [edgeLine, Statement.render, renderName]
  have arrow : Lexes (['-', '>'] ++ ' ' :: (writtenName target.toList ++ ['\n']))
      [.arrow, nameToken target.toList] :=
    .of_token (fun _ => rfl) (fun _ => rfl)
      (.of_blank rfl (.of_name target.toList rfl lexes_lineBreak))
  rw [line]
  exact .of_blank rfl (.of_blank rfl (.of_name source.toList rfl (.of_blank rfl arrow)))

theorem lexes_render (graph : RuleGraph) : Lexes graph.render.toList
    (.keyword .digraph :: .openBrace :: (graph.nodeList.flatMap nodeTokens ++
      graph.edgeList.flatMap edgeTokens ++ [.closeBrace])) := by
  have body := (Lexes.flatMap lexes_nodeLine graph.nodeList).append
    (lexes_lineBreak.append ((Lexes.flatMap lexes_edgeLine graph.edgeList).append lexes_closing))
  rw [RuleGraph.toList_render, List.append_assoc]
  exact lexes_opening.append body

/-! ## The statements of a drawing -/

theorem readStatement_nodeTokens (node : String × NodeType) (tokens behind : List Token) :
    readStatement (nodeTokens node ++ tokens) = some (.node (identifier node.1.toList)
        [("shape".toList, node.2.shape.toList)], behind) ↔
      ¬ IsKeyword node.1 ∧ behind = tokens := by
  unfold IsKeyword nodeTokens nameToken
  cases Keyword.ofWord? node.1.toList with
  | some keyword =>
    simp only [List.cons_append, List.nil_append, readStatement]
    split <;> simp [readAttributes]
  | none => simp [readStatement, readAttributes, eq_comm]

theorem readStatement_edgeTokens (edge : Edge) (tokens behind : List Token) :
    readStatement (edgeTokens edge ++ tokens) =
        some (.edge (identifier edge.source.toList) (identifier edge.target.toList), behind) ↔
      (¬ IsKeyword edge.source ∧ ¬ IsKeyword edge.target) ∧ behind = tokens := by
  unfold IsKeyword edgeTokens nameToken
  cases Keyword.ofWord? edge.source.toList with
  | some keyword => simp [readStatement]
  | none =>
    cases Keyword.ofWord? edge.target.toList with
    | some keyword => simp [readStatement]
    | none => simp [readStatement, eq_comm]

end RuleAtlas.Dot.Language

namespace RuleAtlas.RuleGraph

open Dot.Language

/-- The statements that denote a graph: one for each node, one for each edge. -/
def drawing (graph : RuleGraph) : List Dot.Language.Statement :=
  graph.nodeList.map (fun node => .node (identifier node.1.toList)
      [("shape".toList, node.2.shape.toList)]) ++
    graph.edgeList.map fun edge =>
      .edge (identifier edge.source.toList) (identifier edge.target.toList)

/-- No node and no end of an edge has the name of a keyword. -/
def FreeOfKeywords (graph : RuleGraph) : Prop :=
  (∀ node ∈ graph.nodeList, ¬ IsKeyword node.1) ∧
    ∀ edge ∈ graph.edgeList, ¬ IsKeyword edge.source ∧ ¬ IsKeyword edge.target

theorem means_render_iff (graph : RuleGraph) {statements : List Dot.Language.Statement} :
    Means graph.render statements ↔ ReadAs readStatement
      (graph.nodeList.flatMap nodeTokens ++ graph.edgeList.flatMap edgeTokens) statements := by
  have lexed := lexes_render graph [] [] .done
  rw [List.append_nil, List.append_nil] at lexed
  constructor
  · rintro ⟨body, tokens, read⟩
    have same := tokens.eq rfl lexed
    simp only [List.cons.injEq, true_and, List.append_cancel_right_eq] at same
    rwa [← same]
  · exact fun read => ⟨_, lexed, read⟩

/-- The text of a graph means the graph exactly if no name in it is a keyword of the language, and
nothing else beside it.  Each label shows the name of its node. -/
theorem render_means_drawing_iff (graph : RuleGraph) :
    (Means graph.render graph.drawing ↔ graph.FreeOfKeywords) ∧
      (∀ statements others, Means graph.render statements → Means graph.render others →
        statements = others) ∧
      ∀ name, label (identifier name) = name := by
  refine ⟨?_, fun _ _ first second => first.eq second, label_identifier⟩
  have edges : ReadAs readStatement (graph.edgeList.flatMap edgeTokens ++ [])
      (graph.edgeList.map (fun edge => .edge (identifier edge.source.toList)
        (identifier edge.target.toList)) ++ []) ↔ _ :=
    readAs_flatMap_iff readStatement_edgeTokens graph.edgeList
  have all := (readAs_flatMap_iff readStatement_nodeTokens graph.nodeList).trans
    (and_congr_right' edges)
  have nothing : ReadAs readStatement [] [] := .done
  simp only [List.append_nil, nothing, and_true] at all
  exact (means_render_iff graph).trans all

/-- A rule with the name of a keyword is not drawn: its line sets the shape of all the nodes. -/
theorem render_keyword :
    let graph := empty.declare "node" .recorded
    Means graph.render [.defaults .node [("shape".toList, "oval".toList)]] ∧
      ¬ Means graph.render graph.drawing := by
  intro graph
  have defaults : Means graph.render [.defaults .node [("shape".toList, "oval".toList)]] :=
    (means_render_iff graph).2 (.item rfl .done)
  refine ⟨defaults, fun drawn => ?_⟩
  cases drawn.eq defaults


end RuleAtlas.RuleGraph
