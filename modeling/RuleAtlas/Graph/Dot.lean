import RuleAtlas.Graph.Basic
import RuleAtlas.Text.Blank

/-! # Graphs as DOT text

A digraph is written one statement a line: the nodes with their attributes, a blank line, the
edges.  A name is written as it is when it is an identifier, and else between quotes, with a
backslash before every quote and every backslash. -/

namespace RuleAtlas.Dot

/-- The character may begin an identifier. -/
def isIdentifierStart (c : Char) : Bool := c.isAlpha || c == '_'

/-- The character may go on an identifier. -/
def isIdentifierPart (c : Char) : Bool := c.isAlphanum || c == '_'

/-- The name may be written without quotes. -/
def isBare : List Char → Bool
  | [] => false
  | first :: rest => isIdentifierStart first && rest.all isIdentifierPart

/-- The name with a backslash before every quote and every backslash. -/
def escape (name : List Char) : List Char :=
  name.flatMap fun c => if c = '\\' || c = '\x22' then ['\\', c] else [c]

/-- The name as it is written. -/
def writtenName (name : List Char) : List Char :=
  if isBare name then name else '\x22' :: (escape name ++ ['\x22'])

inductive Statement where
  | node (name : String) (attributes : List (String × String))
  | edge (source target : String)
  | blank
  deriving DecidableEq, Repr, Inhabited

def renderName (name : String) : String := String.ofList (writtenName name.toList)

def Statement.render : Statement → String
  | .node name attributes =>
    "  " ++ renderName name ++ " [" ++
      Text.joinWith ", " (attributes.map fun pair => pair.1 ++ "=" ++ pair.2) ++ "]\n"
  | .edge source target => "  " ++ renderName source ++ " -> " ++ renderName target ++ "\n"
  | .blank => "\n"

def render (statements : List Statement) : String :=
  "digraph \x7b\n" ++ String.join (statements.map Statement.render) ++ "\x7d\n"

end RuleAtlas.Dot

namespace RuleAtlas

/-- The shape that a node of the type is drawn with. -/
def NodeType.shape : NodeType → String
  | .recorded => "oval"
  | .alerted => "doubleoctagon"
  | .unknown => "rect"

namespace RuleGraph

/-- The statements that draw a graph: its nodes, a blank line, its edges. -/
def statements (graph : RuleGraph) : List Dot.Statement :=
  graph.nodeList.map (fun node => .node node.1 [("shape", node.2.shape)]) ++ [.blank] ++
    graph.edgeList.map fun edge => .edge edge.source edge.target

def render (graph : RuleGraph) : String := Dot.render graph.statements

end RuleGraph

end RuleAtlas
