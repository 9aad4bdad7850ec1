import RuleAtlas.SortedMap

/-! # Rule graphs

The nodes of a rule graph are names, each with a type; an edge leads from a name to a name
that it refers to.  Both ends of every edge are nodes: an edge adds the ends that are missing,
and a node that no rule declares has no known type. -/

namespace RuleAtlas

inductive NodeType where
  | recorded
  | alerted
  | unknown
  deriving DecidableEq, Repr, Inhabited

namespace NodeType

def name : NodeType → String
  | .recorded => "recorded"
  | .alerted => "alerted"
  | .unknown => "unknown"

def all : List NodeType := [.recorded, .alerted, .unknown]

def ofName? (text : String) : Option NodeType := all.find? (·.name = text)

end NodeType

/-- The node `source` refers to the node `target`. -/
structure Edge where
  source : String
  target : String
  deriving DecidableEq, Repr, Inhabited

/-- Edges are ordered by their sources, and by their targets where the sources are equal. -/
instance : Ord Edge := ⟨compareLex (compareOn Edge.source) (compareOn Edge.target)⟩

instance : Std.TransOrd Edge :=
  inferInstanceAs (Std.TransCmp (compareLex (compareOn Edge.source) (compareOn Edge.target)))

/-- A graph of names. -/
structure RuleGraph where
  nodes : SortedMap String NodeType
  edges : SortedMap Edge Unit
  deriving DecidableEq, Repr

namespace RuleGraph

def empty : RuleGraph := ⟨.empty, .empty⟩

instance : Inhabited RuleGraph := ⟨empty⟩

/-- Declares a node; the last declaration of a name gives its type. -/
def declare (graph : RuleGraph) (name : String) (type : NodeType) : RuleGraph :=
  { graph with nodes := graph.nodes.insert name type }

/-- Adds an edge, and its ends where they are missing. -/
def addEdge (graph : RuleGraph) (source target : String) : RuleGraph :=
  { nodes := (graph.nodes.insertNew target .unknown).insertNew source .unknown
    edges := graph.edges.insertNew ⟨source, target⟩ () }

def hasEdge (graph : RuleGraph) (source target : String) : Bool :=
  graph.edges.contains ⟨source, target⟩

/-- Adds an edge, and says whether it is a new one. -/
def insertEdge (graph : RuleGraph) (source target : String) : Bool × RuleGraph :=
  (!graph.hasEdge source target, graph.addEdge source target)

def nodeType? (graph : RuleGraph) (name : String) : Option NodeType := graph.nodes.find? name

/-- The names and types of the nodes in ascending order. -/
def nodeList (graph : RuleGraph) : List (String × NodeType) := graph.nodes.entries

/-- The names of the nodes of a type in ascending order. -/
def nodesOfType (graph : RuleGraph) (type : NodeType) : List String :=
  (graph.nodeList.filter (·.2 = type)).map Prod.fst

/-- The edges in ascending order. -/
def edgeList (graph : RuleGraph) : List Edge := graph.edges.keys

def nodeCount (graph : RuleGraph) : Nat := graph.nodes.size

def edgeCount (graph : RuleGraph) : Nat := graph.edges.size

def isEmpty (graph : RuleGraph) : Bool := graph.nodes.isEmpty

end RuleGraph

end RuleAtlas
