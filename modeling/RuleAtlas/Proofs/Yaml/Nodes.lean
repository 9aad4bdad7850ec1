import RuleAtlas.Yaml.Decode

/-! # Nodes

The node that events of a document stand for is a tree: its aliases are followed.  Events stand
for one node at most, so a document has at most one root. -/

namespace RuleAtlas.Yaml

/-- A scalar as it is written, a collection, or `nothing` where a stream has no document. -/
inductive Node where
  | nothing
  | scalar (tag : Option (List Char)) (text : List Char) (style : ScalarStyle)
  | sequence (items : List Node)
  | mapping (entries : List (Node × Node))

namespace Node

def items : Node → List Node
  | .sequence items => items
  | _ => []

def entries : Node → List (Node × Node)
  | .mapping entries => entries
  | _ => []

/-- The node is a scalar with this text, which may be the key of an entry. -/
def isNamed (name : List Char) : Node → Bool
  | .scalar _ text _ => text = name
  | _ => false

/-- The value of the last entry with this key. -/
def lastValue? (name : List Char) (entries : List (Node × Node)) : Option Node :=
  (entries.reverse.find? fun entry => entry.1.isNamed name).map Prod.snd

def value? (name : List Char) (node : Node) : Option Node := lastValue? name node.entries

/-- The node that the steps lead to. -/
def at? : List PathStep → Node → Option Node
  | [], node => some node
  | .item index :: steps, node => node.items[index]? >>= at? steps
  | .key name :: steps, node => node.value? name >>= at? steps
  | .unknown :: _, _ => none

/-- An entry at the end decides the value of its key. -/
theorem lastValue?_append (entries : List (Node × Node)) (key value : Node) (name : List Char) :
    lastValue? name (entries ++ [(key, value)]) =
      if key.isNamed name then some value else lastValue? name entries := by
  simp only [lastValue?, List.reverse_append, List.reverse_cons, List.reverse_nil,
    List.nil_append, List.cons_append, List.find?_cons]
  split
  · rename_i named
    simp [named]
  · rename_i other
    simp [other]

end Node

/-! ## Events of nodes -/

namespace Document

/-- The events from the node on that an alias with this number stands for. -/
def eventsOf (document : Document) (number : Nat) : List Placed :=
  document.events.drop ((document.anchors.lookup number).getD document.events.length)

end Document

mutual
/-- The events stand for the node. -/
inductive Stands (document : Document) : Node → List Placed → Prop
  | nothing (mark : Mark) : Stands document .nothing [⟨.nothing, mark⟩]
  | scalar (tag : Option (List Char)) (text : List Char) (style : ScalarStyle) (mark : Mark) :
      Stands document (.scalar tag text style) [⟨.scalar tag text style, mark⟩]
  | sequence (tag : Option (List Char)) (mark : Mark) (stop : Placed) {items : List Node}
      {events : List Placed} (all : StandAll document items events)
      (ends : Decode.endsCollection stop.event = true) :
      Stands document (.sequence items) (⟨.sequenceStart tag, mark⟩ :: (events ++ [stop]))
  | mapping (tag : Option (List Char)) (mark : Mark) (stop : Placed)
      {entries : List (Node × Node)} {events : List Placed}
      (all : StandEntries document entries events)
      (ends : Decode.endsCollection stop.event = true) :
      Stands document (.mapping entries) (⟨.mappingStart tag, mark⟩ :: (events ++ [stop]))
  | followed (number : Nat) (mark : Mark) {node : Node} {events rest : List Placed}
      (anchored : document.eventsOf number = events ++ rest)
      (target : Stands document node events) : Stands document node [⟨.alias number, mark⟩]

/-- The events stand for the items, one behind the other. -/
inductive StandAll (document : Document) : List Node → List Placed → Prop
  | nil : StandAll document [] []
  | cons {node : Node} {nodes : List Node} {first : Placed} {more events : List Placed}
      (opens : Decode.endsCollection first.event = false)
      (head : Stands document node (first :: more)) (tail : StandAll document nodes events) :
      StandAll document (node :: nodes) (first :: more ++ events)

/-- The events stand for the entries, each value behind its key. -/
inductive StandEntries (document : Document) : List (Node × Node) → List Placed → Prop
  | nil : StandEntries document [] []
  | cons {key value : Node} {entries : List (Node × Node)} {first : Placed}
      {more middle events : List Placed} (opens : Decode.endsCollection first.event = false)
      (keyStands : Stands document key (first :: more))
      (valueStands : Stands document value middle)
      (tail : StandEntries document entries events) :
      StandEntries document ((key, value) :: entries) (first :: more ++ (middle ++ events))
end

variable {document : Document}

theorem StandAll.snoc {nodes : List Node} {node : Node} {events more : List Placed}
    {first : Placed} (front : StandAll document nodes events)
    (opens : Decode.endsCollection first.event = false)
    (last : Stands document node (first :: more)) :
    StandAll document (nodes ++ [node]) (events ++ first :: more) := by
  match front with
  | .nil => simpa using StandAll.cons opens last .nil
  | .cons opens' head tail =>
    have longer := StandAll.cons opens' head (StandAll.snoc tail opens last)
    simpa only [List.cons_append, List.append_assoc] using longer

theorem StandEntries.snoc {entries : List (Node × Node)} {key value : Node}
    {events more middle : List Placed} {first : Placed}
    (front : StandEntries document entries events)
    (opens : Decode.endsCollection first.event = false)
    (keyStands : Stands document key (first :: more))
    (valueStands : Stands document value middle) :
    StandEntries document (entries ++ [(key, value)]) (events ++ (first :: more ++ middle)) := by
  match front with
  | .nil => simpa using StandEntries.cons opens keyStands valueStands .nil
  | .cons opens' key' value' tail =>
    have longer := StandEntries.cons opens' key' value'
      (StandEntries.snoc tail opens keyStands valueStands)
    simpa only [List.cons_append, List.append_assoc] using longer

theorem Stands.ne_nil {node : Node} {events : List Placed} (stands : Stands document node events) :
    events ≠ [] := by
  cases stands <;> simp

/-- The events of a node begin with the first one that is there. -/
theorem Stands.exists_cons {node : Node} {events rest more : List Placed} {first : Placed}
    (stands : Stands document node events) (begins : events ++ rest = first :: more) :
    ∃ tail, events = first :: tail := by
  obtain ⟨head, tail, rfl⟩ := List.exists_cons_of_ne_nil stands.ne_nil
  obtain ⟨rfl, -⟩ := List.cons.inj begins
  exact ⟨tail, rfl⟩

mutual
/-- Where the events of two nodes begin in the same way, the nodes are the same. -/
theorem Stands.unique {node other : Node} {events events' rest rest' : List Placed}
    (stands : Stands document node events) (stands' : Stands document other events')
    (same : events ++ rest = events' ++ rest') : node = other ∧ events = events' := by
  match stands with
  | .nothing _ => cases stands' <;> simp_all
  | .scalar _ _ _ _ => cases stands' <;> simp_all
  | .sequence tag mark stop all ends =>
    cases stands' with
    | sequence tag' mark' stop' all' ends' =>
      simp only [List.cons_append, List.append_assoc, List.cons.injEq] at same
      obtain ⟨rfl, rfl, rfl⟩ := StandAll.unique all all' ends ends' same.2
      rw [same.1]
      exact ⟨rfl, rfl⟩
    | _ => simp_all
  | .mapping tag mark stop all ends =>
    cases stands' with
    | mapping tag' mark' stop' all' ends' =>
      simp only [List.cons_append, List.append_assoc, List.cons.injEq] at same
      obtain ⟨rfl, rfl, rfl⟩ := StandEntries.unique all all' ends ends' same.2
      rw [same.1]
      exact ⟨rfl, rfl⟩
    | _ => simp_all
  | .followed number mark anchored target =>
    -- Both stand for the node at the place of the same anchor.
    cases stands' with
    | followed number' mark' anchored' target' =>
      obtain rfl : number = number' := by simp_all
      obtain ⟨rfl, -⟩ := Stands.unique target target' (anchored.symm.trans anchored')
      simp_all
    | _ => simp_all

theorem StandAll.unique {nodes others : List Node} {events events' rest rest' : List Placed}
    {stop stop' : Placed} (all : StandAll document nodes events)
    (all' : StandAll document others events') (ends : Decode.endsCollection stop.event = true)
    (ends' : Decode.endsCollection stop'.event = true)
    (same : events ++ ([stop] ++ rest) = events' ++ ([stop'] ++ rest')) :
    nodes = others ∧ events = events' ∧ stop = stop' := by
  match all with
  | .nil => cases all' <;> simp_all
  | .cons opens head tail =>
    cases all' with
    | nil => simp_all
    | cons opens' head' tail' =>
      simp only [List.append_assoc] at same
      obtain ⟨rfl, first⟩ := Stands.unique head head' same
      rw [first, List.append_cancel_left_eq] at same
      obtain ⟨rfl, rfl, rfl⟩ := StandAll.unique tail tail' ends ends' same
      exact ⟨rfl, by rw [first], rfl⟩

theorem StandEntries.unique {entries others : List (Node × Node)}
    {events events' rest rest' : List Placed} {stop stop' : Placed}
    (all : StandEntries document entries events) (all' : StandEntries document others events')
    (ends : Decode.endsCollection stop.event = true)
    (ends' : Decode.endsCollection stop'.event = true)
    (same : events ++ ([stop] ++ rest) = events' ++ ([stop'] ++ rest')) :
    entries = others ∧ events = events' ∧ stop = stop' := by
  match all with
  | .nil => cases all' <;> simp_all
  | .cons opens key value tail =>
    cases all' with
    | nil => simp_all
    | cons opens' key' value' tail' =>
      -- The keys are the same, then the values, then the other entries.
      simp only [List.append_assoc] at same
      obtain ⟨rfl, first⟩ := Stands.unique key key' same
      rw [first, List.append_cancel_left_eq] at same
      obtain ⟨rfl, rfl⟩ := Stands.unique value value' same
      rw [List.append_cancel_left_eq] at same
      obtain ⟨rfl, rfl, rfl⟩ := StandEntries.unique tail tail' ends ends' same
      exact ⟨rfl, by rw [first], rfl⟩
end

/-- The document begins with this node. -/
def Document.HasRoot (document : Document) (root : Node) : Prop :=
  ∃ events rest, Stands document root events ∧ document.events = events ++ rest

/-- A document has no second root. -/
theorem Document.HasRoot.unique {root other : Node} (here : document.HasRoot root)
    (there : document.HasRoot other) : root = other := by
  obtain ⟨_, _, stands, same⟩ := here
  obtain ⟨_, _, stands', same'⟩ := there
  exact (stands.unique stands' (same.symm.trans same')).1

end RuleAtlas.Yaml
