import Mathlib.Data.List.Basic
import RuleAtlas.Proofs.SortedMap
import RuleAtlas.Proofs.Yaml.Nodes

/-! # Decoders and nodes

A decoder that comes to a value takes the events of one node, and the value is that of the node.
For each way to build decoders there is one rule; what a decoder does to the node as a whole
follows from the rules. -/

namespace RuleAtlas.Yaml.Decode

variable {α β : Type} {document : Document} {state behind : DecodeState}

/-! ## Steps -/

section
variable {found : β}

theorem bind_eq_ok {decode : Decode α} {next : α → Decode β} :
    (decode >>= next) document state = .ok (found, behind) ↔
      ∃ first middle, decode document state = .ok (first, middle) ∧
        next first document middle = .ok (found, behind) := by
  change Except.bind (decode document state) (fun result => next result.1 document result.2) = _ ↔ _
  cases decode document state with
  | error error => simp [Except.bind]
  | ok result => simp [Except.bind, Prod.ext_iff]

theorem pure_eq_ok {value : β} :
    (pure value : Decode β) document state = .ok (found, behind) ↔
      value = found ∧ state = behind := by
  change Except.ok (value, state) = .ok (found, behind) ↔ _
  simp

theorem map_eq_ok {decode : Decode α} {change : α → β} :
    (change <$> decode) document state = .ok (found, behind) ↔
      ∃ value, decode document state = .ok (value, behind) ∧ change value = found := by
  change Except.map _ (decode document state) = _ ↔ _
  cases decode document state with
  | error error => simp [Except.map]
  | ok result => simp [Except.map, Prod.ext_iff, and_comm]

theorem throw_ne_ok {error : DecodeError} :
    (throw error : Decode β) document state ≠ .ok (found, behind) := by
  change Except.error error ≠ _
  simp

theorem complain_ne_ok {complaint : Complaint} :
    (complain complaint : Decode β) document state ≠ .ok (found, behind) := throw_ne_ok

/-- A place is added to complaints only. -/
theorem placing_eq_ok {mark : Mark} {path : Path} {decode : Decode β} :
    placing mark path decode document state = .ok (found, behind) ↔
      decode document state = .ok (found, behind) := by
  have caught : placing mark path decode document state =
      match decode document state with
      | .ok result => .ok result
      | .error error => .error (error.placeAt mark path) := by
    change tryCatchThe DecodeError (decode document state) _ = _
    cases decode document state <;> rfl
  rw [caught]
  cases decode document state <;> simp

end

theorem peek_eq_ok {placed : Placed} (peeked : peek document state = .ok (placed, behind)) :
    ∃ more, state.events = placed :: more ∧ behind = state := by
  obtain ⟨events, aliases⟩ := state
  cases events with
  | cons first more =>
    cases peeked
    exact ⟨more, rfl, rfl⟩
  | nil =>
    -- There is no event, and only an error to report.
    rw [peek, bind_eq_ok] at peeked
    obtain ⟨_, _, got, failed⟩ := peeked
    cases got
    obtain ⟨_, _, got, failed⟩ := bind_eq_ok.1 failed
    cases got
    cases cut : document.error with
    | none =>
      rw [cut] at failed
      exact absurd failed throw_ne_ok
    | some error =>
      rw [cut] at failed
      exact absurd failed throw_ne_ok

theorem take_eq_ok {placed : Placed} (taken : take document state = .ok (placed, behind)) :
    state.events = placed :: behind.events := by
  rw [take, bind_eq_ok] at taken
  obtain ⟨first, middle, peeked, taken⟩ := taken
  obtain ⟨more, events, rfl⟩ := peek_eq_ok peeked
  cases taken
  simp [events]

/-- Behind an alias a decoder goes on where it was, whatever it takes of the other node. -/
theorem follow_eq_ok {number : Nat} {decode : Decode β} {found : β}
    (followed : follow number decode document state = .ok (found, behind)) :
    ∃ start inner, start.events = document.eventsOf number ∧
      decode document start = .ok (found, inner) ∧ behind.events = state.events := by
  rw [follow, bind_eq_ok] at followed
  obtain ⟨_, _, got, followed⟩ := followed
  cases got
  obtain ⟨_, _, got, followed⟩ := bind_eq_ok.1 followed
  cases got
  simp only at followed
  split at followed
  · exact absurd followed throw_ne_ok
  · obtain ⟨_, start, set, followed⟩ := bind_eq_ok.1 followed
    cases set
    obtain ⟨value, inner, decoded, followed⟩ := bind_eq_ok.1 followed
    cases followed
    exact ⟨_, inner, rfl, decoded, rfl⟩

/-- A node is decoded by its first event, or by that of the node that an alias stands for; either
way the events that are taken stand for the same node. -/
theorem node_eq_ok {path : Path} {decode : Placed → Decode α} {found : α}
    (decoded : node path decode document state = .ok (found, behind)) :
    ∃ first start inner, decode first document start = .ok (found, inner) ∧
      ∀ {node more}, Stands document node (first :: more) → start.events = more ++ inner.events →
        ∃ events, Stands document node events ∧ state.events = events ++ behind.events := by
  rw [node, bind_eq_ok] at decoded
  obtain ⟨⟨event, mark⟩, middle, taken, decoded⟩ := decoded
  have events := take_eq_ok taken
  simp only at decoded
  split at decoded
  · rename_i number
    obtain ⟨start, inner, anchored, decoded, back⟩ := follow_eq_ok decoded
    obtain ⟨first, start', taken', decoded⟩ := bind_eq_ok.1 decoded
    refine ⟨first, start', inner, placing_eq_ok.1 decoded, fun {node more} stands rest => ?_⟩
    -- The events of the other node are those at the place of the anchor.
    have target : document.eventsOf number = first :: more ++ inner.events := by
      rw [← anchored, take_eq_ok taken', rest, List.cons_append]
    exact ⟨_, .followed number mark target stands, by rw [events, back, List.singleton_append]⟩
  · refine ⟨_, middle, behind, placing_eq_ok.1 decoded, fun {node more} stands rest => ?_⟩
    exact ⟨_, stands, by rw [events, rest, List.cons_append]⟩

/-! ## Nodes -/

/-- Where the decoder comes to a value, it takes the events of a node, and the value is one of
the node. -/
def Reads (document : Document) (decode : Decode α) (of : Node → α → Prop) : Prop :=
  ∀ ⦃state behind found⦄, decode document state = .ok (found, behind) →
    ∃ node events, Stands document node events ∧ state.events = events ++ behind.events ∧
      of node found

section
variable {of other : Node → α → Prop} {decode : Decode α} {path : Path} {depth : Nat}

theorem Reads.mono (reads : Reads document decode of)
    (weaker : ∀ {node found}, of node found → other node found) :
    Reads document decode other := by
  intro state behind found decoded
  obtain ⟨node, events, stands, taken, holds⟩ := reads decoded
  exact ⟨node, events, stands, taken, weaker holds⟩

/-- What is computed from a value takes nothing more. -/
theorem Reads.map {change : α → β} {of : Node → β → Prop}
    (reads : Reads document decode fun node found => of node (change found)) :
    Reads document (decode >>= fun found => pure (change found)) of := by
  intro state behind found decoded
  obtain ⟨first, middle, before, after⟩ := bind_eq_ok.1 decoded
  obtain ⟨rfl, rfl⟩ := pure_eq_ok.1 after
  exact reads before

/-- It is enough to look behind the first event of a node. -/
theorem reads_node {decode : Placed → Decode α}
    (reads : ∀ {first start inner found}, decode first document start = .ok (found, inner) →
      ∃ node more, Stands document node (first :: more) ∧ start.events = more ++ inner.events ∧
        of node found) :
    Reads document (node path decode) of := by
  intro state behind found decoded
  obtain ⟨first, start, inner, inside, outside⟩ := node_eq_ok decoded
  obtain ⟨node, more, stands, rest, holds⟩ := reads inside
  obtain ⟨events, stands, taken⟩ := outside stands rest
  exact ⟨node, events, stands, taken, holds⟩

/-! ## Scalars -/

theorem reads_checkedText {wanted : String} {check : String → Except Complaint α} :
    Reads document (checkedText wanted path check) fun node found =>
      ∃ tag text style, node = .scalar tag text style ∧ check (String.ofList text) = .ok found := by
  apply reads_node
  intro first start inner found decoded
  obtain ⟨event, mark⟩ := first
  simp only at decoded
  split at decoded
  · rename_i tag text style
    cases passed : check (String.ofList text) with
    | ok value =>
      rw [passed] at decoded
      obtain ⟨rfl, rfl⟩ := pure_eq_ok.1 decoded
      exact ⟨_, [], .scalar tag text style mark, rfl, tag, text, style, rfl, passed⟩
    | error complaint =>
      rw [passed] at decoded
      exact absurd decoded complain_ne_ok
  · exact absurd decoded complain_ne_ok

theorem reads_text :
    Reads document (text path) fun node found => ∃ tag text style,
      node = .scalar tag text style ∧ String.ofList text = found := by
  apply reads_checkedText.mono
  rintro node found ⟨tag, text, style, scalar, same⟩
  exact ⟨tag, text, style, scalar, Except.ok.inj same⟩

theorem reads_natural : Reads document (natural path) fun _ _ => True := by
  apply reads_node
  intro first start inner found decoded
  obtain ⟨event, mark⟩ := first
  simp only at decoded
  split at decoded
  · rename_i tag text style
    generalize (if isNumeral tag style then _ else none) = value? at decoded
    cases value? with
    | some value =>
      obtain ⟨rfl, rfl⟩ := pure_eq_ok.1 decoded
      exact ⟨_, [], .scalar tag text style mark, rfl, trivial⟩
    | none => exact absurd decoded complain_ne_ok
  · exact absurd decoded complain_ne_ok

/-- A node that is not there is a scalar, or nothing. -/
theorem exists_stands_of_not_isPresent {event : NodeEvent} (mark : Mark)
    (missing : isPresent event = .ok false) : ∃ node, Stands document node [⟨event, mark⟩] := by
  cases event with
  | nothing => exact ⟨_, .nothing mark⟩
  | scalar tag text style => exact ⟨_, .scalar tag text style mark⟩
  | _ => cases missing

theorem reads_present (reads : Reads document decode of) :
    Reads document (present decode) fun node found? => ∀ found ∈ found?, of node found := by
  intro state behind found? decoded
  rw [present, bind_eq_ok] at decoded
  obtain ⟨⟨event, mark⟩, _, peeked, decoded⟩ := decoded
  obtain ⟨more, events, rfl⟩ := peek_eq_ok peeked
  cases present : isPresent event with
  | error complaint =>
    simp only [present] at decoded
    exact absurd decoded complain_ne_ok
  | ok here =>
    simp only [present] at decoded
    cases here with
    | true =>
      obtain ⟨value, inside, rfl⟩ := map_eq_ok.1 decoded
      obtain ⟨node, events, stands, taken, holds⟩ := reads inside
      exact ⟨node, events, stands, taken, by simpa using holds⟩
    | false =>
      obtain ⟨first, middle, taken, decoded⟩ := bind_eq_ok.1 decoded
      obtain ⟨rfl, rfl⟩ := pure_eq_ok.1 decoded
      obtain ⟨node, stands⟩ : ∃ node, Stands document node [⟨event, mark⟩] :=
        exists_stands_of_not_isPresent mark present
      have rest := take_eq_ok taken
      rw [events, List.cons.injEq] at rest
      exact ⟨node, _, stands, by rw [events, rest.2]; rfl, by simp⟩

theorem reads_optional (reads : Reads document decode of) :
    Reads document (optional decode) fun node found? => ∀ found ∈ found?, of node found := by
  intro state behind found? decoded
  rw [optional, bind_eq_ok] at decoded
  obtain ⟨⟨event, mark⟩, _, peeked, decoded⟩ := decoded
  obtain ⟨more, events, rfl⟩ := peek_eq_ok peeked
  simp only at decoded
  split at decoded
  · rename_i number
    obtain ⟨first, middle, taken, decoded⟩ := bind_eq_ok.1 decoded
    obtain ⟨start, inner, anchored, decoded, back⟩ := follow_eq_ok decoded
    obtain ⟨node, target, stands, rest, holds⟩ := reads_present reads decoded
    have here := take_eq_ok taken
    rw [events, List.cons.injEq] at here
    refine ⟨node, _, .followed number mark (anchored.symm.trans rest) stands, ?_, holds⟩
    rw [events, here.2, back, List.singleton_append]
  · exact reads_present reads decoded

/-! ## Collections -/

/-- Members are taken one by one up to the event that ends the collection; what each of them
keeps holds of all that was taken. -/
theorem members_eq_ok {member : Nat → β → Decode β} {inv : List Placed → β → Prop}
    (step : ∀ {index taken found next state behind first more}, inv taken found →
      state.events = first :: more → endsCollection first.event = false →
      member index found document state = .ok (next, behind) →
      ∃ events, events ≠ [] ∧ state.events = events ++ behind.events ∧ inv (taken ++ events) next)
    {count index : Nat} {taken : List Placed} {found last : β} {state behind : DecodeState}
    (enough : state.events.length < count) (holds : inv taken found)
    (decoded : members member count index found document state = .ok (last, behind)) :
    ∃ events stop, state.events = events ++ stop :: behind.events ∧
      endsCollection stop.event = true ∧ inv (taken ++ events) last := by
  induction count generalizing index taken found state with
  | zero => omega
  | succ count inductionHypothesis =>
    rw [members, bind_eq_ok] at decoded
    obtain ⟨first, _, peeked, decoded⟩ := decoded
    obtain ⟨more, events, rfl⟩ := peek_eq_ok peeked
    cases ends : endsCollection first.event with
    | true =>
      rw [ends, if_pos rfl] at decoded
      obtain ⟨stop, middle, taken, decoded⟩ := bind_eq_ok.1 decoded
      obtain ⟨rfl, rfl⟩ := pure_eq_ok.1 decoded
      have same := take_eq_ok taken
      obtain rfl : first = stop := by
        rw [events] at same
        exact (List.cons.inj same).1
      exact ⟨[], first, same, ends, by simpa using holds⟩
    | false =>
      rw [ends, if_neg Bool.false_ne_true] at decoded
      obtain ⟨next, middle, one, decoded⟩ := bind_eq_ok.1 decoded
      obtain ⟨front, nonempty, split, kept⟩ := step holds events ends one
      -- The member took an event at least, so there are still more counts than events.
      have fewer : middle.events.length < count := by
        have lengths := congrArg List.length split
        have some_events := List.length_pos_of_ne_nil nonempty
        rw [List.length_append] at lengths
        omega
      obtain ⟨back, stop, rest, stops, keptAll⟩ := inductionHypothesis fewer kept decoded
      refine ⟨front ++ back, stop, ?_, stops, ?_⟩
      · rw [split, rest, List.append_assoc]
      · rwa [← List.append_assoc]

theorem collection_eq_ok {member : Nat → β → Decode β} {inv : List Placed → β → Prop}
    (step : ∀ {index taken found next state behind first more}, inv taken found →
      state.events = first :: more → endsCollection first.event = false →
      member index found document state = .ok (next, behind) →
      ∃ events, events ≠ [] ∧ state.events = events ++ behind.events ∧ inv (taken ++ events) next)
    {start last : β} (initial : inv [] start)
    (decoded : collection member start document state = .ok (last, behind)) :
    ∃ events stop, state.events = events ++ stop :: behind.events ∧
      endsCollection stop.event = true ∧ inv events last := by
  rw [collection, bind_eq_ok] at decoded
  obtain ⟨_, _, got, decoded⟩ := decoded
  cases got
  exact members_eq_ok step (Nat.lt_succ_self _) initial decoded

/-- A node without content has neither items nor entries. -/
theorem exists_stands_of_isEmptyNode {event : NodeEvent} (mark : Mark)
    (empty : isEmptyNode event = true) :
    ∃ node, Stands document node [⟨event, mark⟩] ∧ node.items = [] ∧ node.entries = [] := by
  cases event with
  | nothing => exact ⟨_, .nothing mark, rfl, rfl⟩
  | scalar tag text style => exact ⟨_, .scalar tag text style mark, rfl, rfl⟩
  | _ => cases empty

/-- Where no collection begins, a node without content may stand. -/
theorem emptyNode_eq_ok {event : NodeEvent} (mark : Mark) {value found : β} {complaint : Complaint}
    (decoded : (if isEmptyNode event then pure value else complain complaint : Decode β) document
      state = .ok (found, behind)) :
    value = found ∧ state = behind ∧
      ∃ node, Stands document node [⟨event, mark⟩] ∧ node.items = [] ∧ node.entries = [] := by
  cases empty : isEmptyNode event with
  | true =>
    rw [empty, if_pos rfl] at decoded
    obtain ⟨same, rfl⟩ := pure_eq_ok.1 decoded
    exact ⟨same, rfl, exists_stands_of_isEmptyNode mark empty⟩
  | false =>
    rw [empty, if_neg Bool.false_ne_true] at decoded
    exact absurd decoded complain_ne_ok

theorem reads_sequence {item : Nat → Path → Decode α}
    (reads : ∀ depth path, Reads document (item depth path) of) :
    Reads document (sequence depth path item) fun node found =>
      List.Forall₂ of node.items found := by
  apply reads_node
  intro first start inner found decoded
  obtain ⟨event, mark⟩ := first
  simp only at decoded
  split at decoded
  · rename_i tag
    cases depth with
    | zero => exact absurd decoded throw_ne_ok
    | succ depth =>
      obtain ⟨reversed, middle, items, decoded⟩ := bind_eq_ok.1 decoded
      obtain ⟨rfl, rfl⟩ := pure_eq_ok.1 decoded
      -- The items so far are those of the events so far, the last one first.
      let inv : List Placed → List α → Prop := fun taken found =>
        ∃ nodes, StandAll document nodes taken ∧ List.Forall₂ of nodes found.reverse
      obtain ⟨events, stop, rest, ends, nodes, all, values⟩ :
          ∃ events stop, start.events = events ++ stop :: middle.events ∧
            endsCollection stop.event = true ∧ inv events reversed := by
        refine collection_eq_ok ?_ ⟨[], .nil, .nil⟩ items
        rintro index taken found next state behind first more ⟨nodes, all, values⟩ begins opens one
        obtain ⟨value, middle, reading, added⟩ := bind_eq_ok.1 one
        obtain ⟨rfl, rfl⟩ := pure_eq_ok.1 added
        obtain ⟨node, events, stands, split, holds⟩ := reads _ _ reading
        obtain ⟨tail, rfl⟩ := stands.exists_cons (split.symm.trans begins)
        refine ⟨first :: tail, stands.ne_nil, split, nodes ++ [node], all.snoc opens stands, ?_⟩
        rw [List.reverse_cons]
        exact List.rel_append values (.cons holds .nil)
      refine ⟨.sequence nodes, events ++ [stop], .sequence tag mark stop all ends, ?_, values⟩
      rw [rest, List.append_assoc, List.singleton_append]
  · obtain ⟨rfl, rfl, node, stands, items, -⟩ := emptyNode_eq_ok mark decoded
    exact ⟨node, [], stands, rfl, by rw [items]; exact .nil⟩

/-- Where the decoder comes to a value, it takes the events of a key and of its value. -/
def ReadsEntry (document : Document) (decode : Decode β) (of : Node → Node → β → Prop) : Prop :=
  ∀ ⦃state behind found⦄, decode document state = .ok (found, behind) →
    ∃ key value events middle, Stands document key events ∧ Stands document value middle ∧
      state.events = events ++ (middle ++ behind.events) ∧ of key value found

theorem reads_mapping {wanted : String} {entry : Nat → β → Decode β} {start : β}
    {inv : List (Node × Node) → β → Prop} (initial : inv [] start)
    (reads : ∀ {depth entries found}, inv entries found →
      ReadsEntry document (entry depth found) fun key value => inv (entries ++ [(key, value)])) :
    Reads document (mapping wanted depth path entry start) fun node => inv node.entries := by
  apply reads_node
  intro first begin inner found decoded
  obtain ⟨event, mark⟩ := first
  simp only at decoded
  split at decoded
  · rename_i tag
    cases depth with
    | zero => exact absurd decoded throw_ne_ok
    | succ depth =>
      let invTaken : List Placed → β → Prop := fun taken found =>
        ∃ entries, StandEntries document entries taken ∧ inv entries found
      obtain ⟨events, stop, rest, ends, entries, all, holds⟩ :
          ∃ events stop, begin.events = events ++ stop :: inner.events ∧
            endsCollection stop.event = true ∧ invTaken events found := by
        -- Through the loop: the entries so far stand in front of the events that are left.
        refine collection_eq_ok ?_ ⟨[], .nil, initial⟩ decoded
        rintro index taken found next state behind first more ⟨entries, all, holds⟩ begins opens one
        obtain ⟨key, value, events, middle, keyStands, valueStands, split, kept⟩ := reads holds one
        obtain ⟨tail, rfl⟩ := keyStands.exists_cons (split.symm.trans begins)
        refine ⟨first :: tail ++ middle, by simp, ?_, entries ++ [(key, value)],
          all.snoc opens keyStands valueStands, kept⟩
        rw [split, List.append_assoc]
      refine ⟨.mapping entries, events ++ [stop], .mapping tag mark stop all ends, ?_, holds⟩
      rw [rest, List.append_assoc, List.singleton_append]
  · obtain ⟨rfl, rfl, node, stands, -, entries⟩ := emptyNode_eq_ok mark decoded
    exact ⟨node, [], stands, rfl, by rwa [entries]⟩

end

end RuleAtlas.Yaml.Decode
