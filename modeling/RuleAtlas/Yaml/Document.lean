import RuleAtlas.Text.Blank
import RuleAtlas.Yaml.Event.Reader

/-! # Documents

A document is the list of the events of its nodes, up to its end or to the first error of the
text, which it keeps.  An alias stands for the number of an anchor, and every number for the
place of a node among the events. -/

namespace RuleAtlas.Yaml

/-- An event of a node; `nothing` is the only one of a stream without documents. -/
inductive NodeEvent where
  | nothing
  | alias (number : Nat)
  | scalar (tag : Option (List Char)) (text : List Char) (style : ScalarStyle)
  | sequenceStart (tag : Option (List Char))
  | sequenceEnd
  | mappingStart (tag : Option (List Char))
  | mappingEnd
  deriving DecidableEq, Repr, Inhabited

structure Placed where
  event : NodeEvent
  mark : Mark
  deriving DecidableEq, Repr, Inhabited

/-- Why a document is cut off. -/
inductive DocumentError where
  | text (error : TextError)
  | unknownAnchor (mark : Mark)
  deriving DecidableEq, Repr, Inhabited

/-- The events of a document, the events that the numbers of anchors stand for, the error that
cuts it off, and whether more than the end of the stream follows it. -/
structure Document where
  events : List Placed
  anchors : List (Nat × Nat)
  error : Option DocumentError
  followed : Bool
  deriving Repr, Inhabited

namespace Document

/-- The character may stand in a text. -/
def isAllowed (c : Char) : Bool :=
  c == '\t' || c == '\n' || c == '\r' || c == '\u0085' || (' ' ≤ c && c ≤ '~') ||
    ('\u00a0' ≤ c && c ≤ '\ufffd') || 0x10000 ≤ c.toNat

/-- The error that a text holds a character that may not stand in it. -/
def controlError? (text : List Char) : Option TextError :=
  let before := text.takeWhile isAllowed
  if before.length < text.length then
    some ⟨.controlCharacter, .start, Text.byteLength before, none⟩
  else none

/-- A document as far as it has been read: its events with the last one first, how many there
are, the names of anchors with their numbers, and the places of the numbers.  The number of an
anchor is the number of different names before it; a later one takes the place of an earlier
one with the same name or number. -/
structure Draft where
  events : List Placed
  count : Nat
  names : List (List Char × Nat)
  places : List (Nat × Nat)

namespace Draft

def add (draft : Draft) (event : NodeEvent) (mark : Mark) : Draft :=
  { draft with events := ⟨event, mark⟩ :: draft.events, count := draft.count + 1 }

/-- The draft with an anchor for the event that comes next. -/
def anchor (draft : Draft) : Option (List Char) → Draft
  | none => draft
  | some name =>
    let number := draft.names.length
    { draft with
      names := (name, number) :: draft.names.filter (·.1 ≠ name)
      places := (number, draft.count) :: draft.places.filter (·.1 ≠ number) }

/-- The draft with the event of a node; an alias has to be that of an anchor before it. -/
def step (draft : Draft) (event : Event) : Except DocumentError Draft :=
  let mark := event.mark
  match event.value with
  | .alias name =>
    match draft.names.lookup name with
    | some number => .ok (draft.add (.alias number) mark)
    | none => .error (.unknownAnchor mark)
  | .scalar properties text style =>
    .ok ((draft.anchor properties.anchor).add (.scalar properties.tag text style) mark)
  | .sequenceStart properties =>
    .ok ((draft.anchor properties.anchor).add (.sequenceStart properties.tag) mark)
  | .mappingStart properties =>
    .ok ((draft.anchor properties.anchor).add (.mappingStart properties.tag) mark)
  | .sequenceEnd => .ok (draft.add .sequenceEnd mark)
  | .mappingEnd => .ok (draft.add .mappingEnd mark)
  | _ => .ok draft

def finish (draft : Draft) (error : Option DocumentError) (followed : Bool) : Document :=
  ⟨draft.events.reverse, draft.places, error, followed⟩

end Draft

/-- The next event is not the end of the stream. -/
def goesOn (reader : EventReader) : Bool :=
  match EventReader.next.run reader with
  | .ok (event, _) => event.value ≠ .streamEnd
  | .error _ => true

/-- Reads events to the end of the first document, at most as many as said. -/
def readEvents : Nat → Draft → EventReader → Document
  | 0, draft, _ => draft.finish none false
  | count + 1, draft, reader =>
    match EventReader.next.run reader with
    | .error error => draft.finish (some (.text error)) false
    | .ok (event, behind) =>
      match event.value with
      | .documentEnd => draft.finish none (goesOn behind)
      | .streamEnd => (draft.add .nothing event.mark).finish none false
      | _ =>
        match draft.step event with
        | .ok next => readEvents count next behind
        | .error error => draft.finish (some error) false

/-- The first document of a text.  A character stands for at most four tokens and a token for
at most four events, which bounds the events. -/
def ofText (text : List Char) : Document :=
  let draft : Draft := ⟨[], 0, [], []⟩
  match controlError? text with
  | some error => draft.finish (some (.text error)) false
  | none => readEvents (16 * (text.length + 2)) draft (.start text)

end Document

end RuleAtlas.Yaml
