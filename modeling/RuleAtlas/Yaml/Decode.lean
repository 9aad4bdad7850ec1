import RuleAtlas.SortedMap
import RuleAtlas.Yaml.Scalar

/-! # Decoding documents

A decoder takes the events of one node from the front of those that are left and comes to a
value.  A complaint about a node is reported with the place and the path of the node, unless
the decoder of a node inside did so before.  Where the events run out, the error that cuts the
document off is reported.  Collections may be nested to a limited depth, and aliases followed
a limited number of times. -/

namespace RuleAtlas.Yaml

/-! ## Errors -/

/-- A step from a collection to a node in it. -/
inductive PathStep where
  | item (index : Nat)
  | key (name : List Char)
  | unknown
  deriving DecidableEq, Repr, Inhabited

/-- The steps to a node, the last one first. -/
abbrev Path := List PathStep

/-- The steps as messages write them. -/
def renderPath : Path → String
  | [] => "."
  | .item index :: path => renderPath path ++ "[" ++ toString index ++ "]"
  | .key name :: path => (if path.isEmpty then "" else renderPath path ++ ".") ++ String.ofList name
  | .unknown :: path => (if path.isEmpty then "" else renderPath path ++ ".") ++ "?"

/-- What is wrong with a node. -/
inductive Complaint where
  | invalidType (found wanted : String)
  | invalidValue (text : List Char) (wanted : String)
  | unknownField (name : String) (known : List String)
  | duplicateField (name : String)
  | noVariant (type : String)
  | localTag
  deriving DecidableEq, Repr, Inhabited

/-- The alternatives as messages list them. -/
def renderAlternatives (names : List String) : String :=
  let marked := names.map fun name => "`" ++ name ++ "`"
  match marked with
  | [name] => name
  | [first, second] => first ++ " or " ++ second
  | _ => "one of " ++ Text.joinWith ", " marked

def Complaint.message : Complaint → String
  | .invalidType found wanted => "invalid type: " ++ found ++ ", expected " ++ wanted
  | .invalidValue text wanted =>
    "invalid value: string " ++ Text.quoted (String.ofList text) ++ ", expected " ++ wanted
  | .unknownField name known =>
    "unknown field `" ++ name ++ "`, expected " ++ renderAlternatives known
  | .duplicateField name => "duplicate field `" ++ name ++ "`"
  | .noVariant type => "data did not match any variant of untagged enum " ++ type
  | .localTag => "untagged and internally tagged enums do not support enum input"

/-- Why a document was not decoded. -/
inductive DecodeError where
  | complaint (complaint : Complaint)
  | placed (complaint : Complaint) (mark : Mark) (path : Path)
  | text (error : TextError)
  | unknownAnchor (mark : Mark)
  | tooDeep (mark : Mark)
  | tooManyAliases
  | severalDocuments
  | endOfEvents
  deriving DecidableEq, Repr, Inhabited

namespace DecodeError

def render : DecodeError → String
  | .complaint what => what.message
  | .placed what mark path =>
    (if path.isEmpty then "" else renderPath path ++ ": ") ++ what.message ++ mark.suffix
  | .text error => error.render
  | .unknownAnchor mark => "unknown anchor" ++ mark.suffix
  | .tooDeep mark => "recursion limit exceeded" ++ mark.suffix
  | .tooManyAliases => "repetition limit exceeded"
  | .severalDocuments =>
    "deserializing from YAML containing more than one document is not supported"
  | .endOfEvents => "EOF while parsing a value"

/-- The place of the error, if it has one. -/
def mark? : DecodeError → Option Mark
  | .placed _ mark _ => some mark
  | .text error => some error.mark
  | .unknownAnchor mark => some mark
  | .tooDeep mark => some mark
  | _ => none

/-- The error with a place and a path, unless it has a place or needs none. -/
def placeAt (mark : Mark) (path : Path) : DecodeError → DecodeError
  | .complaint what => .placed what mark path
  | error => error

end DecodeError

/-- The error that a document is cut off by. -/
def DocumentError.toDecodeError : DocumentError → DecodeError
  | .text error => .text error
  | .unknownAnchor mark => .unknownAnchor mark

/-! ## Decoders -/

/-- What is left of a document, and how many aliases were followed. -/
structure DecodeState where
  events : List Placed
  aliases : Nat

/-- A decoder takes events of a document. -/
abbrev Decode := ReaderT Document (StateT DecodeState (Except DecodeError))

namespace Decode

variable {α β : Type}

/-- The next event, which is not taken. -/
def peek : Decode Placed := do
  match (← get).events with
  | placed :: _ => pure placed
  | [] =>
    match (← read).error with
    | some error => throw error.toDecodeError
    | none => throw .endOfEvents

def take : Decode Placed := do
  let placed ← peek
  modify fun state => { state with events := state.events.drop 1 }
  pure placed

def complain (complaint : Complaint) : Decode α := throw (.complaint complaint)

/-- The decoder with the place and path of a node for complaints that have none. -/
def placing (mark : Mark) (path : Path) (decode : Decode α) : Decode α :=
  tryCatch decode fun error => throw (error.placeAt mark path)

/-- Decodes at the place that the number of an anchor stands for, and goes on behind the
alias. -/
def follow (number : Nat) (decode : Decode α) : Decode α := do
  let document ← read
  let state ← get
  let aliases := state.aliases + 1
  if document.events.length * 100 < aliases then throw .tooManyAliases
  else
    let place := (document.anchors.lookup number).getD document.events.length
    set (⟨document.events.drop place, aliases⟩ : DecodeState)
    let found ← decode
    modify fun behind => { behind with events := state.events }
    pure found

/-- Decodes a node by its first event, or by that of the node that an alias stands for. -/
def node (path : Path) (decode : Placed → Decode α) : Decode α := do
  let placed ← take
  match placed.event with
  | .alias number => follow number do
    let target ← take
    placing target.mark path (decode target)
  | _ => placing placed.mark path (decode placed)

/-! ## Descriptions -/

def wrongType (event : NodeEvent) (wanted : String) : Complaint :=
  match event with
  | .scalar tag text style =>
    match ScalarValue.of tag text style with
    | .ok value => .invalidType value.describe wanted
    | .error core => .invalidValue text core.wanted
  | .sequenceStart _ => .invalidType "sequence" wanted
  | .mappingStart _ => .invalidType "map" wanted
  | _ => .invalidType "unit value" wanted

/-- The event stands for a node without content, which may be an empty collection. -/
def isEmptyNode : NodeEvent → Bool
  | .nothing => true
  | .scalar _ text style => text.isEmpty && style = .plain
  | _ => false

/-! ## Collections -/

/-- The event ends a collection. -/
def endsCollection : NodeEvent → Bool
  | .sequenceEnd => true
  | .mappingEnd => true
  | .nothing => true
  | _ => false

/-- Decodes members of a collection until it ends, one after the other; each of them changes
what was decoded before and takes an event, so the events that are left bound the members. -/
def members (member : Nat → β → Decode β) : Nat → Nat → β → Decode β
  | 0, _, found => pure found
  | count + 1, index, found => do
    if endsCollection (← peek).event then
      let _ ← take
      pure found
    else
      let next ← member index found
      members member count (index + 1) next

def collection (member : Nat → β → Decode β) (start : β) : Decode β := do
  members member ((← get).events.length + 1) 0 start

/-- Goes into a collection, where the depth allows it; the members have one level less. -/
def enter (mark : Mark) (depth : Nat) (decode : Nat → Decode α) : Decode α :=
  match depth with
  | 0 => throw (.tooDeep mark)
  | inner + 1 => decode inner

/-- Decodes a sequence; a node without content is an empty one. -/
def sequence (depth : Nat) (path : Path) (item : Nat → Path → Decode α) : Decode (List α) :=
  node path fun placed =>
    match placed.event with
    | .sequenceStart _ =>
      enter placed.mark depth fun inner => do
        let items ← collection (fun index items => do
          let found ← item inner (.item index :: path)
          pure (found :: items)) []
        pure items.reverse
    | event => if isEmptyNode event then pure [] else complain (wrongType event "a sequence")

/-- Decodes the entries of a mapping, each of which changes what was decoded before; a node
without content has no entries. -/
def mapping (wanted : String) (depth : Nat) (path : Path) (entry : Nat → β → Decode β)
    (start : β) : Decode β :=
  node path fun placed =>
    match placed.event with
    | .mappingStart _ =>
      enter placed.mark depth fun inner => collection (fun _ found => entry inner found) start
    | event => if isEmptyNode event then pure start else complain (wrongType event wanted)

/-- The step from a mapping to the value of the key that comes next. -/
def keyStep : Decode PathStep := do
  match (← peek).event with
  | .scalar _ text _ => pure (.key text)
  | _ => pure .unknown

/-! ## Scalars -/

/-- Decodes a scalar as the text that is written, which has to pass a check. -/
def checkedText (wanted : String) (path : Path) (check : String → Except Complaint α) :
    Decode α :=
  node path fun placed =>
    match placed.event with
    | .scalar _ text _ =>
      match check (String.ofList text) with
      | .ok found => pure found
      | .error complaint => complain complaint
    | event => complain (wrongType event wanted)

def text (path : Path) : Decode String := checkedText "a string" path .ok

/-- The scalar is read as an integer without a sign. -/
def isNumeral (tag : Option (List Char)) (style : ScalarStyle) : Bool :=
  style = .plain ||
    (style = .literal && (tag.bind ScalarValue.CoreTag.ofAddress?) = some .integer)

/-- Decodes an integer without a sign, of 64 bits. -/
def natural (path : Path) : Decode Nat :=
  node path fun placed =>
    match placed.event with
    | .scalar tag text style =>
      match if isNumeral tag style then ScalarValue.unsigned? (Nat.pow 2 64) text else none with
      | some value => pure value
      | none => complain (wrongType placed.event "u64")
    | event => complain (wrongType event "u64")

/-- The node is there, that is, not null. -/
def isPresent : NodeEvent → Except Complaint Bool
  | .nothing => .ok false
  | .scalar tag text style =>
    if style ≠ .plain then .ok true
    else
      match tag with
      | none => .ok (!(text.isEmpty || ScalarValue.isNullWord text))
      | some tag =>
        if ScalarValue.CoreTag.ofAddress? tag = some .null then
          if ScalarValue.isNullWord text then .ok false else .error (.invalidValue text "null")
        else .ok true
  | _ => .ok true

/-- Decodes a node that is no alias, unless it is null. -/
def present (decode : Decode α) : Decode (Option α) := do
  match isPresent (← peek).event with
  | .ok true => some <$> decode
  | .ok false =>
    let _ ← take
    pure none
  | .error complaint => complain complaint

/-- Decodes a node, unless it is null. -/
def optional (decode : Decode α) : Decode (Option α) := do
  match (← peek).event with
  | .alias number =>
    let _ ← take
    follow number (present decode)
  | _ => present decode

/-- The complaint about a value that no type has room for. -/
def tooWide? : ScalarValue → Option Complaint
  | .wideUnsigned value => some (.invalidType (ScalarValue.wideUnsigned value).describe "any value")
  | .wideSigned value => some (.invalidType (ScalarValue.wideSigned value).describe "any value")
  | _ => none

/-- The value of a scalar of any type. -/
def anyScalar (tag : Option (List Char)) (text : List Char) (style : ScalarStyle) :
    Except Complaint ScalarValue :=
  if tag.any ScalarValue.isLocalTag then .error .localTag
  else
    match ScalarValue.of tag text style with
    | .error core => .error (.invalidValue text core.wanted)
    | .ok value =>
      match tooWide? value with
      | some complaint => .error complaint
      | none => .ok value

/-- Decodes a node of any type; a collection comes to no value, but its members are decoded
with the given decoder for one level less. -/
def anyWith (inner : Option (Path → Decode Unit)) (path : Path) : Decode (Option ScalarValue) :=
  node path fun placed =>
    match placed.event with
    | .scalar tag text style =>
      match anyScalar tag text style with
      | .ok value => pure (some value)
      | .error complaint => complain complaint
    | .sequenceStart tag => do
      if tag.any ScalarValue.isLocalTag then complain .localTag
      match inner with
      | none => throw (.tooDeep placed.mark)
      | some decode =>
        collection (fun index _ => decode (.item index :: path)) ()
        pure none
    | .mappingStart tag => do
      if tag.any ScalarValue.isLocalTag then complain .localTag
      match inner with
      | none => throw (.tooDeep placed.mark)
      | some decode =>
        collection (fun _ _ => do
          let step ← keyStep
          decode path
          decode (step :: path)) ()
        pure none
    | _ => pure none

/-- Decodes a node of any type that may be nested as deeply as said. -/
def any : Nat → Path → Decode (Option ScalarValue)
  | 0 => anyWith none
  | depth + 1 => anyWith (some fun path => do
    let _ ← any depth path
    pure ())

/-- Decodes a scalar of any type as a text. -/
def scalarText (depth : Nat) (path : Path) : Decode String := do
  match ← any depth path with
  | some value => pure value.render
  | none => complain (.noVariant "Scalar")

/-- Decodes a mapping from texts to scalars of any type; of two entries with the same key the
later one counts. -/
def scalarMap (depth : Nat) (path : Path) : Decode (SortedMap String String) :=
  mapping "a map" depth path (fun inner found => do
    let step ← keyStep
    let key ← text path
    let value ← scalarText inner (step :: path)
    pure (found.insert key value)) .empty

/-! ## Records -/

/-- A field of a record: its name, and how its node changes the record. -/
structure RecordField (β : Type) where
  name : String
  decode : Nat → Path → β → Decode β

/-- A record and the names of its fields that were set. -/
structure Partial (β : Type) where
  record : β
  names : List String

/-- The field of this name, or a complaint that there is none. -/
def fieldNamed (fields : List (RecordField β)) (name : String) :
    Except Complaint (RecordField β) :=
  match fields.find? (·.name = name) with
  | some field => .ok field
  | none => .error (.unknownField name (fields.map RecordField.name))

/-- Decodes a mapping with known keys, none of them twice. -/
def record (type : String) (fields : List (RecordField β)) (start : β) (depth : Nat)
    (path : Path) : Decode β := do
  let decoded ← mapping ("struct " ++ type) depth path (fun inner (found : Partial β) => do
    let step ← keyStep
    let field ← checkedText "field identifier" path (fieldNamed fields)
    if field.name ∈ found.names then complain (.duplicateField field.name)
    else
      let changed ← field.decode inner (step :: path) found.record
      pure ⟨changed, field.name :: found.names⟩) ⟨start, []⟩
  pure decoded.record

/-! ## Texts -/

/-- The number of collections that may be inside each other. -/
def maxDepth : Nat := 128

/-- Decodes a text with one document. -/
def run (decode : Nat → Path → Decode α) (source : List Char) : Except DecodeError α :=
  let document := Document.ofText source
  match StateT.run (ReaderT.run (decode maxDepth []) document) ⟨document.events, 0⟩ with
  | .error error => .error error
  | .ok (found, _) =>
    match document.error with
    | some error => .error error.toDecodeError
    | none => if document.followed then .error .severalDocuments else .ok found

end Decode

end RuleAtlas.Yaml
