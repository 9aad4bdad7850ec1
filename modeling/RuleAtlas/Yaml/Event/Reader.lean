import RuleAtlas.Yaml.Event
import RuleAtlas.Yaml.Token.Scanner

/-! # Reading events

The reader keeps what it expects next: one expectation for each collection that is open, with
the innermost first, and one for the document around them.  Every event fulfils the first
expectation and puts others in its place. -/

namespace RuleAtlas.Yaml

/-- What a reader expects.  The marks say where the open collections begin. -/
inductive Expectation where
  | streamStart
  | document (bare : Bool)
  | documentContent
  | documentEnd
  | blockNode
  | blockEntry (start : Mark)
  | indentlessEntry
  | blockKey (start : Mark)
  | blockValue (start : Mark)
  | flowEntry (start : Mark) (first : Bool)
  | flowPairKey (start : Mark)
  | flowPairValue (start : Mark)
  | flowPairEnd (start : Mark)
  | flowKey (start : Mark) (first : Bool)
  | flowValue (start : Mark)
  | flowMissingValue (start : Mark)
  deriving Repr, Inhabited

/-- A handle of tags and the address that it stands for. -/
structure TagHandle where
  handle : List Char
  leader : List Char
  deriving Repr, Inhabited

/-- The handles that stand for addresses without a directive. -/
def defaultHandles : List TagHandle :=
  [⟨['!'], ['!']⟩, ⟨['!', '!'], "tag:yaml.org,2002:".toList⟩]

/-- The state of a reader. -/
structure EventReader where
  scanner : Scanner
  expected : List Expectation
  handles : List TagHandle
  deriving Inhabited

/-- Reading with a reader that moves on, unless an error of the text is found. -/
abbrev ReadEvents := StateT EventReader (Except TextError)

namespace EventReader

def start (text : List Char) : EventReader := ⟨.start text, [.streamStart], []⟩

def peek : ReadEvents Token := do
  let reader ← get
  let (token, scanner) ← reader.scanner.peek
  set { reader with scanner := scanner }
  pure token

def take : ReadEvents Unit := modify fun reader => { reader with scanner := reader.scanner.take }

/-- Puts expectations before the others. -/
def expect (expectations : List Expectation) : ReadEvents Unit :=
  modify fun reader => { reader with expected := expectations ++ reader.expected }

/-- An error found in something that began at a mark. -/
def fail {α : Type} (problem : Problem) (mark : Mark) (activity : Activity) (start : Mark) :
    ReadEvents α :=
  throw (.within problem mark activity start)

/-! ## Nodes -/

/-- The properties of a node as they are written. -/
structure NodeHead where
  anchor : Option (List Char)
  tag : Option (List Char × List Char × Mark)
  start : Mark

/-- Reads an anchor and a tag in any order, if they are there. -/
def readHead : ReadEvents NodeHead := do
  let first ← peek
  match first.value with
  | .anchor name =>
    take
    let second ← peek
    match second.value with
    | .tag handle suffix =>
      take
      pure ⟨some name, some (handle, suffix, second.start), first.start⟩
    | _ => pure ⟨some name, none, first.start⟩
  | .tag handle suffix =>
    take
    let second ← peek
    match second.value with
    | .anchor name =>
      take
      pure ⟨some name, some (handle, suffix, first.start), first.start⟩
    | _ => pure ⟨none, some (handle, suffix, first.start), first.start⟩
  | _ => pure ⟨none, none, first.start⟩

/-- The properties that a head stands for: the handle of a tag gives way to its address. -/
def resolveHead (head : NodeHead) : ReadEvents Properties := do
  match head.tag with
  | none => pure ⟨head.anchor, none⟩
  | some (handle, suffix, mark) =>
    if handle.isEmpty then pure ⟨head.anchor, some suffix⟩
    else
      match (← get).handles.find? (·.handle = handle) with
      | some found => pure ⟨head.anchor, some (found.leader ++ suffix)⟩
      | none => fail .undefinedTagHandle mark .node head.start

/-- The properties of a written scalar, for which a lone exclamation mark is no tag. -/
def scalarProperties (properties : Properties) : Properties :=
  if properties.tag = some ['!'] then { properties with tag := none } else properties

/-- Takes the token of a node and puts expectations before the others. -/
def begin (value : EventValue) (mark : Mark) (expectations : List Expectation) :
    ReadEvents Event := do
  take
  expect expectations
  pure ⟨value, mark⟩

/-- The kinds of places where a node may stand. -/
inductive NodePlace where
  | flow
  | block
  | blockOrIndentless
  deriving DecidableEq, Repr, Inhabited

/-- Reads the first event of a node behind its properties. -/
def readContent (place : NodePlace) (start : Mark) (properties : Properties) :
    ReadEvents Event := do
  let token ← peek
  let here := token.start
  match token.value, place with
  | .blockEntry, .blockOrIndentless =>
    expect [.indentlessEntry]
    pure ⟨.sequenceStart properties, start⟩
  | .scalar text style, _ =>
    begin (.scalar (scalarProperties properties) text style) start []
  | .flowSequenceStart, _ => begin (.sequenceStart properties) start [.flowEntry here true]
  | .flowMappingStart, _ => begin (.mappingStart properties) start [.flowKey here true]
  | .blockSequenceStart, .block => begin (.sequenceStart properties) start [.blockEntry here]
  | .blockSequenceStart, .blockOrIndentless =>
    begin (.sequenceStart properties) start [.blockEntry here]
  | .blockMappingStart, .block => begin (.mappingStart properties) start [.blockKey here]
  | .blockMappingStart, .blockOrIndentless =>
    begin (.mappingStart properties) start [.blockKey here]
  | _, _ =>
    if properties.anchor.isSome || properties.tag.isSome then
      pure ⟨.scalar properties [] .plain, start⟩
    else
      fail .nodeMissing here (if place = .flow then .flowNode else .blockNode) start

def readNode (place : NodePlace) : ReadEvents Event := do
  let token ← peek
  match token.value with
  | .alias name => begin (.alias name) token.start []
  | _ =>
    let head ← readHead
    let properties ← resolveHead head
    readContent place head.start properties

/-! ## Documents -/

/-- The directives before a document. -/
structure Directives where
  versioned : Bool
  handles : List TagHandle

/-- The directives with one more. -/
def addDirective (directives : Directives) (token : Token) : Except TextError Directives :=
  match token.value with
  | .versionDirective major minor =>
    if directives.versioned then .error (.of .duplicateVersion token.start)
    else if major = 1 && (minor = 1 || minor = 2) then .ok { directives with versioned := true }
    else .error (.of .incompatibleVersion token.start)
  | .tagDirective handle leader =>
    if directives.handles.any (·.handle = handle) then
      .error (.of .duplicateTagDirective token.start)
    else .ok { directives with handles := directives.handles ++ [⟨handle, leader⟩] }
  | _ => .ok directives

def isDirective (token : Token) : Bool :=
  match token.value with
  | .versionDirective .. => true
  | .tagDirective .. => true
  | _ => false

/-- Reads directives, at most as many as said. -/
def readDirectives : Nat → Directives → ReadEvents Directives
  | 0, directives => pure directives
  | count + 1, directives => do
    let token ← peek
    if isDirective token then
      let added ← addDirective directives token
      take
      readDirectives count added
    else pure directives

/-- Reads the directives before a document and sets its handles.  The characters that are left
bound the directives. -/
def readHandles : ReadEvents Unit := do
  let directives ← readDirectives ((← get).scanner.cursor.left + 2) ⟨false, []⟩
  modify fun reader => { reader with handles := directives.handles ++ defaultHandles }

/-- Takes ends of documents, at most as many as said. -/
def skipDocumentEnds : Nat → ReadEvents Unit
  | 0 => pure ()
  | count + 1 => do
    if (← peek).value = .documentEnd then
      take
      skipDocumentEnds count

/-- The token begins the content of a document that nothing announces. -/
def beginsBare (token : Token) : Bool :=
  !isDirective token && token.value ≠ .documentStart && token.value ≠ .streamEnd

/-- Reads the beginning of a document, or the end of the stream. -/
def readDocumentStart (bare : Bool) : ReadEvents Event := do
  if !bare then skipDocumentEnds ((← get).scanner.cursor.left + 2)
  let token ← peek
  -- What is already content begins a document with the default handles.
  if bare && beginsBare token then
    readHandles
    expect [.blockNode, .documentEnd]
    pure ⟨.documentStart, token.start⟩
  else if token.value = .streamEnd then begin .streamEnd token.start []
  else
    readHandles
    let beginning ← peek
    if beginning.value = .documentStart then
      begin .documentStart token.start [.documentContent, .documentEnd]
    else throw (.of .documentStartMissing beginning.start)

/-- The token ends the content of a document. -/
def endsContent (token : Token) : Bool :=
  isDirective token || token.value = .documentStart || token.value = .documentEnd ||
    token.value = .streamEnd

/-- Reads the content of a document behind its beginning. -/
def readDocumentContent : ReadEvents Event := do
  let token ← peek
  if endsContent token then pure (.missing token.start) else readNode .block

/-- Reads the end of a document; the next one has to be announced. -/
def readDocumentEnd : ReadEvents Event := do
  let token ← peek
  if token.value = .documentEnd then take
  expect [.document false]
  pure ⟨.documentEnd, token.start⟩

/-! ## Block collections -/

/-- Reads an entry of a block sequence, or its end. -/
def readBlockEntry (start : Mark) : ReadEvents Event := do
  let token ← peek
  match token.value with
  | .blockEntry =>
    take
    expect [.blockEntry start]
    match (← peek).value with
    | .blockEntry => pure (.missing token.stop)
    | .blockEnd => pure (.missing token.stop)
    | _ => readNode .block
  | .blockEnd => begin .sequenceEnd token.start []
  | _ => fail .dashMissing token.start .blockCollection start

/-- Reads an entry of a sequence that is not indented more than the mapping around it, or its
end. -/
def readIndentlessEntry : ReadEvents Event := do
  let token ← peek
  match token.value with
  | .blockEntry =>
    take
    expect [.indentlessEntry]
    match (← peek).value with
    | .blockEntry => pure (.missing token.stop)
    | .key => pure (.missing token.stop)
    | .value => pure (.missing token.stop)
    | .blockEnd => pure (.missing token.stop)
    | _ => readNode .block
  | _ => pure ⟨.sequenceEnd, token.start⟩

/-- Reads what stands behind a key or value indicator in a block mapping. -/
def readBlockPart (indicator : Token) : ReadEvents Event := do
  take
  match (← peek).value with
  | .key => pure (.missing indicator.stop)
  | .value => pure (.missing indicator.stop)
  | .blockEnd => pure (.missing indicator.stop)
  | _ => readNode .blockOrIndentless

/-- Reads a key of a block mapping, or its end. -/
def readBlockKey (start : Mark) : ReadEvents Event := do
  let token ← peek
  match token.value with
  | .key =>
    expect [.blockValue start]
    readBlockPart token
  | .blockEnd => begin .mappingEnd token.start []
  | _ => fail .keyMissing token.start .blockMapping start

def readBlockValue (start : Mark) : ReadEvents Event := do
  let token ← peek
  expect [.blockKey start]
  match token.value with
  | .value => readBlockPart token
  | _ => pure (.missing token.start)

/-! ## Flow collections -/

/-- Reads the comma before an entry of a flow collection, unless it is the first entry, and
comes to the token behind it. -/
def readComma (first : Bool) (problem : Problem) (activity : Activity) (start : Mark) :
    ReadEvents Token := do
  let token ← peek
  if first then pure token
  else if token.value = .flowEntry then
    take
    peek
  else fail problem token.start activity start

/-- Reads an entry of a flow sequence, or its end. -/
def readFlowEntry (start : Mark) (first : Bool) : ReadEvents Event := do
  let token ← peek
  if token.value = .flowSequenceEnd then begin .sequenceEnd token.start []
  else
    let token ← readComma first .sequenceCommaMissing .flowSequence start
    match token.value with
    | .key => begin (.mappingStart .none) token.start [.flowPairKey start]
    | .flowSequenceEnd => begin .sequenceEnd token.start []
    | _ =>
      expect [.flowEntry start false]
      readNode .flow

def readFlowPairKey (start : Mark) : ReadEvents Event := do
  let token ← peek
  expect [.flowPairValue start]
  -- The token is taken with the empty key, also where it belongs to the sequence around.
  if token.value = .value || token.value = .flowEntry || token.value = .flowSequenceEnd then
    take
    pure (.missing token.stop)
  else readNode .flow

def readFlowPairValue (start : Mark) : ReadEvents Event := do
  let token ← peek
  expect [.flowPairEnd start]
  if token.value = .value then
    take
    let next ← peek
    if next.value = .flowEntry || next.value = .flowSequenceEnd then pure (.missing next.start)
    else readNode .flow
  else pure (.missing token.start)

def readFlowPairEnd (start : Mark) : ReadEvents Event := do
  let token ← peek
  expect [.flowEntry start false]
  pure ⟨.mappingEnd, token.start⟩

/-- Reads a key of a flow mapping, or its end. -/
def readFlowKey (start : Mark) (first : Bool) : ReadEvents Event := do
  let token ← peek
  if token.value = .flowMappingEnd then begin .mappingEnd token.start []
  else
    let token ← readComma first .mappingCommaMissing .flowMapping start
    match token.value with
    | .key =>
      take
      let next ← peek
      expect [.flowValue start]
      if next.value = .value || next.value = .flowEntry || next.value = .flowMappingEnd then
        pure (.missing next.start)
      else readNode .flow
    | .flowMappingEnd => begin .mappingEnd token.start []
    | _ =>
      expect [.flowMissingValue start]
      readNode .flow

def readFlowValue (start : Mark) : ReadEvents Event := do
  let token ← peek
  expect [.flowKey start false]
  if token.value = .value then
    take
    let next ← peek
    if next.value = .flowEntry || next.value = .flowMappingEnd then pure (.missing next.start)
    else readNode .flow
  else pure (.missing token.start)

/-- Comes to the value of a flow mapping that has only a key. -/
def readFlowMissingValue (start : Mark) : ReadEvents Event := do
  let token ← peek
  expect [.flowKey start false]
  pure (.missing token.start)

/-! ## Events -/

/-- Reads the event that fulfils an expectation. -/
def fulfil : Expectation → ReadEvents Event
  | .streamStart => do
    let token ← peek
    if token.value = .streamStart then begin .streamStart token.start [.document true]
    else throw (.of .streamStartMissing token.start)
  | .document bare => readDocumentStart bare
  | .documentContent => readDocumentContent
  | .documentEnd => readDocumentEnd
  | .blockNode => readNode .block
  | .blockEntry start => readBlockEntry start
  | .indentlessEntry => readIndentlessEntry
  | .blockKey start => readBlockKey start
  | .blockValue start => readBlockValue start
  | .flowEntry start first => readFlowEntry start first
  | .flowPairKey start => readFlowPairKey start
  | .flowPairValue start => readFlowPairValue start
  | .flowPairEnd start => readFlowPairEnd start
  | .flowKey start first => readFlowKey start first
  | .flowValue start => readFlowValue start
  | .flowMissingValue start => readFlowMissingValue start

/-- Reads the next event; behind the end of the stream there is only the end. -/
def next : ReadEvents Event := do
  let reader ← get
  match reader.expected with
  | [] => pure ⟨.streamEnd, reader.scanner.cursor.mark⟩
  | expectation :: others =>
    set { reader with expected := others }
    fulfil expectation

end EventReader

end RuleAtlas.Yaml
