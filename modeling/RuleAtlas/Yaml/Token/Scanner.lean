import RuleAtlas.Yaml.Token.BlockScalar

/-! # Scanning tokens

The scanner reads one token after the other, only as far as asked.  Indentation opens and
closes block collections.  What may turn out to be the key of a mapping is remembered until a
colon shows that it is one; then the tokens for a key and for the beginning of a mapping are
put before it, so a token is handed out only when nothing can come before it any more. -/

namespace RuleAtlas.Yaml

open Scan

/-- What may turn out to be a key: the number of its first token, its place, and whether it
has to be one. -/
structure SimpleKey where
  tokenNumber : Nat
  mark : Mark
  required : Bool
  deriving Repr, Inhabited

/-- The state of a scanner.  `queue` holds the tokens that were read and not taken, `taken`
counts those that were.  The levels of flow collections each have a place for a key, with the
innermost first; the last place is that of the block level. -/
structure Scanner where
  cursor : Cursor
  queue : List Token
  taken : Nat
  started : Bool
  indent : Int
  outerIndents : List Int
  blockKey : Option SimpleKey
  flowKeys : List (Option SimpleKey)
  keyAllowed : Bool
  deriving Inhabited

namespace Scanner

def start (text : List Char) : Scanner where
  cursor := .start text
  queue := []
  taken := 0
  started := false
  indent := -1
  outerIndents := []
  blockKey := none
  flowKeys := []
  keyAllowed := true

/-- The scanner is inside a flow collection. -/
def inFlow (scanner : Scanner) : Bool := !scanner.flowKeys.isEmpty

def column (scanner : Scanner) : Nat := scanner.cursor.mark.column

/-- The scanner with a token at the end of the queue. -/
def enqueue (scanner : Scanner) (token : Token) : Scanner :=
  { scanner with queue := scanner.queue ++ [token] }

/-- The scanner with a token put before the one of the given number. -/
def insertBefore (scanner : Scanner) (number : Nat) (token : Token) : Scanner :=
  -- Tokens are counted from the beginning of the text, the queue from the first one left.
  let place := number - scanner.taken
  { scanner with queue := scanner.queue.take place ++ token :: scanner.queue.drop place }

/-! ## Indentation -/

/-- Opens a block collection, unless there is one of that indentation. -/
def openBlock (scanner : Scanner) (column : Nat) (before : Option Nat) (opener : TokenValue)
    (mark : Mark) : Scanner :=
  if scanner.inFlow || scanner.indent ≥ column then scanner
  else
    let token : Token := ⟨opener, mark, mark⟩
    let opened :=
      match before with
      | none => scanner.enqueue token
      | some number => scanner.insertBefore number token
    { opened with indent := column, outerIndents := scanner.indent :: scanner.outerIndents }

/-- The tokens for the ends of the block collections that are indented more than a column, and
the indentations that are left. -/
def closedBlocks (mark : Mark) (column : Int) : Int → List Int → List Token × Int × List Int
  | indent, [] => ([], indent, [])
  | indent, outer :: outers =>
    if column < indent then
      let (tokens, rest) := closedBlocks mark column outer outers
      (⟨.blockEnd, mark, mark⟩ :: tokens, rest)
    else ([], indent, outer :: outers)

/-- Closes the block collections that are indented more than a column. -/
def closeBlocks (scanner : Scanner) (column : Int) : Scanner :=
  if scanner.inFlow then scanner
  else
    let (tokens, indent, outers) :=
      closedBlocks scanner.cursor.mark column scanner.indent scanner.outerIndents
    { scanner with
      queue := scanner.queue ++ tokens
      indent := indent
      outerIndents := outers }

/-! ## Keys -/

/-- The place for a key at the current level. -/
def key? (scanner : Scanner) : Option SimpleKey := scanner.flowKeys.headD scanner.blockKey

/-- The scanner with another key at the current level. -/
def withKey (scanner : Scanner) (key : Option SimpleKey) : Scanner :=
  match scanner.flowKeys with
  | [] => { scanner with blockKey := key }
  | _ :: outer => { scanner with flowKeys := key :: outer }

/-- The error that something which has to be a key is none. -/
def missingColon (scanner : Scanner) (key : SimpleKey) : TextError :=
  .within .keyWithoutColon scanner.cursor.mark .simpleKey key.mark

/-- Gives up what may have been a key at the current level. -/
def dropKey (scanner : Scanner) : Except TextError Scanner :=
  match scanner.key? with
  | none => .ok scanner
  | some key =>
    if key.required then .error (scanner.missingColon key) else .ok (scanner.withKey none)

/-- Remembers that what follows may turn out to be a key. -/
def saveKey (scanner : Scanner) : Except TextError Scanner := do
  if scanner.keyAllowed then
    let dropped ← scanner.dropKey
    let key : SimpleKey :=
      { tokenNumber := scanner.taken + scanner.queue.length
        mark := scanner.cursor.mark
        required := !scanner.inFlow && scanner.indent == scanner.column }
    pure (dropped.withKey (some key))
  else pure scanner

/-- A key is on one line and not longer than 1024 characters. -/
def isStale (scanner : Scanner) (key : SimpleKey) : Bool :=
  key.mark.line < scanner.cursor.mark.line || key.mark.index + 1024 < scanner.cursor.mark.index

/-- The key, unless it is stale. -/
def fresh (scanner : Scanner) (key : Option SimpleKey) : Option SimpleKey :=
  key.filter (!scanner.isStale ·)

/-- Gives up the keys that are stale. -/
def dropStaleKeys (scanner : Scanner) : Except TextError Scanner :=
  let keys := scanner.blockKey :: scanner.flowKeys
  match keys.reduceOption.find? fun key => key.required && scanner.isStale key with
  | some key => .error (scanner.missingColon key)
  | none =>
    .ok { scanner with
      blockKey := scanner.fresh scanner.blockKey
      flowKeys := scanner.flowKeys.map scanner.fresh }

/-- What may turn out to be a key begins with the first token of the queue. -/
def headMayBeKey (scanner : Scanner) : Bool :=
  (scanner.blockKey :: scanner.flowKeys).any fun key =>
    key.any (·.tokenNumber == scanner.taken)

/-! ## Reading tokens -/

/-- The scanner with the token that a scan comes to, which goes on behind it. -/
def read (scanner : Scanner) (scan : Scan Token) : Except TextError Scanner := do
  let (token, cursor) ← scan.run scanner.cursor
  pure { scanner.enqueue token with cursor := cursor }

/-- The scanner with a token for the given number of characters. -/
def readIndicator (scanner : Scanner) (meaning : TokenValue) (count : Nat) :
    Except TextError Scanner :=
  scanner.read (Scan.token do
    skip count
    pure meaning)

/-- Moves over blanks, comments and line breaks, at most as many lines as said.  Tabs count as
blanks where no key may begin.  In block collections a key may begin behind a line break. -/
def skipGap : Nat → Scanner → Scanner
  | 0, scanner => scanner
  | count + 1, scanner =>
    let cursor := scanner.cursor
    -- A mark of the byte order may stand at the very beginning.
    let cursor :=
      if cursor.mark.index = 0 && cursor.isAt '\ufeff' then cursor.advance 1 else cursor
    let tabs := scanner.inFlow || !scanner.keyAllowed
    let cursor := (cursor.skipRun fun c => c == ' ' || (tabs && c == '\t')).skipComment
    if cursor.isAtAny isBreak then
      skipGap count
        { scanner with
          cursor := cursor.skipBreak
          keyAllowed := scanner.keyAllowed || !scanner.inFlow }
    else { scanner with cursor := cursor }

def readEnd (scanner : Scanner) : Except TextError Scanner := do
  let mark := scanner.cursor.mark
  -- A last line without a line break ends where the next line would begin.
  let mark := if mark.column = 0 then mark else ⟨mark.index, mark.line + 1, 0⟩
  let ended := { scanner with cursor := ⟨[], 0, mark⟩ }
  let dropped ← (ended.closeBlocks (-1)).dropKey
  pure ({ dropped with keyAllowed := false }.enqueue ⟨.streamEnd, mark, mark⟩)

/-- Reads what closes all block collections: a directive, or the beginning or end of a
document. -/
def readDocumentLine (scanner : Scanner) (scan : Scan Token) : Except TextError Scanner := do
  let dropped ← (scanner.closeBlocks (-1)).dropKey
  { dropped with keyAllowed := false }.read scan

/-- Reads the beginning of a flow collection, which may be a key. -/
def readFlowStart (scanner : Scanner) (opener : TokenValue) : Except TextError Scanner := do
  let saved ← scanner.saveKey
  { saved with flowKeys := none :: saved.flowKeys, keyAllowed := true }.readIndicator opener 1

def readFlowEnd (scanner : Scanner) (closer : TokenValue) : Except TextError Scanner := do
  let dropped ← scanner.dropKey
  { dropped with flowKeys := dropped.flowKeys.drop 1, keyAllowed := false }.readIndicator closer 1

def readFlowEntry (scanner : Scanner) : Except TextError Scanner := do
  let dropped ← scanner.dropKey
  { dropped with keyAllowed := true }.readIndicator .flowEntry 1

/-- Opens a block collection at the cursor, where one may begin. -/
def openHere (scanner : Scanner) (opener : TokenValue) (problem : Problem) :
    Except TextError Scanner :=
  if scanner.inFlow then .ok scanner
  else if scanner.keyAllowed then
    .ok (scanner.openBlock scanner.column none opener scanner.cursor.mark)
  else .error (.of problem scanner.cursor.mark)

/-- Reads the dash of a block sequence. -/
def readBlockEntry (scanner : Scanner) : Except TextError Scanner := do
  let opened ← scanner.openHere .blockSequenceStart .entryOutOfPlace
  let dropped ← opened.dropKey
  { dropped with keyAllowed := true }.readIndicator .blockEntry 1

/-- Reads the question mark before a key. -/
def readKey (scanner : Scanner) : Except TextError Scanner := do
  let opened ← scanner.openHere .blockMappingStart .keyOutOfPlace
  let dropped ← opened.dropKey
  { dropped with keyAllowed := !dropped.inFlow }.readIndicator .key 1

/-- Reads the colon before a value.  What may have been a key is one now. -/
def readValue (scanner : Scanner) : Except TextError Scanner := do
  match scanner.key? with
  | some key =>
    let keyed := scanner.insertBefore key.tokenNumber ⟨.key, key.mark, key.mark⟩
    let opened :=
      keyed.openBlock key.mark.column (some key.tokenNumber) .blockMappingStart key.mark
    { opened.withKey none with keyAllowed := false }.readIndicator .value 1
  | none =>
    let opened ← scanner.openHere .blockMappingStart .valueOutOfPlace
    { opened with keyAllowed := !opened.inFlow }.readIndicator .value 1

/-- Reads what may begin a key and forbids another one directly behind it. -/
def readNodePart (scanner : Scanner) (scan : Scan TokenValue) : Except TextError Scanner := do
  let saved ← scanner.saveKey
  { saved with keyAllowed := false }.read (Scan.token scan)

/-- Reads a block scalar, which is no key. -/
def readBlock (scanner : Scanner) (folded : Bool) : Except TextError Scanner := do
  let dropped ← scanner.dropKey
  { dropped with keyAllowed := true }.read (Scan.token (readBlockScalar folded dropped.indent))

/-- Reads a plain scalar; behind a line break a key may follow it. -/
def readPlain (scanner : Scanner) : Except TextError Scanner := do
  let saved ← scanner.saveKey
  let ((found, broken), cursor) ← (readPlainScalar saved.inFlow saved.indent).run saved.cursor
  let token : Token := ⟨found, saved.cursor.mark, cursor.mark⟩
  pure { saved.enqueue token with cursor := cursor, keyAllowed := broken }

/-- A plain scalar may begin with the character. -/
def beginsPlain (inFlow : Bool) (c : Char) (next? : Option Char) : Bool :=
  let endsWord := next?.all fun next => isBlank next || isBreak next
  if c = '-' then !next?.any isBlank
  else if c = '?' || c = ':' then !inFlow && !endsWord
  else
    !(isBlank c || isBreak c || c ∈ [',', '[', ']', '\x7b', '\x7d', '#', '&', '*', '!', '|', '>',
      '\'', '\x22', '%', '@', '\x60'])

/-- Reads the token that begins with the character at the cursor. -/
def readAt (scanner : Scanner) (c : Char) (rest : List Char) : Except TextError Scanner :=
  let cursor := scanner.cursor
  let flowOrBlank := scanner.inFlow || cursor.endsWordAfter 1
  if c = '%' && scanner.column = 0 then scanner.readDocumentLine readDirective
  else if cursor.isAtDocumentLine then
    scanner.readDocumentLine (Scan.token do
      skip 3
      pure (if c = '-' then .documentStart else .documentEnd))
  else if c = '[' then scanner.readFlowStart .flowSequenceStart
  else if c = '\x7b' then scanner.readFlowStart .flowMappingStart
  else if c = ']' then scanner.readFlowEnd .flowSequenceEnd
  else if c = '\x7d' then scanner.readFlowEnd .flowMappingEnd
  else if c = ',' then scanner.readFlowEntry
  else if c = '-' && cursor.endsWordAfter 1 then scanner.readBlockEntry
  else if c = '?' && flowOrBlank then scanner.readKey
  else if c = ':' && flowOrBlank then scanner.readValue
  else if c = '*' then scanner.readNodePart (.alias <$> readAnchorName .alias)
  else if c = '&' then scanner.readNodePart (.anchor <$> readAnchorName .anchor)
  else if c = '!' then scanner.readNodePart (readTag scanner.inFlow)
  else if c = '|' && !scanner.inFlow then scanner.readBlock false
  else if c = '>' && !scanner.inFlow then scanner.readBlock true
  else if c = '\'' || c = '\x22' then scanner.readNodePart (readQuotedScalar c)
  else if beginsPlain scanner.inFlow c rest.head? then scanner.readPlain
  else .error (.within .strangeCharacter cursor.mark .nextToken cursor.mark)

/-- Reads at least one token more. -/
def readNext (scanner : Scanner) : Except TextError Scanner := do
  if !scanner.started then
    let mark := scanner.cursor.mark
    pure ({ scanner with started := true }.enqueue ⟨.streamStart, mark, mark⟩)
  else
    let moved ← (scanner.skipGap (scanner.cursor.left + 1)).dropStaleKeys
    -- The column of the next token says which block collections are over.
    let closed := moved.closeBlocks moved.column
    match closed.cursor.rest with
    | [] => closed.readEnd
    | c :: rest => closed.readAt c rest

/-- Reads tokens until the first one of the queue is settled, at most as many as said. -/
def settle : Nat → Scanner → Except TextError Scanner
  | 0, scanner => .ok scanner
  | count + 1, scanner => do
    if scanner.queue.isEmpty then settle count (← scanner.readNext)
    else
      let checked ← scanner.dropStaleKeys
      -- A token that may begin a key has to wait: tokens may still be put before it.
      if checked.headMayBeKey then settle count (← checked.readNext) else pure checked

/-- The next token, and the scanner that will hand it out.  Every token but the first and the
last takes a character, so the number of characters that are left bounds the tokens. -/
def peek (scanner : Scanner) : Except TextError (Token × Scanner) := do
  let settled ← scanner.settle (scanner.cursor.left + 3)
  match settled.queue with
  | [] => pure (⟨.streamEnd, settled.cursor.mark, settled.cursor.mark⟩, settled)
  | token :: _ => pure (token, settled)

/-- The scanner behind its next token. -/
def take (scanner : Scanner) : Scanner :=
  { scanner with queue := scanner.queue.drop 1, taken := scanner.taken + 1 }

end Scanner

end RuleAtlas.Yaml
