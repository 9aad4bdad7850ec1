import RuleAtlas.Yaml.Token.Tag

/-! # Plain and quoted scalars

The words of a plain or quoted scalar are joined by what stands between them: the blanks of
one line as they are, or a line break, which becomes a space unless more line breaks follow,
and these stay.  A plain scalar ends where its line gives way to something else; a quoted one
ends at its quote and may hold escapes when the quote is double. -/

namespace RuleAtlas.Yaml

open Scan

/-! ## Gaps between words -/

/-- What stands between two words: blanks of one line, or a line break and further ones. -/
structure Gap where
  blanks : List Char := []
  firstBreak : List Char := []
  moreBreaks : List Char := []
  broken : Bool := false
  deriving Repr, Inhabited

namespace Gap

def text (gap : Gap) : List Char :=
  if !gap.broken then gap.blanks
  else if gap.firstBreak = ['\n'] then
    if gap.moreBreaks.isEmpty then [' '] else gap.moreBreaks
  else gap.firstBreak ++ gap.moreBreaks

/-- The gap with a blank added; blanks behind a line break do not count. -/
def addBlank (gap : Gap) (c : Char) : Gap :=
  if gap.broken then gap else { gap with blanks := gap.blanks ++ [c] }

/-- The gap with a line break added; blanks before it do not count. -/
def addBreak (gap : Gap) (text : List Char) : Gap :=
  if gap.broken then { gap with moreBreaks := gap.moreBreaks ++ text }
  else { gap with blanks := [], firstBreak := text, broken := true }

end Gap

/-- Reads a gap, of which at most as many characters as said are left.  A tab is refused
before the given column of a further line. -/
def readGap (start : Mark) (leastColumn : Int) : Nat → Gap → Scan Gap
  | 0, gap => pure gap
  | count + 1, gap => do
    let here ← get
    match here.head? with
    | none => pure gap
    | some c =>
      if isBlank c then
        if gap.broken && here.mark.column < leastColumn && c = '\t' then
          Scan.fail .plainTab .plainScalar start
        else
          skip 1
          readGap start leastColumn count (gap.addBlank c)
      else if isBreak c then
        modify Cursor.skipBreak
        readGap start leastColumn count (gap.addBreak here.breakText)
      else pure gap

/-! ## Plain scalars -/

/-- The character separates or encloses the parts of flow collections. -/
def isFlowIndicator (c : Char) : Bool := c ∈ [',', '[', ']', '\x7b', '\x7d']

/-- The character may not stand behind a colon in a flow collection. -/
def isBadBehindColon (c : Char) : Bool := isFlowIndicator c || c = '?'

/-- A word of a plain scalar, and whether it ends at a colon that may not stand there. -/
structure PlainWord where
  text : List Char
  badColon : Bool
  deriving Repr, Inhabited

/-- The word of a plain scalar at the head of a text. -/
def plainWord (inFlow : Bool) : List Char → PlainWord
  | [] => ⟨[], false⟩
  | c :: rest =>
    if isBlank c || isBreak c then ⟨[], false⟩
    else if inFlow && c = ':' && rest.head?.any isBadBehindColon then ⟨[], true⟩
    else if c = ':' && rest.head?.all (fun next => isBlank next || isBreak next) then ⟨[], false⟩
    else if inFlow && isFlowIndicator c then ⟨[], false⟩
    else
      let word := plainWord inFlow rest
      ⟨c :: word.text, word.badColon⟩

/-- Where a plain scalar stands. -/
structure PlainSite where
  start : Mark
  leastColumn : Int
  inFlow : Bool

/-- The text of a plain scalar, and whether a line break was read behind it. -/
structure PlainText where
  text : List Char
  broken : Bool

/-- Reads a plain scalar of which the gap before the next word was read.  Every word takes a
character, so the number of characters that are left bounds the words. -/
def readPlainWords (site : PlainSite) : Nat → Gap → Scan PlainText
  | 0, gap => pure ⟨[], gap.broken⟩
  | count + 1, gap => do
    let here ← get
    if here.isAtDocumentLine || here.isAt '#' then pure ⟨[], gap.broken⟩
    else
      let word := plainWord site.inFlow here.rest
      skip word.text.length
      if word.badColon then Scan.fail .plainColon .plainScalar site.start
      else if word.text.isEmpty then pure ⟨[], gap.broken⟩
      else
        let behind ← get
        let next ← readGap site.start site.leastColumn count {}
        let after ← get
        -- Without a gap the word ended at an indicator, and a line further out belongs to others.
        let unmoved := behind.mark.index == after.mark.index
        let outdented := !site.inFlow && after.mark.column < site.leastColumn
        let tail ←
          if unmoved || outdented then pure ⟨[], next.broken⟩ else readPlainWords site count next
        pure ⟨gap.text ++ word.text ++ tail.text, tail.broken⟩

/-- Reads a plain scalar; says also whether a line break was read behind it. -/
def readPlainScalar (inFlow : Bool) (indent : Int) : Scan (TokenValue × Bool) := do
  let here ← get
  let read ← readPlainWords ⟨here.mark, indent + 1, inFlow⟩ here.left {}
  pure (.scalar read.text .plain, read.broken)

/-! ## Quoted scalars -/

/-- The text that a single letter behind a backslash stands for. -/
def escapeLetter? (c : Char) : Option Char :=
  match c with
  | '0' => some '\x00'
  | 'a' => some '\x07'
  | 'b' => some '\x08'
  | 't' => some '\t'
  | '\t' => some '\t'
  | 'n' => some '\n'
  | 'v' => some '\x0b'
  | 'f' => some '\x0c'
  | 'r' => some '\r'
  | 'e' => some '\x1b'
  | ' ' => some ' '
  | '\x22' => some '\x22'
  | '/' => some '/'
  | '\\' => some '\\'
  | 'N' => some '\u0085'
  | '_' => some '\u00a0'
  | 'L' => some '\u2028'
  | 'P' => some '\u2029'
  | _ => none

/-- The number of hexadecimal digits behind a letter that announces a code point. -/
def escapeDigits? (c : Char) : Option Nat :=
  match c with
  | 'x' => some 2
  | 'u' => some 4
  | 'U' => some 8
  | _ => none

/-- The value of as many hexadecimal digits as said, in front of which `value` was read. -/
def codePoint? : Nat → Nat → List Char → Option Nat
  | 0, value, _ => some value
  | _ + 1, _, [] => none
  | count + 1, value, c :: rest =>
    match hexDigit? c with
    | none => none
    | some digit => codePoint? count (value * 16 + digit) rest

/-- Reads a code point of as many digits as said. -/
def readCodePoint (start : Mark) (count : Nat) : Scan Char := do
  match codePoint? count 0 (← get).rest with
  | none => Scan.fail .escapeDigit .quotedEscape start
  | some code =>
    if code.isValidChar then
      skip count
      pure (Char.ofNat code)
    else Scan.fail .escapeCharacter .quotedEscape start

/-- Reads the escape that begins with a backslash at the cursor. -/
def readEscape (start : Mark) : Scan Char := do
  match (← get).rest.drop 1 with
  | [] => Scan.fail .unknownEscape .quotedEscape start
  | c :: _ =>
    match escapeLetter? c, escapeDigits? c with
    | some found, _ =>
      skip 2
      pure found
    | none, some count =>
      skip 2
      readCodePoint start count
    | none, none => Scan.fail .unknownEscape .quotedEscape start

structure QuotedSite where
  start : Mark
  quote : Char

/-- The quote allows escapes. -/
def QuotedSite.escapes (site : QuotedSite) : Bool := site.quote == '\x22'

/-- A word of a quoted scalar, and whether it ends with a line break behind a backslash. -/
structure QuotedWord where
  text : List Char
  joinsLines : Bool

/-- The word with a character in front. -/
def QuotedWord.cons (c : Char) (word : QuotedWord) : QuotedWord :=
  { word with text := c :: word.text }

/-- Reads a word of a quoted scalar, at most as many characters as said. -/
def readQuotedWord (site : QuotedSite) : Nat → Scan QuotedWord
  | 0 => pure ⟨[], false⟩
  | count + 1 => do
    match (← get).rest with
    | [] => pure ⟨[], false⟩
    | c :: rest =>
      if isBlank c || isBreak c then pure ⟨[], false⟩
      else if c = site.quote then
        if !site.escapes && rest.head? == some site.quote then
          skip 2
          .cons c <$> readQuotedWord site count
        else pure ⟨[], false⟩
      else if site.escapes && c = '\\' then
        if rest.head?.any isBreak then
          skip 1
          modify Cursor.skipBreak
          pure ⟨[], true⟩
        else
          let found ← readEscape site.start
          .cons found <$> readQuotedWord site count
      else
        skip 1
        .cons c <$> readQuotedWord site count

/-- Reads the words of a quoted scalar up to the closing quote.  Every word but the last one
takes a character, so the number of characters that are left bounds the words. -/
def readQuotedWords (site : QuotedSite) : Nat → Scan (List Char)
  | 0 => pure []
  | count + 1 => do
    let here ← get
    if here.isAtDocumentLine then Scan.fail .quotedIndicator .quotedScalar site.start
    else if here.rest.isEmpty then Scan.fail .quotedEnd .quotedScalar site.start
    else
      let word ← readQuotedWord site count
      if ← isAt site.quote then pure word.text
      else
        let gap ← readGap site.start 0 count { broken := word.joinsLines }
        let others ← readQuotedWords site count
        pure (word.text ++ gap.text ++ others)

def readQuotedScalar (quote : Char) : Scan TokenValue := do
  let here ← get
  skip 1
  let text ← readQuotedWords ⟨here.mark, quote⟩ (here.left + 1)
  skip 1
  pure (.scalar text (if quote = '\x22' then .doubleQuoted else .singleQuoted))

end RuleAtlas.Yaml
