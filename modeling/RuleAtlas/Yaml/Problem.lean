/-! # Problems in YAML text

A mark is a place in a text.  A problem of the text is reported at a mark, together with what
was being read, and where that began. -/

namespace RuleAtlas.Yaml

/-- A place in a text: characters before it, lines before its line, characters before it in
its line. -/
structure Mark where
  index : Nat
  line : Nat
  column : Nat
  deriving DecidableEq, Repr, Inhabited

namespace Mark

def start : Mark := ⟨0, 0, 0⟩

/-- The mark is at the beginning of the first line. -/
def isStart (mark : Mark) : Bool := mark.line == 0 && mark.column == 0

/-- The marks are in the same line and column. -/
def samePlace (a b : Mark) : Bool := a.line == b.line && a.column == b.column

/-- The mark with lines and columns counted from one. -/
def render (mark : Mark) : String :=
  "line " ++ toString (mark.line + 1) ++ " column " ++ toString (mark.column + 1)

/-- The place behind a message; the beginning of the text is not mentioned. -/
def suffix (mark : Mark) : String := if mark.isStart then "" else " at " ++ mark.render

end Mark

/-- What is wrong with a text. -/
inductive Problem where
  | controlCharacter
  | strangeCharacter
  | keyWithoutColon
  | entryOutOfPlace
  | keyOutOfPlace
  | valueOutOfPlace
  | directiveNameMissing
  | directiveNameCharacter
  | unknownDirective
  | directiveTail
  | versionDot
  | versionTooLong
  | versionMissing
  | directiveBlank
  | directiveLineEnd
  | anchorCharacter
  | tagBracket
  | tagLineEnd
  | tagMark
  | tagMissing
  | tagEscape
  | tagLeadingOctet
  | tagTrailingOctet
  | zeroIndentation
  | blockScalarTail
  | blockScalarTab
  | quotedIndicator
  | quotedEnd
  | unknownEscape
  | escapeDigit
  | escapeCharacter
  | plainColon
  | plainTab
  | streamStartMissing
  | documentStartMissing
  | duplicateVersion
  | incompatibleVersion
  | duplicateTagDirective
  | undefinedTagHandle
  | nodeMissing
  | dashMissing
  | keyMissing
  | sequenceCommaMissing
  | mappingCommaMissing
  deriving DecidableEq, Repr, Inhabited

def Problem.message : Problem → String
  | .controlCharacter => "control characters are not allowed"
  | .strangeCharacter => "found character that cannot start any token"
  | .keyWithoutColon => "could not find expected ':'"
  | .entryOutOfPlace => "block sequence entries are not allowed in this context"
  | .keyOutOfPlace => "mapping keys are not allowed in this context"
  | .valueOutOfPlace => "mapping values are not allowed in this context"
  | .directiveNameMissing => "could not find expected directive name"
  | .directiveNameCharacter => "found unexpected non-alphabetical character"
  | .unknownDirective => "found unknown directive name"
  | .directiveTail => "did not find expected comment or line break"
  | .versionDot => "did not find expected digit or '.' character"
  | .versionTooLong => "found extremely long version number"
  | .versionMissing => "did not find expected version number"
  | .directiveBlank => "did not find expected whitespace"
  | .directiveLineEnd => "did not find expected whitespace or line break"
  | .anchorCharacter => "did not find expected alphabetic or numeric character"
  | .tagBracket => "did not find the expected '>'"
  | .tagLineEnd => "did not find expected whitespace or line break"
  | .tagMark => "did not find expected '!'"
  | .tagMissing => "did not find expected tag URI"
  | .tagEscape => "did not find URI escaped octet"
  | .tagLeadingOctet => "found an incorrect leading UTF-8 octet"
  | .tagTrailingOctet => "found an incorrect trailing UTF-8 octet"
  | .zeroIndentation => "found an indentation indicator equal to 0"
  | .blockScalarTail => "did not find expected comment or line break"
  | .blockScalarTab => "found a tab character where an indentation space is expected"
  | .quotedIndicator => "found unexpected document indicator"
  | .quotedEnd => "found unexpected end of stream"
  | .unknownEscape => "found unknown escape character"
  | .escapeDigit => "did not find expected hexdecimal number"
  | .escapeCharacter => "found invalid Unicode character escape code"
  | .plainColon => "found unexpected ':'"
  | .plainTab => "found a tab character that violates indentation"
  | .streamStartMissing => "did not find expected <stream-start>"
  | .documentStartMissing => "did not find expected <document start>"
  | .duplicateVersion => "found duplicate %YAML directive"
  | .incompatibleVersion => "found incompatible YAML document"
  | .duplicateTagDirective => "found duplicate %TAG directive"
  | .undefinedTagHandle => "found undefined tag handle"
  | .nodeMissing => "did not find expected node content"
  | .dashMissing => "did not find expected '-' indicator"
  | .keyMissing => "did not find expected key"
  | .sequenceCommaMissing => "did not find expected ',' or ']'"
  | .mappingCommaMissing => "did not find expected ',' or '\x7d'"

/-- What was being read when a problem was found. -/
inductive Activity where
  | nextToken
  | simpleKey
  | directive
  | versionDirective
  | tagDirective
  | tagDirectiveHandle
  | tagDirectivePrefix
  | tagHandle
  | tag
  | tagAddress
  | anchor
  | alias
  | blockScalar
  | quotedScalar
  | quotedEscape
  | plainScalar
  | node
  | blockNode
  | flowNode
  | blockCollection
  | blockMapping
  | flowSequence
  | flowMapping
  deriving DecidableEq, Repr, Inhabited

def Activity.text : Activity → String
  | .nextToken => "while scanning for the next token"
  | .simpleKey => "while scanning a simple key"
  | .directive => "while scanning a directive"
  | .versionDirective => "while scanning a %YAML directive"
  | .tagDirective => "while scanning a %TAG directive"
  | .tagDirectiveHandle => "while scanning a tag directive"
  | .tagDirectivePrefix => "while parsing a %TAG directive"
  | .tagHandle => "while parsing a tag directive"
  | .tag => "while scanning a tag"
  | .tagAddress => "while parsing a tag"
  | .anchor => "while scanning an anchor"
  | .alias => "while scanning an alias"
  | .blockScalar => "while scanning a block scalar"
  | .quotedScalar => "while scanning a quoted scalar"
  | .quotedEscape => "while parsing a quoted scalar"
  | .plainScalar => "while scanning a plain scalar"
  | .node => "while parsing a node"
  | .blockNode => "while parsing a block node"
  | .flowNode => "while parsing a flow node"
  | .blockCollection => "while parsing a block collection"
  | .blockMapping => "while parsing a block mapping"
  | .flowSequence => "while parsing a flow sequence"
  | .flowMapping => "while parsing a flow mapping"

/-- A problem with its place, and with what was being read and where that began.  A problem
that was found before any text was read has a byte offset instead of a place. -/
structure TextError where
  problem : Problem
  mark : Mark
  offset : Nat
  activity : Option (Activity × Mark)
  deriving DecidableEq, Repr, Inhabited

namespace TextError

def of (problem : Problem) (mark : Mark) : TextError := ⟨problem, mark, 0, none⟩

/-- A problem at a mark, found in something that began at another mark. -/
def within (problem : Problem) (mark : Mark) (activity : Activity) (start : Mark) : TextError :=
  ⟨problem, mark, 0, some (activity, start)⟩

/-- Where the problem is. -/
def place (error : TextError) : String :=
  if !error.mark.isStart then error.mark.suffix
  else if error.offset ≠ 0 then " at position " ++ toString error.offset
  else ""

/-- What was being read; its place is mentioned where it differs from that of the problem. -/
def circumstance (error : TextError) : String :=
  match error.activity with
  | none => ""
  | some (activity, start) =>
    ", " ++ activity.text ++ (if start.samePlace error.mark then "" else start.suffix)

def render (error : TextError) : String :=
  error.problem.message ++ error.place ++ error.circumstance

end TextError

end RuleAtlas.Yaml
