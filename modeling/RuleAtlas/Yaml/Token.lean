import RuleAtlas.Yaml.Cursor

/-! # Tokens of YAML text

Tokens mark the beginnings and ends of streams, documents and collections, the entries, keys
and values in them, and carry directives, anchors, aliases, tags and scalars. -/

namespace RuleAtlas.Yaml

inductive ScalarStyle where
  | plain
  | singleQuoted
  | doubleQuoted
  | literal
  | folded
  deriving DecidableEq, Repr, Inhabited

inductive TokenValue where
  | streamStart
  | streamEnd
  | versionDirective (major minor : Nat)
  | tagDirective (handle leader : List Char)
  | documentStart
  | documentEnd
  | blockSequenceStart
  | blockMappingStart
  | blockEnd
  | flowSequenceStart
  | flowSequenceEnd
  | flowMappingStart
  | flowMappingEnd
  | blockEntry
  | flowEntry
  | key
  | value
  | alias (name : List Char)
  | anchor (name : List Char)
  | tag (handle suffix : List Char)
  | scalar (text : List Char) (style : ScalarStyle)
  deriving DecidableEq, Repr, Inhabited

structure Token where
  value : TokenValue
  start : Mark
  stop : Mark
  deriving DecidableEq, Repr, Inhabited

/-! ## Scans -/

/-- A scan reads from a cursor on: it moves the cursor and comes to a value, or finds an error
of the text. -/
abbrev Scan := StateT Cursor (Except TextError)

namespace Scan

def mark : Scan Mark := do pure (← get).mark

def isAt (c : Char) : Scan Bool := do pure ((← get).isAt c)

/-- Moves behind characters of the same line. -/
def skip (count : Nat) : Scan Unit := modify (·.advance count)

def takeRun (inClass : Char → Bool) : Scan (List Char) := do
  let read := (← get).run inClass
  skip read.length
  pure read

def skipBlanks : Scan Unit := modify Cursor.skipBlanks

/-- Moves to the end of the line if only blanks and a comment are left of it. -/
def skipLineTail : Scan Unit := modify fun cursor => cursor.skipBlanks.skipComment

/-- An error at the cursor, found in something that began at a mark. -/
def fail {α : Type} (problem : Problem) (activity : Activity) (start : Mark) : Scan α := do
  throw (.within problem (← mark) activity start)

/-- The token of a value that is read from the cursor on. -/
def token (value : Scan TokenValue) : Scan Token := do
  let start ← mark
  let found ← value
  pure ⟨found, start, ← mark⟩

end Scan

end RuleAtlas.Yaml
