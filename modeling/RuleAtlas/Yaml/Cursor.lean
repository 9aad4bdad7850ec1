import RuleAtlas.Yaml.Problem

/-! # Cursors

A cursor stands in a text: it holds the text that is left, the number of its characters, and
the mark of its place. -/

namespace RuleAtlas.Yaml

def isBreak (c : Char) : Bool :=
  c == '\r' || c == '\n' || c == '\u0085' || c == '\u2028' || c == '\u2029'

def isBlank (c : Char) : Bool := c == ' ' || c == '\t'

/-- The character may stand in a name: a letter, a digit, a dash or an underscore. -/
def isNameCharacter (c : Char) : Bool := c.isAlphanum || c == '_' || c == '-'

/-- A place in a text and the text from there on. -/
structure Cursor where
  rest : List Char
  left : Nat
  mark : Mark
  deriving Repr, Inhabited

namespace Cursor

def start (text : List Char) : Cursor := ⟨text, text.length, .start⟩

def head? (cursor : Cursor) : Option Char := cursor.rest.head?

def isAt (cursor : Cursor) (c : Char) : Bool := cursor.head? == some c

def isAtAny (cursor : Cursor) (inClass : Char → Bool) : Bool := cursor.head?.any inClass

/-- The text goes on with a blank, a line break or its end, behind as many characters as
said. -/
def endsWordAfter (cursor : Cursor) (count : Nat) : Bool :=
  (cursor.rest.drop count).head?.all fun c => isBlank c || isBreak c

/-- The text goes on with a line break or its end. -/
def isAtLineEnd (cursor : Cursor) : Bool := cursor.head?.all isBreak

/-- The cursor behind characters of the same line. -/
def advance (cursor : Cursor) (count : Nat) : Cursor :=
  ⟨cursor.rest.drop count, cursor.left - count,
   ⟨cursor.mark.index + count, cursor.mark.line, cursor.mark.column + count⟩⟩

/-- The characters of a class at the cursor. -/
def run (cursor : Cursor) (inClass : Char → Bool) : List Char := cursor.rest.takeWhile inClass

/-- The cursor behind the characters of a class. -/
def skipRun (cursor : Cursor) (inClass : Char → Bool) : Cursor :=
  cursor.advance (cursor.run inClass).length

def skipBlanks (cursor : Cursor) : Cursor := cursor.skipRun isBlank

/-- The cursor behind a comment, if there is one. -/
def skipComment (cursor : Cursor) : Cursor :=
  if cursor.isAt '#' then cursor.skipRun (!isBreak ·) else cursor

/-- The number of characters of the line break at the cursor. -/
def breakLength (cursor : Cursor) : Nat :=
  match cursor.rest with
  | '\r' :: '\n' :: _ => 2
  | c :: _ => if isBreak c then 1 else 0
  | [] => 0

def skipBreak (cursor : Cursor) : Cursor :=
  match cursor.breakLength with
  | 0 => cursor
  | count =>
    ⟨cursor.rest.drop count, cursor.left - count,
     ⟨cursor.mark.index + count, cursor.mark.line + 1, 0⟩⟩

/-- The character that a line break at the cursor stands for. -/
def breakText (cursor : Cursor) : List Char :=
  match cursor.rest with
  | [] => []
  | c :: _ =>
    if c = '\u2028' || c = '\u2029' then [c]
    else if isBreak c then ['\n']
    else []

/-- The cursor stands at a line that begins or ends a document. -/
def isAtDocumentLine (cursor : Cursor) : Bool :=
  cursor.mark.column == 0 && cursor.endsWordAfter 3 &&
    (cursor.rest.take 3 == ['-', '-', '-'] || cursor.rest.take 3 == ['.', '.', '.'])

end Cursor

end RuleAtlas.Yaml
