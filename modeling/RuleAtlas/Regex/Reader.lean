import RuleAtlas.Regex.Class

/-! # Reading regular expressions

Reads the text of a regular expression.  Open groups lie on a stack, each with what stood
before it; the flags of a group end with it.  The reading fails on text that is no expression
and on expressions nested more than 250 deep. -/

namespace RuleAtlas.Regex

def maxDepth : Nat := 250

/-- An expression with the depth of its nesting. -/
structure Nested where
  regex : Regex
  depth : Nat
  deriving DecidableEq, Repr, Inhabited

/-- What stands side by side in an expression: expressions, and settings of flags. -/
inductive Piece where
  | flags
  | nested (value : Nested)
  deriving DecidableEq, Repr, Inhabited

/-- The expression of a piece; a setting of flags matches the empty text. -/
def Piece.value : Piece → Nested
  | .flags => ⟨.empty, 0⟩
  | .nested value => value

/-- Joins parts, where several make a nesting of their own. -/
def joinNested (join : List Regex → Regex) (parts : List Nested) : Nested :=
  match parts with
  | [] => ⟨.empty, 0⟩
  | [part] => part
  | _ => ⟨join (parts.map Nested.regex), (parts.map Nested.depth).foldl max 0 + 1⟩

/-- A part of an expression that is being read: the branches that ended at a bar, and the pieces
of the current branch, the last one first. -/
structure Branches where
  ended : List Nested := []
  pieces : List Piece := []
  deriving DecidableEq, Repr, Inhabited

namespace Branches

def branch (branches : Branches) : Nested :=
  joinNested sequenceOf (branches.pieces.reverse.map Piece.value)

def value (branches : Branches) : Nested :=
  joinNested choiceOf (branches.ended ++ [branches.branch])

def add (branches : Branches) (value : Nested) : Branches :=
  { branches with pieces := .nested value :: branches.pieces }

end Branches

/-- An open group: what stood before it, and the flags that come back behind it. -/
structure GroupFrame where
  before : Branches
  flags : Flags
  capturing : Bool
  deriving DecidableEq, Repr, Inhabited

/-- A place in the text of an expression, with what was read before it. -/
structure Reader where
  frames : List GroupFrame := []
  branches : Branches := {}
  flags : Flags := {}
  names : List (List Char) := []
  rest : List Char
  deriving DecidableEq, Repr, Inhabited

/-! ## Groups -/

/-- The name of a group begins with a letter or underscore; digits, points and brackets may
follow. -/
def isGroupNameChar (isFirst : Bool) (c : Char) : Bool :=
  let isLetter := c.isAlpha || c == '_' ||
    (c.toNat ≥ 0x80 && ((Unicode.property? "alphabetic").getD .empty).contains c)
  isLetter || (!isFirst && (c.isDigit || c == '.' || c == '[' || c == ']' ||
    (c.toNat ≥ 0x80 && (Unicode.categories ["nd", "nl", "no"]).contains c)))

/-- Reads the name of a group up to its closing angle; no name may come twice. -/
def readGroupName (names : List (List Char)) (text : List Char) : Option (List Char × List Char) :=
  let name := text.takeWhile (· != '>')
  match text.dropWhile (· != '>'), name with
  | _ :: rest, first :: more =>
    if isGroupNameChar true first && more.all (isGroupNameChar false) && !(name ∈ names) then
      some (name, rest)
    else none
  | _, _ => none

def Reader.openGroup (reader : Reader) (capturing : Bool) (flags : Flags) (rest : List Char) :
    Reader :=
  { reader with
    frames := ⟨reader.branches, reader.flags, capturing⟩ :: reader.frames
    branches := {}
    flags := flags
    rest := rest }

/-- Reads the beginning of a group behind its parenthesis, or a setting of flags. -/
def Reader.readGroup (reader : Reader) (text : List Char) : Option Reader :=
  let named (rest : List Char) : Option Reader :=
    (readGroupName reader.names rest).map fun read =>
      { reader.openGroup true reader.flags read.2 with names := read.1 :: reader.names }
  match skip reader.flags text with
  | '?' :: '=' :: _ => none
  | '?' :: '!' :: _ => none
  | '?' :: '<' :: '=' :: _ => none
  | '?' :: '<' :: '!' :: _ => none
  | '?' :: 'P' :: '<' :: rest => named rest
  | '?' :: '<' :: rest => named rest
  | '?' :: rest =>
    let isEnd (c : Char) : Bool := c == ':' || c == ')'
    let letters := rest.takeWhile fun c => !isEnd c
    match reader.flags.update letters, rest.dropWhile (fun c => !isEnd c) with
    | some flags, ')' :: behind =>
      if letters.isEmpty then none
      else
        some { reader with
          branches := { reader.branches with pieces := .flags :: reader.branches.pieces }
          flags := flags
          rest := behind }
    | some flags, _ :: behind => some (reader.openGroup false flags behind)
    | _, _ => none
  | rest => some (reader.openGroup true reader.flags rest)

def Reader.closeGroup (reader : Reader) (rest : List Char) : Option Reader :=
  match reader.frames with
  | [] => none
  | frame :: frames =>
    let inner := reader.branches.value
    let regex := if frame.capturing then .group inner.regex else inner.regex
    some { reader with
      frames := frames
      branches := frame.before.add ⟨regex, inner.depth + 1⟩
      flags := frame.flags
      rest := rest }

/-! ## Repetition -/

def Reader.repeatLast (reader : Reader) (least : Nat) (most : Option Nat) (rest : List Char) :
    Option Reader :=
  match reader.branches.pieces with
  | .nested value :: pieces =>
    some { reader with
      branches := { reader.branches with
        pieces := .nested ⟨.repeated value.regex least most, value.depth + 1⟩ :: pieces }
      rest := rest }
  | _ => none

/-- The text behind a question mark that makes a repetition lazy. -/
def dropLazyMark : List Char → List Char
  | '?' :: rest => rest
  | rest => rest

/-- Reads a number below two to the power of thirty-two, with blanks around it. -/
def readCount (flags : Flags) (text : List Char) : Option (Option Nat × List Char) :=
  let (digits, rest) := collectAll flags Char.isDigit (text.dropWhile Text.isBlank)
  let value := digits.foldl (fun value c => value * 10 + (c.toNat - 48)) 0
  let behind := rest.dropWhile Text.isBlank
  let behind := if rest.head?.any Text.isBlank then skip flags behind else behind
  if digits.isEmpty then some (none, behind)
  else if value < Nat.pow 2 32 then some (some value, behind)
  else none

/-- Reads a repetition in braces behind the opening one. -/
def Reader.readCounted (reader : Reader) (text : List Char) : Option Reader :=
  let finish (least : Nat) (most : Option Nat) (rest : List Char) : Option Reader :=
    if most.all (least ≤ ·) then
      reader.repeatLast least most (dropLazyMark (skip reader.flags rest))
    else none
  match readCount reader.flags (skip reader.flags text) with
  | some (some least, '\x7d' :: rest) => finish least (some least) rest
  | some (some least, ',' :: rest) =>
    match skip reader.flags rest with
    | '\x7d' :: rest => finish least none rest
    | rest =>
      match readCount reader.flags rest with
      | some (some most, '\x7d' :: rest) => finish least (some most) rest
      | _ => none
  | _ => none

/-! ## The expression -/

/-- Reads one piece, operator, parenthesis or bar. -/
def Reader.step (reader : Reader) (first : Char) (rest : List Char) : Option Reader :=
  match first with
  | '(' => reader.readGroup rest
  | ')' => reader.closeGroup rest
  | '|' =>
    some { reader with
      branches := ⟨reader.branches.ended ++ [reader.branches.branch], []⟩
      rest := rest }
  | '[' =>
    (readClass reader.flags rest).map fun read =>
      { reader with
        branches := reader.branches.add ⟨.set read.1.set, read.1.depth⟩
        rest := read.2 }
  | '?' => reader.repeatLast 0 (some 1) (dropLazyMark rest)
  | '*' => reader.repeatLast 0 none (dropLazyMark rest)
  | '+' => reader.repeatLast 1 none (dropLazyMark rest)
  | '\x7b' => reader.readCounted rest
  | _ =>
    match readAtom reader.flags first rest with
    | none => none
    | some (atom, behind) =>
      (atom.regex reader.flags).map fun regex =>
        { reader with branches := reader.branches.add ⟨regex, 0⟩, rest := behind }

/-- Reads an expression to the end of its text. -/
def Reader.run : (budget : Nat) → Reader → Option Nested
  | 0, _ => none
  | budget + 1, reader =>
    match skip reader.flags reader.rest with
    | [] => if reader.frames.isEmpty then some reader.branches.value else none
    | first :: rest => (reader.step first rest).bind (Reader.run budget)

def read? (text : List Char) : Option Regex :=
  match Reader.run (text.length + 1) { rest := text } with
  | none => none
  | some nested => if nested.depth ≤ maxDepth then some nested.regex else none

end RuleAtlas.Regex
