import RuleAtlas.Files.Path

/-! # Globs

A glob is a path with wildcards.  A wildcard stands for characters of one name; a component of
two asterisks stands for any number of directories.  A text in which brackets stay open, or
asterisks meet otherwise, is no glob. -/

namespace RuleAtlas.Files

/-! ## Names -/

/-- What a part of a name may be. -/
inductive Wildcard where
  | char (c : Char)
  | anyChar
  | anySequence
  | oneOf (ranges : List (Char × Char))
  | noneOf (ranges : List (Char × Char))
  deriving DecidableEq, Repr, Inhabited

namespace Wildcard

def inRanges (ranges : List (Char × Char)) (c : Char) : Bool :=
  ranges.any fun range => range.1 ≤ c && c ≤ range.2

def accepts : Wildcard → Char → Bool
  | .char expected, c => c = expected
  | .anyChar, _ => true
  | .anySequence, _ => false
  | .oneOf ranges, c => inRanges ranges c
  | .noneOf ranges, c => !inRanges ranges c

/-- The text and all its ends, the longest first. -/
def ends : List Char → List (List Char)
  | [] => [[]]
  | c :: rest => (c :: rest) :: ends rest

/-- What may be left of a name behind a wildcard, when it was one of these texts before: ends
of one name, the longest first. -/
def advance (rests : List (List Char)) (wildcard : Wildcard) : List (List Char) :=
  -- All texts are ends of one name, so the ends of the longest hold those of the others.
  match wildcard with
  | .anySequence =>
    match rests with
    | [] => []
    | longest :: _ => ends longest
  | _ =>
    rests.filterMap fun
      | [] => none
      | c :: rest => if wildcard.accepts c then some rest else none

/-- The wildcards stand for the whole name. -/
def fits (wildcards : List Wildcard) (name : List Char) : Bool :=
  (wildcards.foldl advance [name]).any List.isEmpty

/-- The ranges that the inside of brackets lists: a hyphen between two characters joins them. -/
def rangesOf : List Char → List (Char × Char)
  | first :: '-' :: last :: rest => (first, last) :: rangesOf rest
  | c :: rest => (c, c) :: rangesOf rest
  | [] => []

/-- The inside of brackets and what follows them; the first character never closes them. -/
def readBrackets (text : List Char) : Option (List Char × List Char) :=
  match text with
  | [] => none
  | first :: rest =>
    match rest.dropWhile (· != ']') with
    | [] => none
    | _ :: behind => some (first :: rest.takeWhile (· != ']'), behind)

/-- Reads a wildcard and gives what follows it. -/
def readOne : List Char → Option (Wildcard × List Char)
  | [] => none
  | '?' :: rest => some (.anyChar, rest)
  | '*' :: '*' :: _ => none
  | '*' :: rest => some (.anySequence, rest)
  | '[' :: '!' :: rest =>
    (readBrackets rest).map fun read => (.noneOf (rangesOf read.1), read.2)
  | '[' :: rest => (readBrackets rest).map fun read => (.oneOf (rangesOf read.1), read.2)
  | c :: rest => some (.char c, rest)

/-- Reads as many wildcards as there are, at most as many as said. -/
def readMany : Nat → List Char → Option (List Wildcard)
  | _, [] => some []
  | 0, _ :: _ => none
  | count + 1, text =>
    match readOne text with
    | none => none
    | some (wildcard, rest) => (readMany count rest).map (wildcard :: ·)

/-- The characters, if the wildcards are nothing else. -/
def plain? : List Wildcard → Option (List Char)
  | [] => some []
  | .char c :: rest => (plain? rest).map (c :: ·)
  | _ :: _ => none

end Wildcard

/-! ## Components -/

/-- What stands between two slashes of a glob. -/
inductive Component where
  | plain (name : String)
  | wild (wildcards : List Wildcard)
  | anyDepth
  deriving DecidableEq, Repr, Inhabited

namespace Component

/-- The component that a text without slashes gives. -/
def ofText? (text : List Char) : Option Component :=
  if text = ['*', '*'] then some .anyDepth
  else
    (Wildcard.readMany text.length text).map fun wildcards =>
      match Wildcard.plain? wildcards with
      | some name => .plain (String.ofList name)
      | none => .wild wildcards

def accepts : Component → String → Bool
  | .plain expected, name => name = expected
  | .wild wildcards, name => Wildcard.fits wildcards name.toList
  | .anyDepth, _ => true

/-- The names for the directory itself and the one above that the component fits; it has to
begin with a dot for that. -/
def dotNames : Component → List String
  | .wild (.char '.' :: wildcards) =>
    ["..", "."].filter (Component.wild (.char '.' :: wildcards)).accepts
  | _ => []

/-- The components with several of any depth in a row made one. -/
def collapse : List Component → List Component
  | [] => []
  | .anyDepth :: rest =>
    match collapse rest with
    | .anyDepth :: others => .anyDepth :: others
    | others => .anyDepth :: others
  | component :: rest => component :: collapse rest

end Component

/-! ## Globs -/

/-- A glob: where it starts, its components, and whether it asks for directories. -/
structure Glob where
  start : String
  components : List Component
  directoriesOnly : Bool
  deriving DecidableEq, Repr, Inhabited

namespace Glob

/-- The pieces without an empty last one, unless it is the only one. -/
def dropEmptyEnd (pieces : List (List Char)) : List (List Char) :=
  if pieces.length > 1 && pieces.getLast? = some [] then pieces.dropLast else pieces

def ofText? (text : String) : Option Glob :=
  let isAbsolute := Path.isAbsolute text
  let body := if isAbsolute then text.toList.drop 1 else text.toList
  ((dropEmptyEnd (Text.split '/' body)).mapM Component.ofText?).map fun components =>
    ⟨if isAbsolute then "/" else ".", Component.collapse components, Path.endsInSlash text⟩

end Glob

end RuleAtlas.Files
