import RuleAtlas.Regex.Atom

/-! # Bracketed classes

Reads a class in brackets: characters, ranges, classes by name, nested classes, and the
operations of intersection, difference and symmetric difference, which all bind alike and to
the left.  Open brackets and pending operations lie on a stack.  Every value knows how deep it
is nested, since the nesting of an expression is limited. -/

namespace RuleAtlas.Regex

/-- A set and the depth of its nesting. -/
structure ClassValue where
  set : CharSet
  depth : Nat
  deriving DecidableEq, Repr, Inhabited

/-- Items that stand side by side: how many, their union, and the depth of the deepest. -/
structure ClassItems where
  count : Nat := 0
  set : CharSet := .empty
  depth : Nat := 0
  deriving DecidableEq, Repr, Inhabited

namespace ClassItems

def add (items : ClassItems) (value : ClassValue) : ClassItems :=
  ⟨items.count + 1, items.set.union value.set, max items.depth value.depth⟩

def addSet (items : ClassItems) (set : CharSet) : ClassItems := items.add ⟨set, 0⟩

/-- The union as one value; a union of several items is a nesting of its own. -/
def value (items : ClassItems) : ClassValue :=
  ⟨items.set, if items.count ≤ 1 then items.depth else items.depth + 1⟩

end ClassItems

inductive SetOperation where
  | intersection
  | difference
  | symmetricDifference
  deriving DecidableEq, Repr, Inhabited

/-- Applies an operation; where case is ignored both sides get their case variants before. -/
def SetOperation.apply (operation : SetOperation) (flags : Flags) (left right : ClassValue) :
    ClassValue :=
  let a := foldCase flags left.set
  let b := foldCase flags right.set
  let set :=
    match operation with
    | .intersection => a.inter b
    | .difference => a.diff b
    | .symmetricDifference => a.symmetricDiff b
  ⟨set, max left.depth right.depth + 1⟩

/-- What is pending inside a class: an open bracket with the items before it, or an operation
with its left side. -/
inductive ClassFrame where
  | bracket (negated : Bool) (before : ClassItems)
  | operation (operation : SetOperation) (left : ClassValue)
  deriving DecidableEq, Repr, Inhabited

/-- Ends the right side of a pending operation. -/
def closeOperation (flags : Flags) (frames : List ClassFrame) (right : ClassValue) :
    List ClassFrame × ClassValue :=
  match frames with
  | .operation operation left :: rest => (rest, operation.apply flags left right)
  | _ => (frames, right)

/-- Dashes at the beginning of a class stand for themselves. -/
def leadingDashes (flags : Flags) (budget : Nat) (items : ClassItems) (text : List Char) :
    ClassItems × List Char :=
  match budget, text with
  | budget + 1, '-' :: rest =>
    leadingDashes flags budget (items.addSet (.singleton '-')) (skip flags rest)
  | _, _ => (items, text)

/-- Reads the beginning of a class behind its bracket: a sign of negation, dashes, and a closing
bracket that stands for itself when it comes first. -/
def openClass (flags : Flags) (text : List Char) : Option (Bool × ClassItems × List Char) :=
  let text := skip flags text
  let (negated, text) :=
    match text with
    | '^' :: rest => (true, skip flags rest)
    | _ => (false, text)
  let (items, text) := leadingDashes flags text.length {} text
  match text with
  | [] => none
  | ']' :: rest =>
    if items.count = 0 then
      match skip flags rest with
      | [] => none
      | text => some (negated, items.addSet (.singleton ']'), text)
    else some (negated, items, text)
  | _ => some (negated, items, text)

/-- Reads an ASCII class by name behind its opening bracket, if there is one. -/
def readAsciiClass? (flags : Flags) (text : List Char) : Option (Option CharSet × List Char) :=
  match text with
  | ':' :: rest =>
    let (negated, rest) :=
      match rest with
      | '^' :: rest => (true, rest)
      | _ => (false, rest)
    let name := rest.takeWhile (· != ':')
    match rest.dropWhile (· != ':') with
    | ':' :: ']' :: behind =>
      (asciiClass? (String.ofList name)).map fun set => (finishSet flags negated set, behind)
    | _ => none
  | _ => none

/-- Reads an item of a class that is no bracket or operation. -/
def readClassAtom (flags : Flags) : List Char → Option (Atom × List Char)
  | [] => none
  | '\\' :: rest => readEscape flags rest
  | c :: rest => some (.char c false, rest)

/-- The code point of a character in a class; without the flag for Unicode only those of ASCII
may stand there. -/
def classCode (flags : Flags) (c : Char) : Option Nat :=
  if flags.unicode || c.toNat < 0x80 then some c.toNat else none

/-- The set of an item that stands alone. -/
def classAtomSet (flags : Flags) : Atom → Option CharSet
  | .char c _ => (classCode flags c).map fun code => .range code code
  | .set characters => some characters
  | _ => none

/-- The first character behind blanks and the sign of one comment.  The text of the comment is
looked at as well, since the line feed at its end counts as a blank. -/
def behindBlanks? : (inComment : Bool) → List Char → Option Char
  | _, [] => none
  | inComment, c :: rest =>
    if Text.isBlank c then behindBlanks? inComment rest
    else if !inComment && c = '#' then behindBlanks? true rest
    else some c

/-- A dash in front of the text makes no range, for a closing bracket or another dash stands
behind it.  Where blanks are ignored this need not be the character that is read next. -/
def isLoneDash (flags : Flags) (text : List Char) : Bool :=
  let behind := if flags.ignoreBlanks then behindBlanks? false text else text.head?
  behind = some ']' || behind = some '-'

/-- Reads an item or a range of a class. -/
def readClassRange (flags : Flags) (text : List Char) : Option (CharSet × List Char) :=
  match readClassAtom flags text with
  | none => none
  | some (first, rest) =>
    match skip flags rest with
    | [] => none
    | '-' :: more =>
      if isLoneDash flags more then
        (classAtomSet flags first).map fun set => (set, '-' :: more)
      else
        match readClassAtom flags (skip flags more), first with
        | some (.char c _, rest), .char b _ =>
          match classCode flags b, classCode flags c with
          | some low, some high => if low ≤ high then some (.range low high, rest) else none
          | _, _ => none
        | _, _ => none
    | text => (classAtomSet flags first).map fun set => (set, text)

/-- Reads a class from a place inside it on, up to the bracket that closes the first frame. -/
def readClassFrom (flags : Flags) :
    (budget : Nat) → List ClassFrame → ClassItems → List Char → Option (ClassValue × List Char)
  | 0, _, _, _ => none
  | budget + 1, frames, items, text =>
    let operation (operation : SetOperation) (rest : List Char) :=
      let (frames, left) := closeOperation flags frames items.value
      readClassFrom flags budget (.operation operation left :: frames) {} rest
    match skip flags text with
    | [] => none
    | ']' :: rest =>
      match closeOperation flags frames items.value with
      | (.bracket negated before :: frames, value) =>
        match finishSet flags negated value.set with
        | none => none
        | some characters =>
          let nested : ClassValue := ⟨characters, value.depth + 1⟩
          if frames.isEmpty then some (nested, rest)
          else readClassFrom flags budget frames (before.add nested) rest
      | _ => none
    | '[' :: rest =>
      match readAsciiClass? flags rest with
      | some (none, _) => none
      | some (some characters, behind) =>
        readClassFrom flags budget frames (items.addSet characters) behind
      | none =>
        match openClass flags rest with
        | none => none
        | some (negated, nested, behind) =>
          readClassFrom flags budget (.bracket negated items :: frames) nested behind
    | '&' :: '&' :: rest => operation .intersection rest
    | '-' :: '-' :: rest => operation .difference rest
    | '~' :: '~' :: rest => operation .symmetricDifference rest
    | text =>
      match readClassRange flags text with
      | none => none
      | some (characters, behind) =>
        readClassFrom flags budget frames (items.addSet characters) behind

def readClass (flags : Flags) (text : List Char) : Option (ClassValue × List Char) :=
  match openClass flags text with
  | none => none
  | some (negated, items, rest) =>
    readClassFrom flags (text.length + 1) [.bracket negated {}] items rest

end RuleAtlas.Regex
