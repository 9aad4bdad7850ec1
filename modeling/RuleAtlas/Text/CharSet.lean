import RuleAtlas.Text.Words

/-! # Sets of characters

A set of characters is a list of ranges of code points.  The operations keep the ranges in
ascending order and apart from each other, so that a set is read off its list.  `ofText`
reads the notation of the tables: ranges in hexadecimal, separated by blanks. -/

namespace RuleAtlas

/-- The code points from `first` to `last`, both included. -/
structure CharRange where
  first : Nat
  last : Nat
  deriving DecidableEq, Repr, Inhabited

namespace CharRange

def contains (range : CharRange) (code : Nat) : Bool :=
  range.first ≤ code && code ≤ range.last

end CharRange

/-- A set of characters, as ranges in ascending order that do not touch. -/
structure CharSet where
  ranges : List CharRange
  deriving DecidableEq, Repr, Inhabited

namespace CharSet

/-- The largest code point. -/
def maxCode : Nat := 0x10FFFF

def empty : CharSet := ⟨[]⟩

def all : CharSet := ⟨[⟨0, maxCode⟩]⟩

def contains (set : CharSet) (c : Char) : Bool :=
  set.ranges.any (·.contains c.toNat)

/-- Adds a range at the end of an ascending list, joining it to the last one when they touch. -/
def joinAscending : List CharRange → List CharRange
  | [] => []
  | [range] => [range]
  | first :: second :: rest =>
    if second.first ≤ first.last + 1 then
      joinAscending (⟨first.first, max first.last second.last⟩ :: rest)
    else
      first :: joinAscending (second :: rest)
termination_by ranges => ranges.length

/-- The set of the code points in any of the ranges, given in any order. -/
def ofRanges (ranges : List CharRange) : CharSet :=
  ⟨joinAscending (ranges.mergeSort fun a b => a.first ≤ b.first)⟩

def range (first last : Nat) : CharSet := ⟨[⟨first, last⟩]⟩

def singleton (c : Char) : CharSet := range c.toNat c.toNat

def union (a b : CharSet) : CharSet := ofRanges (a.ranges ++ b.ranges)

/-- The gaps between ascending ranges from a code point on. -/
def gaps : Nat → List CharRange → List CharRange
  | start, [] => if start ≤ maxCode then [⟨start, maxCode⟩] else []
  | start, range :: rest =>
    if start < range.first then ⟨start, range.first - 1⟩ :: gaps (range.last + 1) rest
    else gaps (range.last + 1) rest

/-- The characters outside the set. -/
def complement (set : CharSet) : CharSet := ⟨gaps 0 set.ranges⟩

def inter (a b : CharSet) : CharSet := (union a.complement b.complement).complement

def diff (a b : CharSet) : CharSet := inter a b.complement

/-- The characters in exactly one of the sets. -/
def symmetricDiff (a b : CharSet) : CharSet := union (diff a b) (diff b a)

def isEmpty (set : CharSet) : Bool := set.ranges.isEmpty

def isAscii (set : CharSet) : Bool := set.ranges.all (·.last ≤ 0x7F)

/-! ## The notation of the tables -/

def hexValue (c : Char) : Nat :=
  if c.isDigit then c.toNat - 48
  else if 'a' ≤ c && c ≤ 'f' then c.toNat - 87
  else c.toNat - 55

def hexNumber (digits : List Char) : Nat :=
  digits.foldl (fun value c => value * 16 + hexValue c) 0

/-- The range written as one number, or as two with a dash between them. -/
def rangeOfText (text : List Char) : CharRange :=
  let first := hexNumber (text.takeWhile (· != '-'))
  match text.dropWhile (· != '-') with
  | [] => ⟨first, first⟩
  | _ :: last => ⟨first, hexNumber last⟩

/-- The set written as ranges in ascending order, such as `41-5A 5F 61-7A`. -/
def ofText (text : String) : CharSet :=
  ⟨joinAscending ((Text.words text.toList).map rangeOfText)⟩

end CharSet

end RuleAtlas
