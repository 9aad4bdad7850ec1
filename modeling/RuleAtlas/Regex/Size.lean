import RuleAtlas.Regex.Basic

/-! # The size of a compiled expression

An expression is refused when the automaton that it compiles to would be too large.  The
automaton reads the bytes of a text in UTF-8, forwards and backwards, and its size counts the
memory of its states; repetitions copy the automaton of their body.  Sizes are computed from
the shape of the expression, without building an automaton. -/

namespace RuleAtlas.Regex

/-- The largest size in bytes. -/
def maxSize : Nat := 10 * Nat.pow 2 20

/-- The size of a state without its lists. -/
def stateSize : Nat := 32

def transitionSize : Nat := 8

def alternativeSize : Nat := 4

/-! ## Sets of characters as sequences of bytes -/

/-- The largest code point that takes the given number of bytes. -/
def maxCodeOfBytes : Nat → Nat
  | 1 => 0x7F
  | 2 => 0x7FF
  | 3 => 0xFFFF
  | _ => CharSet.maxCode

/-- The bytes of a code point, the first one first. -/
def utf8Bytes (code : Nat) : List Nat :=
  if code ≤ 0x7F then [code]
  else if code ≤ 0x7FF then [0xC0 + code / 64, 0x80 + code % 64]
  else if code ≤ 0xFFFF then [0xE0 + code / 4096, 0x80 + code / 64 % 64, 0x80 + code % 64]
  else
    [0xF0 + code / 262144, 0x80 + code / 4096 % 64, 0x80 + code / 64 % 64, 0x80 + code % 64]

abbrev ByteRange := Nat × Nat

/-- The first place where a range has to be cut so that its bytes vary independently. -/
def cutPoint? (first last : Nat) : Option Nat :=
  if first ≤ 0xDFFF && 0xD800 ≤ last then
    if first < 0xD800 then some 0xD800 else if 0xDFFF < last then some 0xE000 else none
  else
    match [1, 2, 3].find? fun n => first ≤ maxCodeOfBytes n && maxCodeOfBytes n < last with
    | some n => some (maxCodeOfBytes n + 1)
    | none =>
      if last ≤ 0x7F then none
      else
        [64, 4096, 262144].findSome? fun block =>
          if first / block = last / block then none
          else if first % block ≠ 0 then some ((first / block + 1) * block)
          else if last % block ≠ block - 1 then some (last / block * block)
          else none

/-- The sequences of byte ranges of a range of code points. -/
def byteSequencesOf : (budget : Nat) → Nat → Nat → List (List ByteRange)
  | 0, _, _ => []
  | budget + 1, first, last =>
    match cutPoint? first last with
    | some cut => byteSequencesOf budget first (cut - 1) ++ byteSequencesOf budget cut last
    | none =>
      if 0xD800 ≤ first && last ≤ 0xDFFF then []
      else [(utf8Bytes first).zip (utf8Bytes last)]

/-- The sequences of byte ranges of a set; a range is cut at most sixteen times in a row. -/
def byteSequences (set : CharSet) : List (List ByteRange) :=
  set.ranges.flatMap fun range => byteSequencesOf 16 range.first range.last

inductive ByteTree where
  | node (branches : List (ByteRange × ByteTree))

/-- The tree of a single sequence. -/
def ByteTree.ofSequence : List ByteRange → ByteTree
  | [] => .node []
  | range :: rest => .node [(range, ofSequence rest)]

/-- Adds a sequence behind all others of the tree, whose branches are kept in reverse. -/
def ByteTree.add (tree : ByteTree) : List ByteRange → ByteTree
  | [] => tree
  | range :: rest =>
    match tree with
    | .node ((last, child) :: branches) =>
      if last = range then .node ((last, child.add rest) :: branches)
      else .node ((range, .ofSequence rest) :: (last, child) :: branches)
    | .node [] => .node [(range, .ofSequence rest)]

/-- States by their transitions; a state's number is its place in the list from the end. -/
abbrev StateTable := List (List (ByteRange × Nat))

/-- The number of a state, which is added when it is new. -/
def StateTable.number (table : StateTable) (state : List (ByteRange × Nat)) : Nat × StateTable :=
  match table.findIdx? (· = state) with
  | some i => (table.length - i, table)
  | none => (table.length + 1, state :: table)

mutual

/-- Adds the states of a tree, equal subtrees once. -/
def ByteTree.states : ByteTree → StateTable → Nat × StateTable
  | .node branches, table =>
    if branches.isEmpty then (0, table)
    else
      let (state, table) := branchStates branches table
      table.number state

/-- Adds the states below the branches of a tree. -/
def branchStates : List (ByteRange × ByteTree) → StateTable → List (ByteRange × Nat) × StateTable
  | [], table => ([], table)
  | (range, child) :: rest, table =>
    let (number, table) := child.states table
    let (transitions, table) := branchStates rest table
    ((range, number) :: transitions, table)

end

def countBranches : List (List ByteRange) → Nat
  | [] => 0
  | sequences@(_ :: _) =>
    ((sequences.flatMap fun sequence => (List.range sequence.length).map fun n =>
      sequence.take (n + 1)).eraseDups).length

/-! ## Sizes -/

/-- The sizes of the automata that read forwards and backwards. -/
structure Sizes where
  forwards : Nat
  backwards : Nat
  deriving DecidableEq, Repr, Inhabited

namespace Sizes

def both (size : Nat) : Sizes := ⟨size, size⟩

def add (a b : Sizes) : Sizes := ⟨a.forwards + b.forwards, a.backwards + b.backwards⟩

/-- The sizes of copies. -/
def times (count : Nat) (sizes : Sizes) : Sizes :=
  ⟨count * sizes.forwards, count * sizes.backwards⟩

def fit (sizes : Sizes) : Bool := sizes.forwards ≤ maxSize && sizes.backwards ≤ maxSize

end Sizes

/-- The sizes of a set. -/
def setSizes (set : CharSet) : Sizes :=
  match set.ranges with
  | [] => .both stateSize
  | [⟨first, last⟩] =>
    if first = last then .both (stateSize * (utf8Bytes first).length)
    else if set.isAscii then .both (2 * stateSize + transitionSize)
    else wide set
  | ranges =>
    if set.isAscii then .both (2 * stateSize + transitionSize * ranges.length) else wide set
where
  /-- The sizes of a set with characters outside ASCII. -/
  wide (set : CharSet) : Sizes :=
    let sequences := byteSequences set
    let tree := sequences.foldl ByteTree.add (.node [])
    let states := (tree.states []).2
    { forwards := stateSize * (states.length + 1) +
        states.foldl (fun size branches => size + transitionSize * branches.length) 0
      backwards := stateSize * (countBranches sequences + 2) +
        alternativeSize * sequences.length }

/-- The expression matches the empty text only. -/
def isZeroWidth : Regex → Bool
  | .empty => true
  | .set _ => false
  | .look _ => true
  | .sequence first second => first.isZeroWidth && second.isZeroWidth
  | .choice first second => first.isZeroWidth && second.isZeroWidth
  | .repeated body _ most => body.isZeroWidth || most = some 0
  | .group body => body.isZeroWidth

/-- The sizes of a repetition of a body with the given sizes. -/
def repetitionSizes (body : Sizes) (least : Nat) (most : Option Nat) : Sizes :=
  let union := Sizes.both (stateSize + 2 * alternativeSize)
  match most with
  | none => ((body.times (max least 1)).add union)
  | some most =>
    if most = least then body.times least
    else
      ((body.times least).add ((body.add union).times (most - least))).add (.both stateSize)

def sizes : Regex → Sizes
  | .empty => .both 0
  | .set characters => setSizes characters
  | .look _ => .both stateSize
  | .sequence first second => first.sizes.add second.sizes
  | .choice first second =>
    (first.sizes.add second.sizes).add (.both (stateSize + alternativeSize))
  | .repeated body least most =>
    if body.isZeroWidth then body.sizes
    else repetitionSizes body.sizes least most
  | .group body => body.sizes.add ⟨2 * stateSize, 0⟩

def isSmall (regex : Regex) : Bool := regex.sizes.fit

end RuleAtlas.Regex
