import RuleAtlas.Yaml.Token.FlowScalar

/-! # Block scalars

A block scalar consists of the lines that are indented more than what it belongs to.  A
literal one keeps its line breaks; in a folded one a line break between two lines of text
becomes a space.  The header says which it is, what happens to the line breaks at its end, and
perhaps its indentation. -/

namespace RuleAtlas.Yaml

open Scan

/-- What happens to the line breaks at the end of a block scalar. -/
inductive Chomping where
  | strip
  | clip
  | keep
  deriving DecidableEq, Repr, Inhabited

structure BlockHeader where
  chomping : Chomping
  increment : Option Nat
  deriving Repr, Inhabited

/-- Reads an indicator of chomping, if there is one. -/
def readChomping : Scan (Option Chomping) := do
  if ← isAt '+' then
    skip 1
    pure (some .keep)
  else if ← isAt '-' then
    skip 1
    pure (some .strip)
  else pure none

/-- Reads an indicator of indentation, if there is one; it is not zero. -/
def readIncrement (start : Mark) : Scan (Option Nat) := do
  match (← get).head?.filter Char.isDigit with
  | none => pure none
  | some c =>
    if c = '0' then Scan.fail .zeroIndentation .blockScalar start
    else
      skip 1
      pure (some (c.toNat - 48))

/-- Reads the indicators of a block scalar, which stand in any order. -/
def readIndicators (start : Mark) : Scan BlockHeader := do
  match ← readChomping with
  | some chomping => pure ⟨chomping, ← readIncrement start⟩
  | none =>
    match ← readIncrement start with
    | none => pure ⟨.clip, none⟩
    | some increment => pure ⟨(← readChomping).getD .clip, some increment⟩

/-- Reads the line on which a block scalar begins. -/
def readBlockHeader (start : Mark) : Scan BlockHeader := do
  skip 1
  let header ← readIndicators start
  skipLineTail
  if (← get).isAtLineEnd then
    modify Cursor.skipBreak
    pure header
  else Scan.fail .blockScalarTail .blockScalar start

/-- The line breaks before a line of text, and the deepest column of the lines between. -/
structure EmptyLines where
  breaks : List Char
  deepest : Nat

/-- Reads empty lines and the indentation of the line behind them, up to the given column if
there is one.  Every empty line takes a character, so the number of characters that are left
bounds the lines. -/
def readEmptyLines (start : Mark) (indent : Option Nat) (deepest : Nat) : Nat → Scan EmptyLines
  | 0 => pure ⟨[], deepest⟩
  | count + 1 => do
    let spaces := (← get).run (· == ' ')
    let column := (← get).mark.column
    skip ((indent.map fun least => min spaces.length (least - column)).getD spaces.length)
    let here ← get
    let deepest := max deepest here.mark.column
    if here.isAt '\t' && indent.all (here.mark.column < ·) then
      Scan.fail .blockScalarTab .blockScalar start
    else if here.isAtAny isBreak then
      modify Cursor.skipBreak
      let others ← readEmptyLines start indent deepest count
      pure ⟨here.breakText ++ others.breaks, others.deepest⟩
    else pure ⟨[], deepest⟩

/-- What was read of a block scalar: the line break behind its last line, those behind that
one, and whether the last line began with a blank. -/
structure BlockTail where
  lineBreak : List Char
  emptyLines : List Char
  blankStart : Bool

/-- What stands between two lines of a block scalar. -/
def BlockTail.joint (tail : BlockTail) (folded blankStart : Bool) : List Char :=
  if folded && tail.lineBreak == ['\n'] && !tail.blankStart && !blankStart then
    (if tail.emptyLines.isEmpty then [' '] else []) ++ tail.emptyLines
  else tail.lineBreak ++ tail.emptyLines

/-- What a block scalar ends with. -/
def BlockTail.ending (tail : BlockTail) : Chomping → List Char
  | .strip => []
  | .clip => tail.lineBreak
  | .keep => tail.lineBreak ++ tail.emptyLines

/-- How a block scalar is read: where it began, whether it is folded, how it ends, and the
column of its lines. -/
structure BlockSite where
  start : Mark
  folded : Bool
  chomping : Chomping
  indent : Nat

/-- Reads the lines of a block scalar.  Every line takes a character, so the number of
characters that are left bounds the lines. -/
def readBlockLines (site : BlockSite) : Nat → BlockTail → Scan (List Char)
  | 0, tail => pure (tail.ending site.chomping)
  | count + 1, tail => do
    let here ← get
    if here.mark.column ≠ site.indent || here.rest.isEmpty then
      pure (tail.ending site.chomping)
    else
      let blankStart := here.isAtAny isBlank
      let line ← takeRun (!isBreak ·)
      let lineBreak := (← get).breakText
      modify Cursor.skipBreak
      let empty ← readEmptyLines site.start (some site.indent) 0 count
      let others ← readBlockLines site count ⟨lineBreak, empty.breaks, blankStart⟩
      pure (tail.joint site.folded blankStart ++ line ++ others)

/-- Reads a block scalar inside of what is indented to the given column. -/
def readBlockScalar (folded : Bool) (outer : Int) : Scan TokenValue := do
  let here ← get
  let header ← readBlockHeader here.mark
  let count := here.left
  let given := header.increment.map fun increment => (max outer 0).toNat + increment
  let empty ← readEmptyLines here.mark given 0 count
  -- Without an indicator the deepest of the lines up to the first text gives the column.
  let indent := given.getD (max empty.deepest (max (outer + 1).toNat 1))
  let text ← readBlockLines ⟨here.mark, folded, header.chomping, indent⟩ count
    ⟨[], empty.breaks, false⟩
  pure (.scalar text (if folded then .folded else .literal))

end RuleAtlas.Yaml
