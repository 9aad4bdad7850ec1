import RuleAtlas.Regex.Basic
import RuleAtlas.Unicode.Lookup

/-! # Matching

Where a regular expression can stop when it starts at given places of a text.  The places are
offsets in characters, in ascending order.  An expression is found in a text when it can stop
anywhere after having started anywhere. -/

namespace RuleAtlas

def isWordCharacter (unicode : Bool) (c : Char) : Bool :=
  c.isAlphanum || c == '_' || (unicode && c.toNat ≥ 0x80 && Unicode.wordCharacters.contains c)

/-- The condition holds between the two characters, where there are any. -/
def Look.holds (look : Look) (before after : Option Char) : Bool :=
  let word (unicode : Bool) (c : Option Char) : Bool := c.any (isWordCharacter unicode)
  match look with
  | .textStart => before.isNone
  | .textEnd => after.isNone
  | .lineStart => before.all (· == '\n')
  | .lineEnd => after.all (· == '\n')
  | .lineStartCrlf => before.all fun c => c == '\n' || (c == '\r' && after != some '\n')
  | .lineEndCrlf => after.all fun c => c == '\r' || (c == '\n' && before != some '\r')
  | .wordBoundary unicode => word unicode before != word unicode after
  | .noWordBoundary unicode => word unicode before == word unicode after
  | .wordStart unicode => !word unicode before && word unicode after
  | .wordEnd unicode => word unicode before && !word unicode after
  | .noWordBefore unicode => !word unicode before
  | .noWordAfter unicode => !word unicode after

namespace Regex

/-- Places in ascending order, each once. -/
abbrev Places := List Nat

/-- The places of both lists. -/
def mergePlaces : Places → Places → Places
  | [], others => others
  | places, [] => places
  | p :: places, q :: others =>
    if p < q then p :: mergePlaces places (q :: others)
    else if q < p then q :: mergePlaces (p :: places) others
    else p :: mergePlaces places others
termination_by places others => places.length + others.length

/-- Takes the given number of steps, fewer when a step changes nothing. -/
def iterate (step : Places → Places) : Nat → Places → Places
  | 0, places => places
  | count + 1, places =>
    let next := step places
    if next = places then places else iterate step count next

/-- The places after at most the given number of steps, fewer when a step reaches nothing
new. -/
def accumulate (step : Places → Places) : Nat → Places → Places
  | 0, places => places
  | count + 1, places =>
    let next := mergePlaces places (step places)
    if next = places then places else accumulate step count next

/-- The places where the expression can stop after having started at one of the given places. -/
def stops (text : Array Char) : Regex → Places → Places
  | .empty, starts => starts
  | .set characters, starts =>
    (starts.filter fun place => text[place]?.any characters.contains).map (· + 1)
  | .look condition, starts =>
    starts.filter fun place =>
      condition.holds (if place = 0 then none else text[place - 1]?) text[place]?
  | .sequence first second, starts => stops text second (stops text first starts)
  | .choice first second, starts => mergePlaces (stops text first starts) (stops text second starts)
  | .repeated body least most, starts =>
    let more :=
      match most with
      | none => text.size + 1
      | some most => min (most - least) (text.size + 1)
    accumulate (stops text body) more (iterate (stops text body) least starts)
  | .group body, starts => stops text body starts

/-- The expression is found somewhere in the text. -/
def isFoundIn (regex : Regex) (text : String) : Bool :=
  let characters := text.toList.toArray
  !(stops characters regex (List.range (characters.size + 1))).isEmpty

end Regex

end RuleAtlas
