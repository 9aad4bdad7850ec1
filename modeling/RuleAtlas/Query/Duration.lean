import RuleAtlas.Binary64.Decimal
import RuleAtlas.Failure.Basic

/-! # Durations

A duration counts milliseconds.  Its text is a sequence of groups, each a number and a unit,
with the units from the largest to the smallest and none of them twice; a zero may stand
without a unit.  A text stands for a duration only if its milliseconds fit in 64 bits. -/

namespace RuleAtlas.Query

structure DurationUnit where
  name : List Char
  millis : Nat
  deriving DecidableEq, Repr, Inhabited

def durationUnits : List DurationUnit :=
  [⟨['y'], 365 * 24 * 60 * 60 * 1000⟩,
   ⟨['w'], 7 * 24 * 60 * 60 * 1000⟩,
   ⟨['d'], 24 * 60 * 60 * 1000⟩,
   ⟨['h'], 60 * 60 * 1000⟩,
   ⟨['m'], 60 * 1000⟩,
   ⟨['s'], 1000⟩,
   ⟨['m', 's'], 1⟩]

structure Duration where
  millis : Nat
  deriving DecidableEq, Repr, Inhabited

structure DurationError where
  text : String
  deriving DecidableEq, Repr, Inhabited

def DurationError.message (error : DurationError) : String :=
  "not a valid duration string: " ++ Text.quoted error.text

def DurationError.toFailure (error : DurationError) : Failure :=
  (Failure.of .syntaxError error.message).withOperation "promql::parse_duration"

namespace Duration

def zero : Duration := ⟨0⟩

/-- Milliseconds are counted below this limit. -/
def limit : Nat := Nat.pow 2 64

/-- The first group of a text: its number, the letters behind it, and the text behind them. -/
structure Group where
  value : Nat
  letters : List Char
  rest : List Char

def group? (text : List Char) : Option Group :=
  let digits := text.takeWhile Char.isDigit
  let behind := text.dropWhile Char.isDigit
  if digits.isEmpty then none
  else
    some ⟨Binary64.natOfDigits digits, behind.takeWhile Char.isAlpha,
      behind.dropWhile Char.isAlpha⟩

/-- Adds the groups of a text to the milliseconds before it, where only the given units may
still be used. -/
def addGroups : List DurationUnit → (total : Nat) → List Char → Option Nat
  | _, total, [] => some total
  | [], _, _ :: _ => none
  | unit :: units, total, text =>
    match group? text with
    | none => none
    | some group =>
      if group.letters = unit.name then
        let sum := total + group.value * unit.millis
        if sum < limit then addGroups units sum group.rest else none
      else addGroups units total text

def ofText? (text : List Char) : Option Duration :=
  if text = ['0'] then some zero
  else if text.isEmpty then none
  else (addGroups durationUnits 0 text).map Duration.mk

def parse (text : String) : Except DurationError Duration :=
  match ofText? text.toList with
  | some duration => .ok duration
  | none => .error ⟨text⟩

/-- The groups of the units that fit, each unit as often as it fits into what the larger ones
leave. -/
def groups : List DurationUnit → (millis : Nat) → List Char
  | [], _ => []
  | unit :: units, millis =>
    if unit.millis ≤ millis then
      Nat.toDigits 10 (millis / unit.millis) ++ unit.name ++ groups units (millis % unit.millis)
    else groups units millis

/-- The text of a duration, of which the milliseconds are counted modulo 64 bits. -/
def text (duration : Duration) : List Char :=
  let millis := duration.millis % limit
  if millis = 0 then ['0', 's'] else groups durationUnits millis

def render (duration : Duration) : String := String.ofList duration.text

end Duration

end RuleAtlas.Query
