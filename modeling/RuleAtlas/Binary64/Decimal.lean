import RuleAtlas.Binary64.Basic

/-! # Decimal text of double-precision numbers

Reading a decimal number gives the nearest double.  Writing uses the fewest digits that read
back as the same double, the nearest such digits, and no exponent: the digits are padded with
zeros up to the decimal point. -/

namespace RuleAtlas.Binary64

/-! ## Reading -/

def natOfDigits (digits : List Char) : Nat :=
  digits.foldl (fun value c => value * 10 + (c.toNat - 48)) 0

/-- The double nearest to `digits * 10 ^ exponent`.  Where the number of digits shows that the
value lies beyond the format, no power of ten is computed. -/
def ofDecimal (negative : Bool) (digits : List Char) (exponent : Int) : Binary64 :=
  let digits := digits.dropWhile (· = '0')
  let magnitude : Int := digits.length + exponent
  if digits.isEmpty then zero negative
  -- The largest number has 309 places, and half of the least one has its first digit at 324.
  else if magnitude > 320 then .infinity negative
  else if magnitude < -340 then zero negative
  else
    match exponent with
    | .ofNat k => ofRatio negative (natOfDigits digits * Nat.pow 10 k) 1
    | .negSucc k => ofRatio negative (natOfDigits digits) (Nat.pow 10 (k + 1))

/-- The signed integer at the end of a decimal exponent. -/
def exponentOfText? : List Char → Option Int
  | '-' :: digits =>
    if !digits.isEmpty && digits.all Char.isDigit then some (-(natOfDigits digits : Int)) else none
  | '+' :: digits =>
    if !digits.isEmpty && digits.all Char.isDigit then some (natOfDigits digits) else none
  | digits =>
    if !digits.isEmpty && digits.all Char.isDigit then some (natOfDigits digits) else none

/-- Reads an unsigned decimal: digits with an optional point, at least one digit in all, and
an optional exponent. -/
def ofUnsignedText? (negative : Bool) (text : List Char) : Option Binary64 :=
  let whole := text.takeWhile Char.isDigit
  let afterWhole := text.dropWhile Char.isDigit
  let (fraction, tail) :=
    match afterWhole with
    | '.' :: rest => (rest.takeWhile Char.isDigit, rest.dropWhile Char.isDigit)
    | _ => ([], afterWhole)
  if whole.isEmpty && fraction.isEmpty then none
  else
    let exponent? :=
      match tail with
      | [] => some 0
      | 'e' :: rest => exponentOfText? rest
      | 'E' :: rest => exponentOfText? rest
      | _ => none
    exponent?.map fun exponent =>
      ofDecimal negative (whole ++ fraction) (exponent - fraction.length)

/-- Reads the part of a number after its sign: a decimal, an infinity or not a number, the
words in any letter case. -/
def ofMagnitudeText? (negative : Bool) (text : List Char) : Option Binary64 :=
  let lower := text.map Char.toLower
  if lower = ['i', 'n', 'f'] || lower = ['i', 'n', 'f', 'i', 'n', 'i', 't', 'y'] then
    some (.infinity negative)
  else if lower = ['n', 'a', 'n'] then some .nan
  else ofUnsignedText? negative text

def ofText? : List Char → Option Binary64
  | '-' :: text => ofMagnitudeText? true text
  | '+' :: text => ofMagnitudeText? false text
  | text => ofMagnitudeText? false text

/-! ## The fewest digits -/

/-- A positive decimal `digits * 10 ^ exponent`. -/
structure Digits where
  digits : Nat
  exponent : Int
  deriving DecidableEq, Repr, Inhabited

/-- The fraction of natural numbers equal to `value * 2 ^ exponent`. -/
def fraction (value : Nat) (exponent : Int) : Nat × Nat := scaleDown value 1 (-exponent)

/-- The power of ten at or below the positive fraction `num / den`. -/
def floorLog10 (num den : Nat) : Int :=
  if den ≤ num then ((Nat.toDigits 10 (num / den)).length : Int) - 1
  else
    let places := (Nat.toDigits 10 (den / num)).length
    if num * Nat.pow 10 (places - 1) = den then -((places : Int) - 1) else -(places : Int)

/-- The fraction `num / den` divided by `10 ^ exponent`, as a fraction. -/
def scaleDownTen (num den : Nat) (exponent : Int) : Nat × Nat :=
  match exponent with
  | .ofNat k => (num, den * Nat.pow 10 k)
  | .negSucc k => (num * Nat.pow 10 (k + 1), den)

/-- The reals that round to a positive double, as bounds over a common denominator; the bounds
themselves belong to it when `closed`. -/
structure RoundingInterval where
  low : Nat
  high : Nat
  den : Nat
  closed : Bool

/-- The interval of reals that round to `significand * 2 ^ exponent`: half the way to each
neighbour, where the lower neighbour of a power of two is nearer. -/
def roundingInterval (significand : Nat) (exponent : Int) : RoundingInterval :=
  -- In quarters of a unit the bounds are integers also below a power of two.
  let (unit, den) := fraction 1 (exponent - 2)
  let below := if significand = normalSignificand && minExponent < exponent then 1 else 2
  { low := (4 * significand - below) * unit
    high := (4 * significand + 2) * unit
    den := den
    closed := significand % 2 = 0 }

/-- The decimal `num / den` rounds to the double of the interval. -/
def RoundingInterval.contains (interval : RoundingInterval) (num den : Nat) : Bool :=
  if interval.closed then
    interval.low * den ≤ num * interval.den && num * interval.den ≤ interval.high * den
  else
    interval.low * den < num * interval.den && num * interval.den < interval.high * den

/-- The better of the two multiples of `10 ^ exponent` around the fraction `num / den` that
lie in the interval: the nearer one, the upper one of a tie. -/
def gridPoint? (interval : RoundingInterval) (num den : Nat) (exponent : Int) : Option Nat :=
  let (n, d) := scaleDownTen num den exponent
  let lower := n / d
  let inside (digits : Nat) : Bool :=
    match exponent with
    | .ofNat k => interval.contains (digits * Nat.pow 10 k) 1
    | .negSucc k => interval.contains digits (Nat.pow 10 (k + 1))
  let upperNearer := d ≤ 2 * (n % d)
  match lower ≠ 0 && inside lower, inside (lower + 1) with
  | true, true => some (if upperNearer then lower + 1 else lower)
  | true, false => some lower
  | false, true => some (lower + 1)
  | false, false => none

/-- Looks for a decimal of the interval with few digits: the grid of each count of digits from
`count` on, as long as `more` counts are left. -/
def shortestFrom (interval : RoundingInterval) (num den : Nat) (top : Int) :
    (more count : Nat) → Digits
  | 0, count =>
    let exponent := top - count + 1
    let (n, d) := scaleDownTen num den exponent
    ⟨n / d, exponent⟩
  | more + 1, count =>
    let exponent := top - count + 1
    match gridPoint? interval num den exponent with
    | some digits => ⟨digits, exponent⟩
    | none => shortestFrom interval num den top more (count + 1)

/-- The fewest digits that read back as `significand * 2 ^ exponent`; seventeen always do. -/
def shortest (significand : Nat) (exponent : Int) : Digits :=
  let (num, den) := fraction significand exponent
  shortestFrom (roundingInterval significand exponent) num den (floorLog10 num den) 17 1

/-! ## Writing -/

/-- The decimal without an exponent: zeros fill the places up to the decimal point. -/
def Digits.positional (decimal : Digits) : List Char :=
  let digits := Nat.toDigits 10 decimal.digits
  match decimal.exponent with
  | .ofNat k => digits ++ List.replicate k '0'
  | .negSucc k =>
    let places := k + 1
    if places < digits.length then
      let fraction := digits.drop (digits.length - places)
      let kept := (fraction.reverse.dropWhile (· = '0')).reverse
      digits.take (digits.length - places) ++ (if kept.isEmpty then [] else '.' :: kept)
    else
      let kept := (digits.reverse.dropWhile (· = '0')).reverse
      ['0', '.'] ++ List.replicate (places - digits.length) '0' ++ kept

/-- A finite number without an exponent, and without a point for an integer. -/
def finiteText (negative : Bool) (significand : Nat) (exponent : Int) : List Char :=
  (if negative then ['-'] else []) ++
    (if significand = 0 then ['0'] else (shortest significand exponent).positional)

/-- How the numbers that have no digits are spelled. -/
structure SpecialNames where
  nan : String
  positiveInfinity : String
  negativeInfinity : String

def render (names : SpecialNames) : Binary64 → String
  | .nan => names.nan
  | .infinity negative => if negative then names.negativeInfinity else names.positiveInfinity
  | .finite negative significand exponent =>
    String.ofList (finiteText negative significand exponent)

end RuleAtlas.Binary64
