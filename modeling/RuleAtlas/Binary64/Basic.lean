/-! # Double-precision numbers

Numbers of the binary64 format as exact data: not a number, an infinity, or a signed
multiple of a power of two.  Rounding works on natural numbers alone, so every value can be
computed inside a proof. -/

namespace RuleAtlas

/-- A double-precision number.  A finite one is `significand * 2 ^ exponent` with a sign. -/
inductive Binary64 where
  | nan
  | infinity (negative : Bool)
  | finite (negative : Bool) (significand : Nat) (exponent : Int)
  deriving DecidableEq, Repr, Inhabited

namespace Binary64

def minExponent : Int := -1074

def maxExponent : Int := 971

/-- The least significand of a number above the least exponent. -/
def normalSignificand : Nat := Nat.pow 2 52

def zero (negative : Bool) : Binary64 := .finite negative 0 minExponent

/-- The number is written in the one way of the format: 53 bits, of which the highest is set
above the least exponent. -/
def Canonical : Binary64 → Prop
  | .nan => True
  | .infinity _ => True
  | .finite _ significand exponent =>
    significand < 2 * normalSignificand ∧ minExponent ≤ exponent ∧ exponent ≤ maxExponent ∧
      (normalSignificand ≤ significand ∨ exponent = minExponent)

instance : DecidablePred Canonical := fun number => by
  cases number <;> unfold Canonical <;> infer_instance

def isFinite : Binary64 → Bool
  | .finite .. => true
  | _ => false

def neg : Binary64 → Binary64
  | .nan => .nan
  | .infinity negative => .infinity !negative
  | .finite negative significand exponent => .finite (!negative) significand exponent

/-- Equality of numbers: not a number differs from itself, and the zeros are equal. -/
def equal : Binary64 → Binary64 → Bool
  | .infinity a, .infinity b => a == b
  | .finite a m p, .finite b n q => (m == n && p == q && (a == b || m == 0))
  | _, _ => false

/-! ## Rounding -/

/-- The quotient rounded to the nearest natural number, a tie to the even one. -/
def roundDiv (num den : Nat) : Nat :=
  let quotient := num / den
  let double := 2 * (num % den)
  if double < den then quotient
  else if den < double then quotient + 1
  else if quotient % 2 = 0 then quotient
  else quotient + 1

/-- The fraction `num / den` divided by `2 ^ exponent`, as a fraction. -/
def scaleDown (num den : Nat) (exponent : Int) : Nat × Nat :=
  match exponent with
  | .ofNat k => (num, den * Nat.pow 2 k)
  | .negSucc k => (num * Nat.pow 2 (k + 1), den)

/-- The power of two at or below a positive fraction. -/
def floorLog2 (num den : Nat) : Int :=
  let guess : Int := (num.log2 : Int) - den.log2
  let (n, d) := scaleDown num den guess
  if n < d then guess - 1 else guess

/-- The number of the format nearest to `num / den`, a tie to the even significand. -/
def ofRatio (negative : Bool) (num den : Nat) : Binary64 :=
  if num = 0 then zero negative
  else
    let exponent := max minExponent (floorLog2 num den - 52)
    let (n, d) := scaleDown num den exponent
    let significand := roundDiv n d
    -- Rounding up may come to 54 bits; then it is a power of two, and half of it is exact.
    let (significand, exponent) :=
      if significand = 2 * normalSignificand then (normalSignificand, exponent + 1)
      else (significand, exponent)
    if maxExponent < exponent then .infinity negative
    else .finite negative significand exponent

def ofInt (value : Int) : Binary64 := ofRatio (value < 0) value.natAbs 1

end Binary64

end RuleAtlas
