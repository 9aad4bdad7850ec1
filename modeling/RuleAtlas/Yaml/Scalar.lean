import RuleAtlas.Binary64.Decimal
import RuleAtlas.Text.Quoted
import RuleAtlas.Yaml.Document

/-! # Values of scalars

A plain scalar without a tag is null, a truth value, an integer or a floating-point number if
it is written like one, and a text otherwise.  A tag decides what a scalar is; all other
scalars are texts. -/

namespace RuleAtlas.Yaml

/-- The value of a scalar.  Integers are told apart by the width they need: 64 bits without or
with a sign, 128 bits without or with a sign. -/
inductive ScalarValue where
  | null
  | boolean (value : Bool)
  | unsigned (value : Nat)
  | signed (value : Int)
  | wideUnsigned (value : Nat)
  | wideSigned (value : Int)
  | float (value : Binary64)
  | text (value : List Char)
  deriving DecidableEq, Repr, Inhabited

namespace ScalarValue

/-! ## Words -/

/-- The words for null. -/
def isNullWord (source : List Char) : Bool :=
  String.ofList source ∈ ["null", "Null", "NULL", "~"]

def booleanWord? (source : List Char) : Option Bool :=
  if String.ofList source ∈ ["true", "True", "TRUE"] then some true
  else if String.ofList source ∈ ["false", "False", "FALSE"] then some false
  else none

/-! ## Integers -/

/-- The number that digits of a base stand for; there is at least one. -/
def ofDigits? (base : Nat) (digits : List Char) : Option Nat :=
  if digits.isEmpty then none
  else
    digits.foldl (fun number? c =>
      match number?, (hexDigit? c).filter (· < base) with
      | some number, some digit => some (number * base + digit)
      | _, _ => none) (some 0)

/-- The text without a sign in front. -/
def withoutSign : List Char → List Char
  | '-' :: rest => rest
  | '+' :: rest => rest
  | source => source

/-- The text without a plus in front. -/
def withoutPlus : List Char → List Char
  | '+' :: rest => rest
  | source => source

/-- Digits that are no number because they begin with a zero. -/
def isPadded (source : List Char) : Bool :=
  match withoutSign source with
  | '0' :: c :: rest => (c :: rest).all Char.isDigit
  | _ => false

/-- The number without a sign that a text stands for: behind an optional plus, decimal digits
or a mark for another base and its digits. -/
def magnitude? (source : List Char) : Option Nat :=
  match source with
  | '0' :: 'x' :: digits => ofDigits? 16 digits
  | '0' :: 'o' :: digits => ofDigits? 8 digits
  | '0' :: 'b' :: digits => ofDigits? 2 digits
  | _ => if isPadded source then none else ofDigits? 10 source

/-- The number below a limit that a text without a minus stands for. -/
def unsigned? (limit : Nat) (source : List Char) : Option Nat :=
  (magnitude? (withoutPlus source)).filter (· < limit)

/-- The number not below minus a limit that a text with a minus stands for. -/
def negative? (limit : Nat) : List Char → Option Int
  | '-' :: source => ((magnitude? source).filter (· ≤ limit)).map fun value => -(value : Int)
  | _ => none

def integer? (source : List Char) : Option ScalarValue :=
  match unsigned? (Nat.pow 2 64) source, negative? (Nat.pow 2 63) source with
  | some value, _ => some (.unsigned value)
  | none, some value => some (.signed value)
  | none, none =>
    match unsigned? (Nat.pow 2 128) source, negative? (Nat.pow 2 127) source with
    | some value, _ => some (.wideUnsigned value)
    | none, some value => some (.wideSigned value)
    | none, none => none

/-! ## Floating-point numbers -/

/-- The floating-point number that a text stands for; one that is too large stands for none. -/
def float? (source : List Char) : Option Binary64 :=
  let unsigned := withoutPlus source
  if unsigned ≠ source && withoutSign unsigned ≠ unsigned then none
  else if String.ofList unsigned ∈ [".inf", ".Inf", ".INF"] then some (.infinity false)
  else if String.ofList source ∈ ["-.inf", "-.Inf", "-.INF"] then some (.infinity true)
  else if String.ofList source ∈ [".nan", ".NaN", ".NAN"] then some .nan
  else (Binary64.ofText? unsigned).filter Binary64.isFinite

/-! ## Scalars -/

/-- The value of a plain scalar without a tag. -/
def ofPlain (source : List Char) : ScalarValue :=
  if source.isEmpty || isNullWord source then .null
  else
    match booleanWord? source, integer? source with
    | some value, _ => .boolean value
    | none, some value => value
    | none, none =>
      match if isPadded source then none else float? source with
      | some value => .float value
      | none => .text source

/-- The tags that decide what a scalar is. -/
inductive CoreTag where
  | boolean
  | integer
  | float
  | null
  deriving DecidableEq, Repr, Inhabited

def CoreTag.address : CoreTag → String
  | .boolean => "tag:yaml.org,2002:bool"
  | .integer => "tag:yaml.org,2002:int"
  | .float => "tag:yaml.org,2002:float"
  | .null => "tag:yaml.org,2002:null"

def CoreTag.ofAddress? (address : List Char) : Option CoreTag :=
  [CoreTag.boolean, .integer, .float, .null].find? (·.address.toList = address)

/-- What a tag asks for. -/
def CoreTag.wanted : CoreTag → String
  | .boolean => "a boolean"
  | .integer => "an integer"
  | .float => "a float"
  | .null => "null"

/-- The value of a scalar with a tag that decides what it is. -/
def ofTagged? (tag : CoreTag) (source : List Char) : Option ScalarValue :=
  match tag with
  | .boolean => (booleanWord? source).map .boolean
  | .integer => integer? source
  | .float => (float? source).map .float
  | .null => if isNullWord source then some .null else none

/-- The tag is one of the document's own. -/
def isLocalTag (tag : List Char) : Bool := tag.head? == some '!'

/-- The value of a scalar, or the tag that the text does not fit. -/
def of (tag : Option (List Char)) (source : List Char) (style : ScalarStyle) :
    Except CoreTag ScalarValue :=
  match tag with
  | none => .ok (if style = .plain then ofPlain source else .text source)
  | some tag =>
    match CoreTag.ofAddress? tag with
    | some core =>
      match ofTagged? core source with
      | some value => .ok value
      | none => .error core
    | none => .ok (if isLocalTag tag && style = .plain then ofPlain source else .text source)

/-- How the numbers without digits are written. -/
def numberNames : Binary64.SpecialNames := ⟨"NaN", "inf", "-inf"⟩

/-- A floating-point number with a decimal point. -/
def renderWithPoint (value : Binary64) : String :=
  let source := value.render numberNames
  if value.isFinite && !source.toList.contains '.' then source ++ ".0" else source

def describe : ScalarValue → String
  | .null => "unit value"
  | .boolean value => "boolean `" ++ toString value ++ "`"
  | .unsigned value => "integer `" ++ toString value ++ "`"
  | .signed value => "integer `" ++ toString value ++ "`"
  | .wideUnsigned value => "integer `" ++ toString value ++ "` as u128"
  | .wideSigned value => "integer `" ++ toString value ++ "` as i128"
  | .float value => "floating point `" ++ renderWithPoint value ++ "`"
  | .text value => "string " ++ Text.quoted (String.ofList value)

/-- The value as a text: numbers in decimal, of which those that need more than 64 bits with a
sign become floating-point numbers; null is the empty text. -/
def render : ScalarValue → String
  | .null => ""
  | .boolean value => toString value
  | .unsigned value =>
    if value < Nat.pow 2 63 then toString value else (Binary64.ofInt value).render numberNames
  | .signed value => toString value
  | .wideUnsigned value => toString value
  | .wideSigned value => toString value
  | .float value => value.render numberNames
  | .text value => String.ofList value

end ScalarValue

end RuleAtlas.Yaml
