import RuleAtlas.Text.CharSet
import RuleAtlas.Unicode.Categories
import RuleAtlas.Unicode.Scripts
import RuleAtlas.Unicode.ScriptExtensions
import RuleAtlas.Unicode.Properties
import RuleAtlas.Unicode.CaseFolding

/-! # Character properties by name

Looks a general category, script or binary property up by one of its names.  Names are
compared loosely: letter case, blanks, dashes, underscores and a leading `is` do not count. -/

namespace RuleAtlas.Unicode

/-- The name without letter case, separators, characters outside ASCII and a leading `is`;
the name `isc` stands for itself. -/
def looseName (name : String) : String :=
  let keep (cs : List Char) : List Char :=
    (cs.filter fun c => c.toNat < 0x80 && c != ' ' && c != '_' && c != '-').map Char.toLower
  match name.toList with
  | a :: b :: rest =>
    if a.toLower = 'i' && b.toLower = 's' then
      if keep rest = ['c'] then "isc" else String.ofList (keep rest)
    else String.ofList (keep (a :: b :: rest))
  | cs => String.ofList (keep cs)

/-- The code points of the first row that has the name. -/
def row? (rows : List (String × String)) (name : String) : Option CharSet :=
  (rows.find? fun row => name ∈ row.1.splitOn " ").map fun row => CharSet.ofText row.2

/-- The union of the rows whose first name begins with the given letters. -/
def rowsWith (rows : List (String × String)) (initial : String) : CharSet :=
  CharSet.ofRanges ((rows.filter fun row => initial.toList.isPrefixOf row.1.toList).flatMap
    fun row => (CharSet.ofText row.2).ranges)

/-- The union of the categories with the given short names. -/
def categories (names : List String) : CharSet :=
  CharSet.ofRanges (names.flatMap fun name => ((row? categoryRows name).getD .empty).ranges)

/-- The members of the general categories that group others. -/
def categoryGroups : List (List String × List String) :=
  [(["l", "letter"], ["lu", "ll", "lt", "lm", "lo"]),
   (["lc", "casedletter"], ["lu", "ll", "lt"]),
   (["m", "mark", "combiningmark"], ["mn", "mc", "me"]),
   (["n", "number"], ["nd", "nl", "no"]),
   (["p", "punctuation", "punct"], ["pc", "pd", "ps", "pe", "pi", "pf", "po"]),
   (["s", "symbol"], ["sm", "sc", "sk", "so"]),
   (["z", "separator"], ["zs", "zl", "zp"]),
   (["c", "other", "isc"], ["cc", "cf", "co", "cn"])]

/-- The general category with the given loose name. -/
def category? (name : String) : Option CharSet :=
  if name = "any" then some .all
  else if name = "ascii" then some (.range 0 0x7F)
  else if name = "assigned" then some (categories ["cn"]).complement
  else
    match categoryGroups.find? fun group => name ∈ group.1 with
    | some group => some (categories group.2)
    | none => row? categoryRows name

/-- The script with the given loose name. -/
def script? (name : String) : Option CharSet := row? scriptRows name

/-- The characters used with the script of the given loose name. -/
def scriptExtension? (name : String) : Option CharSet :=
  match script? name with
  | none => none
  | some set =>
    match scriptRows.find? fun row => name ∈ row.1.splitOn " " with
    | none => some set
    | some row =>
      match scriptExtensionRows.find? fun extension => extension.1 = row.1 with
      | some extension => some (CharSet.ofText extension.2)
      | none => some set

/-- The binary property with the given loose name. -/
def property? (name : String) : Option CharSet := row? propertyRows name

/-- Decimal digits. -/
def decimalDigits : CharSet := categories ["nd"]

/-- White space. -/
def whiteSpace : CharSet := (property? "whitespace").getD .empty

/-- The characters of words: letters, marks, decimal digits, connectors and joiners. -/
def wordCharacters : CharSet :=
  CharSet.ofRanges ((categories ["mn", "mc", "me", "nd", "pc"]).ranges ++
    ((property? "alphabetic").getD .empty).ranges ++ ((property? "joinc").getD .empty).ranges)

/-! ## Case folding -/

/-- A run of code points, `step` apart, that fold to the run beginning at `target`. -/
structure FoldingRun where
  first : Nat
  last : Nat
  step : Nat
  target : Nat
  deriving Inhabited, Repr

/-- The code point that a code point of the run folds to. -/
def FoldingRun.fold? (run : FoldingRun) (code : Nat) : Option Nat :=
  if run.first ≤ code && code ≤ run.last && (code - run.first) % run.step = 0 then
    some (run.target + (code - run.first))
  else none

/-- The code points of the run that fold to a code point. -/
def FoldingRun.source? (run : FoldingRun) (code : Nat) : Option Nat :=
  if run.target ≤ code && code - run.target ≤ run.last - run.first
      && (code - run.target) % run.step = 0 then
    some (run.first + (code - run.target))
  else none

/-- Reads one run. -/
def FoldingRun.ofText (codes : List Char) : FoldingRun :=
  let source := codes.takeWhile (· != ':')
  let target := CharSet.hexNumber ((codes.dropWhile (· != ':')).drop 1)
  let isMark (c : Char) : Bool := c = '-' || c = '~'
  let first := CharSet.hexNumber (source.takeWhile fun c => !isMark c)
  match source.dropWhile fun c => !isMark c with
  | '-' :: last => ⟨first, CharSet.hexNumber last, 1, target⟩
  | '~' :: last => ⟨first, CharSet.hexNumber last, 2, target⟩
  | _ => ⟨first, first, 1, target⟩

/-- All runs of simple case folding. -/
def foldingRuns : List FoldingRun :=
  (Text.words caseFoldingRows.toList).map FoldingRun.ofText

/-- The code point that stands for a code point when case is ignored. -/
def foldCode (code : Nat) : Nat :=
  (foldingRuns.findSome? (·.fold? code)).getD code

/-- Every code point that equals the given one when case is ignored. -/
def caseVariants (code : Nat) : List Nat :=
  let folded := foldCode code
  folded :: foldingRuns.filterMap (·.source? folded)

/-- Adds to a set the case variants of its characters. -/
def closeUnderCase (set : CharSet) : CharSet :=
  let sources := foldingRuns.flatMap fun run =>
    (List.range ((run.last - run.first) / run.step + 1)).map fun i =>
      (run.first + i * run.step, run.target + i * run.step)
  let inside (code : Nat) : Bool := set.ranges.any (·.contains code)
  let touched := sources.filter fun pair => inside pair.1 || inside pair.2
  let variants := touched.flatMap fun pair =>
    pair.2 :: (sources.filter fun other => other.2 = pair.2).map Prod.fst
  CharSet.ofRanges (set.ranges ++ variants.map fun code => ⟨code, code⟩)

end RuleAtlas.Unicode
