import RuleAtlas.Regex.Basic
import RuleAtlas.Regex.Flags
import RuleAtlas.Text.Blank
import RuleAtlas.Unicode.Lookup

/-! # Atoms of regular expressions

Reads what stands for a single character or a single place: characters, escapes, classes by
name, and the dot.  Without the flag for Unicode a set may contain ASCII characters only,
since others would match parts of characters. -/

namespace RuleAtlas.Regex

/-! ## Blanks -/

/-- The text behind blanks and comments, at the head of which a comment may be open. -/
def skipBlanks : (inComment : Bool) → List Char → List Char
  | _, [] => []
  | true, c :: rest => skipBlanks (c != '\n') rest
  | false, c :: rest =>
    if Text.isBlank c then skipBlanks false rest
    else if c = '#' then skipBlanks true rest
    else c :: rest

/-- The text behind blanks, where the flags let them be ignored. -/
def skip (flags : Flags) (text : List Char) : List Char :=
  if flags.ignoreBlanks then skipBlanks false text else text

/-- Takes characters that pass the test, with the blanks behind each of them skipped. -/
def collect (flags : Flags) (test : Char → Bool) :
    (budget : Nat) → List Char → List Char × List Char
  | 0, text => ([], text)
  | _ + 1, [] => ([], [])
  | budget + 1, c :: rest =>
    if test c then
      let (more, behind) := collect flags test budget (skip flags rest)
      (c :: more, behind)
    else ([], c :: rest)

/-- Takes all characters at the head of a text that pass the test. -/
def collectAll (flags : Flags) (test : Char → Bool) (text : List Char) : List Char × List Char :=
  collect flags test text.length text

/-! ## Sets under flags -/

/-- The letters of ASCII in both cases, as far as they occur in the set. -/
def closeUnderAsciiCase (set : CharSet) : CharSet :=
  let letters := (List.range 26).flatMap fun i =>
    let upper := 0x41 + i
    let lower := 0x61 + i
    if set.ranges.any (fun range => range.contains upper || range.contains lower) then
      [⟨upper, upper⟩, ⟨lower, lower⟩]
    else []
  CharSet.ofRanges (set.ranges ++ letters)

/-- The set with the case variants of its characters, where the flags let case be ignored. -/
def foldCase (flags : Flags) (set : CharSet) : CharSet :=
  if !flags.ignoreCase then set
  else if flags.unicode then Unicode.closeUnderCase set
  else closeUnderAsciiCase set

/-- Without the flag for Unicode the universe are the bytes. -/
def complement (flags : Flags) (set : CharSet) : CharSet :=
  if flags.unicode then set.complement
  else ⟨set.complement.ranges.filterMap fun range =>
    if range.first ≤ 0xFF then some ⟨range.first, min range.last 0xFF⟩ else none⟩

/-- The set, unless it would match parts of characters. -/
def checkSet (flags : Flags) (set : CharSet) : Option CharSet :=
  if flags.unicode || set.isAscii then some set else none

/-- Folds case, then takes the complement where asked for. -/
def finishSet (flags : Flags) (negated : Bool) (set : CharSet) : Option CharSet :=
  let folded := foldCase flags set
  checkSet flags (if negated then complement flags folded else folded)

/-! ## Classes by name -/

/-- A class of one letter: digits, white space or word characters. -/
def letterClass (flags : Flags) (letter : Char) : CharSet :=
  match letter, flags.unicode with
  | 'd', true => Unicode.decimalDigits
  | 's', true => Unicode.whiteSpace
  | 'w', true => Unicode.wordCharacters
  | 'd', false => CharSet.ofText "30-39"
  | 's', false => CharSet.ofText "9-D 20"
  | _, _ => CharSet.ofText "30-39 41-5A 5F 61-7A"

/-- The classes of ASCII characters by name. -/
def asciiClass? (name : String) : Option CharSet :=
  ([("alnum", "30-39 41-5A 61-7A"), ("alpha", "41-5A 61-7A"), ("ascii", "0-7F"),
    ("blank", "9 20"), ("cntrl", "0-1F 7F"), ("digit", "30-39"), ("graph", "21-7E"),
    ("lower", "61-7A"), ("print", "20-7E"), ("punct", "21-2F 3A-40 5B-60 7B-7E"),
    ("space", "9-D 20"), ("upper", "41-5A"), ("word", "30-39 41-5A 5F 61-7A"),
    ("xdigit", "30-39 41-46 61-66")].find? (·.1 = name)).map fun row => CharSet.ofText row.2

/-- Splits a text at the first place where another text begins. -/
def splitAt? (mark : List Char) : List Char → Option (List Char × List Char)
  | [] => none
  | c :: rest =>
    if mark.isPrefixOf (c :: rest) then some ([], (c :: rest).drop mark.length)
    else (splitAt? mark rest).map fun parts => (c :: parts.1, parts.2)

/-- The set of a property given by a key and a value. -/
def keyedProperty? (key value : List Char) : Option CharSet :=
  let key := Unicode.looseName (String.ofList key)
  let value := Unicode.looseName (String.ofList value)
  if key ∈ ["gc", "generalcategory"] then Unicode.category? value
  else if key ∈ ["sc", "script"] then Unicode.script? value
  else if key ∈ ["scx", "scriptextensions"] then Unicode.scriptExtension? value
  else none

/-- The set of a property given by its name, or by a key and a value. -/
def property? (name : List Char) : Option CharSet :=
  match splitAt? ['!', '='] name with
  | some (key, value) => keyedProperty? key value
  | none =>
    match splitAt? [':'] name with
    | some (key, value) => keyedProperty? key value
    | none =>
      match splitAt? ['='] name with
      | some (key, value) => keyedProperty? key value
      | none =>
        let loose := Unicode.looseName (String.ofList name)
        -- These three are short for general categories too, and mean those.
        let binary := if loose ∈ ["cf", "sc", "lc"] then none else Unicode.property? loose
        (binary.or (Unicode.category? loose)).or (Unicode.script? loose)

/-! ## Atoms -/

/-- A single item: a character (which was written as a byte where `byte` holds), a condition
on a place, the dot, or a set. -/
inductive Atom where
  | char (c : Char) (byte : Bool)
  | look (condition : Look)
  | dot
  | set (characters : CharSet)
  deriving DecidableEq, Repr, Inhabited

def hexDigit? (c : Char) : Option Nat :=
  if c.isDigit || ('a' ≤ c && c ≤ 'f') || ('A' ≤ c && c ≤ 'F') then some (CharSet.hexValue c)
  else none

def charOfHex? (digits : List Char) : Option Char :=
  let code := CharSet.hexNumber digits
  if digits.isEmpty then none
  else if code.isValidChar then some (Char.ofNat code)
  else none

def readHexDigits (flags : Flags) : (count : Nat) → List Char → Option (List Char × List Char)
  | 0, text => some ([], text)
  | _ + 1, [] => none
  | count + 1, c :: rest =>
    if (hexDigit? c).isNone then none
    else (readHexDigits flags count (skip flags rest)).map fun read => (c :: read.1, read.2)

/-- Reads a code point behind its letter: digits in braces, or as many as the letter asks for. -/
def readHex (flags : Flags) (letter : Char) (text : List Char) : Option (Atom × List Char) :=
  match skip flags text with
  | '\x7b' :: rest =>
    match collectAll flags (fun c => (hexDigit? c).isSome) (skip flags rest) with
    | (digits, '\x7d' :: behind) =>
      (charOfHex? digits).map fun c => (.char c false, skip flags behind)
    | _ => none
  | text =>
    let count := if letter = 'x' then 2 else if letter = 'u' then 4 else 8
    match readHexDigits flags count text with
    | none => none
    | some (digits, behind) => (charOfHex? digits).map fun c => (.char c (letter = 'x'), behind)

/-- Reads a property behind its letter: a name in braces, or a single character. -/
def readProperty (flags : Flags) (negated : Bool) (text : List Char) : Option (Atom × List Char) :=
  let read :=
    match skip flags text with
    | [] => none
    | '\x7b' :: rest =>
      match collectAll flags (· != '\x7d') (skip flags rest) with
      | (name, _ :: behind) => some (name, behind)
      | _ => none
    | c :: rest => if c = '\\' then none else some ([c], skip flags rest)
  match read with
  | none => none
  | some (name, behind) =>
    if !flags.unicode then none
    else ((property? name).bind (finishSet flags negated)).map fun set => (.set set, behind)

/-- Reads what may follow the letter of a word boundary: in braces, which side of a word. -/
def readWordBoundary (flags : Flags) (text : List Char) : Option (Atom × List Char) :=
  let plain : Option (Atom × List Char) := some (.look (.wordBoundary flags.unicode), text)
  match text with
  | '\x7b' :: rest =>
    let isNamePart (c : Char) : Bool := c.isAlpha || c == '-'
    match skip flags rest with
    | [] => none
    | c :: more =>
      if !isNamePart c then plain
      else
        match collectAll flags isNamePart (c :: more) with
        | (name, '\x7d' :: behind) =>
          match String.ofList name with
          | "start" => some (.look (.wordStart flags.unicode), behind)
          | "end" => some (.look (.wordEnd flags.unicode), behind)
          | "start-half" => some (.look (.noWordBefore flags.unicode), behind)
          | "end-half" => some (.look (.noWordAfter flags.unicode), behind)
          | _ => none
        | _ => none
  | _ => plain

/-- The character stands for itself behind a backslash. -/
def isEscapable (c : Char) : Bool :=
  c.toNat < 0x80 && !c.isAlphanum && c != '<' && c != '>'

/-- Reads an escape behind its backslash. -/
def readEscape (flags : Flags) : List Char → Option (Atom × List Char)
  | [] => none
  | c :: rest =>
    if isEscapable c then some (.char c false, rest)
    else
      match c with
      | 'x' => readHex flags 'x' rest
      | 'u' => readHex flags 'u' rest
      | 'U' => readHex flags 'U' rest
      | 'p' => readProperty flags false rest
      | 'P' => readProperty flags true rest
      | 'a' => some (.char '\x07' false, rest)
      | 'f' => some (.char '\x0c' false, rest)
      | 't' => some (.char '\t' false, rest)
      | 'n' => some (.char '\n' false, rest)
      | 'r' => some (.char '\r' false, rest)
      | 'v' => some (.char '\x0b' false, rest)
      | 'A' => some (.look .textStart, rest)
      | 'z' => some (.look .textEnd, rest)
      | 'b' => readWordBoundary flags rest
      | 'B' => some (.look (.noWordBoundary flags.unicode), rest)
      | '<' => some (.look (.wordStart flags.unicode), rest)
      | '>' => some (.look (.wordEnd flags.unicode), rest)
      | _ =>
        if c ∈ ['d', 's', 'w'] then some (.set (letterClass flags c), rest)
        else if c ∈ ['D', 'S', 'W'] then
          (checkSet flags (complement flags (letterClass flags c.toLower))).map fun set =>
            (.set set, rest)
        else none

/-- The set that the dot stands for. -/
def dotSet (flags : Flags) : Option CharSet :=
  if !flags.unicode then none
  else if flags.dotAll then some .all
  else if flags.crlf then some (CharSet.ofText "A D").complement
  else some (CharSet.ofText "A").complement

def charRegex (flags : Flags) (c : Char) (byte : Bool) : Option Regex :=
  if !flags.unicode && byte && c.toNat ≥ 0x80 then none
  else if !flags.ignoreCase then some (.char c)
  else if flags.unicode then
    some (.set (CharSet.ofRanges ((Unicode.caseVariants c.toNat).map fun code => ⟨code, code⟩)))
  else some (.set (closeUnderAsciiCase (.singleton c)))

def Atom.regex (flags : Flags) : Atom → Option Regex
  | .char c byte => charRegex flags c byte
  | .look condition => some (.look condition)
  | .dot => (dotSet flags).map .set
  | .set characters => some (.set characters)

/-- The start of a text or of its lines. -/
def startLook (flags : Flags) : Look :=
  if !flags.multiLine then .textStart
  else if flags.crlf then .lineStartCrlf
  else .lineStart

/-- The end of a text or of its lines. -/
def endLook (flags : Flags) : Look :=
  if !flags.multiLine then .textEnd
  else if flags.crlf then .lineEndCrlf
  else .lineEnd

/-- Reads an atom at the head of a text that is no operator. -/
def readAtom (flags : Flags) (first : Char) (rest : List Char) : Option (Atom × List Char) :=
  match first with
  | '\\' => readEscape flags rest
  | '.' => some (.dot, rest)
  | '^' => some (.look (startLook flags), rest)
  | '$' => some (.look (endLook flags), rest)
  | c => some (.char c false, rest)

end RuleAtlas.Regex
