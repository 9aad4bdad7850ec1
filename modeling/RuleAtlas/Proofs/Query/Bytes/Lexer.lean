import RuleAtlas.Proofs.Query.Bytes.Machine

/-! # The tokens on the lexer with byte offsets

Every reading of the lexer as a scan.  Unlike the readings, a scan looks ahead by characters
alone, so that a NUL character of the input looks like its end; the offset of the current
character tells the two apart. -/

namespace RuleAtlas.Query.Scan

open Parse (Round)

/-! ## Gaps -/

/-- A character between tokens does not go on a comment. -/
def inComment (c : Char) : Bool := c != '\n' && c != '\x00'

def skipBlankOrComment (_ : Unit) : Scan (Round Unit) := do
  let c ← glance 0
  if isGapCharacter c then
    let _ ← take
    pure (.again ())
  else if c = '#' then
    skipRun inComment
    pure (.again ())
  else pure (.done ())

def skipGap : Scan Unit := loop skipBlankOrComment ()

/-! ## Strings -/

/-- Reads as many digits as asked for, in front of which `value` was read. -/
def readDigits (pos radix : Nat) : (count value : Nat) → Scan Nat
  | 0, value => pure value
  | count + 1, value => do
    match (← take).bind (digitValue? radix ·.2) with
    | none => refuse pos .illegalEscapeDigit
    | some digit =>
      let sum ← addDigit radix value digit
      readDigits pos radix count sum

/-- Reads the digits of a code point. -/
def readCodePoint (pos radix count first : Nat) : Scan Char := do
  let code ← readDigits pos radix count first
  if radix = 8 ∧ 255 < code then refuse pos .octalTooLarge
  else if code.isValidChar then pure (Char.ofNat code)
  else refuse pos .invalidCodePoint

/-- Reads what follows a backslash at this offset. -/
def readEscape (quote : Char) (pos : Nat) : Scan Char := do
  match ← take with
  | none => refuse pos .unterminatedEscape
  | some (_, c) =>
    match letterEscape? quote c with
    | some value => pure value
    | none =>
      if c = 'x' then readCodePoint pos 16 2 0
      else if c = 'u' then readCodePoint pos 16 4 0
      else if c = 'U' then readCodePoint pos 16 8 0
      else
        match digitValue? 8 c with
        | some digit => readCodePoint pos 8 2 digit
        | none => refuse pos (.unknownEscape c)

/-- Reads one more character of a string that begins at `start`, or its closing quote. -/
def readItem (quote : Char) (start : Nat) (value : List Char) : Scan (Round (List Char)) := do
  match ← take with
  | none => refuse start .unterminatedString
  | some (pos, c) =>
    if c = quote then pure (.done value)
    else if c = '\n' then refuse start .unterminatedString
    else if c = '\\' then
      let character ← readEscape quote pos
      pure (.again (value ++ [character]))
    else pure (.again (value ++ [c]))

def readString (quote : Char) : Scan Token := do
  let start ← position
  let _ ← take
  let value ← loop (readItem quote start) []
  pure ⟨.string, String.ofList value, start⟩

/-- Reads one more character of a raw string that begins at `start`, or its closing quote. -/
def readRawItem (quote : Char) (start : Nat) (value : List Char) :
    Scan (Round (List Char)) := do
  match ← take with
  | none => refuse start .unterminatedRawString
  | some (_, c) => if c = quote then pure (.done value) else pure (.again (value ++ [c]))

def readRaw (quote : Char) : Scan Token := do
  let start ← position
  let _ ← take
  let value ← loop (readRawItem quote start) []
  pure ⟨.string, String.ofList value, start⟩

/-! ## Numbers and durations -/

/-- A number or duration ends where no character follows that sticks to it. -/
def finishNumber (kind : TokenKind) (start : Nat) : Scan Token := do
  if sticksToNumber (← glance 0) then refuse start .badNumberOrDuration else token kind start

def readHexadecimal (start : Nat) : Scan Token := do
  let _ ← take
  let _ ← take
  let digits ← position
  skipRun isHexDigit
  if (← position) = digits then refuse start .badNumber else finishNumber .number start

/-- Reads a fraction, and says whether there is one. -/
def readFraction : Scan Bool := do
  if (← glance 0) = '.' then
    let _ ← take
    skipRun Char.isDigit
    pure true
  else pure false

/-- An exponent begins with its letter, and a digit or a sign and a digit behind it. -/
def beginsExponent (letter next after : Char) : Bool :=
  (letter = 'e' || letter = 'E') &&
    (next.isDigit || ((next = '+' || next = '-') && after.isDigit))

def takeSign : Scan Unit := do
  let sign ← glance 0
  if sign = '+' || sign = '-' then
    let _ ← take

/-- Reads an exponent, and says whether there is one. -/
def readExponent : Scan Bool := do
  if beginsExponent (← glance 0) (← glance 1) (← glance 2) then
    let _ ← take
    takeSign
    skipRun Char.isDigit
    pure true
  else pure false

/-- Takes the unit of a duration. -/
def takeUnit (start : Nat) : Scan Unit := do
  let c ← glance 0
  if c = 'm' then
    let _ ← take
    if (← glance 0) = 's' then
      let _ ← take
  else if c ∈ ['y', 'w', 'd', 'h', 's'] then
    let _ ← take
  else refuse start .badDuration

/-- Reads a unit, and digits behind it. -/
def readUnit (start : Nat) (_ : Unit) : Scan (Round Unit) := do
  takeUnit start
  if (← glance 0).isDigit then
    skipRun Char.isDigit
    pure (.again ())
  else pure (.done ())

def readUnits (start : Nat) : Scan Token := do
  loop (readUnit start) ()
  finishNumber .duration start

def readDecimal (start : Nat) : Scan Token := do
  skipRun Char.isDigit
  let fraction ← readFraction
  let exponent ← readExponent
  if !fraction && !exponent && (← glance 0) ∈ ['y', 'w', 'd', 'h', 'm', 's'] then readUnits start
  else finishNumber .number start

def readNumber : Scan Token := do
  let start ← position
  if (← glance 0) = '0' && (← glance 1) ∈ ['x', 'X'] then readHexadecimal start
  else readDecimal start

/-! ## Words, symbols and tokens -/

def readWord : Scan Token := do
  let start ← position
  let _ ← take
  skipRun isWordPart
  token .ident start

/-- The token of a character that is taken, if it is a symbol by itself. -/
def readSingle (c : Char) (start : Nat) : Scan Token :=
  match (Query.readSingle c).outcome with
  | .ok kind => token kind start
  | .error stumble => refuse start stumble.fault

/-- Reads a symbol, the longest one possible. -/
def readSymbol : Scan Token := do
  let start ← position
  let c ← glance 0
  let _ ← take
  match pairSymbol? c (← glance 0) with
  | some kind =>
    let _ ← take
    token kind start
  | none => readSingle c start

/-- Reads the next token; at the end of the input that is the end. -/
def next : Scan Token := do
  skipGap
  let pos ← position
  let first ← glance 0
  let second ← glance 1
  if first = '\x00' ∧ pos = (← length) then pure ⟨.eof, "", pos⟩
  else if first = '\x22' || first = '\x27' then readString first
  else if first = '\x60' then readRaw first
  else if first.isDigit || (first = '.' && second.isDigit) then readNumber
  else if isWordStart first || (first = ':' && isWordStart second) then readWord
  else readSymbol

end RuleAtlas.Query.Scan
