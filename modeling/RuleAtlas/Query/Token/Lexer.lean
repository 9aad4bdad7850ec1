import RuleAtlas.Query.Token

/-! # Reading tokens

Tokens are separated by gaps of blanks and comments.  After a gap the first character decides
what is read: a string, a number or duration, a word, or a symbol.  Each reader reports the
characters that it read and either what they are or what is wrong with them; the text goes on
behind those characters in both cases.  Every reading takes at least one character, so the
tokens of a text are finitely many. -/

namespace RuleAtlas.Query

/-! ## Gaps -/

/-- The character separates tokens. -/
def isGapCharacter (c : Char) : Bool := c == ' ' || c == '\t' || c == '\n' || c == '\r'

/-- The gap at the head of a text, which may begin inside a comment.  A comment goes on to the
end of its line; a NUL character ends it too. -/
def gap : (inComment : Bool) → List Char → List Char
  | _, [] => []
  | false, c :: rest =>
    if isGapCharacter c then c :: gap false rest
    else if c = '#' then c :: gap true rest
    else []
  | true, c :: rest =>
    if c = '\n' then c :: gap false rest
    else if c = '\x00' then []
    else c :: gap true rest

/-! ## Readings -/

/-- A fault, and the text that was read before the place that it is reported at. -/
structure Stumble where
  fault : LexicalFault
  before : List Char
  deriving DecidableEq, Repr, Inhabited

/-- The characters that were read, and what they came to. -/
structure Reading (α : Type) where
  source : List Char
  outcome : Except Stumble α

namespace Reading

/-- The reading of the given characters as a value. -/
def found {α : Type} (source : List Char) (value : α) : Reading α := ⟨source, .ok value⟩

/-- A fault of the given characters, reported at their beginning. -/
def fault {α : Type} (source : List Char) (fault : LexicalFault) : Reading α :=
  ⟨source, .error ⟨fault, []⟩⟩

/-- The reading with other characters read in front of it. -/
def behind {α : Type} (front : List Char) (reading : Reading α) : Reading α :=
  ⟨front ++ reading.source,
   reading.outcome.mapError fun stumble => ⟨stumble.fault, front ++ stumble.before⟩⟩

def map {α β : Type} (f : α → β) (reading : Reading α) : Reading β :=
  ⟨reading.source, reading.outcome.map f⟩

/-- The reading with a fault reported at its beginning. -/
def atStart {α : Type} (reading : Reading α) : Reading α :=
  ⟨reading.source, reading.outcome.mapError fun stumble => ⟨stumble.fault, []⟩⟩

end Reading

/-! ## Strings -/

def digitValue? (base : Nat) (c : Char) : Option Nat :=
  let value :=
    if c.isDigit then some (c.toNat - 48)
    else if 'a' ≤ c && c ≤ 'f' then some (c.toNat - 87)
    else if 'A' ≤ c && c ≤ 'F' then some (c.toNat - 55)
    else none
  value.filter (· < base)

/-- Reads as many digits as asked for, in front of which `value` was read.  A character that
is no digit is read too. -/
def readDigits (base : Nat) : (count value : Nat) → List Char → Reading Nat
  | 0, value, _ => .found [] value
  | _ + 1, _, [] => .fault [] .illegalEscapeDigit
  | count + 1, value, c :: rest =>
    match digitValue? base c with
    | none => .fault [c] .illegalEscapeDigit
    | some digit => (readDigits base count (value * base + digit) rest).behind [c]

/-- The character with the code point that was read. -/
def characterOf (reading : Reading Nat) (limit : Nat) : Reading Char :=
  match reading.outcome with
  | .error stumble => ⟨reading.source, .error stumble⟩
  | .ok code =>
    if limit < code then .fault reading.source .octalTooLarge
    else if code.isValidChar then .found reading.source (Char.ofNat code)
    else .fault reading.source .invalidCodePoint

/-- The character that a single letter behind a backslash stands for. -/
def letterEscape? (quote c : Char) : Option Char :=
  if c = 'a' then some '\x07'
  else if c = 'b' then some '\x08'
  else if c = 'f' then some '\x0c'
  else if c = 'n' then some '\n'
  else if c = 'r' then some '\r'
  else if c = 't' then some '\t'
  else if c = 'v' then some '\x0b'
  else if c = '\\' then some '\\'
  else if c = quote then some quote
  else none

/-- Reads what follows a backslash in a string: a letter, a code point in hexadecimal behind
`x`, `u` or `U`, or three octal digits. -/
def readEscape (quote : Char) : List Char → Reading Char
  | [] => .fault [] .unterminatedEscape
  | c :: rest =>
    match letterEscape? quote c with
    | some value => .found [c] value
    | none =>
      if c = 'x' then (characterOf (readDigits 16 2 0 rest) (Nat.pow 2 32)).behind [c]
      else if c = 'u' then (characterOf (readDigits 16 4 0 rest) (Nat.pow 2 32)).behind [c]
      else if c = 'U' then (characterOf (readDigits 16 8 0 rest) (Nat.pow 2 32)).behind [c]
      else
        match digitValue? 8 c with
        | some digit => (characterOf (readDigits 8 2 digit rest) 255).behind [c]
        | none => .fault [c] (.unknownEscape c)

/-- Reads the characters of a string up to its closing quote.  A fault of an escape is
reported at its backslash. -/
def readQuoted (quote : Char) : List Char → Reading (List Char)
  | [] => .fault [] .unterminatedString
  | c :: rest =>
    if c = quote then .found [c] []
    else if c = '\n' then .fault [c] .unterminatedString
    else if c = '\\' then
      let escape := readEscape quote rest
      match escape.outcome with
      | .error stumble => .fault (c :: escape.source) stumble.fault
      | .ok value =>
        ((readQuoted quote (rest.drop escape.source.length)).map (value :: ·)).behind
          (c :: escape.source)
    else ((readQuoted quote rest).map (c :: ·)).behind [c]
termination_by text => text.length
decreasing_by all_goals (simp only [List.length_cons, List.length_drop]; omega)

/-- Reads a string behind its opening quote; that it does not end is reported at the quote. -/
def readString (quote : Char) (rest : List Char) : Reading (List Char) :=
  let reading := (readQuoted quote rest).behind [quote]
  match reading.outcome with
  | .error ⟨.unterminatedString, _⟩ => reading.atStart
  | _ => reading

/-- Reads a string between backquotes, behind the opening one. -/
def readRaw (quote : Char) (rest : List Char) : Reading (List Char) :=
  let value := rest.takeWhile (· != quote)
  match rest.dropWhile (· != quote) with
  | [] => .fault (quote :: value) .unterminatedRawString
  | _ :: _ => .found (quote :: (value ++ [quote])) value

/-! ## Numbers and durations -/

def isHexDigit (c : Char) : Bool := (digitValue? 16 c).isSome

/-- The unit of a duration at the head of a text. -/
def durationUnit? : List Char → Option (List Char)
  | 'm' :: 's' :: _ => some ['m', 's']
  | 'm' :: _ => some ['m']
  | c :: _ => if c ∈ ['y', 'w', 'd', 'h', 's'] then some [c] else none
  | [] => none

/-- Reads a unit and, as long as digits follow, more digits with their units. -/
def readUnits (text : List Char) : Reading Unit :=
  match durationUnit? text with
  | none => .fault [] .badDuration
  | some unit =>
    let rest := text.drop unit.length
    let digits := rest.takeWhile Char.isDigit
    if digits.isEmpty then .found unit ()
    else (readUnits (rest.drop digits.length)).behind (unit ++ digits)
termination_by text.length
decreasing_by
  rename_i some_digits
  have positive : 0 < ((text.drop unit.length).takeWhile Char.isDigit).length :=
    List.length_pos_iff.2 (by simpa [digits, rest] using some_digits)
  have bounded := (List.takeWhile_prefix (l := text.drop unit.length) Char.isDigit).length_le
  simp only [List.length_drop] at bounded ⊢
  omega

/-- The exponent at the head of a text: a letter, an optional sign, and digits. -/
def exponentPart : List Char → List Char
  | e :: rest =>
    if e = 'e' || e = 'E' then
      match rest with
      | [] => []
      | c :: digits =>
        if c.isDigit then e :: c :: digits.takeWhile Char.isDigit
        else if c = '+' || c = '-' then
          match digits.takeWhile Char.isDigit with
          | [] => []
          | d :: more => e :: c :: d :: more
        else []
    else []
  | [] => []

/-- The fraction at the head of a text: a point and any digits. -/
def fractionPart : List Char → List Char
  | '.' :: rest => '.' :: rest.takeWhile Char.isDigit
  | _ => []

/-- The character may not follow a number or duration. -/
def sticksToNumber (c : Char) : Bool := c == '_' || c == '.' || c.isAlphanum

/-- A number or duration ends where no character follows that sticks to it. -/
def finishNumber (kind : TokenKind) (source rest : List Char) : Reading TokenKind :=
  match rest with
  | [] => .found source kind
  | c :: _ => if sticksToNumber c then .fault source .badNumberOrDuration else .found source kind

/-- Reads a hexadecimal number behind its two leading characters. -/
def readHexadecimal (lead : List Char) (rest : List Char) : Reading TokenKind :=
  let digits := rest.takeWhile isHexDigit
  if digits.isEmpty then .fault lead .badNumber
  else finishNumber .number (lead ++ digits) (rest.drop digits.length)

/-- The parts of a decimal number at the head of a text, and what follows them. -/
structure DecimalParts where
  whole : List Char
  fraction : List Char
  exponent : List Char
  rest : List Char

/-- Splits a decimal number off the head of a text. -/
def decimalParts (text : List Char) : DecimalParts :=
  let whole := text.takeWhile Char.isDigit
  let afterWhole := text.drop whole.length
  let fraction := fractionPart afterWhole
  let afterFraction := afterWhole.drop fraction.length
  let exponent := exponentPart afterFraction
  ⟨whole, fraction, exponent, afterFraction.drop exponent.length⟩

/-- Reads a duration behind its first digits. -/
def readDuration (digits rest : List Char) : Reading TokenKind :=
  let units := readUnits rest
  match units.outcome with
  | .error stumble => .fault (digits ++ units.source) stumble.fault
  | .ok () => finishNumber .duration (digits ++ units.source) (rest.drop units.source.length)

/-- Reads a decimal number, or a duration where a unit follows the digits of an integer. -/
def readDecimal (text : List Char) : Reading TokenKind :=
  let parts := decimalParts text
  -- A fraction or an exponent makes it a number, whatever follows.
  if parts.fraction.isEmpty && parts.exponent.isEmpty && (durationUnit? parts.rest).isSome then
    readDuration parts.whole parts.rest
  else finishNumber .number (parts.whole ++ parts.fraction ++ parts.exponent) parts.rest

def readNumber (text : List Char) : Reading TokenKind :=
  match text with
  | '0' :: 'x' :: rest => readHexadecimal ['0', 'x'] rest
  | '0' :: 'X' :: rest => readHexadecimal ['0', 'X'] rest
  | _ => readDecimal text

/-! ## Words and symbols -/

/-- The character may begin a word. -/
def isWordStart (c : Char) : Bool := c.isAlpha || c == '_'

/-- The character may go on a word. -/
def isWordPart (c : Char) : Bool := c.isAlphanum || c == '_' || c == ':'

def readWord (first : Char) (rest : List Char) : Reading TokenKind :=
  .found (first :: rest.takeWhile isWordPart) .ident

/-- The symbols of one character. -/
def symbol? (c : Char) : Option TokenKind :=
  match c with
  | '(' => some .leftParen
  | ')' => some .rightParen
  | '\x7b' => some .leftBrace
  | '\x7d' => some .rightBrace
  | '[' => some .leftBracket
  | ']' => some .rightBracket
  | ',' => some .comma
  | ':' => some .colon
  | '@' => some .atSign
  | '+' => some .add
  | '-' => some .sub
  | '*' => some .mul
  | '/' => some .div
  | '%' => some .mod
  | '^' => some .pow
  | _ => none

/-- The symbols of two characters. -/
def pairSymbol? (first second : Char) : Option TokenKind :=
  match first, second with
  | '=', '=' => some .equal
  | '=', '~' => some .equalRegex
  | '!', '=' => some .notEqual
  | '!', '~' => some .notEqualRegex
  | '<', '=' => some .lessEqual
  | '>', '=' => some .greaterEqual
  | _, _ => none

/-- Reads a symbol that no second character extends. -/
def readSingle (c : Char) : Reading TokenKind :=
  match c with
  | '=' => .found [c] .assign
  | '<' => .found [c] .less
  | '>' => .found [c] .greater
  | '!' => .fault [c] .loneExclamation
  | _ =>
    match symbol? c with
    | some kind => .found [c] kind
    | none => .fault [c] (.unexpectedCharacter c)

/-- Reads a symbol behind its first character, the longest one possible. -/
def readSymbol (c : Char) : List Char → Reading TokenKind
  | [] => readSingle c
  | next :: _ =>
    match pairSymbol? c next with
    | some kind => .found [c, next] kind
    | none => readSingle c

/-! ## Tokens -/

/-- A token's kind and text, before its place is known. -/
structure Lexeme where
  kind : TokenKind
  text : List Char
  deriving DecidableEq, Repr, Inhabited

/-- The lexeme whose text is what was read. -/
def Reading.verbatim (reading : Reading TokenKind) : Reading Lexeme :=
  reading.map fun kind => ⟨kind, reading.source⟩

/-- The head of a text begins a number: a digit, or a point before one. -/
def startsNumber (first : Char) (rest : List Char) : Bool :=
  first.isDigit || (first == '.' && (rest.head?.any Char.isDigit))

/-- The head of a text begins a word: a letter or underscore, or a colon before one. -/
def startsWord (first : Char) (rest : List Char) : Bool :=
  isWordStart first || (first == ':' && (rest.head?.any isWordStart))

/-- Reads the token at the head of a text that begins with no gap. -/
def readLexeme (first : Char) (rest : List Char) : Reading Lexeme :=
  if first = '\x22' || first = '\x27' then (readString first rest).map (⟨.string, ·⟩)
  else if first = '\x60' then (readRaw first rest).map (⟨.string, ·⟩)
  else if startsNumber first rest then (readNumber (first :: rest)).verbatim
  else if startsWord first rest then (readWord first rest).verbatim
  else (readSymbol first rest).verbatim

/-! ## Every reading makes progress -/

theorem source_behind {α : Type} (front : List Char) (reading : Reading α) :
    (reading.behind front).source = front ++ reading.source := rfl

theorem source_map {α β : Type} (f : α → β) (reading : Reading α) :
    (reading.map f).source = reading.source := rfl

theorem source_finishNumber (kind : TokenKind) (source rest : List Char) :
    (finishNumber kind source rest).source = source := by
  unfold finishNumber
  split
  · rfl
  · split <;> rfl

theorem source_readString_ne_nil (quote : Char) (rest : List Char) :
    (readString quote rest).source ≠ [] := by
  unfold readString
  simp only
  split <;> simp [Reading.atStart, source_behind]

theorem source_readRaw_ne_nil (quote : Char) (rest : List Char) :
    (readRaw quote rest).source ≠ [] := by
  unfold readRaw
  simp only
  split <;> simp [Reading.fault, Reading.found]

theorem source_readHexadecimal_ne_nil {lead : List Char} (rest : List Char) (h : lead ≠ []) :
    (readHexadecimal lead rest).source ≠ [] := by
  unfold readHexadecimal
  simp only
  split
  · simpa [Reading.fault] using h
  · simp [source_finishNumber, h]

theorem source_readDuration (digits rest : List Char) :
    (readDuration digits rest).source = digits ++ (readUnits rest).source := by
  unfold readDuration
  simp only
  split
  · rfl
  · exact source_finishNumber ..

theorem decimalParts_ne_nil {first : Char} {rest : List Char}
    (h : startsNumber first rest = true) :
    (decimalParts (first :: rest)).whole ++ (decimalParts (first :: rest)).fraction ≠ [] := by
  by_cases digit : first.isDigit
  · simp [decimalParts, digit]
  · have point : first = '.' := by simp_all [startsNumber]
    subst point
    simp [decimalParts, fractionPart]

theorem source_readDecimal_ne_nil {first : Char} {rest : List Char}
    (h : startsNumber first rest = true) : (readDecimal (first :: rest)).source ≠ [] := by
  have parts := decimalParts_ne_nil h
  unfold readDecimal
  simp only
  split
  · rename_i integral
    simp only [Bool.and_eq_true, List.isEmpty_iff] at integral
    rw [integral.1.1, List.append_nil] at parts
    simp [source_readDuration, parts]
  · rw [source_finishNumber, Ne, List.append_eq_nil_iff]
    exact fun nil => parts nil.1

theorem source_readNumber_ne_nil {first : Char} {rest : List Char}
    (h : startsNumber first rest = true) : (readNumber (first :: rest)).source ≠ [] := by
  unfold readNumber
  split
  · exact source_readHexadecimal_ne_nil _ (by simp)
  · exact source_readHexadecimal_ne_nil _ (by simp)
  · exact source_readDecimal_ne_nil h

theorem source_readSingle (c : Char) : (readSingle c).source = [c] := by
  unfold readSingle
  split <;> first | rfl | (split <;> rfl)

theorem source_readSymbol_ne_nil (c : Char) (rest : List Char) :
    (readSymbol c rest).source ≠ [] := by
  unfold readSymbol
  split
  · simp [source_readSingle]
  · split
    · simp [Reading.found]
    · simp [source_readSingle]

/-- A reading of a token takes at least one character. -/
theorem source_readLexeme_ne_nil (first : Char) (rest : List Char) :
    (readLexeme first rest).source ≠ [] := by
  unfold readLexeme
  split
  · exact source_readString_ne_nil first rest
  · split
    · exact source_readRaw_ne_nil first rest
    · split
      · rename_i h
        exact source_readNumber_ne_nil h
      · split
        · simp [Reading.verbatim, source_map, readWord, Reading.found]
        · exact source_readSymbol_ne_nil first rest

/-! ## Tokenizing -/

/-- A place in the input: its byte offset and the text from there on. -/
structure Cursor where
  pos : Nat
  rest : List Char
  deriving DecidableEq, Repr, Inhabited

namespace Cursor

def start (input : String) : Cursor := ⟨0, input.toList⟩

/-- The place behind the given characters. -/
def advance (cursor : Cursor) (source : List Char) : Cursor :=
  ⟨cursor.pos + Text.byteLength source, cursor.rest.drop source.length⟩

/-- The place behind the gap. -/
def skipGap (cursor : Cursor) : Cursor := cursor.advance (gap false cursor.rest)

/-- Reads the next token, and says where the text goes on behind it.  At the end of the input
every call reads the end. -/
def next (cursor : Cursor) : Except LexicalError Token × Cursor :=
  let here := cursor.skipGap
  match here.rest with
  | [] => (.ok ⟨.eof, "", here.pos⟩, here)
  | first :: rest =>
    let reading := readLexeme first rest
    let behind := here.advance reading.source
    match reading.outcome with
    | .ok lexeme => (.ok ⟨lexeme.kind, String.ofList lexeme.text, here.pos⟩, behind)
    | .error stumble =>
      (.error ⟨stumble.fault, here.pos + Text.byteLength stumble.before⟩, behind)

theorem length_skipGap_le (cursor : Cursor) : cursor.skipGap.rest.length ≤ cursor.rest.length := by
  simp [skipGap, advance]

/-- Unless the text is at its end, reading a token leaves less of it. -/
theorem length_next_lt {cursor : Cursor} {first : Char} {rest : List Char}
    (h : cursor.skipGap.rest = first :: rest) :
    cursor.next.2.rest.length < cursor.rest.length := by
  have skipped := cursor.length_skipGap_le
  have taken : 0 < (readLexeme first rest).source.length :=
    List.length_pos_iff.2 (source_readLexeme_ne_nil first rest)
  have behind : (cursor.skipGap.advance (readLexeme first rest).source).rest.length
      < cursor.rest.length := by
    simp only [advance, List.length_drop]
    rw [h] at skipped ⊢
    simp only [List.length_cons] at skipped ⊢
    omega
  unfold next
  simp only [h]
  split <;> exact behind

/-- The tokens from a place on, the last of which stands for the end of the input. -/
def tokens (cursor : Cursor) : Except LexicalError (List Token) :=
  match _h : cursor.skipGap.rest with
  | [] => .ok [⟨.eof, "", cursor.skipGap.pos⟩]
  | _ :: _ =>
    match cursor.next.1 with
    | .error error => .error error
    | .ok token => (cursor.next.2.tokens).map (token :: ·)
termination_by cursor.rest.length
decreasing_by exact length_next_lt _h

end Cursor

def tokenize (input : String) : Except LexicalError (List Token) := (Cursor.start input).tokens

end RuleAtlas.Query
