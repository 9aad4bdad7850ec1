import RuleAtlas.Query.Parse

/-! # A lexer with byte offsets

This lexer keeps what is left of its input, each character with the byte offset that it stands
at, and looks at characters through it.  Texts are cut out of the input between two offsets,
and the codes of escapes are added up in 32 bits.  Every cut and every addition is checked, and
one that fails stops the call in a way of its own; so does a loop that is not over after a
number of steps.  The rules of the tokens are those of the readings over lists, but nothing
here hides whether an offset is one between two characters, whether a sum fits, or whether a
loop ends. -/

namespace RuleAtlas.Query

open Text (byteLength)

/-- Why a call stops: its input is at fault, or the lexer itself is. -/
inductive Halt where
  | refused (error : LexicalError)
  | offBoundary
  | overflow
  | outOfSteps
  deriving DecidableEq, Repr, Inhabited

/-- The input, and how many steps a loop may take. -/
structure Tape where
  text : List Char
  steps : Nat

/-- What is left of the input: its characters, each at its byte offset. -/
abbrev Reel : Type := List (Nat × Char)

/-- A scan over a tape comes to a value or stops, and leaves a reel. -/
def Scan (α : Type) : Type := Tape → Reel → Except Halt α × Reel

/-- The text behind the first bytes, if they end between two characters. -/
def dropBytes? (count : Nat) : List Char → Option (List Char)
  | [] => if count = 0 then some [] else none
  | c :: text =>
    if count = 0 then some (c :: text)
    else if c.utf8Size ≤ count then dropBytes? (count - c.utf8Size) text
    else none

/-- The text of the first bytes, if they end between two characters. -/
def takeBytes? (count : Nat) : List Char → Option (List Char)
  | [] => if count = 0 then some [] else none
  | c :: text =>
    if count = 0 then some []
    else if c.utf8Size ≤ count then (takeBytes? (count - c.utf8Size) text).map (c :: ·)
    else none

/-- The text between two byte offsets in this order, each of them between two characters. -/
def slice? (text : List Char) (start stop : Nat) : Option (List Char) :=
  if start ≤ stop then (dropBytes? start text).bind (takeBytes? (stop - start)) else none

namespace Scan

variable {α β : Type}

def value (a : α) : Scan α := fun _ reel => (.ok a, reel)

/-- One scan behind another one; where the first one stops the reel stays as it is. -/
def andThen (first : Scan α) (second : α → Scan β) : Scan β := fun tape reel =>
  match first tape reel with
  | (.ok a, rest) => second a tape rest
  | (.error halt, rest) => (.error halt, rest)

instance : Monad Scan where
  pure := value
  bind := andThen

def halt (reason : Halt) : Scan α := fun _ reel => (.error reason, reel)

/-- A fault of the input, reported at this offset. -/
def refuse (pos : Nat) (fault : LexicalFault) : Scan α := halt (.refused ⟨fault, pos⟩)

/-! ## Characters and offsets -/

/-- The character so many places ahead; behind the last one there is only a NUL character. -/
def glance (count : Nat) : Scan Char := fun _ reel =>
  (.ok (reel[count]?.elim '\x00' Prod.snd), reel)

/-- The length of the input in bytes. -/
def length : Scan Nat := fun tape reel => (.ok (byteLength tape.text), reel)

/-- The offset of the current character, or of the end of the input. -/
def position : Scan Nat := fun tape reel =>
  (.ok (reel.head?.elim (byteLength tape.text) Prod.fst), reel)

/-- Takes the current character with its offset, if there is one. -/
def take : Scan (Option (Nat × Char)) := fun _ reel => (.ok reel.head?, reel.tail)

/-- The text of the input between two offsets. -/
def slice (start stop : Nat) : Scan (List Char) := fun tape reel =>
  match slice? tape.text start stop with
  | some text => (.ok text, reel)
  | none => (.error .offBoundary, reel)

/-- The token with the text from an offset up to the current one. -/
def token (kind : TokenKind) (start : Nat) : Scan Token := do
  let stop ← position
  let text ← slice start stop
  pure ⟨kind, String.ofList text, start⟩

/-- A digit behind a value, both in 32 bits. -/
def addDigit (radix value digit : Nat) : Scan Nat :=
  if value * radix + digit < Nat.pow 2 32 then pure (value * radix + digit) else halt .overflow

/-! ## Loops -/

/-- Runs rounds until one is the last, within the given number of steps. -/
def rounds (round : α → Scan (Parse.Round α)) : Nat → α → Scan α
  | 0, _ => halt .outOfSteps
  | steps + 1, a => do
    match ← round a with
    | .again b => rounds round steps b
    | .done b => pure b

def loop (round : α → Scan (Parse.Round α)) (a : α) : Scan α := fun tape reel =>
  rounds round tape.steps a tape reel

/-- Takes the current character if it is of this kind. -/
def skipOne (kind : Char → Bool) (_ : Unit) : Scan (Parse.Round Unit) := do
  if kind (← glance 0) then
    let _ ← take
    pure (.again ())
  else pure (.done ())

/-- Takes characters as long as they are of this kind. -/
def skipRun (kind : Char → Bool) : Scan Unit := loop (skipOne kind) ()

end Scan

end RuleAtlas.Query
