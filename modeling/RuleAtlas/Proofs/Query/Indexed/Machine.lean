import RuleAtlas.Query.Expr.Parser

/-! # A parser with an index

This parser keeps all tokens of its input, the index of the current one, and how many
expressions it is inside of.  Every access by an index is checked, and an index or a depth that
is out of range stops the run in a way of its own; so does a loop or a recursion that is not
over after a number of steps.  The grammar is that of the parses over lists, but nothing here
hides whether a token is there, whether the index stays in range, or whether the depth is set
back. -/

namespace RuleAtlas.Query

/-- Why a run stops: its input is at fault, or the parser itself is. -/
inductive Stop where
  | refused (error : ParseError)
  | outOfRange
  | outOfSteps
  deriving DecidableEq, Repr, Inhabited

/-- The index of the current token, and how many expressions the parser is inside of. -/
structure Point where
  pos : Nat
  depth : Nat
  deriving DecidableEq, Repr, Inhabited

/-- The tokens, and how many steps a loop or a recursion may take. -/
structure Input where
  tokens : List Token
  steps : Nat

/-- A run over an input comes to a value or stops, and leaves the parser at a point. -/
def Run (α : Type) : Type := Input → Point → Except Stop α × Point

namespace Run

variable {α β : Type}

def value (a : α) : Run α := fun _ point => (.ok a, point)

/-- One run behind another one; where the first one stops the parser stays at its point. -/
def andThen (first : Run α) (second : α → Run β) : Run β := fun input point =>
  match first input point with
  | (.ok a, next) => second a input next
  | (.error stop, next) => (.error stop, next)

instance : Monad Run where
  pure := value
  bind := andThen

def stop (reason : Stop) : Run α := fun _ point => (.error reason, point)

/-! ## Tokens -/

/-- The token so many places ahead, which has to be there. -/
def ahead (count : Nat) : Run Token := fun input point =>
  match input.tokens[point.pos + count]? with
  | some token => (.ok token, point)
  | none => (.error .outOfRange, point)

/-- The current token. -/
def here : Run Token := ahead 0

/-- The kind of the token so many places ahead; behind the last one there is only the end. -/
def kindAhead (count : Nat) : Run TokenKind := fun input point =>
  (.ok (input.tokens[point.pos + count]?.elim .eof Token.kind), point)

def advance : Run Unit := fun _ point => (.ok (), { point with pos := point.pos + 1 })

/-- Takes the current token, unless it stands for the end. -/
def take : Run Token := do
  let token ← here
  if token.isEof then pure token
  else
    advance
    pure token

/-- A fault of the input, reported at the current token. -/
def refuse (cause : SyntaxFault) : Run α := do
  let token ← here
  stop (.refused ⟨cause, token.pos⟩)

def unexpected (place : Place) : Run α := do
  let token ← here
  refuse (.unexpected token place)

/-- The value, or a fault reported at the current token. -/
def settle (result : Except SyntaxFault α) : Run α :=
  match result with
  | .ok a => value a
  | .error cause => refuse cause

def expect (kind : TokenKind) (place : Place) : Run Token := do
  if (← here).kind = kind then take else unexpected place

/-- Takes the current token if it is of the given kind, and says whether it was. -/
def accept (kind : TokenKind) : Run Bool := do
  if (← here).kind = kind then
    let _ ← take
    pure true
  else pure false

def acceptWord (word : String) : Run Bool := do
  if (← here).isWord word then
    let _ ← take
    pure true
  else pure false

/-! ## Loops and depth -/

/-- Runs rounds until one is the last, within the given number of steps. -/
def rounds (round : α → Run (Parse.Round α)) : Nat → α → Run α
  | 0, _ => stop .outOfSteps
  | steps + 1, a => do
    match ← round a with
    | .again b => rounds round steps b
    | .done b => pure b

def loop (round : α → Run (Parse.Round α)) (a : α) : Run α := fun input point =>
  rounds round input.steps a input point

/-- Reads one more item, unless the closing token comes first; a comma goes on. -/
def readItem (item : Run α) (closing : Option TokenKind) (found : List α) :
    Run (Parse.Round (List α)) := do
  if some (← here).kind = closing then pure (.done found)
  else
    let a ← item
    if ← accept .comma then pure (.again (found ++ [a])) else pure (.done (found ++ [a]))

/-- Items with commas between them, up to the closing token or to an item without a comma. -/
def listed (item : Run α) (closing : Option TokenKind) : Run (List α) :=
  loop (readItem item closing) []

def depth : Run Nat := fun _ point => (.ok point.depth, point)

/-- One expression deeper; whatever the run comes to, the depth goes back by one, which it
cannot do at the top. -/
def deeper (run : Run α) : Run α := fun input point =>
  match run input { point with depth := point.depth + 1 } with
  | (_, ⟨pos, 0⟩) => (.error .outOfRange, ⟨pos, 0⟩)
  | (outcome, ⟨pos, depth + 1⟩) => (outcome, ⟨pos, depth⟩)

end Run

end RuleAtlas.Query
