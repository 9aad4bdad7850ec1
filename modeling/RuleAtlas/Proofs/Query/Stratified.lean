import RuleAtlas.Proofs.Query.Relations
import RuleAtlas.Proofs.Query.Steps

/-! # The stratified grammar

A descent without a bound on its depth that has one level for every precedence: a level reads
the next tighter one and loops over the operators of its own, and above them stands a level of
signs and powers.  The operators of every level are listed here.  The grammar shares primary
expressions, clauses and the words behind operators with the parser, and it is given by its own
equations, `read_eq`. -/

namespace RuleAtlas.Query.Stratified

open Parse

/-! ## The operators of the levels -/

/-- The level of signs and powers, above the levels of the other operators. -/
def unaryLevel : Nat := 6

/-- The operators of a level that are written with signs. -/
def signs : (level : Nat) → List (TokenKind × BinaryOp)
  | 3 =>
    [(.equal, .equal), (.notEqual, .notEqual), (.greater, .greater), (.less, .less),
     (.greaterEqual, .greaterEqual), (.lessEqual, .lessEqual)]
  | 4 => [(.add, .add), (.sub, .sub)]
  | 5 => [(.mul, .mul), (.div, .div), (.mod, .mod)]
  | _ => []

/-- The operators of a level that are words. -/
def words : (level : Nat) → List (String × BinaryOp)
  | 1 => [("or", .or)]
  | 2 => [("and", .and), ("unless", .unless)]
  | 5 => [("atan2", .atan2)]
  | _ => []

/-- The operator of a level that a token is, if it is one; a word is one in any case. -/
def operator? (level : Nat) (token : Token) : Option BinaryOp :=
  if token.kind = .ident then (words level).lookup (lowercase token.text)
  else (signs level).lookup token.kind

/-- The sign in front of an operand that a token is, if it is one. -/
def sign? : TokenKind → Option UnaryOp
  | .add => some .pos
  | .sub => some .neg
  | _ => none

theorem kind_of_operator {level : Nat} {token : Token} {op : BinaryOp}
    (found : operator? level token = some op) : token.kind ≠ .eof := by
  intro eof
  rw [operator?, eof, if_neg (by decide)] at found
  unfold signs at found
  split at found <;> cases found

/-! ## Levels over given inner expressions -/

/-- Reads a power behind its base, if there is one. -/
def readPower (inner : Nat → Parse Expr) (base : Expr) : Parse Expr := do
  if (← peek).kind = .pow then
    let _ ← next
    let clause ← readClause .pow
    let exponent ← inner unaryLevel
    pure (.binary clause base exponent)
  else pure base

/-- Reads a sign and the unary level behind it, or an operand with its clauses and perhaps a
power, whose exponent is of the unary level again. -/
def readSigned (inner : Nat → Parse Expr) : Parse Expr := do
  match sign? (← peek).kind with
  | some op =>
    let _ ← next
    .unary op <$> inner unaryLevel
  | none =>
    let primary ← readPrimary inner
    let base ← readPostfixes primary
    readPower inner base

/-- Reads an operator of the level and its right operand, of the next tighter level. -/
def readOwnOperation (inner : Nat → Parse Expr) (level : Nat) (left : Expr) :
    Parse (Round Expr) := do
  match operator? level (← peek) with
  | none => pure (.done left)
  | some op =>
    let _ ← next
    let clause ← readClause op
    let right ← inner (level + 1)
    pure (.again (.binary clause left right))

/-- Reads the next tighter level and then the operators of the level itself. -/
def readLevel (inner : Nat → Parse Expr) (level : Nat) : Parse Expr :=
  if level < unaryLevel then do
    let left ← readLevel inner (level + 1)
    loop (readOwnOperation inner level) left
  else readSigned inner
termination_by unaryLevel - level

theorem readLevel_of_lt {level : Nat} (inner : Nat → Parse Expr) (below : level < unaryLevel) :
    readLevel inner level =
      readLevel inner (level + 1) >>= fun left => loop (readOwnOperation inner level) left := by
  rw [readLevel, if_pos below]

theorem readLevel_of_le {level : Nat} (inner : Nat → Parse Expr) (above : unaryLevel ≤ level) :
    readLevel inner level = readSigned inner := by
  rw [readLevel, if_neg (Nat.not_lt.2 above)]

/-- Reads a level with inner expressions at most as deep as said. -/
def readUpTo : (depth level : Nat) → Parse Expr
  | 0, _ => fault .nestedTooDeeply
  | depth + 1, level => readLevel (readUpTo depth) (max 1 level)

/-- Reads a level of the grammar, the lowest one for zero.  Inner expressions stand behind
tokens of their own, so the number of tokens is no bound on how deep they are. -/
def read (level : Nat) : Parse Expr := fun tokens => readUpTo (tokens.length + 1) level tokens

/-! ## Related inner expressions -/

section
variable {relation : Relation} {inner other : Nat → Parse Expr}
  (within : ∀ level ≤ unaryLevel, relation.Same (inner level) (other level))

theorem same_operator {level : Nat} {s t : Token} (alike : relation.tokens s t) :
    operator? level s = operator? level t := by
  unfold operator?
  rw [relation.kind alike, relation.text alike]

include within

theorem same_readPower (base : Expr) :
    relation.Same (readPower inner base) (readPower other base) := by
  refine relation.andThen relation.peek fun s t alike => ?_
  rw [relation.kind alike]
  split
  · refine Relation.behindNext (Relation.behind (Relation.readClause _) fun clause => ?_)
    exact Relation.behind (within _ (Nat.le_refl _)) fun exponent => Relation.same _
  · exact Relation.same base

theorem same_readSigned : relation.Same (readSigned inner) (readSigned other) := by
  refine relation.andThen relation.peek fun s t alike => ?_
  rw [relation.kind alike]
  split
  · exact Relation.behindNext (Relation.map _ (within _ (Nat.le_refl _)))
  · refine Relation.behind (Relation.readPrimary (within 0 (Nat.zero_le _))) fun primary => ?_
    exact Relation.behind (Relation.readPostfixes primary) (same_readPower within)

theorem same_readOwnOperation {level : Nat} (below : level < unaryLevel) (left : Expr) :
    relation.Same (readOwnOperation inner level left) (readOwnOperation other level left) := by
  refine relation.andThen relation.peek fun s t alike => ?_
  rw [same_operator alike]
  split
  · exact Relation.same _
  · refine Relation.behindNext (Relation.behind (Relation.readClause _) fun clause => ?_)
    exact Relation.behind (within _ below) fun right => Relation.same _

theorem same_readLevel (level : Nat) :
    relation.Same (readLevel inner level) (readLevel other level) := by
  induction level using readLevel.induct with
  | case1 level below inductionHypothesis =>
    rw [readLevel_of_lt inner below, readLevel_of_lt other below]
    exact Relation.behind inductionHypothesis fun left =>
      Relation.loop (same_readOwnOperation within below) left
  | case2 level above =>
    rw [readLevel_of_le inner (Nat.not_lt.1 above), readLevel_of_le other (Nat.not_lt.1 above)]
    exact same_readSigned within

end

/-! ## The grammar's own equations -/

/-- The outcomes are the same up to related values, and no more tokens are left than said. -/
def Agrees {α : Type} (values : α → α → Prop) (bound : Nat) :
    Except ParseError α × List Token → Except ParseError α × List Token → Prop
  | (.ok a, rest), (.ok b, left) => values a b ∧ rest = left ∧ rest.length ≤ bound
  | (.error error, rest), (.error other, left) => error = other ∧ rest = left
  | _, _ => False

theorem Agrees.mono {α : Type} {values : α → α → Prop} {bound larger : Nat}
    {outcome other : Except ParseError α × List Token} (agrees : Agrees values bound outcome other)
    (ordered : bound ≤ larger) : Agrees values larger outcome other := by
  rcases outcome with ⟨_ | a, rest⟩ <;> rcases other with ⟨_ | b, left⟩
  · exact agrees
  · exact agrees
  · exact agrees
  · exact ⟨agrees.1, agrees.2.1, Nat.le_trans agrees.2.2 ordered⟩

theorem Agrees.eq {α : Type} {bound : Nat} {outcome other : Except ParseError α × List Token}
    (agrees : Agrees Eq bound outcome other) : outcome = other := by
  rcases outcome with ⟨_ | a, rest⟩ <;> rcases other with ⟨_ | b, left⟩
  · exact Prod.ext (congrArg Except.error agrees.1) agrees.2
  · exact agrees.elim
  · exact agrees.elim
  · exact Prod.ext (congrArg Except.ok agrees.1) agrees.2.1

/-- On fewer tokens than said the parses come to the same. -/
def agreement (count : Nat) : Relation where
  tokens := Eq
  parses values p q := ∀ tokens : List Token, tokens.length < count →
    Agrees values tokens.length (p tokens) (q tokens)
  kind same := congrArg Token.kind same
  text same := congrArg Token.text same
  value same tokens _ := ⟨same, rfl, Nat.le_refl _⟩
  andThen := by
    intro α β values results p q f g front following tokens short
    -- What follows runs on the tokens that are left, and these are no more than before.
    have agrees := front tokens short
    rw [bind_apply, bind_apply]
    generalize p tokens = outcome at agrees ⊢
    generalize q tokens = other at agrees ⊢
    rcases outcome with ⟨_ | a, rest⟩ <;> rcases other with ⟨_ | b, left⟩
    · exact agrees
    · exact agrees.elim
    · exact agrees.elim
    · obtain ⟨same, rfl, fewer⟩ := agrees
      exact (following a b same rest (by omega)).mono fewer
  peek tokens _ := ⟨rfl, rfl, Nat.le_refl _⟩
  peekSecond tokens _ := ⟨rfl, rfl, Nat.le_refl _⟩
  next tokens _ := by
    refine ⟨rfl, rfl, ?_⟩
    split
    · exact Nat.le_refl _
    · simp
  fault cause tokens _ := ⟨rfl, rfl⟩
  unexpected place tokens _ := ⟨rfl, rfl⟩
  measured same tokens short := same tokens.length tokens short

section
variable {count : Nat} {inner other : Nat → Parse Expr} {tokens : List Token}

/-- Behind a token that is taken there are fewer. -/
theorem agrees_behindNext {α : Type} {f g : Token → Parse α} {kind : TokenKind}
    (short : tokens.length < count + 1) (here : (first tokens).kind = kind)
    (noEnd : kind ≠ .eof)
    (following : ∀ token, (agreement count).Same (f token) (g token)) :
    Agrees Eq tokens.length ((next >>= f) tokens) ((next >>= g) tokens) := by
  obtain ⟨token, middle, rfl, rfl⟩ := eq_cons_of_first here noEnd
  rw [bind_of_ok (next_cons noEnd middle), bind_of_ok (next_cons noEnd middle)]
  rw [List.length_cons] at short ⊢
  exact (following token middle (by omega)).mono (by omega)

theorem agreement_readPrimary (within : (agreement count).Same (inner 0) (other 0)) :
    (agreement (count + 1)).Same (readPrimary inner) (readPrimary other) := by
  intro tokens short
  by_cases paren : (first tokens).kind = .leftParen
  · rw [readPrimary, readPrimary, peek_bind, peek_bind, paren]
    exact agrees_behindNext short paren (by decide) fun _ => Relation.readParen within
  by_cases word : (first tokens).kind = .ident
  · rw [readPrimary, readPrimary, peek_bind, peek_bind, word]
    dsimp only
    rw [readWordExpr_eq, readWordExpr_eq, peekSecond_bind, peekSecond_bind]
    exact agrees_behindNext short word (by decide) fun _ =>
      Relation.readBehindWord within rfl rfl
  -- No other kind of token leads to inner expressions, so there any two of them agree.
  have apart : ∀ inner : Nat → Parse Expr, readPrimary inner tokens =
      readPrimary (fun _ => fault .noExpression) tokens := by
    intro inner
    rw [readPrimary, readPrimary, peek_bind, peek_bind]
    -- Every other token begins a primary expression without an inner one, or none.
    cases kind : (first tokens).kind <;>
      first | rfl | exact absurd kind paren | exact absurd kind word
  rw [apart inner, apart other]
  exact (Relation.readPrimary (Relation.fails _) : (agreement (count + 1)).Same _ _) tokens short

section
variable (within : ∀ level, (agreement count).Same (inner level) (other level))
include within

theorem agreement_readPower (base : Expr) :
    (agreement (count + 1)).Same (readPower inner base) (readPower other base) := by
  intro tokens short
  rw [readPower, readPower, peek_bind, peek_bind]
  split
  · rename_i power
    refine agrees_behindNext short power (by decide) fun _ => ?_
    exact Relation.behind (Relation.readClause _) fun clause =>
      Relation.behind (within _) fun exponent => Relation.same _
  · exact ⟨rfl, rfl, Nat.le_refl _⟩

theorem agreement_readSigned :
    (agreement (count + 1)).Same (readSigned inner) (readSigned other) := by
  intro tokens short
  rw [readSigned, readSigned, peek_bind, peek_bind]
  cases sign : sign? (first tokens).kind with
  | some op =>
    have noEnd : (first tokens).kind ≠ .eof := by
      intro eof
      rw [eof] at sign
      cases sign
    exact agrees_behindNext short rfl noEnd fun _ => Relation.map _ (within _)
  | none =>
    have operand : (agreement (count + 1)).Same
        (readPrimary inner >>= fun primary => readPostfixes primary >>= readPower inner)
        (readPrimary other >>= fun primary => readPostfixes primary >>= readPower other) :=
      Relation.behind (agreement_readPrimary (within 0)) fun primary =>
        Relation.behind (Relation.readPostfixes primary) (agreement_readPower within)
    exact operand tokens short

theorem agreement_readOwnOperation (level : Nat) (left : Expr) :
    (agreement (count + 1)).Same (readOwnOperation inner level left)
      (readOwnOperation other level left) := by
  intro tokens short
  rw [readOwnOperation, readOwnOperation, peek_bind, peek_bind]
  cases found : operator? level (first tokens) with
  | none => exact ⟨rfl, rfl, Nat.le_refl _⟩
  | some op =>
    refine agrees_behindNext short rfl (kind_of_operator found) fun _ => ?_
    exact Relation.behind (Relation.readClause _) fun clause =>
      Relation.behind (within _) fun right => Relation.same _

/-- A level only reads inner expressions behind a token of its own. -/
theorem agreement_readLevel (level : Nat) :
    (agreement (count + 1)).Same (readLevel inner level) (readLevel other level) := by
  induction level using readLevel.induct with
  | case1 level below inductionHypothesis =>
    rw [readLevel_of_lt inner below, readLevel_of_lt other below]
    exact Relation.behind inductionHypothesis fun left =>
      Relation.loop (agreement_readOwnOperation within level) left
  | case2 level above =>
    rw [readLevel_of_le inner (Nat.not_lt.1 above), readLevel_of_le other (Nat.not_lt.1 above)]
    exact agreement_readSigned within

end

/-- Depths beyond the number of tokens make no difference. -/
theorem agreement_readUpTo {depth deeper : Nat} (enough : count ≤ depth)
    (otherEnough : count ≤ deeper) (level : Nat) :
    (agreement count).Same (readUpTo depth level) (readUpTo deeper level) := by
  -- Every level of depth takes a token before it goes inside, so the tokens run out first.
  induction count generalizing depth deeper level with
  | zero =>
    intro tokens short
    exact absurd short (Nat.not_lt_zero _)
  | succ count inductionHypothesis =>
    obtain ⟨depth, rfl⟩ := Nat.exists_eq_add_of_lt enough
    obtain ⟨deeper, rfl⟩ := Nat.exists_eq_add_of_lt otherEnough
    exact agreement_readLevel (fun level => inductionHypothesis (by omega) (by omega) level) _

end

/-- A level of the grammar reads the levels of the grammar. -/
theorem read_eq (level : Nat) : read level = readLevel read (max 1 level) := by
  funext tokens
  -- Inside there are fewer tokens, on which any depth beyond their number reads the same.
  have within : ∀ level, (agreement tokens.length).Same (readUpTo tokens.length level)
      (read level) := by
    intro level rest short
    have enough : rest.length + 1 ≤ tokens.length := short
    exact agreement_readUpTo enough (Nat.le_refl _) level rest (Nat.lt_succ_self _)
  exact (agreement_readLevel within _ tokens (Nat.lt_succ_self _)).eq

end RuleAtlas.Query.Stratified
