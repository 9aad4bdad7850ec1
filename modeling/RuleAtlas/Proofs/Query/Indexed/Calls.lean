import RuleAtlas.Proofs.Query.Accepted.Trees
import RuleAtlas.Proofs.Query.Indexed.Grammar
import RuleAtlas.Proofs.Query.Spans

/-! # One parser, many calls

A parser with an index reads one expression after the other from the tokens of a text, also
where a call came to a fault.  Every call ends, stays in range, sets the depth back, and takes
a token if it comes to a tree; and the tree is nested no deeper than the levels allow. -/

namespace RuleAtlas.Query

open Parse

variable {tokens rest : List Token} {expr : Expr}

/-! ## Nesting -/

mutual

/-- How deeply an expression is nested, where the left operands of operators and the operands
of subqueries are no deeper than the whole. -/
def Expr.nesting : Expr → Nat
  | .number _ => 1
  | .string _ => 1
  | .vector _ => 1
  | .matrix _ _ => 1
  | .subquery body _ => body.nesting
  | .call _ arguments => 1 + Expr.nestingOfAll arguments
  | .aggregate _ parameter body _ => 1 + max (Expr.nestingOfOption parameter) body.nesting
  | .binary _ left right => max left.nesting (1 + right.nesting)
  | .unary _ body => 1 + body.nesting
  | .paren body => 1 + body.nesting

/-- The nesting of the deepest of the expressions, if there are any. -/
def Expr.nestingOfAll : List Expr → Nat
  | [] => 0
  | expr :: exprs => max expr.nesting (Expr.nestingOfAll exprs)

def Expr.nestingOfOption : Option Expr → Nat
  | none => 0
  | some expr => expr.nesting

end

theorem Expr.nestingOfAll_le {exprs : List Expr} {limit : Nat}
    (each : ∀ expr ∈ exprs, expr.nesting ≤ limit) : Expr.nestingOfAll exprs ≤ limit := by
  induction exprs with
  | nil => exact Nat.zero_le limit
  | cons expr exprs inductionHypothesis =>
    rw [Expr.nestingOfAll]
    apply Nat.max_le.2
    simp_all

/-- An expression that can be read within some levels is nested one deeper than them at most. -/
theorem Readable.nesting_le {levels least : Nat} (readable : Readable levels least expr) :
    expr.nesting ≤ levels + 1 := by
  induction readable with
  | number | string | vector | matrix => simp [Expr.nesting]
  | subquery readable operand noRange proper inductionHypothesis =>
    exact inductionHypothesis
  | @call levels least name entry arguments word noNumber noAggregate known counted room readable
      inductionHypothesis =>
    rw [Expr.nesting]
    cases arguments with
    | nil => simp [Expr.nestingOfAll]
    | cons argument arguments =>
      have some := room (List.cons_ne_nil argument arguments)
      have deepest := Expr.nestingOfAll_le inductionHypothesis
      omega
  | @aggregate levels least op parameter body grouping words takes readableParameter readable
      parameterHypothesis bodyHypothesis =>
    have deepest : Expr.nestingOfOption parameter ≤ levels + 1 := by
      cases parameter with
      | none => exact Nat.zero_le _
      | some parameter => exact parameterHypothesis parameter rfl
    rw [Expr.nesting]
    omega
  | binary tight readableLeft loose readableRight proper admits leftHypothesis rightHypothesis =>
    rw [Expr.nesting]
    omega
  | unary readable inductionHypothesis =>
    rw [Expr.nesting]
    omega
  | paren readable inductionHypothesis =>
    rw [Expr.nesting]
    omega

/-! ## Expressions take tokens -/

section
variable {α : Type} {following : Token → Parse α} {a : α}
  (leaves : ∀ token, leaving.Same (following token) (following token))
include leaves

theorem length_lt_of_next (noEnd : (first tokens).kind ≠ .eof)
    (came : (next >>= following) tokens = (.ok a, rest)) : rest.length < tokens.length := by
  obtain ⟨token, middle, rfl, -⟩ := eq_cons_of_first rfl noEnd
  rw [first_cons] at noEnd
  rw [bind_of_ok (next_cons noEnd middle)] at came
  exact Nat.lt_succ_of_le (length_le_of_same (leaves token) came)

theorem length_lt_of_expect {kind : TokenKind} {place : Place} (inner : kind ≠ .eof)
    (came : (expect kind place >>= following) tokens = (.ok a, rest)) :
    rest.length < tokens.length := by
  obtain ⟨token, middle, expected, behind⟩ := bind_eq_ok.1 came
  obtain ⟨rfl, -⟩ := expect_eq_ok inner expected
  exact Nat.lt_succ_of_le (length_le_of_same (leaves token) behind)

end

theorem length_lt_of_readMatchers {matchers : List LabelMatcher}
    (came : readMatchers tokens = (.ok matchers, rest)) : rest.length < tokens.length := by
  refine length_lt_of_expect (fun _ => ?_) (by decide) came
  refine Relation.choice (Relation.same []) (Relation.separated Relation.readMatcher _) ?_
  exact fun matchers => Relation.behindExpected .rightBrace .matchersEnd (Relation.same matchers)

/-- A selector without a name begins with its braces. -/
theorem length_lt_of_readSelector (brace : (first tokens).kind = .leftBrace)
    (came : readSelector none tokens = (.ok expr, rest)) : rest.length < tokens.length := by
  rw [readSelector, choice_of_kind brace] at came
  obtain ⟨matchers, middle, read, came⟩ := bind_eq_ok.1 came
  dsimp only at came
  split at came
  · cases came
  · split at came
    · cases came
    · cases came
      exact length_lt_of_readMatchers read

section
variable {inner : Nat → Parse Expr}
  (leaves : ∀ least, leaving.Same (inner least) (inner least))
include leaves

theorem length_lt_of_readPrimary (came : readPrimary inner tokens = (.ok expr, rest)) :
    rest.length < tokens.length := by
  rw [readPrimary, peek_bind] at came
  -- Every kind that begins an expression is taken, the brace by the reader of matchers.
  cases kind : (first tokens).kind with
  | number =>
    rw [kind] at came
    exact length_lt_of_next (fun _ => Relation.map _ (Relation.numberOf rfl)) (by simp [kind]) came
  | string =>
    rw [kind] at came
    exact length_lt_of_next (fun _ => Relation.same _) (by simp [kind]) came
  | leftParen =>
    rw [kind] at came
    exact length_lt_of_next (fun _ => Relation.readParen (leaves 0)) (by simp [kind]) came
  | leftBrace =>
    rw [kind] at came
    exact length_lt_of_readSelector kind came
  | ident =>
    rw [kind] at came
    dsimp only at came
    rw [readWordExpr_eq, peekSecond_bind] at came
    refine length_lt_of_next (fun _ => ?_) (by simp [kind]) came
    exact Relation.readBehindWord (leaves 0) rfl rfl
  | _ =>
    rw [kind] at came
    cases came

theorem length_lt_of_readUnary (came : readUnary inner tokens = (.ok expr, rest)) :
    rest.length < tokens.length := by
  rw [readUnary, peek_bind] at came
  cases sign : unaryOp? (first tokens).kind with
  | some op =>
    rw [sign] at came
    refine length_lt_of_next (fun _ => Relation.map _ (leaves signPrecedence)) ?_ came
    intro eof
    rw [eof] at sign
    cases sign
  | none =>
    rw [sign] at came
    obtain ⟨primary, middle, read, came⟩ := bind_eq_ok.1 came
    have shorter := length_lt_of_readPrimary leaves read
    have behind := length_le_of_same (Relation.readPostfixes primary) came
    omega

theorem length_lt_of_readOperands {least : Nat}
    (came : readOperands inner least tokens = (.ok expr, rest)) : rest.length < tokens.length := by
  obtain ⟨left, middle, read, came⟩ := bind_eq_ok.1 came
  have shorter := length_lt_of_readUnary leaves read
  have behind := length_le_of_same (Relation.loop (Relation.readOperation leaves least) left) came
  omega

end

theorem length_lt_of_readLevels {levels least : Nat}
    (came : readLevels levels least tokens = (.ok expr, rest)) : rest.length < tokens.length := by
  cases levels with
  | zero => cases came
  | succ levels => exact length_lt_of_readOperands (Relation.readLevels levels) came

/-! ## Calls -/

/-- The point of a parser after so many calls, each from where the one before has stopped. -/
def Input.pointAfter (input : Input) : (calls : Nat) → Point
  | 0 => ⟨0, 0⟩
  | calls + 1 => (Run.readExpr input (input.pointAfter calls)).2

/-- A call from one point to another.  It comes to a tree or to a fault of the input, as the
parse of the tokens from there on does, and never to an index out of range or to the end of
its steps. -/
structure Call (input : Input) (before after : Point) (result : Except ParseError Expr) :
    Prop where
  ran : Run.readExpr input before = (result.mapError .refused, after)
  read : readExpr (input.tokens.drop before.pos) = (result, input.tokens.drop after.pos)
  forward : before.pos ≤ after.pos
  inRange : after.pos < input.tokens.length
  notPast : ∀ place token, input.tokens[place]? = some token → token.kind = .eof →
    after.pos ≤ place
  restored : after.depth = before.depth
  progress : ∀ tree, result = .ok tree → before.pos < after.pos
  shallow : ∀ tree, result = .ok tree → tree.nesting ≤ maxLevels

/-- Behind the token for the end there is none. -/
theorem Input.Sound.le_place {input : Input} {pos place : Nat} {token : Token}
    (sound : input.Sound) (inRange : pos < input.tokens.length)
    (there : input.tokens[place]? = some token) (eof : token.kind = .eof) : pos ≤ place := by
  obtain ⟨within, rfl⟩ := List.getElem?_eq_some_iff.1 there
  by_contra past
  exact sound.kind_of_lt (by omega) eof

/-- One call from a point in range, outside of all expressions. -/
theorem Input.Sound.call {input : Input} {pos : Nat} (sound : input.Sound)
    (lexical : Lexical input.tokens) (inRange : pos < input.tokens.length) :
    ∃ result, Call input ⟨pos, 0⟩ (Run.readExpr input ⟨pos, 0⟩).2 result := by
  obtain ⟨result, next, forward, inside, read, ran⟩ := Follows.readExpr sound pos inRange
  rw [ran]
  refine ⟨result, ran, read, forward, inside,
    fun place token there eof => sound.le_place inside there eof, rfl, ?_, ?_⟩
  · -- A token that was taken is missing from what the parse leaves.
    rintro tree rfl
    have shorter := length_lt_of_readLevels read
    simp only [List.length_drop] at shorter
    dsimp only
    omega
  · -- What is left of the tokens of a text is read as any tokens of a text are.
    rintro tree rfl
    have behind := lexical.of_suffix (List.drop_suffix pos input.tokens)
    obtain ⟨below, same, comes⟩ := (within_readLevels maxLevels).comes behind read
    rw [same]
    exact comes.readable.nesting_le

/-- Every call finds a current token, and the parser outside of all expressions. -/
theorem Input.Sound.pointAfter_eq {input : Input} (sound : input.Sound)
    (lexical : Lexical input.tokens) (calls : Nat) :
    ∃ pos < input.tokens.length, input.pointAfter calls = ⟨pos, 0⟩ := by
  induction calls with
  | zero =>
    obtain ⟨inner, ending, whole, -⟩ := sound.ends
    exact ⟨0, by simp [whole], rfl⟩
  | succ calls inductionHypothesis =>
    obtain ⟨pos, inRange, here⟩ := inductionHypothesis
    obtain ⟨result, call⟩ := sound.call lexical inRange
    rw [Input.pointAfter, here]
    exact ⟨_, call.inRange, congrArg (Point.mk _) call.restored⟩

/-- The tokens of a text end with the one for the end. -/
theorem sound_of_tokenize {text : String} {steps : Nat} (lexed : tokenize text = .ok tokens)
    (enough : tokens.length + maxLevels < steps) : Input.Sound ⟨tokens, steps⟩ :=
  ⟨ends_of_tokenize lexed, enough⟩

/-- Whatever the calls before came to, the next call on the tokens of a text ends within the
steps, finds every token that it looks up, and is as sound as the first one. -/
theorem calls_safe {text : String} {steps : Nat} (lexed : tokenize text = .ok tokens)
    (enough : tokens.length + maxLevels < steps) (calls : Nat) :
    ∃ result, Call ⟨tokens, steps⟩ (Input.pointAfter ⟨tokens, steps⟩ calls)
      (Input.pointAfter ⟨tokens, steps⟩ (calls + 1)) result := by
  have sound := sound_of_tokenize lexed enough
  obtain ⟨pos, inRange, here⟩ := sound.pointAfter_eq (lexical_tokenize lexed) calls
  rw [Input.pointAfter, here]
  exact sound.call (lexical_tokenize lexed) inRange

/-- The first call stops behind the second range, which is a fault, and the next one reads on. -/
theorem calls_safe_behind_fault :
    ∃ tokens, tokenize "a[5m][1m] b" = .ok tokens ∧ tokens.length + maxLevels < 100 ∧
      Input.pointAfter ⟨tokens, 100⟩ 1 = ⟨7, 0⟩ ∧ Input.pointAfter ⟨tokens, 100⟩ 2 = ⟨8, 0⟩ ∧
      ∃ result, Call ⟨tokens, 100⟩ (Input.pointAfter ⟨tokens, 100⟩ 1)
        (Input.pointAfter ⟨tokens, 100⟩ 2) result := by
  have lexed : tokenize "a[5m][1m] b" =
      .ok [⟨.ident, "a", 0⟩, ⟨.leftBracket, "[", 1⟩, ⟨.duration, "5m", 2⟩, ⟨.rightBracket, "]", 4⟩,
        ⟨.leftBracket, "[", 5⟩, ⟨.duration, "1m", 6⟩, ⟨.rightBracket, "]", 8⟩, ⟨.ident, "b", 10⟩,
        ⟨.eof, "", 11⟩] := by
    decide +kernel
  exact ⟨_, lexed, by decide, by decide +kernel, by decide +kernel,
    calls_safe lexed (by decide) 1⟩

end RuleAtlas.Query
