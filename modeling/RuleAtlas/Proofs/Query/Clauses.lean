import RuleAtlas.Proofs.Query.Rereading.Parts

/-! # Clauses behind an operand

An offset and a point in time may stand behind an operand in either order.  A clause is read
the same way whatever stands in front of it and behind it, so a chain of clauses collects at
most one of either sort, beside what the operand has already; and no round of the loop, not
even one that puts a range around the operand, changes or drops a clause that is there. -/

namespace RuleAtlas.Query

open Parse

/-! ## Tokens of clauses -/

/-- The tokens of an offset: its word, perhaps a minus, and a duration. -/
structure OffsetClause where
  word : Token
  minus : Option Token
  duration : Token
  isWord : word.isWord "offset" = true
  isMinus : ∀ token ∈ minus, token.kind = .sub
  isDuration : duration.kind = .duration

/-- The tokens of a point in time: the word for an end of the range with its parentheses, or a
number with perhaps a sign, behind the symbol. -/
inductive InstantClause where
  | bound (symbol word opening closing : Token) (isSymbol : symbol.kind = .atSign)
      (isWord : word.isWord "start" = true ∨ word.isWord "end" = true)
      (opens : opening.kind = .leftParen) (closes : closing.kind = .rightParen)
  | timestamp (symbol : Token) (sign : Option Token) (number : Token)
      (isSymbol : symbol.kind = .atSign)
      (isSign : ∀ token ∈ sign, token.kind = .sub ∨ token.kind = .add)
      (isNumber : number.kind = .number)

inductive Clause where
  | offset (clause : OffsetClause)
  | instant (clause : InstantClause)

namespace OffsetClause

/-- The tokens behind the word. -/
def amount (clause : OffsetClause) : List Token := clause.minus.toList ++ [clause.duration]

def tokens (clause : OffsetClause) : List Token := clause.word :: clause.amount

/-- The offset, unless its duration is none. -/
def value (clause : OffsetClause) : Except SyntaxFault Offset :=
  ((Duration.parse clause.duration.text).mapError .badDuration).map
    fun duration => ⟨clause.minus.isSome, duration⟩

end OffsetClause

namespace InstantClause

def symbol : InstantClause → Token
  | bound symbol .. => symbol
  | timestamp symbol .. => symbol

/-- The tokens behind the symbol. -/
def amount : InstantClause → List Token
  | bound _ word opening closing .. => [word, opening, closing]
  | timestamp _ sign number .. => sign.toList ++ [number]

def tokens (clause : InstantClause) : List Token := clause.symbol :: clause.amount

/-- The timestamp that a number with a sign stands for, unless it is out of bounds. -/
def timestamp? (negative : Bool) (text : String) : Except SyntaxFault Instant :=
  match numberValue? text.toList with
  | none => .error (.badNumber text)
  | some number =>
    if number.isFinite then .ok (.timestamp (if negative then number.neg else number))
    else .error .timestampOutOfBounds

def value : InstantClause → Except SyntaxFault Instant
  | bound _ word .. => .ok (if word.isWord "start" then .rangeStart else .rangeEnd)
  | timestamp _ sign number .. => timestamp? (sign.any (·.kind = .sub)) number.text

theorem isSymbol (clause : InstantClause) : clause.symbol.kind = .atSign := by
  cases clause <;> assumption

end InstantClause

namespace Clause

def tokens : Clause → List Token
  | offset clause => clause.tokens
  | instant clause => clause.tokens

/-- The expression with the clause behind it, where it can have it. -/
def apply (expr : Expr) : Clause → Except SyntaxFault Expr
  | offset clause => clause.value >>= applyOffset expr
  | instant clause => clause.value >>= applyInstant expr

/-- The offset that the clause sets, if that is what it does. -/
def offset? : Clause → Option (Except SyntaxFault Offset)
  | offset clause => some clause.value
  | instant _ => none

def instant? : Clause → Option (Except SyntaxFault Instant)
  | offset _ => none
  | instant clause => some clause.value

end Clause

variable {expr result tree : Expr} {tokens rest left : List Token}

/-! ## Reading single clauses -/

theorem OffsetClause.readOffset (clause : OffsetClause) (rest : List Token) :
    readOffset (clause.amount ++ rest) = lift clause.value rest := by
  obtain ⟨word, minus, duration, -, isMinus, isDuration⟩ := clause
  have taken : readDurationToken .offset (duration :: rest) =
      lift ((Duration.parse duration.text).mapError .badDuration) rest := by
    rw [readDurationToken, bind_of_ok (expect_cons isDuration (by decide) _ _)]
  have sign : accept .sub ((minus.toList ++ [duration]) ++ rest) =
      (.ok minus.isSome, duration :: rest) := by
    cases minus with
    | none => exact accept_of_ne (by simp [isDuration])
    | some token => exact accept_cons (isMinus token rfl) (by decide) _
  rw [amount, Query.readOffset, bind_of_ok sign, bind_apply, taken, value]
  cases Duration.parse duration.text <;> rfl

/-- An end of the range is its word with a pair of parentheses. -/
theorem readRangeBound_cons {word opening closing : Token} (named : word.kind ≠ .eof)
    (opens : opening.kind = .leftParen) (closes : closing.kind = .rightParen) (bound : Instant)
    (rest : List Token) :
    readRangeBound bound (word :: opening :: closing :: rest) = (.ok bound, rest) := by
  rw [readRangeBound, bind_of_ok (next_cons named _),
    bind_of_ok (expect_cons opens (by decide) _ _),
    bind_of_ok (expect_cons closes (by decide) _ _)]
  rfl

/-- Of a sign only a minus counts, and none is needed in front of a number. -/
theorem readSign_append {sign : Option Token} {number : Token}
    (isSign : ∀ token ∈ sign, token.kind = .sub ∨ token.kind = .add)
    (isNumber : number.kind = .number) (rest : List Token) :
    readSign (sign.toList ++ number :: rest) =
      (.ok (sign.any (·.kind = .sub)), number :: rest) := by
  cases sign with
  | none =>
    change readSign (number :: rest) = _
    rw [readSign, bind_of_ok (accept_of_ne (by simp [isNumber])), if_neg Bool.false_ne_true,
      bind_of_ok (accept_of_ne (by simp [isNumber]))]
    rfl
  | some token =>
    change readSign (token :: number :: rest) = _
    rw [readSign]
    rcases isSign token rfl with kind | kind
    · rw [bind_of_ok (accept_cons kind (by decide) _), if_pos rfl, Option.any_some, kind]
      rfl
    · rw [bind_of_ok (accept_of_ne (by simp [kind])), if_neg Bool.false_ne_true,
        bind_of_ok (accept_cons kind (by decide) _), Option.any_some, kind]
      rfl

theorem InstantClause.readInstant (clause : InstantClause) (rest : List Token) :
    readInstant (clause.amount ++ rest) = lift clause.value rest := by
  cases clause with
  | bound symbol word opening closing isSymbol isWord opens closes =>
    have named : word.kind ≠ .eof := by
      rcases isWord with here | here <;> (rw [kind_of_isWord here]; decide)
    change Query.readInstant (word :: opening :: closing :: rest) = _
    rw [Query.readInstant, peek_bind, first_cons, value]
    by_cases start : word.isWord "start" = true
    · rw [if_pos start, if_pos start]
      exact readRangeBound_cons named opens closes _ rest
    · rw [if_neg start, if_neg start, if_pos (isWord.resolve_left start)]
      exact readRangeBound_cons named opens closes _ rest
  | timestamp symbol sign number isSymbol isSign isNumber =>
    -- The first token is a sign or the number, so it is no word for an end of the range.
    have noWord : ∀ word, (first (sign.toList ++ number :: rest)).isWord word = false := by
      refine isWord_of_kind_ne ?_
      cases sign with
      | none => simp [isNumber]
      | some token =>
        rcases isSign token rfl with kind | kind <;> simp [kind]
    change Query.readInstant ((sign.toList ++ [number]) ++ rest) = _
    rw [List.append_assoc, List.singleton_append, Query.readInstant, peek_bind, noWord,
      if_neg Bool.false_ne_true, noWord, if_neg Bool.false_ne_true,
      bind_of_ok (readSign_append isSign isNumber rest),
      bind_of_ok (expect_cons isNumber (by decide) _ _), value, timestamp?, numberOf]
    cases numberValue? number.text.toList with
    | none => rfl
    | some found =>
      dsimp only
      rw [bind_of_ok (show Parse.value found rest = (.ok found, rest) from rfl)]
      cases found.isFinite <;> rfl

/-- A clause is read the same way whatever stands behind it. -/
theorem Clause.readPostfix (clause : Clause) (expr : Expr) (rest : List Token) :
    readPostfix expr (clause.tokens ++ rest) = (Round.again <$> lift (clause.apply expr)) rest := by
  have settled : ∀ {α : Type} (value : Except SyntaxFault α) (apply : α → Except SyntaxFault Expr),
      (lift value >>= fun a => Round.again <$> lift (apply a)) rest =
        (Round.again <$> lift (value >>= apply)) rest := by
    rintro α (_ | a) apply <;> rfl
  cases clause with
  | offset clause =>
    have isWord := clause.isWord
    have noBracket : (first (clause.word :: (clause.amount ++ rest))).kind ≠ .leftBracket := by
      simp [kind_of_isWord isWord]
    change Query.readPostfix expr (clause.word :: (clause.amount ++ rest)) = _
    rw [Query.readPostfix, bind_of_ok (accept_of_ne noBracket), if_neg Bool.false_ne_true,
      bind_of_ok (acceptWord_cons isWord _), if_pos rfl, bind_apply, clause.readOffset,
      ← bind_apply]
    exact settled clause.value (applyOffset expr)
  | instant clause =>
    have isSymbol := clause.isSymbol
    have noBracket : (first (clause.symbol :: (clause.amount ++ rest))).kind ≠ .leftBracket := by
      simp [isSymbol]
    have noWord : (first (clause.symbol :: (clause.amount ++ rest))).isWord "offset" = false :=
      isWord_of_kind_ne (by simp [isSymbol]) _
    change Query.readPostfix expr (clause.symbol :: (clause.amount ++ rest)) = _
    rw [Query.readPostfix, bind_of_ok (accept_of_ne noBracket), if_neg Bool.false_ne_true,
      bind_of_ok (acceptWord_of_not noWord), if_neg Bool.false_ne_true,
      bind_of_ok (accept_cons isSymbol (by decide) _), if_pos rfl, bind_apply,
      clause.readInstant, ← bind_apply]
    exact settled clause.value (applyInstant expr)

/-! ## Chains of clauses -/

/-- The expression with the clauses behind it, one after the other. -/
def Clause.applyAll (expr : Expr) (clauses : List Clause) : Except SyntaxFault Expr :=
  clauses.foldlM Clause.apply expr

theorem except_bind_eq_ok {α β : Type} {value : Except SyntaxFault α}
    {apply : α → Except SyntaxFault β} {b : β} :
    (value >>= apply) = .ok b ↔ ∃ a, value = .ok a ∧ apply a = .ok b := by
  cases value with
  | error fault =>
    constructor
    · intro failed
      cases failed
    · rintro ⟨_, failed, -⟩
      cases failed
  | ok a =>
    refine ⟨fun applied => ⟨a, rfl, applied⟩, ?_⟩
    rintro ⟨_, same, applied⟩
    cases same
    exact applied

theorem Clause.applyAll_cons {clause : Clause} {clauses : List Clause} :
    applyAll expr (clause :: clauses) = .ok result ↔
      ∃ middle, clause.apply expr = .ok middle ∧ applyAll middle clauses = .ok result := by
  rw [applyAll, List.foldlM_cons]
  exact except_bind_eq_ok

/-- Behind an operand a chain of clauses is read as their application, and then the loop goes
on behind them. -/
theorem readPostfixes_clauses (clauses : List Clause) :
    readPostfixes expr (clauses.flatMap Clause.tokens ++ rest) = (.ok tree, left) ↔
      ∃ applied, Clause.applyAll expr clauses = .ok applied ∧
        readPostfixes applied rest = (.ok tree, left) := by
  induction clauses generalizing expr with
  | nil => exact ⟨fun came => ⟨expr, rfl, came⟩, fun ⟨_, same, came⟩ => by cases same; exact came⟩
  | cons clause clauses inductionHypothesis =>
    have round : readPostfixes expr (clause.tokens ++ (clauses.flatMap Clause.tokens ++ rest)) =
        (lift (clause.apply expr) >>= fun middle => readPostfixes middle)
          (clauses.flatMap Clause.tokens ++ rest) := by
      rw [readPostfixes, loop_eq advances_readPostfix, bind_apply, clause.readPostfix]
      cases clause.apply expr <;> rfl
    rw [List.flatMap_cons, List.append_assoc, round, bind_eq_ok]
    constructor
    · rintro ⟨middle, behind, settled, came⟩
      obtain ⟨applied, rfl⟩ := lift_eq_ok.1 settled
      obtain ⟨all, others, came⟩ := inductionHypothesis.1 came
      exact ⟨all, Clause.applyAll_cons.2 ⟨middle, applied, others⟩, came⟩
    · rintro ⟨all, applied, came⟩
      obtain ⟨middle, first, others⟩ := Clause.applyAll_cons.1 applied
      exact ⟨middle, _, lift_eq_ok.2 ⟨first, rfl⟩, inductionHypothesis.2 ⟨all, others, came⟩⟩

/-- Of what may be there at most once, what was there and what was set are all there is now, and
what was set has a value.  So nothing was put in the place of anything else. -/
def Fills {α : Type} (before : Option α) (values : List (Except SyntaxFault α))
    (after : Option α) : Prop :=
  before.toList.map Except.ok ++ values = after.toList.map Except.ok

namespace Fills

variable {α : Type} {before after : Option α} {value : Except SyntaxFault α}
  {values : List (Except SyntaxFault α)}

theorem nil_iff : Fills before [] after ↔ after = before := by
  cases before <;> cases after <;> simp [Fills, eq_comm]

theorem single_iff : Fills before [value] after ↔
    before = none ∧ ∃ a, value = .ok a ∧ after = some a := by
  cases before <;> cases after <;> simp [Fills]

/-- What the first one sets is there when the others follow. -/
theorem cons_iff : Fills before (value :: values) after ↔
    ∃ middle, Fills before [value] middle ∧ Fills middle values after := by
  constructor
  · intro fills
    cases before <;> cases after <;> simp_all [Fills]
  · rintro ⟨middle, front, back⟩
    unfold Fills at front back ⊢
    rw [← List.singleton_append, ← List.append_assoc, front, back]

theorem length_le (fills : Fills before values after) :
    before.toList.length + values.length ≤ 1 := by
  have length := congrArg List.length fills
  simp only [List.length_append, List.length_map] at length
  rw [length]
  cases after <;> simp

end Fills

/-- The offsets and the points in time of the clauses are added to those that are set. -/
structure Modifiers.Collects (before : Modifiers) (clauses : List Clause) (after : Modifiers) :
    Prop where
  offset : Fills before.offset (clauses.filterMap Clause.offset?) after.offset
  instant : Fills before.instant (clauses.filterMap Clause.instant?) after.instant

/-- There is at most one offset and at most one point in time among those that are set and those
of the clauses together. -/
structure Modifiers.AtMostOnce (before : Modifiers) (clauses : List Clause) : Prop where
  offset : before.offset.toList.length + (clauses.filterMap Clause.offset?).length ≤ 1
  instant : before.instant.toList.length + (clauses.filterMap Clause.instant?).length ≤ 1

namespace Modifiers.Collects

variable {before after : Modifiers} {clause : Clause} {clauses : List Clause}

theorem nil_iff : before.Collects [] after ↔ after = before := by
  constructor
  · rintro ⟨offset, instant⟩
    exact congrArg₂ Modifiers.mk (Fills.nil_iff.1 offset) (Fills.nil_iff.1 instant)
  · rintro rfl
    exact ⟨Fills.nil_iff.2 rfl, Fills.nil_iff.2 rfl⟩

/-- A chain sets what its first clause sets and then what the others set. -/
theorem cons_iff : before.Collects (clause :: clauses) after ↔
    ∃ middle, before.Collects [clause] middle ∧ middle.Collects clauses after := by
  constructor
  · rintro ⟨offset, instant⟩
    cases clause with
    | offset clause =>
      obtain ⟨middle, front, back⟩ := Fills.cons_iff.1 offset
      exact ⟨⟨middle, before.instant⟩, ⟨front, Fills.nil_iff.2 rfl⟩, ⟨back, instant⟩⟩
    | instant clause =>
      obtain ⟨middle, front, back⟩ := Fills.cons_iff.1 instant
      exact ⟨⟨before.offset, middle⟩, ⟨Fills.nil_iff.2 rfl, front⟩, ⟨offset, back⟩⟩
  · rintro ⟨⟨middleOffset, middleInstant⟩, front, back⟩
    cases clause with
    | offset clause =>
      obtain rfl := Fills.nil_iff.1 front.instant
      exact ⟨Fills.cons_iff.2 ⟨middleOffset, front.offset, back.offset⟩, back.instant⟩
    | instant clause =>
      obtain rfl := Fills.nil_iff.1 front.offset
      exact ⟨back.offset, Fills.cons_iff.2 ⟨middleInstant, front.instant, back.instant⟩⟩

theorem atMostOnce (collects : before.Collects clauses after) : before.AtMostOnce clauses :=
  ⟨collects.offset.length_le, collects.instant.length_le⟩

/-- Clauses of different sorts set the same in either order. -/
theorem swap (offset : OffsetClause) (instant : InstantClause) :
    before.Collects [.offset offset, .instant instant] after ↔
      before.Collects [.instant instant, .offset offset] after :=
  ⟨fun ⟨offsets, instants⟩ => ⟨offsets, instants⟩, fun ⟨offsets, instants⟩ => ⟨offsets, instants⟩⟩

end Modifiers.Collects

theorem Expr.kind_of_modifiers {modifiers : Modifiers} (here : expr.modifiers? = some modifiers) :
    expr.kind ∈ [.vectorSelector, .matrixSelector, .subquery] := by
  cases expr with
  | vector selector => exact List.mem_cons_self
  | matrix selector range => simp [Expr.kind]
  | subquery body clause => simp [Expr.kind]
  | _ => cases here

section
variable {before : Modifiers} (here : expr.modifiers? = some before)
include here

theorem applyOffset_eq_ok {offset : Offset} : applyOffset expr offset = .ok result ↔
    before.offset = none ∧ result = expr.withModifiers { before with offset := some offset } := by
  rw [applyOffset, here]
  cases set : before.offset <;> simp [set, @eq_comm _ result]

theorem applyInstant_eq_ok {instant : Instant} : applyInstant expr instant = .ok result ↔
    before.instant = none ∧
      result = expr.withModifiers { before with instant := some instant } := by
  rw [applyInstant, here]
  cases set : before.instant <;> simp [set, @eq_comm _ result]

/-- One clause is put behind an expression that has none of its sort. -/
theorem Clause.apply_eq_ok {clause : Clause} : clause.apply expr = .ok result ↔
    ∃ after, before.Collects [clause] after ∧ result = expr.withModifiers after := by
  cases clause with
  | offset clause =>
    rw [Clause.apply, except_bind_eq_ok]
    constructor
    · rintro ⟨value, set, applied⟩
      obtain ⟨none, rfl⟩ := (applyOffset_eq_ok here).1 applied
      refine ⟨{ before with offset := some value }, ⟨?_, Fills.nil_iff.2 rfl⟩, rfl⟩
      exact Fills.single_iff.2 ⟨none, value, set, rfl⟩
    · rintro ⟨⟨offset, instant⟩, ⟨fills, same⟩, rfl⟩
      obtain ⟨none, value, set, rfl⟩ := Fills.single_iff.1 fills
      obtain rfl := Fills.nil_iff.1 same
      exact ⟨value, set, (applyOffset_eq_ok here).2 ⟨none, rfl⟩⟩
  | instant clause =>
    rw [Clause.apply, except_bind_eq_ok]
    constructor
    · rintro ⟨value, set, applied⟩
      obtain ⟨none, rfl⟩ := (applyInstant_eq_ok here).1 applied
      refine ⟨{ before with instant := some value }, ⟨Fills.nil_iff.2 rfl, ?_⟩, rfl⟩
      exact Fills.single_iff.2 ⟨none, value, set, rfl⟩
    · rintro ⟨⟨offset, instant⟩, ⟨same, fills⟩, rfl⟩
      obtain ⟨none, value, set, rfl⟩ := Fills.single_iff.1 fills
      obtain rfl := Fills.nil_iff.1 same
      exact ⟨value, set, (applyInstant_eq_ok here).2 ⟨none, rfl⟩⟩

theorem Clause.applyAll_of_modifiers {clauses : List Clause} :
    applyAll expr clauses = .ok result ↔
      ∃ after, before.Collects clauses after ∧ result = expr.withModifiers after := by
  induction clauses generalizing expr before with
  | nil =>
    simp only [Modifiers.Collects.nil_iff, exists_eq_left, withModifiers_self here]
    exact ⟨fun same => by cases same; rfl, fun same => by rw [same]; rfl⟩
  | cons clause clauses inductionHypothesis =>
    rw [applyAll_cons]
    constructor
    · rintro ⟨middle, applied, others⟩
      obtain ⟨between, front, rfl⟩ := (Clause.apply_eq_ok here).1 applied
      obtain ⟨after, back, rfl⟩ := (inductionHypothesis (modifiers?_withModifiers here _)).1 others
      exact ⟨after, Modifiers.Collects.cons_iff.2 ⟨between, front, back⟩,
        withModifiers_withModifiers ..⟩
    · rintro ⟨after, collects, rfl⟩
      obtain ⟨between, front, back⟩ := Modifiers.Collects.cons_iff.1 collects
      refine ⟨_, (Clause.apply_eq_ok here).2 ⟨between, front, rfl⟩, ?_⟩
      exact (inductionHypothesis (modifiers?_withModifiers here _)).2
        ⟨after, back, (withModifiers_withModifiers ..).symm⟩

end

/-- Only what can have clauses takes a chain of them. -/
theorem Clause.applyAll_eq_ok {clauses : List Clause} (nonempty : clauses ≠ []) :
    applyAll expr clauses = .ok result ↔
      ∃ before after, expr.modifiers? = some before ∧ before.Collects clauses after ∧
        result = expr.withModifiers after := by
  cases here : expr.modifiers? with
  | some before =>
    rw [applyAll_of_modifiers here]
    simp
  | none =>
    obtain ⟨clause, others, rfl⟩ := List.exists_cons_of_ne_nil nonempty
    have refused : ∀ middle, clause.apply expr ≠ .ok middle := by
      intro middle applied
      cases clause with
      | offset clause =>
        obtain ⟨value, -, applied⟩ := except_bind_eq_ok.1 applied
        simp [applyOffset, here] at applied
      | instant clause =>
        obtain ⟨value, -, applied⟩ := except_bind_eq_ok.1 applied
        simp [applyInstant, here] at applied
    rw [applyAll_cons]
    constructor
    · rintro ⟨middle, applied, -⟩
      exact absurd applied (refused middle)
    · rintro ⟨_, _, absurd, -⟩
      cases absurd

/-! ## The whole loop -/

/-- The clauses of an operand: those of its selector, if it is one, and then those of the
subqueries around that, one after the other. -/
def Expr.movements : Expr → List Modifiers
  | .vector selector => [selector.modifiers]
  | .matrix selector _ => [selector.modifiers]
  | .subquery body clause => body.movements ++ [clause.modifiers]
  | _ => []

/-- What was set before is set to the same afterwards. -/
structure Modifiers.Extends (after before : Modifiers) : Prop where
  offset : ∀ offset, before.offset = some offset → after.offset = some offset
  instant : ∀ instant, before.instant = some instant → after.instant = some instant

/-- Every clause of the first expression is set in the second one at the same place. -/
def Expr.KeepsClauses (expr result : Expr) : Prop :=
  ∀ (place : Nat) (before : Modifiers), expr.movements[place]? = some before →
    ∃ after : Modifiers, result.movements[place]? = some after ∧ after.Extends before

theorem Modifiers.Extends.refl (modifiers : Modifiers) : modifiers.Extends modifiers :=
  ⟨fun _ there => there, fun _ there => there⟩

namespace Expr.KeepsClauses

theorem of_movements (same : result.movements = expr.movements) : expr.KeepsClauses result :=
  fun _ before there => ⟨before, by rw [same, there], .refl before⟩

theorem trans {middle : Expr} (front : expr.KeepsClauses middle)
    (back : middle.KeepsClauses result) : expr.KeepsClauses result := by
  intro place before there
  obtain ⟨between, kept, first⟩ := front place before there
  obtain ⟨after, keptBehind, second⟩ := back place between kept
  exact ⟨after, keptBehind, fun offset set => second.offset offset (first.offset offset set),
    fun instant set => second.instant instant (first.instant instant set)⟩

theorem subquery (expr : Expr) (clause : SubqueryClause) :
    expr.KeepsClauses (.subquery expr clause) := by
  intro place before there
  refine ⟨before, ?_, .refl before⟩
  rw [movements, List.getElem?_append_left (List.getElem?_eq_some_iff.1 there).1, there]

/-- The clauses that may be set are the last ones. -/
theorem withModifiers {before after : Modifiers} (here : expr.modifiers? = some before)
    (more : after.Extends before) : expr.KeepsClauses (expr.withModifiers after) := by
  -- The clauses of a selector, or those of the outermost subquery.
  have last : ∃ front, expr.movements = front ++ [before] ∧
      (expr.withModifiers after).movements = front ++ [after] := by
    cases expr with
    | vector selector => cases here; exact ⟨[], rfl, rfl⟩
    | matrix selector range => cases here; exact ⟨[], rfl, rfl⟩
    | subquery body clause => cases here; exact ⟨body.movements, rfl, rfl⟩
    | _ => cases here
  obtain ⟨front, whole, wholeAfter⟩ := last
  intro place modifiers there
  rw [whole] at there
  rw [wholeAfter]
  rcases Nat.lt_or_ge place front.length with inside | behind
  · rw [List.getElem?_append_left inside] at there ⊢
    exact ⟨modifiers, there, .refl modifiers⟩
  · rw [List.getElem?_append_right behind] at there ⊢
    rw [List.getElem?_singleton] at there ⊢
    split at there
    · rename_i first
      cases there
      exact ⟨after, if_pos first, more⟩
    · cases there

end Expr.KeepsClauses

theorem keepsClauses_of_readRange (came : readRange expr tokens = (.ok result, rest)) :
    expr.KeepsClauses result := by
  rw [readRange, bind_eq_ok] at came
  obtain ⟨range, middle, -, came⟩ := came
  rw [bind_eq_ok] at came
  obtain ⟨closed, middle, -, came⟩ := came
  cases closed with
  | true =>
    obtain ⟨applied, -⟩ := lift_eq_ok.1 came
    unfold applyRange at applied
    split at applied
    · split at applied
      · cases applied
        exact .of_movements rfl
      · cases applied
    · cases applied
  | false =>
    obtain ⟨colon, middle, -, came⟩ := bind_eq_ok.1 came
    obtain ⟨step, middle, -, came⟩ := choice_eq_ok came
    obtain ⟨bracket, middle, -, came⟩ := bind_eq_ok.1 came
    obtain ⟨applied, -⟩ := lift_eq_ok.1 came
    unfold applySubquery at applied
    split at applied
    · cases applied
    · cases applied
      exact .subquery _ _

/-- No round changes or drops a clause. -/
theorem keepsClauses_of_readPostfix (came : readPostfix expr tokens = (.ok (.again result), rest)) :
    expr.KeepsClauses result := by
  obtain ⟨token, middle, -, ⟨-, read⟩ | ⟨-, offset, -, applied⟩ | ⟨-, instant, -, applied⟩⟩ :=
    readPostfix_again came
  · exact keepsClauses_of_readRange read
  · cases here : expr.modifiers? with
    | none => simp [applyOffset, here] at applied
    | some before =>
      obtain ⟨none, rfl⟩ := (applyOffset_eq_ok here).1 applied
      exact .withModifiers here ⟨by simp [none], fun _ set => set⟩
  · cases here : expr.modifiers? with
    | none => simp [applyInstant, here] at applied
    | some before =>
      obtain ⟨none, rfl⟩ := (applyInstant_eq_ok here).1 applied
      exact .withModifiers here ⟨fun _ set => set, by simp [none]⟩

theorem keepsClauses_of_readPostfixes (came : readPostfixes expr tokens = (.ok tree, rest)) :
    expr.KeepsClauses tree := by
  refine loop_eq_ok advances_readPostfix (fun reached _ => expr.KeepsClauses reached)
    (fun reached _ => expr.KeepsClauses reached) ?_ ?_ (.of_movements rfl) came
  · exact fun kept again => kept.trans (keepsClauses_of_readPostfix again)
  · intro reached last tokens rest kept done
    obtain ⟨rfl, -⟩ := eq_of_readPostfix_done done
    exact kept

/-- Behind any operand and in front of any tokens an offset and a point in time may change
places.  A chain of clauses goes through only behind a selector or subquery, with at most one
clause of either sort, and sets just these; and whatever the loop reads, it keeps all clauses. -/
theorem clauses_order (expr : Expr) (rest : List Token) (tree : Expr) (left : List Token) :
    (∀ (offset : OffsetClause) (instant : InstantClause),
      readPostfixes expr (offset.tokens ++ instant.tokens ++ rest) = (.ok tree, left) ↔
        readPostfixes expr (instant.tokens ++ offset.tokens ++ rest) = (.ok tree, left)) ∧
    (∀ clauses ≠ [],
      readPostfixes expr (clauses.flatMap Clause.tokens ++ rest) = (.ok tree, left) ↔
        expr.kind ∈ [.vectorSelector, .matrixSelector, .subquery] ∧
        ∃ before after, expr.modifiers? = some before ∧ before.AtMostOnce clauses ∧
          before.Collects clauses after ∧
          readPostfixes (expr.withModifiers after) rest = (.ok tree, left)) ∧
    (readPostfixes expr rest = (.ok tree, left) → expr.KeepsClauses tree) := by
  have chain : ∀ clauses ≠ [],
      readPostfixes expr (clauses.flatMap Clause.tokens ++ rest) = (.ok tree, left) ↔
        ∃ before after, expr.modifiers? = some before ∧ before.Collects clauses after ∧
          readPostfixes (expr.withModifiers after) rest = (.ok tree, left) := by
    intro clauses nonempty
    rw [readPostfixes_clauses]
    constructor
    · rintro ⟨applied, all, came⟩
      obtain ⟨before, after, here, collects, rfl⟩ := (Clause.applyAll_eq_ok nonempty).1 all
      exact ⟨before, after, here, collects, came⟩
    · rintro ⟨before, after, here, collects, came⟩
      exact ⟨_, (Clause.applyAll_eq_ok nonempty).2 ⟨before, after, here, collects, rfl⟩, came⟩
  refine ⟨fun offset instant => ?_, fun clauses nonempty => ?_, keepsClauses_of_readPostfixes⟩
  · -- Either order sets the same offset and the same point in time.
    have offsetFirst := chain [.offset offset, .instant instant] (List.cons_ne_nil _ _)
    have instantFirst := chain [.instant instant, .offset offset] (List.cons_ne_nil _ _)
    simp only [List.flatMap_cons, List.flatMap_nil, List.append_nil, Clause.tokens] at offsetFirst
    simp only [List.flatMap_cons, List.flatMap_nil, List.append_nil, Clause.tokens] at instantFirst
    rw [offsetFirst, instantFirst]
    exact exists₂_congr fun before after =>
      and_congr_right fun _ => and_congr_left fun _ => Modifiers.Collects.swap offset instant
  · rw [chain clauses nonempty]
    constructor
    · rintro ⟨before, after, here, collects, came⟩
      exact ⟨Expr.kind_of_modifiers here, before, after, here, collects.atMostOnce, collects, came⟩
    · rintro ⟨-, before, after, here, -, collects, came⟩
      exact ⟨before, after, here, collects, came⟩

/-- Behind a subquery of a selector that has an offset of its own, an offset and a point in time
go through in either order, and the offset of the selector stays. -/
theorem clauses_order_subquery :
    let inner : Expr := .vector ⟨some "a", [], ⟨some ⟨false, ⟨300000⟩⟩, none⟩⟩
    let operand : Expr := .subquery inner ⟨⟨3600000⟩, none, .none⟩
    let tree : Expr := .subquery inner ⟨⟨3600000⟩, none, ⟨some ⟨true, ⟨60000⟩⟩, some .rangeStart⟩⟩
    let offset : OffsetClause := ⟨⟨.ident, "OFFSET", 0⟩, some ⟨.sub, "-", 7⟩, ⟨.duration, "1m", 8⟩,
      by decide +kernel, by simp, rfl⟩
    let instant : InstantClause := .bound ⟨.atSign, "@", 11⟩ ⟨.ident, "start", 12⟩
      ⟨.leftParen, "(", 17⟩ ⟨.rightParen, ")", 18⟩ rfl (.inl (by decide +kernel)) rfl rfl
    let ending : Token := ⟨.eof, "", 19⟩
    readPostfixes operand (offset.tokens ++ instant.tokens ++ [ending]) = (.ok tree, [ending]) ∧
      readPostfixes operand (instant.tokens ++ offset.tokens ++ [ending]) = (.ok tree, [ending]) ∧
      Modifiers.none.AtMostOnce [.offset offset, .instant instant] ∧
      operand.KeepsClauses tree := by
  intro inner operand tree offset instant ending
  have came : readPostfixes operand (offset.tokens ++ instant.tokens ++ [ending]) =
      (.ok tree, [ending]) := by
    dsimp only [offset, instant, operand, inner, tree, ending]
    rfl
  obtain ⟨either, chain, -⟩ := clauses_order operand [ending] tree [ending]
  obtain ⟨-, -, kept⟩ :=
    clauses_order operand (offset.tokens ++ instant.tokens ++ [ending]) tree [ending]
  obtain ⟨-, before, after, here, once, -⟩ :=
    (chain [.offset offset, .instant instant] (List.cons_ne_nil _ _)).1 came
  cases here
  exact ⟨came, (either offset instant).1 came, once, kept came⟩

end RuleAtlas.Query
