import RuleAtlas.Proofs.Query.Refinement
import RuleAtlas.Proofs.Query.Stratified

/-! # Precedence climbing reads the stratified grammar

The loop with a least precedence is taken apart into one loop for each precedence.  What makes
this work is that an inner expression is as long as it can be: behind it stands no operator
that binds tightly enough to go on with it. -/

namespace RuleAtlas.Query

open Parse

/-! ## The operators of a level -/

namespace Stratified

theorem lookup_words {level : Nat} (below : level < unaryLevel) (word : String) :
    (words level).lookup word = (wordOp? word).filter (·.precedence = level) := by
  unfold unaryLevel at below
  unfold wordOp?
  split_ifs with isAnd isOr isUnless isAtan2
  case neg =>
    have absent : ∀ entry ∈ words level, (word != entry.1) = true := by
      unfold words
      split <;> simp_all
    exact List.lookup_eq_none_iff.2 absent
  all_goals
    subst word
    revert level
    decide

theorem lookup_signs {level : Nat} (below : level < unaryLevel) {token : Token}
    (noWord : token.kind ≠ .ident) :
    (signs level).lookup token.kind = (binaryOp? token).filter (·.precedence = level) := by
  unfold unaryLevel at below
  obtain ⟨kind, text, position⟩ := token
  revert level
  cases kind with
  | ident => exact absurd rfl noWord
  | _ =>
    dsimp only [binaryOp?]
    decide

/-- What is listed for a level are the operators of that precedence. -/
theorem operator?_eq {level : Nat} (below : level < unaryLevel) (token : Token) :
    operator? level token = (binaryOp? token).filter (·.precedence = level) := by
  unfold operator?
  split
  case isTrue word => rw [lookup_words below, binaryOp?, word]
  case isFalse noWord => exact lookup_signs below noWord

theorem sign?_eq (kind : TokenKind) : sign? kind = unaryOp? kind := by
  cases kind <;> rfl

theorem unaryLevel_eq : unaryLevel = signPrecedence := rfl

/-- No word is a power. -/
theorem kind_eq_pow_iff {token : Token} : token.kind = .pow ↔ binaryOp? token = some .pow := by
  obtain ⟨kind, text, position⟩ := token
  cases kind with
  | ident =>
    dsimp only [binaryOp?]
    unfold wordOp?
    split_ifs <;> simp
  | _ => simp [binaryOp?]

end Stratified

/-- Behind an expression stands no operator that binds as tightly as was asked for. -/
def Exhausts (inner : Nat → Parse Expr) : Prop :=
  ∀ {least tokens expr rest}, inner least tokens = (.ok expr, rest) →
    ∀ op, binaryOp? (first rest) = some op → op.precedence < least

theorem BinaryOp.one_le_precedence (op : BinaryOp) : 1 ≤ op.precedence := by
  cases op <;> decide

theorem BinaryOp.rightPrecedence_of_lt {op : BinaryOp} (below : op.precedence < signPrecedence) :
    op.rightPrecedence = op.precedence + 1 := by
  cases op <;> first | rfl | exact absurd below (by decide)

theorem BinaryOp.eq_pow_of_precedence {op : BinaryOp} (tight : signPrecedence ≤ op.precedence) :
    op = .pow := by
  cases op <;> first | rfl | exact absurd tight (by decide)

section
variable {inner : Nat → Parse Expr} {least more level : Nat} {tokens rest : List Token}
  {left expr : Expr}

/-! ## Single rounds -/

/-- An operator that binds tightly enough is read whatever less was asked for. -/
theorem readOperation_eq_of_le (ordered : least ≤ more)
    (goesOn : readOperation inner more left tokens ≠ (.ok (.done left), tokens)) :
    readOperation inner least left tokens = readOperation inner more left tokens := by
  -- A round that goes on has found an operator that is tight enough for the larger bound.
  cases tight : (binaryOp? (first tokens)).filter (more ≤ ·.precedence) with
  | none =>
    refine absurd ?_ goesOn
    rw [readOperation, peek_bind, tight]
    rfl
  | some op =>
    obtain ⟨here, above⟩ := Option.filter_eq_some_iff.1 tight
    have found : (binaryOp? (first tokens)).filter (least ≤ ·.precedence) = some op := by
      refine Option.filter_eq_some_iff.2 ⟨here, ?_⟩
      simp only [decide_eq_true_eq] at above ⊢
      omega
    rw [readOperation, readOperation, peek_bind, peek_bind, tight, found]

/-- Where no tighter operator stands a round reads an operator of the level itself. -/
theorem readOperation_eq_readOwnOperation (below : level < signPrecedence)
    (shut : ∀ op, binaryOp? (first tokens) = some op → op.precedence < level + 1) :
    readOperation inner level left tokens =
      Stratified.readOwnOperation inner level left tokens := by
  rw [readOperation, Stratified.readOwnOperation, peek_bind, peek_bind,
    Stratified.operator?_eq below]
  cases here : binaryOp? (first tokens) with
  | none => rfl
  | some op =>
    have bound := shut op here
    by_cases own : op.precedence = level
    · have right : op.rightPrecedence = level + 1 := by
        rw [BinaryOp.rightPrecedence_of_lt (by omega), own]
      rw [Option.filter_some, Option.filter_some, if_pos (by simp [own]), if_pos (by simp [own])]
      dsimp only
      rw [right]
    · have loose : ¬ level ≤ op.precedence := by omega
      rw [Option.filter_some, Option.filter_some, if_neg (by simp [loose]),
        if_neg (by simp [own])]

/-- What a round that reads an operator of a level leaves behind it. -/
theorem readOwnOperation_again {result : Expr}
    (came : Stratified.readOwnOperation inner level left tokens = (.ok (.again result), rest)) :
    ∃ token middle op clause behind right, tokens = token :: middle ∧
      readClause op middle = (.ok clause, behind) ∧
      inner (level + 1) behind = (.ok right, rest) := by
  rw [Stratified.readOwnOperation, peek_bind] at came
  cases found : Stratified.operator? level (first tokens) with
  | none =>
    rw [found] at came
    cases came
  | some op =>
    rw [found] at came
    obtain ⟨token, middle, rfl, kind⟩ := eq_cons_of_first rfl (Stratified.kind_of_operator found)
    dsimp only at came
    rw [bind_of_ok (next_cons (by rw [kind]; exact Stratified.kind_of_operator found) middle),
      bind_eq_ok] at came
    obtain ⟨clause, behind, read, came⟩ := came
    rw [bind_eq_ok] at came
    obtain ⟨right, final, inside, came⟩ := came
    cases came
    exact ⟨token, middle, op, clause, behind, right, rfl, read, inside⟩

theorem advances_readOwnOperation (leaves : ∀ least, leaving.Same (inner least) (inner least)) :
    Advances (Stratified.readOwnOperation inner level) where
  shortens came := by
    obtain ⟨token, middle, op, clause, behind, right, rfl, read, inside⟩ :=
      readOwnOperation_again came
    have clauseLength := length_le_of_same (Relation.readClause op) read
    have rightLength := length_le_of_same (leaves (level + 1)) inside
    rw [List.length_cons]
    omega
  ends expr := by
    have none : Stratified.operator? level (first []) = none :=
      Option.eq_none_iff_forall_ne_some.2 fun op found => Stratified.kind_of_operator found rfl
    rw [Stratified.readOwnOperation, peek_bind, none]
    rfl

/-! ## Loops -/

section
variable (leaves : ∀ least, leaving.Same (inner least) (inner least))
include leaves

theorem loose_of_loop (came : loop (readOperation inner least) left tokens = (.ok expr, rest)) :
    ∀ op, binaryOp? (first rest) = some op → op.precedence < least := by
  refine loop_eq_ok (advances_readOperation leaves) (fun _ _ => True)
    (fun _ rest => ∀ op, binaryOp? (first rest) = some op → op.precedence < least)
    (fun _ _ => trivial) (fun _ done => ?_) trivial came
  obtain ⟨-, rfl, loose⟩ := loose_of_readOperation_done done
  exact loose

/-- A loop may read all tighter operators first. -/
theorem loop_readOperation_eq (ordered : least ≤ more) (left : Expr) (tokens : List Token) :
    loop (readOperation inner least) left tokens =
      (loop (readOperation inner more) left >>= loop (readOperation inner least)) tokens := by
  -- By the number of tokens: every round of the tighter loop is one of the other loop as well.
  induction size : tokens.length using Nat.strongRecOn generalizing left tokens with
  | ind bound inductionHypothesis =>
    have advances : Advances (readOperation inner more) := advances_readOperation leaves
    by_cases finished : readOperation inner more left tokens = (.ok (.done left), tokens)
    · rw [bind_of_ok (loop_done advances finished)]
    · have same := readOperation_eq_of_le ordered finished
      rw [loop_eq (advances_readOperation leaves), bind_apply, same, bind_apply,
        loop_eq advances, bind_apply]
      cases came : readOperation inner more left tokens with
      | mk result rest =>
        cases result with
        | error error => rfl
        | ok outcome =>
          cases outcome with
          | again next =>
            have shorter := advances.shortens came
            exact inductionHypothesis rest.length (by omega) next rest rfl
          | done final =>
            obtain ⟨rfl, rfl, -⟩ := loose_of_readOperation_done came
            exact absurd came finished

/-- Behind the tighter operators a loop reads those of its own level. -/
theorem loop_readOperation_own (exhausts : Exhausts inner) (below : level < signPrecedence)
    (shut : ∀ op, binaryOp? (first tokens) = some op → op.precedence < level + 1) :
    loop (readOperation inner level) left tokens =
      loop (Stratified.readOwnOperation inner level) left tokens := by
  -- The right operand has taken all tighter operators behind it, so none stands in front of
  -- the next round either.
  induction size : tokens.length using Nat.strongRecOn generalizing left tokens with
  | ind bound inductionHypothesis =>
    have advances : Advances (Stratified.readOwnOperation inner level) :=
      advances_readOwnOperation leaves
    rw [loop_eq (advances_readOperation leaves), loop_eq advances, bind_apply, bind_apply,
      readOperation_eq_readOwnOperation below shut]
    cases came : Stratified.readOwnOperation inner level left tokens with
    | mk result rest =>
      cases result with
      | error error => rfl
      | ok outcome =>
        cases outcome with
        | done final => rfl
        | again next =>
          have shorter := advances.shortens came
          obtain ⟨token, middle, op, clause, behind, right, -, -, inside⟩ :=
            readOwnOperation_again came
          exact inductionHypothesis rest.length (by omega) (exhausts inside) rfl

/-- The loop over the tightest operators reads one power at most. -/
theorem loop_readOperation_power (exhausts : Exhausts inner) (base : Expr)
    (tokens : List Token) :
    loop (readOperation inner signPrecedence) base tokens =
      Stratified.readPower inner base tokens := by
  have advances : Advances (readOperation inner signPrecedence) := advances_readOperation leaves
  by_cases power : binaryOp? (first tokens) = some .pow
  · have round : readOperation inner signPrecedence base tokens =
        (next >>= fun _ => readClause .pow >>= fun clause => inner signPrecedence >>=
          fun exponent => pure (.again (.binary clause base exponent))) tokens := by
      rw [readOperation, peek_bind, power]
      rfl
    rw [Stratified.readPower, peek_bind, if_pos (Stratified.kind_eq_pow_iff.2 power),
      Stratified.unaryLevel_eq, loop_eq advances, bind_apply, round, ← bind_apply, bind_assoc]
    refine bind_congr fun token middle _ => ?_
    rw [bind_assoc]
    refine bind_congr fun clause behind _ => ?_
    rw [bind_assoc]
    refine bind_congr fun exponent rest inside => ?_
    -- The exponent has taken all powers behind it, so there is no second round.
    exact loop_done advances (readOperation_done (exhausts inside))
  · rw [Stratified.readPower, peek_bind, if_neg (mt Stratified.kind_eq_pow_iff.1 power)]
    refine loop_done advances (readOperation_done fun op here => ?_)
    by_contra tight
    rw [BinaryOp.eq_pow_of_precedence (Nat.not_lt.1 tight)] at here
    exact power here

/-! ## Levels -/

/-- Climbing from the tightest precedence reads the level of signs and powers. -/
theorem readOperands_eq_readSigned (exhausts : Exhausts inner) :
    readOperands inner signPrecedence = Stratified.readSigned inner := by
  funext tokens
  have advances : Advances (readOperation inner signPrecedence) := advances_readOperation leaves
  rw [readOperands, readUnary, Stratified.readSigned, bind_assoc, peek_bind, peek_bind,
    Stratified.sign?_eq, Stratified.unaryLevel_eq]
  cases sign : unaryOp? (first tokens).kind with
  | some op =>
    dsimp only
    rw [bind_assoc]
    refine bind_congr fun token middle _ => ?_
    rw [bind_apply, map_apply]
    cases came : inner signPrecedence middle with
    | mk result rest =>
      cases result with
      | error error => rfl
      -- The operand of a sign has taken all powers behind it.
      | ok body => exact loop_done advances (readOperation_done (exhausts came))
  | none =>
    dsimp only
    rw [bind_assoc]
    refine bind_congr fun primary middle _ => bind_congr fun base rest _ => ?_
    exact loop_readOperation_power leaves exhausts base rest

/-- Climbing reads the levels of the grammar, where inner expressions are as long as can be. -/
theorem readOperands_eq_readLevel (exhausts : Exhausts inner) (bounded : level ≤ signPrecedence) :
    readOperands inner level = Stratified.readLevel inner level := by
  -- From the tightest level on: the loop of a level is what is left of a loop once the tighter
  -- operators are read.
  induction level using Stratified.readLevel.induct with
  | case1 level below inductionHypothesis =>
    funext tokens
    rw [Stratified.readLevel_of_lt inner below, ← inductionHypothesis below, readOperands,
      readOperands, bind_assoc]
    refine bind_congr fun left middle _ => ?_
    rw [loop_readOperation_eq leaves (Nat.le_succ level)]
    refine bind_congr fun expr rest came => ?_
    exact loop_readOperation_own leaves exhausts below (loose_of_loop leaves came)
  | case2 level above =>
    rw [Stratified.readLevel_of_le inner (Nat.not_lt.1 above)]
    rw [Stratified.unaryLevel_eq] at above
    obtain rfl := Nat.le_antisymm bounded (Nat.not_lt.1 above)
    exact readOperands_eq_readSigned leaves exhausts

end

/-- No operator binds as loosely as zero. -/
theorem readOperands_zero (inner : Nat → Parse Expr) :
    readOperands inner 0 = readOperands inner 1 := by
  have same : readOperation inner 0 = readOperation inner 1 := by
    funext left
    have all : ∀ token, (binaryOp? token).filter (0 ≤ ·.precedence) =
        (binaryOp? token).filter (1 ≤ ·.precedence) := by
      intro token
      cases binaryOp? token with
      | none => rfl
      | some op => simp [Option.filter_some, op.one_le_precedence]
    unfold readOperation
    simp only [all]
  unfold readOperands
  rw [same]

end

/-! ## Climbing -/

theorem exhausts_readLevels (levels : Nat) : Exhausts (readLevels levels) := by
  intro least tokens expr rest came
  cases levels with
  | zero => cases came
  | succ levels =>
    rw [readLevels, readOperands, bind_eq_ok] at came
    obtain ⟨left, middle, -, came⟩ := came
    exact loose_of_loop (fun least => Relation.readLevels levels least) came

/-- Only the first run may find the expression nested too deeply. -/
def shallower : Comparison where
  alike := Eq
  excused fault := fault = .nestedTooDeeply
  kind same := congrArg Token.kind same
  text same := congrArg Token.text same
  refl _ := rfl

theorem likened_shallower {tokens others : List Token} :
    shallower.Likened tokens others ↔ tokens = others := by
  change List.Forall₂ Eq tokens others ↔ tokens = others
  rw [List.forall₂_eq_eq_eq]

/-- Climbing compares with the grammar: the bound on the depth is the only difference. -/
theorem shallower_readLevels (levels : Nat) {least : Nat} (bounded : least ≤ signPrecedence) :
    shallower.relation.Same (readLevels levels least) (Stratified.read least) := by
  induction levels generalizing least with
  | zero =>
    intro tokens others likened
    change shallower.Outcomes Eq (.error ⟨.nestedTooDeeply, _⟩, _) _
    generalize Stratified.read least others = outcome
    rcases outcome with ⟨_ | expr, rest⟩
    · trivial
    · rfl
  | succ levels inductionHypothesis =>
    -- With depth left a run reads a level of the grammar over runs of less depth.
    have level : readLevels (levels + 1) least =
        Stratified.readLevel (readLevels levels) (max 1 least) := by
      rw [readLevels, ← readOperands_eq_readLevel (fun least => Relation.readLevels levels least)
        (exhausts_readLevels levels) (Nat.max_le.2 ⟨by decide, bounded⟩)]
      cases least with
      | zero => exact readOperands_zero _
      | succ least => rw [Nat.max_eq_right (Nat.succ_le_succ (Nat.zero_le _))]
    rw [level, Stratified.read_eq]
    exact Stratified.same_readLevel (fun _ below => inductionHypothesis below) _

/-- Climbing agrees with the stratified grammar from every least precedence: what it reads the
grammar reads, and where the grammar reads an expression it reads the same one or finds it
nested too deeply. -/
theorem climbing_agrees_stratified (levels : Nat) {least : Nat}
    (bounded : least ≤ Stratified.unaryLevel) (tokens : List Token) :
    (∀ expr rest, readLevels levels least tokens = (.ok expr, rest) →
      Stratified.read least tokens = (.ok expr, rest)) ∧
    (∀ expr rest, Stratified.read least tokens = (.ok expr, rest) →
      readLevels levels least tokens = (.ok expr, rest) ∨
        ∃ pos left, readLevels levels least tokens = (.error ⟨.nestedTooDeeply, pos⟩, left)) := by
  have outcomes := shallower_readLevels levels bounded tokens tokens (likened_shallower.2 rfl)
  -- The two outcomes can differ only by the limit on levels.
  constructor
  · intro expr rest came
    rw [came] at outcomes
    cases reference : Stratified.read least tokens with
    | mk result left =>
      rw [reference] at outcomes
      cases result with
      | error error => exact outcomes.elim
      | ok other =>
        obtain ⟨rfl, likened⟩ := outcomes
        rw [likened_shallower.1 likened]
  · intro expr rest reference
    rw [reference] at outcomes
    cases came : readLevels levels least tokens with
    | mk result left =>
      rw [came] at outcomes
      cases result with
      | error error =>
        obtain ⟨fault, pos⟩ := error
        obtain rfl : fault = .nestedTooDeeply := outcomes
        exact .inr ⟨pos, left, rfl⟩
      | ok other =>
        obtain ⟨rfl, likened⟩ := outcomes
        rw [likened_shallower.1 likened]
        exact .inl rfl

/-- Words of the two lowest levels around a comparison, a comparison around two operators of one
level, and a power with a signed exponent in front of a product. -/
theorem climbing_agrees_power : 0 ≤ Stratified.unaryLevel ∧
    Stratified.read 0 [⟨.ident, "a", 0⟩, ⟨.ident, "or", 2⟩, ⟨.ident, "b", 5⟩,
      ⟨.ident, "AND", 7⟩, ⟨.ident, "c", 11⟩, ⟨.equal, "==", 13⟩, ⟨.ident, "d", 16⟩,
      ⟨.eof, "", 17⟩] =
    (.ok (.binary ⟨.or, false, none⟩ (.vector ⟨some "a", [], .none⟩)
      (.binary ⟨.and, false, none⟩ (.vector ⟨some "b", [], .none⟩)
        (.binary ⟨.equal, false, none⟩ (.vector ⟨some "c", [], .none⟩)
          (.vector ⟨some "d", [], .none⟩)))), [⟨.eof, "", 17⟩]) ∧
    Stratified.read 0 [⟨.ident, "a", 0⟩, ⟨.equal, "==", 2⟩, ⟨.ident, "b", 5⟩, ⟨.sub, "-", 7⟩,
      ⟨.ident, "c", 9⟩, ⟨.add, "+", 11⟩, ⟨.ident, "d", 13⟩, ⟨.eof, "", 14⟩] =
    (.ok (.binary ⟨.equal, false, none⟩ (.vector ⟨some "a", [], .none⟩)
      (.binary ⟨.add, false, none⟩
        (.binary ⟨.sub, false, none⟩ (.vector ⟨some "b", [], .none⟩)
          (.vector ⟨some "c", [], .none⟩))
        (.vector ⟨some "d", [], .none⟩))), [⟨.eof, "", 14⟩]) ∧
    Stratified.read 0 [⟨.ident, "a", 0⟩, ⟨.pow, "^", 1⟩, ⟨.sub, "-", 2⟩, ⟨.ident, "b", 3⟩,
      ⟨.mul, "*", 4⟩, ⟨.ident, "c", 5⟩, ⟨.eof, "", 6⟩] =
    (.ok (.binary ⟨.mul, false, none⟩
      (.binary ⟨.pow, false, none⟩ (.vector ⟨some "a", [], .none⟩)
        (.unary .neg (.vector ⟨some "b", [], .none⟩)))
      (.vector ⟨some "c", [], .none⟩)), [⟨.eof, "", 6⟩]) := by
  have lowest : 0 ≤ Stratified.unaryLevel := by decide
  refine ⟨lowest, (climbing_agrees_stratified maxLevels lowest _).1 _ _ ?words,
    (climbing_agrees_stratified maxLevels lowest _).1 _ _ ?sums,
    (climbing_agrees_stratified maxLevels lowest _).1 _ _ ?powers⟩
  case words => rfl
  case sums => rfl
  case powers => rfl

end RuleAtlas.Query
