import RuleAtlas.Proofs.Query.Durations
import RuleAtlas.Proofs.Query.Readable
import RuleAtlas.Proofs.Query.Steps

/-! # What readings of parts come to

Every reading of tokens whose texts fit their kinds comes to parts that can be read again:
labels are words, numbers have no sign, durations are below the limit, and behind an operand
only ranges and clauses are taken that may stand there. -/

namespace RuleAtlas.Query

open Parse
open Binary64 (Canonical IsUnsigned)

variable {tokens rest : List Token}

/-! ## Tokens that fit their kinds -/

theorem Lexical.of_suffix (lexical : Lexical tokens) (suffix : rest <:+ tokens) : Lexical rest :=
  fun token member => lexical token (suffix.subset member)

/-- What a parse of the grammar leaves fits its kinds if what it was given does. -/
theorem Lexical.left {α : Type} {parse : Parse α} {result : Except ParseError α}
    (lexical : Lexical tokens) (same : leaving.Same parse parse)
    (came : parse tokens = (result, rest)) : Lexical rest :=
  lexical.of_suffix (suffix_of_same same came)

theorem Lexical.behind {token : Token} (lexical : Lexical (token :: tokens)) : Lexical tokens :=
  lexical.of_suffix (List.suffix_cons token tokens)

/-- Every item between commas is what a single item may be. -/
theorem mem_items {α : Type} {item : Parse α} {good : α → Prop}
    (each : ∀ {tokens a rest}, Lexical tokens → item tokens = (.ok a, rest) → good a)
    (leaves : leaving.Same item item) {closing : Option TokenKind} {count : Nat} {as : List α}
    (lexical : Lexical tokens) (came : items item closing count tokens = (.ok as, rest)) :
    ∀ a ∈ as, good a := by
  -- By the bound on their number: each item is read in front of a comma or of the end.
  induction count generalizing tokens as with
  | zero =>
    cases came
    intro a member
    cases member
  | succ count inductionHypothesis =>
    obtain ⟨first, behind, read, came⟩ := bind_eq_ok.1 came
    have firstGood := each lexical read
    have single : ∀ a ∈ [first], good a := by
      intro a member
      rw [List.mem_singleton.1 member]
      exact firstGood
    have lexicalBehind := lexical.left leaves read
    obtain ⟨taken, after, accepted, came⟩ := bind_eq_ok.1 came
    have lexicalAfter := lexicalBehind.left (Relation.accept .comma) accepted
    cases taken with
    | false =>
      cases came
      exact single
    | true =>
      rw [if_pos rfl, peek_bind] at came
      split at came
      · cases came
        exact single
      · obtain ⟨others, final, following, came⟩ := bind_eq_ok.1 came
        cases came
        intro a member
        rcases List.mem_cons.1 member with rfl | member
        · exact firstGood
        · exact inductionHypothesis lexicalAfter following a member

/-! ## Labels, numbers and durations -/

theorem isWord_of_readLabel {place : Place} {label : String} (lexical : Lexical tokens)
    (came : readLabel place tokens = (.ok label, rest)) : isWord label.toList = true := by
  rw [readLabel, bind_eq_ok] at came
  obtain ⟨token, middle, expected, came⟩ := came
  obtain ⟨rfl, kind⟩ := expect_eq_ok (by decide) expected
  cases came
  exact (lexical token List.mem_cons_self).1 kind

theorem areWords_of_readLabels {place : Place} {labels : List String} (lexical : Lexical tokens)
    (came : readLabels place tokens = (.ok labels, rest)) : AreWords labels := by
  rw [readLabels, bind_eq_ok] at came
  obtain ⟨opening, middle, expected, came⟩ := came
  have lexicalMiddle := lexical.left (Relation.expect .leftParen place) expected
  obtain ⟨read, behind, chosen, closed⟩ := choice_eq_ok came
  obtain ⟨closing, final, -, returned⟩ := bind_eq_ok.1 closed
  cases returned
  split at chosen
  · cases chosen
    intro label member
    cases member
  · exact mem_items isWord_of_readLabel (Relation.readLabel place) lexicalMiddle chosen

theorem proper_of_readDurationToken {place : Place} {duration : Duration}
    (came : readDurationToken place tokens = (.ok duration, rest)) : duration.Proper := by
  rw [readDurationToken, bind_eq_ok] at came
  obtain ⟨token, middle, -, lifted⟩ := came
  obtain ⟨parsed, -⟩ := lift_eq_ok.1 lifted
  cases outcome : Duration.parse token.text with
  | error error =>
    rw [outcome] at parsed
    cases parsed
  | ok value =>
    rw [outcome] at parsed
    cases parsed
    exact Duration.lt_limit_of_parse outcome

/-- What a token of a number stands for is a number without a sign. -/
theorem proper_of_numberOf {token : Token} {number : Binary64}
    (begins : Binary64.BeginsNumber token.text.toList)
    (came : numberOf token tokens = (.ok number, rest)) : Canonical number ∧ IsUnsigned number := by
  unfold numberOf at came
  cases found : numberValue? token.text.toList with
  | none =>
    rw [found] at came
    cases came
  | some value =>
    rw [found] at came
    cases came
    unfold numberValue? at found
    -- A hexadecimal number is a natural number, which is rounded.
    have hexadecimal : ∀ digits, ofHexadecimal? digits = some number →
        Canonical number ∧ IsUnsigned number := by
      intro digits found
      unfold ofHexadecimal? at found
      split at found
      · cases found
      · cases found
        exact ⟨Binary64.canonical_ofRatio _ _ Nat.one_pos, by
          rw [Binary64.ofInt, decide_eq_false (by omega)]
          exact Binary64.isUnsigned_ofRatio _ _⟩
    split at found
    · exact hexadecimal _ found
    · exact hexadecimal _ found
    · rw [Binary64.ofText?_of_beginsNumber begins] at found
      exact Binary64.canonical_of_ofUnsignedText? found

/-! ## Selectors -/

theorem isWord_of_readMatcher {matcher : LabelMatcher} (lexical : Lexical tokens)
    (came : readMatcher tokens = (.ok matcher, rest)) : isWord matcher.label.toList = true := by
  rw [readMatcher, bind_eq_ok] at came
  obtain ⟨label, middle, read, came⟩ := came
  have word := isWord_of_readLabel lexical read
  rw [peek_bind] at came
  cases operator : matchKind? (first middle).kind with
  | none =>
    rw [operator] at came
    cases came
  | some kind =>
    rw [operator] at came
    dsimp only at came
    rw [bind_eq_ok] at came
    obtain ⟨_, _, -, came⟩ := came
    rw [bind_eq_ok] at came
    obtain ⟨text, _, -, came⟩ := came
    obtain ⟨made, -⟩ := lift_eq_ok.1 came
    unfold LabelMatcher.make at made
    split at made
    · cases made
      exact word
    · cases made

theorem isWord_of_readMatchers {matchers : List LabelMatcher} (lexical : Lexical tokens)
    (came : readMatchers tokens = (.ok matchers, rest)) :
    ∀ matcher ∈ matchers, isWord matcher.label.toList = true := by
  rw [readMatchers, bind_eq_ok] at came
  obtain ⟨opening, middle, expected, came⟩ := came
  have lexicalMiddle := lexical.left (Relation.expect .leftBrace .matchers) expected
  obtain ⟨read, behind, chosen, closed⟩ := choice_eq_ok came
  obtain ⟨closing, final, -, returned⟩ := bind_eq_ok.1 closed
  cases returned
  split at chosen
  · cases chosen
    intro matcher member
    cases member
  · exact mem_items isWord_of_readMatcher Relation.readMatcher lexicalMiddle chosen

/-- A selector fits together; what stands in front of it says whether it has a name. -/
theorem fits_of_readSelector {name : Option String} {expr : Expr} (lexical : Lexical tokens)
    (word : ∀ text ∈ name, isWord text.toList = true ∧ numberWord? text = none)
    (came : readSelector name tokens = (.ok expr, rest)) :
    ∃ matchers, expr = .vector ⟨name, matchers, .none⟩ ∧
      Selector.Fits ⟨name, matchers, .none⟩ := by
  unfold readSelector at came
  obtain ⟨matchers, middle, chosen, came⟩ := choice_eq_ok came
  have labels : ∀ matcher ∈ matchers, isWord matcher.label.toList = true := by
    split at chosen
    · exact isWord_of_readMatchers lexical chosen
    · cases chosen
      intro matcher member
      cases member
  dsimp only at came
  split at came
  · cases came
  · -- The two faults of a selector are the two conditions on its name and its matchers.
    rename_i nameOnce
    split at came
    · cases came
    · rename_i selects
      cases came
      refine ⟨matchers, rfl, labels, ?_, ?_⟩
      · intro text named
        obtain ⟨isWord, noNumber⟩ := word text named
        cases named
        exact ⟨isWord, noNumber, by simpa using nameOnce⟩
      · rintro rfl
        simpa using selects

/-! ## Ranges and clauses in time -/

/-- An operand, as what stands in front of ranges and clauses is. -/
structure Operand (levels : Nat) (expr : Expr) : Prop where
  readable : Readable levels 0 expr
  operand : expr.isOperand = true

variable {levels : Nat} {expr result : Expr}

theorem Operand.proper_modifiers (operand : Operand levels expr) {modifiers : Modifiers}
    (here : expr.modifiers? = some modifiers) : modifiers.Proper := by
  obtain ⟨readable, -⟩ := operand
  cases readable with
  | vector proper => cases here; exact proper.modifiers
  | matrix proper bounded => cases here; exact proper.modifiers
  | subquery readable inner noRange proper => cases here; exact proper.modifiers
  | _ => cases here

/-- With other proper clauses an operand is still one. -/
theorem Operand.withModifiers (operand : Operand levels expr) {modifiers : Modifiers}
    (proper : modifiers.Proper) : Operand levels (expr.withModifiers modifiers) := by
  obtain ⟨readable, isOperand⟩ := operand
  cases readable with
  | vector before =>
    exact ⟨.vector ⟨⟨before.fits.labels, before.fits.named, before.fits.unnamed⟩, proper⟩, rfl⟩
  | matrix before bounded =>
    exact ⟨.matrix ⟨⟨before.fits.labels, before.fits.named, before.fits.unnamed⟩, proper⟩ bounded,
      rfl⟩
  | subquery readable inner noRange before =>
    exact ⟨.subquery readable inner noRange ⟨before.range, before.step, proper⟩, rfl⟩
  | _ => exact ⟨by constructor <;> assumption, isOperand⟩

theorem Operand.of_applyRange {range : Duration} (operand : Operand levels expr)
    (bounded : range.Proper) (applied : applyRange expr range = .ok result) :
    Operand levels result := by
  unfold applyRange at applied
  split at applied
  · split at applied
    · cases applied
      obtain ⟨readable, -⟩ := operand
      cases readable with
      | vector proper => exact ⟨.matrix proper bounded, rfl⟩
    · cases applied
  · cases applied

theorem Operand.of_applySubquery {range : Duration} {step : Option Duration}
    (operand : Operand levels expr) (bounded : range.Proper)
    (boundedStep : ∀ duration ∈ step, duration.Proper)
    (applied : applySubquery expr range step = .ok result) : Operand levels result := by
  unfold applySubquery at applied
  split at applied
  · cases applied
  · rename_i noRange
    cases applied
    refine ⟨.subquery operand.readable operand.operand ?_
      ⟨bounded, boundedStep, Modifiers.proper_none⟩, rfl⟩
    intro matrix
    cases expr with
    | matrix selector range => exact noRange selector range rfl
    | _ => cases matrix

/-- A range was put behind the expression, or the range and step of a subquery. -/
theorem readRange_eq_ok (came : readRange expr tokens = (.ok result, rest)) :
    ∃ range, range.Proper ∧ (applyRange expr range = .ok result ∨
      ∃ step : Option Duration, (∀ duration ∈ step, duration.Proper) ∧
        applySubquery expr range step = .ok result) := by
  rw [readRange, bind_eq_ok] at came
  obtain ⟨range, middle, read, came⟩ := came
  refine ⟨range, proper_of_readDurationToken read, ?_⟩
  rw [bind_eq_ok] at came
  obtain ⟨taken, behind, -, came⟩ := came
  -- A range is closed at once; the colon of a subquery goes on with it.
  cases taken with
  | true => exact .inl (lift_eq_ok.1 came).1
  | false =>
    rw [if_neg Bool.false_ne_true, bind_eq_ok] at came
    obtain ⟨colon, behind, -, came⟩ := came
    obtain ⟨step, final, chosen, came⟩ := choice_eq_ok came
    rw [bind_eq_ok] at came
    obtain ⟨closing, last, -, came⟩ := came
    refine .inr ⟨step, ?_, (lift_eq_ok.1 came).1⟩
    split at chosen
    · rw [map_eq_ok] at chosen
      obtain ⟨duration, read, rfl⟩ := chosen
      intro other same
      cases same
      exact proper_of_readDurationToken read
    · cases chosen
      intro duration member
      cases member

theorem Operand.of_readRange (operand : Operand levels expr)
    (came : readRange expr tokens = (.ok result, rest)) : Operand levels result := by
  obtain ⟨range, bounded, applied | ⟨step, boundedStep, applied⟩⟩ := readRange_eq_ok came
  · exact operand.of_applyRange bounded applied
  · exact operand.of_applySubquery bounded boundedStep applied

theorem Operand.of_applyOffset {offset : Offset} (operand : Operand levels expr)
    (bounded : offset.duration.Proper) (applied : applyOffset expr offset = .ok result) :
    Operand levels result := by
  unfold applyOffset at applied
  split at applied
  · cases applied
  · rename_i modifiers here
    split at applied
    · cases applied
    · cases applied
      refine operand.withModifiers ⟨?_, (operand.proper_modifiers here).instant⟩
      intro other same
      cases same
      exact bounded

theorem Operand.of_applyInstant {instant : Instant} (operand : Operand levels expr)
    (proper : instant.Proper) (applied : applyInstant expr instant = .ok result) :
    Operand levels result := by
  unfold applyInstant at applied
  split at applied
  · cases applied
  · rename_i modifiers here
    split at applied
    · cases applied
    · cases applied
      refine operand.withModifiers ⟨(operand.proper_modifiers here).offset, ?_⟩
      intro other same
      cases same
      exact proper

theorem proper_of_readOffset {offset : Offset} (came : readOffset tokens = (.ok offset, rest)) :
    offset.duration.Proper := by
  rw [readOffset, bind_eq_ok] at came
  obtain ⟨negative, middle, -, came⟩ := came
  rw [bind_eq_ok] at came
  obtain ⟨duration, behind, read, came⟩ := came
  cases came
  exact proper_of_readDurationToken read

theorem proper_of_readRangeBound {bound instant : Instant} (proper : bound.Proper)
    (came : readRangeBound bound tokens = (.ok instant, rest)) : instant.Proper := by
  rw [readRangeBound, bind_eq_ok] at came
  obtain ⟨word, middle, -, came⟩ := came
  rw [bind_eq_ok] at came
  obtain ⟨opening, behind, -, came⟩ := came
  rw [bind_eq_ok] at came
  obtain ⟨closing, final, -, came⟩ := came
  cases came
  exact proper

theorem proper_of_readInstant {instant : Instant} (lexical : Lexical tokens)
    (came : readInstant tokens = (.ok instant, rest)) : instant.Proper := by
  rw [readInstant, peek_bind] at came
  -- One of the two words, or a sign and a number.
  split at came
  · exact proper_of_readRangeBound (show Instant.rangeStart.Proper from trivial) came
  · split at came
    · exact proper_of_readRangeBound (show Instant.rangeEnd.Proper from trivial) came
    · rw [bind_eq_ok] at came
      obtain ⟨negative, middle, sign, came⟩ := came
      have lexicalMiddle := lexical.left Relation.readSign sign
      rw [bind_eq_ok] at came
      obtain ⟨token, behind, expected, came⟩ := came
      obtain ⟨rfl, kind⟩ := expect_eq_ok (by decide) expected
      rw [bind_eq_ok] at came
      obtain ⟨number, final, read, came⟩ := came
      have begins := (lexicalMiddle token List.mem_cons_self).2 kind
      obtain ⟨canonical, -⟩ := proper_of_numberOf begins read
      split at came
      · rename_i finite
        cases came
        cases negative with
        | false => exact ⟨finite, canonical⟩
        | true =>
          cases number with
          | finite negative significand exponent => exact ⟨rfl, canonical⟩
          | _ => cases finite
      · cases came

/-! ## First tokens -/

theorem first_withModifiers (expr : Expr) (modifiers : Modifiers) :
    first (expr.withModifiers modifiers).tokens = first expr.tokens := by
  -- The clauses stand behind something that has a token of its own.
  cases expr with
  | vector selector =>
    simp only [Expr.withModifiers, Expr.tokens]
    rw [first_append (Selector.baseTokens_ne_nil _), first_append (Selector.baseTokens_ne_nil _)]
    rfl
  | matrix selector range =>
    simp only [Expr.withModifiers, Expr.tokens]
    rw [first_append (Selector.baseTokens_ne_nil _), first_append (Selector.baseTokens_ne_nil _)]
    rfl
  | subquery body clause =>
    simp only [Expr.withModifiers, Expr.tokens]
    rw [first_append body.tokens_ne_nil, first_append body.tokens_ne_nil]
  | _ => rfl

theorem first_of_applyRange {range : Duration} (applied : applyRange expr range = .ok result) :
    first result.tokens = first expr.tokens := by
  unfold applyRange at applied
  split at applied
  · split at applied
    · cases applied
      simp only [Expr.tokens]
      rw [first_append (Selector.baseTokens_ne_nil _), first_append (Selector.baseTokens_ne_nil _)]
    · cases applied
  · cases applied

theorem first_of_applySubquery {range : Duration} {step : Option Duration}
    (applied : applySubquery expr range step = .ok result) :
    first result.tokens = first expr.tokens := by
  unfold applySubquery at applied
  split at applied
  · cases applied
  · cases applied
    rw [Expr.tokens, first_append expr.tokens_ne_nil]

/-- A clause that was put behind an expression changed only its clauses. -/
theorem exists_of_applyOffset {offset : Offset} (applied : applyOffset expr offset = .ok result) :
    ∃ modifiers, result = expr.withModifiers modifiers := by
  unfold applyOffset at applied
  split at applied
  · cases applied
  · split at applied
    · cases applied
    · cases applied
      exact ⟨_, rfl⟩

theorem exists_of_applyInstant {instant : Instant}
    (applied : applyInstant expr instant = .ok result) :
    ∃ modifiers, result = expr.withModifiers modifiers := by
  unfold applyInstant at applied
  split at applied
  · cases applied
  · split at applied
    · cases applied
    · cases applied
      exact ⟨_, rfl⟩

theorem first_of_applyOffset {offset : Offset} (applied : applyOffset expr offset = .ok result) :
    first result.tokens = first expr.tokens := by
  obtain ⟨modifiers, rfl⟩ := exists_of_applyOffset applied
  exact first_withModifiers expr modifiers

theorem first_of_applyInstant {instant : Instant}
    (applied : applyInstant expr instant = .ok result) :
    first result.tokens = first expr.tokens := by
  obtain ⟨modifiers, rfl⟩ := exists_of_applyInstant applied
  exact first_withModifiers expr modifiers

/-- What is read behind an expression leaves its first token. -/
theorem first_of_readPostfix_again
    (came : readPostfix expr tokens = (.ok (.again result), rest)) :
    first result.tokens = first expr.tokens := by
  obtain ⟨token, middle, rfl, read⟩ := readPostfix_again came
  rcases read with ⟨-, read⟩ | ⟨-, offset, -, applied⟩ | ⟨-, instant, -, applied⟩
  · obtain ⟨range, -, applied | ⟨step, -, applied⟩⟩ := readRange_eq_ok read
    · exact first_of_applyRange applied
    · exact first_of_applySubquery applied
  · exact first_of_applyOffset applied
  · exact first_of_applyInstant applied

/-- An operand with the ranges and clauses that are read behind it is an operand. -/
theorem Operand.of_readPostfixes (operand : Operand levels expr) (lexical : Lexical tokens)
    (came : readPostfixes expr tokens = (.ok result, rest)) :
    Operand levels result ∧ first result.tokens = first expr.tokens := by
  -- From round to round it stays an operand that begins as before.
  refine loop_eq_ok advances_readPostfix
    (fun other tokens => (Operand levels other ∧ first other.tokens = first expr.tokens) ∧
      Lexical tokens)
    (fun other _ => Operand levels other ∧ first other.tokens = first expr.tokens) ?_ ?_
    ⟨⟨operand, rfl⟩, lexical⟩ came
  · rintro before after tokens rest ⟨⟨operand, same⟩, lexical⟩ again
    have lexicalRest := lexical.left (Relation.readPostfix before) again
    refine ⟨⟨?_, (first_of_readPostfix_again again).trans same⟩, lexicalRest⟩
    obtain ⟨token, middle, rfl, read⟩ := readPostfix_again again
    rcases read with ⟨-, read⟩ | ⟨-, offset, read, applied⟩ | ⟨-, instant, read, applied⟩
    · exact operand.of_readRange read
    · exact operand.of_applyOffset (proper_of_readOffset read) applied
    · exact operand.of_applyInstant (proper_of_readInstant lexical.behind read) applied
  · rintro before after tokens rest ⟨unchanged, lexical⟩ done
    rw [(eq_of_readPostfix_done done).1]
    exact unchanged

/-! ## Groupings -/

theorem areWords_of_readGrouping {grouping : Option Grouping} (lexical : Lexical tokens)
    (came : readGrouping tokens = (.ok grouping, rest)) :
    ∀ labels ∈ grouping.map Grouping.labels, AreWords labels := by
  rw [readGrouping, bind_eq_ok] at came
  obtain ⟨byWord, middle, accepted, came⟩ := came
  have lexicalMiddle := lexical.left (Relation.acceptWord "by") accepted
  split at came
  · rw [map_eq_ok] at came
    obtain ⟨labels, read, rfl⟩ := came
    intro other same
    cases same
    exact areWords_of_readLabels lexicalMiddle read
  · rw [bind_eq_ok] at came
    obtain ⟨withoutWord, behind, accepted, came⟩ := came
    have lexicalBehind := lexicalMiddle.left (Relation.acceptWord "without") accepted
    split at came
    · rw [map_eq_ok] at came
      obtain ⟨labels, read, rfl⟩ := came
      intro other same
      cases same
      exact areWords_of_readLabels lexicalBehind read
    · cases came
      intro labels none
      cases none

theorem areWords_of_readSecondGrouping {before grouping : Option Grouping}
    (lexical : Lexical tokens) (words : ∀ labels ∈ before.map Grouping.labels, AreWords labels)
    (came : readSecondGrouping before tokens = (.ok grouping, rest)) :
    ∀ labels ∈ grouping.map Grouping.labels, AreWords labels := by
  cases before with
  | none => exact areWords_of_readGrouping lexical came
  | some first =>
    rw [readSecondGrouping, peek_bind] at came
    split at came
    · cases came
    · cases came
      exact words

/-! ## What stands between operands -/

theorem readBool_eq_ok {op : BinaryOp} {returnsBool : Bool}
    (came : readBool op tokens = (.ok returnsBool, rest)) :
    (returnsBool = true ∧ op.isComparison = true) ∨
      (returnsBool = false ∧ rest = tokens ∧ (first tokens).isWord "bool" = false) := by
  rw [readBool, peek_bind] at came
  split at came
  · split at came
    · rename_i comparison
      rw [bind_eq_ok] at came
      obtain ⟨token, middle, -, came⟩ := came
      cases came
      exact .inl ⟨rfl, comparison⟩
    · cases came
  · rename_i other
    cases came
    exact .inr ⟨rfl, rfl, Bool.eq_false_iff.2 other⟩

theorem areWords_of_readTakenLabels {labels : List String} (lexical : Lexical tokens)
    (came : readTakenLabels tokens = (.ok labels, rest)) : AreWords labels := by
  rw [readTakenLabels, peek_bind] at came
  split at came
  · exact areWords_of_readLabels lexical came
  · cases came
    intro label member
    cases member

theorem readGroupModifier_eq_ok {op : BinaryOp} {group : Option GroupModifier}
    (lexical : Lexical tokens) (came : readGroupModifier op tokens = (.ok group, rest)) :
    (∃ side, group = some side ∧ op.isSetOperator = false ∧ AreWords side.labels) ∨
      (group = none ∧ rest = tokens ∧ (first tokens).isWord "group_left" = false ∧
        (first tokens).isWord "group_right" = false) := by
  rw [readGroupModifier, peek_bind] at came
  split at came
  · split at came
    · cases came
    · rename_i noSet
      rw [bind_eq_ok] at came
      obtain ⟨token, middle, taken, came⟩ := came
      have lexicalMiddle := lexical.left leaving.next taken
      rw [bind_eq_ok] at came
      obtain ⟨labels, behind, read, came⟩ := came
      have words := areWords_of_readTakenLabels lexicalMiddle read
      cases came
      refine .inl ⟨_, rfl, Bool.eq_false_iff.2 noSet, ?_⟩
      split
      · exact words
      · exact words
  · rename_i other
    cases came
    rw [Bool.or_eq_true, not_or, Bool.not_eq_true, Bool.not_eq_true] at other
    exact .inr ⟨rfl, rfl, other⟩

theorem readMatchingLabels_eq_ok {labels : Option MatchingLabels} (lexical : Lexical tokens)
    (came : readMatchingLabels tokens = (.ok labels, rest)) :
    (∃ matched, labels = some matched ∧ AreWords matched.labels) ∨
      (labels = none ∧ rest = tokens ∧ (first tokens).isWord "on" = false ∧
        (first tokens).isWord "ignoring" = false) := by
  rw [readMatchingLabels, bind_eq_ok] at came
  obtain ⟨onWord, middle, accepted, came⟩ := came
  have lexicalMiddle := lexical.left (Relation.acceptWord "on") accepted
  rcases acceptWord_eq_ok accepted with ⟨rfl, -⟩ | ⟨rfl, rfl, noOn⟩
  · rw [if_pos rfl, map_eq_ok] at came
    obtain ⟨words, read, rfl⟩ := came
    exact .inl ⟨.on words, rfl, areWords_of_readLabels lexicalMiddle read⟩
  · rw [if_neg Bool.false_ne_true, bind_eq_ok] at came
    obtain ⟨ignoringWord, behind, accepted, came⟩ := came
    have lexicalBehind := lexicalMiddle.left (Relation.acceptWord "ignoring") accepted
    rcases acceptWord_eq_ok accepted with ⟨rfl, -⟩ | ⟨rfl, rfl, noIgnoring⟩
    · rw [if_pos rfl, map_eq_ok] at came
      obtain ⟨words, read, rfl⟩ := came
      exact .inl ⟨.ignoring words, rfl, areWords_of_readLabels lexicalBehind read⟩
    · cases came
      exact .inr ⟨rfl, rfl, noOn, noIgnoring⟩

/-- How operands are put together is proper, and what follows does not go on with it. -/
theorem readMatching_eq_ok {op : BinaryOp} {matching : Option VectorMatching}
    (lexical : Lexical tokens) (came : readMatching op tokens = (.ok matching, rest)) :
    (matching = none ∧ rest = tokens ∧ (first rest).isWord "on" = false ∧
      (first rest).isWord "ignoring" = false) ∨
    ∃ parts, matching = some parts ∧ parts.Proper op ∧
      (parts.group = none → (first rest).isWord "group_left" = false ∧
        (first rest).isWord "group_right" = false) := by
  rw [readMatching, bind_eq_ok] at came
  obtain ⟨labels, middle, readLabels, came⟩ := came
  have lexicalMiddle := lexical.left Relation.readMatchingLabels readLabels
  rcases readMatchingLabels_eq_ok lexical readLabels with
    ⟨matched, rfl, words⟩ | ⟨rfl, rfl, noLabels⟩
  · dsimp only at came
    rw [bind_eq_ok] at came
    obtain ⟨group, last, readGroup, returned⟩ := came
    cases returned
    refine .inr ⟨⟨matched, group⟩, rfl, ?_⟩
    rcases readGroupModifier_eq_ok lexicalMiddle readGroup with
      ⟨side, rfl, proper⟩ | ⟨rfl, rfl, other⟩
    · refine ⟨⟨words, fun read same => ?_⟩, nofun⟩
      cases same
      exact proper
    · exact ⟨⟨words, nofun⟩, fun _ => other⟩
  · cases came
    exact .inl ⟨rfl, rfl, noLabels⟩

/-- The clause of an operator is proper, and what follows does not go on with it. -/
theorem readClause_eq_ok {op : BinaryOp} {clause : BinaryClause} (lexical : Lexical tokens)
    (came : readClause op tokens = (.ok clause, rest)) :
    clause.op = op ∧ clause.Proper ∧ clause.Admits (first rest) := by
  rw [readClause, bind_eq_ok] at came
  obtain ⟨returnsBool, middle, readFirst, came⟩ := came
  have lexicalMiddle := lexical.left (Relation.readBool op) readFirst
  rw [bind_eq_ok] at came
  obtain ⟨matching, behind, readSecond, came⟩ := came
  cases came
  have comparison : returnsBool = true → op.isComparison = true := by
    intro returns
    rcases readBool_eq_ok readFirst with ⟨-, holds⟩ | ⟨rfl, -⟩
    · exact holds
    · cases returns
  -- Each part that the clause lacks was looked for, in vain, at the token where reading went on.
  rcases readMatching_eq_ok lexicalMiddle readSecond with
    ⟨rfl, rfl, noLabels⟩ | ⟨parts, rfl, proper, noGroup⟩
  · refine ⟨rfl, ⟨comparison, nofun⟩, ⟨fun returns _ => ?_, fun _ => noLabels, nofun⟩⟩
    rcases readBool_eq_ok readFirst with ⟨rfl, -⟩ | ⟨-, rfl, noBool⟩
    · cases returns
    · exact noBool
  · refine ⟨rfl, ⟨comparison, ?_⟩, ⟨nofun, nofun, ?_⟩⟩
    · rintro _ ⟨⟩
      exact proper
    · rintro _ ⟨⟩
      exact noGroup

end RuleAtlas.Query
