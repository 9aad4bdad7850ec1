import RuleAtlas.Proofs.Query.Parsing
import RuleAtlas.Query.Expr.Parser

/-! # Relations between parses

A relation between parses that the building blocks respect is respected by every parse of the
grammar: readings over related parses of inner expressions are related.  What is proved here
once for all relations is used for runs on the same tokens at other places, for runs over
other parses of inner expressions, and for what a run leaves of its tokens. -/

namespace RuleAtlas.Query

open Parse

/-- Reads an expression behind the word it begins with, given the token behind the word too. -/
def readBehindWord (inner : Nat → Parse Expr) (following word : Token) : Parse Expr :=
  match numberWord? word.text with
  | some number => pure (.number number)
  | none =>
    match aggregation? word.text following with
    | some op => readAggregate inner op
    | none =>
      if following.kind = .leftParen then readCall inner word.text
      else readSelector (some word.text)

theorem readWordExpr_eq (inner : Nat → Parse Expr) : readWordExpr inner =
    peekSecond >>= fun following => next >>= readBehindWord inner following := rfl

/-- A relation between parses for every relation between their values, and between single
tokens, that the building blocks of parses respect. -/
structure Relation where
  tokens : Token → Token → Prop
  parses : ∀ {α : Type}, (α → α → Prop) → Parse α → Parse α → Prop
  kind : ∀ {s t}, tokens s t → s.kind = t.kind
  text : ∀ {s t}, tokens s t → s.text = t.text
  value : ∀ {α : Type} {values : α → α → Prop} {a b : α}, values a b →
    parses values (pure a) (pure b)
  andThen : ∀ {α β : Type} {values : α → α → Prop} {results : β → β → Prop}
    {first second : Parse α} {f g : α → Parse β}, parses values first second →
    (∀ a b, values a b → parses results (f a) (g b)) → parses results (first >>= f) (second >>= g)
  peek : parses tokens peek peek
  peekSecond : parses tokens peekSecond peekSecond
  next : parses tokens next next
  fault : ∀ {α : Type} {values : α → α → Prop} (cause : SyntaxFault),
    parses values (fault cause) (fault cause)
  unexpected : ∀ {α : Type} {values : α → α → Prop} (place : Place),
    parses values (unexpected place) (unexpected place)
  -- A loop runs at most as often as there are tokens, so the number of tokens may bound it.
  measured : ∀ {α : Type} {values : α → α → Prop} {p q : Nat → Parse α},
    (∀ count, parses values (p count) (q count)) →
    parses values (fun tokens => p tokens.length tokens) (fun tokens => q tokens.length tokens)

namespace Relation

variable (relation : Relation)

/-- The parses are related and come to the same values. -/
def Same {α : Type} (p q : Parse α) : Prop := relation.parses Eq p q

variable {relation}

section
variable {α β : Type} {first second : Parse α}

theorem same (a : α) : relation.Same (pure a) (pure a) := relation.value rfl

/-- Behind parses that come to the same value related parses follow. -/
theorem behind {f g : α → Parse β} (front : relation.Same first second)
    (following : ∀ a, relation.Same (f a) (g a)) :
    relation.Same (first >>= f) (second >>= g) := by
  refine relation.andThen front ?_
  rintro a _ rfl
  exact following a

theorem map (f : α → β) (front : relation.Same first second) :
    relation.Same (f <$> first) (f <$> second) :=
  behind front fun a => same (f a)

theorem fails (cause : SyntaxFault) :
    relation.Same (Parse.fault cause : Parse α) (Parse.fault cause) :=
  relation.fault cause

theorem lift (result : Except SyntaxFault α) : relation.Same (lift result) (lift result) := by
  cases result with
  | ok a => exact same a
  | error cause => exact fails cause

end

/-! ## Single tokens -/

theorem isWord {s t : Token} (alike : relation.tokens s t) (word : String) :
    s.isWord word = t.isWord word := by
  unfold Token.isWord
  rw [relation.kind alike, relation.text alike]

theorem beginsGrouping {s t : Token} (alike : relation.tokens s t) :
    s.beginsGrouping = t.beginsGrouping := by
  unfold Token.beginsGrouping
  rw [isWord alike, isWord alike]

theorem binaryOp {s t : Token} (alike : relation.tokens s t) : binaryOp? s = binaryOp? t := by
  unfold binaryOp?
  rw [relation.kind alike, relation.text alike]

theorem expect (kind : TokenKind) (place : Place) :
    relation.parses relation.tokens (expect kind place) (expect kind place) := by
  refine relation.andThen relation.peek fun s t alike => ?_
  rw [relation.kind alike]
  split
  · exact relation.next
  · exact relation.unexpected place

/-- Behind an expected token whose text is not used related parses follow. -/
theorem behindExpected {β : Type} {f g : Parse β} (kind : TokenKind) (place : Place)
    (following : relation.Same f g) :
    relation.Same (Parse.expect kind place >>= fun _ => f)
      (Parse.expect kind place >>= fun _ => g) :=
  relation.andThen (expect kind place) fun _ _ _ => following

/-- Behind a token that is taken whatever it is related parses follow. -/
theorem behindNext {β : Type} {f g : Parse β} (following : relation.Same f g) :
    relation.Same (Parse.next >>= fun _ => f) (Parse.next >>= fun _ => g) :=
  relation.andThen relation.next fun _ _ _ => following

theorem accept (kind : TokenKind) : relation.Same (accept kind) (accept kind) := by
  refine relation.andThen relation.peek fun s t alike => ?_
  rw [relation.kind alike]
  split
  · exact behindNext (same true)
  · exact same false

theorem acceptWord (word : String) : relation.Same (acceptWord word) (acceptWord word) := by
  refine relation.andThen relation.peek fun s t alike => ?_
  rw [isWord alike]
  split
  · exact behindNext (same true)
  · exact same false

/-- Where the kind of the first token decides, related parses go on on both sides. -/
theorem byKind {β : Type} {kind : TokenKind} {f g f' g' : Parse β} (here : relation.Same f g)
    (other : relation.Same f' g') :
    relation.Same (Parse.peek >>= fun token => if token.kind = kind then f else f')
      (Parse.peek >>= fun token => if token.kind = kind then g else g') := by
  refine relation.andThen relation.peek fun s t alike => ?_
  rw [relation.kind alike]
  split
  · exact here
  · exact other

/-- The first of two related parts is chosen by the kind of the first token. -/
theorem choice {α β : Type} {kind : TokenKind} {f g f' g' : Parse α} {h h' : α → Parse β}
    (here : relation.Same f g) (other : relation.Same f' g')
    (following : ∀ a, relation.Same (h a) (h' a)) :
    relation.Same (Parse.peek >>= fun token => if token.kind = kind then f >>= h else f' >>= h)
      (Parse.peek >>= fun token => if token.kind = kind then g >>= h' else g' >>= h') :=
  byKind (behind here following) (behind other following)

/-! ## Repetitions -/

section
variable {α : Type}

theorem rounds {first second : α → Parse (Round α)}
    (round : ∀ a, relation.Same (first a) (second a)) (count : Nat) (a : α) :
    relation.Same (rounds first count a) (rounds second count a) := by
  induction count generalizing a with
  | zero => exact same a
  | succ count inductionHypothesis =>
    refine behind (round a) fun outcome => ?_
    cases outcome with
    | again b => exact inductionHypothesis b
    | done b => exact same b

theorem loop {first second : α → Parse (Round α)}
    (round : ∀ a, relation.Same (first a) (second a)) (a : α) :
    relation.Same (loop first a) (loop second a) :=
  relation.measured fun count => rounds round count a

theorem items {first second : Parse α} (item : relation.Same first second)
    (closing : Option TokenKind) (count : Nat) :
    relation.Same (items first closing count) (items second closing count) := by
  induction count with
  | zero => exact same []
  | succ count inductionHypothesis =>
    refine behind item fun a => behind (accept .comma) fun taken => ?_
    cases taken with
    | false => exact same [a]
    | true =>
      refine relation.andThen relation.peek fun s t alike => ?_
      rw [relation.kind alike]
      split
      · exact same [a]
      · exact behind inductionHypothesis fun others => same (a :: others)

theorem separated {first second : Parse α} (item : relation.Same first second)
    (closing : Option TokenKind) :
    relation.Same (separated first closing) (separated second closing) :=
  relation.measured fun count => items item closing count

end

/-! ## Labels, numbers and durations -/

theorem readLabel (place : Place) : relation.Same (readLabel place) (readLabel place) := by
  refine relation.andThen (expect .ident place) fun s t alike => ?_
  rw [relation.text alike]
  exact same t.text

theorem readLabels (place : Place) : relation.Same (readLabels place) (readLabels place) := by
  refine behindExpected .leftParen place ?_
  refine choice (same []) (separated (readLabel place) _) fun labels => ?_
  exact behindExpected .rightParen place (same labels)

theorem numberOf {s t : Token} (alike : relation.tokens s t) :
    relation.Same (numberOf s) (numberOf t) := by
  unfold Query.numberOf
  rw [relation.text alike]
  split
  · exact same _
  · exact fails _

theorem readDurationToken (place : Place) :
    relation.Same (readDurationToken place) (readDurationToken place) := by
  refine relation.andThen (expect .duration place) fun s t alike => ?_
  rw [relation.text alike]
  exact lift _

/-! ## Selectors -/

theorem readMatcher : relation.Same readMatcher readMatcher := by
  refine behind (readLabel .matcherLabel) fun label => ?_
  refine relation.andThen relation.peek fun s t alike => ?_
  rw [relation.kind alike]
  split
  · exact relation.unexpected _
  · refine behindNext (relation.andThen (expect .string .matcherText) fun s t alike => ?_)
    rw [relation.text alike]
    exact lift _

theorem readMatchers : relation.Same readMatchers readMatchers := by
  refine behindExpected .leftBrace .matchers ?_
  refine choice (same []) (separated readMatcher _) fun matchers => ?_
  exact behindExpected .rightBrace .matchersEnd (same matchers)

theorem readSelector (name : Option String) :
    relation.Same (readSelector name) (readSelector name) := by
  refine choice readMatchers (same []) fun matchers => ?_
  dsimp only
  split
  · exact fails _
  · split
    · exact fails _
    · exact same _

/-! ## Ranges and clauses in time -/

theorem readRange (expr : Expr) : relation.Same (readRange expr) (readRange expr) := by
  refine behind (readDurationToken .range) fun range => ?_
  refine behind (accept .rightBracket) fun taken => ?_
  cases taken with
  | true => exact lift _
  | false =>
    refine behindExpected .colon .subqueryColon ?_
    refine choice (map some (readDurationToken .subqueryStep)) (same none) fun step => ?_
    exact behindExpected .rightBracket .subqueryEnd (lift _)

theorem readOffset : relation.Same readOffset readOffset :=
  behind (accept .sub) fun _ => behind (readDurationToken .offset) fun _ => same _

theorem readRangeBound (bound : Instant) :
    relation.Same (readRangeBound bound) (readRangeBound bound) :=
  behindNext (behindExpected .leftParen .instant (behindExpected .rightParen .instant (same bound)))

theorem readSign : relation.Same readSign readSign := by
  refine behind (accept .sub) fun negative => ?_
  cases negative with
  | true => exact same true
  | false => exact behind (accept .add) fun _ => same false

theorem readInstant : relation.Same readInstant readInstant := by
  refine relation.andThen relation.peek fun s t alike => ?_
  rw [isWord alike, isWord alike]
  split
  · exact readRangeBound .rangeStart
  · split
    · exact readRangeBound .rangeEnd
    · refine behind readSign fun negative => ?_
      refine relation.andThen (expect .number .instantTimestamp) fun s t alike => ?_
      refine behind (numberOf alike) fun number => ?_
      split
      · exact same _
      · exact fails _

theorem readPostfix (expr : Expr) : relation.Same (readPostfix expr) (readPostfix expr) := by
  refine behind (accept .leftBracket) fun bracket => ?_
  cases bracket with
  | true => exact map _ (readRange expr)
  | false =>
    refine behind (acceptWord "offset") fun word => ?_
    cases word with
    | true => exact behind readOffset fun offset => map _ (lift _)
    | false =>
      refine behind (accept .atSign) fun symbol => ?_
      cases symbol with
      | true => exact behind readInstant fun instant => map _ (lift _)
      | false => exact same _

theorem readPostfixes (expr : Expr) : relation.Same (readPostfixes expr) (readPostfixes expr) :=
  loop readPostfix expr

/-! ## Primary expressions -/

section
variable {inner other : Nat → Parse Expr}

theorem readCall (within : relation.Same (inner 0) (other 0)) (name : String) :
    relation.Same (readCall inner name) (readCall other name) := by
  unfold Query.readCall
  split
  · exact fails _
  · refine behindExpected .leftParen .call ?_
    refine choice (same []) (separated within none) fun arguments => ?_
    refine behindExpected .rightParen .callArguments ?_
    split
    · exact same _
    · exact fails _

theorem readGrouping : relation.Same readGrouping readGrouping := by
  refine behind (acceptWord "by") fun byWord => ?_
  cases byWord with
  | true => exact map _ (readLabels .grouping)
  | false =>
    refine behind (acceptWord "without") fun withoutWord => ?_
    cases withoutWord with
    | true => exact map _ (readLabels .grouping)
    | false => exact same none

theorem readAggregated (within : relation.Same (inner 0) (other 0)) (op : AggregateOp) :
    relation.Same (readAggregated inner op) (readAggregated other op) := by
  refine behind within fun first => ?_
  split
  · exact behindExpected .comma .aggregationParameter (behind within fun _ => same _)
  · exact same _

theorem readSecondGrouping (before : Option Grouping) :
    relation.Same (readSecondGrouping before) (readSecondGrouping before) := by
  cases before with
  | none => exact readGrouping
  | some grouping =>
    refine relation.andThen relation.peek fun s t alike => ?_
    rw [beginsGrouping alike]
    split
    · exact fails _
    · exact same _

theorem readAggregate (within : relation.Same (inner 0) (other 0)) (op : AggregateOp) :
    relation.Same (readAggregate inner op) (readAggregate other op) := by
  refine behind readGrouping fun before => behindExpected .leftParen .aggregation ?_
  refine byKind (fails _) (behind (readAggregated within op) fun aggregated => ?_)
  refine behind (accept .comma) fun _ => behindExpected .rightParen .aggregation ?_
  exact behind (readSecondGrouping before) fun grouping => same _

theorem readBehindWord (within : relation.Same (inner 0) (other 0)) {s t u v : Token}
    (followingAlike : relation.tokens s t) (alike : relation.tokens u v) :
    relation.Same (readBehindWord inner s u) (readBehindWord other t v) := by
  -- Both the word and the token behind it decide what is read.
  have goesOn : aggregation? u.text s = aggregation? v.text t := by
    unfold aggregation?
    rw [relation.kind followingAlike, beginsGrouping followingAlike, relation.text alike]
  unfold Query.readBehindWord
  rw [goesOn, relation.text alike]
  split
  · exact same _
  · split
    · exact readAggregate within _
    · rw [relation.kind followingAlike]
      split
      · exact readCall within _
      · exact readSelector _

theorem readWordExpr (within : relation.Same (inner 0) (other 0)) :
    relation.Same (readWordExpr inner) (readWordExpr other) := by
  rw [readWordExpr_eq, readWordExpr_eq]
  refine relation.andThen relation.peekSecond fun s t followingAlike => ?_
  exact relation.andThen relation.next fun u v alike => readBehindWord within followingAlike alike

theorem readParen (within : relation.Same (inner 0) (other 0)) :
    relation.Same (readParen inner) (readParen other) :=
  behind within fun _ => behindExpected .rightParen .parenthesis (same _)

theorem readPrimary (within : relation.Same (inner 0) (other 0)) :
    relation.Same (readPrimary inner) (readPrimary other) := by
  refine relation.andThen relation.peek fun s t alike => ?_
  rw [relation.kind alike]
  split
  · exact relation.andThen relation.next fun s t alike => map _ (numberOf alike)
  · refine relation.andThen relation.next fun s t alike => ?_
    rw [relation.text alike]
    exact same _
  · exact behindNext (readParen within)
  · exact readSelector none
  · exact readWordExpr within
  · exact relation.unexpected _

end

/-! ## Operators -/

theorem readBool (op : BinaryOp) : relation.Same (readBool op) (readBool op) := by
  refine relation.andThen relation.peek fun s t alike => ?_
  rw [isWord alike]
  split
  · split
    · exact behindNext (same true)
    · exact fails _
  · exact same false

theorem readTakenLabels : relation.Same readTakenLabels readTakenLabels :=
  byKind (readLabels .groupModifier) (same [])

theorem readGroupModifier (op : BinaryOp) :
    relation.Same (readGroupModifier op) (readGroupModifier op) := by
  refine relation.andThen relation.peek fun s t alike => ?_
  rw [isWord alike, isWord alike]
  split
  · split
    · exact fails _
    · exact behindNext (behind readTakenLabels fun labels => same _)
  · exact same none

theorem readMatchingLabels : relation.Same readMatchingLabels readMatchingLabels := by
  refine behind (acceptWord "on") fun onWord => ?_
  cases onWord with
  | true => exact map _ (readLabels .onLabels)
  | false =>
    refine behind (acceptWord "ignoring") fun ignoringWord => ?_
    cases ignoringWord with
    | true => exact map _ (readLabels .ignoringLabels)
    | false => exact same none

theorem readMatching (op : BinaryOp) : relation.Same (readMatching op) (readMatching op) := by
  refine behind readMatchingLabels fun labels => ?_
  cases labels with
  | none => exact same none
  | some labels => exact behind (readGroupModifier op) fun group => same _

theorem readClause (op : BinaryOp) : relation.Same (readClause op) (readClause op) :=
  behind (readBool op) fun _ => behind (readMatching op) fun _ => same _

section
variable {inner other : Nat → Parse Expr}
  (within : ∀ least, relation.Same (inner least) (other least))
include within

theorem readUnary : relation.Same (readUnary inner) (readUnary other) := by
  refine relation.andThen relation.peek fun s t alike => ?_
  rw [relation.kind alike]
  split
  · exact behindNext (map _ (within signPrecedence))
  · exact behind (readPrimary (within 0)) readPostfixes

theorem readOperation (least : Nat) (left : Expr) :
    relation.Same (readOperation inner least left) (readOperation other least left) := by
  refine relation.andThen relation.peek fun s t alike => ?_
  rw [binaryOp alike]
  split
  · exact same _
  · refine behindNext (behind (readClause _) fun clause => ?_)
    exact behind (within _) fun right => same _

theorem readOperands (least : Nat) :
    relation.Same (readOperands inner least) (readOperands other least) :=
  behind (readUnary within) fun left => loop (readOperation within least) left

end

theorem readLevels (levels least : Nat) :
    relation.Same (readLevels levels least) (readLevels levels least) := by
  induction levels generalizing least with
  | zero => exact fails _
  | succ levels inductionHypothesis => exact readOperands inductionHypothesis least

theorem readWhole : relation.Same readWhole readWhole := by
  refine relation.andThen relation.peek fun s t alike => ?_
  unfold Token.isEof
  rw [relation.kind alike]
  split
  · exact fails _
  · refine behind (readLevels maxLevels 0) fun expr => ?_
    refine relation.andThen relation.peek fun s t alike => ?_
    rw [relation.kind alike]
    split
    · exact same expr
    · exact relation.unexpected _

end Relation

end RuleAtlas.Query
