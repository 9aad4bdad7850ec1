import RuleAtlas.Proofs.Query.Accepted.Trees
import RuleAtlas.Proofs.Query.Nodes

/-! # Well-formed expressions

What every node of an accepted expression makes sure of by itself, said without the grammar:
names and matchers of selectors fit together, calls have a function's number of arguments,
clauses stand only at the operators that may have them.  Ranges and clauses behind an operand
build its node anew, so this has to survive every one of them; `Readable` carries it there, and
here it is read off, node by node. -/

namespace RuleAtlas.Query

open Binary64 (IsUnsigned)

/-! ## Nodes -/

/-- A matcher with a pattern has the compiled expression of its text, and accepts by it. -/
def LabelMatcher.Compiled (matcher : LabelMatcher) : Prop :=
  matcher.condition.kind = .like ∨ matcher.condition.kind = .unlike →
    ∃ regex, Regex.compile? (anchored matcher.condition.text.toList) = some regex ∧
      ∀ candidate, matcher.accepts candidate =
        (regex.isFoundIn candidate == decide (matcher.condition.kind = .like))

def Modifiers.Finite (modifiers : Modifiers) : Prop :=
  ∀ seconds, modifiers.instant = some (.timestamp seconds) → seconds.isFinite = true

/-- A selector has a name that is no number and that no matcher is about, or a matcher that a
missing label does not satisfy. -/
structure Selector.WellFormed (selector : Selector) : Prop where
  named : ∀ name, selector.name = some name → name ≠ "" ∧ lowercase name ≠ "inf" ∧
    lowercase name ≠ "nan" ∧ ∀ matcher ∈ selector.matchers, matcher.label ≠ seriesNameLabel
  unnamed : selector.name = none → ∃ matcher ∈ selector.matchers, matcher.acceptsEmpty = false
  compiled : ∀ matcher ∈ selector.matchers, matcher.Compiled
  finite : selector.modifiers.Finite

/-- What a node of an expression makes sure of. -/
def Expr.WellFormed : Expr → Prop
  | .number value => value = .nan ∨ IsUnsigned value
  | .string _ => True
  | .vector selector => selector.WellFormed
  | .matrix selector _ => selector.WellFormed
  | .subquery body clause =>
    body.kind ∉ [.matrixSelector, .binary, .unary] ∧ clause.modifiers.Finite
  | .call name arguments => ∃ entry ∈ functionTable, entry.name = name ∧
      entry.least ≤ arguments.length ∧ ∀ most ∈ entry.most, arguments.length ≤ most
  | .aggregate op parameter _ _ => parameter.isSome = true ↔ op.takesParameter = true
  | .binary clause _ _ =>
    (clause.returnsBool = true →
      clause.op ∈ [.equal, .notEqual, .greater, .less, .greaterEqual, .lessEqual]) ∧
    ∀ matching, clause.matching = some matching → matching.group.isSome = true →
      clause.op ∉ [.and, .or, .unless]
  | .unary _ _ => True
  | .paren _ => True

/-! ## Parts -/

theorem LabelMatcher.compiled (matcher : LabelMatcher) : matcher.Compiled := by
  intro pattern
  cases here : matcher.condition with
  | equal value => simp [here, Condition.kind] at pattern
  | notEqual value => simp [here, Condition.kind] at pattern
  | like pattern =>
    refine ⟨pattern.regex, pattern.compiles, fun candidate => ?_⟩
    simp [LabelMatcher.accepts, here, Condition.holds, Condition.kind, Pattern.matchesValue]
  | unlike pattern =>
    refine ⟨pattern.regex, pattern.compiles, fun candidate => ?_⟩
    simp [LabelMatcher.accepts, here, Condition.holds, Condition.kind, Pattern.matchesValue]

theorem Modifiers.Proper.finite {modifiers : Modifiers} (proper : modifiers.Proper) :
    modifiers.Finite :=
  fun seconds here => (proper.instant (.timestamp seconds) here).1

theorem Selector.Proper.wellFormed {selector : Selector} (proper : selector.Proper) :
    selector.WellFormed := by
  obtain ⟨⟨-, named, unnamed⟩, modifiers⟩ := proper
  refine ⟨fun name here => ?_, fun here => ?_, fun matcher _ => matcher.compiled, modifiers.finite⟩
  · obtain ⟨word, noNumber, nameOnce⟩ := named name here
    unfold numberWord? at noNumber
    split at noNumber
    · cases noNumber
    · rename_i noInfinity
      split at noNumber
      · cases noNumber
      · rename_i noNan
        refine ⟨?_, noInfinity, noNan, by simpa using nameOnce⟩
        rintro rfl
        cases word
  · simpa using unnamed here

theorem BinaryOp.mem_of_isComparison (op : BinaryOp) : op.isComparison = true →
    op ∈ [.equal, .notEqual, .greater, .less, .greaterEqual, .lessEqual] := by
  cases op <;> decide

theorem BinaryOp.not_mem_of_isSetOperator (op : BinaryOp) : op.isSetOperator = false →
    op ∉ [.and, .or, .unless] := by
  cases op <;> decide

theorem BinaryClause.Proper.wellFormed {clause : BinaryClause} {left right : Expr}
    (proper : clause.Proper) : (Expr.binary clause left right).WellFormed := by
  constructor
  · intro returns
    exact clause.op.mem_of_isComparison (proper.comparison returns)
  · intro matching here grouped
    obtain ⟨group, side⟩ := Option.isSome_iff_exists.1 grouped
    obtain ⟨noSet, -⟩ := (proper.matching matching here).group group side
    exact clause.op.not_mem_of_isSetOperator noSet

theorem wellFormed_call {name : String} {entry : FunctionEntry} {arguments : List Expr}
    (known : function? name = some entry) (counted : entry.accepts arguments.length = true) :
    (Expr.call name arguments).WellFormed := by
  refine ⟨entry, List.mem_of_find?_eq_some known, by simpa using List.find?_some known, ?_⟩
  simpa [FunctionEntry.accepts, Option.all_eq_true] using counted

theorem Expr.kind_of_isOperand {expr : Expr} (operand : expr.isOperand = true) :
    expr.kind ≠ .binary ∧ expr.kind ≠ .unary := by
  cases expr with
  | binary clause left right => cases operand
  | unary op body => cases operand
  | _ => simp [Expr.kind]

/-! ## Trees -/

variable {levels least : Nat} {expr : Expr}

/-- What can be read again is well-formed at every node. -/
theorem Readable.wellFormed (readable : Readable levels least expr) :
    expr.Everywhere Expr.WellFormed := by
  induction readable with
  | number proper =>
    exact .node (proper.imp_right And.right) fun child member => by cases member
  | string value => exact .node trivial fun child member => by cases member
  | vector proper => exact .node proper.wellFormed fun child member => by cases member
  | matrix proper bounded => exact .node proper.wellFormed fun child member => by cases member
  | @subquery levels least body clause readable operand noRange proper inside =>
    refine .node ⟨?_, proper.modifiers.finite⟩ fun child member => ?_
    · obtain ⟨noBinary, noUnary⟩ := Expr.kind_of_isOperand operand
      simp [noRange, noBinary, noUnary]
    · rw [List.mem_singleton.1 member]
      exact inside
  | call word noNumber noAggregate known counted room readable inside =>
    exact .node (wellFormed_call known counted) inside
  | aggregate words takes readableParameter readable insideParameter inside =>
    refine .node ⟨fun some => takes ▸ some, fun some => takes ▸ some⟩ fun child member => ?_
    rcases List.mem_append.1 member with parameter | body
    · exact insideParameter child (Option.mem_toList.1 parameter)
    · rw [List.mem_singleton.1 body]
      exact inside
  | binary tight readableLeft loose readableRight proper admits insideLeft insideRight =>
    refine .node proper.wellFormed fun child member => ?_
    rcases List.mem_pair.1 member with rfl | rfl
    · exact insideLeft
    · exact insideRight
  | unary readable inside =>
    exact .node trivial fun child member => List.mem_singleton.1 member ▸ inside
  | paren readable inside =>
    exact .node trivial fun child member => List.mem_singleton.1 member ▸ inside

/-- Every node of an accepted expression is well-formed, at any depth. -/
theorem wellFormed_of_parse {input : String} (parsed : Expr.parse input = .ok expr) :
    expr.Everywhere Expr.WellFormed :=
  (readable_of_parse parsed).wellFormed

/-- A selector that is moved in time behind its range, inside an aggregation on one side of a
comparison. -/
theorem wellFormed_of_parse_topk : ∃ expr,
    Expr.parse "topk(2, rate(a\x7bb=~'c|d'\x7d[5m] @ 3)) > bool on (e) group_left nan" = .ok expr ∧
      expr.Everywhere Expr.WellFormed := by
  have accepted : (Expr.parse
      "topk(2, rate(a\x7bb=~'c|d'\x7d[5m] @ 3)) > bool on (e) group_left nan").isOk = true := by
    decide +kernel
  obtain ⟨expr, parsed⟩ := exists_eq_ok_of_isOk accepted
  exact ⟨expr, parsed, wellFormed_of_parse parsed⟩

end RuleAtlas.Query
