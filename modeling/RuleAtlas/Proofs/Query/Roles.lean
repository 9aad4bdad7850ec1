import Mathlib.Data.List.Forall2
import RuleAtlas.Query.Expr.Parser

/-! # The roles of identifiers

Every word of the language may name a series as well, so only the tokens around an identifier
tell what it is there for.  The identifiers of some tokens are accounted for if some of them are
names, in their order, and each other one has a role between its neighbours. -/

namespace RuleAtlas.Query

variable {tokens before behind : List Token} {token : Token}

/-! ## Lists between brackets -/

/-- The tokens of items with commas between them and perhaps behind them. -/
inductive Joined {α : Type} (item : List Token → α → Prop) : List Token → List α → Prop
  | nil : Joined item [] []
  | single {tokens : List Token} {a : α} (first : item tokens a) : Joined item tokens [a]
  | more {tokens rest : List Token} {comma : Token} {a : α} {items : List α}
    (first : item tokens a) (separates : comma.kind = .comma) (others : Joined item rest items) :
    Joined item (tokens ++ comma :: rest) (a :: items)

/-- The tokens stand between two of the given kinds. -/
def Enclosed (opening closing : TokenKind) (inside : List Token → Prop) (tokens : List Token) :
    Prop :=
  ∃ first middle last, tokens = first :: (middle ++ [last]) ∧ first.kind = opening ∧
    last.kind = closing ∧ inside middle

def IsLabel (tokens : List Token) (label : String) : Prop :=
  ∃ token, tokens = [token] ∧ token.kind = .ident ∧ token.text = label

def IsMatcher (tokens : List Token) (matcher : LabelMatcher) : Prop :=
  ∃ label operator text, tokens = [label, operator, text] ∧ IsLabel [label] matcher.label ∧
    (matchKind? operator.kind).isSome = true ∧ text.kind = .string

def IsLabelList (tokens : List Token) : Prop :=
  Enclosed .leftParen .rightParen (fun inside => ∃ labels, Joined IsLabel inside labels) tokens

def IsMatcherList (tokens : List Token) : Prop :=
  Enclosed .leftBrace .rightBrace (fun inside => ∃ matchers, Joined IsMatcher inside matchers)
    tokens

/-! ## Roles -/

def BeginsWith (kinds : List TokenKind) (tokens : List Token) : Prop :=
  kinds <+: tokens.map Token.kind

def EndsWith (kinds : List TokenKind) (tokens : List Token) : Prop :=
  kinds <:+ tokens.map Token.kind

/-- The kinds that the last token of an operand may have. -/
def operandEnds : List TokenKind :=
  [.ident, .number, .string, .duration, .rightParen, .rightBrace, .rightBracket]

/-- The tokens end as an operand may. -/
def EndsAsOperand (tokens : List Token) : Prop := ∃ kind ∈ operandEnds, EndsWith [kind] tokens

def Token.isMatching (token : Token) : Bool := token.isWord "on" || token.isWord "ignoring"

def Token.isGroupModifier (token : Token) : Bool :=
  token.isWord "group_left" || token.isWord "group_right"

/-- The token is a word that a list of labels belongs to. -/
def Token.hasLabels (token : Token) : Bool :=
  token.beginsGrouping || token.isMatching || token.isGroupModifier

/-- What an identifier that names no series is there for, between the tokens around it. -/
inductive Token.Serves (before : List Token) (token : Token) (behind : List Token) : Prop
  | offset (word : token.isWord "offset" = true)
    (duration : BeginsWith [.duration] behind ∨ BeginsWith [.sub, .duration] behind)
  | rangeBound (word : token.isWord "start" = true ∨ token.isWord "end" = true)
    (symbol : EndsWith [.atSign] before)
    (parentheses : BeginsWith [.leftParen, .rightParen] behind)
  | grouping (word : token.beginsGrouping = true)
    (place : EndsWith [.rightParen] before ∨
      ∃ operator, (AggregateOp.ofWord? operator.text).isSome = true ∧ [operator] <:+ before)
    (labels : ∃ list, IsLabelList list ∧ list <+: behind)
  | matching (word : token.isMatching = true)
    (place : ∃ operator, (binaryOp? operator).isSome = true ∧ ([operator] <:+ before ∨
      ∃ bool, bool.isWord "bool" = true ∧ [operator, bool] <:+ before))
    (labels : ∃ list, IsLabelList list ∧ list <+: behind)
  | bool (word : token.isWord "bool" = true)
    (place : ∃ operator op, binaryOp? operator = some op ∧ op.isComparison = true ∧
      [operator] <:+ before)
  | groupModifier (word : token.isGroupModifier = true)
    (place : ∃ matching list, matching.isMatching = true ∧ IsLabelList list ∧
      matching :: list <:+ before)
  | operator (word : (wordOp? (lowercase token.text)).isSome = true) (place : EndsAsOperand before)
  | number (word : (numberWord? token.text).isSome = true)
  | function (known : (function? token.text).isSome = true)
    (parenthesis : BeginsWith [.leftParen] behind)
  | aggregation (known : (AggregateOp.ofWord? token.text).isSome = true)
    (goesOn : BeginsWith [.leftParen] behind ∨
      ∃ word, word.beginsGrouping = true ∧ [word] <+: behind)
  | label (inside : ∃ word opened closed, word.hasLabels = true ∧ word :: opened <:+ before ∧
      closed <+: behind ∧ IsLabelList (opened ++ token :: closed))
  | matcherLabel (inside : ∃ opened closed, opened <:+ before ∧ closed <+: behind ∧
      IsMatcherList (opened ++ token :: closed))

section
variable {earlier later : List Token} {kinds : List TokenKind}

theorem BeginsWith.mono (begins : BeginsWith kinds tokens) (more : tokens <+: later) :
    BeginsWith kinds later :=
  begins.trans (more.map _)

theorem EndsWith.mono (ends : EndsWith kinds tokens) (more : tokens <:+ earlier) :
    EndsWith kinds earlier :=
  ends.trans (more.map _)

theorem EndsAsOperand.mono (ends : EndsAsOperand tokens) (more : tokens <:+ earlier) :
    EndsAsOperand earlier := by
  obtain ⟨kind, allowed, last⟩ := ends
  exact ⟨kind, allowed, last.mono more⟩

/-- A role is seen at the nearest tokens, so it stays where there are more of them. -/
theorem Token.Serves.mono (serves : token.Serves before behind) (left : before <:+ earlier)
    (right : behind <+: later) : token.Serves earlier later := by
  cases serves with
  | offset word duration =>
    exact .offset word (duration.imp (·.mono right) (·.mono right))
  | rangeBound word symbol parentheses =>
    exact .rangeBound word (symbol.mono left) (parentheses.mono right)
  | grouping word place labels =>
    obtain ⟨list, isList, front⟩ := labels
    refine .grouping word (place.imp (·.mono left) ?_) ⟨list, isList, front.trans right⟩
    rintro ⟨operator, known, last⟩
    exact ⟨operator, known, last.trans left⟩
  | matching word place labels =>
    obtain ⟨list, isList, front⟩ := labels
    obtain ⟨operator, known, last⟩ := place
    refine .matching word ⟨operator, known, last.imp (·.trans left) ?_⟩
      ⟨list, isList, front.trans right⟩
    rintro ⟨bool, isBool, last⟩
    exact ⟨bool, isBool, last.trans left⟩
  | bool word place =>
    obtain ⟨operator, op, known, comparison, last⟩ := place
    exact .bool word ⟨operator, op, known, comparison, last.trans left⟩
  | groupModifier word place =>
    obtain ⟨matching, list, isMatching, isList, last⟩ := place
    exact .groupModifier word ⟨matching, list, isMatching, isList, last.trans left⟩
  | operator word place => exact .operator word (place.mono left)
  | number word => exact .number word
  | function known parenthesis => exact .function known (parenthesis.mono right)
  | aggregation known goesOn =>
    refine .aggregation known (goesOn.imp (·.mono right) ?_)
    rintro ⟨word, begins, front⟩
    exact ⟨word, begins, front.trans right⟩
  | label inside =>
    obtain ⟨word, opened, closed, hasLabels, last, front, list⟩ := inside
    exact .label ⟨word, opened, closed, hasLabels, last.trans left, front.trans right, list⟩
  | matcherLabel inside =>
    obtain ⟨opened, closed, last, front, list⟩ := inside
    exact .matcherLabel ⟨opened, closed, last.trans left, front.trans right, list⟩

end

/-! ## Accounts -/

/-- Between the tokens around these, their identifiers are the names in order and words with
other roles. -/
inductive Accounted (behind : List Token) :
    (before tokens : List Token) → (names : List String) → Prop
  | done {before : List Token} : Accounted behind before [] []
  | name {before tokens : List Token} {token : Token} {names : List String}
    (word : token.kind = .ident) (others : Accounted behind (before ++ [token]) tokens names) :
    Accounted behind before (token :: tokens) (token.text :: names)
  | other {before tokens : List Token} {token : Token} {names : List String}
    (serves : token.kind = .ident → token.Serves before (tokens ++ behind))
    (others : Accounted behind (before ++ [token]) tokens names) :
    Accounted behind before (token :: tokens) names

namespace Accounted

variable {first second : List Token} {names others : List String}

theorem append (front : Accounted (second ++ behind) before first names)
    (back : Accounted behind (before ++ first) second others) :
    Accounted behind before (first ++ second) (names ++ others) := by
  induction front with
  | done => simpa using back
  | name word _ inductionHypothesis =>
    exact .name word (inductionHypothesis (by simpa using back))
  | other serves _ inductionHypothesis =>
    exact .other (by simpa using serves) (inductionHypothesis (by simpa using back))

theorem mono {earlier later : List Token} (accounted : Accounted behind before tokens names)
    (left : before <:+ earlier) (right : behind <+: later) :
    Accounted later earlier tokens names := by
  have more : ∀ {before earlier : List Token} (token : Token), before <:+ earlier →
      before ++ [token] <:+ earlier ++ [token] := by
    rintro before _ token ⟨front, rfl⟩
    exact ⟨front, by simp⟩
  induction accounted generalizing earlier with
  | done => exact .done
  | name word _ inductionHypothesis =>
    exact .name word (inductionHypothesis (more _ left))
  | other serves _ inductionHypothesis =>
    refine .other (fun word => (serves word).mono left ?_) (inductionHypothesis (more _ left))
    exact (List.prefix_append_right_inj _).2 right

/-- Tokens that are accounted for by themselves are so anywhere. -/
theorem anywhere (accounted : Accounted [] [] tokens names) :
    Accounted behind before tokens names :=
  accounted.mono List.nil_suffix List.nil_prefix

/-- Where each identifier has a role there are no names. -/
theorem of_serves (serves : ∀ front token back, tokens = front ++ token :: back →
    token.kind = .ident → token.Serves (before ++ front) (back ++ behind)) :
    Accounted behind before tokens [] := by
  induction tokens generalizing before with
  | nil => exact .done
  | cons token tokens inductionHypothesis =>
    refine .other (fun word => by simpa using serves [] token tokens rfl word) ?_
    refine inductionHypothesis fun front other back same word => ?_
    have role := serves (token :: front) other back (by rw [same]; rfl) word
    simpa using role

/-- Symbols and values need no account. -/
theorem of_noWord (noWord : ∀ token ∈ tokens, token.kind ≠ .ident) :
    Accounted behind before tokens [] := by
  refine of_serves fun front token back same word => ?_
  exact absurd word (noWord token (by simp [same]))

end Accounted

/-! ## Operands -/

theorem endsAsOperand_of_last {front : List Token} {last : Token}
    (allowed : last.kind ∈ operandEnds) : EndsAsOperand (front ++ [last]) :=
  ⟨last.kind, allowed, front.map Token.kind, by simp⟩

theorem Enclosed.endsAsOperand {opening closing : TokenKind} {inside : List Token → Prop}
    (enclosed : Enclosed opening closing inside tokens) (allowed : closing ∈ operandEnds) :
    EndsAsOperand tokens := by
  obtain ⟨first, middle, last, rfl, -, rfl, -⟩ := enclosed
  rw [← List.cons_append]
  exact endsAsOperand_of_last allowed

/-- The tokens of an operand, or of what may stand behind one, and the names in them. -/
structure Spells (tokens : List Token) (names : List String) : Prop where
  accounted : Accounted [] [] tokens names
  ends : EndsAsOperand tokens

namespace Spells

variable {first second : List Token} {names others : List String}

/-- What ends as an operand does ends so behind other tokens. -/
theorem of_append (front : Accounted [] [] first names) (back : Spells second others) :
    Spells (first ++ second) (names ++ others) :=
  ⟨front.anywhere.append back.accounted.anywhere, back.ends.mono (List.suffix_append _ _)⟩

theorem append (front : Spells first names) (back : Spells second others) :
    Spells (first ++ second) (names ++ others) :=
  of_append front.accounted back

/-- Symbols and values that end as an operand does; no name is among them. -/
theorem of_kinds (spellings : List (List TokenKind)) (one : tokens.map Token.kind ∈ spellings)
    (fits : ∀ kinds ∈ spellings, .ident ∉ kinds ∧ ∃ kind ∈ operandEnds, [kind] <:+ kinds) :
    Spells tokens [] := by
  obtain ⟨noWord, ends⟩ := fits _ one
  refine ⟨.of_noWord fun token member word => noWord ?_, ends⟩
  rw [← word]
  exact List.mem_map_of_mem member

/-- A symbol in front of an operand. -/
theorem cons {symbol : Token} (noWord : symbol.kind ≠ .ident) (back : Spells second others) :
    Spells (symbol :: second) others :=
  of_append (.of_noWord (by simpa using noWord) : Accounted [] [] [symbol] []) back

end Spells

/-! ### Lists -/

/-- Each identifier between the parentheses is a label. -/
theorem IsLabelList.accounted {word : Token} (list : IsLabelList tokens)
    (hasLabels : word.hasLabels = true) : Accounted [] [word] tokens [] := by
  refine .of_serves fun front token back same _ => .label ⟨word, front, back, hasLabels, ?_⟩
  subst same
  exact ⟨List.suffix_refl _, List.prefix_append _ _, list⟩

/-- Each identifier between the braces is the label of a matcher. -/
theorem IsMatcherList.spells (list : IsMatcherList tokens) : Spells tokens [] := by
  refine ⟨.of_serves fun front token back same _ => .matcherLabel ⟨front, back, ?_⟩,
    list.endsAsOperand (by decide)⟩
  subst same
  exact ⟨List.suffix_refl _, List.prefix_append _ _, list⟩

/-! ## Places -/

/-- The token at the place is an identifier with this text. -/
def NamedAt (tokens : List Token) (place : Nat) (name : String) : Prop :=
  ∃ token, tokens[place]? = some token ∧ token.kind = .ident ∧ token.text = name

/-- The names stand at the places, which ascend from the first one on, and up to the last one all
identifiers at other places have other roles. -/
structure Naming (first last : Nat) (tokens : List Token) (names : List String)
    (places : List Nat) : Prop where
  ascending : places.Pairwise (· < ·)
  inside : ∀ place ∈ places, first ≤ place
  named : List.Forall₂ (NamedAt tokens) places names
  serves : ∀ place token, first ≤ place → place < last → tokens[place]? = some token →
    token.kind = .ident → place ∉ places →
    token.Serves (tokens.take place) (tokens.drop (place + 1))

section
variable {names : List String} {places : List Nat}

theorem Naming.name {last : Nat}
    (naming : Naming (before.length + 1) last (before ++ token :: behind) names places)
    (word : token.kind = .ident) :
    Naming before.length last (before ++ token :: behind) (token.text :: names)
      (before.length :: places) where
  ascending := List.pairwise_cons.2 ⟨naming.inside, naming.ascending⟩
  inside := List.forall_mem_cons.2 ⟨Nat.le_refl _, fun place member =>
    Nat.le_of_succ_le (naming.inside place member)⟩
  named := .cons ⟨token, by simp, word, rfl⟩ naming.named
  serves place other lower upper here ident absent := by
    obtain ⟨elsewhere, others⟩ := not_or.1 (mt List.mem_cons.2 absent)
    exact naming.serves place other (by omega) upper here ident others

theorem Naming.other {last : Nat}
    (naming : Naming (before.length + 1) last (before ++ token :: behind) names places)
    (serves : token.kind = .ident → token.Serves before behind) :
    Naming before.length last (before ++ token :: behind) names places where
  ascending := naming.ascending
  inside place member := Nat.le_of_succ_le (naming.inside place member)
  named := naming.named
  serves place other lower upper here ident absent := by
    rcases Nat.eq_or_lt_of_le lower with rfl | later
    · have same : token = other := by simpa using here
      subst same
      simpa using serves ident
    · exact naming.serves place other later upper here ident absent

/-- Accounted tokens have their names at places, counted from the first token around them. -/
theorem Accounted.exists_naming (accounted : Accounted behind before tokens names) :
    ∃ places, Naming before.length (before.length + tokens.length) (before ++ (tokens ++ behind))
      names places := by
  induction accounted with
  | done =>
    refine ⟨[], .nil, by simp, .nil, fun place token lower upper => ?_⟩
    rw [List.length_nil] at upper
    omega
  | @name before tokens token names word _ inductionHypothesis =>
    obtain ⟨places, naming⟩ := inductionHypothesis
    simp only [List.length_append, List.length_singleton, List.append_assoc,
      List.singleton_append, Nat.add_assoc, Nat.add_comm 1] at naming
    exact ⟨_, naming.name word⟩
  | @other before tokens token names serves _ inductionHypothesis =>
    obtain ⟨places, naming⟩ := inductionHypothesis
    simp only [List.length_append, List.length_singleton, List.append_assoc,
      List.singleton_append, Nat.add_assoc, Nat.add_comm 1] at naming
    exact ⟨places, naming.other serves⟩

end

end RuleAtlas.Query
