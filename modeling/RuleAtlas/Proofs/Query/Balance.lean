import RuleAtlas.Proofs.Query.Consuming
import RuleAtlas.Proofs.Query.Framing

/-! # Expressions have balanced parentheses

Each parenthesis that is opened among the tokens of an expression is closed among them.  So an
expression that begins between two parentheses that belong together ends there too. -/

namespace RuleAtlas.Query

open Parse

/-! ## Counting parentheses -/

/-- How many parentheses are open behind the token, if so many are open in front of it; nothing
if it closes one that is not open. -/
def openBehind (count : Nat) (token : Token) : Option Nat :=
  match token.kind, count with
  | .leftParen, count => some (count + 1)
  | .rightParen, 0 => none
  | .rightParen, count + 1 => some count
  | _, count => some count

/-- The tokens go from so many open parentheses to so many. -/
def Leads (count : Nat) (tokens : List Token) (left : Nat) : Prop :=
  tokens.foldlM openBehind count = some left

/-- Each parenthesis is closed behind where it is opened. -/
def Balanced (tokens : List Token) : Prop := Leads 0 tokens 0

instance (count : Nat) (tokens : List Token) (left : Nat) : Decidable (Leads count tokens left) :=
  inferInstanceAs (Decidable (_ = _))

instance (tokens : List Token) : Decidable (Balanced tokens) :=
  inferInstanceAs (Decidable (Leads 0 tokens 0))

section
variable {token : Token} {count left : Nat}

theorem openBehind_opening (opens : token.kind = .leftParen) (count : Nat) :
    openBehind count token = some (count + 1) := by
  simp [openBehind, opens]

theorem openBehind_closing (closes : token.kind = .rightParen) (count : Nat) :
    openBehind (count + 1) token = some count := by
  simp [openBehind, closes]

theorem openBehind_zero (closes : token.kind = .rightParen) : openBehind 0 token = none := by
  simp [openBehind, closes]

theorem openBehind_other (noParen : token.kind ∉ [.leftParen, .rightParen]) (count : Nat) :
    openBehind count token = some count := by
  simp only [List.mem_cons, List.not_mem_nil, or_false, not_or] at noParen
  unfold openBehind
  split <;> simp_all

theorem openBehind_add (more : Nat) (same : openBehind count token = some left) :
    openBehind (count + more) token = some (left + more) := by
  by_cases opens : token.kind = .leftParen
  · rw [openBehind_opening opens] at same ⊢
    cases same
    rw [Nat.add_right_comm]
  · by_cases closes : token.kind = .rightParen
    · cases count with
      | zero => simp [openBehind_zero closes] at same
      | succ count =>
        rw [openBehind_closing closes] at same
        cases same
        rw [Nat.add_right_comm, openBehind_closing closes]
    · rw [openBehind_other (by simp [opens, closes])] at same ⊢
      cases same
      rfl

end

namespace Leads

variable {first second tokens : List Token} {count between left : Nat}

theorem nil (count : Nat) : Leads count [] count := rfl

theorem single {token : Token} (same : openBehind count token = some left) :
    Leads count [token] left := by
  simpa [Leads] using same

theorem append (front : Leads count first between) (back : Leads between second left) :
    Leads count (first ++ second) left := by
  rw [Leads, List.foldlM_append, show first.foldlM openBehind count = some between from front]
  exact back

theorem of_append (front : Leads count first between) (whole : Leads count (first ++ second) left) :
    Leads between second left := by
  rwa [Leads, List.foldlM_append, show first.foldlM openBehind count = some between from front]
    at whole

/-- Parentheses that were open before stay so. -/
theorem add (leads : Leads count tokens left) (more : Nat) :
    Leads (count + more) tokens (left + more) := by
  -- Token by token: what the first one leaves open is what the others begin with.
  induction tokens generalizing count with
  | nil =>
    cases leads
    exact nil _
  | cons token tokens inductionHypothesis =>
    obtain ⟨between, first, behind⟩ := Option.bind_eq_some_iff.1 leads
    have moved : Leads (between + more) tokens (left + more) := inductionHypothesis behind
    exact append (single (openBehind_add more first)) moved

theorem of_noParens (noParens : ∀ token ∈ tokens, token.kind ∉ [.leftParen, .rightParen])
    (count : Nat) : Leads count tokens count := by
  induction tokens with
  | nil => exact nil count
  | cons token tokens inductionHypothesis =>
    obtain ⟨here, others⟩ := List.forall_mem_cons.1 noParens
    exact append (single (openBehind_other here count)) (inductionHypothesis others)

end Leads

namespace Balanced

variable {first inside : List Token}

theorem leads (balanced : Balanced first) (count : Nat) : Leads count first count := by
  simpa using Leads.add balanced count

theorem of_noParens (noParens : ∀ token ∈ first, token.kind ∉ [.leftParen, .rightParen]) :
    Balanced first :=
  Leads.of_noParens noParens 0

/-- Balanced tokens in front of a parenthesis that closes nothing among them do not go on behind
it, and the tokens between them and that parenthesis are balanced too. -/
theorem split {behind left : List Token} {closing : Token} (taken : Balanced first)
    (balanced : Balanced inside) (closes : closing.kind = .rightParen)
    (whole : inside ++ closing :: behind = first ++ left) :
    ∃ more, inside = first ++ more ∧ left = more ++ closing :: behind ∧ Balanced more := by
  rcases List.append_eq_append_iff.1 whole with ⟨past, rfl, same⟩ | ⟨more, rfl, rfl⟩
  · cases past with
    | nil => exact ⟨[], by simp, by simpa using same.symm, Leads.nil 0⟩
    | cons token past =>
      -- The parenthesis would be closed behind the balanced tokens in front of it.
      obtain ⟨rfl, rfl⟩ := List.cons.inj same
      have closed : Leads 0 (closing :: past) 0 := Leads.of_append balanced taken
      rw [Leads, List.foldlM_cons, openBehind_zero closes] at closed
      cases closed
  · exact ⟨more, rfl, rfl, Leads.of_append taken balanced⟩

/-- A parenthesis that closes nothing among the tokens in front of it is the first one. -/
theorem eq_nil {rest left : List Token} {closing closer : Token} (balanced : Balanced inside)
    (closes : closer.kind = .rightParen) (whole : closer :: left = inside ++ closing :: rest) :
    inside = [] ∧ left = rest := by
  cases inside with
  | nil => exact ⟨rfl, (List.cons.inj whole).2⟩
  | cons token inside =>
    obtain ⟨rfl, -⟩ := List.cons.inj whole
    rw [Balanced, Leads, List.foldlM_cons, openBehind_zero closes] at balanced
    cases balanced

end Balanced

/-! ## Lists -/

section
variable {tokens : List Token}

theorem Joined.balanced {α : Type} {good : List Token → α → Prop} {as : List α}
    (joined : Joined good tokens as) (each : ∀ tokens a, good tokens a → Balanced tokens) :
    Balanced tokens := by
  induction joined with
  | nil => exact Leads.nil 0
  | single first => exact each _ _ first
  | @more _ _ comma _ _ first separates _ inductionHypothesis =>
    have between : Balanced [comma] := .of_noParens (by simp [separates])
    exact Leads.append (each _ _ first) (Leads.append between inductionHypothesis)

theorem IsLabel.balanced {label : String} (isLabel : IsLabel tokens label) : Balanced tokens := by
  obtain ⟨token, rfl, ident, -⟩ := isLabel
  exact .of_noParens (by simp [ident])

theorem IsMatcher.balanced {matcher : LabelMatcher} (isMatcher : IsMatcher tokens matcher) :
    Balanced tokens := by
  obtain ⟨label, operator, text, rfl, ⟨_, same, ident, -⟩, known, isText⟩ := isMatcher
  cases same
  have noParen : operator.kind ∉ [.leftParen, .rightParen] := by
    intro paren
    rcases List.mem_pair.1 paren with kind | kind <;> simp [kind, matchKind?] at known
  refine .of_noParens ?_
  simp only [List.forall_mem_cons, ident, isText]
  exact ⟨by decide, noParen, by decide, by simp⟩

theorem IsLabelList.balanced (list : IsLabelList tokens) : Balanced tokens := by
  obtain ⟨opening, inside, closing, rfl, opens, closes, labels, joined⟩ := list
  have balanced : Balanced inside := joined.balanced fun _ _ => IsLabel.balanced
  refine Leads.append (.single (openBehind_opening opens 0)) ?_
  exact (balanced.leads 1).append (.single (openBehind_closing closes 0))

theorem IsMatcherList.balanced (list : IsMatcherList tokens) : Balanced tokens := by
  obtain ⟨opening, inside, closing, rfl, opens, closes, matchers, joined⟩ := list
  have balanced : Balanced inside := joined.balanced fun _ _ => IsMatcher.balanced
  have front : Balanced [opening] := .of_noParens (by simp [opens])
  have back : Balanced [closing] := .of_noParens (by simp [closes])
  exact Leads.append front (Leads.append balanced back)

end

/-! ## Rules -/

/-- The parse takes tokens that go from so many open parentheses to so many. -/
def Parse.Leads {α : Type} (count : Nat) (parse : Parse α) (left : Nat) : Prop :=
  ∀ tokens, parse.Consumes tokens fun taken _ => Query.Leads count taken left

namespace Parse.Leads

variable {α β : Type} {parse : Parse α} {following : α → Parse β} {count between left : Nat}

theorem value (a : α) (count : Nat) : Parse.Leads count (pure a : Parse α) count :=
  fun _ => .value (Query.Leads.nil count)

theorem fault (cause : SyntaxFault) : Parse.Leads count (Parse.fault cause : Parse α) left :=
  fun _ => .fault cause

theorem lift (result : Except SyntaxFault α) (count : Nat) :
    Parse.Leads count (Parse.lift result) count :=
  fun _ => .lift fun _ _ => Query.Leads.nil count

theorem behind (front : Parse.Leads count parse between)
    (back : ∀ a, Parse.Leads between (following a) left) :
    Parse.Leads count (parse >>= following) left :=
  fun tokens => (front tokens).behind fun _ a rest leads =>
    (back a rest).mono fun _ _ more => leads.append more

theorem map {f : α → β} (front : Parse.Leads count parse left) :
    Parse.Leads count (f <$> parse) left :=
  fun tokens => .map (front tokens)

/-- What takes balanced tokens does so behind open parentheses too. -/
theorem inside (balanced : Parse.Leads 0 parse 0) (count : Nat) : Parse.Leads count parse count :=
  fun tokens => (balanced tokens).mono fun _ _ leads => Balanced.leads leads count

theorem of_balanced {good : List Token → α → Prop}
    (consumes : ∀ tokens, parse.Consumes tokens good)
    (implies : ∀ taken a, good taken a → Balanced taken) (count : Nat) :
    Parse.Leads count parse count :=
  inside (fun tokens => (consumes tokens).mono implies) count

theorem expectOpening (place : Place) (count : Nat) :
    Parse.Leads count (Parse.expect .leftParen place) (count + 1) := by
  refine fun tokens => (Consumes.expect place (by decide)).mono ?_
  rintro _ token ⟨rfl, opens⟩
  exact .single (openBehind_opening opens count)

theorem expectClosing (place : Place) (count : Nat) :
    Parse.Leads (count + 1) (Parse.expect .rightParen place) count := by
  refine fun tokens => (Consumes.expect place (by decide)).mono ?_
  rintro _ token ⟨rfl, closes⟩
  exact .single (openBehind_closing closes count)

theorem expect {kind : TokenKind} (noParen : kind ∉ [.leftParen, .rightParen])
    (inner : kind ≠ .eof) (place : Place) (count : Nat) :
    Parse.Leads count (Parse.expect kind place) count := by
  refine fun tokens => (Consumes.expect place inner).mono ?_
  rintro _ token ⟨rfl, rfl⟩
  exact .of_noParens (by simpa using noParen) count

theorem accept {kind : TokenKind} (noParen : kind ∉ [.leftParen, .rightParen])
    (inner : kind ≠ .eof) (count : Nat) : Parse.Leads count (Parse.accept kind) count := by
  refine fun tokens => (Consumes.accept inner).mono ?_
  rintro _ found (⟨-, token, rfl, rfl⟩ | ⟨-, rfl⟩)
  · exact .of_noParens (by simpa using noParen) count
  · exact .nil count

theorem acceptWord (word : String) (count : Nat) :
    Parse.Leads count (Query.acceptWord word) count := by
  refine fun tokens => (Consumes.acceptWord word).mono ?_
  rintro _ found (⟨-, token, rfl, isWord⟩ | ⟨-, rfl⟩)
  · exact .of_noParens (by simp [kind_of_isWord isWord]) count
  · exact .nil count

/-- A first token whose kind is known is taken. -/
theorem nextOf {tokens : List Token} {following : Token → Parse α}
    (inner : (first tokens).kind ≠ .eof) (noParen : (first tokens).kind ∉ [.leftParen, .rightParen])
    (back : ∀ token, Parse.Leads count (following token) left) :
    (Parse.next >>= following).Consumes tokens fun taken _ => Query.Leads count taken left := by
  obtain ⟨token, rest, rfl, -⟩ := eq_cons_of_first rfl inner
  refine .next inner ((back token rest).mono fun taken _ leads => ?_)
  have taken : Query.Leads count [token] count := .of_noParens (by simpa using noParen) count
  exact taken.append leads

theorem choice {kind : TokenKind} {here other : Parse α} (chosen : Parse.Leads count here between)
    (otherwise : Parse.Leads count other between)
    (back : ∀ a, Parse.Leads between (following a) left) :
    Parse.Leads count (Parse.peek >>= fun token => if token.kind = kind then here >>= following
      else other >>= following) left :=
  fun tokens => .choice _ (fun _ => chosen tokens) (fun _ => otherwise tokens)
    fun _ a rest leads => (back a rest).mono fun _ _ more => leads.append more

theorem loop {round : α → Parse (Round α)} (each : ∀ a, Parse.Leads 0 (round a) 0) (a : α) :
    Parse.Leads 0 (Parse.loop round a) 0 :=
  fun _ => .loop (Query.Leads.nil 0) fun _ a tokens leads =>
    (each a tokens).mono fun _ _ more => Query.Leads.append leads more

theorem separated {item : Parse α} (each : Parse.Leads 0 item 0) (closing : Option TokenKind)
    (count : Nat) : Parse.Leads count (Parse.separated item closing) count :=
  of_balanced (fun _ => .separated each closing) (fun _ _ joined => joined.balanced fun _ _ => id)
    count

end Parse.Leads

/-! ## Parts of expressions -/

theorem leads_readLabels (place : Place) : Parse.Leads 0 (readLabels place) 0 :=
  .of_balanced (fun _ => consumes_readLabels place) (fun _ _ => IsLabelList.balanced) 0

theorem leads_readSelector (name : Option String) : Parse.Leads 0 (readSelector name) 0 := by
  refine .of_balanced (fun _ => consumes_readSelector name) ?_ 0
  rintro taken expr ⟨-, list | ⟨rfl, -⟩⟩
  · exact list.balanced
  · exact Leads.nil 0

theorem leads_readDurationToken (place : Place) : Parse.Leads 0 (readDurationToken place) 0 :=
  .behind (.expect (by decide) (by decide) place 0) fun _ => .lift _ 0

theorem leads_readRange (expr : Expr) : Parse.Leads 0 (readRange expr) 0 := by
  refine .behind (leads_readDurationToken .range) fun range => ?_
  refine .behind (.accept (by decide) (by decide) 0) fun closed => ?_
  cases closed with
  | true => exact .lift _ 0
  | false =>
    refine .behind (.expect (by decide) (by decide) _ 0) fun _ => ?_
    refine .choice (.map (leads_readDurationToken .subqueryStep)) (.value none 0) fun step => ?_
    exact .behind (.expect (by decide) (by decide) _ 0) fun _ => .lift _ 0

theorem leads_readRangeBound {tokens : List Token} (bound : Instant)
    (word : (first tokens).kind = .ident) :
    (readRangeBound bound).Consumes tokens fun taken _ => Balanced taken := by
  refine Leads.nextOf (by simp [word]) (by simp [word]) fun _ => ?_
  exact .behind (.expectOpening _ 0) fun _ => .behind (.expectClosing _ 0) fun _ => .value bound 0

theorem leads_readSign : Parse.Leads 0 readSign 0 := by
  refine .behind (.accept (by decide) (by decide) 0) fun negative => ?_
  cases negative with
  | true => exact .value true 0
  | false => exact .behind (.accept (by decide) (by decide) 0) fun _ => .value false 0

theorem leads_numberOf (token : Token) : Parse.Leads 0 (numberOf token) 0 := by
  unfold numberOf
  split
  · exact .value _ 0
  · exact .fault _

theorem leads_readInstant : Parse.Leads 0 readInstant 0 := by
  refine fun tokens => .peek ?_
  split
  · rename_i start
    exact leads_readRangeBound .rangeStart (kind_of_isWord start)
  · split
    · rename_i stop
      exact leads_readRangeBound .rangeEnd (kind_of_isWord stop)
    · refine Leads.behind leads_readSign (fun negative => ?_) tokens
      refine .behind (.expect (by decide) (by decide) _ 0) fun token => ?_
      refine .behind (leads_numberOf token) fun number => ?_
      split
      · exact .value _ 0
      · exact .fault _

theorem leads_readPostfix (expr : Expr) : Parse.Leads 0 (readPostfix expr) 0 := by
  refine .behind (.accept (by decide) (by decide) 0) fun bracket => ?_
  cases bracket with
  | true => exact .map (leads_readRange expr)
  | false =>
    refine .behind (.acceptWord "offset" 0) fun word => ?_
    cases word with
    | true =>
      refine .behind ?_ fun offset => .map (.lift _ 0)
      refine .behind (.accept (by decide) (by decide) 0) fun _ => ?_
      exact .behind (leads_readDurationToken .offset) fun _ => .value _ 0
    | false =>
      refine .behind (.accept (by decide) (by decide) 0) fun symbol => ?_
      cases symbol with
      | true => exact .behind leads_readInstant fun instant => .map (.lift _ 0)
      | false => exact .value _ 0

/-- A word and the labels that belong to it, or what is read where the word is missing. -/
theorem leads_labelled {α : Type} {f : List String → α} {other : Parse α} (name : String)
    (place : Place) (otherwise : Parse.Leads 0 other 0) :
    Parse.Leads 0 (acceptWord name >>= fun found => if found then f <$> readLabels place
      else other) 0 := by
  refine .behind (.acceptWord name 0) fun found => ?_
  cases found with
  | true => exact .map (leads_readLabels place)
  | false => exact otherwise

theorem leads_readGrouping : Parse.Leads 0 readGrouping 0 :=
  leads_labelled "by" .grouping (leads_labelled "without" .grouping (.value none 0))

theorem leads_readSecondGrouping (before : Option Grouping) :
    Parse.Leads 0 (readSecondGrouping before) 0 := by
  cases before with
  | none => exact leads_readGrouping
  | some grouping =>
    refine fun tokens => .peek ?_
    split
    · exact .fault _
    · exact Leads.value _ 0 tokens

theorem leads_readBool (op : BinaryOp) : Parse.Leads 0 (readBool op) 0 := by
  refine fun tokens => .peek ?_
  split
  · rename_i isBool
    have word := kind_of_isWord isBool
    split
    · exact Leads.nextOf (by simp [word]) (by simp [word]) fun _ => .value true 0
    · exact .fault _
  · exact Leads.value false 0 tokens

theorem leads_readTakenLabels : Parse.Leads 0 readTakenLabels 0 := by
  refine fun tokens => .peek ?_
  split
  · exact leads_readLabels .groupModifier tokens
  · exact Leads.value [] 0 tokens

theorem leads_readGroupModifier (op : BinaryOp) : Parse.Leads 0 (readGroupModifier op) 0 := by
  refine fun tokens => .peek ?_
  split
  · rename_i isGroup
    have word : (first tokens).kind = .ident :=
      (Bool.or_eq_true_iff.1 isGroup).elim kind_of_isWord kind_of_isWord
    split
    · exact .fault _
    · refine Leads.nextOf (by simp [word]) (by simp [word]) fun _ => ?_
      exact .behind leads_readTakenLabels fun _ => .value _ 0
  · exact Leads.value none 0 tokens

theorem leads_readClause (op : BinaryOp) : Parse.Leads 0 (readClause op) 0 := by
  have labels : Parse.Leads 0 readMatchingLabels 0 :=
    leads_labelled "on" .onLabels (leads_labelled "ignoring" .ignoringLabels (.value none 0))
  refine .behind (leads_readBool op) fun _ => .behind ?_ fun _ => .value _ 0
  refine .behind labels fun labels => ?_
  cases labels with
  | none => exact .value none 0
  | some labels => exact .behind (leads_readGroupModifier op) fun group => .value _ 0

/-! ## Expressions -/

section
variable {inner : Nat → Parse Expr} (within : ∀ least, Parse.Leads 0 (inner least) 0)
include within

theorem leads_readCall (name : String) : Parse.Leads 0 (readCall inner name) 0 := by
  unfold readCall
  split
  · exact .fault _
  · refine .behind (.expectOpening _ 0) fun _ => ?_
    refine .choice (.value [] 1) (.separated (within 0) none 1) fun arguments => ?_
    refine .behind (.expectClosing _ 0) fun _ => ?_
    split
    · exact .value _ 0
    · exact .fault _

theorem leads_readAggregated (op : AggregateOp) : Parse.Leads 0 (readAggregated inner op) 0 := by
  refine .behind (within 0) fun first => ?_
  split
  · refine .behind (.expect (by decide) (by decide) _ 0) fun _ => ?_
    exact .behind (within 0) fun body => .value _ 0
  · exact .value _ 0

omit within in
theorem leads_closeArguments (aggregated : Aggregated) :
    Parse.Leads 1 (closeArguments aggregated) 0 :=
  .behind (.accept (by decide) (by decide) 1) fun _ => .behind (.expectClosing _ 0) fun _ =>
    .value _ 0

/-- The parenthesis in front of what is aggregated is closed behind it. -/
theorem leads_readArguments (op : AggregateOp) : Parse.Leads 1 (readArguments inner op) 0 := by
  refine fun tokens => .peek ?_
  split
  · exact .fault _
  · exact Leads.behind ((leads_readAggregated within op).inside 1) leads_closeArguments tokens

theorem leads_readAggregate (op : AggregateOp) : Parse.Leads 0 (readAggregate inner op) 0 := by
  rw [readAggregate_eq]
  refine .behind leads_readGrouping fun before => .behind (.expectOpening _ 0) fun _ => ?_
  refine .behind (leads_readArguments within op) fun aggregated => ?_
  exact .behind (leads_readSecondGrouping before) fun grouping => .value _ 0

theorem leads_readBehindWord (following word : Token) :
    Parse.Leads 0 (readBehindWord inner following word) 0 := by
  unfold readBehindWord
  split
  · exact .value _ 0
  · split
    · exact leads_readAggregate within _
    · split
      · exact leads_readCall within _
      · exact leads_readSelector _

theorem leads_readPrimary : Parse.Leads 0 (readPrimary inner) 0 := by
  refine fun tokens => .peek ?_
  split
  · rename_i kind
    exact Leads.nextOf (by simp [kind]) (by simp [kind]) fun token => .map (leads_numberOf token)
  · rename_i kind
    exact Leads.nextOf (by simp [kind]) (by simp [kind]) fun token => .value _ 0
  · rename_i kind
    -- This parenthesis is closed by the one that is expected behind the expression.
    obtain ⟨opening, rest, rfl, opens⟩ := eq_cons_of_first kind (by decide)
    have closed : Parse.Leads 1 (readParen inner) 0 :=
      .behind ((within 0).inside 1) fun _ => .behind (.expectClosing _ 0) fun _ => .value _ 0
    refine .next (by simp [opens]) ((closed rest).mono fun taken _ leads => ?_)
    exact Leads.append (.single (openBehind_opening opens 0)) leads
  · exact leads_readSelector none tokens
  · rename_i kind
    rw [readWordExpr_eq]
    refine .peekSecond (Leads.nextOf (by simp [kind]) (by simp [kind]) fun word => ?_)
    exact leads_readBehindWord within _ word
  · exact .unexpected _

theorem leads_readUnary : Parse.Leads 0 (readUnary inner) 0 := by
  refine fun tokens => .peek ?_
  split
  · rename_i op sign
    have noParen : (first tokens).kind ∉ [.leftParen, .rightParen] := by
      intro paren
      rcases List.mem_pair.1 paren with kind | kind <;> simp [kind, unaryOp?] at sign
    have noEnd : (first tokens).kind ≠ .eof := by
      intro kind
      simp [kind, unaryOp?] at sign
    exact Leads.nextOf noEnd noParen fun _ => .map (within signPrecedence)
  · exact Leads.behind (leads_readPrimary within) (fun _ => .loop leads_readPostfix _) tokens

theorem leads_readOperation (least : Nat) (left : Expr) :
    Parse.Leads 0 (readOperation inner least left) 0 := by
  refine fun tokens => .peek ?_
  split
  · exact Leads.value _ 0 tokens
  · rename_i op found
    obtain ⟨known, -⟩ := Option.filter_eq_some_iff.1 found
    have noParen : (first tokens).kind ∉ [.leftParen, .rightParen] := by
      intro paren
      rcases List.mem_pair.1 paren with kind | kind <;> simp [kind, binaryOp?] at known
    refine Leads.nextOf (kind_of_binaryOp known) noParen fun _ => ?_
    exact .behind (leads_readClause op) fun _ => .behind (within _) fun _ => .value _ 0

end

/-- The tokens of an expression are balanced. -/
theorem leads_readLevels (levels least : Nat) : Parse.Leads 0 (readLevels levels least) 0 := by
  induction levels generalizing least with
  | zero => exact .fault _
  | succ levels inductionHypothesis =>
    exact .behind (leads_readUnary inductionHypothesis) fun left =>
      .loop (leads_readOperation inductionHypothesis least) left

end RuleAtlas.Query
