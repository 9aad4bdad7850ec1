import RuleAtlas.Proofs.Query.Accepted.Parts
import RuleAtlas.Proofs.Query.Leaves
import RuleAtlas.Proofs.Query.Roles

/-! # What parses take

A parse takes tokens from the front, and what it comes to is told from these.  There is one rule
for each way to put parses together, and from the rules follows for each part of an expression
which tokens it is read from. -/

namespace RuleAtlas.Query

namespace Parse

variable {α β : Type} {tokens : List Token} {parse : Parse α} {good : List Token → α → Prop}

/-- Each value that the parse comes to is good for the tokens that were taken. -/
def Consumes (parse : Parse α) (tokens : List Token) (good : List Token → α → Prop) : Prop :=
  Lexical tokens → ∀ a rest, parse tokens = (.ok a, rest) →
    ∃ taken, tokens = taken ++ rest ∧ good taken a

/-- What a round comes to, whether it is the last one or not. -/
def Round.value : Round α → α
  | .again a => a
  | .done a => a

namespace Consumes

variable {result : List Token → β → Prop}

theorem mono {better : List Token → α → Prop} (consumes : parse.Consumes tokens better)
    (implies : ∀ taken a, better taken a → good taken a) : parse.Consumes tokens good := by
  intro lexical a rest came
  obtain ⟨taken, split, holds⟩ := consumes lexical a rest came
  exact ⟨taken, split, implies taken a holds⟩

theorem value {a : α} (holds : good [] a) : (pure a : Parse α).Consumes tokens good := by
  intro _ b rest came
  cases came
  exact ⟨[], rfl, holds⟩

theorem fault (cause : SyntaxFault) : (Parse.fault cause : Parse α).Consumes tokens good := by
  intro _ a rest came
  cases came

theorem unexpected (place : Place) : (Parse.unexpected place : Parse α).Consumes tokens good := by
  intro _ a rest came
  cases came

theorem lift {outcome : Except SyntaxFault α} (holds : ∀ a, outcome = .ok a → good [] a) :
    (Parse.lift outcome).Consumes tokens good := by
  intro _ a rest came
  obtain ⟨lifted, rfl⟩ := lift_eq_ok.1 came
  exact ⟨[], rfl, holds a lifted⟩

/-- The second parse takes its tokens behind those of the first one. -/
theorem behind {following : α → Parse β} (front : parse.Consumes tokens good)
    (back : ∀ taken a rest, good taken a →
      (following a).Consumes rest fun more b => result (taken ++ more) b) :
    (parse >>= following).Consumes tokens result := by
  intro lexical b rest came
  obtain ⟨a, middle, first, second⟩ := bind_eq_ok.1 came
  obtain ⟨taken, rfl, holds⟩ := front lexical a middle first
  have lexicalMiddle := lexical.of_suffix (List.suffix_append taken middle)
  obtain ⟨more, rfl, holdsToo⟩ := back taken a middle holds lexicalMiddle b rest second
  exact ⟨taken ++ more, (List.append_assoc _ _ _).symm, holdsToo⟩

theorem map {f : α → β} (front : parse.Consumes tokens fun taken a => result taken (f a)) :
    (f <$> parse).Consumes tokens result := by
  intro lexical b rest came
  obtain ⟨a, first, rfl⟩ := map_eq_ok.1 came
  exact front lexical a rest first

/-! ### Single tokens -/

theorem peek {following : Token → Parse β}
    (behind : (following (first tokens)).Consumes tokens result) :
    (Parse.peek >>= following).Consumes tokens result := behind

theorem peekSecond {following : Token → Parse β}
    (behind : (following (first (tokens.drop 1))).Consumes tokens result) :
    (Parse.peekSecond >>= following).Consumes tokens result := behind

theorem next {token : Token} {rest : List Token} {following : Token → Parse β}
    (inner : token.kind ≠ .eof)
    (back : (following token).Consumes rest fun more b => result (token :: more) b) :
    (Parse.next >>= following).Consumes (token :: rest) result := by
  intro lexical b final came
  rw [bind_of_ok (next_cons inner rest)] at came
  obtain ⟨more, rfl, holds⟩ := back lexical.behind b final came
  exact ⟨token :: more, rfl, holds⟩

theorem expect {kind : TokenKind} (place : Place) (inner : kind ≠ .eof) :
    (Parse.expect kind place).Consumes tokens fun taken token =>
      taken = [token] ∧ token.kind = kind := by
  intro _ token rest came
  obtain ⟨rfl, here⟩ := expect_eq_ok inner came
  exact ⟨[token], rfl, rfl, here⟩

theorem accept {kind : TokenKind} (inner : kind ≠ .eof) :
    (Parse.accept kind).Consumes tokens fun taken found =>
      (found = true ∧ ∃ token, taken = [token] ∧ token.kind = kind) ∨
        (found = false ∧ taken = []) := by
  intro _ found rest came
  rcases accept_eq_ok inner came with ⟨rfl, token, rfl, here⟩ | ⟨rfl, rfl, -⟩
  · exact ⟨[token], rfl, .inl ⟨rfl, token, rfl, here⟩⟩
  · exact ⟨[], rfl, .inr ⟨rfl, rfl⟩⟩

theorem acceptWord (word : String) :
    (Query.acceptWord word).Consumes tokens fun taken found =>
      (found = true ∧ ∃ token, taken = [token] ∧ token.isWord word = true) ∨
        (found = false ∧ taken = []) := by
  intro _ found rest came
  rcases acceptWord_eq_ok came with ⟨rfl, token, rfl, here⟩ | ⟨rfl, rfl, -⟩
  · exact ⟨[token], rfl, .inl ⟨rfl, token, rfl, here⟩⟩
  · exact ⟨[], rfl, .inr ⟨rfl, rfl⟩⟩

/-- Of two parses the one that the first token chooses takes tokens. -/
theorem choice (good : List Token → α → Prop) {kind : TokenKind} {here other : Parse α}
    {following : α → Parse β}
    (chosen : (first tokens).kind = kind → here.Consumes tokens good)
    (otherwise : (first tokens).kind ≠ kind → other.Consumes tokens good)
    (back : ∀ taken a rest, good taken a →
      (following a).Consumes rest fun more b => result (taken ++ more) b) :
    (Parse.peek >>= fun token => if token.kind = kind then here >>= following
      else other >>= following).Consumes tokens result := by
  refine peek ?_
  split
  · rename_i same
    exact (chosen same).behind back
  · rename_i differs
    exact (otherwise differs).behind back

/-! ### Repetitions -/

/-- What every round keeps up is so for all tokens that the rounds took. -/
theorem loop {round : α → Parse (Round α)} {keeps : List Token → α → Prop} {a : α}
    (start : keeps [] a)
    (step : ∀ front a tokens, keeps front a →
      (round a).Consumes tokens fun taken outcome => keeps (front ++ taken) outcome.value) :
    (Parse.loop round a).Consumes tokens keeps := by
  have rounds : ∀ count front a tokens, keeps front a →
      (Parse.rounds round count a).Consumes tokens fun taken b => keeps (front ++ taken) b := by
    intro count
    induction count with
    | zero =>
      intro front a tokens holds
      exact value (by rwa [List.append_nil])
    | succ count inductionHypothesis =>
      intro front a tokens holds
      refine (step front a tokens holds).behind fun taken outcome rest kept => ?_
      simp only [← List.append_assoc]
      cases outcome with
      | again b => exact inductionHypothesis (front ++ taken) b rest kept
      | done b => exact value (by rwa [List.append_nil])
  exact rounds tokens.length [] a tokens start

theorem items {item : Parse α} (each : ∀ tokens, item.Consumes tokens good)
    (closing : Option TokenKind) (count : Nat) :
    (Parse.items item closing count).Consumes tokens (Joined good) := by
  induction count generalizing tokens with
  | zero => exact value .nil
  | succ count inductionHypothesis =>
    refine (each tokens).behind fun taken a rest holds => ?_
    refine (accept (by decide)).behind ?_
    rintro _ found rest (⟨rfl, comma, rfl, separates⟩ | ⟨rfl, rfl⟩)
    · refine peek ?_
      split
      · exact value (.more holds separates .nil)
      · refine inductionHypothesis.behind fun more others rest joined => value ?_
        rw [List.append_nil]
        exact .more holds separates joined
    · exact value (by simpa using Joined.single holds)

theorem separated {item : Parse α} (each : ∀ tokens, item.Consumes tokens good)
    (closing : Option TokenKind) :
    (Parse.separated item closing).Consumes tokens (Joined good) :=
  items each closing tokens.length

end Consumes

end Parse

open Parse

variable {tokens : List Token}

/-! ## Labels and matchers -/

theorem consumes_readLabel (place : Place) (tokens : List Token) :
    (readLabel place).Consumes tokens IsLabel := by
  refine (Consumes.expect place (by decide)).behind ?_
  rintro _ token rest ⟨rfl, kind⟩
  exact .value ⟨token, rfl, kind, rfl⟩

theorem consumes_readLabels (place : Place) :
    (readLabels place).Consumes tokens fun taken _ => IsLabelList taken := by
  refine (Consumes.expect place (by decide)).behind ?_
  rintro _ opening rest ⟨rfl, opens⟩
  refine .choice (Joined IsLabel) (fun _ => .value .nil)
    (fun _ => .separated (consumes_readLabel place) _) ?_
  intro inside labels rest joined
  refine (Consumes.expect place (by decide)).behind ?_
  rintro _ closing rest ⟨rfl, closes⟩
  exact .value ⟨opening, inside, closing, by simp, opens, closes, labels, joined⟩

theorem consumes_readMatcher (tokens : List Token) :
    readMatcher.Consumes tokens IsMatcher := by
  refine (consumes_readLabel .matcherLabel tokens).behind fun taken label rest isLabel => ?_
  obtain ⟨token, rfl, kind, same⟩ := isLabel
  refine .peek ?_
  cases operator : matchKind? (first rest).kind with
  | none => exact .unexpected _
  | some comparison =>
    have noEnd : (first rest).kind ≠ .eof := by
      intro eof
      rw [eof] at operator
      cases operator
    obtain ⟨symbol, rest, rfl, -⟩ := eq_cons_of_first rfl noEnd
    refine .next noEnd ((Consumes.expect .matcherText (by decide)).behind ?_)
    rintro _ text rest ⟨rfl, isText⟩
    refine .lift fun matcher made => ?_
    have labelled : matcher.label = label := by
      unfold LabelMatcher.make at made
      split at made
      · cases made
        rfl
      · cases made
    refine ⟨token, symbol, text, rfl, ⟨token, rfl, kind, same.trans labelled.symm⟩, ?_, isText⟩
    exact Option.isSome_iff_exists.2 ⟨comparison, operator⟩

theorem consumes_readMatchers :
    readMatchers.Consumes tokens fun taken _ => IsMatcherList taken := by
  refine (Consumes.expect .matchers (by decide)).behind ?_
  rintro _ opening rest ⟨rfl, opens⟩
  refine .choice (Joined IsMatcher) (fun _ => .value .nil)
    (fun _ => .separated consumes_readMatcher _) ?_
  intro inside matchers rest joined
  refine (Consumes.expect .matchersEnd (by decide)).behind ?_
  rintro _ closing rest ⟨rfl, closes⟩
  exact .value ⟨opening, inside, closing, by simp, opens, closes, matchers, joined⟩

/-- A selector is read from its name, which was taken before, from matchers, or from both. -/
theorem consumes_readSelector (name : Option String) :
    (readSelector name).Consumes tokens fun taken expr =>
      (∃ matchers, expr = .vector ⟨name, matchers, .none⟩) ∧
        (IsMatcherList taken ∨ (taken = [] ∧ name.isSome = true)) := by
  refine .choice (fun taken matchers => IsMatcherList taken ∨ (taken = [] ∧ matchers = []))
    (fun _ => consumes_readMatchers.mono fun _ _ => .inl) (fun _ => .value (.inr ⟨rfl, rfl⟩)) ?_
  intro taken matchers rest read
  dsimp only
  split
  · exact .fault _
  · split
    · exact .fault _
    · rename_i selects
      refine .value ⟨⟨matchers, rfl⟩, ?_⟩
      rw [List.append_nil]
      refine read.imp_right fun none => ⟨none.1, ?_⟩
      -- Without a name and without matchers everything would be selected.
      obtain ⟨-, rfl⟩ := none
      cases name with
      | none => exact absurd rfl selects
      | some name => rfl

/-! ## Ranges and clauses in time -/

section
variable {expr result : Expr}

theorem names_withModifiers (expr : Expr) (modifiers : Modifiers) :
    (expr.withModifiers modifiers).names = expr.names := by
  cases expr <;> simp [Expr.withModifiers, Selector.name?]

theorem names_of_applyRange {range : Duration} (applied : applyRange expr range = .ok result) :
    result.names = expr.names := by
  unfold applyRange at applied
  split at applied
  · split at applied
    · cases applied
      rw [Expr.names_matrix, Expr.names_vector]
    · cases applied
  · cases applied

theorem names_of_applySubquery {range : Duration} {step : Option Duration}
    (applied : applySubquery expr range step = .ok result) : result.names = expr.names := by
  unfold applySubquery at applied
  split at applied
  · cases applied
  · cases applied
    exact Expr.names_subquery _ _

theorem names_of_applyOffset {offset : Offset} (applied : applyOffset expr offset = .ok result) :
    result.names = expr.names := by
  obtain ⟨modifiers, rfl⟩ := exists_of_applyOffset applied
  exact names_withModifiers expr modifiers

theorem names_of_applyInstant {instant : Instant}
    (applied : applyInstant expr instant = .ok result) : result.names = expr.names := by
  obtain ⟨modifiers, rfl⟩ := exists_of_applyInstant applied
  exact names_withModifiers expr modifiers

end

theorem consumes_numberOf (token : Token) :
    (numberOf token).Consumes tokens fun taken _ => taken = [] := by
  unfold numberOf
  split
  · exact .value rfl
  · exact .fault _

theorem consumes_readDurationToken (place : Place) :
    (readDurationToken place).Consumes tokens fun taken _ =>
      taken.map Token.kind = [.duration] := by
  refine (Consumes.expect place (by decide)).behind ?_
  rintro _ token rest ⟨rfl, kind⟩
  exact .lift fun _ _ => congrArg (fun kind => [kind]) kind

theorem consumes_readRange (expr : Expr) :
    (readRange expr).Consumes tokens fun taken result =>
      Spells taken [] ∧ result.names = expr.names := by
  refine (consumes_readDurationToken .range).behind fun duration range rest isDuration => ?_
  refine (Consumes.accept (by decide)).behind ?_
  rintro _ bracket rest (⟨rfl, closing, rfl, closes⟩ | ⟨rfl, rfl⟩)
  · refine .lift fun result applied => ⟨?_, names_of_applyRange applied⟩
    exact .of_kinds [[.duration, .rightBracket]] (by simp [isDuration, closes])
      (by decide)
  · refine (Consumes.expect .subqueryColon (by decide)).behind ?_
    rintro _ colon rest ⟨rfl, isColon⟩
    refine .choice (fun taken _ => taken.map Token.kind ∈ [[], [.duration]])
      (fun _ => .map ((consumes_readDurationToken .subqueryStep).mono fun _ _ same => by
        simp [same])) (fun _ => .value (by simp)) ?_
    intro step _ rest isStep
    refine (Consumes.expect .subqueryEnd (by decide)).behind ?_
    rintro _ closing rest ⟨rfl, closes⟩
    refine .lift fun result applied => ⟨?_, names_of_applySubquery applied⟩
    have kinds : (duration ++ ([] ++ ([colon] ++ (step ++ ([closing] ++ []))))).map Token.kind ∈
        [[.duration, .colon, .rightBracket], [.duration, .colon, .duration, .rightBracket]] := by
      rcases List.mem_pair.1 isStep with same | same <;>
        simp [isDuration, isColon, closes, same]
    exact .of_kinds _ kinds (by decide)

theorem consumes_readOffset : readOffset.Consumes tokens fun taken _ =>
    taken.map Token.kind ∈ [[.duration], [.sub, .duration]] := by
  refine (Consumes.accept (by decide)).behind ?_
  rintro _ negative rest (⟨rfl, sign, rfl, isSign⟩ | ⟨rfl, rfl⟩)
  · refine (consumes_readDurationToken .offset).behind fun taken _ rest same => .value ?_
    simp [isSign, same]
  · refine (consumes_readDurationToken .offset).behind fun taken _ rest same => .value ?_
    simp [same]

/-- The word of an offset and its duration. -/
theorem spells_offset {word : Token} (isWord : word.isWord "offset" = true)
    (duration : tokens.map Token.kind ∈ [[.duration], [.sub, .duration]]) :
    Spells (word :: tokens) [] := by
  have follows : BeginsWith [.duration] tokens ∨ BeginsWith [.sub, .duration] tokens := by
    refine (List.mem_pair.1 duration).imp (fun same => ?_) (fun same => ?_)
    all_goals
      rw [BeginsWith, same]
  have spelled : Spells tokens [] := .of_kinds _ duration (by decide)
  refine ⟨.other (fun _ => .offset isWord (by simpa using follows)) spelled.accounted.anywhere, ?_⟩
  exact spelled.ends.mono (List.suffix_cons _ _)

/-- A word for an end of the range with its parentheses, or symbols and values. -/
def IsInstant (tokens : List Token) : Prop :=
  (∃ word opening closing, tokens = [word, opening, closing] ∧
    (word.isWord "start" = true ∨ word.isWord "end" = true) ∧
    opening.kind = .leftParen ∧ closing.kind = .rightParen) ∨ Spells tokens []

theorem consumes_readRangeBound {word : Token} {rest : List Token} (bound : Instant)
    (isBound : word.isWord "start" = true ∨ word.isWord "end" = true) :
    (readRangeBound bound).Consumes (word :: rest) fun taken _ => IsInstant taken := by
  have inner : word.kind ≠ .eof := by
    rw [isBound.elim kind_of_isWord kind_of_isWord]
    decide
  refine .next inner ((Consumes.expect .instant (by decide)).behind ?_)
  rintro _ opening rest ⟨rfl, opens⟩
  refine (Consumes.expect .instant (by decide)).behind ?_
  rintro _ closing rest ⟨rfl, closes⟩
  exact .value (.inl ⟨word, opening, closing, rfl, isBound, opens, closes⟩)

theorem consumes_readSign : readSign.Consumes tokens fun taken _ =>
    taken.map Token.kind ∈ [[], [.add], [.sub]] := by
  refine (Consumes.accept (by decide)).behind ?_
  rintro _ negative rest (⟨rfl, sign, rfl, isSign⟩ | ⟨rfl, rfl⟩)
  · exact .value (by simp [isSign])
  · refine (Consumes.accept (by decide)).behind ?_
    rintro _ positive rest (⟨rfl, sign, rfl, isSign⟩ | ⟨rfl, rfl⟩)
    · exact .value (by simp [isSign])
    · exact .value (by simp)

theorem consumes_readInstant : readInstant.Consumes tokens fun taken _ => IsInstant taken := by
  refine .peek ?_
  split
  · rename_i start
    obtain ⟨word, rest, rfl, -⟩ := eq_cons_of_first (kind_of_isWord start) (by decide)
    exact consumes_readRangeBound _ (.inl start)
  · split
    · rename_i stop
      obtain ⟨word, rest, rfl, -⟩ := eq_cons_of_first (kind_of_isWord stop) (by decide)
      exact consumes_readRangeBound _ (.inr stop)
    · refine consumes_readSign.behind fun sign negative rest isSign => ?_
      refine (Consumes.expect .instantTimestamp (by decide)).behind ?_
      rintro _ token rest ⟨rfl, isNumber⟩
      have kinds : (sign ++ [token]).map Token.kind ∈
          [[.number], [.add, .number], [.sub, .number]] := by
        simp only [List.mem_cons, List.not_mem_nil, or_false] at isSign
        rcases isSign with same | same | same <;> simp [same, isNumber]
      have spelled : Spells (sign ++ [token]) [] := .of_kinds _ kinds (by decide)
      refine (consumes_numberOf token).behind ?_
      rintro _ number rest rfl
      split
      · exact .value (.inr spelled)
      · exact .fault _

/-- An end of the range, or a timestamp, behind its symbol. -/
theorem spells_instant {symbol : Token} (isSymbol : symbol.kind = .atSign)
    (instant : IsInstant tokens) : Spells (symbol :: tokens) [] := by
  have noWord : symbol.kind ≠ .ident := by
    rw [isSymbol]
    decide
  rcases instant with ⟨word, opening, closing, rfl, isBound, opens, closes⟩ | spelled
  · have serves : word.Serves [symbol] [opening, closing] := by
      refine .rangeBound isBound ⟨[], ?_⟩ ⟨[], ?_⟩
      · simp [isSymbol]
      · simp [opens, closes]
    have parentheses : Spells [opening, closing] [] :=
      .of_kinds [[.leftParen, .rightParen]] (by simp [opens, closes]) (by decide)
    refine ⟨.other (fun word => absurd word noWord) (.other (fun _ => serves)
      parentheses.accounted.anywhere), parentheses.ends.mono ⟨[symbol, word], rfl⟩⟩
  · exact spelled.cons noWord

/-- What is read behind an operand has no names, and leaves those of the operand. -/
theorem consumes_readPostfix (expr : Expr) :
    (readPostfix expr).Consumes tokens fun taken outcome =>
      (taken = [] ∨ Spells taken []) ∧ outcome.value.names = expr.names := by
  refine (Consumes.accept (by decide)).behind ?_
  rintro _ bracket rest (⟨rfl, opening, rfl, opens⟩ | ⟨rfl, rfl⟩)
  · refine .map ((consumes_readRange expr).mono ?_)
    rintro taken result ⟨spelled, same⟩
    exact ⟨.inr (spelled.cons (by simp [opens])), same⟩
  refine (Consumes.acceptWord "offset").behind ?_
  rintro _ word rest (⟨rfl, token, rfl, isWord⟩ | ⟨rfl, rfl⟩)
  · refine consumes_readOffset.behind fun taken offset rest duration => ?_
    refine .map (.lift fun result applied => ⟨.inr ?_, names_of_applyOffset applied⟩)
    simpa using spells_offset isWord duration
  refine (Consumes.accept (by decide)).behind ?_
  rintro _ symbol rest (⟨rfl, token, rfl, isSymbol⟩ | ⟨rfl, rfl⟩)
  · refine consumes_readInstant.behind fun taken instant rest isInstant => ?_
    refine .map (.lift fun result applied => ⟨.inr ?_, names_of_applyInstant applied⟩)
    simpa using spells_instant isSymbol isInstant
  · exact .value ⟨.inl rfl, rfl⟩

theorem consumes_readPostfixes (expr : Expr) :
    (readPostfixes expr).Consumes tokens fun taken result =>
      (taken = [] ∨ Spells taken []) ∧ result.names = expr.names := by
  refine .loop ⟨.inl rfl, rfl⟩ fun front before tokens kept => ?_
  obtain ⟨spelled, same⟩ := kept
  refine (consumes_readPostfix before).mono fun taken outcome read => ?_
  obtain ⟨rfl | more, sameToo⟩ := read
  · exact ⟨by rwa [List.append_nil], sameToo.trans same⟩
  · refine ⟨.inr ?_, sameToo.trans same⟩
    rcases spelled with rfl | spelled
    · exact more
    · exact spelled.append more

/-! ## Groupings and clauses of operators -/

/-- A word and the labels that belong to it, or what is read where the word is missing. -/
theorem consumes_labelled {α : Type} {good : List Token → α → Prop} {f : List String → α}
    {other : Parse α} (name : String) (place : Place)
    (here : ∀ word list labels, word.isWord name = true → IsLabelList list →
      good (word :: list) (f labels))
    (otherwise : ∀ tokens, other.Consumes tokens good) :
    (acceptWord name >>= fun found => if found then f <$> readLabels place
      else other).Consumes tokens good := by
  refine (Consumes.acceptWord name).behind ?_
  rintro _ found rest (⟨rfl, word, rfl, isWord⟩ | ⟨rfl, rfl⟩)
  · exact .map ((consumes_readLabels place).mono fun list labels => here word list labels isWord)
  · exact otherwise rest

/-- Nothing, or a word for a grouping and its labels. -/
def IsGrouping (tokens : List Token) : Prop :=
  tokens = [] ∨ ∃ word list, tokens = word :: list ∧ word.beginsGrouping = true ∧ IsLabelList list

theorem consumes_readGrouping :
    readGrouping.Consumes tokens fun taken _ => IsGrouping taken := by
  refine consumes_labelled "by" .grouping (fun word list labels isWord isList => ?_)
    fun tokens => ?_
  · exact .inr ⟨word, list, rfl, by simp [Token.beginsGrouping, isWord], isList⟩
  refine consumes_labelled "without" .grouping (fun word list labels isWord isList => ?_)
    fun tokens => ?_
  · exact .inr ⟨word, list, rfl, by simp [Token.beginsGrouping, isWord], isList⟩
  · exact .value (.inl rfl)

theorem consumes_readSecondGrouping (before : Option Grouping) :
    (readSecondGrouping before).Consumes tokens fun taken _ => IsGrouping taken := by
  cases before with
  | none => exact consumes_readGrouping
  | some grouping =>
    refine .peek ?_
    split
    · exact .fault _
    · exact .value (.inl rfl)

/-- Behind the word of an aggregation or its parentheses a grouping is accounted for. -/
theorem IsGrouping.accounted {last : Token} (grouping : IsGrouping tokens)
    (place : last.kind = .rightParen ∨ (AggregateOp.ofWord? last.text).isSome = true) :
    Accounted [] [last] tokens [] := by
  rcases grouping with rfl | ⟨word, list, rfl, begins, isList⟩
  · exact .done
  · refine .other (fun _ => .grouping begins ?_ ⟨list, isList, List.prefix_append _ _⟩) ?_
    · refine place.imp (fun closes => ⟨[], ?_⟩) (fun known => ⟨last, known, List.suffix_refl _⟩)
      simp [closes]
    · have hasLabels : word.hasLabels = true := by simp [Token.hasLabels, begins]
      exact (isList.accounted hasLabels).mono (List.suffix_append [last] [word]) List.nil_prefix

/-- Nothing, or behind a comparison the word that makes it give numbers. -/
def IsBool (op : BinaryOp) (tokens : List Token) : Prop :=
  tokens = [] ∨ (op.isComparison = true ∧
    ∃ word, tokens = [word] ∧ word.isWord "bool" = true)

/-- Nothing, or a word for the side with many series, perhaps with labels. -/
def IsGroupModifier (tokens : List Token) : Prop :=
  tokens = [] ∨ ∃ word list, tokens = word :: list ∧ word.isGroupModifier = true ∧
    (list = [] ∨ IsLabelList list)

/-- Nothing, or a word for the labels to match on, these, and what may follow them. -/
def IsMatching (tokens : List Token) : Prop :=
  tokens = [] ∨ ∃ word list group, tokens = word :: (list ++ group) ∧ word.isMatching = true ∧
    IsLabelList list ∧ IsGroupModifier group

theorem consumes_readBool (op : BinaryOp) :
    (readBool op).Consumes tokens fun taken _ => IsBool op taken := by
  refine .peek ?_
  split
  · rename_i isBool
    split
    · rename_i comparison
      obtain ⟨word, rest, rfl, kind⟩ := eq_cons_of_first (kind_of_isWord isBool) (by decide)
      refine .next (by simp [kind]) (.value (.inr ⟨comparison, word, rfl, isBool⟩))
    · exact .fault _
  · exact .value (.inl rfl)

theorem consumes_readGroupModifier (op : BinaryOp) :
    (readGroupModifier op).Consumes tokens fun taken _ => IsGroupModifier taken := by
  refine .peek ?_
  split
  · rename_i isGroup
    split
    · exact .fault _
    · have ident : (first tokens).kind = .ident :=
        (Bool.or_eq_true_iff.1 isGroup).elim kind_of_isWord kind_of_isWord
      obtain ⟨word, rest, rfl, kind⟩ := eq_cons_of_first ident (by decide)
      have labels : readTakenLabels.Consumes rest fun taken _ =>
          taken = [] ∨ IsLabelList taken := by
        refine .peek ?_
        split
        · exact (consumes_readLabels .groupModifier).mono fun _ _ => .inr
        · exact .value (.inl rfl)
      refine .next (by simp [kind]) (labels.behind fun list _ rest isList => .value (.inr ?_))
      exact ⟨word, list, by simp, isGroup, isList⟩
  · exact .value (.inl rfl)

theorem consumes_readMatching (op : BinaryOp) :
    (readMatching op).Consumes tokens fun taken _ => IsMatching taken := by
  have labels : readMatchingLabels.Consumes tokens fun taken labels =>
      (labels = none ∧ taken = []) ∨ (labels.isSome = true ∧
        ∃ word list, taken = word :: list ∧ word.isMatching = true ∧ IsLabelList list) := by
    refine consumes_labelled "on" .onLabels (fun word list labels isWord isList => ?_)
      fun tokens => ?_
    · exact .inr ⟨rfl, word, list, rfl, by simp [Token.isMatching, isWord], isList⟩
    refine consumes_labelled "ignoring" .ignoringLabels (fun word list labels isWord isList => ?_)
      fun tokens => ?_
    · exact .inr ⟨rfl, word, list, rfl, by simp [Token.isMatching, isWord], isList⟩
    · exact .value (.inl ⟨rfl, rfl⟩)
  refine labels.behind ?_
  rintro taken labels rest (⟨rfl, rfl⟩ | ⟨some, word, list, rfl, isWord, isList⟩)
  · exact .value (.inl rfl)
  · obtain ⟨matched, rfl⟩ := Option.isSome_iff_exists.1 some
    refine (consumes_readGroupModifier op).behind fun group _ rest isGroup => .value (.inr ?_)
    exact ⟨word, list, group, by simp, isWord, isList, isGroup⟩

theorem consumes_readClause (op : BinaryOp) :
    (readClause op).Consumes tokens fun taken _ =>
      ∃ bool matching, taken = bool ++ matching ∧ IsBool op bool ∧ IsMatching matching := by
  refine (consumes_readBool op).behind fun bool _ rest isBool => ?_
  refine (consumes_readMatching op).behind fun matching _ rest isMatching => .value ?_
  exact ⟨bool, matching, by simp, isBool, isMatching⟩

theorem IsGroupModifier.accounted {word : Token} {list : List Token}
    (group : IsGroupModifier tokens) (isMatching : word.isMatching = true)
    (isList : IsLabelList list) : Accounted [] (word :: list) tokens [] := by
  rcases group with rfl | ⟨side, labels, rfl, isGroup, none | isLabels⟩
  · exact .done
  all_goals
    refine .other (fun _ => .groupModifier isGroup
      ⟨word, list, isMatching, isList, List.suffix_refl _⟩) ?_
  · subst none
    exact .done
  · have hasLabels : side.hasLabels = true := by simp [Token.hasLabels, isGroup]
    exact (isLabels.accounted hasLabels).mono (List.suffix_append _ [side]) List.nil_prefix

/-- Behind an operator, or the word behind a comparison, a matching is accounted for. -/
theorem IsMatching.accounted {before : List Token} {operator : Token} (matching : IsMatching tokens)
    (known : (binaryOp? operator).isSome = true) (place : [operator] <:+ before ∨
      ∃ bool, bool.isWord "bool" = true ∧ [operator, bool] <:+ before) :
    Accounted [] before tokens [] := by
  rcases matching with rfl | ⟨word, list, group, rfl, isMatching, isList, isGroup⟩
  · exact .done
  · have hasLabels : word.hasLabels = true := by simp [Token.hasLabels, isMatching]
    have labels : Accounted (group ++ []) (before ++ [word]) list [] :=
      (isList.accounted hasLabels).mono (List.suffix_append _ _) List.nil_prefix
    have groups : Accounted [] (before ++ [word] ++ list) group [] :=
      (isGroup.accounted isMatching isList).mono ⟨before, by simp⟩ List.nil_prefix
    refine .other (fun _ => .matching isMatching ⟨operator, known, place⟩
      ⟨list, isList, ?_⟩) (labels.append groups)
    simp

/-- Behind its operator a clause is accounted for. -/
theorem accounted_clause {operator : Token} {op : BinaryOp} {bool matching : List Token}
    (known : binaryOp? operator = some op) (isBool : IsBool op bool)
    (isMatching : IsMatching matching) : Accounted [] [operator] (bool ++ matching) [] := by
  have isSome : (binaryOp? operator).isSome = true := Option.isSome_iff_exists.2 ⟨op, known⟩
  rcases isBool with rfl | ⟨comparison, word, rfl, isWord⟩
  · exact isMatching.accounted isSome (.inl (List.suffix_refl _))
  · refine .other (fun _ => .bool isWord ⟨operator, op, known, comparison, List.suffix_refl _⟩) ?_
    exact isMatching.accounted isSome (.inr ⟨word, isWord, List.suffix_refl _⟩)

end RuleAtlas.Query
