import RuleAtlas.Proofs.Query.Balance

/-! # Other tokens in the same place

Behind a token that begins a part of an expression other tokens may stand.  If the parts that
can begin there are read from the new tokens as from the old ones, and what stands behind the
part is the same, then a whole expression around it is read as before too. -/

namespace RuleAtlas.Query

open Parse

variable {α β : Type}

/-! ## Swaps -/

/-- A token, and the tokens that stood and that now stand behind it. -/
structure Swap where
  head : Token
  old : List Token
  new : List Token

namespace Swap

variable (swap : Swap) {front left : List Token}

def before (front : List Token) : List Token := front ++ swap.head :: swap.old

def after (front : List Token) : List Token := front ++ swap.head :: swap.new

/-- Where a part of an expression begins at the head it is read from the new tokens as from the
old ones, up to the same tokens. -/
structure Fits : Prop where
  kind : swap.head.kind = .ident ∨ swap.head.kind = .leftBrace
  noOperator : binaryOp? swap.head = none
  noClause : ∀ word ∈ ["offset", "start", "end", "bool"], swap.head.isWord word = false
  /-- The head is not the last word of a list. -/
  behind : swap.head.kind = .ident →
    (first swap.old).kind = .ident ∨ (first swap.old).kind = .leftParen
  labels : swap.head.hasLabels = true →
    (first swap.old).kind = .leftParen ∧ (first swap.new).kind = .leftParen ∧
      ∀ place labels left, readLabels place swap.old = (.ok labels, left) →
        readLabels place swap.new = (.ok labels, left)
  matchers : swap.head.kind = .leftBrace → ∀ matchers left,
    readMatchers (swap.head :: swap.old) = (.ok matchers, left) →
      readMatchers (swap.head :: swap.new) = (.ok matchers, left)
  word : swap.head.kind = .ident → ∀ levels expr left,
    readBehindWord (readLevels levels) (first swap.old) swap.head swap.old = (.ok expr, left) →
      readBehindWord (readLevels levels) (first swap.new) swap.head swap.new = (.ok expr, left)

theorem Fits.kind_ne {swap : Swap} (fits : swap.Fits) {kind : TokenKind}
    (other : kind ∉ [.ident, .leftBrace]) : swap.head.kind ≠ kind := by
  rintro rfl
  exact other (List.mem_pair.2 fits.kind)

theorem first_after (front : List Token) :
    first (swap.after front) = first (swap.before front) := by
  cases front <;> rfl

theorem length_before (front : List Token) :
    (swap.before front).length = front.length + swap.old.length + 1 := by
  simp [before]
  omega

/-- What is left with the head in it begins in front of the head. -/
theorem exists_of_suffix {swap : Swap} (leaves : left <:+ swap.before front)
    (long : swap.old.length < left.length) :
    ∃ taken more, front = taken ++ more ∧ left = swap.before more := by
  obtain ⟨taken, whole⟩ := leaves
  rcases List.append_eq_append_iff.1 whole with ⟨more, rfl, rfl⟩ | ⟨past, rfl, same⟩
  · exact ⟨taken, more, rfl, rfl⟩
  · cases past with
    | nil => exact ⟨front, [], by simp, same.symm⟩
    | cons token past =>
      have lengths := congrArg List.length same
      simp at lengths
      omega

end Swap

/-! ## Rules -/

/-- If the parse goes on behind the head, it does so from the new tokens as from the old ones. -/
def Parse.Exchanges (parse : Parse α) (swap : Swap) (front : List Token) : Prop :=
  Lexical (swap.before front) → ∀ a left, parse (swap.before front) = (.ok a, left) →
    left.length ≤ swap.old.length → parse (swap.after front) = (.ok a, left)

namespace Parse.Exchanges

variable {swap : Swap} {front : List Token} {parse : Parse α} {following : α → Parse β}

/-- A parse that does not take the head need not be looked at. -/
theorem of_stays (stays : ∀ a left, Lexical (swap.before front) →
    parse (swap.before front) = (.ok a, left) → swap.old.length < left.length) :
    parse.Exchanges swap front :=
  fun lexical a left came short => absurd (stays a left lexical came) (Nat.not_lt.2 short)

theorem value (a : α) : (pure a : Parse α).Exchanges swap front := by
  refine of_stays fun b left _ came => ?_
  cases came
  rw [swap.length_before]
  omega

theorem fault (cause : SyntaxFault) : (Parse.fault cause : Parse α).Exchanges swap front :=
  fun _ a left came => by cases came

theorem unexpected (place : Place) : (Parse.unexpected place : Parse α).Exchanges swap front :=
  fun _ a left came => by cases came

theorem lift (result : Except SyntaxFault α) : (Parse.lift result).Exchanges swap front := by
  cases result with
  | ok a => exact value a
  | error cause => exact fault cause

/-- In front of the head nothing has changed. -/
theorem stops {taken more : List Token} {a : α} (framed : parse.Framed .exact)
    (parsed : parse (swap.before (taken ++ more)) = (.ok a, swap.before more)) :
    parse (swap.after (taken ++ more)) = (.ok a, swap.after more) := by
  rw [Swap.before, Swap.before, List.append_assoc] at parsed
  rw [Swap.after, Swap.after, List.append_assoc]
  exact framed.front parsed rfl

/-- The first parse stops in front of the head, or else the second one begins behind it. -/
theorem behindOf (framed : parse.Framed .exact) (here : parse.Exchanges swap front)
    (back : ∀ a more, more.length ≤ front.length →
      parse (swap.before front) = (.ok a, swap.before more) →
      (following a).Exchanges swap more) : (parse >>= following).Exchanges swap front := by
  intro lexical b left came short
  obtain ⟨a, middle, parsed, followed⟩ := bind_eq_ok.1 came
  -- Either the head is left to the second parse, or the first one has passed it.
  rcases Nat.lt_or_ge swap.old.length middle.length with long | passed
  · obtain ⟨taken, more, rfl, rfl⟩ := Swap.exists_of_suffix (framed.leaves parsed) long
    have exchanges := back a more (by simp) parsed (lexical.of_suffix (framed.leaves parsed))
    rw [bind_of_ok (stops framed parsed)]
    exact exchanges b left followed short
  · rw [bind_of_ok (here lexical a middle parsed passed)]
    exact followed

theorem behind (framed : parse.Framed .exact) (here : parse.Exchanges swap front)
    (back : ∀ a more, (following a).Exchanges swap more) :
    (parse >>= following).Exchanges swap front :=
  behindOf framed here fun a more _ _ => back a more

theorem map {f : α → β} (here : parse.Exchanges swap front) :
    (f <$> parse).Exchanges swap front := by
  intro lexical b left came short
  obtain ⟨a, parsed, rfl⟩ := map_eq_ok.1 came
  exact map_of_ok (here lexical a left parsed short)

/-! ### Single tokens -/

theorem peek {following : Token → Parse β}
    (behind : (following (first (swap.before front))).Exchanges swap front) :
    (Parse.peek >>= following).Exchanges swap front := by
  intro lexical b left came short
  rw [peek_bind, swap.first_after]
  exact behind lexical b left came short

theorem next (token : Token) (front : List Token) :
    Parse.next.Exchanges swap (token :: front) := by
  refine of_stays fun a left _ came => ?_
  have length := congrArg (List.length ∘ Prod.snd) came
  simp only [Function.comp_apply, Parse.next] at length
  split at length <;> simp [Swap.before] at length <;> omega

/-- A parse that takes at most one token, and one that the head is not like. -/
theorem of_single (takes : Token → Prop) (other : front = [] → ¬takes swap.head)
    (single : ∀ a left, parse (swap.before front) = (.ok a, left) →
      left = swap.before front ∨ ∃ token, swap.before front = token :: left ∧ takes token) :
    parse.Exchanges swap front := by
  refine of_stays fun a left _ came => ?_
  rcases single a left came with rfl | ⟨token, whole, here⟩
  · rw [swap.length_before]
    omega
  · cases front with
    | nil =>
      obtain ⟨rfl, -⟩ := List.cons.inj whole
      exact absurd here (other rfl)
    | cons token front =>
      obtain ⟨-, rfl⟩ := List.cons.inj whole
      simp
      omega

section
variable (fits : swap.Fits)
include fits

theorem expect {kind : TokenKind} (other : kind ∉ [.ident, .leftBrace]) (inner : kind ≠ .eof)
    (place : Place) : (Parse.expect kind place).Exchanges swap front := by
  refine of_single (·.kind = kind) (fun _ => fits.kind_ne other) fun token left came => .inr ?_
  exact ⟨token, expect_eq_ok inner came⟩

theorem accept {kind : TokenKind} (other : kind ∉ [.ident, .leftBrace]) (inner : kind ≠ .eof) :
    (Parse.accept kind).Exchanges swap front := by
  refine of_single (·.kind = kind) (fun _ => fits.kind_ne other) fun found left came => ?_
  exact (accept_eq_ok inner came).symm.imp (fun none => none.2.1.symm) And.right

theorem expecting {kind : TokenKind} {following : Token → Parse β}
    (other : kind ∉ [.ident, .leftBrace]) (inner : kind ≠ .eof) (place : Place)
    (back : ∀ token more, (following token).Exchanges swap more) :
    (Parse.expect kind place >>= following).Exchanges swap front :=
  behind (.expect inner place) (expect fits other inner place) back

theorem accepting {kind : TokenKind} {following : Bool → Parse β}
    (other : kind ∉ [.ident, .leftBrace]) (inner : kind ≠ .eof)
    (back : ∀ found more, (following found).Exchanges swap more) :
    (Parse.accept kind >>= following).Exchanges swap front :=
  behind (.acceptExact kind) (accept fits other inner) back

end

theorem acceptWord {word : String} (other : front = [] → swap.head.isWord word = false) :
    (Query.acceptWord word).Exchanges swap front := by
  refine of_single (·.isWord word = true) (fun none => by simp [other none]) ?_
  intro found left came
  exact (acceptWord_eq_ok came).symm.imp (fun none => none.2.1.symm) And.right

/-! ### Repetitions -/

theorem loop {round : α → Parse (Round α)} (advances : Advances round)
    (framed : ∀ a, (round a).Framed .exact) (each : ∀ a front, (round a).Exchanges swap front)
    (a : α) : (Parse.loop round a).Exchanges swap front := by
  -- By the number of tokens in front of the head.
  generalize length : front.length = count
  induction count using Nat.strongRecOn generalizing a front with
  | ind count inductionHypothesis =>
    intro lexical b left came short
    rw [loop_eq advances] at came ⊢
    refine behindOf (framed a) (each a front) (fun outcome more _ parsed => ?_) lexical b left
      came short
    cases outcome with
    | again c =>
      have shorter := advances.shortens parsed
      rw [swap.length_before, swap.length_before] at shorter
      exact inductionHypothesis more.length (by omega) c rfl
    | done c => exact value c

section
variable {item : Parse α} {closing : Option TokenKind}

theorem several (takes : item.Takes) (framed : item.Framed .exact) (fits : swap.Fits)
    (each : ∀ front, item.Exchanges swap front) :
    (Parse.several item closing).Exchanges swap front := by
  generalize length : front.length = count
  induction count using Nat.strongRecOn generalizing front with
  | ind count inductionHypothesis =>
    intro lexical as left came short
    rw [several_eq takes] at came ⊢
    -- An item, perhaps a comma, and then items from a place further behind.
    refine behindOf framed (each front) (fun a more _ parsed => ?_) lexical as left came short
    have shorter := takes parsed
    rw [swap.length_before, swap.length_before] at shorter
    refine behindOf (.acceptExact .comma) (accept fits (by decide) (by decide)) ?_
    intro comma others fewer _
    cases comma with
    | false => exact value [a]
    | true =>
      refine peek ?_
      split
      · exact value [a]
      · exact map (inductionHypothesis others.length (by omega) rfl)

theorem separated (takes : item.Takes) (framed : item.Framed .exact) (fits : swap.Fits)
    (each : ∀ front, item.Exchanges swap front) :
    (Parse.separated item closing).Exchanges swap front := by
  intro lexical as left came short
  rw [separated_eq_several takes (by simp [Swap.before])] at came
  rw [separated_eq_several takes (by simp [Swap.after])]
  exact several takes framed fits each lexical as left came short

end

end Parse.Exchanges

/-! ## Lists -/

/-- The second token may stand behind the first one in a list: behind a word there is no other
word and no parenthesis, and a brace is opened behind nothing. -/
def FollowsInList (s t : Token) : Prop :=
  t.kind ≠ .leftBrace ∧ (s.kind = .ident → t.kind ∉ [.ident, .leftParen])

theorem FollowsInList.of_kind {s t : Token} {kind : TokenKind} (here : t.kind = kind)
    (other : kind ∉ [.leftBrace, .ident, .leftParen]) : FollowsInList s t := by
  subst here
  simp only [List.mem_cons, List.not_mem_nil, or_false, not_or] at other
  exact ⟨other.1, fun _ => by simp [other]⟩

theorem Joined.isChain {good : List Token → α → Prop} {tokens : List Token} {as : List α}
    (joined : Joined good tokens as) (each : ∀ tokens a, good tokens a → ∀ token : Token,
      token.kind ≠ .ident → List.IsChain FollowsInList (token :: tokens))
    (token : Token) (noWord : token.kind ≠ .ident) :
    List.IsChain FollowsInList (token :: tokens) := by
  induction joined generalizing token with
  | nil => exact .singleton token
  | single first => exact each _ _ first token noWord
  | @more _ _ comma _ _ first separates _ inductionHypothesis =>
    refine List.isChain_append.2 ⟨each _ _ first token noWord, inductionHypothesis comma ?_, ?_⟩
    · simp [separates]
    · rintro last - _ ⟨⟩
      exact .of_kind separates (by decide)

/-- The tokens of a list in brackets follow each other as they may. -/
theorem isChain_of_joined {opening closing : Token} {good : List Token → α → Prop}
    {inside : List Token} {as : List α} (joined : Joined good inside as)
    (each : ∀ tokens a, good tokens a → ∀ token : Token, token.kind ≠ .ident →
      List.IsChain FollowsInList (token :: tokens))
    (opens : opening.kind ≠ .ident) (closes : closing.kind ∉ [.leftBrace, .ident, .leftParen]) :
    List.IsChain FollowsInList (opening :: (inside ++ [closing])) := by
  refine List.isChain_append.2 ⟨joined.isChain each opening opens, .singleton closing, ?_⟩
  rintro last - _ ⟨⟩
  exact .of_kind rfl closes

theorem IsLabelList.isChain {tokens : List Token} (list : IsLabelList tokens) :
    List.IsChain FollowsInList tokens := by
  obtain ⟨opening, inside, closing, rfl, opens, closes, labels, joined⟩ := list
  refine isChain_of_joined joined ?_ (by simp [opens]) (by simp [closes])
  rintro _ label ⟨word, rfl, ident, -⟩ token noWord
  simp [FollowsInList, ident, noWord]

theorem IsMatcherList.isChain {tokens : List Token} (list : IsMatcherList tokens) :
    List.IsChain FollowsInList tokens := by
  obtain ⟨opening, inside, closing, rfl, opens, closes, matchers, joined⟩ := list
  refine isChain_of_joined joined ?_ (by simp [opens]) (by simp [closes])
  rintro _ matcher ⟨label, operator, text, rfl, ⟨_, same, ident, -⟩, known, isText⟩ token noWord
  cases same
  have symbol : operator.kind ∉ [.leftBrace, .ident, .leftParen] := by
    simp only [List.mem_cons, List.not_mem_nil, or_false]
    rintro (kind | kind | kind) <;> simp [kind, matchKind?] at known
  simp only [List.isChain_cons_cons]
  refine ⟨⟨by simp [ident], fun word => absurd word noWord⟩, .of_kind rfl symbol, ?_, .singleton _⟩
  exact .of_kind isText (by decide)

section
variable {swap : Swap} (fits : swap.Fits) {front more left : List Token}
include fits

/-- In a list the head has no place behind another token. -/
theorem Swap.Fits.no_list {token next : Token}
    (chain : List.IsChain FollowsInList (token :: front ++ swap.head :: next :: more))
    (whole : swap.old = next :: more ++ left) : False := by
  obtain ⟨until_head, behind, -⟩ := List.isChain_append_cons_cons.1 chain
  obtain ⟨-, -, follows⟩ := List.isChain_append.1 until_head
  obtain ⟨noBrace, -⟩ := follows _ (List.getLast?_eq_some_getLast (by simp)) swap.head rfl
  have word : swap.head.kind = .ident := fits.kind.resolve_right noBrace
  have same : first swap.old = next := by simp [whole]
  exact behind.2 word (List.mem_pair.2 (same ▸ fits.behind word))

/-- A list in brackets is read in front of the head or behind it, unless it begins there. -/
theorem Parse.Exchanges.of_list {parse : Parse α} {opening closing : TokenKind}
    {inside : List Token → Prop}
    (consumes : ∀ tokens,
      parse.Consumes tokens fun taken _ => Enclosed opening closing inside taken)
    (chain : ∀ taken, Enclosed opening closing inside taken → List.IsChain FollowsInList taken)
    (begins : front = [] → opening ∉ [.ident, .leftBrace])
    (ends : closing ∉ [.ident, .leftBrace]) : parse.Exchanges swap front := by
  refine of_stays fun a left lexical came => Nat.lt_of_not_ge fun short => ?_
  obtain ⟨taken, whole, enclosed⟩ := consumes _ lexical a left came
  have chained := chain taken enclosed
  obtain ⟨opener, middle, closer, same, opens, closes, -⟩ := enclosed
  -- The list would have the head in it, neither as its first token nor as its last one.
  obtain ⟨more, rfl, behind⟩ : ∃ more, taken = front ++ swap.head :: more ∧
      swap.old = more ++ left := by
    rcases List.append_eq_append_iff.1 whole with ⟨past, rfl, behind⟩ | ⟨past, rfl, rfl⟩
    · cases past with
      | nil =>
        have lengths := congrArg List.length behind
        simp at lengths
        omega
      | cons token past =>
        obtain ⟨rfl, rest⟩ := List.cons.inj behind
        exact ⟨past, rfl, rest⟩
    · simp at short
      omega
  cases front with
  | nil =>
    obtain ⟨rfl, -⟩ := List.cons.inj same
    exact fits.kind_ne (begins rfl) opens
  | cons token front =>
    cases more with
    | nil =>
      rw [← List.cons_append] at same
      obtain ⟨-, rfl⟩ := List.append_singleton_inj.1 same
      exact fits.kind_ne ends closes
    | cons next more => exact fits.no_list chained behind

end

/-! ## Parts of expressions -/

section
variable {swap : Swap} (fits : swap.Fits) (front : List Token)
include fits

theorem exchanges_readLabels (place : Place) : (readLabels place).Exchanges swap front :=
  .of_list fits (fun _ => consumes_readLabels place) (fun _ => IsLabelList.isChain)
    (fun _ => by decide) (by decide)

theorem exchanges_readMatchers : readMatchers.Exchanges swap front := by
  cases front with
  | nil =>
    rcases fits.kind with ident | brace
    · intro _ matchers left came
      obtain ⟨token, middle, opened, -⟩ := bind_eq_ok.1 came
      obtain ⟨whole, opens⟩ := expect_eq_ok (by decide) opened
      obtain ⟨rfl, -⟩ := List.cons.inj whole
      cases ident.symm.trans opens
    · exact fun _ matchers left came _ => fits.matchers brace matchers left came
  | cons token front =>
    exact .of_list fits (fun _ => consumes_readMatchers) (fun _ => IsMatcherList.isChain)
      (fun none => by cases none) (by decide)

theorem exchanges_readSelector (name : Option String) :
    (readSelector name).Exchanges swap front := by
  have back : ∀ (matchers : List LabelMatcher) more, Parse.Exchanges (
      if name.isSome && matchers.any (·.label == seriesNameLabel) then Parse.fault .nameTwice
      else if name.isNone && matchers.all LabelMatcher.acceptsEmpty then
        Parse.fault .selectsEverything
      else pure (Expr.vector ⟨name, matchers, .none⟩)) swap more := by
    intro matchers more
    split
    · exact .fault _
    · split
      · exact .fault _
      · exact .value _
  refine .peek ?_
  split
  · exact .behind framed_readMatchers (exchanges_readMatchers fits front) back
  · exact .behind (.value []) (.value []) back

omit fits in
theorem exchanges_numberOf (token : Token) : (numberOf token).Exchanges swap front := by
  unfold numberOf
  split
  · exact .value _
  · exact .fault _

theorem exchanges_readDurationToken (place : Place) :
    (readDurationToken place).Exchanges swap front :=
  .expecting fits (by decide) (by decide) place fun _ _ => .lift _

theorem exchanges_readRange (expr : Expr) : (readRange expr).Exchanges swap front := by
  refine .behind (framed_readDurationToken _) (exchanges_readDurationToken fits front _) ?_
  refine fun range front => .accepting fits (by decide) (by decide) ?_
  intro closed front
  cases closed with
  | true => exact .lift _
  | false =>
    refine .expecting fits (by decide) (by decide) _ ?_
    refine fun _ front => .peek ?_
    have back : ∀ (step : Option Duration) front,
        (Parse.expect .rightBracket .subqueryEnd >>= fun _ =>
          Parse.lift (applySubquery expr range step)).Exchanges swap front := fun step front =>
      .expecting fits (by decide) (by decide) _ fun _ _ => .lift _
    split
    · exact .behind (.map some (framed_readDurationToken _))
        (.map (exchanges_readDurationToken fits front _)) back
    · exact .behind (.value none) (.value none) back

theorem exchanges_readOffset : readOffset.Exchanges swap front :=
  .accepting fits (by decide) (by decide) fun _ front =>
    .behind (framed_readDurationToken _) (exchanges_readDurationToken fits front _) fun _ _ =>
      .value _

theorem exchanges_readRangeBound (bound : Instant) (token : Token) :
    (readRangeBound bound).Exchanges swap (token :: front) :=
  .behind .next (.next token front) fun _ _ =>
    .expecting fits (by decide) (by decide) _ fun _ _ =>
      .expecting fits (by decide) (by decide) _ fun _ _ => .value _

theorem exchanges_readSign : readSign.Exchanges swap front := by
  refine .accepting fits (by decide) (by decide) fun negative front => ?_
  cases negative with
  | true => exact .value true
  | false =>
    exact .accepting fits (by decide) (by decide) fun _ _ => .value _

theorem exchanges_readInstant : readInstant.Exchanges swap front := by
  have timestamp : ∀ front, Parse.Exchanges (readSign >>= fun negative =>
      Parse.expect .number .instantTimestamp >>= fun token => numberOf token >>= fun number =>
        if number.isFinite then pure (Instant.timestamp (if negative then number.neg else number))
        else Parse.fault .timestampOutOfBounds) swap front := by
    refine fun front => .behind framed_readSign (exchanges_readSign fits front) ?_
    intro negative front
    refine .expecting fits (by decide) (by decide) _ ?_
    refine fun token front => .behind (framed_numberOf token) (exchanges_numberOf front token) ?_
    intro number front
    split
    · exact .value _
    · exact .fault _
  refine .peek ?_
  cases front with
  | nil =>
    have noStart : swap.head.isWord "start" = false := fits.noClause _ (by simp)
    have noEnd : swap.head.isWord "end" = false := fits.noClause _ (by simp)
    rw [show first (swap.before []) = swap.head from rfl, noStart, noEnd]
    exact timestamp []
  | cons token front =>
    split
    · exact exchanges_readRangeBound fits front .rangeStart token
    · split
      · exact exchanges_readRangeBound fits front .rangeEnd token
      · exact timestamp (token :: front)

theorem exchanges_readPostfix (expr : Expr) : (readPostfix expr).Exchanges swap front := by
  refine .accepting fits (by decide) (by decide) fun bracket front => ?_
  cases bracket with
  | true => exact .map (exchanges_readRange fits front expr)
  | false =>
    have noOffset : swap.head.isWord "offset" = false := fits.noClause _ (by simp)
    refine .behind (.acceptWord "offset") (.acceptWord fun _ => noOffset) fun word front => ?_
    cases word with
    | true =>
      exact .behind framed_readOffset (exchanges_readOffset fits front) fun _ _ => .map (.lift _)
    | false =>
      refine .accepting fits (by decide) (by decide) fun symbol front => ?_
      cases symbol with
      | true =>
        exact .behind framed_readInstant (exchanges_readInstant fits front) fun _ _ =>
          .map (.lift _)
      | false => exact .value _

/-! ## Groupings and clauses of operators -/

/-- Labels are read with the word in front of them. -/
theorem exchanges_labelled {f : List String → α} {other : Parse α} (name : String) (place : Place)
    (hasLabels : swap.head.isWord name = true → swap.head.hasLabels = true)
    (otherwise : ∀ front, other.Exchanges swap front) :
    (acceptWord name >>= fun found => if found then f <$> readLabels place
      else other).Exchanges swap front := by
  -- The head is the word itself, and its labels are swapped; or the head stands behind the word.
  by_cases begins : front = [] ∧ swap.head.isWord name = true
  · obtain ⟨rfl, isWord⟩ := begins
    intro _ a left came _
    have taken : ∀ rest, acceptWord name (swap.head :: rest) = (.ok true, rest) :=
      acceptWord_cons isWord
    obtain ⟨-, -, same⟩ := fits.labels (hasLabels isWord)
    refine (bind_of_ok (taken swap.new)).trans ?_
    rw [Swap.before, List.nil_append, bind_of_ok (taken swap.old)] at came
    obtain ⟨labels, read, rfl⟩ := map_eq_ok.1 came
    exact map_of_ok (same place labels left read)
  · refine .behind (.acceptWord name) (.acceptWord fun none => ?_) fun found front => ?_
    · exact Bool.eq_false_iff.2 fun isWord => begins ⟨none, isWord⟩
    · cases found with
      | true => exact .map (exchanges_readLabels fits front place)
      | false => exact otherwise front

theorem exchanges_readGrouping : readGrouping.Exchanges swap front := by
  refine exchanges_labelled fits front "by" .grouping (fun isWord => ?_) fun front => ?_
  · simp [Token.hasLabels, Token.beginsGrouping, isWord]
  refine exchanges_labelled fits front "without" .grouping (fun isWord => ?_) fun front => ?_
  · simp [Token.hasLabels, Token.beginsGrouping, isWord]
  · exact .value none

theorem exchanges_readSecondGrouping (before : Option Grouping) :
    (readSecondGrouping before).Exchanges swap front := by
  cases before with
  | none => exact exchanges_readGrouping fits front
  | some grouping =>
    refine .peek ?_
    split
    · exact .fault _
    · exact .value _

theorem exchanges_readBool (op : BinaryOp) : (readBool op).Exchanges swap front := by
  refine .peek ?_
  cases front with
  | nil =>
    rw [show first (swap.before []) = swap.head from rfl, fits.noClause "bool" (by simp)]
    exact .value false
  | cons token front =>
    split
    · split
      · exact .behind .next (.next token front) fun _ _ => .value true
      · exact .fault _
    · exact .value false

theorem exchanges_readTakenLabels : readTakenLabels.Exchanges swap front := by
  refine .peek ?_
  split
  · exact exchanges_readLabels fits front .groupModifier
  · exact .value []

theorem exchanges_readGroupModifier (op : BinaryOp) :
    (readGroupModifier op).Exchanges swap front := by
  refine .peek ?_
  split
  · rename_i isGroup
    split
    · exact .fault _
    · cases front with
      | nil =>
        -- The head is the word, so there are labels behind it, the old ones or the new ones.
        have word : swap.head.kind = .ident :=
          (Bool.or_eq_true_iff.1 isGroup).elim kind_of_isWord kind_of_isWord
        have taken : ∀ rest, Parse.next (swap.head :: rest) = (.ok swap.head, rest) :=
          next_cons (by simp [word])
        have hasLabels : swap.head.hasLabels = true := by
          rw [Token.hasLabels, show swap.head.isGroupModifier = true from isGroup, Bool.or_true]
        obtain ⟨opens, opensToo, same⟩ := fits.labels hasLabels
        intro _ group left came _
        refine (bind_of_ok (taken swap.new)).trans ?_
        rw [Swap.before, List.nil_append, bind_of_ok (taken swap.old)] at came
        obtain ⟨labels, middle, read, came⟩ := bind_eq_ok.1 came
        rw [readTakenLabels, peek_bind, if_pos opens] at read
        refine (bind_of_ok ?_).trans came
        rw [readTakenLabels, peek_bind, if_pos opensToo]
        exact same _ labels middle read
      | cons token front =>
        exact .behind .next (.next token front) fun _ front =>
          .behind framed_readTakenLabels (exchanges_readTakenLabels fits front) fun _ _ => .value _
  · exact .value none

theorem exchanges_readMatchingLabels : readMatchingLabels.Exchanges swap front := by
  refine exchanges_labelled fits front "on" .onLabels (fun isWord => ?_) fun front => ?_
  · simp [Token.hasLabels, Token.isMatching, isWord]
  refine exchanges_labelled fits front "ignoring" .ignoringLabels (fun isWord => ?_) fun front => ?_
  · simp [Token.hasLabels, Token.isMatching, isWord]
  · exact .value none

theorem exchanges_readClause (op : BinaryOp) : (readClause op).Exchanges swap front := by
  refine .behind (framed_readBool op) (exchanges_readBool fits front op) fun _ front => ?_
  refine .behind (framed_readMatching op) ?_ fun _ _ => .value _
  refine .behind framed_readMatchingLabels (exchanges_readMatchingLabels fits front) ?_
  intro labels front
  cases labels with
  | none => exact .value none
  | some labels =>
    exact .behind (framed_readGroupModifier op) (exchanges_readGroupModifier fits front op)
      fun _ _ => .value _

end

/-! ## Expressions -/

section
variable {swap : Swap} (fits : swap.Fits) {levels : Nat}
  (within : ∀ least front, (readLevels levels least).Exchanges swap front)
include fits within

theorem exchanges_readCall (name : String) (front : List Token) :
    (readCall (readLevels levels) name).Exchanges swap front := by
  unfold readCall
  split
  · exact .fault _
  · rename_i entry known
    have back : ∀ (arguments : List Expr) front,
        (Parse.expect .rightParen .callArguments >>= fun _ =>
          if entry.accepts arguments.length then pure (Expr.call name arguments)
          else Parse.fault (.wrongArgumentCount entry.name arguments.length)).Exchanges
            swap front := by
      refine fun arguments front => .expecting fits (by decide) (by decide) _ fun _ front => ?_
      split
      · exact .value _
      · exact .fault _
    refine .expecting fits (by decide) (by decide) _ ?_
    refine fun _ front => .peek ?_
    split
    · exact .behind (.value []) (.value []) back
    · have framed := framed_readLevels .exact levels 0
      exact .behind (.separated framed (takes_readLevels levels 0))
        (.separated (takes_readLevels levels 0) framed fits (within 0)) back

theorem exchanges_readArguments (op : AggregateOp) (front : List Token) :
    (readArguments (readLevels levels) op).Exchanges swap front := by
  have framed := framed_readLevels .exact levels 0
  refine .peek ?_
  split
  · exact .fault _
  · refine .behind (framed_readAggregated framed op) ?_ fun aggregated front => ?_
    · refine .behind framed (within 0 front) fun first front => ?_
      split
      · refine .expecting fits (by decide) (by decide) _ ?_
        exact fun _ front => .behind framed (within 0 front) fun _ _ => .value _
      · exact .value _
    · refine .accepting fits (by decide) (by decide) fun _ front => ?_
      exact .expecting fits (by decide) (by decide) _ fun _ _ =>
        .value _

theorem exchanges_readAggregate (op : AggregateOp) (front : List Token) :
    (readAggregate (readLevels levels) op).Exchanges swap front := by
  have framed := framed_readLevels .exact levels 0
  rw [readAggregate_eq]
  refine .behind framed_readGrouping (exchanges_readGrouping fits front) fun before front => ?_
  refine .expecting fits (by decide) (by decide) _ ?_
  refine fun _ front => .behind (framed_readArguments framed op)
    (exchanges_readArguments fits within op front) fun aggregated front => ?_
  exact .behind (framed_readSecondGrouping before)
    (exchanges_readSecondGrouping fits front before) fun _ _ => .value _

theorem exchanges_readBehindWord (following word : Token) (front : List Token) :
    (readBehindWord (readLevels levels) following word).Exchanges swap front := by
  unfold readBehindWord
  split
  · exact .value _
  · split
    · exact exchanges_readAggregate fits within _ front
    · split
      · exact exchanges_readCall fits within _ front
      · exact exchanges_readSelector fits front _

/-- A word in front of the head, or the head itself, with what is read behind it. -/
theorem exchanges_readWordExpr (front : List Token)
    (word : (first (swap.before front)).kind = .ident) :
    (readWordExpr (readLevels levels)).Exchanges swap front := by
  intro lexical expr left came short
  -- The token behind the word is looked at, too: it is new only if the word is the head.
  rw [readWordExpr_eq, peekSecond_bind] at came ⊢
  cases front with
  | nil =>
    have inner : swap.head.kind ≠ .eof := by simp [show swap.head.kind = .ident from word]
    refine (bind_of_ok (next_cons inner swap.new)).trans ?_
    have read := (bind_of_ok (next_cons inner swap.old)).symm.trans came
    exact fits.word word levels expr left read
  | cons token front =>
    have inner : token.kind ≠ .eof := by simp [show token.kind = .ident from word]
    refine (bind_of_ok (next_cons inner (swap.after front))).trans ?_
    have read := (bind_of_ok (next_cons inner (swap.before front))).symm.trans came
    change readBehindWord _ (first (swap.after front)) token (swap.after front) = _
    rw [swap.first_after]
    exact exchanges_readBehindWord fits within (first (swap.before front)) token front
      lexical.behind expr left read short

theorem exchanges_readPrimary (front : List Token) :
    (readPrimary (readLevels levels)).Exchanges swap front := by
  refine .peek ?_
  cases front with
  | nil =>
    rcases fits.kind with ident | brace
    · rw [show (first (swap.before [])).kind = .ident from ident]
      exact exchanges_readWordExpr fits within [] ident
    · rw [show (first (swap.before [])).kind = .leftBrace from brace]
      exact exchanges_readSelector fits [] none
  | cons token front =>
    have framed := framed_readLevels .exact levels 0
    split
    · exact .behind .next (.next token front) fun token front =>
        .map (exchanges_numberOf front token)
    · exact .behind .next (.next token front) fun _ _ => .value _
    · exact .behind .next (.next token front) fun _ front =>
        .behind framed (within 0 front) fun _ _ =>
          .expecting fits (by decide) (by decide) _ fun _ _ =>
            .value _
    · exact exchanges_readSelector fits _ none
    · rename_i word
      exact exchanges_readWordExpr fits within _ word
    · exact .unexpected _

theorem exchanges_readUnary (front : List Token) :
    (readUnary (readLevels levels)).Exchanges swap front := by
  have framed := fun least => framed_readLevels .exact levels least
  have operand : ∀ front, Parse.Exchanges (readPrimary (readLevels levels) >>= readPostfixes)
      swap front := fun front =>
    .behind (framed_readPrimary framed (takes_readLevels levels)
      (Relation.readLevels levels)) (exchanges_readPrimary fits within front) fun primary front =>
        .loop advances_readPostfix framed_readPostfix
          (fun expr front => exchanges_readPostfix fits front expr) primary
  refine .peek ?_
  cases front with
  | nil =>
    have noSign : unaryOp? swap.head.kind = none := by
      rcases fits.kind with kind | kind <;> rw [kind] <;> rfl
    rw [show first (swap.before []) = swap.head from rfl, noSign]
    exact operand []
  | cons token front =>
    split
    · exact .behind .next (.next token front) fun _ front => .map (within signPrecedence front)
    · exact operand _

theorem exchanges_readOperation (least : Nat) (left : Expr) (front : List Token) :
    (readOperation (readLevels levels) least left).Exchanges swap front := by
  refine .peek ?_
  cases front with
  | nil =>
    -- No operation begins with the head, so the operands end in front of it.
    rw [show first (swap.before []) = swap.head from rfl, fits.noOperator]
    exact .value _
  | cons token front =>
    split
    · exact .value _
    · exact .behind .next (.next token front) fun _ front =>
        .behind (framed_readClause _) (exchanges_readClause fits front _) fun clause front =>
          .behind (framed_readLevels .exact levels _) (within _ front) fun _ _ => .value _

end

/-- A swap around which everything fits changes no expression that goes on behind it. -/
theorem exchanges_readLevels {swap : Swap} (fits : swap.Fits) (levels least : Nat)
    (front : List Token) : (readLevels levels least).Exchanges swap front := by
  induction levels generalizing least front with
  | zero => exact .fault _
  | succ levels inductionHypothesis =>
    have framed := fun least => framed_readLevels .exact levels least
    exact .behind (framed_readUnary framed (takes_readLevels levels)
      (Relation.readLevels levels)) (exchanges_readUnary fits inductionHypothesis front)
      fun left front => .loop (advances_readOperation (Relation.readLevels levels))
        (framed_readOperation framed least)
        (fun expr front => exchanges_readOperation fits inductionHypothesis least expr front) left

/-! ## Texts -/

/-- Of the tokens only the last one stands for the end. -/
def EndsOnce (tokens : List Token) : Prop :=
  ∃ inner, tokens.map Token.kind = inner ++ [.eof] ∧ .eof ∉ inner

theorem EndsOnce.of_map {tokens others : List Token} (ends : EndsOnce tokens)
    (same : others.map Token.kind = tokens.map Token.kind) : EndsOnce others := by
  rwa [EndsOnce, same]

theorem endsOnce_of_tokenize {input : String} {tokens : List Token}
    (lexed : tokenize input = .ok tokens) : EndsOnce tokens := by
  obtain ⟨inner, ending, rfl, eof, noEnd⟩ := ends_of_tokenize lexed
  refine ⟨inner.map Token.kind, by simp [eof], fun member => ?_⟩
  obtain ⟨token, among, kind⟩ := List.mem_map.1 member
  exact noEnd token among kind

/-- In front of the head there is no end. -/
theorem Swap.Fits.noEnd {swap : Swap} (fits : swap.Fits) {front : List Token}
    (ends : EndsOnce (swap.before front)) : (first (swap.before front)).isEof = false := by
  cases front with
  | nil =>
    have inner : swap.head.kind ≠ .eof := fits.kind_ne (by decide)
    simpa [Token.isEof, Swap.before] using inner
  | cons token front =>
    obtain ⟨inner, kinds, noEnd⟩ := ends
    obtain ⟨others, final, same⟩ :=
      (List.eq_nil_or_concat' (front ++ swap.head :: swap.old)).resolve_left (by simp)
    rw [Swap.before, List.cons_append, same, ← List.cons_append, List.map_append] at kinds
    obtain ⟨rfl, -⟩ := List.append_singleton_inj.1 kinds
    have differs : .eof ≠ token.kind := fun eof => noEnd (by simp [eof])
    simpa [Token.isEof, Swap.before] using differs.symm

theorem EndsOnce.of_append {taken tokens : List Token} (ends : EndsOnce (taken ++ tokens))
    (nonempty : tokens ≠ []) : EndsOnce tokens := by
  obtain ⟨inner, kinds, noEnd⟩ := ends
  obtain ⟨others, final, rfl⟩ := (List.eq_nil_or_concat' tokens).resolve_left nonempty
  rw [← List.append_assoc, List.map_append] at kinds
  obtain ⟨rfl, last⟩ := List.append_singleton_inj.1 kinds
  refine ⟨others.map Token.kind, by simp [last], fun member => noEnd ?_⟩
  simp only [List.map_append, List.mem_append]
  exact .inr member

/-- A text in which tokens are swapped is read as the same tree. -/
theorem readWhole_of_swap {swap : Swap} (fits : swap.Fits) {front : List Token} {tree : Expr}
    (lexical : Lexical (swap.before front)) (ends : EndsOnce (swap.before front))
    (came : (readWhole (swap.before front)).1 = .ok tree) :
    (readWhole (swap.after front)).1 = .ok tree := by
  obtain ⟨left, read, finished⟩ := readWhole_eq_ok came
  -- The end was reached, so the head was passed.
  have passed : left.length ≤ swap.old.length := by
    by_contra long
    have suffix := (framed_readLevels .exact maxLevels 0).leaves read
    obtain ⟨taken, more, rfl, rfl⟩ := Swap.exists_of_suffix suffix (Nat.lt_of_not_ge long)
    rw [Swap.before, List.append_assoc] at ends
    have noEnd := fits.noEnd (ends.of_append (by simp) : EndsOnce (swap.before more))
    rw [noEnd] at finished
    cases finished
  have moved := exchanges_readLevels fits maxLevels 0 front lexical tree left read passed
  have begins : ¬(first (swap.before front)).isEof = true := by simp [fits.noEnd ends]
  rw [readWhole, peek_bind, swap.first_after, if_neg begins, readExpr, bind_of_ok moved, peek_bind,
    if_pos finished]
  rfl

end RuleAtlas.Query
