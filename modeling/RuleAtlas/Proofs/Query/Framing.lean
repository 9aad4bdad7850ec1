import RuleAtlas.Proofs.Query.Indexed.Calls

/-! # What a parse looks at

A parse that comes to a value has looked at the tokens that it took and at one more.  Whatever
stands behind that one may be anything else; and for an expression that one may be exchanged
too, a comma for a closing parenthesis, since neither goes on an expression.  There is one rule
for each way to put parses together, and one lemma for each part of the grammar. -/

namespace RuleAtlas.Query

open Parse

variable {α β : Type} {tokens rest other : List Token}

/-! ## The token behind -/

/-- The token ends an expression between parentheses. -/
def Token.IsCloser (token : Token) : Prop := token.kind = .rightParen ∨ token.kind = .comma

/-- Which tokens may stand for each other behind what was taken: none but the same, or also some
that end an expression. -/
structure Lookahead where
  alike : Token → Token → Prop
  refl : ∀ token, alike token token
  closers : ∀ {s t}, alike s t → s = t ∨ (s.IsCloser ∧ t.IsCloser)

def Lookahead.exact : Lookahead := ⟨Eq, fun _ => rfl, .inl⟩

def Lookahead.closing : Lookahead where
  alike s t := s = t ∨ (s.IsCloser ∧ t.IsCloser)
  refl _ := .inl rfl
  closers alike := alike

theorem beginsGrouping_of_kind_ne {token : Token} (other : token.kind ≠ .ident) :
    token.beginsGrouping = false := by
  rw [Token.beginsGrouping, isWord_of_kind_ne other, isWord_of_kind_ne other]
  rfl

namespace Token.IsCloser

variable {token : Token} (closer : token.IsCloser)
include closer

theorem kind_ne {kind : TokenKind} (other : kind ∉ [.rightParen, .comma]) : token.kind ≠ kind := by
  rintro rfl
  rcases closer with closes | closes <;> simp [closes] at other

theorem isWord (word : String) : token.isWord word = false :=
  isWord_of_kind_ne (closer.kind_ne (by decide)) word

theorem beginsGrouping : token.beginsGrouping = false :=
  beginsGrouping_of_kind_ne (closer.kind_ne (by decide))

theorem binaryOp : binaryOp? token = none := by
  rcases closer with closes | closes <;> simp [binaryOp?, closes]

theorem unaryOp : unaryOp? token.kind = none := by
  rcases closer with closes | closes <;> simp [unaryOp?, closes]

theorem matchKind : matchKind? token.kind = none := by
  rcases closer with closes | closes <;> simp [matchKind?, closes]

end Token.IsCloser

/-! ## Rules -/

/-- What the parse leaves is an end of what there was. -/
def Parse.LeavesEnd (parse : Parse α) : Prop :=
  ∀ ⦃tokens a rest⦄, parse tokens = (.ok a, rest) → rest <:+ tokens

/-- The parse takes at least one token if it comes to a value. -/
def Parse.Takes (parse : Parse α) : Prop :=
  ∀ ⦃tokens a rest⦄, parse tokens = (.ok a, rest) → rest.length < tokens.length

/-- Whatever the parse takes in front of a token, it takes in front of every token like it. -/
structure Parse.Framed (lookahead : Lookahead) (parse : Parse α) : Prop where
  leaves : parse.LeavesEnd
  framed : ∀ {taken rest other s t a}, parse (taken ++ s :: rest) = (.ok a, s :: rest) →
    lookahead.alike s t → parse (taken ++ t :: other) = (.ok a, t :: other)

theorem nil_of_append_eq {taken : List Token} (same : taken ++ rest = rest) : taken = [] := by
  have length := congrArg List.length same
  rw [List.length_append] at length
  exact List.eq_nil_of_length_eq_zero (by omega)

/-! ## Items -/

namespace Parse

section
variable {item : Parse α} {closing : Option TokenKind}

/-- What follows an item and perhaps a comma: other items, or none. -/
def itemsBehind (others : Parse (List α)) (closing : Option TokenKind) (a : α) (comma : Bool) :
    Parse (List α) :=
  if comma then peek >>= fun token =>
    if some token.kind = closing then pure [a] else (a :: ·) <$> others
  else pure [a]

theorem items_succ (item : Parse α) (closing : Option TokenKind) (count : Nat) :
    items item closing (count + 1) = item >>= fun a =>
      accept .comma >>= itemsBehind (items item closing count) closing a := rfl

theorem itemsBehind_congr {others more : Parse (List α)} {a : α} {comma : Bool}
    {tokens : List Token} (same : comma = true → others tokens = more tokens) :
    itemsBehind others closing a comma tokens = itemsBehind more closing a comma tokens := by
  cases comma with
  | true =>
    rw [itemsBehind, itemsBehind, if_pos rfl, if_pos rfl, peek_bind, peek_bind]
    split
    · rfl
    · rw [map_apply, map_apply, same rfl]
  | false => rfl

/-- Where there is one item for every token, the number of items does not matter. -/
theorem items_eq_items (takes : item.Takes) {count other : Nat} {tokens : List Token}
    (enough : tokens.length ≤ count + 1) (otherEnough : tokens.length ≤ other + 1) :
    items item closing (count + 1) tokens = items item closing (other + 1) tokens := by
  -- By the number of items: each takes a token, so behind a comma there are again enough.
  induction count using Nat.strongRecOn generalizing other tokens with
  | ind count inductionHypothesis =>
    rw [items_succ, items_succ]
    refine bind_congr fun a middle parsed => bind_congr fun comma behind accepted => ?_
    refine itemsBehind_congr fun found => ?_
    have shorter := takes parsed
    rcases accept_eq_ok (by decide) accepted with ⟨-, token, rfl, -⟩ | ⟨none, -, -⟩
    · rw [List.length_cons] at shorter
      obtain ⟨fewer, rfl⟩ : ∃ fewer, count = fewer + 1 := ⟨count - 1, by omega⟩
      obtain ⟨others, rfl⟩ : ∃ others, other = others + 1 := ⟨other - 1, by omega⟩
      exact inductionHypothesis fewer (Nat.lt_succ_self _) (by omega) (by omega)
    · simp [none] at found

/-- Items with commas between them, as many as there are. -/
def several (item : Parse α) (closing : Option TokenKind) : Parse (List α) := fun tokens =>
  items item closing (tokens.length + 1) tokens

theorem several_eq (takes : item.Takes) (tokens : List Token) : several item closing tokens =
    (item >>= fun a => accept .comma >>= itemsBehind (several item closing) closing a) tokens := by
  rw [several, items_succ]
  refine bind_congr fun a middle parsed => bind_congr fun comma behind accepted => ?_
  refine itemsBehind_congr fun found => ?_
  have shorter := takes parsed
  rcases accept_eq_ok (by decide) accepted with ⟨-, token, rfl, -⟩ | ⟨none, -, -⟩
  · rw [List.length_cons] at shorter
    obtain ⟨fewer, length⟩ : ∃ fewer, tokens.length = fewer + 1 := ⟨tokens.length - 1, by omega⟩
    rw [several, length]
    exact items_eq_items takes (by omega) (by omega)
  · simp [none] at found

theorem separated_eq_several (takes : item.Takes) {tokens : List Token} (nonempty : tokens ≠ []) :
    separated item closing tokens = several item closing tokens := by
  obtain ⟨fewer, length⟩ : ∃ fewer, tokens.length = fewer + 1 :=
    Nat.exists_eq_succ_of_ne_zero (by simpa using nonempty)
  rw [separated, several, length]
  exact items_eq_items takes (by omega) (by omega)

end

end Parse

namespace Parse.Framed

variable {lookahead : Lookahead} {parse : Parse α} {following : α → Parse β}

/-- Nothing was taken. -/
theorem nothingTaken (framed : parse.Framed lookahead) {s t : Token} {a : α}
    (came : parse (s :: rest) = (.ok a, s :: rest)) (alike : lookahead.alike s t) :
    parse (t :: other) = (.ok a, t :: other) := by
  rw [← List.nil_append (s :: rest)] at came
  exact framed.framed came alike

/-- One token and perhaps others were taken. -/
theorem somethingTaken (framed : parse.Framed lookahead) {token s t : Token}
    {taken : List Token} {a : α}
    (came : parse (token :: (taken ++ s :: rest)) = (.ok a, s :: rest))
    (alike : lookahead.alike s t) :
    parse (token :: (taken ++ t :: other)) = (.ok a, t :: other) := by
  rw [← List.cons_append] at came ⊢
  exact framed.framed came alike

theorem exact (framed : parse.Framed lookahead) : parse.Framed .exact where
  leaves := framed.leaves
  framed came same := by
    cases same
    exact framed.framed came (lookahead.refl _)

/-- More of what is left may be kept behind what was taken. -/
theorem front (framed : parse.Framed lookahead) {taken more : List Token} {s t : Token} {a : α}
    (came : parse (taken ++ (more ++ s :: rest)) = (.ok a, more ++ s :: rest))
    (alike : lookahead.alike s t) :
    parse (taken ++ (more ++ t :: other)) = (.ok a, more ++ t :: other) := by
  cases more with
  | nil => exact framed.framed came alike
  | cons next more => exact framed.framed came (lookahead.refl next)

theorem leaves_value (a : α) : (pure a : Parse α).LeavesEnd := by
  intro tokens b rest came
  cases came
  exact List.suffix_refl _

theorem value (a : α) : (pure a : Parse α).Framed lookahead where
  leaves := leaves_value a
  framed came alike := by
    obtain ⟨same, whole⟩ := Prod.mk.inj came
    cases same
    rw [nil_of_append_eq whole]
    rfl

theorem fault (cause : SyntaxFault) : (Parse.fault cause : Parse α).Framed lookahead where
  leaves _ _ _ came := by cases came
  framed came := by cases came

theorem unexpected (place : Place) : (Parse.unexpected place : Parse α).Framed lookahead where
  leaves _ _ _ came := by cases came
  framed came := by cases came

theorem lift (result : Except SyntaxFault α) : (Parse.lift result).Framed lookahead := by
  cases result with
  | ok a => exact value a
  | error cause => exact fault cause

theorem leaves_bind (front : parse.LeavesEnd) (back : ∀ a, (following a).LeavesEnd) :
    (parse >>= following).LeavesEnd := by
  intro tokens b rest came
  obtain ⟨a, middle, first, second⟩ := bind_eq_ok.1 came
  exact (back a second).trans (front first)

/-- What two parses take is what the first one takes and then what the second one takes. -/
theorem split (front : parse.LeavesEnd) (back : ∀ a, (following a).LeavesEnd)
    {taken : List Token} {s : Token} {b : β}
    (came : (parse >>= following) (taken ++ s :: rest) = (.ok b, s :: rest)) :
    ∃ a first second, taken = first ++ second ∧
      parse (first ++ (second ++ s :: rest)) = (.ok a, second ++ s :: rest) ∧
      following a (second ++ s :: rest) = (.ok b, s :: rest) := by
  obtain ⟨a, middle, parsed, followed⟩ := bind_eq_ok.1 came
  obtain ⟨second, rfl⟩ := back a followed
  obtain ⟨first, whole⟩ := front parsed
  rw [← List.append_assoc] at whole
  obtain rfl := List.append_cancel_right whole
  rw [List.append_assoc] at parsed
  exact ⟨a, first, second, rfl, parsed, followed⟩

theorem takes_front (front : parse.Takes) (back : ∀ a, (following a).LeavesEnd) :
    (parse >>= following).Takes := by
  intro tokens b rest came
  obtain ⟨a, middle, first, second⟩ := bind_eq_ok.1 came
  exact Nat.lt_of_le_of_lt (back a second).length_le (front first)

theorem takes_back (front : parse.LeavesEnd) (back : ∀ a, (following a).Takes) :
    (parse >>= following).Takes := by
  intro tokens b rest came
  obtain ⟨a, middle, first, second⟩ := bind_eq_ok.1 came
  exact Nat.lt_of_lt_of_le (back a second) (front first).length_le

theorem behind (front : parse.Framed lookahead) (back : ∀ a, (following a).Framed lookahead) :
    (parse >>= following).Framed lookahead where
  leaves := leaves_bind front.leaves fun a => (back a).leaves
  framed came alike := by
    obtain ⟨a, first, second, rfl, parsed, followed⟩ :=
      split front.leaves (fun a => (back a).leaves) came
    rw [List.append_assoc, bind_of_ok (front.front parsed alike)]
    exact (back a).framed followed alike

/-- In front of a parse that takes a token only that token is looked at. -/
theorem behindExact (front : parse.Framed .exact) (back : ∀ a, (following a).Framed lookahead)
    (takes : ∀ a, (following a).Takes) : (parse >>= following).Framed lookahead where
  leaves := leaves_bind front.leaves fun a => (back a).leaves
  framed came alike := by
    obtain ⟨a, first, second, rfl, parsed, followed⟩ :=
      split front.leaves (fun a => (back a).leaves) came
    cases second with
    | nil => exact absurd (takes a followed) (Nat.lt_irrefl _)
    | cons next second =>
      rw [List.append_assoc]
      refine (bind_of_ok (front.framed parsed rfl)).trans ?_
      exact (back a).framed followed alike

theorem map (f : α → β) (front : parse.Framed lookahead) : (f <$> parse).Framed lookahead :=
  behind front fun a => value (f a)

/-! ### Single tokens -/

section
variable {following : Token → Parse β}

/-- What goes on from the first token may look at it if it cannot tell like tokens apart. -/
theorem peekAlike (behind : ∀ token, (following token).Framed lookahead)
    (same : ∀ {s t}, lookahead.alike s t → following s = following t) :
    (Parse.peek >>= following).Framed lookahead where
  leaves _ _ _ came := (behind _).leaves came
  framed {taken rest other s t a} came alike := by
    rw [peek_bind] at came ⊢
    cases taken with
    | nil =>
      -- The token that is looked at is the one that is exchanged.
      have moved : following s (t :: other) = (.ok a, t :: other) :=
        (behind s).nothingTaken came alike
      rwa [same alike] at moved
    | cons token taken => exact (behind token).framed came alike

theorem peek (behind : ∀ token, (following token).Framed lookahead)
    (same : ∀ {s t}, s.IsCloser → t.IsCloser → following s = following t) :
    (Parse.peek >>= following).Framed lookahead := by
  refine peekAlike behind fun alike => ?_
  rcases lookahead.closers alike with rfl | ⟨closer, otherCloser⟩
  · rfl
  · exact same closer otherCloser

/-- What takes the first token may look at it. -/
theorem peekTaking (behind : ∀ token, (following token).Framed lookahead)
    (takes : ∀ token, (following token).Takes) : (Parse.peek >>= following).Framed lookahead where
  leaves _ _ _ came := (behind _).leaves came
  framed {taken rest other s t a} came alike := by
    rw [peek_bind] at came ⊢
    cases taken with
    | nil => exact absurd (takes _ came) (Nat.lt_irrefl _)
    | cons token taken => exact (behind token).framed came alike

end

theorem next : Parse.next.Framed lookahead where
  leaves tokens a rest came := by
    cases came
    split
    · exact List.suffix_refl _
    · exact List.drop_suffix 1 _
  framed {taken rest other s t a} came alike := by
    cases taken with
    | nil =>
      -- Only the end is taken and left, and no other token is like it.
      by_cases eof : s.kind = .eof
      · rcases lookahead.closers alike with rfl | ⟨closer, -⟩
        · simp_all [Parse.next, Token.isEof]
        · exact absurd eof (closer.kind_ne (by decide))
      · simp [next_cons eof] at came
    | cons token taken =>
      by_cases eof : token.kind = .eof
      · have length := congrArg (List.length ∘ Prod.snd) came
        simp [Parse.next, Token.isEof, eof] at length
        omega
      · rw [List.cons_append, next_cons eof] at came ⊢
        obtain ⟨same, whole⟩ := Prod.mk.inj came
        cases same
        rw [nil_of_append_eq whole]
        rfl

theorem expect {kind : TokenKind} (inner : kind ≠ .eof) (place : Place) :
    (Parse.expect kind place).Framed lookahead where
  leaves _ _ _ came := by
    obtain ⟨rfl, -⟩ := expect_eq_ok inner came
    exact List.suffix_cons _ _
  framed {taken rest other s t token} came _ := by
    obtain ⟨whole, here⟩ := expect_eq_ok inner came
    obtain rfl : taken = [token] :=
      List.append_cancel_right (whole.trans (List.singleton_append ..).symm)
    exact expect_cons here inner place _

/-- The body of a reader that takes a token if the first one is the right one. -/
theorem taken (found : Bool) :
    (if found then (Parse.next >>= fun _ => pure true) else pure false : Parse Bool).Framed
      lookahead := by
  cases found with
  | true => exact behind next fun _ => value true
  | false => exact value false

theorem accept {kind : TokenKind} (noCloser : kind ∉ [.rightParen, .comma]) :
    (Parse.accept kind).Framed lookahead := by
  refine peek (fun token => ?_) fun closer otherCloser => ?_
  · split
    · exact taken true
    · exact taken false
  · rw [if_neg (closer.kind_ne noCloser), if_neg (otherCloser.kind_ne noCloser)]

theorem acceptExact (kind : TokenKind) : (Parse.accept kind).Framed .exact := by
  refine peekAlike (fun token => ?_) fun same => by rw [same]
  split
  · exact taken true
  · exact taken false

theorem acceptWord (word : String) : (Query.acceptWord word).Framed lookahead := by
  refine peek (fun token => taken (token.isWord word)) fun closer otherCloser => ?_
  rw [closer.isWord, otherCloser.isWord]

theorem expecting {kind : TokenKind} (inner : kind ≠ .eof) (place : Place) {following : Parse β}
    (back : following.Framed lookahead) :
    (Parse.expect kind place >>= fun _ => following).Framed lookahead :=
  behind (expect inner place) fun _ => back

theorem takes_expecting {kind : TokenKind} (inner : kind ≠ .eof) (place : Place)
    {following : Token → Parse β} (back : ∀ token, (following token).LeavesEnd) :
    (Parse.expect kind place >>= following).Takes := by
  refine takes_front ?_ back
  intro tokens token rest came
  obtain ⟨rfl, -⟩ := expect_eq_ok inner came
  exact Nat.lt_succ_self _

/-! ### Choices -/

/-- Where the kind of the first token decides, and is none that closers have. -/
theorem byKind {kind : TokenKind} {here elsewhere : Parse β}
    (noCloser : kind ∉ [.rightParen, .comma]) (chosen : here.Framed lookahead)
    (otherwise : elsewhere.Framed lookahead) :
    (Parse.peek >>= fun token => if token.kind = kind then here else elsewhere).Framed
      lookahead := by
  refine peek (fun token => ?_) fun closer otherCloser => ?_
  · split
    · exact chosen
    · exact otherwise
  · rw [if_neg (closer.kind_ne noCloser), if_neg (otherCloser.kind_ne noCloser)]

theorem choice {kind : TokenKind} {here elsewhere : Parse α} {following : α → Parse β}
    (noCloser : kind ∉ [.rightParen, .comma]) (chosen : here.Framed lookahead)
    (otherwise : elsewhere.Framed lookahead) (back : ∀ a, (following a).Framed lookahead) :
    (Parse.peek >>= fun token => if token.kind = kind then here >>= following
      else elsewhere >>= following).Framed lookahead :=
  byKind noCloser (behind chosen back) (behind otherwise back)

/-! ### Repetitions -/

theorem leaves_loop {round : α → Parse (Round α)} (advances : Advances round)
    (each : ∀ a, (round a).LeavesEnd) (a : α) : (Parse.loop round a).LeavesEnd := by
  intro tokens b rest came
  refine loop_eq_ok advances (fun _ left => left <:+ tokens) (fun _ left => left <:+ tokens)
    ?_ ?_ (List.suffix_refl _) came
  · exact fun behind again => (each _ again).trans behind
  · exact fun behind done => (each _ done).trans behind

theorem loop {round : α → Parse (Round α)} (advances : Advances round)
    (each : ∀ a, (round a).Framed lookahead) (a : α) : (Parse.loop round a).Framed lookahead where
  leaves := leaves_loop advances (fun a => (each a).leaves) a
  framed {taken rest other s t b} came alike := by
    -- By the number of tokens that the rounds take, of which each but the last takes some.
    generalize length : taken.length = count
    induction count using Nat.strongRecOn generalizing a taken with
    | ind count inductionHypothesis =>
      rw [loop_eq advances] at came ⊢
      obtain ⟨outcome, first, second, rfl, parsed, followed⟩ := split (each a).leaves
        (fun outcome => match outcome with
          | .again c => leaves_loop advances (fun a => (each a).leaves) c
          | .done c => leaves_value c) came
      rw [List.append_assoc]
      refine (bind_of_ok ((each a).front parsed alike)).trans ?_
      cases outcome with
      | again c =>
        have shorter := advances.shortens parsed
        simp only [List.length_append] at shorter length
        exact inductionHypothesis second.length (by omega) c followed rfl
      | done c => exact (value c).framed followed alike

theorem first_append_cons (taken : List Token) (s : Token) (rest other : List Token) :
    first (taken ++ s :: rest) = first (taken ++ s :: other) := by
  cases taken <;> rfl

section
variable {item : Parse α} {closing : Option TokenKind}

theorem leaves_itemsBehind {others : Parse (List α)} (leaves : others.LeavesEnd) (a : α)
    (comma : Bool) : (itemsBehind others closing a comma).LeavesEnd := by
  intro tokens as rest came
  cases comma with
  | false => exact leaves_value _ came
  | true =>
    rw [itemsBehind, if_pos rfl, peek_bind] at came
    split at came
    · exact leaves_value _ came
    · obtain ⟨others, listed, -⟩ := map_eq_ok.1 came
      exact leaves listed

theorem leaves_items (each : item.LeavesEnd) (count : Nat) :
    (items item closing count).LeavesEnd := by
  induction count with
  | zero => exact leaves_value []
  | succ count inductionHypothesis =>
    exact leaves_bind each fun a => leaves_bind (acceptExact .comma).leaves fun comma =>
      leaves_itemsBehind inductionHypothesis a comma

theorem leaves_several (each : item.LeavesEnd) : (Parse.several item closing).LeavesEnd :=
  fun _ _ _ came => leaves_items each _ came

variable (each : item.Framed .exact) (takes : item.Takes)
include each takes

theorem several : (Parse.several item closing).Framed .exact where
  leaves := leaves_several each.leaves
  framed {taken rest other s t as} came same := by
    cases same
    have leaves : (Parse.several item closing).LeavesEnd := leaves_several each.leaves
    generalize length : taken.length = count
    induction count using Nat.strongRecOn generalizing taken as with
    | ind count inductionHypothesis =>
      -- An item, perhaps a comma, and then perhaps other items.
      rw [several_eq takes] at came ⊢
      obtain ⟨a, first, taken, rfl, parsed, came⟩ := split each.leaves (fun a =>
        leaves_bind (acceptExact .comma).leaves (leaves_itemsBehind leaves a)) came
      rw [List.append_assoc, bind_of_ok (each.front parsed rfl)]
      obtain ⟨comma, second, taken, rfl, accepted, came⟩ :=
        split (acceptExact .comma).leaves (leaves_itemsBehind leaves a) came
      rw [List.append_assoc, bind_of_ok ((acceptExact .comma).front accepted rfl)]
      cases comma with
      | false => exact (value [a] : (pure [a] : Parse (List α)).Framed .exact).framed came rfl
      | true =>
        rw [itemsBehind, if_pos rfl, peek_bind] at came ⊢
        rw [first_append_cons taken s other rest]
        split at came
        · rename_i closed
          rw [if_pos closed]
          exact (value [a] : (pure [a] : Parse (List α)).Framed .exact).framed came rfl
        · rename_i unclosed
          rw [if_neg unclosed]
          obtain ⟨others, listed, rfl⟩ := map_eq_ok.1 came
          have shorter := takes parsed
          simp only [List.length_append] at shorter length
          exact map_of_ok (inductionHypothesis taken.length (by omega) listed rfl)

theorem separated : (Parse.separated item closing).Framed .exact where
  leaves _ _ _ came := leaves_items each.leaves _ came
  framed came same := by
    rw [separated_eq_several takes (by simp)] at came ⊢
    exact (several each takes).framed came same

end

/-- Items up to a closing token behind them, which is looked for before the first of them. -/
theorem listed {item : Parse α} {kind : TokenKind} {closing : Option TokenKind}
    {following : List α → Parse β} (each : item.Framed .exact) (takes : item.Takes)
    (back : ∀ as, (following as).Framed lookahead) (ends : ∀ as, (following as).Takes) :
    (Parse.peek >>= fun token => if token.kind = kind then pure [] >>= following
      else Parse.separated item closing >>= following).Framed lookahead := by
  refine peekTaking (fun token => ?_) fun token => ?_
  · split
    · exact behind (value []) back
    · exact behindExact (separated each takes) back ends
  · split
    · exact ends []
    · exact takes_back (separated each takes).leaves ends

end Parse.Framed

/-! ## Labels, numbers and durations -/

open Parse.Framed (leaves_value takes_back takes_expecting takes_front)

section
variable {lookahead : Lookahead}

theorem framed_readLabel (place : Place) : (readLabel place).Framed lookahead :=
  .behind (.expect (by decide) place) fun _ => .value _

theorem takes_readLabel (place : Place) : (readLabel place).Takes :=
  takes_expecting (by decide) place fun _ => leaves_value _

theorem framed_readLabels (place : Place) : (readLabels place).Framed lookahead := by
  refine .expecting (by decide) place ?_
  refine .listed (framed_readLabel place) (takes_readLabel place) (fun labels => ?_) ?_
  · exact .expecting (by decide) place (.value labels)
  · exact fun labels => takes_expecting (by decide) place fun _ => leaves_value labels

theorem framed_numberOf (token : Token) : (numberOf token).Framed lookahead := by
  unfold numberOf
  split
  · exact .value _
  · exact .fault _

theorem framed_readDurationToken (place : Place) : (readDurationToken place).Framed lookahead :=
  .behind (.expect (by decide) place) fun _ => .lift _

/-! ## Selectors -/

theorem framed_readMatcher : readMatcher.Framed lookahead := by
  refine .behind (framed_readLabel .matcherLabel) fun label => .peek (fun token => ?_) ?_
  · split
    · exact .unexpected _
    · exact .behind .next fun _ => .behind (.expect (by decide) _) fun _ => .lift _
  · intro s t closer otherCloser
    rw [closer.matchKind, otherCloser.matchKind]

theorem takes_readMatcher : readMatcher.Takes := by
  intro tokens matcher rest came
  obtain ⟨label, middle, read, came⟩ := bind_eq_ok.1 came
  refine Nat.lt_of_le_of_lt ?_ (takes_readLabel .matcherLabel read)
  rw [peek_bind] at came
  cases operator : matchKind? (first middle).kind with
  | none =>
    rw [operator] at came
    cases came
  | some kind =>
    rw [operator] at came
    obtain ⟨symbol, behind, taken, came⟩ := bind_eq_ok.1 came
    obtain ⟨text, last, expected, came⟩ := bind_eq_ok.1 came
    obtain ⟨-, rfl⟩ := lift_eq_ok.1 came
    have first := (Framed.next : Parse.next.Framed .exact).leaves taken
    have second := (Framed.expect (by decide) _ : Parse.Framed .exact _).leaves expected
    exact (second.trans first).length_le

theorem framed_readMatchers : readMatchers.Framed lookahead := by
  refine .expecting (by decide) _ ?_
  refine .listed framed_readMatcher takes_readMatcher (fun matchers => ?_) fun matchers => ?_
  · exact .expecting (by decide) _ (.value matchers)
  · exact takes_expecting (by decide) _ fun _ => leaves_value matchers

theorem framed_readSelector (name : Option String) : (readSelector name).Framed lookahead := by
  refine .choice (by decide) framed_readMatchers (.value []) fun matchers => ?_
  dsimp only
  split
  · exact .fault _
  · split
    · exact .fault _
    · exact .value _

/-! ## Ranges and clauses in time -/

theorem framed_readRange (expr : Expr) : (readRange expr).Framed lookahead := by
  refine .behind (framed_readDurationToken .range) fun range => ?_
  refine .behind (.accept (by decide)) fun closed => ?_
  cases closed with
  | true => exact .lift _
  | false =>
    refine .expecting (by decide) _ ?_
    refine .choice (by decide) (.map some (framed_readDurationToken .subqueryStep)) (.value none)
      fun step => ?_
    exact .expecting (by decide) _ (.lift _)

theorem framed_readOffset : readOffset.Framed lookahead :=
  .behind (.accept (by decide)) fun _ => .behind (framed_readDurationToken .offset) fun _ =>
    .value _

theorem framed_readRangeBound (bound : Instant) : (readRangeBound bound).Framed lookahead :=
  .behind .next fun _ => .expecting (by decide) _ (.expecting (by decide) _ (.value bound))

theorem framed_readSign : readSign.Framed lookahead := by
  refine .behind (.accept (by decide)) fun negative => ?_
  cases negative with
  | true => exact .value true
  | false => exact .behind (.accept (by decide)) fun _ => .value false

theorem framed_readInstant : readInstant.Framed lookahead := by
  refine .peek (fun token => ?_) ?_
  · split
    · exact framed_readRangeBound .rangeStart
    · split
      · exact framed_readRangeBound .rangeEnd
      · refine .behind framed_readSign fun negative => ?_
        refine .behind (.expect (by decide) _) fun token => ?_
        refine .behind (framed_numberOf token) fun number => ?_
        split
        · exact .value _
        · exact .fault _
  · intro s t closer otherCloser
    simp only [closer.isWord, otherCloser.isWord]

theorem framed_readPostfix (expr : Expr) : (readPostfix expr).Framed lookahead := by
  refine .behind (.accept (by decide)) fun bracket => ?_
  cases bracket with
  | true => exact .map _ (framed_readRange expr)
  | false =>
    refine .behind (.acceptWord "offset") fun word => ?_
    cases word with
    | true => exact .behind framed_readOffset fun offset => .map _ (.lift _)
    | false =>
      refine .behind (.accept (by decide)) fun symbol => ?_
      cases symbol with
      | true => exact .behind framed_readInstant fun instant => .map _ (.lift _)
      | false => exact .value _

theorem framed_readPostfixes (expr : Expr) : (readPostfixes expr).Framed lookahead :=
  .loop advances_readPostfix framed_readPostfix expr

/-! ## Groupings and clauses of operators -/

theorem framed_readGrouping : readGrouping.Framed lookahead := by
  refine .behind (.acceptWord "by") fun byWord => ?_
  cases byWord with
  | true => exact .map _ (framed_readLabels .grouping)
  | false =>
    refine .behind (.acceptWord "without") fun withoutWord => ?_
    cases withoutWord with
    | true => exact .map _ (framed_readLabels .grouping)
    | false => exact .value none

theorem framed_readSecondGrouping (before : Option Grouping) :
    (readSecondGrouping before).Framed lookahead := by
  cases before with
  | none => exact framed_readGrouping
  | some grouping =>
    refine .peek (fun token => ?_) fun closer otherCloser => ?_
    · split
      · exact .fault _
      · exact .value _
    · rw [closer.beginsGrouping, otherCloser.beginsGrouping]

theorem framed_readBool (op : BinaryOp) : (readBool op).Framed lookahead := by
  refine .peek (fun token => ?_) fun closer otherCloser => ?_
  · split
    · split
      · exact .behind .next fun _ => .value true
      · exact .fault _
    · exact .value false
  · rw [closer.isWord, otherCloser.isWord]

theorem framed_readTakenLabels : readTakenLabels.Framed lookahead :=
  .byKind (by decide) (framed_readLabels .groupModifier) (.value [])

theorem framed_readGroupModifier (op : BinaryOp) : (readGroupModifier op).Framed lookahead := by
  refine .peek (fun token => ?_) fun closer otherCloser => ?_
  · split
    · split
      · exact .fault _
      · exact .behind .next fun _ => .behind framed_readTakenLabels fun _ => .value _
    · exact .value none
  · simp only [closer.isWord, otherCloser.isWord]

theorem framed_readMatchingLabels : readMatchingLabels.Framed lookahead := by
  refine .behind (.acceptWord "on") fun onWord => ?_
  cases onWord with
  | true => exact .map _ (framed_readLabels .onLabels)
  | false =>
    refine .behind (.acceptWord "ignoring") fun ignoringWord => ?_
    cases ignoringWord with
    | true => exact .map _ (framed_readLabels .ignoringLabels)
    | false => exact .value none

theorem framed_readMatching (op : BinaryOp) : (readMatching op).Framed lookahead := by
  refine .behind framed_readMatchingLabels fun labels => ?_
  cases labels with
  | none => exact .value none
  | some labels => exact .behind (framed_readGroupModifier op) fun group => .value _

theorem framed_readClause (op : BinaryOp) : (readClause op).Framed lookahead :=
  .behind (framed_readBool op) fun _ => .behind (framed_readMatching op) fun _ => .value _

end

/-! ## Expressions -/

section
variable {inner : Nat → Parse Expr}

/-- Takes the parenthesis behind what an aggregation is of, and a comma if one stands before. -/
def closeArguments (aggregated : Aggregated) : Parse Aggregated := do
  let _ ← Parse.accept .comma
  let _ ← Parse.expect .rightParen .aggregation
  pure aggregated

/-- Reads what an aggregation is of, behind the opening parenthesis. -/
def readArguments (inner : Nat → Parse Expr) (op : AggregateOp) : Parse Aggregated := do
  if (← Parse.peek).kind = .rightParen then Parse.fault (.noAggregated op)
  else
    let aggregated ← readAggregated inner op
    closeArguments aggregated

/-- An aggregation has a grouping in front of its parentheses, or behind them, or none. -/
theorem readAggregate_eq (inner : Nat → Parse Expr) (op : AggregateOp) : readAggregate inner op =
    readGrouping >>= fun before => Parse.expect .leftParen .aggregation >>= fun _ =>
      readArguments inner op >>= fun aggregated => readSecondGrouping before >>= fun grouping =>
        pure (.aggregate op aggregated.parameter aggregated.body grouping) := by
  refine congrArg (readGrouping >>= ·) (funext fun before => ?_)
  refine congrArg (Parse.expect .leftParen .aggregation >>= ·) (funext fun opening => ?_)
  funext tokens
  rw [readArguments, bind_assoc, peek_bind, peek_bind]
  split
  · rfl
  · simp only [closeArguments, bind_assoc]
    rfl

/-- Behind a word all tokens that end an expression are the same. -/
theorem readBehindWord_of_closers {s t : Token} (closer : s.IsCloser) (otherCloser : t.IsCloser) :
    readBehindWord inner s = readBehindWord inner t := by
  funext word
  unfold readBehindWord aggregation?
  rw [closer.beginsGrouping, otherCloser.beginsGrouping]
  have noParen : s.kind ≠ .leftParen := closer.kind_ne (by decide)
  have noOtherParen : t.kind ≠ .leftParen := otherCloser.kind_ne (by decide)
  simp only [noParen, noOtherParen]

theorem framed_closeArguments {lookahead : Lookahead} (aggregated : Aggregated) :
    (closeArguments aggregated).Framed lookahead :=
  .behindExact (.acceptExact .comma) (fun _ => .expecting (by decide) _ (.value aggregated))
    fun _ => takes_expecting (by decide) _ fun _ => leaves_value aggregated

theorem takes_closeArguments (aggregated : Aggregated) : (closeArguments aggregated).Takes :=
  takes_back (Framed.acceptExact .comma).leaves fun _ =>
    takes_expecting (by decide) _ fun _ => leaves_value aggregated

section
variable {lookahead : Lookahead} (within : (inner 0).Framed lookahead) (takes : (inner 0).Takes)
include within

theorem framed_readAggregated (op : AggregateOp) :
    (readAggregated inner op).Framed lookahead := by
  refine .behind within fun first => ?_
  split
  · exact .expecting (by decide) _ (.behind within fun _ => .value _)
  · exact .value _

theorem framed_readArguments (op : AggregateOp) : (readArguments inner op).Framed lookahead := by
  have read := framed_readAggregated within op
  refine .peekTaking (fun token => ?_) fun token => ?_
  · split
    · exact .fault _
    · -- A comma may stand behind what is aggregated here, so that is read in front of the same.
      exact .behindExact read.exact framed_closeArguments takes_closeArguments
  · split
    · exact fun _ _ _ came => by cases came
    · exact takes_back read.leaves takes_closeArguments

theorem framed_readAggregate (op : AggregateOp) : (readAggregate inner op).Framed lookahead := by
  rw [readAggregate_eq]
  refine .behind framed_readGrouping fun before => .expecting (by decide) _ ?_
  refine .behind (framed_readArguments within op) fun aggregated => ?_
  exact .behind (framed_readSecondGrouping before) fun _ => .value _

theorem framed_readParen : (readParen inner).Framed lookahead :=
  .behind within fun _ => .expecting (by decide) _ (.value _)

include takes

theorem framed_readCall (name : String) : (readCall inner name).Framed lookahead := by
  unfold readCall
  split
  · exact .fault _
  · rename_i entry known
    have back : ∀ arguments : List Expr, (if entry.accepts arguments.length then
        pure (.call name arguments)
        else Parse.fault (.wrongArgumentCount entry.name arguments.length) : Parse Expr).Framed
          lookahead := by
      intro arguments
      split
      · exact .value _
      · exact .fault _
    refine .expecting (by decide) _ (.listed within.exact takes (fun arguments => ?_) ?_)
    · exact .expecting (by decide) _ (back arguments)
    · exact fun arguments => takes_expecting (by decide) _ fun _ => (back arguments).leaves

theorem framed_readBehindWord (following word : Token) :
    (readBehindWord inner following word).Framed lookahead := by
  unfold readBehindWord
  split
  · exact .value _
  · split
    · exact framed_readAggregate within _
    · split
      · exact framed_readCall within takes _
      · exact framed_readSelector _

end

section
variable {lookahead : Lookahead} (within : ∀ least, (inner least).Framed lookahead)
  (takes : ∀ least, (inner least).Takes)
  (same : ∀ least, leaving.Same (inner least) (inner least))
include within takes same

theorem framed_readPrimary : (readPrimary inner).Framed lookahead where
  leaves _ _ _ came := suffix_of_same (Relation.readPrimary (same 0)) came
  framed {taken rest other s t expr} came alike := by
    cases taken with
    | nil => exact absurd (length_lt_of_readPrimary same came) (Nat.lt_irrefl _)
    | cons token taken =>
      rw [readPrimary, peek_bind, List.cons_append, first_cons] at came ⊢
      cases kind : token.kind with
      | number =>
        rw [kind] at came
        exact (Framed.behind .next fun token => .map _ (framed_numberOf token)).somethingTaken
          came alike
      | string =>
        rw [kind] at came
        exact (Framed.behind .next fun token => .value (Expr.string token.text)).somethingTaken
          came alike
      | leftParen =>
        rw [kind] at came
        exact (Framed.behind .next fun _ => framed_readParen (within 0)).somethingTaken came alike
      | leftBrace =>
        rw [kind] at came
        exact (framed_readSelector none).somethingTaken came alike
      | ident =>
        rw [kind] at came
        have inner_kind : token.kind ≠ .eof := by simp [kind]
        dsimp only at came ⊢
        rw [readWordExpr_eq, peekSecond_bind] at came ⊢
        rw [bind_of_ok (next_cons inner_kind _)] at came ⊢
        have behind := fun following => framed_readBehindWord (within 0) (takes 0) following token
        -- The token behind the word is one that was taken, or the one that may be another.
        cases taken with
        | nil =>
          rcases lookahead.closers alike with rfl | ⟨closer, otherCloser⟩
          · exact (behind s).nothingTaken came alike
          · have moved : readBehindWord inner s token (t :: other) = (.ok expr, t :: other) :=
              (behind s).nothingTaken came alike
            rwa [readBehindWord_of_closers closer otherCloser] at moved
        | cons next taken => exact (behind next).somethingTaken came alike
      | _ =>
        rw [kind] at came
        cases came

theorem framed_readUnary : (readUnary inner).Framed lookahead := by
  refine .peek (fun token => ?_) fun closer otherCloser => ?_
  · split
    · exact .behind .next fun _ => .map _ (within signPrecedence)
    · exact .behind (framed_readPrimary within takes same) framed_readPostfixes
  · rw [closer.unaryOp, otherCloser.unaryOp]

omit takes same in
theorem framed_readOperation (least : Nat) (left : Expr) :
    (readOperation inner least left).Framed lookahead := by
  refine .peek (fun token => ?_) fun closer otherCloser => ?_
  · split
    · exact .value _
    · exact .behind .next fun _ => .behind (framed_readClause _) fun clause =>
        .behind (within _) fun right => .value _
  · rw [closer.binaryOp, otherCloser.binaryOp]

theorem framed_readOperands (least : Nat) : (readOperands inner least).Framed lookahead :=
  .behind (framed_readUnary within takes same) fun left =>
    .loop (advances_readOperation same) (framed_readOperation within least) left

end

end

theorem takes_readLevels (levels least : Nat) : (readLevels levels least).Takes :=
  fun _ _ _ => length_lt_of_readLevels

/-- An expression is read from the tokens that it takes, whatever stands behind the next one;
and that may be a comma instead of a closing parenthesis, or the other way around. -/
theorem framed_readLevels (lookahead : Lookahead) (levels least : Nat) :
    (readLevels levels least).Framed lookahead := by
  induction levels generalizing least with
  | zero => exact .fault _
  | succ levels inductionHypothesis =>
    exact framed_readOperands inductionHypothesis (takes_readLevels levels)
      (Relation.readLevels levels) least

end RuleAtlas.Query
