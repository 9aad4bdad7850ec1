import RuleAtlas.Proofs.Query.Indexed.Parser
import RuleAtlas.Proofs.Query.Steps

/-! # Runs follow parses

From every index in range a run of the grammar follows the parse that it stands for: both come
to the same value or fault, and the run stops at the first token that the parse leaves.  So
the index stays in range and never goes back, no loop or recursion runs out of steps, and the
depth is set back.  Here is one lemma for each building block of the readers. -/

namespace RuleAtlas.Query

open Parse (Advances Round)

variable {α β : Type} {input : Input} {depth pos : Nat}

/-- The last token and no other one stands for the end, and there are more steps than tokens
and levels. -/
structure Input.Sound (input : Input) : Prop where
  ends : ∃ inner ending, input.tokens = inner ++ [ending] ∧ ending.kind = .eof ∧
    ∀ token ∈ inner, token.kind ≠ .eof
  steps : input.tokens.length + maxLevels < input.steps

/-- The run follows the parse from this point on. -/
def FollowsAt (input : Input) (parse : Parse α) (run : Run α) (point : Point) : Prop :=
  ∃ result next, point.pos ≤ next ∧ next < input.tokens.length ∧
    parse (input.tokens.drop point.pos) = (result, input.tokens.drop next) ∧
    run input point = (result.mapError .refused, ⟨next, point.depth⟩)

/-- At this depth the run follows the parse from every index in range. -/
def Follows (input : Input) (depth : Nat) (parse : Parse α) (run : Run α) : Prop :=
  ∀ pos < input.tokens.length, FollowsAt input parse run ⟨pos, depth⟩

/-! ## Points -/

theorem first_drop {tokens : List Token} (inRange : pos < tokens.length) :
    Parse.first (tokens.drop pos) = tokens[pos] := by
  rw [List.drop_eq_getElem_cons inRange, Parse.first_cons]

/-- A token that is accepted is behind the parse. -/
theorem lt_of_accept {tokens : List Token} {kind : TokenKind} {next : Nat} (inner : kind ≠ .eof)
    (came : Parse.accept kind (tokens.drop pos) = (.ok true, tokens.drop next)) : pos < next := by
  obtain ⟨-, token, rest, -⟩ | ⟨absurd, -⟩ := Parse.accept_eq_ok inner came
  · have shorter := congrArg List.length rest
    simp only [List.length_drop, List.length_cons] at shorter
    omega
  · cases absurd

/-- Behind a token that is not the end there is another one. -/
theorem Input.Sound.succ_lt (sound : input.Sound) (inRange : pos < input.tokens.length)
    (inner : input.tokens[pos].kind ≠ .eof) : pos + 1 < input.tokens.length := by
  obtain ⟨before, ending, whole, eof, -⟩ := sound.ends
  by_contra last
  have length : input.tokens.length = before.length + 1 := by simp [whole]
  have place : pos = before.length := by omega
  subst place
  apply inner
  simp [whole, eof]

/-- A token in front of another one is not the end. -/
theorem Input.Sound.kind_of_lt (sound : input.Sound) (inRange : pos + 1 < input.tokens.length) :
    input.tokens[pos].kind ≠ .eof := by
  obtain ⟨before, ending, whole, -, inner⟩ := sound.ends
  have length : input.tokens.length = before.length + 1 := by simp [whole]
  have place : pos < before.length := by omega
  apply inner
  simp [whole, List.getElem_append_left place]

namespace Run

theorem bind_apply (run : Run α) (following : α → Run β) (point : Point) :
    (run >>= following) input point = match run input point with
      | (.ok a, next) => following a input next
      | (.error stop, next) => (.error stop, next) := rfl

theorem bind_assoc {γ : Type} (run : Run α) (f : α → Run β) (g : β → Run γ) :
    run >>= f >>= g = run >>= fun a => f a >>= g := by
  funext input point
  simp only [bind_apply]
  rcases run input point with ⟨_ | a, next⟩ <;> rfl

theorem bind_congr {run : Run α} {f g : α → Run β} (same : ∀ a, f a = g a) :
    run >>= f = run >>= g :=
  congrArg (run >>= ·) (funext same)

theorem ahead_bind {count : Nat} {following : Token → Run β}
    (there : pos + count < input.tokens.length) : (ahead count >>= following) input ⟨pos, depth⟩ =
      following input.tokens[pos + count] input ⟨pos, depth⟩ := by
  simp [bind_apply, ahead, there]

theorem here_bind {following : Token → Run β} (inRange : pos < input.tokens.length) :
    (here >>= following) input ⟨pos, depth⟩ = following input.tokens[pos] input ⟨pos, depth⟩ :=
  ahead_bind inRange

theorem kindAhead_bind {count : Nat} {following : TokenKind → Run β}
    (there : pos + count < input.tokens.length) :
    (kindAhead count >>= following) input ⟨pos, depth⟩ =
      following input.tokens[pos + count].kind input ⟨pos, depth⟩ := by
  simp [bind_apply, kindAhead, there]

theorem take_eq (inRange : pos < input.tokens.length) (inner : input.tokens[pos].kind ≠ .eof) :
    take input ⟨pos, depth⟩ = (.ok input.tokens[pos], ⟨pos + 1, depth⟩) := by
  rw [take, here_bind inRange, if_neg (by simp [Token.isEof, inner])]
  rfl

/-- A token that is not the end is taken. -/
theorem take_bind {following : Token → Run β} (inRange : pos < input.tokens.length)
    (inner : input.tokens[pos].kind ≠ .eof) : (take >>= following) input ⟨pos, depth⟩ =
      following input.tokens[pos] input ⟨pos + 1, depth⟩ := by
  rw [bind_apply, take_eq inRange inner]

/-- In front of the closing token there are no more items. -/
theorem rounds_readItem_closed {item : Run α} {closing : Option TokenKind} {steps : Nat}
    {found : List α} (inRange : pos < input.tokens.length)
    (closed : some input.tokens[pos].kind = closing) :
    rounds (readItem item closing) (steps + 1) found input ⟨pos, depth⟩ =
      (.ok found, ⟨pos, depth⟩) := by
  rw [rounds, readItem, bind_assoc, here_bind inRange, if_pos closed]
  rfl

/-- In front of any other token there is an item, and perhaps a comma. -/
theorem rounds_readItem {item : Run α} {closing : Option TokenKind} {steps : Nat}
    {found : List α} (inRange : pos < input.tokens.length)
    (unclosed : some input.tokens[pos].kind ≠ closing) :
    rounds (readItem item closing) (steps + 1) found input ⟨pos, depth⟩ =
      (item >>= fun a => accept .comma >>= fun taken =>
        if taken then rounds (readItem item closing) steps (found ++ [a])
        else pure (found ++ [a])) input ⟨pos, depth⟩ := by
  rw [rounds, readItem, bind_assoc, here_bind inRange, if_neg unclosed, bind_assoc]
  refine congrFun (congrFun (bind_congr fun a => ?_) input) _
  rw [bind_assoc]
  refine bind_congr fun taken => ?_
  cases taken <;> rfl

end Run

theorem Parse.map_bind {γ : Type} (f : β → γ) (parse : Parse α) (following : α → Parse β) :
    f <$> (parse >>= following) = parse >>= fun a => f <$> following a :=
  Parse.bind_assoc parse following (pure ∘ f)

theorem Parse.id_map (parse : Parse (List α)) (tokens : List Token) :
    (([] ++ ·) <$> parse) tokens = parse tokens := by
  rw [Parse.map_apply]
  rcases parse tokens with ⟨_ | as, rest⟩ <;> rfl

/-! ## One run behind another -/

namespace FollowsAt

/-- A run that stays at its point. -/
theorem stays {parse : Parse α} {run : Run α} {result : Except ParseError α}
    (inRange : pos < input.tokens.length)
    (came : parse (input.tokens.drop pos) = (result, input.tokens.drop pos))
    (ran : run input ⟨pos, depth⟩ = (result.mapError .refused, ⟨pos, depth⟩)) :
    FollowsAt input parse run ⟨pos, depth⟩ :=
  ⟨result, pos, Nat.le_refl pos, inRange, came, ran⟩

/-- The run follows the parse if what is left of both at a later index does. -/
theorem moved {parse other : Parse α} {run like : Run α} {later : Nat}
    (follows : FollowsAt input other like ⟨later, depth⟩) (forward : pos ≤ later)
    (same : parse (input.tokens.drop pos) = other (input.tokens.drop later))
    (alike : run input ⟨pos, depth⟩ = like input ⟨later, depth⟩) :
    FollowsAt input parse run ⟨pos, depth⟩ := by
  obtain ⟨result, next, further, inRange, came, ran⟩ := follows
  exact ⟨result, next, Nat.le_trans forward further, inRange, same.trans came, alike.trans ran⟩

theorem behind {parse : Parse α} {run : Run α} {f : α → Parse β} {g : α → Run β}
    (front : FollowsAt input parse run ⟨pos, depth⟩)
    (following : ∀ a next, pos ≤ next → next < input.tokens.length →
      parse (input.tokens.drop pos) = (.ok a, input.tokens.drop next) →
      FollowsAt input (f a) (g a) ⟨next, depth⟩) :
    FollowsAt input (parse >>= f) (run >>= g) ⟨pos, depth⟩ := by
  obtain ⟨result, middle, forward, inside, came, ran⟩ := front
  cases result with
  | error error =>
    refine ⟨.error error, middle, forward, inside, ?_, ?_⟩
    · rw [Parse.bind_apply, came]
    · rw [Run.bind_apply, ran]
      rfl
  | ok a =>
    obtain ⟨result, next, further, inRange, cameBehind, ranBehind⟩ :=
      following a middle forward inside came
    refine ⟨result, next, Nat.le_trans forward further, inRange, ?_, ?_⟩
    · rw [Parse.bind_of_ok came, cameBehind]
    · rw [Run.bind_apply, ran]
      exact ranBehind

/-- What goes on from the current token, which is not taken. -/
theorem peeked {f : Token → Parse α} {g : Token → Run α} (inRange : pos < input.tokens.length)
    (follows : FollowsAt input (f input.tokens[pos]) (g input.tokens[pos]) ⟨pos, depth⟩) :
    FollowsAt input (Parse.peek >>= f) (Run.here >>= g) ⟨pos, depth⟩ := by
  refine follows.moved (Nat.le_refl pos) ?_ (Run.here_bind inRange)
  rw [Parse.peek_bind, first_drop inRange]

end FollowsAt

namespace Follows

theorem same (a : α) : Follows input depth (pure a) (pure a) :=
  fun _ inRange => .stays inRange rfl rfl

theorem behind {parse : Parse α} {run : Run α} {f : α → Parse β} {g : α → Run β}
    (front : Follows input depth parse run) (following : ∀ a, Follows input depth (f a) (g a)) :
    Follows input depth (parse >>= f) (run >>= g) :=
  fun pos inRange => (front pos inRange).behind fun a next _ inside _ => following a next inside

theorem map {parse : Parse α} {run : Run α} (f : α → β) (front : Follows input depth parse run) :
    Follows input depth (f <$> parse) (f <$> run) :=
  behind front fun a => same (f a)

theorem peek : Follows input depth Parse.peek Run.here := by
  intro pos inRange
  refine .stays inRange rfl ?_
  simp [Run.here, Run.ahead, inRange, first_drop inRange, Except.mapError]

theorem fails (cause : SyntaxFault) :
    Follows input depth (Parse.fault cause : Parse α) (Run.refuse cause) := by
  intro pos inRange
  refine .stays inRange rfl ?_
  rw [Run.refuse, Run.here_bind inRange, first_drop inRange]
  rfl

theorem unexpected (place : Place) :
    Follows input depth (Parse.unexpected place : Parse α) (Run.unexpected place) := by
  intro pos inRange
  apply (fails (.unexpected input.tokens[pos] place) pos inRange).moved (Nat.le_refl pos)
  · rw [Parse.unexpected, first_drop inRange]
  · rw [Run.unexpected, Run.here_bind inRange]

theorem lift (result : Except SyntaxFault α) :
    Follows input depth (Parse.lift result) (Run.settle result) := by
  cases result with
  | ok a => exact same a
  | error cause => exact fails cause

/-- Where the kind of the current token decides, the runs follow on both sides. -/
theorem byKind {kind : TokenKind} {parse other : Parse α} {run another : Run α}
    (here : Follows input depth parse run) (elsewhere : Follows input depth other another) :
    Follows input depth (Parse.peek >>= fun token => if token.kind = kind then parse else other)
      (Run.here >>= fun token => if token.kind = kind then run else another) := by
  refine behind peek fun token => ?_
  split
  · exact here
  · exact elsewhere

/-- The first of two parts is chosen by the kind of the current token. -/
theorem choice {kind : TokenKind} {parse other : Parse α} {run another : Run α}
    {f : α → Parse β} {g : α → Run β} (here : Follows input depth parse run)
    (elsewhere : Follows input depth other another)
    (following : ∀ a, Follows input depth (f a) (g a)) :
    Follows input depth
      (Parse.peek >>= fun token => if token.kind = kind then parse >>= f else other >>= f)
      (Run.here >>= fun token => if token.kind = kind then run >>= g else another >>= g) :=
  byKind (behind here following) (behind elsewhere following)

/-- The depth is set back behind an expression that is read one deeper. -/
theorem deeper {parse : Parse α} {run : Run α} (inside : Follows input (depth + 1) parse run) :
    Follows input depth parse (Run.deeper run) := by
  intro pos inRange
  obtain ⟨result, next, forward, within, came, ran⟩ := inside pos inRange
  refine ⟨result, next, forward, within, came, ?_⟩
  rw [Run.deeper, ran]

/-- A loop ends within its steps, since every round but the last takes a token. -/
theorem rounds {round : α → Parse (Round α)} {run : α → Run (Round α)} {steps : Nat}
    (advances : Advances round) (follows : ∀ a, Follows input depth (round a) (run a))
    (inRange : pos < input.tokens.length) (enough : input.tokens.length < steps + pos) (a : α) :
    FollowsAt input (Parse.loop round a) (Run.rounds run steps a) ⟨pos, depth⟩ := by
  induction steps generalizing pos a with
  | zero => omega
  | succ steps inductionHypothesis =>
    refine .moved ?_ (Nat.le_refl pos) (Parse.loop_eq advances a _) rfl
    refine (follows a pos inRange).behind fun outcome next forward inside came => ?_
    cases outcome with
    | again b =>
      have shorter := advances.shortens came
      simp only [List.length_drop] at shorter
      exact inductionHypothesis inside (by omega) b
    | done b => exact same b next inside

/-! ## Single tokens -/

section
variable (sound : input.Sound)
include sound

theorem next : Follows input depth Parse.next Run.take := by
  intro pos inRange
  by_cases inner : input.tokens[pos].kind = .eof
  · refine ⟨.ok input.tokens[pos], pos, Nat.le_refl pos, inRange, ?_, ?_⟩
    · simp [Parse.next, first_drop inRange, Token.isEof, inner]
    · rw [Run.take, Run.here_bind inRange, if_pos (by simp [Token.isEof, inner])]
      rfl
  · refine ⟨.ok input.tokens[pos], pos + 1, Nat.le_succ pos, sound.succ_lt inRange inner, ?_, ?_⟩
    · rw [List.drop_eq_getElem_cons inRange, Parse.next_cons inner]
    · exact Run.take_eq inRange inner

/-- Behind a token that is taken whatever it is the runs go on. -/
theorem behindNext {parse : Parse α} {run : Run α} (following : Follows input depth parse run) :
    Follows input depth (Parse.next >>= fun _ => parse) (Run.take >>= fun _ => run) :=
  behind (next sound) fun _ => following

theorem expect (kind : TokenKind) (place : Place) :
    Follows input depth (Parse.expect kind place) (Run.expect kind place) :=
  byKind (next sound) (unexpected place)

theorem behindExpected {parse : Parse α} {run : Run α} (kind : TokenKind) (place : Place)
    (following : Follows input depth parse run) :
    Follows input depth (Parse.expect kind place >>= fun _ => parse)
      (Run.expect kind place >>= fun _ => run) :=
  behind (expect sound kind place) fun _ => following

theorem accept (kind : TokenKind) :
    Follows input depth (Parse.accept kind) (Run.accept kind) :=
  byKind (behindNext sound (same true)) (same false)

theorem acceptWord (word : String) :
    Follows input depth (acceptWord word) (Run.acceptWord word) := by
  refine behind peek fun token => ?_
  split
  · exact behindNext sound (same true)
  · exact same false

/-! ## Repetitions -/

theorem loop {round : α → Parse (Round α)} {run : α → Run (Round α)} (advances : Advances round)
    (follows : ∀ a, Follows input depth (round a) (run a)) (a : α) :
    Follows input depth (Parse.loop round a) (Run.loop run a) := by
  intro pos inRange
  have enough := sound.steps
  exact rounds advances follows inRange (by omega) a

/-- Behind the items found so far both find the same others. -/
theorem items {item : Parse α} {run : Run α} {closing : Option TokenKind} {count steps : Nat}
    (follows : Follows input depth item run) (inRange : pos < input.tokens.length)
    (unclosed : some input.tokens[pos].kind ≠ closing) (many : input.tokens.length ≤ count + pos)
    (enough : input.tokens.length < steps + pos) (found : List α) :
    FollowsAt input ((found ++ ·) <$> Parse.items item closing count)
      (Run.rounds (Run.readItem run closing) steps found) ⟨pos, depth⟩ := by
  -- By the number of steps; every item but the last has a comma behind it.
  induction steps generalizing pos count found with
  | zero => omega
  | succ steps inductionHypothesis =>
    cases count with
    | zero => omega
    | succ count =>
      refine .moved ?_ (Nat.le_refl pos) (congrFun (Parse.map_bind ..) _)
        (Run.rounds_readItem inRange unclosed)
      refine (follows pos inRange).behind fun a middle forward inside _ => ?_
      refine .moved ?_ (Nat.le_refl middle) (congrFun (Parse.map_bind ..) _) rfl
      refine (accept sound .comma middle inside).behind fun taken next further within came => ?_
      cases taken with
      | false => exact same (found ++ [a]) next within
      | true =>
        have moved : middle < next := lt_of_accept (by decide) came
        -- The parse looks for the closing token behind the comma, the run in its next round.
        by_cases closed : some input.tokens[next].kind = closing
        · obtain ⟨others, rfl⟩ : ∃ others, steps = others + 1 := ⟨steps - 1, by omega⟩
          refine ⟨.ok (found ++ [a]), next, Nat.le_refl next, within, ?_,
            Run.rounds_readItem_closed within closed⟩
          simp only [if_true, Parse.map_bind, Parse.peek_bind, first_drop within, if_pos closed]
          rfl
        · have others : FollowsAt input ((found ++ [a] ++ ·) <$> Parse.items item closing count)
              (Run.rounds (Run.readItem run closing) steps (found ++ [a])) ⟨next, depth⟩ :=
            inductionHypothesis within closed (by omega) (by omega) (found ++ [a])
          refine .moved others (Nat.le_refl next) ?_ rfl
          simp only [if_true, Parse.map_bind, Parse.peek_bind, first_drop within, if_neg closed,
            List.append_assoc]
          rfl

theorem separated {item : Parse α} {run : Run α} {closing : Option TokenKind}
    (follows : Follows input depth item run) (inRange : pos < input.tokens.length)
    (unclosed : some input.tokens[pos].kind ≠ closing) :
    FollowsAt input (Parse.separated item closing) (Run.listed run closing) ⟨pos, depth⟩ := by
  have enough := sound.steps
  have found : FollowsAt input (([] ++ ·) <$> Parse.items item closing (input.tokens.length - pos))
      (Run.rounds (Run.readItem run closing) input.steps []) ⟨pos, depth⟩ :=
    items sound follows inRange unclosed (by omega) (by omega) []
  refine .moved found (Nat.le_refl pos) ?_ rfl
  rw [Parse.id_map, Parse.separated, List.length_drop]

/-- Items up to a closing token, which is looked for before the first of them. -/
theorem listed {closing : TokenKind} {item : Parse α} {run : Run α} {f : List α → Parse β}
    {g : List α → Run β} (follows : Follows input depth item run)
    (following : ∀ as, Follows input depth (f as) (g as)) :
    Follows input depth
      (Parse.peek >>= fun token => if token.kind = closing then pure [] >>= f
        else Parse.separated item (some closing) >>= f)
      (Run.listed run (some closing) >>= g) := by
  intro pos inRange
  have first := first_drop inRange
  by_cases closed : input.tokens[pos].kind = closing
  · -- Here the parse does not begin with items, and the run ends in its first round.
    refine .moved (following [] pos inRange) (Nat.le_refl pos) ?_ ?_
    · rw [Parse.choice_of_kind (by rw [first, closed])]
      rfl
    · have enough := sound.steps
      obtain ⟨steps, same⟩ : ∃ steps, input.steps = steps + 1 := ⟨input.steps - 1, by omega⟩
      rw [Run.bind_apply, Run.listed, Run.loop, same,
        Run.rounds_readItem_closed inRange (congrArg some closed)]
  · refine .moved (.behind (separated sound follows inRange ?_) ?_) (Nat.le_refl pos)
      (Parse.choice_of_ne ?_) rfl
    · simpa using closed
    · exact fun as next _ inside _ => following as next inside
    · rwa [first]

end

end Follows

end RuleAtlas.Query
