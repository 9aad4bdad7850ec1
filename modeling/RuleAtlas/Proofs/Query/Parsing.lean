import RuleAtlas.Query.Parse

/-! # Laws of parses

What a parse that is put together from others comes to, in both directions: how it runs where
its parts are known to run, and what its parts did where it came to a value. -/

namespace RuleAtlas.Query.Parse

variable {α β : Type} {tokens rest : List Token}

/-! ## One parse behind another -/

theorem pure_apply (a : α) (tokens : List Token) : (pure a : Parse α) tokens = (.ok a, tokens) :=
  rfl

theorem bind_apply (parse : Parse α) (following : α → Parse β) (tokens : List Token) :
    (parse >>= following) tokens = match parse tokens with
      | (.ok a, rest) => following a rest
      | (.error error, rest) => (.error error, rest) := rfl

theorem map_apply (f : α → β) (parse : Parse α) (tokens : List Token) :
    (f <$> parse) tokens = match parse tokens with
      | (.ok a, rest) => (.ok (f a), rest)
      | (.error error, rest) => (.error error, rest) := rfl

theorem bind_eq_ok {parse : Parse α} {following : α → Parse β} {b : β} :
    (parse >>= following) tokens = (.ok b, rest) ↔
      ∃ a middle, parse tokens = (.ok a, middle) ∧ following a middle = (.ok b, rest) := by
  rw [bind_apply]
  constructor
  · intro came
    split at came
    · rename_i a middle first
      exact ⟨a, middle, first, came⟩
    · cases came
  · rintro ⟨a, middle, first, second⟩
    rw [first]
    exact second

theorem map_eq_ok {f : α → β} {parse : Parse α} {b : β} :
    (f <$> parse) tokens = (.ok b, rest) ↔ ∃ a, parse tokens = (.ok a, rest) ∧ f a = b := by
  rw [map_apply]
  constructor
  · intro came
    split at came
    · rename_i a middle first
      cases came
      exact ⟨a, first, rfl⟩
    · cases came
  · rintro ⟨a, first, rfl⟩
    rw [first]

/-- Behind a parse that comes to a value the next one runs on what is left. -/
theorem bind_of_ok {parse : Parse α} {following : α → Parse β} {a : α}
    (came : parse tokens = (.ok a, rest)) :
    (parse >>= following) tokens = following a rest := by
  rw [bind_apply, came]

theorem map_of_ok {f : α → β} {parse : Parse α} {a : α} (came : parse tokens = (.ok a, rest)) :
    (f <$> parse) tokens = (.ok (f a), rest) := by
  rw [map_apply, came]

theorem bind_assoc {γ : Type} (parse : Parse α) (f : α → Parse β) (g : β → Parse γ) :
    parse >>= f >>= g = parse >>= fun a => f a >>= g := by
  funext tokens
  simp only [bind_apply]
  rcases parse tokens with ⟨_ | a, rest⟩ <;> rfl

/-- What follows only matters on what the first parse can leave. -/
theorem bind_congr {parse : Parse α} {f g : α → Parse β}
    (same : ∀ a rest, parse tokens = (.ok a, rest) → f a rest = g a rest) :
    (parse >>= f) tokens = (parse >>= g) tokens := by
  rw [bind_apply, bind_apply]
  split
  · rename_i a rest came
    exact same a rest came
  · rfl

/-! ## Single tokens -/

@[simp] theorem first_cons (token : Token) (tokens : List Token) :
    first (token :: tokens) = token := rfl

theorem first_append {tokens : List Token} (some_tokens : tokens ≠ []) (rest : List Token) :
    first (tokens ++ rest) = first tokens := by
  cases tokens with
  | nil => exact absurd rfl some_tokens
  | cons token tokens => rfl

@[simp] theorem peek_bind (following : Token → Parse β) (tokens : List Token) :
    (peek >>= following) tokens = following (first tokens) tokens := rfl

@[simp] theorem peekSecond_bind (following : Token → Parse β) (tokens : List Token) :
    (peekSecond >>= following) tokens = following (first (tokens.drop 1)) tokens := rfl

theorem unexpected_ne_ok {place : Place} {a : α} : unexpected place tokens ≠ (.ok a, rest) :=
  fun came => by cases came

theorem lift_eq_ok {result : Except SyntaxFault α} {a : α} :
    lift result tokens = (.ok a, rest) ↔ result = .ok a ∧ tokens = rest := by
  cases result <;> simp [lift, value, fault]

/-- A token that is not the end is taken. -/
theorem next_cons {token : Token} (inner : token.kind ≠ .eof) (rest : List Token) :
    next (token :: rest) = (.ok token, rest) := by
  simp [next, Token.isEof, inner]

/-- What is behind a token that is not the end. -/
theorem eq_cons_of_first {kind : TokenKind} (here : (first tokens).kind = kind)
    (inner : kind ≠ .eof) : ∃ token rest, tokens = token :: rest ∧ token.kind = kind := by
  cases tokens with
  | nil => exact absurd here.symm inner
  | cons token rest => exact ⟨token, rest, rfl, here⟩

theorem expect_cons {token : Token} {kind : TokenKind} (here : token.kind = kind)
    (inner : kind ≠ .eof) (place : Place) (rest : List Token) :
    expect kind place (token :: rest) = (.ok token, rest) := by
  subst here
  simp [expect, next_cons inner]

/-- A token that was asked for was there, and it was taken. -/
theorem expect_eq_ok {kind : TokenKind} (inner : kind ≠ .eof) {place : Place} {token : Token}
    (came : expect kind place tokens = (.ok token, rest)) :
    tokens = token :: rest ∧ token.kind = kind := by
  rw [expect, peek_bind] at came
  split at came
  · rename_i here
    obtain ⟨token, rest, rfl, kindHere⟩ := eq_cons_of_first here inner
    rw [next_cons (by rw [kindHere]; exact inner)] at came
    cases came
    exact ⟨rfl, kindHere⟩
  · cases came

theorem accept_cons {token : Token} {kind : TokenKind} (here : token.kind = kind)
    (inner : kind ≠ .eof) (rest : List Token) :
    accept kind (token :: rest) = (.ok true, rest) := by
  subst here
  rw [accept, peek_bind, first_cons, if_pos rfl, bind_of_ok (next_cons inner rest)]
  rfl

theorem accept_of_ne {kind : TokenKind} (other : (first tokens).kind ≠ kind) :
    accept kind tokens = (.ok false, tokens) := by
  rw [accept, peek_bind, if_neg other]
  rfl

/-- A token is taken exactly if it was there. -/
theorem accept_eq_ok {kind : TokenKind} (inner : kind ≠ .eof) {taken : Bool}
    (came : accept kind tokens = (.ok taken, rest)) :
    (taken = true ∧ ∃ token, tokens = token :: rest ∧ token.kind = kind) ∨
      (taken = false ∧ tokens = rest ∧ (first tokens).kind ≠ kind) := by
  by_cases here : (first tokens).kind = kind
  · obtain ⟨token, behind, rfl, rfl⟩ := eq_cons_of_first here inner
    rw [accept_cons rfl inner] at came
    cases came
    exact .inl ⟨rfl, token, rfl, rfl⟩
  · rw [accept_of_ne here] at came
    cases came
    exact .inr ⟨rfl, rfl, here⟩

/-! ## Choices by the first token -/

section
variable {kind : TokenKind} {here other : Parse α} {following : α → Parse β}

theorem choice_of_kind (first_kind : (first tokens).kind = kind) :
    (peek >>= fun token => if token.kind = kind then here >>= following
      else other >>= following) tokens = (here >>= following) tokens := by
  rw [peek_bind, if_pos first_kind]

theorem choice_of_ne (first_kind : (first tokens).kind ≠ kind) :
    (peek >>= fun token => if token.kind = kind then here >>= following
      else other >>= following) tokens = (other >>= following) tokens := by
  rw [peek_bind, if_neg first_kind]

theorem choice_eq_ok {b : β}
    (came : (peek >>= fun token => if token.kind = kind then here >>= following
      else other >>= following) tokens = (.ok b, rest)) :
    ∃ a middle, (if (first tokens).kind = kind then here else other) tokens = (.ok a, middle) ∧
      following a middle = (.ok b, rest) := by
  rw [peek_bind] at came
  split at came
  · rename_i first_kind
    rw [if_pos first_kind]
    exact bind_eq_ok.1 came
  · rename_i first_kind
    rw [if_neg first_kind]
    exact bind_eq_ok.1 came

end

/-! ## Loops -/

/-- Every round but the last takes a token, and without tokens there is only a last one. -/
structure Advances (round : α → Parse (Round α)) : Prop where
  shortens : ∀ {a b tokens rest}, round a tokens = (.ok (.again b), rest) →
    rest.length < tokens.length
  ends : ∀ a, round a [] = (.ok (.done a), [])

section
variable {round : α → Parse (Round α)} {a b : α}

/-- Where there is a round for every token, the number of rounds does not matter. -/
theorem rounds_eq_rounds (advances : Advances round) {count other : Nat}
    (enough : tokens.length ≤ count) (otherEnough : tokens.length ≤ other) :
    rounds round count a tokens = rounds round other a tokens := by
  induction count generalizing other a tokens with
  | zero =>
    obtain rfl := List.eq_nil_of_length_eq_zero (Nat.le_zero.1 enough)
    cases other with
    | zero => rfl
    | succ other =>
      rw [rounds, rounds, bind_of_ok (advances.ends a)]
  | succ count inductionHypothesis =>
    cases other with
    | zero =>
      obtain rfl := List.eq_nil_of_length_eq_zero (Nat.le_zero.1 otherEnough)
      rw [rounds, rounds, bind_of_ok (advances.ends a)]
    | succ other =>
      rw [rounds, rounds, bind_apply, bind_apply]
      split
      · rename_i outcome behind came
        cases outcome with
        | again b =>
          have shorter := advances.shortens came
          exact inductionHypothesis (by omega) (by omega)
        | done b => rfl
      · rfl

/-- After a round that is not the last the loop goes on behind it. -/
theorem loop_again (advances : Advances round) (came : round a tokens = (.ok (.again b), rest)) :
    loop round a tokens = loop round b rest := by
  have shorter := advances.shortens came
  obtain ⟨count, length⟩ : ∃ count, tokens.length = count + 1 := ⟨tokens.length - 1, by omega⟩
  rw [loop, length, rounds, bind_of_ok came]
  exact rounds_eq_rounds advances (by omega) (Nat.le_refl _)

/-- After the last round the loop is over. -/
theorem loop_done (advances : Advances round) (came : round a tokens = (.ok (.done b), rest)) :
    loop round a tokens = (.ok b, rest) := by
  cases tokens with
  | nil =>
    rw [advances.ends a] at came
    cases came
    rfl
  | cons token tokens =>
    rw [loop, List.length_cons, rounds, bind_of_ok came]
    rfl

/-- A loop is one round and, unless that was the last one, the loop behind it. -/
theorem loop_eq (advances : Advances round) (a : α) (tokens : List Token) :
    loop round a tokens = (round a >>= fun outcome => match outcome with
      | .again b => loop round b
      | .done b => pure b) tokens := by
  cases came : round a tokens with
  | mk result rest =>
    rw [bind_apply, came]
    cases result with
    | ok outcome =>
      cases outcome with
      | again b => exact loop_again advances came
      | done b => exact loop_done advances came
    | error error =>
      cases tokens with
      | nil =>
        rw [advances.ends a] at came
        cases came
      | cons token tokens => rw [loop, List.length_cons, rounds, bind_apply, came]

/-- What holds at the beginning and goes over from round to round holds in the last one. -/
theorem loop_eq_ok (advances : Advances round) (during after : α → List Token → Prop)
    (step : ∀ {a b tokens rest}, during a tokens → round a tokens = (.ok (.again b), rest) →
      during b rest)
    (last : ∀ {a b tokens rest}, during a tokens → round a tokens = (.ok (.done b), rest) →
      after b rest)
    (start : during a tokens) (came : loop round a tokens = (.ok b, rest)) : after b rest := by
  generalize length : tokens.length = count
  induction count using Nat.strongRecOn generalizing a tokens with
  | ind count inductionHypothesis =>
    rw [loop_eq advances, bind_eq_ok] at came
    obtain ⟨outcome, behind, first, came⟩ := came
    cases outcome with
    | again next =>
      have shorter := advances.shortens first
      exact inductionHypothesis behind.length (by omega) (step start first) came rfl
    | done final =>
      cases came
      exact last start first

end

end RuleAtlas.Query.Parse
