import RuleAtlas.Proofs.Query.Balance

/-! # Lists in brackets

What is read between brackets is exactly the items with commas between them, and it makes no
difference whether a comma stands behind the last item. -/

namespace RuleAtlas.Query

open Parse

variable {α : Type} {tokens inside rest left : List Token} {as : List α}

/-! ## Lists of tokens -/

/-- The tokens end, and not with a comma. -/
def EndsWithItem (tokens : List Token) : Prop :=
  ∃ front last, tokens = front ++ [last] ∧ last.kind ≠ .comma

theorem EndsWithItem.of_append {front : List Token} (ends : EndsWithItem (front ++ tokens))
    (nonempty : tokens ≠ []) : EndsWithItem tokens := by
  obtain ⟨others, last, whole, noComma⟩ := ends
  obtain ⟨others', last', rfl⟩ := (List.eq_nil_or_concat' tokens).resolve_left nonempty
  rw [← List.append_assoc] at whole
  obtain ⟨-, rfl⟩ := List.append_singleton_inj.1 whole
  exact ⟨others', _, rfl, noComma⟩

section
variable {good : List Token → α → Prop} {comma : Token}

theorem Joined.append_comma (joined : Joined good inside as) (ends : EndsWithItem inside)
    (separates : comma.kind = .comma) : Joined good (inside ++ [comma]) as := by
  induction joined with
  | nil =>
    obtain ⟨front, last, none, -⟩ := ends
    simp at none
  | single first => exact .more first separates .nil
  | @more tokens others between _ _ first between_separates _ inductionHypothesis =>
    -- The comma is not the last token, so there is another item behind it.
    have nonempty : others ≠ [] := by
      rintro rfl
      obtain ⟨front, last, whole, noComma⟩ := ends
      obtain ⟨-, rfl⟩ := List.append_singleton_inj.1 whole
      exact noComma between_separates
    have whole : EndsWithItem ((tokens ++ [between]) ++ others) := by simpa using ends
    rw [List.append_assoc, List.cons_append]
    exact .more first between_separates (inductionHypothesis (whole.of_append nonempty))

theorem Joined.eq_nil (joined : Joined good [] as)
    (each : ∀ tokens a, good tokens a → tokens ≠ []) : as = [] := by
  generalize none : ([] : List Token) = tokens at joined
  cases joined with
  | nil => rfl
  | single first => exact absurd none.symm (each _ _ first)
  | more => simp at none

theorem Joined.of_append_comma (joined : Joined good (inside ++ [comma]) as)
    (each : ∀ tokens a, good tokens a → tokens ≠ [] ∧ ∀ token ∈ tokens, token.kind ≠ .comma)
    (separates : comma.kind = .comma) : Joined good inside as := by
  generalize whole : inside ++ [comma] = tokens at joined
  induction joined generalizing inside with
  | nil => simp at whole
  | single first => exact absurd separates ((each _ _ first).2 comma (by simp [← whole]))
  | @more tokens others between _ _ first between_separates joined inductionHypothesis =>
    -- The last comma is the one behind this item, or it stands behind a later one.
    rcases List.eq_nil_or_concat' others with rfl | ⟨front, last, rfl⟩
    · obtain ⟨rfl, -⟩ := List.append_singleton_inj.1 whole
      rw [joined.eq_nil fun tokens a listItem => (each tokens a listItem).1]
      exact .single first
    · have regrouped : inside ++ [comma] = (tokens ++ between :: front) ++ [last] := by
        simpa using whole
      obtain ⟨rfl, rfl⟩ := List.append_singleton_inj.1 regrouped
      exact .more first between_separates (inductionHypothesis rfl)

theorem Joined.forall_mem (joined : Joined good inside as) {holds : Token → Prop}
    (each : ∀ tokens a, good tokens a → ∀ token ∈ tokens, holds token)
    (commas : ∀ token, token.kind = .comma → holds token) : ∀ token ∈ inside, holds token := by
  induction joined with
  | nil => simp
  | single first => exact each _ _ first
  | more first separates _ inductionHypothesis =>
    simp only [List.mem_append, List.mem_cons]
    rintro token (here | rfl | later)
    · exact each _ _ first token here
    · exact commas _ separates
    · exact inductionHypothesis token later

end

theorem Lexical.insert {front : List Token} {comma : Token} (lexical : Lexical (front ++ tokens))
    (separates : comma.kind = .comma) : Lexical (front ++ comma :: tokens) := by
  intro token member
  rcases List.mem_append.1 member with here | behind
  · exact lexical token (List.mem_append_left _ here)
  · rcases List.mem_cons.1 behind with rfl | later
    · exact Lexeme.isLexical_of_ne (by simp [Token.lexeme, separates])
        (by simp [Token.lexeme, separates])
    · exact lexical token (List.mem_append_right _ later)

/-! ## Items that are read one by one -/

/-- The tokens of an item, which is read from them whatever stands behind them. -/
structure ListItem (item : Parse α) (closing : TokenKind) (tokens : List Token) (a : α) : Prop where
  reads : ∀ rest, item (tokens ++ rest) = (.ok a, rest)
  nonempty : tokens ≠ []
  inside : ∀ token ∈ tokens, token.kind ∉ [.comma, closing]

section
variable {item : Parse α} {closing : TokenKind} {closer : Token}

theorem Joined.noClosing (joined : Joined (ListItem item closing) inside as)
    (noComma : closing ≠ .comma) : ∀ token ∈ inside, token.kind ≠ closing := by
  refine joined.forall_mem (fun tokens a listItem token member => ?_) fun token comma => ?_
  · have other := listItem.inside token member
    simp only [List.mem_cons, List.not_mem_nil, or_false, not_or] at other
    exact other.2
  · rw [comma]
    exact noComma.symm

theorem several_of_joined (takes : item.Takes) (joined : Joined (ListItem item closing) inside as)
    (nonempty : inside ≠ []) (closes : closer.kind = closing) (noComma : closing ≠ .comma) :
    several item (some closing) (inside ++ closer :: rest) = (.ok as, closer :: rest) := by
  induction joined with
  | nil => exact absurd rfl nonempty
  | single first =>
    rw [several_eq takes, bind_of_ok (first.reads _), bind_of_ok (accept_of_ne ?_)]
    · rfl
    · rw [first_cons, closes]
      exact noComma
  | @more tokens others between a _ first separates joined inductionHypothesis =>
    rw [several_eq takes, List.append_assoc, bind_of_ok (first.reads _), List.cons_append,
      bind_of_ok (accept_cons separates (by decide) _), itemsBehind, if_pos rfl, peek_bind]
    cases others with
    | nil =>
      rw [joined.eq_nil fun tokens a listItem => listItem.nonempty]
      rw [List.nil_append, first_cons, if_pos (by rw [closes])]
      rfl
    | cons token others =>
      have unclosed : token.kind ≠ closing := joined.noClosing noComma token List.mem_cons_self
      rw [List.cons_append, first_cons, if_neg (by simpa using unclosed)]
      exact map_of_ok (inductionHypothesis (List.cons_ne_nil _ _))

/-! ## Brackets -/

/-- Items with commas between them and perhaps behind them, in brackets. -/
def bracketed (opening closing : TokenKind) (place last : Place) (item : Parse α) :
    Parse (List α) := do
  let _ ← expect opening place
  let as ← if (← peek).kind = closing then pure [] else separated item (some closing)
  let _ ← expect closing last
  pure as

theorem readLabels_eq (place : Place) : readLabels place =
    bracketed .leftParen .rightParen place place (readLabel place) := rfl

theorem readMatchers_eq : readMatchers =
    bracketed .leftBrace .rightBrace .matchers .matchersEnd readMatcher := rfl

section
variable {opening : TokenKind} {place last : Place} {opener : Token}

theorem bracketed_of_joined (takes : item.Takes) (joined : Joined (ListItem item closing) inside as)
    (opens : opener.kind = opening) (closes : closer.kind = closing)
    (brackets : opening ≠ .eof ∧ closing ∉ [.comma, .eof]) :
    bracketed opening closing place last item (opener :: (inside ++ closer :: rest)) =
      (.ok as, rest) := by
  obtain ⟨noEnd, others⟩ := brackets
  simp only [List.mem_cons, List.not_mem_nil, or_false, not_or] at others
  have ends : (expect closing last >>= fun _ => pure as) (closer :: rest) = (.ok as, rest) :=
    bind_of_ok (expect_cons closes others.2 last rest)
  rw [bracketed, bind_of_ok (expect_cons opens noEnd place _)]
  cases inside with
  | nil =>
    rw [joined.eq_nil fun tokens a listItem => listItem.nonempty] at ends ⊢
    have begins : (first (closer :: rest)).kind = closing := closes
    exact (choice_of_kind begins).trans ends
  | cons token tokens =>
    have begins : (first (token :: tokens ++ closer :: rest)).kind ≠ closing :=
      joined.noClosing others.1 token List.mem_cons_self
    have read : separated item (some closing) (token :: tokens ++ closer :: rest) =
        (.ok as, closer :: rest) := by
      rw [separated_eq_several takes (by simp)]
      exact several_of_joined takes joined (List.cons_ne_nil _ _) closes others.1
    exact (choice_of_ne begins).trans ((bind_of_ok read).trans ends)

/-- There is one place where a kind comes up first. -/
theorem eq_of_first_of_kind {others more : List Token} {token : Token}
    (none : ∀ token ∈ inside, token.kind ≠ closing) (closes : closer.kind = closing)
    (noOther : ∀ token ∈ others, token.kind ≠ closing) (same : token.kind = closing)
    (whole : inside ++ closer :: rest = others ++ token :: more) :
    inside = others ∧ closer = token ∧ rest = more := by
  -- The tokens in front of it are those up to the first of this kind.
  have fronts := congrArg (List.takeWhile (·.kind ≠ closing)) whole
  rw [List.takeWhile_append_of_pos (by simpa using none),
    List.takeWhile_append_of_pos (by simpa using noOther),
    List.takeWhile_cons_of_neg (by simp [closes]), List.takeWhile_cons_of_neg (by simp [same]),
    List.append_nil, List.append_nil] at fronts
  subst fronts
  exact ⟨rfl, List.cons.inj (List.append_cancel_left whole)⟩

/-- Between brackets stand the items, and nothing else. -/
theorem bracketed_eq_ok (each : ∀ tokens, item.Consumes tokens (ListItem item closing))
    (noClosing : ∀ token ∈ inside, token.kind ≠ closing) (closes : closer.kind = closing)
    (brackets : opening ≠ .eof ∧ closing ∉ [.comma, .eof])
    (lexical : Lexical (opener :: (inside ++ closer :: rest)))
    (came : bracketed opening closing place last item (opener :: (inside ++ closer :: rest)) =
      (.ok as, left)) :
    left = rest ∧ opener.kind = opening ∧ Joined (ListItem item closing) inside as := by
  have consumes : ∀ tokens, (bracketed opening closing place last item).Consumes tokens
      fun taken as => ∃ first middle final, taken = first :: (middle ++ [final]) ∧
        first.kind = opening ∧ final.kind = closing ∧ Joined (ListItem item closing) middle as := by
    intro tokens
    refine (Consumes.expect place brackets.1).behind ?_
    rintro _ opener rest ⟨rfl, opens⟩
    refine .choice (Joined (ListItem item closing)) (fun _ => .value .nil)
      (fun _ => .separated each (some closing)) ?_
    intro inside as rest joined
    refine (Consumes.expect last fun eof => brackets.2 (by simp [eof])).behind ?_
    rintro _ closer rest ⟨rfl, closes⟩
    exact .value ⟨opener, inside, closer, by simp, opens, closes, joined⟩
  -- What was taken ends where the brackets do, since no item has a closing one in it.
  obtain ⟨taken, whole, first, middle, final, rfl, opens, ends, joined⟩ :=
    consumes _ lexical as left came
  rw [List.cons_append, List.append_assoc, List.singleton_append] at whole
  obtain ⟨rfl, behind⟩ := List.cons.inj whole
  have noComma : closing ≠ .comma := fun comma => brackets.2 (by simp [comma])
  obtain ⟨rfl, rfl, rfl⟩ :=
    eq_of_first_of_kind noClosing closes (joined.noClosing noComma) ends behind
  exact ⟨rfl, opens, joined⟩

/-- A comma behind the last item makes no difference. -/
theorem bracketed_comma {comma : Token} (takes : item.Takes)
    (each : ∀ tokens, item.Consumes tokens (ListItem item closing))
    (noClosing : ∀ token ∈ inside, token.kind ≠ closing) (ends : EndsWithItem inside)
    (separates : comma.kind = .comma) (closes : closer.kind = closing)
    (brackets : opening ≠ .eof ∧ closing ∉ [.comma, .eof])
    (lexical : Lexical (opener :: (inside ++ closer :: rest))) :
    bracketed opening closing place last item (opener :: (inside ++ closer :: rest)) =
        (.ok as, left) ↔
      bracketed opening closing place last item (opener :: (inside ++ comma :: closer :: rest)) =
        (.ok as, left) := by
  have noComma : comma.kind ≠ closing := fun same => brackets.2 (by simp [← same, separates])
  have regrouped : inside ++ comma :: closer :: rest = (inside ++ [comma]) ++ closer :: rest := by
    simp
  rw [regrouped]
  constructor
  · intro came
    obtain ⟨rfl, opens, joined⟩ := bracketed_eq_ok each noClosing closes brackets lexical came
    exact bracketed_of_joined takes (joined.append_comma ends separates) opens closes brackets
  · intro came
    have noClosingToo : ∀ token ∈ inside ++ [comma], token.kind ≠ closing := by
      simp only [List.mem_append, List.mem_singleton]
      rintro token (here | rfl)
      · exact noClosing token here
      · exact noComma
    have lexicalToo : Lexical (opener :: (inside ++ [comma] ++ closer :: rest)) := by
      rw [← regrouped]
      have inserted : Lexical ((opener :: inside) ++ comma :: closer :: rest) :=
        Lexical.insert lexical separates
      exact inserted
    obtain ⟨rfl, opens, joined⟩ :=
      bracketed_eq_ok each noClosingToo closes brackets lexicalToo came
    refine bracketed_of_joined takes (joined.of_append_comma ?_ separates) opens closes brackets
    refine fun tokens a listItem => ⟨listItem.nonempty, fun token member comma => ?_⟩
    exact listItem.inside token member (by simp [comma])

end

end

/-! ## Labels and matchers -/

theorem consumes_label (place : Place) (tokens : List Token) :
    (readLabel place).Consumes tokens (ListItem (readLabel place) .rightParen) := by
  intro _ label rest came
  obtain ⟨token, middle, expected, read⟩ := bind_eq_ok.1 came
  cases read
  obtain ⟨rfl, ident⟩ := expect_eq_ok (by decide) expected
  refine ⟨[token], rfl, fun rest => ?_, by simp, by simp [ident]⟩
  exact bind_of_ok (expect_cons ident (by decide) place rest)

theorem readMatcher_cons {label operator text : Token} {comparison : MatchKind}
    (ident : label.kind = .ident) (known : matchKind? operator.kind = some comparison)
    (isText : text.kind = .string) (rest : List Token) :
    readMatcher (label :: operator :: text :: rest) =
      lift ((LabelMatcher.make label.text comparison text.text).mapError .badMatcher) rest := by
  have inner : operator.kind ≠ .eof := by
    intro eof
    simp [eof, matchKind?] at known
  have read : readLabel .matcherLabel (label :: operator :: text :: rest) =
      (.ok label.text, operator :: text :: rest) :=
    bind_of_ok (expect_cons ident (by decide) _ _)
  rw [readMatcher, bind_of_ok read, peek_bind, first_cons, known]
  dsimp only
  rw [bind_of_ok (next_cons inner _), bind_of_ok (expect_cons isText (by decide) _ rest)]

theorem consumes_matcher (tokens : List Token) :
    readMatcher.Consumes tokens (ListItem readMatcher .rightBrace) := by
  intro lexical matcher rest came
  obtain ⟨taken, rfl, label, operator, text, rfl, ⟨_, same, ident, -⟩, known, isText⟩ :=
    consumes_readMatcher tokens lexical matcher rest came
  cases same
  obtain ⟨comparison, known⟩ := Option.isSome_iff_exists.1 known
  refine ⟨_, rfl, fun rest => ?_, by simp, ?_⟩
  · have read := (readMatcher_cons ident known isText _).symm.trans came
    exact (readMatcher_cons ident known isText rest).trans
      (lift_eq_ok.2 ⟨(lift_eq_ok.1 read).1, rfl⟩)
  · have symbol : operator.kind ∉ [.comma, .rightBrace] := by
      intro other
      rcases List.mem_pair.1 other with kind | kind <;> simp [kind, matchKind?] at known
    simp only [List.forall_mem_cons, ident, isText]
    exact ⟨by decide, symbol, by decide, by simp⟩

section
variable {opener closer comma : Token}

theorem Enclosed.kinds {first last : TokenKind} {holds : List Token → Prop}
    (enclosed : Enclosed first last holds (opener :: (inside ++ [closer]))) :
    opener.kind = first ∧ closer.kind = last ∧ holds inside := by
  obtain ⟨_, middle, _, same, opens, closes, holds⟩ := enclosed
  obtain ⟨rfl, behind⟩ := List.cons.inj same
  obtain ⟨rfl, rfl⟩ := List.append_singleton_inj.1 behind
  exact ⟨opens, closes, holds⟩

theorem IsLabelList.noParen (list : IsLabelList (opener :: (inside ++ [closer]))) :
    ∀ token ∈ inside, token.kind ≠ .rightParen := by
  obtain ⟨-, -, labels, joined⟩ := Enclosed.kinds list
  refine joined.forall_mem ?_ fun token comma => by simp [comma]
  rintro _ label ⟨token, rfl, ident, -⟩
  simp [ident]

theorem IsMatcherList.noBrace (list : IsMatcherList (opener :: (inside ++ [closer]))) :
    ∀ token ∈ inside, token.kind ≠ .rightBrace := by
  obtain ⟨-, -, matchers, joined⟩ := Enclosed.kinds list
  refine joined.forall_mem ?_ fun token comma => by simp [comma]
  rintro _ matcher ⟨label, operator, text, rfl, ⟨_, same, ident, -⟩, known, isText⟩
  cases same
  have symbol : operator.kind ≠ .rightBrace := by
    intro kind
    simp [kind, matchKind?] at known
  simp [ident, symbol, isText]

theorem readLabels_comma {place : Place} {labels : List String}
    (list : IsLabelList (opener :: (inside ++ [closer]))) (ends : EndsWithItem inside)
    (separates : comma.kind = .comma) (lexical : Lexical (opener :: (inside ++ closer :: rest))) :
    readLabels place (opener :: (inside ++ closer :: rest)) = (.ok labels, left) ↔
      readLabels place (opener :: (inside ++ comma :: closer :: rest)) = (.ok labels, left) := by
  rw [readLabels_eq]
  exact bracketed_comma (takes_readLabel place) (consumes_label place) list.noParen ends separates
    (Enclosed.kinds list).2.1 (by decide) lexical

theorem readMatchers_comma {matchers : List LabelMatcher}
    (list : IsMatcherList (opener :: (inside ++ [closer]))) (ends : EndsWithItem inside)
    (separates : comma.kind = .comma) (lexical : Lexical (opener :: (inside ++ closer :: rest))) :
    readMatchers (opener :: (inside ++ closer :: rest)) = (.ok matchers, left) ↔
      readMatchers (opener :: (inside ++ comma :: closer :: rest)) = (.ok matchers, left) := by
  rw [readMatchers_eq]
  exact bracketed_comma takes_readMatcher consumes_matcher list.noBrace ends separates
    (Enclosed.kinds list).2.1 (by decide) lexical

/-- Labels are read from their list, whatever stands behind it. -/
theorem readLabels_elsewhere {list : List Token} {labels : List String} {place : Place}
    (isList : IsLabelList list)
    (lexical : Lexical (list ++ rest)) (came : readLabels place (list ++ rest) = (.ok labels, left))
    (other : List Token) :
    left = rest ∧ readLabels place (list ++ other) = (.ok labels, other) := by
  obtain ⟨opener, inside, closer, rfl, opens, closes, -⟩ := id isList
  rw [List.cons_append, List.append_assoc] at lexical came ⊢
  rw [readLabels_eq] at came ⊢
  obtain ⟨rfl, -, joined⟩ := bracketed_eq_ok (consumes_label place) isList.noParen closes
    (by decide) lexical came
  exact ⟨rfl, bracketed_of_joined (takes_readLabel place) joined opens closes (by decide)⟩

end

end RuleAtlas.Query
