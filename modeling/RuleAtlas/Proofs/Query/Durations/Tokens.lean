import RuleAtlas.Proofs.Query.Durations.Amounts
import RuleAtlas.Proofs.Query.RoundTrip
import RuleAtlas.Proofs.Query.Spans

/-! # Durations are tokens

What is written for a duration is read back, by the reader of durations and by the lexer.  More
than that, every text of a duration is one token, but for the zero without a unit, which is a
number; so whatever is accepted as a duration where it stands alone is also accepted as the
range of a selector. -/

namespace RuleAtlas.Query

open Parse
open Written (word digits leftBracket rightBracket)

variable {text name : String} {duration : Duration}

/-! ## Tokens -/

namespace Duration

/-- A duration but for the zero without a unit is written as groups, at least one. -/
theorem areGroups_of_parse (parsed : parse text = .ok duration) (unit : text ≠ "0") :
    AreGroups text.toList ∧ text.toList ≠ [] := by
  obtain ⟨⟨zero, -⟩ | ⟨amounts, nonempty, falling, whole, -⟩, -⟩ := parse_eq_ok_iff.1 parsed
  · exact absurd (String.toList_inj.1 zero) unit
  · obtain ⟨amount, more, rfl⟩ := List.exists_cons_of_ne_nil nonempty
    refine ⟨whole ▸ falling.areGroups (List.Subset.refl _), fun empty => ?_⟩
    rw [empty, textOf_cons] at whole
    exact (falling.numbers amount List.mem_cons_self).1
      (List.append_eq_nil_iff.1 whole.symm).1

/-- The tokens of an input that is one duration. -/
def tokens (text : String) : List Token := [⟨.duration, text, 0⟩, ⟨.eof, "", text.utf8ByteSize⟩]

theorem tokenize_of_areGroups (groups : AreGroups text.toList) (nonempty : text.toList ≠ []) :
    tokenize text = .ok (tokens text) := by
  have stops : Text.Stops sticksToNumber [] := Text.stops_nil
  obtain ⟨read, begins⟩ := readNumber_groups groups nonempty stops
  obtain ⟨first, more, whole⟩ := List.exists_cons_of_ne_nil nonempty
  rw [whole, List.append_nil] at read
  have digit : first.isDigit = true := by simpa [whole] using begins
  obtain ⟨noGap, same⟩ := readLexeme_of_isDigit digit (more ++ [])
  have found : readLexeme first (more ++ []) =
      .found (first :: more) ⟨.duration, first :: more⟩ := by
    rw [same, List.append_nil, read]
    rfl
  have length : Text.byteLength (first :: more) = text.utf8ByteSize := by
    rw [← whole, Text.byteLength_toList]
  have written : String.ofList (first :: more) = text := by
    rw [← whole, String.ofList_toList]
  have here : Cursor.start text = ⟨0, first :: (more ++ [])⟩ := by
    rw [Cursor.start, whole, List.append_nil]
  rw [tokenize, here, Cursor.tokens_of_lexeme noGap found, @Cursor.tokens_of_nil ⟨_, []⟩ rfl,
    length, written]
  simp [tokens, Except.map, Cursor.skipGap, Cursor.advance, gap]

end Duration

/-! ## Ranges -/

theorem readDurationToken_of_parse (parsed : Duration.parse text = .ok duration) (place : Place)
    (rest : List Token) :
    readDurationToken place (⟨.duration, text, 0⟩ :: rest) = (.ok duration, rest) := by
  rw [readDurationToken, bind_of_ok (expect_cons (by rfl) (by decide) place rest)]
  change lift ((Duration.parse text).mapError _) rest = _
  rw [parsed]
  rfl

/-- The tokens of a named selector with a range are read as such. -/
theorem readWhole_range (parsed : Duration.parse text = .ok duration)
    (noNumber : numberWord? name = none) {ending : Token} (ends : ending.kind = .eof) :
    readWhole [word name, leftBracket, ⟨.duration, text, 0⟩, rightBracket, ending] =
      (.ok (.matrix ⟨some name, [], .none⟩ duration), [ending]) := by
  let range : List Token := [leftBracket, ⟨.duration, text, 0⟩, rightBracket, ending]
  have primary : readPrimary (readLevels (maxLevels - 1)) (word name :: range) =
      (.ok (.vector ⟨some name, [], .none⟩), range) := by
    have opening : first range = leftBracket := rfl
    rw [readPrimary_name noNumber (by rw [opening]; decide) (by rw [opening]; decide)]
    exact readSelector_name (by rw [opening]; decide)
  have bracket : readPostfix (.vector ⟨some name, [], .none⟩) range =
      (.ok (.again (.matrix ⟨some name, [], .none⟩ duration)), [ending]) := by
    rw [readPostfix, bind_of_ok (accept_cons (by rfl) (by decide) _), if_pos rfl, readRange]
    apply map_of_ok
    rw [bind_of_ok (readDurationToken_of_parse parsed .range _),
      bind_of_ok (accept_cons (by rfl) (by decide) _), if_pos rfl]
    rfl
  have closed : (first [ending]).EndsOperand := .of_kind ends (.inr (.inr rfl))
  have noOperator : binaryOp? (first [ending]) = none := by rw [binaryOp?, first_cons, ends]
  have unary : readUnary (readLevels (maxLevels - 1)) (word name :: range) =
      (.ok (.matrix ⟨some name, [], .none⟩ duration), [ending]) := by
    rw [readUnary, peek_bind]
    change (readPrimary _ >>= readPostfixes) _ = _
    rw [bind_of_ok primary, readPostfixes, loop_again advances_readPostfix bracket]
    exact loop_done advances_readPostfix (readPostfix_done closed.noPostfix)
  have whole : readExpr (word name :: range) =
      (.ok (.matrix ⟨some name, [], .none⟩ duration), [ending]) := by
    change readOperands (readLevels (maxLevels - 1)) 0 _ = _
    rw [readOperands, bind_of_ok unary]
    refine loop_done (advances_readOperation fun least => Relation.readLevels _ least) ?_
    refine readOperation_done fun op here => ?_
    rw [noOperator] at here
    cases here
  have finished : (first [ending]).isEof = true := beq_iff_eq.2 ends
  have begins : (first (word name :: range)).isEof = false := rfl
  change readWhole (word name :: range) = _
  rw [readWhole, peek_bind, begins, if_neg Bool.false_ne_true, bind_of_ok whole, peek_bind,
    finished]
  rfl

/-- Behind the name of a series a duration in brackets is its range. -/
theorem parse_range (parsed : Duration.parse text = .ok duration) (unit : text ≠ "0")
    (isWord : isWord name.toList = true) (noNumber : numberWord? name = none) :
    Expr.parse (name ++ "[" ++ text ++ "]") = .ok (.matrix ⟨some name, [], .none⟩ duration) := by
  obtain ⟨groups, nonempty⟩ := Duration.areGroups_of_parse parsed unit
  let range : Token := ⟨.duration, text, 0⟩
  have named : Prints name [word name] ("[".toList ++ (text.toList ++ ("]".toList ++ []))) :=
    .word isWord (Text.stops_cons.2 rfl)
  have written : Prints text [range] ("]".toList ++ []) :=
    lexes_groups groups nonempty (Text.stops_cons.2 rfl)
  have all : Prints (name ++ "[" ++ text ++ "]") [word name, leftBracket, range, rightBracket] [] :=
    ((named.append .leftBracket).append written).append .rightBracket
  obtain ⟨tokens, lexed, same⟩ := Lexes.tokenize all
  have alike : tokens.map Token.lexeme =
      [word name, leftBracket, range, rightBracket, ⟨.eof, "", 0⟩].map Token.lexeme := by
    rw [same]
    rfl
  have read := readWhole_of_lexeme alike (readWhole_range parsed noNumber rfl)
  unfold Expr.parse
  rw [lexed]
  dsimp only
  rw [read]
  rfl

/-! ## Durations are read back -/

/-- The text of a duration of 64 bits is read back as this duration, and it is one token.  So is
every text of a duration but for the zero without a unit, and behind the name of a series, which
is no number, it is the range of a selector. -/
theorem duration_readsBack :
    (∀ duration : Duration, duration.millis < Duration.limit →
      Duration.parse duration.render = .ok duration ∧
        tokenize duration.render = .ok (Duration.tokens duration.render)) ∧
    ∀ text duration, Duration.parse text = .ok duration → text ≠ "0" →
      tokenize text = .ok (Duration.tokens text) ∧
        ∀ name : String, isWord name.toList = true → numberWord? name = none →
          Expr.parse (name ++ "[" ++ text ++ "]") =
            .ok (.matrix ⟨some name, [], .none⟩ duration) := by
  constructor
  · intro duration bounded
    obtain ⟨groups, nonempty⟩ := duration.areGroups_text
    rw [← String.toList_ofList (l := duration.text)] at groups nonempty
    exact ⟨Duration.parse_render bounded, Duration.tokenize_of_areGroups groups nonempty⟩
  · intro text duration parsed unit
    obtain ⟨groups, nonempty⟩ := Duration.areGroups_of_parse parsed unit
    exact ⟨Duration.tokenize_of_areGroups groups nonempty,
      fun name word noNumber => parse_range parsed unit word noNumber⟩

/-- Minutes in front of milliseconds, with zeros that a duration is not written with. -/
theorem duration_readsBack_zeros :
    Duration.parse "00m0ms" = .ok ⟨0⟩ ∧ "00m0ms" ≠ "0" ∧
      tokenize "00m0ms" = .ok (Duration.tokens "00m0ms") ∧
      isWord "sum".toList = true ∧ numberWord? "sum" = none ∧
      Expr.parse "sum[00m0ms]" = .ok (.matrix ⟨some "sum", [], .none⟩ ⟨0⟩) ∧
      (Duration.mk 60001).millis < Duration.limit ∧
      Duration.parse (Duration.mk 60001).render = .ok ⟨60001⟩ := by
  let amounts : List Duration.Amount :=
    [⟨['0', '0'], ⟨['m'], 60 * 1000⟩⟩, ⟨['0'], ⟨['m', 's'], 1⟩⟩]
  have falling : Duration.Falling durationUnits amounts :=
    ⟨by simp [amounts, Binary64.AllDigits], by decide⟩
  have parsed : Duration.parse "00m0ms" = .ok ⟨0⟩ :=
    Duration.parse_eq_ok_iff.2
      ⟨.inr ⟨amounts, List.cons_ne_nil _ _, falling, by decide, by decide⟩, by decide⟩
  have unit : "00m0ms" ≠ "0" := by decide
  have word : isWord "sum".toList = true := by decide +kernel
  have noNumber : numberWord? "sum" = none := by decide +kernel
  have bounded : (Duration.mk 60001).millis < Duration.limit := by decide
  obtain ⟨one, range⟩ := duration_readsBack.2 "00m0ms" ⟨0⟩ parsed unit
  exact ⟨parsed, unit, one, word, noNumber, range "sum" word noNumber, bounded,
    (duration_readsBack.1 ⟨60001⟩ bounded).1⟩

end RuleAtlas.Query
