import RuleAtlas.Proofs.Query.Indexed.Calls

/-! # Where rejections point

Whatever is wrong with an input, the failure says so at one byte offset, and that is the offset
of a place between two characters.  A fault of the lexer points at its token or at an escape in
it; a fault of the parser, wherever in the grammar it is found and whichever rule it breaks,
points at the first token that remains.  A parser that is called again never points back. -/

namespace RuleAtlas.Query

open Parse
open Text (byteLength)

variable {input : String} {tokens rest : List Token}

/-! ## Boundaries -/

/-- The byte offset is that of a place between two characters of the input, or of an end. -/
def IsBoundary (input : String) (offset : Nat) : Prop :=
  ∃ before after, input.toList = before ++ after ∧ offset = byteLength before

theorem IsBoundary.le {offset : Nat} (boundary : IsBoundary input offset) :
    offset ≤ input.utf8ByteSize := by
  obtain ⟨before, after, whole, rfl⟩ := boundary
  rw [← Text.byteLength_toList, whole, Text.byteLength_append]
  exact Nat.le_add_right ..

theorem Cursor.StandsIn.isBoundary {cursor : Cursor} (here : cursor.StandsIn input) :
    IsBoundary input cursor.pos := by
  obtain ⟨before, whole, pos⟩ := here
  exact ⟨before, cursor.rest, whole, pos⟩

/-! ## Stumbling readings -/

/-- A fault is reported at a place inside of the characters that were read. -/
def Reading.StumblesInside {α : Type} (reading : Reading α) : Prop :=
  ∀ stumble, reading.outcome = .error stumble → stumble.before <+: reading.source

namespace Reading.StumblesInside

variable {α β : Type} {reading : Reading α}

theorem found (source : List Char) (a : α) : (Reading.found source a).StumblesInside :=
  fun _ stumbled => by cases stumbled

theorem fault (source : List Char) (fault : LexicalFault) :
    (Reading.fault source fault : Reading α).StumblesInside := by
  intro stumble stumbled
  cases stumbled
  exact List.nil_prefix

theorem behind (front : List Char) (inside : reading.StumblesInside) :
    (reading.behind front).StumblesInside := by
  intro stumble stumbled
  unfold Reading.behind at stumbled
  cases outcome : reading.outcome with
  | ok a =>
    rw [outcome] at stumbled
    cases stumbled
  | error earlier =>
    rw [outcome] at stumbled
    cases stumbled
    exact (List.prefix_append_right_inj front).2 (inside earlier outcome)

theorem map (f : α → β) (inside : reading.StumblesInside) : (reading.map f).StumblesInside := by
  intro stumble stumbled
  unfold Reading.map at stumbled
  cases outcome : reading.outcome with
  | ok a =>
    rw [outcome] at stumbled
    cases stumbled
  | error earlier =>
    rw [outcome] at stumbled
    cases stumbled
    exact inside _ outcome

theorem atStart (reading : Reading α) : reading.atStart.StumblesInside := by
  intro stumble stumbled
  unfold Reading.atStart at stumbled
  cases outcome : reading.outcome with
  | ok a =>
    rw [outcome] at stumbled
    cases stumbled
  | error earlier =>
    rw [outcome] at stumbled
    cases stumbled
    exact List.nil_prefix

end Reading.StumblesInside

open Reading (StumblesInside)

theorem stumblesInside_readQuoted (quote : Char) (text : List Char) :
    (readQuoted quote text).StumblesInside := by
  fun_induction readQuoted quote text with
  | case1 | case3 | case4 => exact .fault _ _
  | case2 => exact .found _ _
  | case5 rest =>
    rename_i inductionHypothesis
    exact (inductionHypothesis.map _).behind _
  | case6 c rest _ _ _ inductionHypothesis => exact (inductionHypothesis.map _).behind [c]

theorem stumblesInside_readString (quote : Char) (rest : List Char) :
    (readString quote rest).StumblesInside := by
  unfold readString
  simp only
  split
  · exact .atStart _
  · exact (stumblesInside_readQuoted quote rest).behind [quote]

theorem stumblesInside_readRaw (quote : Char) (rest : List Char) :
    (readRaw quote rest).StumblesInside := by
  unfold readRaw
  simp only
  split
  · exact .fault _ _
  · exact .found _ _

theorem stumblesInside_finishNumber (kind : TokenKind) (source rest : List Char) :
    (finishNumber kind source rest).StumblesInside := by
  unfold finishNumber
  split
  · exact .found _ _
  · split
    · exact .fault _ _
    · exact .found _ _

theorem stumblesInside_readNumber (text : List Char) : (readNumber text).StumblesInside := by
  have hexadecimal : ∀ lead rest : List Char, (readHexadecimal lead rest).StumblesInside := by
    intro lead rest
    unfold readHexadecimal
    simp only
    split
    · exact .fault _ _
    · exact stumblesInside_finishNumber _ _ _
  unfold readNumber
  split
  · exact hexadecimal _ _
  · exact hexadecimal _ _
  · unfold readDecimal readDuration
    simp only
    split
    · split
      · exact .fault _ _
      · exact stumblesInside_finishNumber _ _ _
    · exact stumblesInside_finishNumber _ _ _

theorem stumblesInside_readSymbol (c : Char) (rest : List Char) :
    (readSymbol c rest).StumblesInside := by
  have single : (readSingle c).StumblesInside := by
    unfold readSingle
    split
    · exact .found _ _
    · exact .found _ _
    · exact .found _ _
    · exact .fault _ _
    · split
      · exact .found _ _
      · exact .fault _ _
  unfold readSymbol
  split
  · exact single
  · split
    · exact .found _ _
    · exact single

theorem stumblesInside_readLexeme (first : Char) (rest : List Char) :
    (readLexeme first rest).StumblesInside := by
  unfold readLexeme
  split
  · exact (stumblesInside_readString first rest).map _
  · split
    · exact (stumblesInside_readRaw first rest).map _
    · split
      · exact (stumblesInside_readNumber _).map _
      · split
        · exact (StumblesInside.found _ _).map _
        · exact (stumblesInside_readSymbol first rest).map _

/-! ## Places of tokens and of their faults -/

/-- The tokens stand at boundaries of the input, one behind the other from an offset on, and
the token for the end stands at its end. -/
structure Placed (input : String) (start : Nat) (tokens : List Token) : Prop where
  boundary : ∀ token ∈ tokens, IsBoundary input token.pos
  behind : ∀ token ∈ tokens, start ≤ token.pos
  ascending : tokens.Pairwise fun token later => token.pos ≤ later.pos
  ending : ∀ token ∈ tokens, token.kind = .eof → token.pos = input.utf8ByteSize

theorem Placed.cons {start next : Nat} {token : Token} (boundary : IsBoundary input token.pos)
    (behind : start ≤ token.pos) (notEnd : token.kind ≠ .eof) (forward : token.pos ≤ next)
    (placed : Placed input next tokens) : Placed input start (token :: tokens) where
  boundary := List.forall_mem_cons.2 ⟨boundary, placed.boundary⟩
  behind := List.forall_mem_cons.2
    ⟨behind, fun other member => by have later := placed.behind other member; omega⟩
  ascending := List.pairwise_cons.2
    ⟨fun other member => Nat.le_trans forward (placed.behind other member), placed.ascending⟩
  ending := List.forall_mem_cons.2 ⟨fun eof => absurd eof notEnd, placed.ending⟩

namespace Cursor

variable {cursor : Cursor}

/-- A token that cannot be read is reported behind the gap, where its reading stumbles. -/
theorem next_of_error {first : Char} {rest : List Char} {error : LexicalError}
    (unfinished : cursor.skipGap.rest = first :: rest) (read : cursor.next.1 = .error error) :
    ∃ stumble, (readLexeme first rest).outcome = .error stumble ∧
      error.position = (cursor.skipGap.advance stumble.before).pos := by
  unfold next at read
  simp only [unfinished] at read
  cases outcome : (readLexeme first rest).outcome with
  | ok lexeme =>
    rw [outcome] at read
    cases read
  | error stumble =>
    rw [outcome] at read
    cases read
    exact ⟨stumble, rfl, rfl⟩

/-- From any place on, the tokens are placed; and if there is a fault instead, so is that. -/
theorem StandsIn.tokens_placed (here : cursor.StandsIn input) :
    (∀ tokens, cursor.tokens = .ok tokens → Placed input cursor.pos tokens) ∧
      ∀ error, cursor.tokens = .error error → IsBoundary input error.position := by
  -- Over the tokens: the end, a fault, or a token and those behind it.
  fun_induction Cursor.tokens cursor with
  | case1 cursor finished =>
    refine ⟨fun tokens read => ?_, fun _ failed => by cases failed⟩
    cases read
    refine ⟨?_, ?_, List.pairwise_singleton _ _, ?_⟩
    all_goals
      intro token member
      rw [List.mem_singleton.1 member]
    · exact here.behindGap.isBoundary
    · exact Nat.le_add_right ..
    · exact fun _ => here.behindGap.pos_of_nil finished
  | case2 cursor first rest unfinished error readToken =>
    refine ⟨(fun _ read => by cases read), fun other read => ?_⟩
    cases read
    obtain ⟨stumble, stumbled, position⟩ := next_of_error unfinished readToken
    rw [position]
    have inside := stumblesInside_readLexeme first rest stumble stumbled
    exact (here.behindGap.advance (inside.trans (readLexeme_head unfinished))).isBoundary
  | case3 cursor first rest unfinished token readToken inductionHypothesis =>
    obtain ⟨lexeme, found, rfl, next⟩ := next_of_ok unfinished readToken
    have behind := here.behindGap.advance (readLexeme_head unfinished)
    rw [next] at inductionHypothesis ⊢
    obtain ⟨placed, faultPlaced⟩ := inductionHypothesis behind
    cases following : (cursor.skipGap.advance (readLexeme first rest).source).tokens with
    | error error =>
      refine ⟨(fun _ read => by cases read), fun other read => ?_⟩
      cases read
      exact faultPlaced error following
    | ok others =>
      refine ⟨fun tokens read => ?_, fun _ failed => by cases failed⟩
      cases read
      refine Placed.cons here.behindGap.isBoundary (Nat.le_add_right ..) ?_
        (Nat.le_add_right ..) (placed others following)
      exact (readLexeme_written found).notEnd

end Cursor

theorem placed_of_tokenize (lexed : tokenize input = .ok tokens) : Placed input 0 tokens :=
  (Cursor.standsIn_start input).tokens_placed.1 tokens lexed

/-! ## Faults of parses -/

/-- A fault is reported at the first token that is left, and every value is related to one. -/
def Reports {α : Type} (values : α → α → Prop) (parse _other : Parse α) : Prop :=
  ∀ tokens,
    (∀ error, (parse tokens).1 = .error error → error.position = (first (parse tokens).2).pos) ∧
      ∀ a, (parse tokens).1 = .ok a → ∃ b, values a b

/-- A parse that never fails has nothing to report. -/
theorem reports_of_ok {α : Type} {values : α → α → Prop} {parse : Parse α} (other : Parse α)
    (came : ∀ tokens, ∃ a, (parse tokens).1 = .ok a ∧ ∃ b, values a b) :
    Reports values parse other := by
  intro tokens
  obtain ⟨a, ok, related⟩ := came tokens
  rw [ok]
  refine ⟨fun error failed => ?_, fun value same => ?_⟩
  · cases failed
  · cases same
    exact related

/-- Reporting faults at the first token left is respected by the building blocks. -/
def reporting : Relation where
  tokens := Eq
  parses := Reports
  kind same := congrArg Token.kind same
  text same := congrArg Token.text same
  value same := reports_of_ok _ fun _ => ⟨_, rfl, _, same⟩
  andThen := by
    intro α β values results first second f g front following tokens
    obtain ⟨reported, related⟩ := front tokens
    rw [bind_apply]
    cases came : first tokens with
    | mk result rest =>
      rw [came] at reported related
      cases result with
      | error error => exact ⟨fun _ failed => by cases failed; exact reported error rfl, nofun⟩
      | ok a =>
        obtain ⟨b, values⟩ := related a rfl
        exact following a b values rest
  peek := reports_of_ok _ fun _ => ⟨_, rfl, _, rfl⟩
  peekSecond := reports_of_ok _ fun _ => ⟨_, rfl, _, rfl⟩
  next := reports_of_ok _ fun _ => ⟨_, rfl, _, rfl⟩
  fault _ _ := ⟨fun _ failed => by cases failed; rfl, nofun⟩
  unexpected _ _ := ⟨fun _ failed => by cases failed; rfl, nofun⟩
  measured same tokens := same tokens.length tokens

/-- Whatever a parse of the grammar fails at, it reports at the first token left. -/
theorem position_of_reports {α : Type} {parse : Parse α} (reports : reporting.Same parse parse)
    {error : ParseError} (came : parse tokens = (.error error, rest)) :
    error.position = (first rest).pos := by
  have reported := (reports tokens).1
  rw [came] at reported
  exact reported error rfl

/-- A parse of all tokens of a text leaves some, and reports a fault at the first of them. -/
theorem Input.Sound.readWhole_position {input : Input} (sound : input.Sound) {error : ParseError}
    (failed : (readWhole input.tokens).1 = .error error) :
    ∃ token ∈ input.tokens, error.position = token.pos := by
  obtain ⟨inner, ending, whole, -⟩ := sound.ends
  have some_tokens : 0 < input.tokens.length := by simp [whole]
  obtain ⟨result, next, -, inRange, read, -⟩ := Follows.readExpr sound 0 some_tokens
  rw [List.drop_zero] at read
  -- Nothing was read, or an expression that failed, or one with more behind it.
  have left : ∃ place < input.tokens.length,
      readWhole input.tokens = (.error error, input.tokens.drop place) := by
    rw [readWhole, peek_bind] at failed ⊢
    split at failed
    · rename_i noExpression
      rw [if_pos noExpression]
      exact ⟨0, some_tokens, Prod.ext failed rfl⟩
    · rename_i expression
      rw [if_neg expression, bind_apply, read]
      rw [bind_apply, read] at failed
      refine ⟨next, inRange, ?_⟩
      cases result with
      | error found =>
        cases failed
        rfl
      | ok expr =>
        dsimp only at failed ⊢
        rw [peek_bind] at failed ⊢
        split at failed
        · cases failed
        · rename_i more
          rw [if_neg more]
          exact Prod.ext failed rfl
  obtain ⟨place, inRange, left⟩ := left
  refine ⟨input.tokens[place], List.getElem_mem inRange, ?_⟩
  rw [position_of_reports reporting.readWhole left, first_drop inRange]

/-! ## Calls -/

/-- What the call behind so many others comes to. -/
def Input.outcomeAfter (input : Input) (calls : Nat) : Except Stop Expr :=
  (Run.readExpr input (input.pointAfter calls)).1

/-- A call that comes to no tree refuses the token that it stops at. -/
theorem Input.Sound.outcomeAfter_position {input : Input} (sound : input.Sound)
    (lexical : Lexical input.tokens) {calls : Nat} {stop : Stop}
    (stopped : input.outcomeAfter calls = .error stop) :
    ∃ error, stop = .refused error ∧
      ∃ inRange : (input.pointAfter (calls + 1)).pos < input.tokens.length,
        error.position = input.tokens[(input.pointAfter (calls + 1)).pos].pos := by
  obtain ⟨pos, inRange, here⟩ := sound.pointAfter_eq lexical calls
  obtain ⟨result, call⟩ := sound.call lexical inRange
  rw [Input.outcomeAfter, here, call.ran] at stopped
  cases result with
  | ok tree => cases stopped
  | error error =>
    cases stopped
    rw [Input.pointAfter, here]
    refine ⟨error, rfl, call.inRange, ?_⟩
    rw [position_of_reports (reporting.readLevels maxLevels 0) call.read, first_drop call.inRange]

/-- The parser never goes back. -/
theorem Input.Sound.pointAfter_le {input : Input} (sound : input.Sound)
    (lexical : Lexical input.tokens) {calls later : Nat} (order : calls ≤ later) :
    (input.pointAfter calls).pos ≤ (input.pointAfter later).pos := by
  induction order with
  | refl => exact Nat.le_refl _
  | @step later _ inductionHypothesis =>
    obtain ⟨pos, inRange, here⟩ := sound.pointAfter_eq lexical later
    obtain ⟨result, call⟩ := sound.call lexical inRange
    refine Nat.le_trans inductionHypothesis ?_
    rw [Input.pointAfter, here]
    exact call.forward

/-! ## Failures -/

/-- The failure says one byte offset of the input and nothing else of where it is.  One of the
lexer is for an input without tokens; one of the parser points at a token. -/
structure Failure.PointsAt (failure : Failure) (input : String) (offset : Nat) : Prop where
  context : failure.context = [("position", toString offset)]
  boundary : IsBoundary input offset
  inside : offset ≤ input.utf8ByteSize
  origin : match tokenize input with
    | .error _ => failure.kind = .syntaxError ∧ failure.operation = "promql::lex"
    | .ok tokens => failure.kind = .parseFailed ∧ failure.operation = "promql::parse" ∧
      ∃ token ∈ tokens, offset = token.pos ∧ (token.kind = .eof → offset = input.utf8ByteSize)

/-- A fault of the parser that is reported at a token points at it. -/
theorem ParseError.pointsAt {error : ParseError} {token : Token}
    (lexed : tokenize input = .ok tokens) (member : token ∈ tokens)
    (position : error.position = token.pos) :
    Failure.PointsAt error.toFailure input error.position := by
  have placed := placed_of_tokenize lexed
  have boundary := placed.boundary token member
  rw [← position] at boundary
  refine ⟨rfl, boundary, boundary.le, ?_⟩
  rw [lexed]
  refine ⟨rfl, rfl, token, member, position, fun eof => ?_⟩
  rw [position]
  exact placed.ending token member eof

/-- Every rejection points at one place of the input.  Of the calls on one parser each comes to
a tree or to a fault that points at a token, and the places of the faults never go back. -/
theorem rejections_point (input : String) :
    (∀ error, Expr.parse input = .error error →
      ∃ offset, Failure.PointsAt error.toFailure input offset) ∧
    ∀ tokens steps, tokenize input = .ok tokens → tokens.length + maxLevels < steps →
      (∀ calls stop, Input.outcomeAfter ⟨tokens, steps⟩ calls = .error stop →
        ∃ error, stop = .refused error ∧
          Failure.PointsAt error.toFailure input error.position) ∧
      ∀ calls later error laterError, calls ≤ later →
        Input.outcomeAfter ⟨tokens, steps⟩ calls = .error (.refused error) →
        Input.outcomeAfter ⟨tokens, steps⟩ later = .error (.refused laterError) →
        error.position ≤ laterError.position := by
  refine ⟨fun error rejected => ?_, fun tokens steps lexed enough => ?_⟩
  · unfold Expr.parse at rejected
    cases lexed : tokenize input with
    | error fault =>
      rw [lexed] at rejected
      cases rejected
      have boundary := (Cursor.standsIn_start input).tokens_placed.2 fault lexed
      exact ⟨fault.position, rfl, boundary, boundary.le, by rw [lexed]; exact ⟨rfl, rfl⟩⟩
    | ok tokens =>
      rw [lexed] at rejected
      have sound := sound_of_tokenize lexed (Nat.lt_succ_self _)
      cases read : (readWhole tokens).1 with
      | ok tree =>
        simp only [read] at rejected
        cases rejected
      | error fault =>
        simp only [read] at rejected
        cases rejected
        obtain ⟨token, member, position⟩ := sound.readWhole_position read
        exact ⟨_, ParseError.pointsAt lexed member position⟩
  · have sound := sound_of_tokenize lexed enough
    have lexical := lexical_tokenize lexed
    refine ⟨fun calls stop stopped => ?_, ?_⟩
    · obtain ⟨error, rfl, inRange, position⟩ := sound.outcomeAfter_position lexical stopped
      exact ⟨error, rfl, ParseError.pointsAt lexed (List.getElem_mem inRange) position⟩
    · intro calls later error laterError order stopped laterStopped
      obtain ⟨_, ⟨⟩, inRange, position⟩ := sound.outcomeAfter_position lexical stopped
      obtain ⟨_, ⟨⟩, laterInRange, laterPosition⟩ :=
        sound.outcomeAfter_position lexical laterStopped
      rw [position, laterPosition]
      -- The later call stops at the same token or behind it.
      rcases Nat.eq_or_lt_of_le (sound.pointAfter_le lexical (Nat.succ_le_succ order)) with
        same | behind
      · simp only [same, le_refl]
      · exact List.pairwise_iff_getElem.1 (placed_of_tokenize lexed).ascending _ _ inRange
          laterInRange behind

/-- The first call refuses the word behind its second range, and the next one reads from that
word on and refuses the end. -/
theorem rejections_point_twice :
    let input := "a[5m][1m] b["
    let tokens : List Token :=
      [⟨.ident, "a", 0⟩, ⟨.leftBracket, "[", 1⟩, ⟨.duration, "5m", 2⟩, ⟨.rightBracket, "]", 4⟩,
        ⟨.leftBracket, "[", 5⟩, ⟨.duration, "1m", 6⟩, ⟨.rightBracket, "]", 8⟩, ⟨.ident, "b", 10⟩,
        ⟨.leftBracket, "[", 11⟩, ⟨.eof, "", 12⟩]
    let word : ParseError := ⟨.rangeWithoutSelector, 10⟩
    let ending : ParseError := ⟨.unexpected ⟨.eof, "", 12⟩ .range, 12⟩
    tokenize input = .ok tokens ∧ tokens.length + maxLevels < 100 ∧
      Expr.parse input = .error (.syntactic word) ∧
      Input.outcomeAfter ⟨tokens, 100⟩ 0 = .error (.refused word) ∧
      Input.outcomeAfter ⟨tokens, 100⟩ 1 = .error (.refused ending) ∧
      (∃ offset, Failure.PointsAt word.toFailure input offset) ∧
      Failure.PointsAt ending.toFailure input 12 ∧ word.position ≤ ending.position := by
  intro input tokens word ending
  have lexed : tokenize input = .ok tokens := by decide +kernel
  obtain ⟨whole, calls⟩ := rejections_point input
  obtain ⟨each, order⟩ := calls tokens 100 lexed (by decide)
  have read : (readWhole tokens).1 = .error word := by
    dsimp only [tokens, word]
    rfl
  have rejected : Expr.parse input = .error (.syntactic word) := by
    simp only [Expr.parse, lexed, read, Except.mapError]
  have earlier : Input.outcomeAfter ⟨tokens, 100⟩ 0 = .error (.refused word) := by rfl
  have later : Input.outcomeAfter ⟨tokens, 100⟩ 1 = .error (.refused ending) := by rfl
  obtain ⟨_, ⟨⟩, points⟩ := each 1 _ later
  exact ⟨lexed, by decide, rejected, earlier, later, whole _ rejected, points,
    order 0 1 _ _ (by decide) earlier later⟩

end RuleAtlas.Query
