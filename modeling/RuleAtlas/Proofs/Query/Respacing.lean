import RuleAtlas.Proofs.Query.Recurring
import RuleAtlas.Proofs.Query.Refinement
import RuleAtlas.Proofs.Query.Spans

/-! # Blanks and comments carry no meaning

An input that can be read is a gap, and then tokens with a gap behind each of them.  Whatever
blanks and comments stand there instead, as long as no two tokens touch, the tokens stay what
they are, and so does the tree that they are read as. -/

namespace RuleAtlas.Query

open Text (byteLength)

/-! ## Layouts -/

/-- A token, the characters that it was read from, and the gap behind it. -/
structure Piece where
  token : Token
  source : List Char
  gap : List Char

/-- From an offset on the text is made of these pieces, as they are read one after the other. -/
inductive Laid : Nat → List Char → List Piece → Prop where
  | nil {pos : Nat} : Laid pos [] []
  | cons {pos : Nat} {first : Char} {more between rest : List Char} {lexeme : Lexeme}
      {pieces : List Piece}
      (read : readLexeme first (more ++ (between ++ rest)) = .found (first :: more) lexeme)
      (isGap : gap false (between ++ rest) = between)
      (behind : Laid (pos + byteLength (first :: more ++ between)) rest pieces) :
      Laid pos (first :: more ++ (between ++ rest))
        (⟨⟨lexeme.kind, String.ofList lexeme.text, pos⟩, first :: more, between⟩ :: pieces)

/-- The input is a gap and these pieces. -/
def Layout (input : String) (pieces : List Piece) : Prop :=
  ∃ lead body, input.toList = lead ++ body ∧ gap false input.toList = lead ∧
    Laid (byteLength lead) body pieces

/-- Blanks, and comments that end with their line. -/
inductive Filler : List Char → Prop where
  | nil : Filler []
  | blank {c : Char} {rest : List Char} (isBlank : c ∈ [' ', '\t', '\r', '\n'])
      (behind : Filler rest) : Filler (c :: rest)
  | comment {body rest : List Char} (oneLine : '\n' ∉ body) (noNul : '\x00' ∉ body)
      (behind : Filler rest) : Filler ('#' :: (body ++ '\n' :: rest))

/-- The text is made of the characters of the pieces, with other gaps behind them; only the
last one may be empty. -/
inductive Respaced : List Piece → List Char → Prop where
  | nil : Respaced [] []
  | last {piece : Piece} {filler : List Char} (fills : Filler filler) :
      Respaced [piece] (piece.source ++ filler)
  | cons {piece next : Piece} {pieces : List Piece} {filler text : List Char}
      (fills : Filler filler) (apart : filler ≠ []) (behind : Respaced (next :: pieces) text) :
      Respaced (piece :: next :: pieces) (piece.source ++ (filler ++ text))

/-- The text has the same pieces with other gaps around them. -/
def IsRespacing (pieces : List Piece) (text : String) : Prop :=
  ∃ lead body, text.toList = lead ++ body ∧ Filler lead ∧ Respaced pieces body

/-! ## Every input that can be read has a layout -/

theorem Laid.token {pos : Nat} {first : Char} {more tail rest : List Char} {lexeme : Lexeme}
    {pieces : List Piece} (read : readLexeme first (more ++ tail) = .found (first :: more) lexeme)
    (whole : tail = gap false tail ++ rest)
    (behind : Laid (pos + byteLength (first :: more ++ gap false tail)) rest pieces) :
    Laid pos (first :: (more ++ tail))
      (⟨⟨lexeme.kind, String.ofList lexeme.text, pos⟩, first :: more, gap false tail⟩ ::
        pieces) := by
  have step := Laid.cons (by rw [← whole]; exact read) (by rw [← whole]) behind
  rwa [← whole] at step

namespace Cursor

theorem rest_eq (cursor : Cursor) : cursor.rest = gap false cursor.rest ++ cursor.skipGap.rest :=
  (List.prefix_iff_eq_append.1 (gap_head false cursor.rest)).symm

/-- The characters of a token that is read are those at the head of the text. -/
theorem source_eq {first : Char} {rest : List Char} {lexeme : Lexeme}
    (found : (readLexeme first rest).outcome = .ok lexeme) :
    ∃ more tail, rest = more ++ tail ∧
      readLexeme first (more ++ tail) = .found (first :: more) lexeme := by
  obtain ⟨tail, whole⟩ := takes_readLexeme first rest
  cases source : (readLexeme first rest).source with
  | nil => exact absurd source (source_readLexeme_ne_nil first rest)
  | cons c more =>
    rw [source, List.cons_append] at whole
    obtain ⟨rfl, rfl⟩ := List.cons.inj whole
    refine ⟨more, tail, rfl, ?_⟩
    rw [Reading.found, ← source, ← found]

/-- From any place on, the tokens are those of the pieces behind the gap. -/
theorem exists_laid {cursor : Cursor} {tokens : List Token} (read : cursor.tokens = .ok tokens) :
    ∃ pieces, Laid cursor.skipGap.pos cursor.skipGap.rest pieces ∧
      tokens = pieces.map Piece.token ++
        [⟨.eof, "", cursor.pos + byteLength cursor.rest⟩] := by
  -- Over the tokens: the end, a fault, or a token and those behind it.
  fun_induction Cursor.tokens cursor generalizing tokens with
  | case1 cursor finished =>
    cases read
    refine ⟨[], finished ▸ .nil, ?_⟩
    rw [cursor.rest_eq, finished, List.append_nil]
    rfl
  | case2 => cases read
  | case3 cursor first rest unfinished token readToken inductionHypothesis =>
    obtain ⟨lexeme, found, rfl, next⟩ := next_of_ok unfinished readToken
    obtain ⟨more, tail, rfl, again⟩ := source_eq found
    have behind : cursor.next.2 =
        ⟨cursor.skipGap.pos + byteLength (first :: more), tail⟩ := by
      rw [next, again]
      simp [advance, unfinished, Reading.found]
    rw [behind] at read inductionHypothesis
    cases following : (Cursor.mk (cursor.skipGap.pos + byteLength (first :: more)) tail).tokens with
    | error error =>
      rw [following] at read
      cases read
    | ok others =>
      rw [following] at read
      cases read
      obtain ⟨pieces, laid, rfl⟩ := inductionHypothesis following
      refine ⟨⟨⟨lexeme.kind, String.ofList lexeme.text, cursor.skipGap.pos⟩, first :: more,
        gap false tail⟩ :: pieces, ?_, ?_⟩
      · rw [unfinished]
        apply Laid.token again (rest_eq ⟨_, tail⟩)
        rw [Text.byteLength_append, ← Nat.add_assoc]
        exact laid
      · rw [cursor.rest_eq, unfinished, ← List.cons_append, Text.byteLength_append,
          Text.byteLength_append, ← Nat.add_assoc, ← Nat.add_assoc]
        rfl

end Cursor

theorem exists_layout {input : String} {tokens : List Token} (read : tokenize input = .ok tokens) :
    ∃ pieces, Layout input pieces ∧
      tokens = pieces.map Piece.token ++ [⟨.eof, "", input.utf8ByteSize⟩] := by
  obtain ⟨pieces, laid, same⟩ := Cursor.exists_laid read
  refine ⟨pieces, ⟨_, _, (Cursor.start input).rest_eq, rfl, ?_⟩, ?_⟩
  · simpa [Cursor.skipGap, Cursor.advance, Cursor.start] using laid
  · rw [same, ← Text.byteLength_toList]
    simp [Cursor.start]

/-! ## Other gaps -/

theorem gap_inComment {body : List Char} (oneLine : '\n' ∉ body) (noNul : '\x00' ∉ body)
    (rest : List Char) :
    gap true (body ++ '\n' :: rest) = body ++ '\n' :: gap false rest := by
  induction body with
  | nil => rfl
  | cons c body inductionHypothesis =>
    rw [List.mem_cons, not_or] at oneLine noNul
    simp [gap, Ne.symm oneLine.1, Ne.symm noNul.1, inductionHypothesis oneLine.2 noNul.2]

/-- Filler in front of a text is a gap, which goes on with the one at the head of the text. -/
theorem gap_filler {filler : List Char} (fills : Filler filler) (rest : List Char) :
    gap false (filler ++ rest) = filler ++ gap false rest := by
  induction fills with
  | nil => rfl
  | blank isBlank behind inductionHypothesis =>
    have separates : [' ', '\t', '\r', '\n'].all isGapCharacter = true := rfl
    simp [gap, List.all_eq_true.1 separates _ isBlank, inductionHypothesis]
  | comment oneLine noNul behind inductionHypothesis =>
    rw [List.cons_append, List.append_assoc, List.cons_append, List.cons_append,
      List.append_assoc, List.cons_append, ← inductionHypothesis, ← gap_inComment oneLine noNul]
    rfl

theorem gapped_filler {filler rest : List Char} (fills : Filler filler)
    (apart : filler ≠ [] ∨ rest = []) : Gapped (filler ++ rest) := by
  cases fills with
  | nil =>
    obtain absurd | rfl := apart
    · exact (absurd rfl).elim
    · exact Text.stops_nil
  | blank isBlank behind =>
    have noInk : [' ', '\t', '\r', '\n'].any isInk = false := rfl
    exact Text.stops_cons.2 (Bool.eq_false_iff.2 (List.any_eq_false.1 noInk _ isBlank))
  | comment oneLine noNul behind => exact Text.stops_cons.2 rfl

/-- No token begins a gap. -/
theorem gap_of_readLexeme {first : Char} {text : List Char} {lexeme : Lexeme}
    (found : (readLexeme first text).outcome = .ok lexeme) (rest : List Char) :
    gap false (first :: rest) = [] := by
  have differs : ∀ c ∈ [' ', '\t', '\n', '\r', '#'], first ≠ c := by
    rintro c member rfl
    -- It is read as a symbol, but it is none.
    have single : readLexeme first text = (readSingle first).verbatim := by
      simp only [List.mem_cons, List.not_mem_nil, or_false] at member
      obtain rfl | rfl | rfl | rfl | rfl := member <;> cases text <;> rfl
    have refused : [' ', '\t', '\n', '\r', '#'].any (readSingle · |>.outcome.isOk) = false := rfl
    rw [single] at found
    obtain ⟨kind, inside, -⟩ := Reading.outcome_of_map found
    have none := List.any_eq_false.1 refused first member
    rw [inside] at none
    exact none rfl
  simp [gap, isGapCharacter, differs ' ', differs '\t', differs '\n', differs '\r', differs '#']

/-- A token with other filler behind it is read again, and so is what follows. -/
theorem lexes_piece {first : Char} {more text filler rest : List Char} {lexeme : Lexeme}
    {lexemes : List Lexeme} (read : readLexeme first text = .found (first :: more) lexeme)
    (fills : Filler filler) (apart : filler ≠ [] ∨ rest = []) (behind : Lexes rest lexemes []) :
    Lexes (first :: more ++ (filler ++ rest)) (lexeme :: lexemes) [] := by
  have outcome : (readLexeme first text).outcome = .ok lexeme := by rw [read]; rfl
  have source : (readLexeme first text).source = first :: more := by rw [read]; rfl
  have token : Lexes (first :: more) [lexeme] (filler ++ rest) := by
    refine Lexes.of_readLexeme more (gap_of_readLexeme outcome _) ?_
    rw [readLexeme_again outcome source (gapped_filler fills apart), read]
  have gap : Lexes filler [] (rest ++ []) := Lexes.of_gap (gap_filler fills _)
  rw [← List.append_nil (filler ++ rest)] at token
  exact token.append (gap.append behind)

/-- The pieces of a text are read again with other gaps behind them. -/
theorem lexes_respaced {pos : Nat} {body text : List Char} {pieces : List Piece}
    (laid : Laid pos body pieces) (respaced : Respaced pieces text) :
    Lexes text (pieces.map fun piece => piece.token.lexeme) [] := by
  induction respaced generalizing pos body with
  | nil => exact .nil
  | last fills =>
    cases laid with
    | cons read isGap behind =>
      have again := lexes_piece read fills (.inr rfl) .nil
      simpa [Token.lexeme] using again
  | cons fills apart _ inductionHypothesis =>
    cases laid with
    | cons read isGap behind =>
      have again := lexes_piece read fills (.inl apart) (inductionHypothesis behind)
      simpa [Token.lexeme] using again

/-- A respaced text has the lexemes of the pieces, and the end behind them. -/
theorem tokenize_respaced {input text : String} {pieces : List Piece}
    (layout : Layout input pieces) (respacing : IsRespacing pieces text) :
    ∃ others, tokenize text = .ok others ∧
      others.map Token.lexeme = (pieces.map fun piece => piece.token.lexeme) ++ [⟨.eof, []⟩] := by
  obtain ⟨front, inner, -, -, laid⟩ := layout
  obtain ⟨lead, body, whole, fills, respaced⟩ := respacing
  apply Lexes.tokenize
  rw [whole]
  have gap : Lexes lead [] (body ++ []) := Lexes.of_gap (gap_filler fills _)
  exact gap.append (lexes_respaced laid respaced)

/-! ## Blanks and comments carry no meaning -/

/-- Inputs whose tokens differ at most in their places stand for the same trees. -/
theorem parse_of_lexeme {input text : String} {tokens others : List Token}
    (read : tokenize input = .ok tokens) (readOther : tokenize text = .ok others)
    (same : others.map Token.lexeme = tokens.map Token.lexeme) {tree : Expr}
    (parsed : Expr.parse input = .ok tree) : Expr.parse text = .ok tree := by
  unfold Expr.parse at parsed ⊢
  rw [read] at parsed
  rw [readOther]
  dsimp only at parsed ⊢
  cases came : readWhole tokens with
  | mk result rest =>
    rw [came] at parsed
    cases result with
    | error error => cases parsed
    | ok other =>
      cases parsed
      rw [readWhole_of_lexeme same came]
      rfl

/-- An input that can be read keeps its tokens, but for their places, and its tree, whatever
blanks and comments stand around the tokens. -/
theorem parse_respaced {input : String} {tokens : List Token}
    (read : tokenize input = .ok tokens) :
    ∃ pieces, Layout input pieces ∧
      tokens = pieces.map Piece.token ++ [⟨.eof, "", input.utf8ByteSize⟩] ∧
      ∀ text, IsRespacing pieces text →
        (∃ others, tokenize text = .ok others ∧
          others.map Token.lexeme = tokens.map Token.lexeme) ∧
        ∀ tree, Expr.parse text = .ok tree ↔ Expr.parse input = .ok tree := by
  obtain ⟨pieces, layout, rfl⟩ := exists_layout read
  refine ⟨pieces, layout, rfl, fun text respacing => ?_⟩
  obtain ⟨others, readOther, lexemes⟩ := tokenize_respaced layout respacing
  have same : others.map Token.lexeme =
      (pieces.map Piece.token ++ [Token.mk .eof "" input.utf8ByteSize]).map Token.lexeme := by
    rw [lexemes, List.map_append, List.map_map]
    rfl
  refine ⟨⟨others, readOther, same⟩, fun tree => ⟨?_, ?_⟩⟩
  · exact parse_of_lexeme readOther read same.symm
  · exact parse_of_lexeme read readOther same

/-- Tokens that touch, and a comment that the end of the input ends. -/
theorem parse_respaced_touching :
    tokenize "-a:b!=.5#\x22" = .ok [⟨.sub, "-", 0⟩, ⟨.ident, "a:b", 1⟩, ⟨.notEqual, "!=", 4⟩,
        ⟨.number, ".5", 6⟩, ⟨.eof, "", 10⟩] ∧
      ∃ pieces, Layout "-a:b!=.5#\x22" pieces ∧
        [⟨.sub, "-", 0⟩, ⟨.ident, "a:b", 1⟩, ⟨.notEqual, "!=", 4⟩, ⟨.number, ".5", 6⟩,
            ⟨.eof, "", 10⟩] =
          pieces.map Piece.token ++ [⟨.eof, "", "-a:b!=.5#\x22".utf8ByteSize⟩] ∧
        ∀ text, IsRespacing pieces text →
          (∃ others, tokenize text = .ok others ∧
            others.map Token.lexeme =
              [⟨.sub, ['-']⟩, ⟨.ident, ['a', ':', 'b']⟩, ⟨.notEqual, ['!', '=']⟩,
                ⟨.number, ['.', '5']⟩, ⟨.eof, []⟩]) ∧
          ∀ tree, Expr.parse text = .ok tree ↔ Expr.parse "-a:b!=.5#\x22" = .ok tree := by
  have read : tokenize "-a:b!=.5#\x22" = .ok [⟨.sub, "-", 0⟩, ⟨.ident, "a:b", 1⟩,
      ⟨.notEqual, "!=", 4⟩, ⟨.number, ".5", 6⟩, ⟨.eof, "", 10⟩] := by
    decide +kernel
  exact ⟨read, parse_respaced read⟩

end RuleAtlas.Query
