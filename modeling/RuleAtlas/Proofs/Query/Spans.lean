import RuleAtlas.Proofs.Query.Taking

/-! # Tokens account for every byte of the input

The tokens of an input stand on spans of it that follow each other, and all that lies in front
of them, between them and behind them is blanks and comments.  Spans are ranges of byte
offsets, and every offset here is that of a place between two characters. -/

/-! ## Byte lengths -/

namespace RuleAtlas.Text

theorem byteLength_pos {text : List Char} (nonempty : text ≠ []) : 0 < byteLength text := by
  obtain ⟨c, rest, rfl⟩ := List.exists_cons_of_ne_nil nonempty
  exact Nat.lt_of_lt_of_le c.utf8Size_pos (Nat.le_add_right ..)

theorem byteLength_toList (input : String) : byteLength input.toList = input.utf8ByteSize := by
  have encoded : ∀ text : List Char, byteLength text = (String.ofList text).utf8ByteSize := by
    intro text
    induction text with
    | nil => rfl
    | cons c text inductionHypothesis =>
      rw [byteLength_cons, inductionHypothesis, ← List.singleton_append, String.ofList_append,
        String.utf8ByteSize_append]
      simp
  rw [encoded, String.ofList_toList]

end RuleAtlas.Text

namespace RuleAtlas.Query

open Text (byteLength)

/-! ## Spans -/

/-- A range of byte offsets. -/
structure Span where
  start : Nat
  stop : Nat
  deriving DecidableEq, Repr

/-- The text stands in the input on the span, in front of the text `after`. -/
def Span.Stands (input : String) (span : Span) (text after : List Char) : Prop :=
  ∃ before, input.toList = before ++ text ++ after ∧
    span.start = byteLength before ∧ span.stop = byteLength (before ++ text)

/-- What may lie around tokens: blanks, and comments that go on up to the end of their line or
of the input.  Whether a comment may end is seen in the text `after`. -/
inductive Separates (after : List Char) : List Char → Prop where
  | nil : Separates after []
  | blank {c : Char} {text : List Char} (isBlank : c ∈ [' ', '\t', '\r', '\n'])
      (behind : Separates after text) : Separates after (c :: text)
  | comment {body text : List Char} (oneLine : '\n' ∉ body)
      (ends : ∀ c ∈ (text ++ after).head?, c = '\n') (behind : Separates after text) :
      Separates after ('#' :: (body ++ text))

/-- Nothing but blanks and comments lies on the span. -/
def Span.Separates (input : String) (span : Span) : Prop :=
  ∃ text after, span.Stands input text after ∧ Query.Separates after text

/-- The token stands in the input on the span. -/
structure Token.Covers (input : String) (token : Token) (span : Span) : Prop where
  pos : token.pos = span.start
  nonempty : span.start < span.stop
  written : ∃ source after, span.Stands input source after ∧ token.lexeme.IsWrittenAs source

/-- The spans in front of, between and behind the given ones. -/
def gapsAround (start stop : Nat) : List Span → List Span
  | [] => [⟨start, stop⟩]
  | span :: spans => ⟨start, span.start⟩ :: gapsAround span.stop stop spans

/-- Tokens and their spans account for the input from the byte offset `start` on. -/
structure Accounts (input : String) (start : Nat) (tokens : List Token) (spans : List Span) :
    Prop where
  covers : List.Forall₂ (Token.Covers input) tokens spans
  ordered : spans.IsChain fun span next => span.stop ≤ next.start
  separated : ∀ gap ∈ gapsAround start input.utf8ByteSize spans, gap.Separates input

theorem Span.Stands.le {input : String} {span : Span} {text after : List Char}
    (stands : span.Stands input text after) : span.start ≤ span.stop := by
  obtain ⟨before, -, start, stop⟩ := stands
  rw [start, stop, Text.byteLength_append]
  exact Nat.le_add_right ..

namespace Accounts

variable {input : String} {start : Nat} {tokens : List Token} {spans : List Span}

/-- Without tokens all that is left is a gap. -/
theorem nil (gap : (Span.mk start input.utf8ByteSize).Separates input) :
    Accounts input start [] [] :=
  ⟨.nil, .nil, fun other member => by rwa [List.mem_singleton.1 member]⟩

/-- A gap and a token go in front of what follows the token. -/
theorem cons {token : Token} {span : Span} (gap : (Span.mk start span.start).Separates input)
    (covers : token.Covers input span) (accounts : Accounts input span.stop tokens spans) :
    Accounts input start (token :: tokens) (span :: spans) := by
  refine ⟨.cons covers accounts.covers, ?_, ?_⟩
  · -- The span behind begins no earlier, since a gap stands in front of it.
    cases spans with
    | nil => exact .singleton _
    | cons next spans =>
      obtain ⟨text, after, stands, -⟩ := accounts.separated ⟨span.stop, next.start⟩
        List.mem_cons_self
      exact .cons_cons stands.le accounts.ordered
  · intro other member
    rcases List.mem_cons.1 member with rfl | member
    · exact gap
    · exact accounts.separated other member

end Accounts

/-! ## Gaps are blanks and comments -/

/-- What may lie in front of a token from a place on that may be inside a comment. -/
def SeparatesFrom (after : List Char) : (inComment : Bool) → List Char → Prop
  | false, text => Separates after text
  | true, text => ∃ body more, text = body ++ more ∧ '\n' ∉ body ∧
      (∀ c ∈ (more ++ after).head?, c = '\n') ∧ Separates after more

theorem mem_blanks {c : Char} (blank : isGapCharacter c = true) :
    c ∈ [' ', '\t', '\r', '\n'] := by
  simp only [isGapCharacter, Bool.or_eq_true, beq_iff_eq] at blank
  rcases blank with ((rfl | rfl) | rfl) | rfl <;> decide

/-- A gap is made of blanks and comments, unless a NUL character ends it. -/
theorem gap_separates {inComment : Bool} {text after : List Char}
    (whole : text = gap inComment text ++ after) (noNul : after.head? ≠ some '\x00') :
    SeparatesFrom after inComment (gap inComment text) := by
  -- Along the gap; the line feed that ends a comment is the blank behind it.
  fun_induction gap inComment text with
  | case1 inComment =>
    rw [List.nil_append] at whole
    subst whole
    cases inComment with
    | false => exact .nil
    | true => exact ⟨[], [], rfl, List.not_mem_nil, by simp, .nil⟩
  | case2 c rest blank inductionHypothesis =>
    obtain ⟨-, whole⟩ := List.cons.inj whole
    exact .blank (mem_blanks blank) (inductionHypothesis whole)
  | case3 rest _ inductionHypothesis =>
    obtain ⟨-, whole⟩ := List.cons.inj whole
    obtain ⟨body, more, same, oneLine, ends, behind⟩ := inductionHypothesis whole
    rw [same]
    exact .comment oneLine ends behind
  | case4 => exact .nil
  | case5 rest inductionHypothesis =>
    obtain ⟨-, whole⟩ := List.cons.inj whole
    have behind := inductionHypothesis whole
    refine ⟨[], _, rfl, List.not_mem_nil, ?_, .blank (by decide) behind⟩
    intro c member
    exact (Option.some.inj member).symm
  | case6 rest =>
    rw [List.nil_append] at whole
    subst whole
    exact absurd rfl noNul
  | case7 c rest noLine _ inductionHypothesis =>
    obtain ⟨-, whole⟩ := List.cons.inj whole
    obtain ⟨body, more, same, oneLine, ends, behind⟩ := inductionHypothesis whole
    rw [same]
    exact ⟨c :: body, more, rfl, List.not_mem_cons_of_ne_of_not_mem (Ne.symm noLine) oneLine,
      ends, behind⟩

/-! ## Places in the input -/

namespace Cursor

/-- The cursor is at a place between two characters of the input. -/
def StandsIn (input : String) (cursor : Cursor) : Prop :=
  ∃ before, input.toList = before ++ cursor.rest ∧ cursor.pos = byteLength before

variable {input : String} {cursor : Cursor} {source : List Char}

theorem standsIn_start (input : String) : (start input).StandsIn input := ⟨[], rfl, rfl⟩

/-- What a cursor advances over stands in the input, up to where the cursor is then. -/
theorem StandsIn.stands (here : cursor.StandsIn input) (head : source <+: cursor.rest) :
    (Span.mk cursor.pos (cursor.advance source).pos).Stands input source
      (cursor.advance source).rest := by
  obtain ⟨before, whole, pos⟩ := here
  refine ⟨before, ?_, pos, ?_⟩
  · rw [List.append_assoc, whole]
    exact congrArg (before ++ ·) (List.prefix_iff_eq_append.1 head).symm
  · rw [Text.byteLength_append, ← pos]
    rfl

theorem StandsIn.advance (here : cursor.StandsIn input) (head : source <+: cursor.rest) :
    (cursor.advance source).StandsIn input := by
  obtain ⟨before, whole, -, stop⟩ := here.stands head
  exact ⟨before ++ source, whole, stop⟩

/-- At the end of the input the cursor's offset is the input's length. -/
theorem StandsIn.pos_of_nil (here : cursor.StandsIn input) (finished : cursor.rest = []) :
    cursor.pos = input.utf8ByteSize := by
  obtain ⟨before, whole, pos⟩ := here
  rw [finished, List.append_nil] at whole
  rw [pos, ← whole, Text.byteLength_toList]

/-- The gap in front of a token, or of the end, is made of blanks and comments. -/
theorem StandsIn.skipGap (here : cursor.StandsIn input)
    (noNul : cursor.skipGap.rest.head? ≠ some '\x00') :
    (Span.mk cursor.pos cursor.skipGap.pos).Separates input := by
  have head := gap_head false cursor.rest
  refine ⟨_, _, here.stands head, ?_⟩
  exact gap_separates (List.prefix_iff_eq_append.1 head).symm noNul

theorem StandsIn.behindGap (here : cursor.StandsIn input) : cursor.skipGap.StandsIn input :=
  here.advance (gap_head false cursor.rest)

theorem readLexeme_head {first : Char} {rest : List Char} (begins : cursor.rest = first :: rest) :
    (readLexeme first rest).source <+: cursor.rest := by
  rw [begins]
  exact takes_readLexeme first rest

/-- A token that is read stands on the span that the cursor advances over. -/
theorem StandsIn.covers (here : cursor.StandsIn input) {first : Char} {rest : List Char}
    {lexeme : Lexeme} (begins : cursor.rest = first :: rest)
    (found : (readLexeme first rest).outcome = .ok lexeme) :
    Token.Covers input ⟨lexeme.kind, String.ofList lexeme.text, cursor.pos⟩
      ⟨cursor.pos, (cursor.advance (readLexeme first rest).source).pos⟩ := by
  refine ⟨rfl, ?_, _, _, here.stands (readLexeme_head begins), ?_⟩
  · exact Nat.lt_add_of_pos_right (Text.byteLength_pos (source_readLexeme_ne_nil first rest))
  · simpa [Token.lexeme] using readLexeme_written found

/-- From any place on, the tokens account for the rest of the input. -/
theorem StandsIn.accounts (here : cursor.StandsIn input) {tokens : List Token}
    (read : cursor.tokens = .ok tokens) :
    ∃ inner spans, tokens = inner ++ [⟨.eof, "", input.utf8ByteSize⟩] ∧
      Accounts input cursor.pos inner spans := by
  -- Over the tokens: the end, a fault, or a token and those behind it.
  fun_induction Cursor.tokens cursor generalizing tokens with
  | case1 cursor finished =>
    cases read
    have atEnd := here.behindGap.pos_of_nil finished
    have gap := here.skipGap (by simp [finished])
    rw [atEnd] at gap ⊢
    exact ⟨[], [], rfl, .nil gap⟩
  | case2 => cases read
  | case3 cursor first rest unfinished token readToken inductionHypothesis =>
    obtain ⟨lexeme, found, rfl, next⟩ := next_of_ok unfinished readToken
    have behind := here.behindGap.advance (readLexeme_head unfinished)
    rw [next] at read inductionHypothesis
    cases following : (cursor.skipGap.advance (readLexeme first rest).source).tokens with
    | error error =>
      rw [following] at read
      cases read
    | ok others =>
      rw [following] at read
      cases read
      obtain ⟨inner, spans, rfl, accounts⟩ := inductionHypothesis behind following
      refine ⟨_ :: inner, _ :: spans, rfl, .cons (here.skipGap ?_)
        (here.behindGap.covers unfinished found) accounts⟩
      -- A NUL character would have been read as a fault.
      rw [unfinished]
      intro nul
      cases nul
      exact readLexeme_nul rest lexeme found

end Cursor

/-- The last token and no other one stands for the end. -/
theorem ends_of_tokenize {input : String} {tokens : List Token}
    (read : tokenize input = .ok tokens) :
    ∃ inner ending, tokens = inner ++ [ending] ∧ ending.kind = .eof ∧
      ∀ token ∈ inner, token.kind ≠ .eof := by
  obtain ⟨inner, spans, whole, accounts⟩ := (Cursor.standsIn_start input).accounts read
  refine ⟨inner, _, whole, rfl, fun token member => ?_⟩
  -- Every token but the last one stands on a span of the text, as no end does.
  obtain ⟨place, inRange, rfl⟩ := List.getElem_of_mem member
  have covered := accounts.covers.get inRange (by rw [← accounts.covers.length_eq]; exact inRange)
  obtain ⟨source, after, -, written⟩ := covered.written
  exact written.notEnd

/-- The tokens of an input account for all of it, and the token behind them for its end. -/
theorem tokenize_accounts {input : String} {tokens : List Token}
    (read : tokenize input = .ok tokens) :
    ∃ inner spans, tokens = inner ++ [⟨.eof, "", input.utf8ByteSize⟩] ∧
      Accounts input 0 inner spans :=
  (Cursor.standsIn_start input).accounts read

/-- A character of two bytes in a string and again in a comment, which is no token. -/
theorem tokenize_accounts_comment :
    tokenize "\x22é\x22 # é\n+a" =
        .ok [⟨.string, "é", 0⟩, ⟨.add, "+", 10⟩, ⟨.ident, "a", 11⟩, ⟨.eof, "", 12⟩] ∧
      ∃ inner spans,
        [⟨.string, "é", 0⟩, ⟨.add, "+", 10⟩, ⟨.ident, "a", 11⟩, ⟨.eof, "", 12⟩] =
          inner ++ [⟨.eof, "", "\x22é\x22 # é\n+a".utf8ByteSize⟩] ∧
        Accounts "\x22é\x22 # é\n+a" 0 inner spans := by
  have read : tokenize "\x22é\x22 # é\n+a" =
      .ok [⟨.string, "é", 0⟩, ⟨.add, "+", 10⟩, ⟨.ident, "a", 11⟩, ⟨.eof, "", 12⟩] := by
    decide +kernel
  exact ⟨read, tokenize_accounts read⟩

end RuleAtlas.Query
