import RuleAtlas.Proofs.Text.Runs
import RuleAtlas.Query.Token.Lexer

/-! # Tokens of pieces of text

`Lexes text lexemes rest` says that in front of `rest` a text is read as the given lexemes, and
that reading goes on with `rest` behind it.  Pieces of text are put together by
`Lexes.append`; what has to follow a piece is said of `rest`. -/

namespace RuleAtlas.Query

/-- What a token says, apart from its place. -/
def Token.lexeme (token : Token) : Lexeme := ⟨token.kind, token.text.toList⟩

namespace Cursor

/-- Behind the last gap there is only the end. -/
theorem tokens_of_nil {cursor : Cursor} (finished : cursor.skipGap.rest = []) :
    cursor.tokens = .ok [⟨.eof, "", cursor.skipGap.pos⟩] := by
  rw [Cursor.tokens]
  split
  · rfl
  · rename_i unfinished
    rw [finished] at unfinished
    cases unfinished

/-- Where the text goes on behind the gap, so do the tokens. -/
theorem tokens_of_cons {cursor : Cursor} {first : Char} {rest : List Char}
    (unfinished : cursor.skipGap.rest = first :: rest) :
    cursor.tokens = match cursor.next.1 with
      | .error error => .error error
      | .ok token => cursor.next.2.tokens.map (token :: ·) := by
  rw [Cursor.tokens]
  split
  · rename_i finished
    rw [unfinished] at finished
    cases finished
  · rfl

/-- A token that is read is the lexeme behind the gap, and the text goes on behind it. -/
theorem next_of_ok {cursor : Cursor} {first : Char} {rest : List Char} {token : Token}
    (unfinished : cursor.skipGap.rest = first :: rest) (read : cursor.next.1 = .ok token) :
    ∃ lexeme, (readLexeme first rest).outcome = .ok lexeme ∧
      token = ⟨lexeme.kind, String.ofList lexeme.text, cursor.skipGap.pos⟩ ∧
      cursor.next.2 = cursor.skipGap.advance (readLexeme first rest).source := by
  unfold next at read ⊢
  simp only [unfinished] at read ⊢
  cases outcome : (readLexeme first rest).outcome with
  | error stumble =>
    rw [outcome] at read
    cases read
  | ok lexeme =>
    rw [outcome] at read
    cases read
    exact ⟨lexeme, rfl, rfl, rfl⟩

/-- Tokens are read from behind the gap. -/
theorem tokens_eq_of_skipGap {cursor other : Cursor} (same : cursor.skipGap = other.skipGap) :
    cursor.tokens = other.tokens := by
  have next : cursor.next = other.next := by
    unfold Cursor.next
    rw [same]
  cases here : other.skipGap.rest with
  | nil => rw [tokens_of_nil here, tokens_of_nil (by rw [same, here]), same]
  | cons first rest => rw [tokens_of_cons here, tokens_of_cons (by rw [same, here]), next]

/-- A gap in front of a text only moves its tokens. -/
theorem tokens_gap (pos : Nat) {front rest : List Char}
    (isGap : gap false (front ++ rest) = front ++ gap false rest) :
    (Cursor.mk pos (front ++ rest)).tokens =
      (Cursor.mk (pos + Text.byteLength front) rest).tokens := by
  apply tokens_eq_of_skipGap
  simp only [skipGap, advance, isGap, Text.byteLength_append, List.length_append,
    List.drop_append, Nat.add_assoc]
  simp

/-- A lexeme at the head of a text is its first token. -/
theorem tokens_of_lexeme {pos : Nat} {first : Char} {more rest : List Char} {lexeme : Lexeme}
    (noGap : gap false (first :: (more ++ rest)) = [])
    (read : readLexeme first (more ++ rest) = .found (first :: more) lexeme) :
    (Cursor.mk pos (first :: (more ++ rest))).tokens =
      (Cursor.mk (pos + Text.byteLength (first :: more)) rest).tokens.map
        (⟨lexeme.kind, String.ofList lexeme.text, pos⟩ :: ·) := by
  have here : (Cursor.mk pos (first :: (more ++ rest))).skipGap =
      Cursor.mk pos (first :: (more ++ rest)) := by
    simp [skipGap, advance, noGap]
  have behind : (Cursor.mk pos (first :: (more ++ rest))).next =
      (.ok ⟨lexeme.kind, String.ofList lexeme.text, pos⟩,
        Cursor.mk (pos + Text.byteLength (first :: more)) rest) := by
    unfold next
    rw [here]
    simp only [read, Reading.found, advance]
    congr 2
    simp
  rw [tokens_of_cons (by rw [here]), behind]

end Cursor

/-- In front of `rest` the text is read as the lexemes, and reading goes on behind it. -/
def Lexes (text : List Char) (lexemes : List Lexeme) (rest : List Char) : Prop :=
  ∀ pos, ∃ tokens : List Token, tokens.map Token.lexeme = lexemes ∧
    (Cursor.mk pos (text ++ rest)).tokens =
      (Cursor.mk (pos + Text.byteLength text) rest).tokens.map (tokens ++ ·)

namespace Lexes

variable {text front back rest : List Char} {lexemes frontLexemes backLexemes : List Lexeme}

theorem nil : Lexes [] [] rest := by
  intro pos
  refine ⟨[], rfl, ?_⟩
  simp only [List.nil_append, Text.byteLength_nil, Nat.add_zero]
  cases (Cursor.mk pos rest).tokens <;> rfl

/-- Two pieces behind each other are read one after the other. -/
theorem append (first : Lexes front frontLexemes (back ++ rest))
    (second : Lexes back backLexemes rest) :
    Lexes (front ++ back) (frontLexemes ++ backLexemes) rest := by
  intro pos
  obtain ⟨frontTokens, frontSame, frontRead⟩ := first pos
  -- The second piece begins where the first one ends.
  obtain ⟨backTokens, backSame, backRead⟩ := second (pos + Text.byteLength front)
  refine ⟨frontTokens ++ backTokens, by rw [List.map_append, frontSame, backSame], ?_⟩
  rw [List.append_assoc, frontRead, backRead, Text.byteLength_append, Nat.add_assoc]
  cases (Cursor.mk (pos + (Text.byteLength front + Text.byteLength back)) rest).tokens with
  | error fault => rfl
  | ok tokens => simp [Except.map]

/-- A gap in front of a piece is no part of its lexemes. -/
theorem of_gap (isGap : gap false (front ++ rest) = front ++ gap false rest) :
    Lexes front [] rest := by
  intro pos
  refine ⟨[], rfl, ?_⟩
  rw [Cursor.tokens_gap pos isGap]
  cases (Cursor.mk (pos + Text.byteLength front) rest).tokens <;> rfl

theorem blank : Lexes [' '] [] rest := of_gap (by simp [gap, isGapCharacter])

/-- A piece that is read as one lexeme. -/
theorem of_readLexeme {first : Char} (more : List Char) {lexeme : Lexeme}
    (noGap : gap false (first :: (more ++ rest)) = [])
    (read : readLexeme first (more ++ rest) = .found (first :: more) lexeme) :
    Lexes (first :: more) [lexeme] rest := by
  intro pos
  refine ⟨[⟨lexeme.kind, String.ofList lexeme.text, pos⟩], by simp [Token.lexeme], ?_⟩
  rw [List.cons_append, Cursor.tokens_of_lexeme noGap read]
  rfl

/-- At the end of an input the tokens are those of its text and the end. -/
theorem tokenize {input : String} (read : Lexes input.toList lexemes []) :
    ∃ tokens : List Token, Query.tokenize input = .ok tokens ∧
      tokens.map Token.lexeme = lexemes ++ [⟨.eof, []⟩] := by
  obtain ⟨tokens, same, all⟩ := read 0
  rw [List.append_nil, @Cursor.tokens_of_nil ⟨_, []⟩ rfl] at all
  refine ⟨tokens ++ [⟨.eof, "", 0 + Text.byteLength input.toList⟩], all.trans rfl, ?_⟩
  rw [List.map_append, same]
  rfl

end Lexes

end RuleAtlas.Query
