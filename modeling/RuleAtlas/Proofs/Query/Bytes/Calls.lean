import RuleAtlas.Proofs.Query.Bytes.Tokens

/-! # One lexer, many calls

A lexer with byte offsets reads one token after the other, also where a call came to a fault.
Every call ends within the steps, cuts texts out between characters, and adds up escapes in 32
bits.  It takes a character, unless nothing but blanks and comments is left, and then it comes
to the end of the input; so after as many calls as there are characters there is only the end. -/

namespace RuleAtlas.Query

open Text (byteLength)

/-! ## Gaps up to the end -/

theorem nul_not_mem_gap (inComment : Bool) (text : List Char) : '\x00' ∉ gap inComment text := by
  fun_induction gap inComment text with
  | case1 => exact List.not_mem_nil
  | case2 c rest blank inductionHypothesis =>
    have other : '\x00' ≠ c := by
      rintro rfl
      cases blank
    simp [other, inductionHypothesis]
  | case3 rest _ inductionHypothesis => simp [inductionHypothesis]
  | case4 => exact List.not_mem_nil
  | case5 rest inductionHypothesis => simp [inductionHypothesis]
  | case6 => exact List.not_mem_nil
  | case7 c rest _ noNul inductionHypothesis => simp [Ne.symm noNul, inductionHypothesis]

theorem gap_of_separates {text : List Char} (separates : Separates [] text)
    (noNul : '\x00' ∉ text) : gap false text = text := by
  induction separates with
  | nil => rfl
  | @blank c text isBlank behind inductionHypothesis =>
    have blank : isGapCharacter c = true := by
      simp only [List.mem_cons, List.not_mem_nil, or_false] at isBlank
      obtain rfl | rfl | rfl | rfl := isBlank <;> rfl
    rw [gap, if_pos blank, inductionHypothesis (List.not_mem_of_not_mem_cons noNul)]
  | @comment body text oneLine ends behind inductionHypothesis =>
    simp only [List.mem_cons, List.mem_append, not_or] at noNul
    have inside : ∀ c ∈ body, Scan.inComment c = true := by
      intro c member
      simp [Scan.inComment, ne_of_mem_of_not_mem member oneLine,
        ne_of_mem_of_not_mem member noNul.2.1]
    have stops : Text.Stops Scan.inComment text := by
      intro c member
      rw [ends c (by simpa using member)]
      rfl
    have comment : gap false ('#' :: (body ++ text)) = '#' :: gap true (body ++ text) := rfl
    rw [comment, Scan.gap_true, Text.takeWhile_of_stops inside stops,
      Text.dropWhile_of_stops inside stops, inductionHypothesis noNul.2.2]

/-- A gap goes on to the end where only blanks and comments without NUL characters are left. -/
theorem drop_gap_eq_nil_iff {text : List Char} : text.drop (gap false text).length = [] ↔
    Separates [] text ∧ '\x00' ∉ text := by
  have head := List.prefix_iff_eq_append.1 (gap_head false text)
  constructor
  · intro finished
    rw [finished, List.append_nil] at head
    have whole : text = gap false text ++ [] := by rw [head, List.append_nil]
    have separates : SeparatesFrom [] false (gap false text) := gap_separates whole (by simp)
    have noNul := nul_not_mem_gap false text
    rw [head] at separates noNul
    exact ⟨separates, noNul⟩
  · rintro ⟨separates, noNul⟩
    rw [gap_of_separates separates noNul, List.drop_length]

/-! ## Places -/

namespace Cursor

variable {input : String} {cursor : Cursor}

/-- The place behind so many tokens and faults of an input. -/
def after (input : String) : (calls : Nat) → Cursor
  | 0 => start input
  | calls + 1 => (after input calls).next.2

theorem next_of_nil (finished : cursor.skipGap.rest = []) :
    cursor.next = (.ok ⟨.eof, "", cursor.skipGap.pos⟩, cursor.skipGap) := by
  rw [next]
  simp only [finished]

/-- Where a gap does not go on to the end, what is found is not the end. -/
theorem kind_ne_eof {first : Char} {rest : List Char} {token : Token}
    (unfinished : cursor.skipGap.rest = first :: rest) (came : cursor.next.1 = .ok token) :
    token.kind ≠ .eof := by
  obtain ⟨lexeme, found, rfl, -⟩ := next_of_ok unfinished came
  exact (readLexeme_written found).notEnd

theorem StandsIn.next (here : cursor.StandsIn input) : cursor.next.2.StandsIn input := by
  cases left : cursor.skipGap.rest with
  | nil =>
    rw [next_of_nil left]
    exact here.behindGap
  | cons first rest =>
    have behind := here.behindGap.advance (readLexeme_head left)
    have same : cursor.next.2 = cursor.skipGap.advance (readLexeme first rest).source := by
      unfold Cursor.next
      simp only [left]
      split <;> rfl
    rw [same]
    exact behind

theorem standsIn_after (input : String) (calls : Nat) : (after input calls).StandsIn input := by
  induction calls with
  | zero => exact standsIn_start input
  | succ calls inductionHypothesis => exact inductionHypothesis.next

/-- Every call before the end takes a character. -/
theorem length_after (input : String) (calls : Nat) : (after input calls).rest = [] ∨
    (after input calls).rest.length + calls ≤ input.toList.length := by
  induction calls with
  | zero => exact .inr (Nat.le_refl _)
  | succ calls inductionHypothesis =>
    rw [after]
    cases left : (after input calls).skipGap.rest with
    | nil =>
      rw [next_of_nil left]
      exact .inl left
    | cons first rest =>
      have shorter := length_next_lt left
      obtain none | bounded := inductionHypothesis
      · rw [none] at shorter
        exact absurd shorter (Nat.not_lt_zero _)
      · right
        omega

end Cursor

/-! ## Calls -/

theorem length_offsets (pos : Nat) (text : List Char) :
    (offsets pos text).length = text.length := by
  induction text generalizing pos with
  | nil => rfl
  | cons c text inductionHypothesis => exact congrArg (· + 1) (inductionHypothesis _)

/-- The reel after so many calls, each from where the one before has stopped. -/
def Tape.reelAfter (tape : Tape) : (calls : Nat) → Reel
  | 0 => offsets 0 tape.text
  | calls + 1 => (Scan.next tape (tape.reelAfter calls)).2

/-- What stands for the end of an input. -/
def endOf (input : String) : Token := ⟨.eof, "", input.utf8ByteSize⟩

/-- A call on an input behind so many others.  It comes to a token or to a fault of the input,
as the lexer over lists does at this place, and never to an offset inside of a character, to a
sum that does not fit, or to the end of its steps. -/
structure LexerCall (input : String) (steps calls : Nat) (result : Except LexicalError Token) :
    Prop where
  place : (Tape.mk input.toList steps).reelAfter calls =
    offsets (Cursor.after input calls).pos (Cursor.after input calls).rest
  read : (Cursor.after input calls).next.1 = result
  ran : Scan.next ⟨input.toList, steps⟩ ((Tape.mk input.toList steps).reelAfter calls) =
    (result.mapError .refused, (Tape.mk input.toList steps).reelAfter (calls + 1))
  ended : result = .ok (endOf input) ↔ Separates [] (Cursor.after input calls).rest ∧
    '\x00' ∉ (Cursor.after input calls).rest
  progress : result = .ok (endOf input) ∨ (∀ token, result = .ok token → token.kind ≠ .eof) ∧
    ((Tape.mk input.toList steps).reelAfter (calls + 1)).length <
      ((Tape.mk input.toList steps).reelAfter calls).length
  finished : input.toList.length ≤ calls → result = .ok (endOf input)

section
variable {input : String} {steps : Nat} (enough : input.toList.length < steps)
include enough

/-- At every place of the input the next token is the one that is read there. -/
theorem next_of_standsIn {cursor : Cursor} (here : cursor.StandsIn input) :
    Scan.next ⟨input.toList, steps⟩ (offsets cursor.pos cursor.rest) =
      (cursor.next.1.mapError .refused, offsets cursor.next.2.pos cursor.next.2.rest) := by
  obtain ⟨before, whole, pos⟩ := here
  have holds : (Tape.mk input.toList steps).Holds before cursor.rest := ⟨whole, enough⟩
  have next := Scan.next_eq holds
  rw [← pos] at next
  rw [← next, reelBehind, pos]

/-- The reel is always that of a place of the input. -/
theorem reelAfter_eq (calls : Nat) : (Tape.mk input.toList steps).reelAfter calls =
    offsets (Cursor.after input calls).pos (Cursor.after input calls).rest := by
  induction calls with
  | zero => rfl
  | succ calls inductionHypothesis =>
    rw [Tape.reelAfter, inductionHypothesis,
      next_of_standsIn enough (Cursor.standsIn_after input calls)]
    rfl

/-- Whatever the calls before came to, the next call on an input ends within the steps, and is
as sound as the first one; and behind as many calls as there are characters it comes to the
end. -/
theorem lexing_safe (calls : Nat) : ∃ result, LexerCall input steps calls result := by
  let cursor := Cursor.after input calls
  have here : cursor.StandsIn input := Cursor.standsIn_after input calls
  have place := reelAfter_eq enough calls
  have behind := reelAfter_eq enough (calls + 1)
  have ran : Scan.next ⟨input.toList, steps⟩ ((Tape.mk input.toList steps).reelAfter calls) =
      (cursor.next.1.mapError .refused, (Tape.mk input.toList steps).reelAfter (calls + 1)) := by
    rw [place, behind]
    exact next_of_standsIn enough here
  refine ⟨cursor.next.1, ?_⟩
  -- Behind a gap at the end there is only the end; elsewhere a call takes a character at least.
  cases left : cursor.skipGap.rest with
  | nil =>
    have atEnd : cursor.next.1 = .ok (endOf input) := by
      rw [Cursor.next_of_nil left, here.behindGap.pos_of_nil left, endOf]
    exact {
      place, ran, read := rfl
      ended := ⟨fun _ => drop_gap_eq_nil_iff.1 left, fun _ => atEnd⟩
      progress := .inl atEnd
      finished := fun _ => atEnd }
  | cons first rest =>
    have notEnd : ∀ token, cursor.next.1 = .ok token → token.kind ≠ .eof :=
      fun _ => Cursor.kind_ne_eof left
    have unfinished : cursor.next.1 ≠ .ok (endOf input) := fun atEnd => notEnd _ atEnd rfl
    have shorter : cursor.next.2.rest.length < cursor.rest.length := Cursor.length_next_lt left
    exact {
      place, ran, read := rfl
      ended := by
        refine ⟨fun atEnd => absurd atEnd unfinished, fun onlyGap => ?_⟩
        have finished : cursor.skipGap.rest = [] := drop_gap_eq_nil_iff.2 onlyGap
        exact absurd (left.symm.trans finished) (List.cons_ne_nil _ _)
      progress := by
        refine .inr ⟨notEnd, ?_⟩
        rw [place, behind, length_offsets, length_offsets]
        exact shorter
      finished := by
        intro many
        have remaining : 0 < (Cursor.after input calls).rest.length := Nat.zero_lt_of_lt shorter
        obtain none | bounded := Cursor.length_after input calls
        · exact absurd remaining (none ▸ Nat.lt_irrefl 0)
        · omega }

end

/-- Behind a refused escape the lexer goes on in the input, over a blank and to a NUL character
in a comment. -/
theorem lexing_safe_behind_fault : "\"\\q #a\x00é".toList.length < 9 ∧
    LexerCall "\"\\q #a\x00é" 9 1 (.error ⟨.unexpectedCharacter '\x00', 6⟩) := by
  have enough : "\"\\q #a\x00é".toList.length < 9 := by decide
  obtain ⟨result, call⟩ := lexing_safe enough 1
  have read : (Cursor.after "\"\\q #a\x00é" 1).next.1 =
      .error ⟨.unexpectedCharacter '\x00', 6⟩ := by
    decide +kernel
  obtain rfl : result = .error ⟨.unexpectedCharacter '\x00', 6⟩ := call.read.symm.trans read
  exact ⟨enough, call⟩

end RuleAtlas.Query
