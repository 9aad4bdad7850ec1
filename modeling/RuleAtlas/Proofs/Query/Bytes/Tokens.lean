import RuleAtlas.Proofs.Query.Bytes.Strings
import RuleAtlas.Proofs.Query.Recurring
import RuleAtlas.Proofs.Query.Spans

/-! # Scans of tokens

The scans of numbers, durations, words and symbols follow their readings, and so does that of
the next token, from every place of the input on. -/

namespace RuleAtlas.Query

open Parse (Round)
open Text (byteLength)

namespace Scan

variable {tape : Tape} {before source text rest : List Char} {c : Char}

/-! ## Numbers -/

theorem finishNumber_eq {kind : TokenKind} (holds : tape.Holds before (source ++ rest)) :
    finishNumber kind (byteLength before) tape (reelBehind (before ++ source) rest) =
      settleToken before (source ++ rest) (Query.finishNumber kind source rest).verbatim := by
  have found := (token_eq holds).trans (@settleToken_found before rest source ⟨kind, source⟩).symm
  rw [finishNumber, glance_bind]
  cases rest with
  | nil => exact found
  | cons c rest =>
    rw [Query.finishNumber, List.getElem?_cons_zero, Option.getD_some]
    split_ifs
    · exact settleToken_fault.symm
    · exact found

theorem readHexadecimal_eq {mark : Char} (holds : tape.Holds before ('0' :: mark :: text)) :
    readHexadecimal (byteLength before) tape (reelBehind before ('0' :: mark :: text)) =
      settleToken before ('0' :: mark :: text)
        (Query.readHexadecimal ['0', mark] text).verbatim := by
  have behind := holds.tail.tail
  have finished := behind.behindRun isHexDigit
  have whole := List.takeWhile_append_dropWhile (p := isHexDigit) (l := text)
  rw [readHexadecimal, take_bind, take_bind, position_bind behind, skipRun_bind rfl behind,
    position_bind finished, Query.readHexadecimal]
  cases run : text.takeWhile isHexDigit with
  | nil =>
    rw [run, List.nil_append] at whole
    rw [whole, List.append_nil, if_pos rfl]
    have refused := @settleToken_fault before text ['0', mark] .badNumber
    rw [List.append_assoc]
    exact refused.symm
  | cons d digits =>
    have moved : byteLength (before ++ ['0'] ++ [mark] ++ d :: digits) ≠
        byteLength (before ++ ['0'] ++ [mark]) := by
      have positive := Text.byteLength_pos (List.cons_ne_nil d digits)
      rw [Text.byteLength_append _ (d :: digits)]
      omega
    have front : before ++ ['0'] ++ [mark] ++ d :: digits =
        before ++ (['0', mark] ++ d :: digits) := by simp
    rw [run] at whole
    rw [if_neg moved, front, if_neg (by simp), ← run, drop_takeWhile, run]
    have text_eq : '0' :: mark :: text =
        (['0', mark] ++ d :: digits) ++ text.dropWhile isHexDigit := by
      rw [List.append_assoc, whole]
      rfl
    rw [text_eq] at holds ⊢
    exact finishNumber_eq holds

theorem readFraction_eq (holds : tape.Holds before text) :
    readFraction tape (reelBehind before text) = (.ok (!(fractionPart text).isEmpty),
      reelBehind (before ++ fractionPart text) (text.drop (fractionPart text).length)) := by
  rw [readFraction, glance_bind]
  cases text with
  | nil =>
    rw [fractionPart, List.append_nil]
    · rfl
    · simp
  | cons c text =>
    rw [List.getElem?_cons_zero, Option.getD_some]
    by_cases point : c = '.'
    · subst point
      rw [if_pos rfl, take_bind, skipRun_bind rfl holds.tail, List.append_assoc, fractionPart,
        List.length_cons, List.drop_succ_cons, drop_takeWhile]
      rfl
    · have none : fractionPart (c :: text) = [] := by simp [fractionPart, point]
      rw [if_neg point, none, List.append_nil]
      rfl

/-- What is looked at ahead of an exponent tells whether there is one. -/
theorem beginsExponent_eq (text : List Char) :
    beginsExponent (text[0]?.getD '\x00') (text[1]?.getD '\x00') (text[2]?.getD '\x00') =
      !(exponentPart text).isEmpty := by
  cases text with
  | nil => rfl
  | cons e rest =>
    by_cases letter : (e = 'e' || e = 'E') = true
    · cases rest with
      | nil => simp [beginsExponent, exponentPart, letter]
      | cons c digits =>
        by_cases digit : c.isDigit = true
        · simp [beginsExponent, exponentPart, letter, digit]
        by_cases sign : (c = '+' || c = '-') = true
        · cases digits with
          | nil => simp [beginsExponent, exponentPart, letter, digit]
          | cons d digits =>
            by_cases after : d.isDigit = true <;>
              simp [beginsExponent, exponentPart, letter, digit, sign, after]
        · simp [beginsExponent, exponentPart, letter, digit, sign]
    · simp [beginsExponent, exponentPart, letter]

/-- An exponent that is there goes on as far as its digits do. -/
theorem exponentPart_of_digit {e d : Char} {sign : List Char} (letter : e = 'e' ∨ e = 'E')
    (signs : sign = [] ∨ sign = ['+'] ∨ sign = ['-']) (digit : d.isDigit = true)
    (rest : List Char) : exponentPart (e :: (sign ++ d :: rest)) =
      e :: (sign ++ (d :: rest).takeWhile Char.isDigit) := by
  obtain rfl | rfl | rfl := signs
  · simp [exponentPart, letter, digit]
  · simp [exponentPart, letter, digit, show '+'.isDigit = false from rfl]
  · simp [exponentPart, letter, digit, show '-'.isDigit = false from rfl]

theorem takeSign_eq {sign : List Char} {d : Char}
    (signs : sign = [] ∨ sign = ['+'] ∨ sign = ['-']) (digit : d.isDigit = true) :
    takeSign tape (reelBehind before (sign ++ d :: rest)) =
      (.ok (), reelBehind (before ++ sign) (d :: rest)) := by
  have noSign : ¬(d = '+' || d = '-') = true := by
    intro sign
    simp only [Bool.or_eq_true, decide_eq_true_eq] at sign
    obtain rfl | rfl := sign <;> cases digit
  rw [takeSign, glance_bind]
  obtain rfl | rfl | rfl := signs
  · rw [List.nil_append, List.getElem?_cons_zero, Option.getD_some, if_neg noSign,
      List.append_nil]
    rfl
  all_goals
    rw [List.singleton_append, List.getElem?_cons_zero, Option.getD_some, if_pos (by decide),
      take_bind]
    rfl

theorem readExponent_eq (holds : tape.Holds before text) :
    readExponent tape (reelBehind before text) = (.ok (!(exponentPart text).isEmpty),
      reelBehind (before ++ exponentPart text) (text.drop (exponentPart text).length)) := by
  rw [readExponent, glance_bind, glance_bind, glance_bind, beginsExponent_eq]
  obtain none | ⟨e, sign, d, run, some, letter, signs, digits⟩ := exponentPart_cases text
  · rw [none, List.append_nil]
    rfl
  · obtain ⟨tail, rfl⟩ : ∃ tail, text = e :: (sign ++ d :: tail) := by
      obtain ⟨tail, same⟩ := exponentPart_head text
      exact ⟨run ++ tail, by rw [← same, some]; simp⟩
    have digit := digits d List.mem_cons_self
    have behind : tape.Holds (before ++ [e] ++ sign) (d :: tail) := holds.tail.behind
    have front : before ++ [e] ++ sign ++ (d :: tail).takeWhile Char.isDigit =
        before ++ e :: (sign ++ (d :: tail).takeWhile Char.isDigit) := by simp
    rw [exponentPart_of_digit letter signs digit, List.isEmpty_cons, Bool.not_false, if_pos rfl,
      take_bind, bind_apply, takeSign_eq signs digit]
    dsimp only
    rw [skipRun_bind rfl behind, front, List.length_cons, List.drop_succ_cons, List.length_append,
      ← List.drop_drop, List.drop_left, drop_takeWhile]
    rfl

/-! ## Durations -/

theorem takeUnit_eq {start : Nat} : takeUnit start tape (reelBehind before text) =
    match durationUnit? text with
    | some unit => (.ok (), reelBehind (before ++ unit) (text.drop unit.length))
    | none => (.error (.refused ⟨.badDuration, start⟩), reelBehind before text) := by
  rw [takeUnit, glance_bind]
  cases text with
  | nil => rfl
  | cons c text =>
    rw [List.getElem?_cons_zero, Option.getD_some]
    -- Minutes are told from milliseconds by the character behind them.
    by_cases minutes : c = 'm'
    · subst minutes
      rw [if_pos rfl, take_bind, glance_bind]
      cases text with
      | nil => rfl
      | cons d text =>
        rw [List.getElem?_cons_zero, Option.getD_some]
        by_cases second : d = 's'
        · subst second
          rw [if_pos rfl, take_bind, List.append_assoc]
          rfl
        · rw [if_neg second]
          simp [durationUnit?, second]
          rfl
    · rw [if_neg minutes]
      have unit : durationUnit? (c :: text) =
          if c ∈ ['y', 'w', 'd', 'h', 's'] then some [c] else none := by
        unfold durationUnit?
        split <;> simp_all
      rw [unit]
      by_cases letter : c ∈ ['y', 'w', 'd', 'h', 's']
      · rw [if_pos letter, if_pos letter, take_bind]
        rfl
      · rw [if_neg letter, if_neg letter]
        rfl

/-- A unit is read with the digits behind it. -/
theorem readUnit_eq {start : Nat} (holds : tape.Holds before text) {unit : List Char}
    (found : durationUnit? text = some unit) :
    readUnit start () tape (reelBehind before text) =
      (.ok (if ((text.drop unit.length).takeWhile Char.isDigit).isEmpty then .done ()
          else .again ()),
        reelBehind (before ++ (unit ++ (text.drop unit.length).takeWhile Char.isDigit))
          ((text.drop unit.length).dropWhile Char.isDigit)) := by
  obtain ⟨tail, rfl⟩ := durationUnit?_head found
  rw [readUnit, bind_apply, takeUnit_eq, found]
  dsimp only
  rw [List.drop_left, glance_bind]
  cases tail with
  | nil =>
    simp
    rfl
  | cons c tail =>
    rw [List.getElem?_cons_zero, Option.getD_some]
    by_cases digit : c.isDigit = true
    · rw [if_pos digit, skipRun_bind rfl holds.behind, List.append_assoc]
      simp [digit]
      rfl
    · rw [if_neg digit]
      simp [digit]
      rfl

theorem rounds_readUnit {start steps : Nat} (enough : text.length < steps)
    (holds : tape.Holds before text) :
    rounds (readUnit start) steps () tape (reelBehind before text) =
      settle (fun _ => start) before text (Query.readUnits text) := by
  -- A round takes a unit and the digits behind it; without these it was the last one.
  induction steps generalizing before text with
  | zero => exact absurd enough (Nat.not_lt_zero _)
  | succ steps inductionHypothesis =>
  rw [Query.readUnits]
  cases found : durationUnit? text with
  | none =>
    have refused := @settle_fault Unit before text (fun _ => start) [] .badDuration
    rw [List.nil_append, List.append_nil] at refused
    refine (rounds_halt ?_).trans refused.symm
    rw [readUnit, bind_apply, takeUnit_eq, found]
  | some unit =>
    have took := @readUnit_eq tape before text start holds unit found
    obtain ⟨tail, rfl⟩ := durationUnit?_head found
    have whole := List.takeWhile_append_dropWhile (p := Char.isDigit) (l := tail)
    rw [List.drop_left] at took
    dsimp only
    rw [List.drop_left]
    cases run : tail.takeWhile Char.isDigit with
    | nil =>
      rw [run, List.nil_append] at whole
      rw [run, List.append_nil, whole] at took
      rw [rounds_done took]
      exact settle_found.symm
    | cons d digits =>
      have more : tail.drop (d :: digits).length = tail.dropWhile Char.isDigit := by
        rw [← run, drop_takeWhile]
      rw [run] at whole took
      rw [← whole, ← List.append_assoc] at holds
      have shorter : (tail.dropWhile Char.isDigit).length < steps := by
        have length := congrArg List.length whole
        simp only [List.length_append, List.length_cons] at length enough
        omega
      have behind := @settle_behind Unit before (tail.dropWhile Char.isDigit) (fun _ => start)
        (unit ++ d :: digits) (Query.readUnits (tail.dropWhile Char.isDigit))
      rw [List.append_assoc, whole] at behind
      rw [rounds_again took, inductionHypothesis shorter holds.behind, if_neg (by simp), more]
      exact behind.symm

theorem readUnits_eq {digits : List Char} (holds : tape.Holds before (digits ++ rest)) :
    readUnits (byteLength before) tape (reelBehind (before ++ digits) rest) =
      settleToken before (digits ++ rest) (Query.readDuration digits rest).verbatim := by
  have head := List.prefix_iff_eq_append.1 (takes_readUnits rest)
  have whole : digits ++ rest = (digits ++ (Query.readUnits rest).source) ++
      rest.drop (Query.readUnits rest).source.length := by rw [List.append_assoc, head]
  rw [readUnits, bind_apply, loop, rounds_readUnit holds.behind.length_lt holds.behind,
    Query.readDuration, settle, List.append_assoc]
  cases (Query.readUnits rest).outcome with
  | error stumble =>
    rw [whole]
    exact settleToken_fault.symm
  | ok value =>
    rw [whole] at holds ⊢
    exact finishNumber_eq holds

/-! ## Decimal numbers -/

/-- One character tells whether a unit follows. -/
theorem durationUnit?_isSome (text : List Char) : (durationUnit? text).isSome =
    decide (text[0]?.getD '\x00' ∈ ['y', 'w', 'd', 'h', 'm', 's']) := by
  cases text with
  | nil => rfl
  | cons c text =>
    rw [List.getElem?_cons_zero, Option.getD_some]
    unfold durationUnit?
    split
    · simp_all
    · simp_all
    · split
      · simp_all
      · simp_all
    · simp_all

/-- The parts of a decimal number are taken one after the other. -/
theorem decimalParts_bind {following : Bool → Bool → Scan Token} (holds : tape.Holds before text) :
    (do
      skipRun Char.isDigit
      let fraction ← readFraction
      let exponent ← readExponent
      following fraction exponent) tape (reelBehind before text) =
    following (!(decimalParts text).fraction.isEmpty) (!(decimalParts text).exponent.isEmpty) tape
      (reelBehind (before ++ ((decimalParts text).whole ++ (decimalParts text).fraction ++
        (decimalParts text).exponent)) (decimalParts text).rest) := by
  have afterWhole := holds.behindRun Char.isDigit
  have afterFraction : tape.Holds (before ++ text.takeWhile Char.isDigit ++
      fractionPart (text.dropWhile Char.isDigit))
      ((text.dropWhile Char.isDigit).drop
        (fractionPart (text.dropWhile Char.isDigit)).length) := by
    apply Tape.Holds.behind
    rwa [List.prefix_iff_eq_append.1 (fractionPart_head _)]
  simp only [decimalParts, drop_takeWhile]
  rw [skipRun_bind rfl holds, bind_apply, readFraction_eq afterWhole]
  show (readExponent >>= _) tape (reelBehind _ _) = _
  rw [bind_apply, readExponent_eq afterFraction, List.append_assoc, List.append_assoc,
    List.append_assoc]

theorem readDecimal_eq (holds : tape.Holds before text) :
    readDecimal (byteLength before) tape (reelBehind before text) =
      settleToken before text (Query.readDecimal text).verbatim := by
  have parts := decimalParts_append text
  have reading : Query.readDecimal text =
      if (decimalParts text).fraction.isEmpty && (decimalParts text).exponent.isEmpty &&
          (durationUnit? (decimalParts text).rest).isSome then
        Query.readDuration (decimalParts text).whole (decimalParts text).rest
      else Query.finishNumber .number ((decimalParts text).whole ++ (decimalParts text).fraction ++
        (decimalParts text).exponent) (decimalParts text).rest := rfl
  rw [readDecimal, decimalParts_bind holds, glance_bind, ← durationUnit?_isSome, Bool.not_not,
    Bool.not_not, reading]
  split_ifs with integral
  · simp only [Bool.and_eq_true, List.isEmpty_iff] at integral
    rw [integral.1.1, integral.1.2, List.append_nil, List.append_nil] at parts ⊢
    rw [← parts] at holds
    have read := readUnits_eq holds
    rwa [parts] at read
  · rw [← parts] at holds
    have read := @finishNumber_eq tape before _ _ .number holds
    rwa [parts] at read

theorem readNumber_eq (holds : tape.Holds before text) :
    readNumber tape (reelBehind before text) =
      settleToken before text (Query.readNumber text).verbatim := by
  rw [readNumber, position_bind holds, glance_bind, glance_bind]
  by_cases marked : MarksHexadecimal text
  · obtain ⟨mark, digits, rfl, marks⟩ := marked
    have same : Query.readNumber ('0' :: mark :: digits) =
        Query.readHexadecimal ['0', mark] digits := by
      obtain rfl | rfl := marks <;> rfl
    rw [same, if_pos (by simpa using marks)]
    exact readHexadecimal_eq holds
  · have plain : ¬(text[0]?.getD '\x00' = '0' && text[1]?.getD '\x00' ∈ ['x', 'X']) = true := by
      intro here
      apply marked
      obtain _ | ⟨c, _ | ⟨d, text⟩⟩ := text
      · cases here
      · simp at here
      · have mark : c = '0' ∧ (d = 'x' ∨ d = 'X') := by simpa using here
        exact ⟨d, text, by rw [mark.1], mark.2⟩
    rw [readNumber_of_not_marked marked, if_neg plain]
    exact readDecimal_eq holds

/-! ## Words and symbols -/

theorem readWord_eq (holds : tape.Holds before (c :: text)) :
    readWord tape (reelBehind before (c :: text)) =
      settleToken before (c :: text) (Query.readWord c text).verbatim := by
  rw [readWord, position_bind holds, take_bind, skipRun_bind rfl holds.tail, List.append_assoc]
  have whole := List.takeWhile_append_dropWhile (p := isWordPart) (l := text)
  have source : c :: text = (c :: text.takeWhile isWordPart) ++ text.dropWhile isWordPart := by
    rw [List.cons_append, whole]
  rw [source] at holds ⊢
  exact (token_eq holds).trans (@settleToken_found before _ _ ⟨.ident, _⟩).symm

theorem readSingle_cases (c : Char) : (∃ kind, Query.readSingle c = .found [c] kind) ∨
    ∃ fault, Query.readSingle c = .fault [c] fault := by
  unfold Query.readSingle
  split
  case h_5 =>
    split
    · exact .inl ⟨_, rfl⟩
    · exact .inr ⟨_, rfl⟩
  case h_4 => exact .inr ⟨_, rfl⟩
  all_goals exact .inl ⟨_, rfl⟩

/-- Nothing behind a character looks like a NUL character, with which no symbol goes on. -/
theorem pairSymbol?_nul (c : Char) : pairSymbol? c '\x00' = none := by
  unfold pairSymbol?
  split <;> simp_all

theorem readSingle_eq (holds : tape.Holds before (c :: text)) :
    readSingle c (byteLength before) tape (reelBehind (before ++ [c]) text) =
      settleToken before (c :: text) (Query.readSingle c).verbatim := by
  rw [readSingle]
  obtain ⟨kind, found⟩ | ⟨fault, refused⟩ := readSingle_cases c
  · rw [found]
    exact (@token_eq tape before text kind [c] holds).trans
      (@settleToken_found before text [c] ⟨kind, [c]⟩).symm
  · rw [refused]
    exact (@settleToken_fault before text [c] fault).symm

theorem readSymbol_eq (holds : tape.Holds before (c :: text)) :
    readSymbol tape (reelBehind before (c :: text)) =
      settleToken before (c :: text) (Query.readSymbol c text).verbatim := by
  rw [readSymbol, position_bind holds, glance_bind, take_bind, glance_bind,
    List.getElem?_cons_zero, Option.getD_some]
  cases text with
  | nil =>
    rw [List.getElem?_nil, Option.getD_none, pairSymbol?_nul]
    exact readSingle_eq holds
  | cons d text =>
    rw [List.getElem?_cons_zero, Option.getD_some, Query.readSymbol]
    cases pair : pairSymbol? c d with
    | none => exact readSingle_eq holds
    | some kind =>
      dsimp only
      rw [take_bind, List.append_assoc]
      exact (@token_eq tape before text kind [c, d] holds).trans
        (@settleToken_found before text [c, d] ⟨kind, [c, d]⟩).symm

/-! ## The next token -/

theorem startsNumber_eq (first : Char) (rest : List Char) : startsNumber first rest =
    (first.isDigit || (first = '.' && (rest[0]?.getD '\x00').isDigit)) := by
  cases rest <;> simp [startsNumber, beq_eq_decide]

theorem startsWord_eq (first : Char) (rest : List Char) : startsWord first rest =
    (isWordStart first || (first = ':' && isWordStart (rest[0]?.getD '\x00'))) := by
  cases rest <;> simp [startsWord, beq_eq_decide, show isWordStart '\x00' = false from rfl]

/-- What the lexer looks at decides between the scans as between the readings. -/
theorem readToken_eq {first : Char} (holds : tape.Holds before (first :: rest)) :
    (if first = '\x22' || first = '\x27' then readString first
    else if first = '\x60' then readRaw first
    else if first.isDigit || (first = '.' && (rest[0]?.getD '\x00').isDigit) then readNumber
    else if isWordStart first || (first = ':' && isWordStart (rest[0]?.getD '\x00')) then readWord
    else readSymbol) tape (reelBehind before (first :: rest)) =
      settleToken before (first :: rest) (readLexeme first rest) := by
  rw [← startsNumber_eq, ← startsWord_eq, readLexeme]
  split_ifs
  · exact readString_eq holds
  · exact readRaw_eq holds
  · exact readNumber_eq holds
  · exact readWord_eq holds
  · exact readSymbol_eq holds

/-- From every place of the input on, the next token is the one that is read there. -/
theorem next_eq (holds : tape.Holds before text) :
    next tape (reelBehind before text) =
      ((Cursor.mk (byteLength before) text).next.1.mapError .refused,
        offsets (Cursor.mk (byteLength before) text).next.2.pos
          (Cursor.mk (byteLength before) text).next.2.rest) := by
  have head := List.prefix_iff_eq_append.1 (gap_head false text)
  have skipped : (Cursor.mk (byteLength before) text).skipGap =
      ⟨byteLength (before ++ gap false text), text.drop (gap false text).length⟩ := by
    rw [Text.byteLength_append]
    rfl
  have behind : tape.Holds (before ++ gap false text) (text.drop (gap false text).length) := by
    apply Tape.Holds.behind
    rwa [head]
  rw [next, skipGap_bind holds, position_bind behind, glance_bind, glance_bind, length_bind,
    Cursor.next, skipped, behind.whole]
  generalize before ++ gap false text = front at behind ⊢
  cases left : text.drop (gap false text).length with
  | nil =>
    rw [if_pos (by simp)]
    rfl
  | cons first rest =>
    rw [left] at behind
    -- A null character that is seen before the end is one of the text.
    have inside : ¬(first = '\x00' ∧ byteLength front = byteLength (front ++ first :: rest)) := by
      have positive := Text.byteLength_pos (List.cons_ne_nil first rest)
      rw [Text.byteLength_append]
      omega
    rw [List.getElem?_cons_zero, Option.getD_some, if_neg inside, List.getElem?_cons_succ,
      readToken_eq behind]
    dsimp only
    obtain ⟨source, outcome⟩ := readLexeme first rest
    rw [settleToken, settle, reelBehind, source_map, Text.byteLength_append]
    cases outcome <;> rfl

end Scan

end RuleAtlas.Query
