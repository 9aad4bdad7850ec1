import RuleAtlas.Proofs.Query.Bytes.Following
import RuleAtlas.Proofs.Query.Literals.Numerals

/-! # Scans of strings

The digits of an escape are added up within 32 bits, and the scans of escapes, of strings and
of raw strings follow their readings. -/

namespace RuleAtlas.Query

open Parse (Round)
open Text (byteLength)

namespace Scan

variable {α : Type} {tape : Tape} {before text rest : List Char} {c : Char}

/-! ## Escapes -/

/-- Digits are added up in 32 bits, if all numbers with so many more places fit. -/
theorem readDigits_eq {pos radix : Nat} (positive : 0 < radix) (count value : Nat)
    (fits : (value + 1) * radix ^ count ≤ 2 ^ 32) :
    readDigits pos radix count value tape (reelBehind before text) =
      settle (fun _ => pos) before text (Query.readDigits radix count value text) := by
  induction count generalizing before text value with
  | zero => exact settle_value.symm
  | succ count inductionHypothesis =>
    cases text with
    | nil =>
      have refused := @settle_fault Nat before [] (fun _ => pos) [] .illegalEscapeDigit
      rw [List.append_nil] at refused
      exact refused.symm
    | cons c text =>
      rw [readDigits, take_bind, Query.readDigits]
      dsimp only [Option.bind_some]
      cases here : digitValue? radix c with
      | none => exact (@settle_fault Nat before text (fun _ => pos) [c] .illegalEscapeDigit).symm
      | some digit =>
        have small : digit < radix := by
          obtain ⟨-, below⟩ := Option.filter_eq_some_iff.1 here
          simpa using below
        -- The sum is one of the numbers with the places that are left.
        have fitsBehind : (value * radix + digit + 1) * radix ^ count ≤ 2 ^ 32 := by
          calc (value * radix + digit + 1) * radix ^ count
              ≤ ((value + 1) * radix) * radix ^ count := by
                apply Nat.mul_le_mul_right
                rw [Nat.succ_mul]
                omega
            _ = (value + 1) * radix ^ (count + 1) := by rw [Nat.mul_assoc, ← Nat.pow_succ']
            _ ≤ 2 ^ 32 := fits
        have room : value * radix + digit < 2 ^ 32 := by
          have one := Nat.pow_pos (n := count) positive
          calc value * radix + digit < (value * radix + digit + 1) * 1 := by omega
            _ ≤ (value * radix + digit + 1) * radix ^ count := Nat.mul_le_mul_left _ one
            _ ≤ 2 ^ 32 := fitsBehind
        have added : addDigit radix value digit = pure (value * radix + digit) := if_pos room
        have behind := @settle_behind Nat before text (fun _ => pos) [c]
          (Query.readDigits radix count (value * radix + digit) text)
        rw [List.singleton_append] at behind
        rw [behind, ← inductionHypothesis _ fitsBehind]
        show (addDigit radix value digit >>= fun sum => readDigits pos radix count sum) tape _ = _
        rw [added]
        rfl

/-- A code point is the character of its digits, where these are in range. -/
theorem readCodePoint_eq {pos radix limit : Nat} (base : radix = 8 ∧ limit = 255 ∨
      radix = 16 ∧ limit = Nat.pow 2 32) (count value : Nat)
    (fits : (value + 1) * radix ^ count ≤ 2 ^ 32) :
    readCodePoint pos radix count value tape (reelBehind before text) =
      settle (fun _ => pos) before text
        (characterOf (Query.readDigits radix count value text) limit) := by
  have positive : 0 < radix := by omega
  have atMost : radix ≤ 16 := by omega
  rw [readCodePoint, bind_apply, readDigits_eq positive count value fits]
  unfold characterOf
  cases outcome : (Query.readDigits radix count value text).outcome with
  | error stumble => simp [settle, outcome, Except.mapError]
  | ok code =>
    have test : (radix = 8 ∧ 255 < code) ↔ limit < code := by
      -- Digits of the larger base never come to the limit.
      have small : code < 2 ^ 32 := by
        obtain ⟨digits, _, number, -, rfl, numeral, rfl⟩ := isNumeral_of_readDigits atMost outcome
        have below := numeral.lt_pow
        calc value * radix ^ digits.length + number
            < value * radix ^ digits.length + radix ^ digits.length := by omega
          _ = (value + 1) * radix ^ digits.length := (Nat.succ_mul _ _).symm
          _ ≤ 2 ^ 32 := fits
      have power : Nat.pow 2 32 = 2 ^ 32 := rfl
      omega
    simp only [settle, outcome, Except.mapError, test]
    split_ifs <;> rfl

theorem readEscape_eq {quote : Char} {pos : Nat} :
    readEscape quote pos tape (reelBehind before text) =
      settle (fun _ => pos) before text (Query.readEscape quote text) := by
  cases text with
  | nil =>
    have refused := @settle_fault Char before [] (fun _ => pos) [] .unterminatedEscape
    rw [List.append_nil] at refused
    exact refused.symm
  | cons c text =>
    -- All codes are read in one way, and for each of them the sums of the digits fit.
    have code : ∀ {radix limit count value : Nat}, (radix = 8 ∧ limit = 255 ∨
        radix = 16 ∧ limit = Nat.pow 2 32) → (value + 1) * radix ^ count ≤ 2 ^ 32 →
        readCodePoint pos radix count value tape (reelBehind (before ++ [c]) text) =
          settle (fun _ => pos) before (c :: text)
            ((characterOf (Query.readDigits radix count value text) limit).behind [c]) := by
      intro radix limit count value base fits
      rw [readCodePoint_eq base count value fits]
      exact (@settle_behind Char before text (fun _ => pos) [c] _).symm
    rw [readEscape, take_bind, Query.readEscape]
    dsimp only
    cases letterEscape? quote c with
    | some value => exact (@settle_found Char before text (fun _ => pos) [c] value).symm
    | none =>
      dsimp only
      split_ifs
      · exact code (.inr ⟨rfl, rfl⟩) (by decide)
      · exact code (.inr ⟨rfl, rfl⟩) (by decide)
      · exact code (.inr ⟨rfl, rfl⟩) (by decide)
      · cases octal : digitValue? 8 c with
        | some digit =>
          have small : digit < 8 := (digitValue?_eq_some (by decide)).1 octal |>.2
          exact code (.inl ⟨rfl, rfl⟩) (by omega)
        | none =>
          exact (@settle_fault Char before text (fun _ => pos) [c] (.unknownEscape c)).symm

/-! ## Strings -/

/-- No fault of the reading is that a string does not end. -/
def EndsString (reading : Reading α) : Prop :=
  ∀ stumble, reading.outcome = .error stumble → stumble.fault ≠ .unterminatedString

theorem EndsString.behind {reading : Reading α} (ends : EndsString reading)
    (front : List Char) : EndsString (reading.behind front) := by
  obtain ⟨source, outcome⟩ := reading
  intro stumble refused
  cases outcome with
  | ok a => cases refused
  | error inner =>
    cases refused
    exact ends inner rfl

theorem endsString_fault {source : List Char} {fault : LexicalFault}
    (other : fault ≠ .unterminatedString) : EndsString (.fault source fault : Reading α) := by
  intro stumble refused
  cases refused
  exact other

theorem endsString_found {source : List Char} {a : α} :
    EndsString (.found source a : Reading α) := nofun

theorem endsString_readDigits (radix count value : Nat) (text : List Char) :
    EndsString (Query.readDigits radix count value text) := by
  fun_induction Query.readDigits radix count value text with
  | case1 => exact endsString_found
  | case2 => exact endsString_fault (by decide)
  | case3 => exact endsString_fault (by decide)
  | case4 _ _ _ _ _ _ inductionHypothesis => exact inductionHypothesis.behind _

theorem EndsString.characterOf {reading : Reading Nat} (ends : EndsString reading) (limit : Nat) :
    EndsString (Query.characterOf reading limit) := by
  unfold Query.characterOf
  split
  · rename_i inner here
    intro stumble refused
    cases refused
    exact ends inner here
  · split_ifs
    · exact endsString_fault (by decide)
    · exact endsString_found
    · exact endsString_fault (by decide)

theorem endsString_readEscape (quote : Char) (text : List Char) :
    EndsString (Query.readEscape quote text) := by
  have code : ∀ radix count value limit text c, EndsString
      ((characterOf (Query.readDigits radix count value text) limit).behind [c]) :=
    fun radix count value limit text c =>
      ((endsString_readDigits radix count value text).characterOf limit).behind [c]
  cases text with
  | nil => exact endsString_fault (by decide)
  | cons c text =>
    unfold Query.readEscape
    dsimp only
    split
    · exact endsString_found
    · split_ifs
      · apply code
      · apply code
      · apply code
      · split
        · apply code
        · exact endsString_fault (by simp)

/-- That a string does not end is reported at its beginning, and a fault of an escape at its
backslash. -/
def stringPlace (start : Nat) (before : List Char) (stumble : Stumble) : Nat :=
  if stumble.fault = .unterminatedString then start
  else byteLength before + byteLength stumble.before

theorem stringPlace_behind (start : Nat) (before front : List Char) :
    (fun stumble => stringPlace start before ⟨stumble.fault, front ++ stumble.before⟩) =
      stringPlace start (before ++ front) := by
  funext stumble
  simp only [stringPlace, Text.byteLength_append, Nat.add_assoc]

theorem map_behind_map {α β γ : Type} (f : α → β) (g : β → γ) (front : List Char)
    (reading : Reading α) :
    ((reading.map f).behind front).map g = (reading.map (g ∘ f)).behind front := by
  obtain ⟨source, outcome⟩ := reading
  cases outcome <;> rfl

/-- A round that takes some characters for one of the value, with the rounds behind it. -/
theorem rounds_readItem_again {quote character : Char} {start steps : Nat}
    {front tail value : List Char}
    (following : rounds (readItem quote start) steps (value ++ [character]) tape
        (reelBehind (before ++ c :: front) tail) =
      settle (stringPlace start (before ++ c :: front)) (before ++ c :: front) tail
        ((readQuoted quote tail).map (value ++ [character] ++ ·)))
    (took : readItem quote start value tape (reelBehind before (c :: (front ++ tail))) =
      (.ok (.again (value ++ [character])), reelBehind (before ++ c :: front) tail)) :
    rounds (readItem quote start) (steps + 1) value tape
        (reelBehind before (c :: (front ++ tail))) =
      settle (stringPlace start before) before (c :: (front ++ tail))
        ((((readQuoted quote tail).map (character :: ·)).behind (c :: front)).map
          (value ++ ·)) := by
  rw [rounds_again took, following, map_behind_map, ← List.cons_append, settle_behind,
    stringPlace_behind]
  congr 2
  funext others
  exact List.append_assoc value [character] others

/-- A fault of an escape halts the scan of the string at the backslash. -/
theorem settle_escapeFault {start : Nat} {source value : List Char} {fault : LexicalFault}
    (other : fault ≠ .unterminatedString) :
    settle (stringPlace start before) before (c :: text)
        ((Reading.fault (c :: source) fault).map (value ++ ·)) =
      (.error (.refused ⟨fault, byteLength before⟩),
        reelBehind (before ++ [c] ++ source) (text.drop source.length)) := by
  have place : stringPlace start before ⟨fault, []⟩ = byteLength before := if_neg other
  simp only [settle, Reading.map, Reading.fault, Except.map, Except.mapError, place]
  simp

theorem rounds_readItem {quote : Char} {start steps : Nat} (enough : text.length < steps)
    (value : List Char) :
    rounds (readItem quote start) steps value tape (reelBehind before text) =
      settle (stringPlace start before) before text ((readQuoted quote text).map (value ++ ·)) := by
  -- Every round but the last one takes a character, or an escape with its backslash.
  induction steps generalizing before text value with
  | zero => exact absurd enough (Nat.not_lt_zero _)
  | succ steps inductionHypothesis =>
  cases text with
  | nil =>
    have refused :=
      @settle_fault (List Char) before [] (stringPlace start before) [] .unterminatedString
    rw [List.append_nil] at refused
    rw [readQuoted]
    exact (rounds_halt rfl).trans refused.symm
  | cons c text =>
    have enoughBehind := Nat.lt_of_succ_lt_succ enough
    have again : ∀ front tail character, text = front ++ tail →
        readItem quote start value tape (reelBehind before (c :: text)) =
          (.ok (.again (value ++ [character])), reelBehind (before ++ (c :: front)) tail) →
        rounds (readItem quote start) (steps + 1) value tape (reelBehind before (c :: text)) =
          settle (stringPlace start before) before (c :: text)
            ((((readQuoted quote tail).map (character :: ·)).behind (c :: front)).map
              (value ++ ·)) := by
      rintro front tail character rfl took
      rw [List.length_append] at enoughBehind
      exact rounds_readItem_again (inductionHypothesis (by omega) _) took
    have took : readItem quote start value tape (reelBehind before (c :: text)) = _ := take_bind
    dsimp only at took
    rw [readQuoted]
    by_cases closes : c = quote
    · rw [if_pos closes] at took ⊢
      rw [rounds_done took]
      have found : (Reading.found [c] []).map (value ++ ·) = .found [c] value :=
        congrArg (Reading.found [c]) (List.append_nil value)
      rw [found]
      exact settle_found.symm
    by_cases line : c = '\n'
    · rw [if_neg closes, if_pos line] at took ⊢
      rw [rounds_halt took]
      exact (@settle_fault (List Char) before text (stringPlace start before) [c] _).symm
    by_cases escapes : c = '\\'
    · rw [if_neg closes, if_neg line, if_pos escapes] at took ⊢
      rw [bind_apply, readEscape_eq, settle] at took
      dsimp only
      cases outcome : (Query.readEscape quote text).outcome with
      | error stumble =>
        rw [outcome] at took
        rw [rounds_halt took]
        exact (settle_escapeFault (endsString_readEscape quote text stumble outcome)).symm
      | ok character =>
        rw [outcome] at took
        have head := takes_readEscape quote text
        apply again _ _ character (List.prefix_iff_eq_append.1 head).symm
        rw [took, List.append_assoc]
        rfl
    · rw [if_neg closes, if_neg line, if_neg escapes] at took ⊢
      exact again [] text c rfl took

/-! ## String tokens -/

/-- What the scan of a token has to come to. -/
def settleToken (before text : List Char) (reading : Reading Lexeme) : Except Halt Token × Reel :=
  settle (fun stumble => byteLength before + byteLength stumble.before) before text
    (reading.map fun lexeme => ⟨lexeme.kind, String.ofList lexeme.text, byteLength before⟩)

theorem settleToken_found {source : List Char} {lexeme : Lexeme} :
    settleToken before (source ++ rest) (.found source lexeme) =
      (.ok ⟨lexeme.kind, String.ofList lexeme.text, byteLength before⟩,
        reelBehind (before ++ source) rest) := settle_found

theorem settleToken_fault {source : List Char} {fault : LexicalFault} :
    settleToken before (source ++ rest) (.fault source fault) =
      (.error (.refused ⟨fault, byteLength before⟩), reelBehind (before ++ source) rest) :=
  settle_fault

/-- A string is read with its opening quote, where it is reported that it does not end. -/
theorem readString_of_readQuoted (quote : Char) (text : List Char) :
    Query.readString quote text = ⟨quote :: (readQuoted quote text).source,
      (readQuoted quote text).outcome.mapError fun stumble => ⟨stumble.fault,
        if stumble.fault = .unterminatedString then [] else quote :: stumble.before⟩⟩ := by
  unfold Query.readString
  obtain ⟨source, outcome⟩ := readQuoted quote text
  cases outcome with
  | ok value => rfl
  | error stumble =>
    obtain ⟨fault, front⟩ := stumble
    cases fault <;> rfl

theorem readString_eq {quote : Char} (holds : tape.Holds before (quote :: text)) :
    readString quote tape (reelBehind before (quote :: text)) =
      settleToken before (quote :: text) ((Query.readString quote text).map (⟨.string, ·⟩)) := by
  rw [readString, position_bind holds, take_bind, bind_apply, loop,
    rounds_readItem holds.tail.length_lt, readString_of_readQuoted]
  obtain ⟨source, outcome⟩ := readQuoted quote text
  have left : reelBehind (before ++ [quote] ++ source) (text.drop source.length) =
      reelBehind (before ++ quote :: source)
        ((quote :: text).drop (quote :: source).length) := by
    rw [List.append_assoc]
    rfl
  cases outcome with
  | ok value =>
    simp only [settleToken, settle, Reading.map, Except.map, Except.mapError, left]
    rfl
  | error stumble =>
    simp only [settleToken, settle, Reading.map, Except.map, Except.mapError, left, stringPlace]
    split_ifs <;> simp [Nat.add_assoc]

theorem rounds_readRawItem {quote : Char} {start steps : Nat} (enough : text.length < steps)
    (value : List Char) :
    rounds (readRawItem quote start) steps value tape (reelBehind before text) =
      match text.dropWhile (· != quote) with
      | [] => (.error (.refused ⟨.unterminatedRawString, start⟩), reelBehind (before ++ text) [])
      | c :: rest => (.ok (value ++ text.takeWhile (· != quote)),
          reelBehind (before ++ text.takeWhile (· != quote) ++ [c]) rest) := by
  induction text generalizing before value steps with
  | nil =>
    obtain ⟨steps, rfl⟩ := Nat.exists_eq_succ_of_ne_zero (Nat.ne_zero_of_lt enough)
    exact rounds_halt rfl
  | cons c text inductionHypothesis =>
    obtain ⟨steps, rfl⟩ := Nat.exists_eq_succ_of_ne_zero (Nat.ne_zero_of_lt enough)
    have took : readRawItem quote start value tape (reelBehind before (c :: text)) = _ := take_bind
    dsimp only at took
    by_cases closes : c = quote
    · rw [if_pos closes] at took
      rw [rounds_done took]
      subst closes
      simp
    · have inside : (c != quote) = true := by simpa using closes
      rw [if_neg closes] at took
      rw [rounds_again took, inductionHypothesis (Nat.lt_of_succ_lt_succ enough)]
      simp only [List.takeWhile_cons, List.dropWhile_cons, inside, if_true]
      split <;> simp

theorem readRaw_eq {quote : Char} (holds : tape.Holds before (quote :: text)) :
    readRaw quote tape (reelBehind before (quote :: text)) =
      settleToken before (quote :: text) ((Query.readRaw quote text).map (⟨.string, ·⟩)) := by
  have whole := List.takeWhile_append_dropWhile (p := (· != quote)) (l := text)
  have stops : Text.Stops (· != quote) (text.dropWhile (· != quote)) := Text.stops_dropWhile text
  rw [readRaw, position_bind holds, take_bind, bind_apply, loop,
    rounds_readRawItem holds.tail.length_lt, Query.readRaw]
  cases ends : text.dropWhile (· != quote) with
  | nil =>
    rw [ends, List.append_nil] at whole
    have refused := @settleToken_fault before [] (quote :: text) .unterminatedRawString
    rw [List.append_nil] at refused
    rw [whole, List.append_assoc]
    exact refused.symm
  | cons c rest =>
    rw [ends, Text.stops_cons] at stops
    obtain rfl : c = quote := by simpa using stops
    rw [ends] at whole
    have found := @settleToken_found before rest (c :: (text.takeWhile (· != c) ++ [c]))
      ⟨.string, text.takeWhile (· != c)⟩
    rw [List.cons_append, List.append_assoc, List.singleton_append, whole] at found
    have behind : before ++ [c] ++ text.takeWhile (· != c) ++ [c] =
        before ++ c :: (text.takeWhile (· != c) ++ [c]) := by simp
    dsimp only
    rw [behind]
    exact found.symm

end Scan

end RuleAtlas.Query
