import RuleAtlas.Proofs.Query.Bytes.Lexer
import RuleAtlas.Proofs.Query.Taking

/-! # Scans follow readings

In front of every text a scan of the lexer with byte offsets follows the reading that it stands
for: both come to the same value or fault, and the scan leaves the reel of what the reading
leaves.  So every text is cut out between characters, every sum of an escape fits, and no loop
runs out of steps.  Here is one lemma for each step of the scans, and for those that take runs
of characters and gaps. -/

namespace RuleAtlas.Query

open Parse (Round)
open Text (byteLength)

/-- Behind the longest run of a kind stands what is left when the run is dropped. -/
theorem drop_takeWhile (kind : Char → Bool) (text : List Char) :
    text.drop (text.takeWhile kind).length = text.dropWhile kind := by
  have run := List.prefix_iff_eq_append.1 (List.takeWhile_prefix (l := text) kind)
  exact List.append_cancel_left (run.trans List.takeWhile_append_dropWhile.symm)

/-! ## Reels of texts -/

/-- The characters of a text, each at its byte offset, where the text begins at `pos`. -/
def offsets : (pos : Nat) → List Char → Reel
  | _, [] => []
  | pos, c :: text => (pos, c) :: offsets (pos + c.utf8Size) text

/-- What is left of an input behind a text. -/
def reelBehind (before text : List Char) : Reel := offsets (byteLength before) text

/-- The input goes on with a text behind another one, and there are more steps than characters. -/
structure Tape.Holds (tape : Tape) (before text : List Char) : Prop where
  whole : tape.text = before ++ text
  steps : tape.text.length < tape.steps

section
variable {before front text rest : List Char} {c : Char} {tape : Tape}

@[simp] theorem reelBehind_nil : reelBehind before [] = [] := rfl

@[simp] theorem reelBehind_cons :
    reelBehind before (c :: text) = (byteLength before, c) :: reelBehind (before ++ [c]) text := by
  simp [reelBehind, offsets]

theorem reelBehind_getElem? (before text : List Char) (count : Nat) :
    (reelBehind before text)[count]?.elim '\x00' Prod.snd = text[count]?.getD '\x00' := by
  induction text generalizing before count with
  | nil => rfl
  | cons c text inductionHypothesis =>
    rw [reelBehind_cons]
    cases count with
    | zero => rfl
    | succ count => simpa using inductionHypothesis (before ++ [c]) count

namespace Tape.Holds

theorem behind (holds : tape.Holds before (front ++ rest)) : tape.Holds (before ++ front) rest :=
  ⟨by rw [holds.whole, List.append_assoc], holds.steps⟩

theorem tail (holds : tape.Holds before (c :: rest)) : tape.Holds (before ++ [c]) rest :=
  @Tape.Holds.behind before [c] rest tape holds

/-- Behind the run of a kind at the head of the text. -/
theorem behindRun (kind : Char → Bool) (holds : tape.Holds before text) :
    tape.Holds (before ++ text.takeWhile kind) (text.dropWhile kind) := by
  apply behind
  rwa [List.takeWhile_append_dropWhile]

theorem length_lt (holds : tape.Holds before text) : text.length < tape.steps := by
  have length := congrArg List.length holds.whole
  have steps := holds.steps
  rw [List.length_append] at length
  omega

end Tape.Holds

end

/-! ## Cuts between characters -/

theorem dropBytes?_append (front rest : List Char) :
    dropBytes? (byteLength front) (front ++ rest) = some rest := by
  induction front with
  | nil => cases rest <;> simp [dropBytes?]
  | cons c front inductionHypothesis =>
    have positive := c.utf8Size_pos
    rw [List.cons_append, dropBytes?, Text.byteLength_cons, if_neg (by omega), if_pos (by omega),
      Nat.add_sub_cancel_left, inductionHypothesis]

theorem takeBytes?_append (front rest : List Char) :
    takeBytes? (byteLength front) (front ++ rest) = some front := by
  induction front with
  | nil => cases rest <;> simp [takeBytes?]
  | cons c front inductionHypothesis =>
    have positive := c.utf8Size_pos
    rw [List.cons_append, takeBytes?, Text.byteLength_cons, if_neg (by omega), if_pos (by omega),
      Nat.add_sub_cancel_left, inductionHypothesis]
    rfl

/-- What stands between two texts is cut out between their offsets. -/
theorem slice?_append (before source rest : List Char) :
    slice? (before ++ (source ++ rest)) (byteLength before) (byteLength (before ++ source)) =
      some source := by
  have length : byteLength (before ++ source) - byteLength before = byteLength source := by
    rw [Text.byteLength_append, Nat.add_sub_cancel_left]
  rw [slice?, if_pos (by rw [Text.byteLength_append]; omega), dropBytes?_append, Option.bind_some,
    length, takeBytes?_append]

namespace Scan

variable {α β : Type} {tape : Tape} {before text rest : List Char} {c : Char}

/-! ## Single steps -/

theorem bind_apply (scan : Scan α) (following : α → Scan β) (reel : Reel) :
    (scan >>= following) tape reel = match scan tape reel with
      | (.ok a, left) => following a tape left
      | (.error halt, left) => (.error halt, left) := rfl

theorem glance_bind {count : Nat} {following : Char → Scan β} :
    (glance count >>= following) tape (reelBehind before text) =
      following (text[count]?.getD '\x00') tape (reelBehind before text) := by
  rw [bind_apply, glance]
  dsimp only
  rw [reelBehind_getElem?]

theorem position_bind {following : Nat → Scan β} (holds : tape.Holds before text) :
    (position >>= following) tape (reelBehind before text) =
      following (byteLength before) tape (reelBehind before text) := by
  rw [bind_apply, position]
  cases text with
  | nil => simp [holds.whole]
  | cons c text => simp

theorem length_bind {following : Nat → Scan β} (reel : Reel) :
    (length >>= following) tape reel = following (byteLength tape.text) tape reel := rfl

theorem take_bind {following : Option (Nat × Char) → Scan β} :
    (take >>= following) tape (reelBehind before (c :: text)) =
      following (some (byteLength before, c)) tape (reelBehind (before ++ [c]) text) := by
  rw [reelBehind_cons]
  rfl

theorem token_eq {kind : TokenKind} {source : List Char}
    (holds : tape.Holds before (source ++ rest)) :
    token kind (byteLength before) tape (reelBehind (before ++ source) rest) =
      (.ok ⟨kind, String.ofList source, byteLength before⟩,
        reelBehind (before ++ source) rest) := by
  rw [token, position_bind holds.behind, bind_apply, slice, holds.whole, slice?_append]
  rfl

/-! ## Rounds -/

section
variable {round : α → Scan (Round α)} {steps : Nat} {a b : α} {reel left : Reel}

theorem rounds_again (came : round a tape reel = (.ok (.again b), left)) :
    rounds round (steps + 1) a tape reel = rounds round steps b tape left := by
  rw [rounds, bind_apply, came]

theorem rounds_done (came : round a tape reel = (.ok (.done b), left)) :
    rounds round (steps + 1) a tape reel = (.ok b, left) := by
  rw [rounds, bind_apply, came]
  rfl

theorem rounds_halt {halt : Halt} (came : round a tape reel = (.error halt, left)) :
    rounds round (steps + 1) a tape reel = (.error halt, left) := by
  rw [rounds, bind_apply, came]

end

/-! ## Runs of characters -/

theorem rounds_skipOne {kind : Char → Bool} (noNul : kind '\x00' = false) {steps : Nat}
    (enough : text.length < steps) :
    rounds (skipOne kind) steps () tape (reelBehind before text) =
      (.ok (), reelBehind (before ++ text.takeWhile kind) (text.dropWhile kind)) := by
  -- Over the text: at its end the null character is seen, which is not of the kind.
  induction text generalizing before steps with
  | nil =>
    obtain ⟨steps, rfl⟩ := Nat.exists_eq_succ_of_ne_zero (Nat.ne_zero_of_lt enough)
    apply rounds_done
    rw [skipOne, glance_bind, List.getElem?_nil, Option.getD_none, noNul]
    simp
    rfl
  | cons c text inductionHypothesis =>
    obtain ⟨steps, rfl⟩ := Nat.exists_eq_succ_of_ne_zero (Nat.ne_zero_of_lt enough)
    cases here : kind c with
    | true =>
      have took : skipOne kind () tape (reelBehind before (c :: text)) =
          (.ok (.again ()), reelBehind (before ++ [c]) text) := by
        rw [skipOne, glance_bind, List.getElem?_cons_zero, Option.getD_some, here, if_pos rfl,
          take_bind]
        rfl
      rw [rounds_again took, inductionHypothesis (Nat.lt_of_succ_lt_succ enough),
        List.takeWhile_cons_of_pos here, List.dropWhile_cons_of_pos here, List.append_assoc]
      rfl
    | false =>
      apply rounds_done
      rw [skipOne, glance_bind, List.getElem?_cons_zero, Option.getD_some, here,
        List.takeWhile_cons_of_neg (by simp [here]), List.dropWhile_cons_of_neg (by simp [here]),
        List.append_nil]
      rfl

theorem skipRun_eq {kind : Char → Bool} (noNul : kind '\x00' = false)
    (holds : tape.Holds before text) : skipRun kind tape (reelBehind before text) =
      (.ok (), reelBehind (before ++ text.takeWhile kind) (text.dropWhile kind)) :=
  rounds_skipOne noNul holds.length_lt

theorem skipRun_bind {kind : Char → Bool} (noNul : kind '\x00' = false)
    (holds : tape.Holds before text) {following : Unit → Scan β} :
    (skipRun kind >>= following) tape (reelBehind before text) =
      following () tape (reelBehind (before ++ text.takeWhile kind) (text.dropWhile kind)) := by
  rw [bind_apply, skipRun_eq noNul holds]

/-! ## Gaps -/

/-- A comment goes on up to the end of its line or to a NUL character, and then so does the gap. -/
theorem gap_true (text : List Char) :
    gap true text = text.takeWhile inComment ++ gap false (text.dropWhile inComment) := by
  induction text with
  | nil => rfl
  | cons c text inductionHypothesis =>
    by_cases line : c = '\n'
    · subst line
      rfl
    by_cases nul : c = '\x00'
    · subst nul
      rfl
    have inside : inComment c = true := by simp [inComment, line, nul]
    rw [gap, if_neg line, if_neg nul, inductionHypothesis, List.takeWhile_cons_of_pos inside,
      List.dropWhile_cons_of_pos inside, List.cons_append]

theorem gap_number_sign (text : List Char) :
    gap false ('#' :: text) = ('#' :: text).takeWhile inComment ++
      gap false (('#' :: text).dropWhile inComment) :=
  congrArg ('#' :: ·) (gap_true text)

theorem rounds_skipBlankOrComment {steps : Nat} (enough : text.length < steps)
    (holds : tape.Holds before text) :
    rounds skipBlankOrComment steps () tape (reelBehind before text) =
      (.ok (), reelBehind (before ++ gap false text) (text.drop (gap false text).length)) := by
  -- Every round but the last one takes a character, or a comment with its first one.
  induction steps generalizing before text with
  | zero => exact absurd enough (Nat.not_lt_zero _)
  | succ steps inductionHypothesis =>
  cases text with
  | nil =>
    apply rounds_done
    rw [skipBlankOrComment, glance_bind]
    simp [gap]
    rfl
  | cons c text =>
    have first : ∀ {following : Char → Scan (Round Unit)},
        (glance 0 >>= following) tape (reelBehind before (c :: text)) =
          following c tape (reelBehind before (c :: text)) := glance_bind
    have enoughBehind := Nat.lt_of_succ_lt_succ enough
    by_cases blank : isGapCharacter c = true
    · have took : skipBlankOrComment () tape (reelBehind before (c :: text)) =
          (.ok (.again ()), reelBehind (before ++ [c]) text) := by
        rw [skipBlankOrComment, first, if_pos blank, take_bind]
        rfl
      rw [rounds_again took, inductionHypothesis enoughBehind holds.tail, gap, if_pos blank,
        List.append_assoc]
      rfl
    by_cases comment : c = '#'
    · subst comment
      have took : skipBlankOrComment () tape (reelBehind before ('#' :: text)) =
          (.ok (.again ()), reelBehind (before ++ ('#' :: text).takeWhile inComment)
            (('#' :: text).dropWhile inComment)) := by
        rw [skipBlankOrComment, first, if_neg blank, if_pos rfl, skipRun_bind rfl holds]
        rfl
      have shorter : (('#' :: text).dropWhile inComment).length ≤ text.length :=
        (List.dropWhile_suffix (l := text) inComment).length_le
      rw [rounds_again took, inductionHypothesis (Nat.lt_of_le_of_lt shorter enoughBehind)
        (holds.behindRun inComment), gap_number_sign, List.append_assoc, List.length_append,
        ← List.drop_drop, drop_takeWhile]
    · apply rounds_done
      rw [skipBlankOrComment, first, if_neg blank, if_neg comment, gap, if_neg blank,
        if_neg comment, List.append_nil]
      rfl

theorem skipGap_bind (holds : tape.Holds before text) {following : Unit → Scan β} :
    (skipGap >>= following) tape (reelBehind before text) =
      following () tape
        (reelBehind (before ++ gap false text) (text.drop (gap false text).length)) := by
  rw [bind_apply, skipGap, loop, rounds_skipBlankOrComment holds.length_lt holds]

/-! ## Readings -/

/-- What a scan of this text has to come to: what the reading does, its faults reported at the
given places, and the reel behind what it read. -/
def settle (place : Stumble → Nat) (before text : List Char) (reading : Reading α) :
    Except Halt α × Reel :=
  (reading.outcome.mapError fun stumble => .refused ⟨stumble.fault, place stumble⟩,
    reelBehind (before ++ reading.source) (text.drop reading.source.length))

section
variable {place : Stumble → Nat} {source front : List Char}

theorem settle_found {a : α} : settle place before (source ++ rest) (.found source a) =
    (.ok a, reelBehind (before ++ source) rest) := by
  simp [settle, Reading.found, Except.mapError]

theorem settle_value {a : α} :
    settle place before text (.found [] a) = (.ok a, reelBehind before text) := by
  simp [settle, Reading.found, Except.mapError]

theorem settle_fault {fault : LexicalFault} :
    settle place before (source ++ rest) (.fault source fault : Reading α) =
      (.error (.refused ⟨fault, place ⟨fault, []⟩⟩), reelBehind (before ++ source) rest) := by
  simp [settle, Reading.fault, Except.mapError]

theorem settle_behind (reading : Reading α) :
    settle place before (front ++ text) (reading.behind front) =
      settle (fun stumble => place ⟨stumble.fault, front ++ stumble.before⟩) (before ++ front) text
        reading := by
  unfold settle
  rw [source_behind, List.append_assoc, List.length_append, ← List.drop_drop, List.drop_left]
  cases outcome : reading.outcome <;> simp [Reading.behind, outcome, Except.mapError]

end

end Scan

end RuleAtlas.Query
