import RuleAtlas.Regex.Atom

/-! # Atoms inside a group

What is read at the head of a text that ends with the end of a group and an anchor.  Either it
is what is read of the text before that end, or the parenthesis was taken for a part of it, and
at most the anchor is left. -/

namespace RuleAtlas.Regex

variable {α : Type} {flags : Flags} {text : List Char}

/-- The end of a group with the anchor for the end of a text. -/
def closing : List Char := [')', '$']

/-! ## What is left -/

/-- The parenthesis of the closing is gone. -/
def Spent (rest : List Char) : Prop := rest = [] ∨ rest = ['$']

theorem Spent.nil : Spent [] := .inl rfl

theorem Spent.of_cons {c : Char} {rest : List Char} (spent : Spent (c :: rest)) :
    c = '$' ∧ rest = [] := by
  obtain nil | anchor := spent
  · cases nil
  · exact List.cons.inj anchor

/-- A character other than the parenthesis stands in the text before the closing. -/
theorem eq_cons_of_append {c : Char} {rest : List Char} (begins : text ++ closing = c :: rest)
    (other : c ≠ ')') : ∃ more, text = c :: more ∧ rest = more ++ closing := by
  cases text with
  | nil => exact absurd (List.cons.inj begins).1.symm other
  | cons d more =>
    obtain ⟨rfl, rfl⟩ := List.cons.inj begins
    exact ⟨more, rfl, rfl⟩

/-- Signs without the parenthesis stand in the text before the closing. -/
theorem eq_append_of_append (signs : List Char) {rest : List Char}
    (begins : text ++ closing = signs ++ rest) (others : ')' ∉ signs) :
    ∃ more, text = signs ++ more ∧ rest = more ++ closing := by
  induction signs generalizing text with
  | nil => exact ⟨text, rfl, begins.symm⟩
  | cons sign signs inductionHypothesis =>
    obtain ⟨other, others⟩ := not_or.1 (mt List.mem_cons.2 others)
    obtain ⟨behind, rfl, left⟩ := eq_cons_of_append begins (Ne.symm other)
    obtain ⟨more, rfl, last⟩ := inductionHypothesis left.symm others
    exact ⟨more, rfl, last⟩

/-- What was read of a text with the closing behind it was read of the text alone, or it took
the parenthesis of the closing. -/
def Kept (text : List Char) (alone : Option (α × List Char)) (read : α × List Char) : Prop :=
  (∃ rest, read.2 = rest ++ closing ∧ alone = some (read.1, rest) ∧
    rest.length ≤ text.length) ∨ Spent read.2

theorem kept_here (a : α) (text : List Char) : Kept text (some (a, text)) (a, text ++ closing) :=
  .inl ⟨text, rfl, rfl, Nat.le_refl _⟩

theorem Kept.mono {front : List Char} {alone : Option (α × List Char)} {read : α × List Char}
    (kept : Kept front alone read) (shorter : front.length ≤ text.length) :
    Kept text alone read := by
  obtain ⟨rest, behind, same, within⟩ | spent := kept
  · exact .inl ⟨rest, behind, same, Nat.le_trans within shorter⟩
  · exact .inr spent

/-- What begins with a character that the closing does not have stands in the text. -/
theorem Kept.uncons {alone : Option (α × List Char)} {a : α} {c : Char} {behind : List Char}
    (kept : Kept text alone (a, c :: behind)) (noParenthesis : c ≠ ')') (noAnchor : c ≠ '$') :
    ∃ rest, behind = rest ++ closing ∧ alone = some (a, c :: rest) ∧
      rest.length ≤ text.length := by
  obtain ⟨rest, same, alone, shorter⟩ | spent := kept
  · obtain ⟨rest, rfl, rfl⟩ := eq_cons_of_append same.symm noParenthesis
    exact ⟨rest, rfl, alone, Nat.le_of_succ_le shorter⟩
  · exact absurd spent.of_cons.1 noAnchor

/-! ## Blanks -/

theorem skipBlanks_closing (inComment : Bool) (text : List Char) :
    skipBlanks inComment (text ++ closing) = skipBlanks inComment text ++ closing ∨
      skipBlanks inComment (text ++ closing) = [] := by
  induction text generalizing inComment with
  | nil =>
    cases inComment with
    | true => exact .inr rfl
    | false => exact .inl rfl
  | cons c text inductionHypothesis =>
    cases inComment with
    | true => exact inductionHypothesis _
    | false =>
      simp only [List.cons_append, skipBlanks]
      split
      · exact inductionHypothesis _
      · split
        · exact inductionHypothesis _
        · exact .inl rfl

theorem length_skipBlanks_le (inComment : Bool) (text : List Char) :
    (skipBlanks inComment text).length ≤ text.length := by
  induction text generalizing inComment with
  | nil => simp [skipBlanks]
  | cons c text inductionHypothesis =>
    cases inComment with
    | true => exact Nat.le_succ_of_le (inductionHypothesis _)
    | false =>
      rw [skipBlanks]
      split
      · exact Nat.le_succ_of_le (inductionHypothesis _)
      · split
        · exact Nat.le_succ_of_le (inductionHypothesis _)
        · exact Nat.le_refl _

/-- The closing is kept behind blanks, unless a comment is open there. -/
theorem skip_closing (flags : Flags) (text : List Char) :
    skip flags (text ++ closing) = skip flags text ++ closing ∨
      skip flags (text ++ closing) = [] := by
  rw [skip, skip]
  split
  · exact skipBlanks_closing false text
  · exact .inl rfl

theorem length_skip_le (flags : Flags) (text : List Char) :
    (skip flags text).length ≤ text.length := by
  rw [skip]
  split
  · exact length_skipBlanks_le false text
  · exact Nat.le_refl _

theorem skip_plain {c : Char} (noBlank : Text.isBlank c = false) (noComment : c ≠ '#')
    (flags : Flags) (rest : List Char) : skip flags (c :: rest) = c :: rest := by
  rw [skip]
  split
  · simp [skipBlanks, noBlank, noComment]
  · rfl

theorem Spent.skip {rest : List Char} (spent : Spent rest) (flags : Flags) :
    Regex.skip flags rest = rest := by
  obtain rfl | rfl := spent
  · cases ignores : flags.ignoreBlanks <;> simp [Regex.skip, ignores, skipBlanks]
  · exact skip_plain (by decide) (by decide) flags []

theorem Spent.skipped {rest : List Char} (spent : Spent rest) (flags : Flags) :
    Spent (Regex.skip flags rest) := (spent.skip flags).symm ▸ spent

/-- Blanks are skipped alike. -/
theorem kept_skip (a : α) (flags : Flags) (text : List Char) :
    Kept text (some (a, skip flags text)) (a, skip flags (text ++ closing)) := by
  rcases skip_closing flags text with inside | open_
  · exact .inl ⟨skip flags text, inside, rfl, length_skip_le flags text⟩
  · exact .inr (.inl open_)

/-! ## Runs of characters -/

theorem collect_spent {test : Char → Bool} (budget : Nat) (spent : Spent text) :
    Spent (collect flags test budget text).2 := by
  obtain rfl | rfl := spent
  · cases budget <;> exact .nil
  · cases budget with
    | zero => exact .inr rfl
    | succ budget =>
      rw [collect]
      split
      · have none : skip flags [] = [] := Spent.nil.skip flags
        rw [none]
        cases budget <;> exact .nil
      · exact .inr rfl

theorem collect_nil (flags : Flags) (test : Char → Bool) (budget : Nat) :
    collect flags test budget [] = ([], []) := by
  cases budget <;> rfl

theorem collect_closing (flags : Flags) (test : Char → Bool) {budget larger : Nat}
    (enough : text.length ≤ budget) (more : text.length < larger) :
    Kept text (some (collect flags test budget text))
      (collect flags test larger (text ++ closing)) := by
  -- The induction is on the larger budget; the text alone needs no more than its length.
  induction larger generalizing text budget with
  | zero => exact absurd more (Nat.not_lt_zero _)
  | succ larger inductionHypothesis =>
    cases text with
    | nil =>
      rw [List.nil_append, collect_nil, closing, collect]
      split
      · exact .inr (collect_spent larger (.inr (Spent.skip (.inr rfl) flags)))
      · exact kept_here [] []
    | cons c text =>
      obtain ⟨budget, rfl⟩ := Nat.exists_eq_add_of_lt enough
      rw [List.cons_append, collect, collect]
      split
      case isFalse => exact kept_here [] (c :: text)
      case isTrue =>
        have shorter := length_skip_le flags text
        rw [List.length_cons] at more
        have enoughBehind : (skip flags text).length ≤ text.length + budget := by omega
        rcases skip_closing flags text with inside | open_
        · rw [inside]
          obtain ⟨rest, behind, same, length⟩ | spent :=
            inductionHypothesis enoughBehind (by omega)
          · refine .inl ⟨rest, behind, ?_, ?_⟩
            · rw [Option.some.inj same]
            · exact Nat.le_succ_of_le (Nat.le_trans length shorter)
          · exact .inr spent
        · rw [open_, collect_nil]
          exact .inr .nil

theorem collectAll_closing (flags : Flags) (test : Char → Bool) (text : List Char) :
    Kept text (some (collectAll flags test text)) (collectAll flags test (text ++ closing)) :=
  collect_closing flags test (Nat.le_refl _) (by simp [closing])

/-- What stands behind a run is that of the text alone, or it is spent. -/
theorem collectAll_cons {test : Char → Bool} {taken behind : List Char} {c : Char}
    (collected : collectAll flags test (text ++ closing) = (taken, c :: behind)) :
    (∃ rest, behind = rest ++ closing ∧ collectAll flags test text = (taken, c :: rest) ∧
      rest.length ≤ text.length) ∨ Spent behind := by
  have kept := collectAll_closing flags test text
  rw [collected] at kept
  obtain ⟨rest, same, alone, shorter⟩ | spent := kept
  · cases rest with
    | nil => exact .inr (.inr (List.cons.inj same).2)
    | cons d rest =>
      obtain ⟨rfl, rfl⟩ := List.cons.inj same
      exact .inl ⟨rest, rfl, Option.some.inj alone, Nat.le_of_succ_le shorter⟩
  · exact .inr (.inl spent.of_cons.2)

/-- The same with blanks before the run. -/
theorem collectAll_skip {test : Char → Bool} {taken behind : List Char} {c : Char}
    (collected : collectAll flags test (skip flags (text ++ closing)) = (taken, c :: behind)) :
    (∃ rest, behind = rest ++ closing ∧
      collectAll flags test (skip flags text) = (taken, c :: rest) ∧
      rest.length ≤ text.length) ∨ Spent behind := by
  rcases skip_closing flags text with inside | open_
  · rw [inside] at collected
    obtain ⟨rest, same, alone, shorter⟩ | spent := collectAll_cons collected
    · exact .inl ⟨rest, same, alone, Nat.le_trans shorter (length_skip_le flags text)⟩
    · exact .inr spent
  · rw [open_] at collected
    cases collected

/-- A run that ends in the text is taken without the closing. -/
theorem run_closing {test : Char → Bool} {c : Char} {behind : List Char}
    (ends : text.dropWhile test = c :: behind) :
    (text ++ closing).takeWhile test = text.takeWhile test ∧
      (text ++ closing).dropWhile test = c :: (behind ++ closing) := by
  have shorter : (text.takeWhile test).length ≠ text.length := fun all => by
    have lengths := congrArg List.length (List.takeWhile_append_dropWhile (p := test) (l := text))
    simp [ends, all] at lengths
  rw [List.takeWhile_append, List.dropWhile_append, ends, if_neg shorter]
  exact ⟨rfl, rfl⟩

/-! ## Code points -/

theorem readHexDigits_nil {count : Nat} {read : List Char × List Char}
    (found : readHexDigits flags count [] = some read) : Spent read.2 := by
  cases count with
  | zero => exact Option.some.inj found ▸ .nil
  | succ count => cases found

theorem readHexDigits_closing {count : Nat} {read : List Char × List Char}
    (found : readHexDigits flags count (text ++ closing) = some read) :
    Kept text (readHexDigits flags count text) read := by
  induction count generalizing text read with
  | zero =>
    obtain rfl := Option.some.inj found
    exact .inl ⟨text, rfl, rfl, Nat.le_refl _⟩
  | succ count inductionHypothesis =>
    cases text with
    | nil => cases found
    | cons c text =>
      rw [List.cons_append, readHexDigits] at found
      rw [readHexDigits]
      split at found
      case isTrue => cases found
      case isFalse digit =>
        rw [if_neg digit]
        obtain ⟨more, foundMore, rfl⟩ := Option.map_eq_some_iff.1 found
        rcases skip_closing flags text with inside | open_
        · rw [inside] at foundMore
          obtain ⟨rest, behind, same, shorter⟩ | spent := inductionHypothesis foundMore
          · refine .inl ⟨rest, behind, same ▸ rfl, ?_⟩
            exact Nat.le_succ_of_le (Nat.le_trans shorter (length_skip_le flags text))
          · exact .inr spent
        · rw [open_] at foundMore
          have spent := readHexDigits_nil foundMore
          exact .inr spent

theorem readHex_closing {letter : Char} {read : Atom × List Char}
    (found : readHex flags letter (text ++ closing) = some read) :
    Kept text (readHex flags letter text) read := by
  refine Kept.mono ?_ (length_skip_le flags text)
  rw [readHex] at found ⊢
  rcases skip_closing flags text with inside | open_
  · rw [inside] at found
    generalize skip flags text = front at found ⊢
    split at found
    next rest braced =>
      obtain ⟨more, rfl, rfl⟩ := eq_cons_of_append braced (by decide)
      split at found
      next digits behind collected =>
        obtain ⟨c, code, rfl⟩ := Option.map_eq_some_iff.1 found
        obtain ⟨rest, rfl, alone, shorter⟩ | spent := collectAll_skip collected
        · simp only [alone, code, Option.map_some]
          exact (kept_skip _ flags rest).mono (Nat.le_succ_of_le shorter)
        · exact .inr (spent.skipped flags)
      next => cases found
    next notBraced =>
      split
      next more => exact absurd rfl (notBraced (more ++ closing))
      next =>
        dsimp only at found ⊢
        split at found
        next => cases found
        next digits behind foundDigits =>
          obtain ⟨c, code, rfl⟩ := Option.map_eq_some_iff.1 found
          obtain ⟨rest, same, alone, shorter⟩ | spent := readHexDigits_closing foundDigits
          · refine .inl ⟨rest, same, ?_, shorter⟩
            rw [alone]
            simp only [code, Option.map_some]
          · exact .inr spent
  · -- An open comment takes the closing with it, and no digit is left.
    rw [open_] at found
    dsimp only at found
    split at found
    next => cases found
    next digits behind foundDigits =>
      obtain ⟨c, code, rfl⟩ := Option.map_eq_some_iff.1 found
      exact .inr (readHexDigits_nil foundDigits)

/-! ## Properties -/

/-- The name of a property, in braces or a single character. -/
def readPropertyName (flags : Flags) (text : List Char) : Option (List Char × List Char) :=
  match skip flags text with
  | [] => none
  | '\x7b' :: rest =>
    match collectAll flags (· != '\x7d') (skip flags rest) with
    | (name, _ :: behind) => some (name, behind)
    | _ => none
  | c :: rest => if c = '\\' then none else some ([c], skip flags rest)

theorem readProperty_eq (flags : Flags) (negated : Bool) (text : List Char) :
    readProperty flags negated text =
      match readPropertyName flags text with
      | none => none
      | some (name, behind) =>
        if !flags.unicode then none
        else ((property? name).bind (finishSet flags negated)).map fun set => (.set set, behind) :=
  rfl

theorem readPropertyName_closing {read : List Char × List Char}
    (found : readPropertyName flags (text ++ closing) = some read) :
    Kept text (readPropertyName flags text) read := by
  refine Kept.mono ?_ (length_skip_le flags text)
  rw [readPropertyName] at found ⊢
  rcases skip_closing flags text with inside | open_
  · rw [inside] at found
    generalize skip flags text = front at found ⊢
    cases front with
    | nil =>
      obtain rfl := Option.some.inj found
      exact .inr (.inr (Spent.skip (.inr rfl) flags))
    | cons c rest =>
      rw [List.cons_append] at found
      by_cases braced : c = '\x7b'
      · subst braced
        simp only at found ⊢
        split at found
        next name d behind collected =>
          obtain rfl := Option.some.inj found
          obtain ⟨rest, rfl, alone, shorter⟩ | spent := collectAll_skip collected
          · simp only [alone]
            exact (kept_here name rest).mono (Nat.le_succ_of_le shorter)
          · exact .inr spent
        next => cases found
      · simp only at found ⊢
        split at found
        case isTrue => cases found
        case isFalse plain =>
          rw [if_neg plain]
          obtain rfl := Option.some.inj found
          exact (kept_skip [c] flags rest).mono (Nat.le_succ _)
  · rw [open_] at found
    cases found

theorem readProperty_closing {negated : Bool} {read : Atom × List Char}
    (found : readProperty flags negated (text ++ closing) = some read) :
    Kept text (readProperty flags negated text) read := by
  rw [readProperty_eq] at found ⊢
  split at found
  next => cases found
  next name behind foundName =>
    split at found
    case isTrue => cases found
    case isFalse unicode =>
      obtain ⟨set, finished, rfl⟩ := Option.map_eq_some_iff.1 found
      obtain ⟨rest, same, alone, shorter⟩ | spent := readPropertyName_closing foundName
      · refine .inl ⟨rest, same, ?_, shorter⟩
        simp only [alone, if_neg unicode, finished, Option.map_some]
      · exact .inr spent

/-! ## Escapes -/

/-- A word boundary with an opening brace behind it, and the closing behind that. -/
def Dangling (flags : Flags) (read : Atom × List Char) : Prop :=
  (∃ unicode, read.1 = .look (.wordBoundary unicode)) ∧
    ∃ rest, read.2 = '\x7b' :: rest ∧ skip flags rest = closing

/-- The side of a word that a name in braces stands for. -/
def namedBoundary? (flags : Flags) (name : List Char) : Option Look :=
  match String.ofList name with
  | "start" => some (.wordStart flags.unicode)
  | "end" => some (.wordEnd flags.unicode)
  | "start-half" => some (.noWordBefore flags.unicode)
  | "end-half" => some (.noWordAfter flags.unicode)
  | _ => none

/-- The character may stand in the name of a side of a word. -/
def isBoundaryNamePart (c : Char) : Bool := c.isAlpha || c == '-'

/-- Reads the name of a side of a word up to its closing brace. -/
def readBoundaryName (flags : Flags) (text : List Char) : Option (Atom × List Char) :=
  match collectAll flags isBoundaryNamePart text with
  | (name, '\x7d' :: behind) =>
    (namedBoundary? flags name).map fun look => (.look look, behind)
  | _ => none

theorem readWordBoundary_brace (flags : Flags) (rest : List Char) :
    readWordBoundary flags ('\x7b' :: rest) =
      match skip flags rest with
      | [] => none
      | c :: more =>
        if !isBoundaryNamePart c then
          some (.look (.wordBoundary flags.unicode), '\x7b' :: rest)
        else readBoundaryName flags (c :: more) := by
  rw [readWordBoundary]
  cases skip flags rest with
  | nil => rfl
  | cons c more =>
    refine ite_congr rfl (fun _ => rfl) fun _ => ?_
    rw [show (fun c : Char => c.isAlpha || c == '-') = isBoundaryNamePart from rfl]
    unfold readBoundaryName namedBoundary?
    obtain ⟨name, _ | ⟨d, behind⟩⟩ := collectAll flags isBoundaryNamePart (c :: more)
    · rfl
    · by_cases closes : d = '\x7d'
      · simp only [closes]
        generalize String.ofList name = word
        split <;> simp_all only [Option.map_some, Option.map_none]
      · simp [closes]

theorem readWordBoundary_plain (noBrace : ∀ rest, text = '\x7b' :: rest → False) :
    readWordBoundary flags text = some (.look (.wordBoundary flags.unicode), text) := by
  unfold readWordBoundary
  split
  next => exact (noBrace _ rfl).elim
  next => rfl

theorem readBoundaryName_closing {read : Atom × List Char}
    (found : readBoundaryName flags (text ++ closing) = some read) :
    Kept text (readBoundaryName flags text) read := by
  unfold readBoundaryName at found ⊢
  split at found
  next name behind collected =>
    obtain ⟨look, named, rfl⟩ := Option.map_eq_some_iff.1 found
    obtain ⟨rest, rfl, alone, shorter⟩ | spent := collectAll_cons collected
    · simp only [alone, named]
      exact (kept_here (Atom.look look) rest).mono shorter
    · exact .inr spent
  next => cases found

theorem readWordBoundary_closing {read : Atom × List Char}
    (found : readWordBoundary flags (text ++ closing) = some read) :
    Kept text (readWordBoundary flags text) read ∨ Dangling flags read := by
  by_cases braced : ∃ rest, text = '\x7b' :: rest
  · obtain ⟨rest, rfl⟩ := braced
    rw [List.cons_append, readWordBoundary_brace] at found
    rw [readWordBoundary_brace]
    rcases skip_closing flags rest with inside | open_
    · rw [inside] at found
      have shorter := length_skip_le flags rest
      cases front : skip flags rest with
      | nil =>
        -- The brace is left over, since the closing begins no name.
        rw [front] at inside found
        obtain rfl := Option.some.inj found
        exact .inr ⟨⟨_, rfl⟩, _, rfl, inside⟩
      | cons c more =>
        rw [front] at found shorter
        simp only [List.cons_append] at found ⊢
        split at found
        case isTrue noName =>
          rw [if_pos noName]
          obtain rfl := Option.some.inj found
          exact .inl (kept_here _ _)
        case isFalse named =>
          rw [if_neg named]
          change readBoundaryName flags (c :: more ++ closing) = some read at found
          exact .inl ((readBoundaryName_closing found).mono (Nat.le_succ_of_le shorter))
    · rw [open_] at found
      cases found
  · have noBrace : ∀ rest, text = '\x7b' :: rest → False := fun rest same => braced ⟨rest, same⟩
    have noBraceBehind : ∀ rest, text ++ closing = '\x7b' :: rest → False := fun rest same => by
      obtain ⟨more, begins, -⟩ := eq_cons_of_append same (by decide)
      exact noBrace more begins
    rw [readWordBoundary_plain noBraceBehind] at found
    rw [readWordBoundary_plain noBrace]
    obtain rfl := Option.some.inj found
    exact .inl (kept_here _ text)

theorem readEscape_closing {read : Atom × List Char}
    (found : readEscape flags (text ++ closing) = some read) :
    Kept text (readEscape flags text) read ∨ Dangling flags read := by
  cases text with
  | nil =>
    obtain rfl := Option.some.inj found
    exact .inl (.inr (.inr rfl))
  | cons c rest =>
    have kept (atom : Atom) : Kept (c :: rest) (some (atom, rest)) (atom, rest ++ closing) :=
      (kept_here atom rest).mono (Nat.le_succ _)
    rw [List.cons_append, readEscape.eq_def] at found
    rw [readEscape.eq_def]
    dsimp only at found ⊢
    split at found
    case isTrue escapable =>
      obtain rfl := Option.some.inj found
      rw [if_pos escapable]
      exact .inl (kept _)
    case isFalse named =>
      rw [if_neg named]
      split at found
      -- Codes, properties and the boundary of a word read on behind their letter; the last case is
      -- that of classes, and in all others the letter is the whole escape.
      case h_1 => exact .inl ((readHex_closing found).mono (Nat.le_succ _))
      case h_2 => exact .inl ((readHex_closing found).mono (Nat.le_succ _))
      case h_3 => exact .inl ((readHex_closing found).mono (Nat.le_succ _))
      case h_4 => exact .inl ((readProperty_closing found).mono (Nat.le_succ _))
      case h_5 => exact .inl ((readProperty_closing found).mono (Nat.le_succ _))
      case h_14 =>
        exact (readWordBoundary_closing found).imp_left (Kept.mono · (Nat.le_succ _))
      case h_18 =>
        split at found
        case isTrue isClass =>
          obtain rfl := Option.some.inj found
          rw [if_pos isClass]
          exact .inl (kept _)
        case isFalse noClass =>
          rw [if_neg noClass]
          split at found
          case isTrue negated =>
            obtain ⟨set, checked, rfl⟩ := Option.map_eq_some_iff.1 found
            rw [if_pos negated, checked]
            exact .inl (kept _)
          case isFalse => cases found
      all_goals
        obtain rfl := Option.some.inj found
        exact .inl (kept _)

theorem readAtom_closing {first : Char} {read : Atom × List Char}
    (found : readAtom flags first (text ++ closing) = some read) :
    Kept text (readAtom flags first text) read ∨ Dangling flags read := by
  rw [readAtom.eq_def] at found ⊢
  split at found
  next => exact readEscape_closing found
  all_goals
    obtain rfl := Option.some.inj found
    exact .inl (kept_here _ text)

end RuleAtlas.Regex
