import RuleAtlas.Proofs.Regex.Enclosed.Atoms
import RuleAtlas.Regex.Class

/-! # Classes inside a group

A class ends with its bracket, and the closing has none.  So a class that is read of a text with
the closing behind it is read of the text alone.  This is shown of one step in a class first,
which is one part of it, and from that of all steps up to the end of the class. -/

namespace RuleAtlas.Regex

variable {α : Type} {flags : Flags} {text : List Char}

/-! ## Unclosed classes -/

/-- Only the closing is left, or less of it. -/
def Unclosed (rest : List Char) : Prop := Spent rest ∨ rest = closing

/-- Some of a text was read as it is read of the text alone, or the closing was reached. -/
def Taken (text : List Char) (alone : Option (α × List Char)) (read : α × List Char) : Prop :=
  (∃ rest, read.2 = rest ++ closing ∧ alone = some (read.1, rest) ∧
    rest.length < text.length) ∨ Unclosed read.2

theorem skip_of_closing (flags : Flags) : skip flags closing = closing :=
  skip_plain (by decide) (by decide) flags ['$']

/-- No class ends in the closing. -/
theorem readClassFrom_unclosed (budget : Nat) (frames : List ClassFrame) (items : ClassItems)
    {rest : List Char} (unclosed : Unclosed rest) :
    readClassFrom flags budget frames items rest = none := by
  have anchor (budget : Nat) (items : ClassItems) :
      readClassFrom flags budget frames items ['$'] = none := by
    cases budget with
    | zero => rfl
    | succ budget =>
      rw [readClassFrom, Spent.skip (.inr rfl)]
      simp [readClassRange, readClassAtom, Spent.nil.skip flags]
  obtain (rfl | rfl) | rfl := unclosed
  · cases budget with
    | zero => rfl
    | succ budget => rw [readClassFrom, Spent.nil.skip]
  · exact anchor budget items
  · cases budget with
    | zero => rfl
    | succ budget =>
      have range : readClassRange flags [')', '$'] =
          (classAtomSet flags (.char ')' false)).map (·, ['$']) := by
        simp [readClassRange, readClassAtom, Spent.skip (.inr rfl) flags]
      rw [readClassFrom, skip_of_closing]
      cases single : classAtomSet flags (.char ')' false) with
      | none => simp [closing, range, single]
      | some set => simp [closing, range, single, anchor]

/-! ## Items -/

/-- A sign of negation at the head of a text, and the text behind it. -/
def takeCaret : List Char → Bool × List Char
  | '^' :: rest => (true, rest)
  | text => (false, text)

theorem takeCaret_closing (text : List Char) :
    takeCaret (text ++ closing) = ((takeCaret text).1, (takeCaret text).2 ++ closing) := by
  cases text with
  | nil => rfl
  | cons c rest =>
    by_cases caret : c = '^'
    · rw [caret]
      rfl
    · simp [takeCaret, caret]

/-- Reads the name of an ASCII class behind its sign of negation. -/
def readClassName (flags : Flags) (negated : Bool) (text : List Char) :
    Option (Option CharSet × List Char) :=
  match text.dropWhile (· != ':') with
  | ':' :: ']' :: behind =>
    (asciiClass? (String.ofList (text.takeWhile (· != ':')))).map
      fun set => (finishSet flags negated set, behind)
  | _ => none

theorem readClassName_closing (flags : Flags) (negated : Bool) (text : List Char) :
    readClassName flags negated (text ++ closing) =
      (readClassName flags negated text).map fun read => (read.1, read.2 ++ closing) := by
  unfold readClassName
  cases name : text.dropWhile (· != ':') with
  | nil =>
    rw [List.dropWhile_append, name]
    rfl
  | cons c more =>
    rw [(run_closing name).1, (run_closing name).2]
    cases more with
    | nil => simp [closing]
    | cons d behind =>
      rw [List.cons_append]
      by_cases ends : c = ':' ∧ d = ']'
      · obtain ⟨rfl, rfl⟩ := ends
        simp only [Option.map_map]
        rfl
      · have other : ∀ rest, c :: d :: (behind ++ closing) = ':' :: ']' :: rest → False :=
          fun rest same => ends ⟨(List.cons.inj same).1, (List.cons.inj (List.cons.inj same).2).1⟩
        have otherAlone : ∀ rest, c :: d :: behind = ':' :: ']' :: rest → False :=
          fun rest same => ends ⟨(List.cons.inj same).1, (List.cons.inj (List.cons.inj same).2).1⟩
        split
        next => exact (other _ ‹_›).elim
        next => rfl

theorem readAsciiClass?_colon (flags : Flags) (text : List Char) :
    readAsciiClass? flags (':' :: text) =
      readClassName flags (takeCaret text).1 (takeCaret text).2 := by
  cases text with
  | nil => rfl
  | cons c rest =>
    by_cases caret : c = '^'
    · rw [caret]
      rfl
    · have plain : takeCaret (c :: rest) = (false, c :: rest) := by simp [takeCaret, caret]
      rw [plain, readAsciiClass?]
      · rfl
      · exact fun rest same => caret (List.cons.inj same).1

theorem readAsciiClass?_other {c : Char} (other : c ≠ ':') (text : List Char) :
    readAsciiClass? flags (c :: text) = none := by
  simp [readAsciiClass?, other]

theorem readAsciiClass?_closing (flags : Flags) (text : List Char) :
    readAsciiClass? flags (text ++ closing) =
      (readAsciiClass? flags text).map fun read => (read.1, read.2 ++ closing) := by
  cases text with
  | nil => rfl
  | cons c rest =>
    by_cases colon : c = ':'
    · rw [colon, List.cons_append, readAsciiClass?_colon, readAsciiClass?_colon,
        takeCaret_closing, readClassName_closing]
    · rw [List.cons_append, readAsciiClass?_other colon, readAsciiClass?_other colon]
      rfl

theorem length_takeCaret_le (text : List Char) : (takeCaret text).2.length ≤ text.length := by
  unfold takeCaret
  split
  · exact Nat.le_succ _
  · exact Nat.le_refl _

theorem length_le_of_readClassName {negated : Bool} {read : Option CharSet × List Char}
    (found : readClassName flags negated text = some read) : read.2.length ≤ text.length := by
  unfold readClassName at found
  split at found
  next behind colon =>
    obtain ⟨set, -, rfl⟩ := Option.map_eq_some_iff.1 found
    have suffix := (List.dropWhile_suffix (l := text) (· != ':')).length_le
    rw [colon] at suffix
    exact Nat.le_of_succ_le (Nat.le_of_succ_le suffix)
  next => cases found

theorem length_le_of_readAsciiClass? {read : Option CharSet × List Char}
    (found : readAsciiClass? flags text = some read) : read.2.length ≤ text.length := by
  cases text with
  | nil => cases found
  | cons c rest =>
    by_cases colon : c = ':'
    · rw [colon, readAsciiClass?_colon] at found
      exact Nat.le_succ_of_le
        (Nat.le_trans (length_le_of_readClassName found) (length_takeCaret_le rest))
    · rw [readAsciiClass?_other colon] at found
      cases found

theorem readClassAtom_closing {read : Atom × List Char}
    (found : readClassAtom flags (text ++ closing) = some read) :
    Taken text (readClassAtom flags text) read ∨ Dangling flags read := by
  cases text with
  | nil =>
    obtain rfl := Option.some.inj found
    exact .inl (.inr (.inl (.inr rfl)))
  | cons c rest =>
    by_cases escape : c = '\\'
    · subst escape
      obtain kept | dangling := readEscape_closing found
      · obtain ⟨left, same, alone, shorter⟩ | spent := kept
        · exact .inl (.inl ⟨left, same, alone, Nat.lt_succ_of_le shorter⟩)
        · exact .inl (.inr (.inl spent))
      · exact .inr dangling
    · have plain (rest : List Char) :
          readClassAtom flags (c :: rest) = some (.char c false, rest) := by
        simp [readClassAtom]
      rw [List.cons_append, plain] at found
      obtain rfl := Option.some.inj found
      exact .inl (.inl ⟨rest, rfl, plain rest, Nat.lt_succ_self _⟩)

/-- Reads the last character of a range. -/
def readRangeEnd (flags : Flags) (first : Atom) (text : List Char) :
    Option (CharSet × List Char) :=
  match readClassAtom flags text, first with
  | some (.char c _, rest), .char b _ =>
    match classCode flags b, classCode flags c with
    | some low, some high => if low ≤ high then some (.range low high, rest) else none
    | _, _ => none
  | _, _ => none

/-- Reads what may follow the dash of a range. -/
def readRangeDash (flags : Flags) (first : Atom) (text : List Char) :
    Option (CharSet × List Char) :=
  if isLoneDash flags text then
    (classAtomSet flags first).map fun set => (set, '-' :: text)
  else readRangeEnd flags first (skip flags text)

/-- Reads what may follow the first item of a range. -/
def readRangeBehind (flags : Flags) (first : Atom) (text : List Char) :
    Option (CharSet × List Char) :=
  match skip flags text with
  | [] => none
  | '-' :: more => readRangeDash flags first more
  | text => (classAtomSet flags first).map fun set => (set, text)

theorem readClassRange_eq (flags : Flags) (text : List Char) : readClassRange flags text =
    match readClassAtom flags text with
    | none => none
    | some (first, rest) => readRangeBehind flags first rest := rfl

theorem readRangeEnd_closing {first : Atom} {read : CharSet × List Char}
    (found : readRangeEnd flags first (text ++ closing) = some read) :
    Taken text (readRangeEnd flags first text) read := by
  unfold readRangeEnd at found ⊢
  split at found
  next c byte rest b byteToo item =>
    split at found
    next low high lowCode highCode =>
      split at found
      case isTrue ordered =>
        obtain rfl := Option.some.inj found
        obtain ⟨⟨left, same, alone, shorter⟩ | unclosed⟩ | ⟨⟨unicode, look⟩, -⟩ :=
          readClassAtom_closing item
        · refine .inl ⟨left, same, ?_, shorter⟩
          simp only [alone, lowCode, highCode, if_pos ordered]
        · exact .inr unclosed
        · cases look
      case isFalse => cases found
    next => cases found
  next => cases found

/-- No condition on a place stands in a class. -/
theorem readRangeBehind_look (condition : Look) (text : List Char) :
    readRangeBehind flags (.look condition) text = none := by
  have noEnd (text : List Char) : readRangeEnd flags (.look condition) text = none := by
    rw [readRangeEnd]
    nofun
  have noDash (text : List Char) : readRangeDash flags (.look condition) text = none := by
    rw [readRangeDash]
    split
    next => rfl
    next => exact noEnd _
  rw [readRangeBehind]
  split
  next => rfl
  next more dash => exact noDash more
  next => rfl

theorem readRangeBehind_plain {first : Atom} {c : Char} {rest : List Char}
    (front : skip flags text = c :: rest) (plain : c ≠ '-') :
    readRangeBehind flags first text =
      (classAtomSet flags first).map fun set => (set, c :: rest) := by
  simp [readRangeBehind, front, plain]

theorem readRangeBehind_spent {first : Atom} {read : CharSet × List Char}
    (spent : Spent text) (found : readRangeBehind flags first text = some read) :
    Spent read.2 := by
  rw [readRangeBehind, spent.skip] at found
  obtain rfl | rfl := spent
  · cases found
  · obtain ⟨set, -, rfl⟩ := Option.map_eq_some_iff.1 found
    exact .inr rfl

theorem behindBlanks?_closing (inComment : Bool) (text : List Char) :
    behindBlanks? inComment (text ++ closing) = (behindBlanks? inComment text).or (some ')') := by
  induction text generalizing inComment with
  | nil => cases inComment <;> decide
  | cons c rest inductionHypothesis =>
    rw [List.cons_append, behindBlanks?, behindBlanks?]
    split
    case isTrue => exact inductionHypothesis inComment
    case isFalse =>
      split
      case isTrue => exact inductionHypothesis true
      case isFalse => rfl

/-- The closing is no sign behind a dash. -/
theorem isLoneDash_closing (flags : Flags) (text : List Char) :
    isLoneDash flags (text ++ closing) = isLoneDash flags text := by
  have none_behind (behind : Option Char) :
      (decide (behind.or (some ')') = some ']') || decide (behind.or (some ')') = some '-')) =
        (decide (behind = some ']') || decide (behind = some '-')) := by
    cases behind <;> rfl
  unfold isLoneDash
  split
  case isTrue => rw [behindBlanks?_closing, none_behind]
  case isFalse => rw [List.head?_append, closing, List.head?_cons, none_behind]

theorem readRangeDash_closing {first : Atom} {read : CharSet × List Char}
    (found : readRangeDash flags first (text ++ closing) = some read) :
    (∃ rest, read.2 = rest ++ closing ∧ readRangeDash flags first text = some (read.1, rest) ∧
      rest.length ≤ text.length + 1) ∨ Unclosed read.2 := by
  rw [readRangeDash, isLoneDash_closing] at found
  rw [readRangeDash]
  split at found
  case isTrue alone =>
    obtain ⟨set, single, rfl⟩ := Option.map_eq_some_iff.1 found
    refine .inl ⟨'-' :: text, rfl, ?_, Nat.le_refl _⟩
    rw [if_pos alone, single]
    rfl
  case isFalse range =>
    have shorter := length_skip_le flags text
    rcases skip_closing flags text with inside | open_
    · rw [inside] at found
      obtain ⟨rest, same, alone, less⟩ | unclosed := readRangeEnd_closing found
      · refine .inl ⟨rest, same, ?_, by omega⟩
        rw [if_neg range, alone]
      · exact .inr unclosed
    · rw [open_] at found
      cases found

theorem readRangeBehind_closing {first : Atom} {read : CharSet × List Char}
    (found : readRangeBehind flags first (text ++ closing) = some read) :
    (∃ rest, read.2 = rest ++ closing ∧ readRangeBehind flags first text = some (read.1, rest) ∧
      rest.length ≤ text.length) ∨ Unclosed read.2 := by
  have shorter := length_skip_le flags text
  rcases skip_closing flags text with inside | open_
  · cases front : skip flags text with
    | nil =>
      rw [front] at inside
      rw [readRangeBehind_plain inside (by decide)] at found
      obtain ⟨set, -, rfl⟩ := Option.map_eq_some_iff.1 found
      exact .inr (.inr rfl)
    | cons c more =>
      rw [front] at inside shorter
      by_cases dash : c = '-'
      · subst dash
        rw [readRangeBehind, inside] at found
        rw [readRangeBehind, front]
        obtain ⟨rest, same, alone, less⟩ | unclosed := readRangeDash_closing found
        · exact .inl ⟨rest, same, alone, Nat.le_trans less shorter⟩
        · exact .inr unclosed
      · rw [readRangeBehind_plain inside dash] at found
        obtain ⟨set, single, rfl⟩ := Option.map_eq_some_iff.1 found
        refine .inl ⟨c :: more, rfl, ?_, shorter⟩
        rw [readRangeBehind_plain front dash, single]
        rfl
  · rw [readRangeBehind, open_] at found
    cases found

theorem readClassRange_closing {read : CharSet × List Char}
    (found : readClassRange flags (text ++ closing) = some read) :
    Taken text (readClassRange flags text) read := by
  rw [readClassRange_eq] at found ⊢
  split at found
  next => cases found
  next first rest item =>
    obtain ⟨⟨left, same, alone, shorter⟩ | spent | end_⟩ | ⟨⟨unicode, look⟩, -⟩ :=
      readClassAtom_closing item
    · dsimp only at same
      subst same
      simp only [alone]
      obtain ⟨last, same, read, less⟩ | unclosed := readRangeBehind_closing found
      · exact .inl ⟨last, same, read, Nat.lt_of_le_of_lt less shorter⟩
      · exact .inr unclosed
    · exact .inr (.inl (readRangeBehind_spent spent found))
    · dsimp only at end_
      subst end_
      rw [readRangeBehind_plain (skip_of_closing flags) (by decide)] at found
      obtain ⟨set, -, rfl⟩ := Option.map_eq_some_iff.1 found
      exact .inr (.inr rfl)
    · obtain rfl : first = .look (.wordBoundary unicode) := look
      rw [readRangeBehind_look] at found
      cases found

/-! ## Beginnings -/

theorem leadingDashes_spent {budget : Nat} {items : ClassItems} (spent : Spent text) :
    (leadingDashes flags budget items text).2 = text := by
  obtain rfl | rfl := spent <;> cases budget <;> simp [leadingDashes]

theorem leadingDashes_closing {budget larger : Nat} (items : ClassItems)
    (enough : text.length ≤ budget) (more : text.length < larger) :
    Kept text (some (leadingDashes flags budget items text))
      (leadingDashes flags larger items (text ++ closing)) := by
  -- The induction is on the larger budget; the text alone needs no more than its length.
  induction larger generalizing text budget items with
  | zero => exact absurd more (Nat.not_lt_zero _)
  | succ larger inductionHypothesis =>
    cases text with
    | nil =>
      have nothing : leadingDashes flags budget items [] = (items, []) := by
        cases budget <;> rfl
      rw [nothing]
      exact kept_here items []
    | cons c text =>
      obtain ⟨budget, rfl⟩ := Nat.exists_eq_add_of_lt enough
      by_cases dash : c = '-'
      · subst dash
        rw [List.length_cons] at more
        have shorter := length_skip_le flags text
        have enoughBehind : (skip flags text).length ≤ text.length + budget := by omega
        rw [List.cons_append, leadingDashes, leadingDashes]
        rcases skip_closing flags text with inside | open_
        · rw [inside]
          exact (inductionHypothesis _ enoughBehind (by omega)).mono
            (Nat.le_succ_of_le shorter)
        · rw [open_]
          refine .inr (.inl ?_)
          exact leadingDashes_spent .nil
      · have plain (budget : Nat) (rest : List Char) :
            leadingDashes flags budget items (c :: rest) = (items, c :: rest) := by
          cases budget <;> simp [leadingDashes, dash]
        rw [List.cons_append, plain, plain]
        exact kept_here items (c :: text)

/-- The sign of negation behind an opening bracket. -/
def openSign (flags : Flags) (text : List Char) : Bool × List Char :=
  match text with
  | '^' :: rest => (true, skip flags rest)
  | _ => (false, text)

/-- Reads a closing bracket that stands for itself. -/
def openBracket (flags : Flags) (negated : Bool) (items : ClassItems) (text : List Char) :
    Option (Bool × ClassItems × List Char) :=
  match text with
  | [] => none
  | ']' :: rest =>
    if items.count = 0 then
      match skip flags rest with
      | [] => none
      | text => some (negated, items.addSet (.singleton ']'), text)
    else some (negated, items, text)
  | _ => some (negated, items, text)

theorem openClass_eq (flags : Flags) (text : List Char) : openClass flags text =
    let sign := openSign flags (skip flags text)
    let dashes := leadingDashes flags sign.2.length {} sign.2
    openBracket flags sign.1 dashes.1 dashes.2 := rfl

theorem openSign_closing (flags : Flags) (text : List Char) :
    Kept text (some (openSign flags text)) (openSign flags (text ++ closing)) := by
  cases text with
  | nil => exact kept_here false []
  | cons c rest =>
    by_cases caret : c = '^'
    · subst caret
      exact (kept_skip true flags rest).mono (Nat.le_succ _)
    · have plain (rest : List Char) : openSign flags (c :: rest) = (false, c :: rest) := by
        simp [openSign, caret]
      rw [List.cons_append, plain, plain]
      exact kept_here false (c :: rest)

theorem openBracket_closing {negated : Bool} {items : ClassItems}
    {read : Bool × ClassItems × List Char}
    (found : openBracket flags negated items (text ++ closing) = some read) :
    (∃ rest, read.2.2 = rest ++ closing ∧
      openBracket flags negated items text = some (read.1, read.2.1, rest) ∧
      rest.length ≤ text.length) ∨ Unclosed read.2.2 := by
  cases text with
  | nil =>
    obtain rfl := Option.some.inj found
    exact .inr (.inr rfl)
  | cons c rest =>
    by_cases bracket : c = ']'
    · subst bracket
      unfold openBracket at found ⊢
      simp only [List.cons_append] at found ⊢
      split at found
      -- The bracket stands for itself only where something stands behind it.
      case isTrue first =>
        rw [if_pos first]
        rcases skip_closing flags rest with inside | open_
        · rw [inside] at found
          have shorter := length_skip_le flags rest
          cases behind : skip flags rest with
          | nil =>
            rw [behind] at found
            obtain rfl := Option.some.inj found
            exact .inr (.inr rfl)
          | cons d more =>
            rw [behind] at found shorter
            obtain rfl := Option.some.inj found
            exact .inl ⟨d :: more, rfl, rfl, Nat.le_succ_of_le shorter⟩
        · simp [open_] at found
      case isFalse later =>
        obtain rfl := Option.some.inj found
        exact .inl ⟨']' :: rest, rfl, if_neg later, Nat.le_refl _⟩
    · have plain (rest : List Char) :
          openBracket flags negated items (c :: rest) = some (negated, items, c :: rest) := by
        simp [openBracket, bracket]
      rw [List.cons_append, plain] at found
      obtain rfl := Option.some.inj found
      exact .inl ⟨c :: rest, rfl, plain rest, Nat.le_refl _⟩

theorem openBracket_spent {negated : Bool} {items : ClassItems}
    {read : Bool × ClassItems × List Char} (spent : Spent text)
    (found : openBracket flags negated items text = some read) : Spent read.2.2 := by
  obtain rfl | rfl := spent
  · cases found
  · obtain rfl := Option.some.inj found
    exact .inr rfl

theorem openClass_closing {negated : Bool} {items : ClassItems} {behind : List Char}
    (found : openClass flags (text ++ closing) = some (negated, items, behind)) :
    (∃ rest, behind = rest ++ closing ∧ openClass flags text = some (negated, items, rest) ∧
      rest.length ≤ text.length) ∨ Unclosed behind := by
  rw [openClass_eq] at found ⊢
  dsimp only at found ⊢
  rcases skip_closing flags text with inside | open_
  · rw [inside] at found
    obtain ⟨rest, sign, alone, shorter⟩ | spent := openSign_closing flags (skip flags text)
    · rw [sign] at found
      rw [Option.some.inj alone]
      have dashes : Kept rest (some (leadingDashes flags rest.length {} rest))
          (leadingDashes flags (rest ++ closing).length {} (rest ++ closing)) :=
        leadingDashes_closing {} (Nat.le_refl _) (by simp [closing])
      obtain ⟨more, items, aloneToo, less⟩ | spent := dashes
      · rw [items] at found
        rw [Option.some.inj aloneToo]
        have lengths := Nat.le_trans less (Nat.le_trans shorter (length_skip_le flags text))
        obtain ⟨last, same, bracket, fewer⟩ | unclosed := openBracket_closing found
        · exact .inl ⟨last, same, bracket, Nat.le_trans fewer lengths⟩
        · exact .inr unclosed
      · exact .inr (.inl (openBracket_spent spent found))
    · rw [leadingDashes_spent spent] at found
      exact .inr (.inl (openBracket_spent spent found))
  · rw [open_] at found
    cases found

/-! ## Steps -/

/-- What is read of a class in one step: its end, or a part behind which more is read. -/
inductive ClassStep where
  | finished (value : ClassValue)
  | further (frames : List ClassFrame) (items : ClassItems)

/-- Reads the rest of a class behind a step. -/
def finishClass (flags : Flags) (budget : Nat) :
    ClassStep × List Char → Option (ClassValue × List Char)
  | (.finished value, rest) => some (value, rest)
  | (.further frames items, rest) => readClassFrom flags budget frames items rest

/-- Ends the class of the first frame. -/
def endBracket (flags : Flags) (frames : List ClassFrame) (items : ClassItems) :
    Option ClassStep :=
  match closeOperation flags frames items.value with
  | (.bracket negated before :: frames, value) =>
    (finishSet flags negated value.set).map fun characters =>
      if frames.isEmpty then .finished ⟨characters, value.depth + 1⟩
      else .further frames (before.add ⟨characters, value.depth + 1⟩)
  | _ => none

/-- Reads an ASCII class, or the beginning of a class in the class. -/
def enterBracket (flags : Flags) (frames : List ClassFrame) (items : ClassItems)
    (rest : List Char) : Option (ClassStep × List Char) :=
  match readAsciiClass? flags rest with
  | some (characters, behind) =>
    characters.map fun characters => (.further frames (items.addSet characters), behind)
  | none => (openClass flags rest).map fun (negated, nested, behind) =>
      (.further (.bracket negated items :: frames) nested, behind)

/-- What is read so far is the left side of an operation. -/
def enterOperation (flags : Flags) (frames : List ClassFrame) (items : ClassItems)
    (operation : SetOperation) : ClassStep :=
  let (frames, left) := closeOperation flags frames items.value
  .further (.operation operation left :: frames) {}

/-- Reads one step of a class at a text without blanks before it. -/
def classStep (flags : Flags) (frames : List ClassFrame) (items : ClassItems) :
    List Char → Option (ClassStep × List Char)
  | [] => none
  | ']' :: rest => (endBracket flags frames items).map (·, rest)
  | '[' :: rest => enterBracket flags frames items rest
  | '&' :: '&' :: rest => some (enterOperation flags frames items .intersection, rest)
  | '-' :: '-' :: rest => some (enterOperation flags frames items .difference, rest)
  | '~' :: '~' :: rest => some (enterOperation flags frames items .symmetricDifference, rest)
  | text => (readClassRange flags text).map fun (characters, behind) =>
      (.further frames (items.addSet characters), behind)

section
variable {frames : List ClassFrame} {items : ClassItems} {read : ClassStep × List Char}

theorem finish_endBracket (flags : Flags) (budget : Nat) (frames : List ClassFrame)
    (items : ClassItems) (rest : List Char) :
    ((endBracket flags frames items).map (·, rest)).bind (finishClass flags budget) =
      match closeOperation flags frames items.value with
      | (.bracket negated before :: frames, value) =>
        match finishSet flags negated value.set with
        | none => none
        | some characters =>
          let nested : ClassValue := ⟨characters, value.depth + 1⟩
          if frames.isEmpty then some (nested, rest)
          else readClassFrom flags budget frames (before.add nested) rest
      | _ => none := by
  rw [endBracket]
  obtain ⟨_ | ⟨_ | _, frames⟩, value⟩ := closeOperation flags frames items.value
  · rfl
  · dsimp only
    cases finishSet flags _ value.set with
    | none => rfl
    | some characters => cases frames <;> rfl
  · rfl

theorem readClassFrom_succ (flags : Flags) (budget : Nat) (frames : List ClassFrame)
    (items : ClassItems) (text : List Char) :
    readClassFrom flags (budget + 1) frames items text =
      (classStep flags frames items (skip flags text)).bind (finishClass flags budget) := by
  rw [readClassFrom.eq_2]
  dsimp only
  generalize skip flags text = front
  split
  next => rfl
  next rest => exact (finish_endBracket flags budget frames items rest).symm
  next rest =>
    rw [classStep, enterBracket]
    obtain _ | ⟨_ | characters, behind⟩ := readAsciiClass? flags rest
    · cases openClass flags rest <;> rfl
    · rfl
    · rfl
  next => rfl
  next => rfl
  next => rfl
  next nonempty noEnd noBracket noIntersection noDifference noSymmetric =>
    rw [classStep.eq_7 _ _ _ _ nonempty noEnd noBracket noIntersection noDifference noSymmetric]
    cases readClassRange flags front <;> rfl

theorem enterBracket_closing
    (found : enterBracket flags frames items (text ++ closing) = some read) :
    (∃ rest, read.2 = rest ++ closing ∧
      enterBracket flags frames items text = some (read.1, rest) ∧ rest.length ≤ text.length) ∨
    (∃ frames items, read.1 = .further frames items) ∧ Unclosed read.2 := by
  rw [enterBracket, readAsciiClass?_closing] at found
  rw [enterBracket]
  cases named : readAsciiClass? flags text with
  | some class_ =>
    rw [named] at found
    obtain ⟨characters, isSet, rfl⟩ := Option.map_eq_some_iff.1 found
    refine .inl ⟨class_.2, rfl, ?_, length_le_of_readAsciiClass? named⟩
    exact congrArg (Option.map _) isSet
  | none =>
    rw [named] at found
    obtain ⟨⟨negated, nested, behind⟩, opened, rfl⟩ := Option.map_eq_some_iff.1 found
    obtain ⟨rest, rfl, alone, shorter⟩ | unclosed := openClass_closing opened
    · exact .inl ⟨rest, rfl, congrArg (Option.map _) alone, shorter⟩
    · exact .inr ⟨⟨_, _, rfl⟩, unclosed⟩

/-- The two signs of an operation stand in the text before the closing. -/
theorem classStep_operation {sign : Char} {operation : SetOperation} {rest : List Char}
    (other : ')' ∉ [sign, sign]) (whole : text ++ closing = sign :: sign :: rest)
    (found : some (enterOperation flags frames items operation, rest) = some read)
    (reads : ∀ rest, classStep flags frames items (sign :: sign :: rest) =
      some (enterOperation flags frames items operation, rest)) :
    ∃ rest, read.2 = rest ++ closing ∧ classStep flags frames items text = some (read.1, rest) ∧
      rest.length < text.length := by
  obtain ⟨last, rfl, rfl⟩ := eq_append_of_append [sign, sign] whole other
  obtain rfl := Option.some.inj found
  exact ⟨last, rfl, reads last, Nat.lt_succ_of_lt (Nat.lt_succ_self _)⟩

/-- A step in a class is a step of the text alone, or only the closing is left of the class. -/
theorem classStep_closing
    (found : classStep flags frames items (text ++ closing) = some read) :
    (∃ rest, read.2 = rest ++ closing ∧ classStep flags frames items text = some (read.1, rest) ∧
      rest.length < text.length) ∨
    (∃ frames items, read.1 = .further frames items) ∧ Unclosed read.2 := by
  -- No sign of a step is the parenthesis, so each stands in the text itself.
  generalize whole : text ++ closing = front at found
  unfold classStep at found
  split at found
  next => cases found
  next rest =>
    obtain ⟨more, rfl, rfl⟩ := eq_cons_of_append whole (by decide)
    obtain ⟨step, ended, rfl⟩ := Option.map_eq_some_iff.1 found
    exact .inl ⟨more, rfl, congrArg (Option.map _) ended, Nat.lt_succ_self _⟩
  next rest =>
    obtain ⟨more, rfl, rfl⟩ := eq_cons_of_append whole (by decide)
    obtain ⟨last, same, alone, shorter⟩ | unclosed := enterBracket_closing found
    · exact .inl ⟨last, same, alone, Nat.lt_succ_of_le shorter⟩
    · exact .inr unclosed
  next rest => exact .inl (classStep_operation (by decide) whole found fun _ => rfl)
  next rest => exact .inl (classStep_operation (by decide) whole found fun _ => rfl)
  next rest => exact .inl (classStep_operation (by decide) whole found fun _ => rfl)
  next nonempty noEnd noBracket noIntersection noDifference noSymmetric =>
    subst whole
    obtain ⟨⟨characters, behind⟩, range, rfl⟩ := Option.map_eq_some_iff.1 found
    obtain ⟨rest, rfl, alone, shorter⟩ | unclosed := readClassRange_closing range
    · refine .inl ⟨rest, rfl, ?_, shorter⟩
      rw [classStep.eq_7, alone]
      · rfl
      · rintro rfl
        exact Nat.not_lt_zero _ shorter
      · rintro rest rfl
        exact noEnd _ rfl
      · rintro rest rfl
        exact noBracket _ rfl
      · rintro rest rfl
        exact noIntersection _ rfl
      · rintro rest rfl
        exact noDifference _ rfl
      · rintro rest rfl
        exact noSymmetric _ rfl
    · exact .inr ⟨⟨_, _, rfl⟩, unclosed⟩

end

/-! ## Classes -/

theorem readClassFrom_closing {budget larger : Nat} {frames : List ClassFrame}
    {items : ClassItems} {read : ClassValue × List Char} (enough : text.length < budget)
    (found : readClassFrom flags larger frames items (text ++ closing) = some read) :
    ∃ rest, read.2 = rest ++ closing ∧
      readClassFrom flags budget frames items text = some (read.1, rest) ∧
      rest.length < text.length := by
  -- The induction is on the steps that are left in front of the closing; the text alone needs no
  -- more of them than it has characters.
  induction larger generalizing text budget frames items with
  | zero => cases found
  | succ larger inductionHypothesis =>
    obtain ⟨budget, rfl⟩ := Nat.exists_eq_add_of_lt enough
    rw [readClassFrom_succ] at found ⊢
    rcases skip_closing flags text with inside | open_
    · have shorter := length_skip_le flags text
      rw [inside] at found
      obtain ⟨⟨next, behind⟩, stepped, behindFound⟩ := Option.bind_eq_some_iff.1 found
      obtain ⟨rest, rfl, alone, less⟩ | ⟨⟨frames, items, rfl⟩, unclosed⟩ :=
        classStep_closing stepped
      · rw [alone, Option.bind_some]
        cases next with
        | finished value =>
          obtain rfl := Option.some.inj behindFound
          exact ⟨rest, rfl, rfl, Nat.lt_of_lt_of_le less shorter⟩
        | further frames items =>
          have fewer := Nat.lt_of_lt_of_le less shorter
          obtain ⟨last, same, read, fewest⟩ :=
            inductionHypothesis (Nat.lt_add_right budget fewer) behindFound
          exact ⟨last, same, read, Nat.lt_trans fewest fewer⟩
      · rw [finishClass, readClassFrom_unclosed _ _ _ unclosed] at behindFound
        cases behindFound
    · rw [open_] at found
      cases found

theorem readClass_closing {read : ClassValue × List Char}
    (found : readClass flags (text ++ closing) = some read) :
    ∃ rest, read.2 = rest ++ closing ∧ readClass flags text = some (read.1, rest) ∧
      rest.length ≤ text.length := by
  rw [readClass] at found ⊢
  split at found
  next => cases found
  next negated items behind opened =>
    obtain ⟨rest, rfl, alone, shorter⟩ | unclosed := openClass_closing opened
    · obtain ⟨last, same, class_, fewer⟩ :=
        readClassFrom_closing (Nat.lt_succ_of_le shorter) found
      refine ⟨last, same, ?_, Nat.le_trans (Nat.le_of_lt fewer) shorter⟩
      rw [alone]
      exact class_
    · rw [readClassFrom_unclosed _ _ _ unclosed] at found
      cases found

end RuleAtlas.Regex
