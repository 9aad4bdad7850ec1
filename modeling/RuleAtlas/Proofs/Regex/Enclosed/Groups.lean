import RuleAtlas.Proofs.Regex.Enclosed.Classes
import RuleAtlas.Regex.Reader

/-! # Groups and repetitions inside a group

What is read in an open group, with the end of the group and an anchor behind it, is read of the
text inside alone, except where the text closes the group itself.  When the parenthesis of the
closing was taken for something else the group stays open to the end, and nothing is read. -/

namespace RuleAtlas.Regex

variable {flags : Flags} {text : List Char} {reader next : Reader} {outer : GroupFrame}

/-! ## Readers -/

namespace Reader

/-- A reader inside another group, which is closed behind the text. -/
def enclose (outer : GroupFrame) (reader : Reader) : Reader :=
  { reader with
    frames := reader.frames ++ [outer]
    rest := reader.rest ++ closing }

@[simp] theorem flags_enclose (outer : GroupFrame) (reader : Reader) :
    (reader.enclose outer).flags = reader.flags := rfl

@[simp] theorem names_enclose (outer : GroupFrame) (reader : Reader) :
    (reader.enclose outer).names = reader.names := rfl

@[simp] theorem rest_enclose (outer : GroupFrame) (reader : Reader) :
    (reader.enclose outer).rest = reader.rest ++ closing := rfl

theorem frames_enclose_ne_nil (outer : GroupFrame) (reader : Reader) :
    (reader.enclose outer).frames ≠ [] := by
  simp [enclose]

/-- A group is open, and what is left does not close it. -/
def Stuck (reader : Reader) : Prop :=
  reader.frames ≠ [] ∧
    (Spent reader.rest ∨ ∃ more, reader.rest = '\x7b' :: more ∧ skip reader.flags more = closing)

/-- What is read in the outer group is read alone, of a text that is not longer than `text`, or
reading is stuck. -/
def Keeps (outer : GroupFrame) (text : List Char) (alone : Option Reader) (next : Reader) : Prop :=
  (∃ after, next = after.enclose outer ∧ alone = some after ∧ after.rest.length ≤ text.length) ∨
    next.Stuck

theorem Keeps.mono {shorter : List Char} {alone : Option Reader}
    (keeps : Keeps outer shorter alone next) (less : shorter.length ≤ text.length) :
    Keeps outer text alone next := by
  obtain ⟨after, same, read, within⟩ | stuck := keeps
  · exact .inl ⟨after, same, read, Nat.le_trans within less⟩
  · exact .inr stuck

end Reader

/-! ## Repetition -/

theorem dropLazyMark_closing (text : List Char) :
    dropLazyMark (text ++ closing) = dropLazyMark text ++ closing := by
  cases text with
  | nil => rfl
  | cons c rest =>
    by_cases mark : c = '?'
    · rw [mark]
      rfl
    · simp [dropLazyMark, mark]

theorem length_dropLazyMark_le (text : List Char) : (dropLazyMark text).length ≤ text.length := by
  unfold dropLazyMark
  split
  · exact Nat.le_succ _
  · exact Nat.le_refl _

theorem dropBlanks_closing (text : List Char) :
    (text ++ closing).dropWhile Text.isBlank = text.dropWhile Text.isBlank ++ closing := by
  rw [List.dropWhile_append]
  split
  next none =>
    rw [List.isEmpty_iff.1 none]
    decide
  next => rfl

theorem Spent.dropBlanks (spent : Spent text) : text.dropWhile Text.isBlank = text := by
  obtain rfl | rfl := spent <;> decide

/-- The text behind the blanks that may follow a number. -/
def behindCount (flags : Flags) (rest : List Char) : List Char :=
  if rest.head?.any Text.isBlank then skip flags (rest.dropWhile Text.isBlank)
  else rest.dropWhile Text.isBlank

/-- The number that digits stand for, if it fits; no digits stand for no number. -/
def countOf (digits : List Char) : Option (Option Nat) :=
  let value := digits.foldl (fun value c => value * 10 + (c.toNat - 48)) 0
  if digits.isEmpty then some none
  else if value < Nat.pow 2 32 then some (some value)
  else none

theorem readCount_eq (flags : Flags) (text : List Char) : readCount flags text =
    let read := collectAll flags Char.isDigit (text.dropWhile Text.isBlank)
    (countOf read.1).map fun count => (count, behindCount flags read.2) := by
  rw [readCount]
  generalize collectAll flags Char.isDigit (text.dropWhile Text.isBlank) = read
  unfold countOf
  dsimp only
  split
  · rfl
  · split <;> rfl

theorem behindCount_closing (flags : Flags) (rest : List Char) :
    behindCount flags (rest ++ closing) = behindCount flags rest ++ closing ∨
      behindCount flags (rest ++ closing) = [] := by
  have head : (rest ++ closing).head?.any Text.isBlank = rest.head?.any Text.isBlank := by
    cases rest with
    | nil => decide
    | cons c rest => rfl
  rw [behindCount, behindCount, head, dropBlanks_closing]
  split
  · exact skip_closing flags _
  · exact .inl rfl

theorem length_behindCount_le (flags : Flags) (rest : List Char) :
    (behindCount flags rest).length ≤ rest.length := by
  have shorter := (List.dropWhile_suffix (l := rest) Text.isBlank).length_le
  rw [behindCount]
  split
  · exact Nat.le_trans (length_skip_le flags _) shorter
  · exact shorter

theorem Spent.behindCount (spent : Spent text) (flags : Flags) :
    Spent (Regex.behindCount flags text) := by
  rw [Regex.behindCount, spent.dropBlanks, spent.skip]
  split <;> exact spent

theorem readCount_closing {read : Option Nat × List Char}
    (found : readCount flags (text ++ closing) = some read) :
    Kept text (readCount flags text) read := by
  rw [readCount_eq] at found ⊢
  dsimp only at found ⊢
  rw [dropBlanks_closing] at found
  obtain ⟨count, fits, rfl⟩ := Option.map_eq_some_iff.1 found
  have shorter := (List.dropWhile_suffix (l := text) Text.isBlank).length_le
  obtain ⟨rest, same, alone, less⟩ | spent :=
    collectAll_closing flags Char.isDigit (text.dropWhile Text.isBlank)
  · rw [same, Option.some.inj alone]
    rcases behindCount_closing flags rest with inside | open_
    · refine .inl ⟨behindCount flags rest, inside, ?_, ?_⟩
      · dsimp only
        rw [fits]
        rfl
      · exact Nat.le_trans (length_behindCount_le flags rest) (Nat.le_trans less shorter)
    · exact .inr (.inl open_)
  · exact .inr (spent.behindCount flags)

namespace Reader

theorem repeatLast_enclose {least : Nat} {most : Option Nat}
    (found : (reader.enclose outer).repeatLast least most (text ++ closing) = some next) :
    Keeps outer text (reader.repeatLast least most text) next := by
  have same : (reader.enclose outer).branches.pieces = reader.branches.pieces := rfl
  rw [repeatLast, same] at found
  rw [repeatLast]
  split at found
  next value pieces =>
    obtain rfl := Option.some.inj found
    exact .inl ⟨_, rfl, rfl, Nat.le_refl _⟩
  next => cases found

theorem repeatLast_spent {least : Nat} {most : Option Nat} (spent : Spent text)
    (found : (reader.enclose outer).repeatLast least most text = some next) : next.Stuck := by
  rw [repeatLast] at found
  split at found
  next =>
    obtain rfl := Option.some.inj found
    exact ⟨frames_enclose_ne_nil outer reader, .inl spent⟩
  next => cases found

/-- What is done behind the closing brace of a repetition. -/
def finishCounted (reader : Reader) (least : Nat) (most : Option Nat) (rest : List Char) :
    Option Reader :=
  if most.all (least ≤ ·) then
    reader.repeatLast least most (dropLazyMark (skip reader.flags rest))
  else none

/-- What is read behind the comma of a repetition. -/
def readUpper (reader : Reader) (least : Nat) (rest : List Char) : Option Reader :=
  match skip reader.flags rest with
  | '\x7d' :: rest => reader.finishCounted least none rest
  | rest =>
    match readCount reader.flags rest with
    | some (some most, '\x7d' :: rest) => reader.finishCounted least (some most) rest
    | _ => none

theorem readCounted_eq (reader : Reader) (text : List Char) : reader.readCounted text =
    match readCount reader.flags (skip reader.flags text) with
    | some (some least, '\x7d' :: rest) => reader.finishCounted least (some least) rest
    | some (some least, ',' :: rest) => reader.readUpper least rest
    | _ => none := rfl

theorem finishCounted_enclose {least : Nat} {most : Option Nat}
    (found : (reader.enclose outer).finishCounted least most (text ++ closing) = some next) :
    Keeps outer text (reader.finishCounted least most text) next := by
  rw [finishCounted] at found ⊢
  split at found
  case isFalse => cases found
  case isTrue ordered =>
    rw [if_pos ordered]
    have shorter := Nat.le_trans (length_dropLazyMark_le _) (length_skip_le reader.flags text)
    rcases skip_closing reader.flags text with inside | open_
    · rw [flags_enclose, inside,
        dropLazyMark_closing] at found
      exact (repeatLast_enclose found).mono shorter
    · rw [flags_enclose, open_] at found
      exact .inr (repeatLast_spent .nil found)

theorem readUpper_enclose {least : Nat}
    (found : (reader.enclose outer).readUpper least (text ++ closing) = some next) :
    Keeps outer text (reader.readUpper least text) next := by
  rw [readUpper, flags_enclose] at found
  rw [readUpper]
  have shorter := length_skip_le reader.flags text
  rcases skip_closing reader.flags text with inside | open_
  · rw [inside] at found
    generalize skip reader.flags text = front at found shorter ⊢
    split at found
    next rest brace =>
      obtain ⟨more, rfl, rfl⟩ := eq_cons_of_append brace (by decide)
      exact (finishCounted_enclose found).mono (Nat.le_of_succ_le shorter)
    next noBrace =>
      split at found
      next most rest second =>
        obtain ⟨more, rfl, alone, less⟩ :=
          (readCount_closing second).uncons (by decide) (by decide)
        split
        next => exact (noBrace _ rfl).elim
        next =>
          simp only [alone]
          exact (finishCounted_enclose found).mono (Nat.le_trans less shorter)
      next => cases found
  · rw [open_] at found
    cases found

theorem readCounted_enclose
    (found : (reader.enclose outer).readCounted (text ++ closing) = some next) :
    Keeps outer text (reader.readCounted text) next := by
  rw [readCounted_eq, flags_enclose] at found
  rw [readCounted_eq]
  have shorter := length_skip_le reader.flags text
  rcases skip_closing reader.flags text with inside | open_
  · rw [inside] at found
    split at found
    next least rest first =>
      obtain ⟨more, rfl, alone, less⟩ :=
        (readCount_closing first).uncons (by decide) (by decide)
      simp only [alone]
      exact (finishCounted_enclose found).mono (Nat.le_trans less shorter)
    next least rest first =>
      obtain ⟨more, rfl, alone, less⟩ :=
        (readCount_closing first).uncons (by decide) (by decide)
      simp only [alone]
      exact (readUpper_enclose found).mono (Nat.le_trans less shorter)
    next => cases found
  · rw [open_] at found
    cases found

end Reader

/-! ## Groups -/

theorem readGroupName_closing (names : List (List Char)) (text : List Char) :
    readGroupName names (text ++ closing) =
      (readGroupName names text).map fun read => (read.1, read.2 ++ closing) := by
  unfold readGroupName
  dsimp only
  cases name : text.dropWhile (· != '>') with
  | nil =>
    rw [List.dropWhile_append, name]
    rfl
  | cons c behind =>
    rw [(run_closing name).1, (run_closing name).2]
    cases text.takeWhile (· != '>') with
    | nil => rfl
    | cons first more =>
      dsimp only
      split <;> rfl

theorem length_le_of_readGroupName {names : List (List Char)} {read : List Char × List Char}
    (found : readGroupName names text = some read) : read.2.length ≤ text.length := by
  unfold readGroupName at found
  dsimp only at found
  split at found
  next c rest first more name _ =>
    split at found
    case isTrue =>
      obtain rfl := Option.some.inj found
      have suffix := (List.dropWhile_suffix (l := text) (· != '>')).length_le
      rw [name] at suffix
      exact Nat.le_of_succ_le suffix
    case isFalse => cases found
  next => cases found

/-- A text that does not begin so with the closing behind it does not begin so alone. -/
theorem notHead_of_append {c : Char} (other : ∀ tail, text ++ closing = c :: tail → False) :
    ∀ tail, text = c :: tail → False :=
  fun tail same => other (tail ++ closing) (same ▸ rfl)

namespace Reader

/-- Opens a group with a name. -/
def nameGroup (reader : Reader) (text : List Char) : Option Reader :=
  (readGroupName reader.names text).map fun read =>
    { reader.openGroup true reader.flags read.2 with names := read.1 :: reader.names }

/-- Sets flags, for a new group or from here on. -/
def setFlags (reader : Reader) (text : List Char) : Option Reader :=
  let isEnd (c : Char) : Bool := c == ':' || c == ')'
  let letters := text.takeWhile fun c => !isEnd c
  match reader.flags.update letters, text.dropWhile (fun c => !isEnd c) with
  | some flags, ')' :: behind =>
    if letters.isEmpty then none
    else
      some { reader with
        branches := { reader.branches with pieces := .flags :: reader.branches.pieces }
        flags := flags
        rest := behind }
  | some flags, _ :: behind => some (reader.openGroup false flags behind)
  | _, _ => none

theorem readGroup_eq (reader : Reader) (text : List Char) : reader.readGroup text =
    match skip reader.flags text with
    | '?' :: '=' :: _ => none
    | '?' :: '!' :: _ => none
    | '?' :: '<' :: '=' :: _ => none
    | '?' :: '<' :: '!' :: _ => none
    | '?' :: 'P' :: '<' :: rest => reader.nameGroup rest
    | '?' :: '<' :: rest => reader.nameGroup rest
    | '?' :: rest => reader.setFlags rest
    | rest => some (reader.openGroup true reader.flags rest) := rfl

theorem readGroup_angle {rest : List Char} (front : skip reader.flags text = '?' :: '<' :: rest)
    (noLookbehind : ∀ tail, rest = '=' :: tail → False)
    (noNegation : ∀ tail, rest = '!' :: tail → False) :
    reader.readGroup text = reader.nameGroup rest := by
  simp [readGroup_eq, front]

theorem readGroup_setting {rest : List Char} (front : skip reader.flags text = '?' :: rest)
    (noLookahead : ∀ tail, rest = '=' :: tail → False)
    (noNegation : ∀ tail, rest = '!' :: tail → False)
    (noLetter : ∀ tail, rest = 'P' :: '<' :: tail → False)
    (noAngle : ∀ tail, rest = '<' :: tail → False) :
    reader.readGroup text = reader.setFlags rest := by
  have noLookbehind (tail : List Char) : rest = '<' :: '=' :: tail → False := noAngle _
  have noNegated (tail : List Char) : rest = '<' :: '!' :: tail → False := noAngle _
  simp [readGroup_eq, front]

theorem readGroup_plain (noMark : ∀ rest, skip reader.flags text = '?' :: rest → False) :
    reader.readGroup text = some (reader.openGroup true reader.flags (skip reader.flags text)) := by
  rw [readGroup_eq]
  split
  all_goals first | rfl | exact (noMark _ ‹_›).elim

theorem nameGroup_enclose
    (found : (reader.enclose outer).nameGroup (text ++ closing) = some next) :
    Keeps outer text (reader.nameGroup text) next := by
  rw [nameGroup, names_enclose,
    readGroupName_closing] at found
  rw [nameGroup]
  obtain ⟨read, named, rfl⟩ := Option.map_eq_some_iff.1 found
  obtain ⟨alone, name, rfl⟩ := Option.map_eq_some_iff.1 named
  rw [name]
  exact .inl ⟨_, rfl, rfl, length_le_of_readGroupName name⟩

theorem setFlags_enclose
    (found : (reader.enclose outer).setFlags (text ++ closing) = some next) :
    Keeps outer text (reader.setFlags text) next := by
  unfold setFlags at found ⊢
  dsimp only at found ⊢
  rw [flags_enclose] at found
  cases letters : text.dropWhile fun c => !(c == ':' || c == ')') with
  | nil =>
    -- The parenthesis of the closing ends the setting.
    rw [List.dropWhile_append, letters] at found
    split at found
    next behind _ ends =>
      split at found
      case isTrue => cases found
      case isFalse =>
        obtain rfl := Option.some.inj found
        obtain rfl := (List.cons.inj ends).2
        exact .inr ⟨frames_enclose_ne_nil outer reader, .inl (.inr rfl)⟩
    next other _ ends => exact (other (List.cons.inj ends).1.symm).elim
    next => cases found
  | cons c behind =>
    rw [(run_closing letters).1, (run_closing letters).2] at found
    have suffix := (List.dropWhile_suffix (l := text) fun c => !(c == ':' || c == ')')).length_le
    rw [letters] at suffix
    have shorter := Nat.le_of_succ_le suffix
    cases updated : reader.flags.update (text.takeWhile fun c => !(c == ':' || c == ')')) with
    | none =>
      rw [updated] at found
      cases found
    | some flags =>
      rw [updated] at found
      by_cases ends : c = ')'
      · subst ends
        simp only at found ⊢
        split at found
        case isTrue => cases found
        case isFalse some_ =>
          obtain rfl := Option.some.inj found
          rw [if_neg some_]
          exact .inl ⟨_, rfl, rfl, shorter⟩
      · simp only at found ⊢
        obtain rfl := Option.some.inj found
        exact .inl ⟨_, rfl, rfl, shorter⟩

theorem readGroup_enclose
    (found : (reader.enclose outer).readGroup (text ++ closing) = some next) :
    Keeps outer text (reader.readGroup text) next := by
  rw [readGroup_eq, flags_enclose] at found
  have shorter := length_skip_le reader.flags text
  rcases skip_closing reader.flags text with inside | open_
  · rw [inside] at found
    obtain ⟨front, alone⟩ : ∃ front, skip reader.flags text = front := ⟨_, rfl⟩
    rw [alone] at found shorter
    -- The signs for names and flags have no parenthesis, so they stand in the text itself.
    split at found
    next => cases found
    next => cases found
    next => cases found
    next => cases found
    next rest name =>
      obtain ⟨more, rfl, rfl⟩ := eq_append_of_append ['?', 'P', '<'] name (by decide)
      have same : reader.readGroup text = reader.nameGroup more := by
        rw [readGroup_eq, alone]
        rfl
      rw [same]
      refine (nameGroup_enclose found).mono ?_
      exact Nat.le_of_succ_le (Nat.le_of_succ_le (Nat.le_of_succ_le shorter))
    next rest noLookbehind noNegation name =>
      obtain ⟨more, rfl, rfl⟩ := eq_append_of_append ['?', '<'] name (by decide)
      rw [readGroup_angle alone (notHead_of_append noLookbehind) (notHead_of_append noNegation)]
      refine (nameGroup_enclose found).mono ?_
      exact Nat.le_of_succ_le (Nat.le_of_succ_le shorter)
    next rest noLookahead noNegation _ _ noLetter noAngle setting =>
      obtain ⟨more, rfl, rfl⟩ := eq_cons_of_append setting (by decide)
      rw [readGroup_setting alone (notHead_of_append noLookahead) (notHead_of_append noNegation)
        (fun tail same => noLetter (tail ++ closing) (same ▸ rfl)) (notHead_of_append noAngle)]
      exact (setFlags_enclose found).mono (Nat.le_of_succ_le shorter)
    next noMark =>
      rw [readGroup_plain (notHead_of_append (alone ▸ noMark)), alone]
      obtain rfl := Option.some.inj found
      exact .inl ⟨_, rfl, rfl, shorter⟩
  · rw [open_] at found
    obtain rfl := Option.some.inj found
    exact .inr ⟨List.cons_ne_nil _ _, .inl .nil⟩

end Reader

end RuleAtlas.Regex
