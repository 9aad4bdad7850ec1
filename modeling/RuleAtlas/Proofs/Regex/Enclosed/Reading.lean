import RuleAtlas.Proofs.Regex.Enclosed.Groups

/-! # Expressions inside a group

An expression that is put into a group as text is read as it is read alone, piece by piece, up to
where the text closes a group that it did not open.  There a reader of the text alone fails, and
a reader of the whole goes on behind the group. -/

namespace RuleAtlas.Regex

namespace Reader

variable {reader next : Reader} {outer : GroupFrame} {text : List Char}

/-! ## Steps -/

theorem readClass_enclose {read : ClassValue × List Char}
    (found : readClass reader.flags (text ++ closing) = some read) :
    Keeps outer text
      ((readClass reader.flags text).map fun read =>
        { reader with
          branches := reader.branches.add ⟨.set read.1.set, read.1.depth⟩
          rest := read.2 })
      { reader.enclose outer with
        branches := reader.branches.add ⟨.set read.1.set, read.1.depth⟩
        rest := read.2 } := by
  obtain ⟨rest, same, alone, shorter⟩ := readClass_closing found
  rw [alone]
  refine .inl ⟨_, ?_, rfl, shorter⟩
  simp [enclose, same]

/-- What is added for an atom. -/
def addAtom (reader : Reader) (first : Char) (text : List Char) : Option Reader :=
  match readAtom reader.flags first text with
  | none => none
  | some (atom, behind) =>
    (atom.regex reader.flags).map fun regex =>
      { reader with branches := reader.branches.add ⟨regex, 0⟩, rest := behind }

theorem addAtom_enclose {first : Char}
    (found : (reader.enclose outer).addAtom first (text ++ closing) = some next) :
    Keeps outer text (reader.addAtom first text) next := by
  rw [addAtom, flags_enclose] at found
  rw [addAtom]
  split at found
  next => cases found
  next atom behind item =>
    obtain ⟨regex, meaning, rfl⟩ := Option.map_eq_some_iff.1 found
    obtain (⟨rest, same, alone, shorter⟩ | spent) | dangling := readAtom_closing item
    · dsimp only at same
      subst same
      simp only [alone, meaning]
      exact .inl ⟨_, rfl, rfl, shorter⟩
    · exact .inr ⟨frames_enclose_ne_nil outer reader, .inl spent⟩
    · exact .inr ⟨frames_enclose_ne_nil outer reader, .inr dangling.2⟩

theorem closeGroup_enclose
    (found : (reader.enclose outer).closeGroup (text ++ closing) = some next)
    (opened : reader.frames ≠ []) : Keeps outer text (reader.closeGroup text) next := by
  unfold closeGroup at found ⊢
  obtain ⟨frame, frames, stack⟩ := List.exists_cons_of_ne_nil opened
  simp only [enclose, stack, List.cons_append] at found ⊢
  obtain rfl := Option.some.inj found
  exact .inl ⟨_, rfl, rfl, Nat.le_refl _⟩

theorem repeatLast_lazy_enclose {least : Nat} {most : Option Nat}
    (found : (reader.enclose outer).repeatLast least most (dropLazyMark (text ++ closing)) =
      some next) : Keeps outer text (reader.repeatLast least most (dropLazyMark text)) next := by
  rw [dropLazyMark_closing] at found
  exact (repeatLast_enclose found).mono (length_dropLazyMark_le text)

/-- A step in the outer group is the step of the text alone, unless it closes the outer group. -/
theorem step_enclose {first : Char} (inside : first = ')' → reader.frames ≠ [])
    (found : (reader.enclose outer).step first (text ++ closing) = some next) :
    Keeps outer text (reader.step first text) next := by
  unfold step at found ⊢
  split at found
  case h_1 => exact readGroup_enclose found
  case h_2 => exact closeGroup_enclose found (inside rfl)
  case h_3 =>
    obtain rfl := Option.some.inj found
    exact .inl ⟨_, rfl, rfl, Nat.le_refl _⟩
  case h_4 =>
    obtain ⟨read, class_, rfl⟩ := Option.map_eq_some_iff.1 found
    exact readClass_enclose class_
  case h_5 => exact repeatLast_lazy_enclose found
  case h_6 => exact repeatLast_lazy_enclose found
  case h_7 => exact repeatLast_lazy_enclose found
  case h_8 => exact readCounted_enclose found
  case h_9 => exact addAtom_enclose found

/-! ## Runs -/

theorem run_nil (budget : Nat) (ended : reader.rest = []) : run (budget + 1) reader =
    if reader.frames.isEmpty then some reader.branches.value else none := by
  rw [run, ended, Spent.nil.skip]

/-- The reader behind the anchor for the end. -/
def anchored (reader : Reader) : Reader :=
  { reader with
    branches := reader.branches.add ⟨.look (endLook reader.flags), 0⟩
    rest := [] }

theorem run_anchor (budget : Nat) (anchor : reader.rest = ['$']) :
    run (budget + 1) reader = run budget reader.anchored := by
  rw [run, anchor, Spent.skip (.inr rfl)]
  rfl

theorem readCount_of_closing (flags : Flags) :
    readCount flags closing = some (none, closing) := by
  rw [readCount_eq]
  rfl

/-- A group that the text does not close stays open to the end. -/
theorem Stuck.run (stuck : reader.Stuck) (budget : Nat) : run budget reader = none := by
  have opened := stuck.1
  have ended (budget : Nat) {reader : Reader} (opened : reader.frames ≠ [])
      (ended : reader.rest = []) : Reader.run budget reader = none := by
    cases budget with
    | zero => rfl
    | succ budget => simp [run_nil budget ended, opened]
  cases budget with
  | zero => rfl
  | succ budget =>
    obtain (nothing | anchor) | ⟨more, brace, behind⟩ := stuck.2
    · exact ended _ opened nothing
    · rw [run_anchor budget anchor]
      exact ended budget opened rfl
    · have refused : reader.readCounted more = none := by
        rw [readCounted_eq, behind, readCount_of_closing]
      rw [Reader.run, brace, skip_plain (by decide) (by decide)]
      simp [step, refused]

/-- Reading comes to a closing parenthesis where no group is open. -/
inductive Overcloses : Reader → Prop where
  | here {reader : Reader} {rest : List Char} :
    skip reader.flags reader.rest = ')' :: rest → reader.frames = [] → Overcloses reader
  | later {reader next : Reader} {first : Char} {rest : List Char} :
    skip reader.flags reader.rest = first :: rest → reader.step first rest = some next →
      Overcloses next → Overcloses reader

theorem Overcloses.run (overcloses : Overcloses reader) (budget : Nat) :
    Reader.run budget reader = none := by
  induction overcloses generalizing budget with
  | here front closed =>
    cases budget with
    | zero => rfl
    | succ budget =>
      rw [Reader.run, front]
      simp [step, closeGroup, closed]
  | later front stepped _ inductionHypothesis =>
    cases budget with
    | zero => rfl
    | succ budget =>
      rw [Reader.run, front]
      simp [stepped, inductionHypothesis]

/-- The expression of a group with its anchor, in what stood before the group. -/
def wrapped (outer : GroupFrame) (inner : Nested) : Nested :=
  let regex := if outer.capturing then .group inner.regex else inner.regex
  ((outer.before.add ⟨regex, inner.depth + 1⟩).add ⟨.look (endLook outer.flags), 0⟩).value

/-- With blanks up to the closing skipped, or with all of it in an open comment, which leaves the
outer group open. -/
theorem skip_enclose {budget : Nat} {nested : Nested}
    (found : run (budget + 1) (reader.enclose outer) = some nested) :
    skip reader.flags (reader.enclose outer).rest = skip reader.flags reader.rest ++ closing := by
  refine (skip_closing reader.flags reader.rest).resolve_right fun open_ => ?_
  rw [run, flags_enclose, rest_enclose, open_] at found
  simp [frames_enclose_ne_nil] at found

/-- Behind the text the closing ends the outer group, and the anchor is read. -/
theorem run_closing {budget : Nat} {nested : Nested} (front : skip reader.flags reader.rest = [])
    (found : run (budget + 1) (reader.enclose outer) = some nested) :
    reader.frames = [] ∧ nested = wrapped outer reader.branches.value := by
  have skipped := skip_enclose found
  rw [front] at skipped
  rw [run, flags_enclose, skipped] at found
  obtain ⟨next, closed, last⟩ := Option.bind_eq_some_iff.1 found
  cases stack : reader.frames with
  | cons frame frames =>
    -- An inner group takes the parenthesis.
    have stuck : next.Stuck := by
      simp only [step, closeGroup, enclose, stack, List.cons_append] at closed
      obtain rfl := Option.some.inj closed
      exact ⟨by simp, .inl (.inr rfl)⟩
    rw [stuck.run] at last
    cases last
  | nil =>
    refine ⟨rfl, ?_⟩
    simp only [step, closeGroup, enclose, stack, List.nil_append] at closed
    obtain rfl := Option.some.inj closed
    cases budget with
    | zero => cases last
    | succ budget =>
      rw [run_anchor budget rfl] at last
      cases budget with
      | zero => cases last
      | succ budget =>
        rw [run_nil budget rfl] at last
        exact (Option.some.inj last).symm

theorem run_enclose {budget larger : Nat} {nested : Nested}
    (enough : reader.rest.length < budget)
    (found : run larger (reader.enclose outer) = some nested) :
    (∃ inner, run budget reader = some inner ∧ nested = wrapped outer inner) ∨
      reader.Overcloses := by
  -- The induction is on the larger budget, step by step with the reader of the text alone, until
  -- the closing is reached or a parenthesis closes the outer group too early.
  induction larger generalizing reader budget with
  | zero => cases found
  | succ larger inductionHypothesis =>
    obtain ⟨budget, rfl⟩ := Nat.exists_eq_add_of_lt enough
    cases front : skip reader.flags reader.rest with
    | nil =>
      obtain ⟨closed, same⟩ := run_closing front found
      refine .inl ⟨reader.branches.value, ?_, same⟩
      rw [run, front]
      simp [closed]
    | cons first rest =>
      have skipped := skip_enclose found
      have shorter := length_skip_le reader.flags reader.rest
      rw [front] at skipped shorter
      rw [run, flags_enclose, skipped] at found
      obtain ⟨next, stepped, last⟩ := Option.bind_eq_some_iff.1 found
      by_cases closesOuter : first = ')' ∧ reader.frames = []
      · exact .inr (.here (closesOuter.1 ▸ front) closesOuter.2)
      · have inside : first = ')' → reader.frames ≠ [] :=
          fun closes closed => closesOuter ⟨closes, closed⟩
        obtain ⟨after, rfl, alone, less⟩ | stuck := step_enclose inside stepped
        · have enoughBehind : after.rest.length < reader.rest.length + budget := by
            rw [List.length_cons] at shorter
            omega
          obtain ⟨inner, read, same⟩ | overcloses := inductionHypothesis enoughBehind last
          · refine .inl ⟨inner, ?_, same⟩
            rw [run, front]
            simp only [alone, Option.bind_some]
            exact read
          · exact .inr (.later front alone overcloses)
        · rw [stuck.run] at last
          cases last

end Reader

end RuleAtlas.Regex
