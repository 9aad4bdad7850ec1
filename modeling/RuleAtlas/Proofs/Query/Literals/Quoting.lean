import RuleAtlas.Proofs.Query.Literals.Strings
import RuleAtlas.Proofs.Query.Pieces
import RuleAtlas.Proofs.Query.Spans
import RuleAtlas.Query.Expr.Printer

/-! # Quoted texts as string literals

A quoted text shows every character in its own way, and string literals have another grammar.
A text is read back from its quoted form exactly if none of its characters is written by a
code.  The braces of a code are no digits, so a literal with a code point in it is refused; the
zero of a NUL character may take two digits behind it, and what is read is then shorter than
the text. -/

namespace RuleAtlas.Query

open Text (escapeChar isWrittenByCode codeEscape IsDigit IsNumeral byteLength)

/-- The text as it stands between double quotes. -/
abbrev shown (text : List Char) : List Char := text.flatMap (escapeChar '\x22')

/-! ## Characters as they are shown -/

/-- A character is shown as itself, or by an escape. -/
theorem escapeChar_cases (c : Char) :
    (escapeChar '\x22' c = [c] ∧ c ≠ '\x22' ∧ c ≠ '\\') ∨
      ∃ escape, escapeChar '\x22' c = '\\' :: escape := by
  unfold escapeChar
  split_ifs with zero tab carriage line special code
  case neg =>
    simp only [Bool.or_eq_true, decide_eq_true_eq, not_or] at special
    exact .inl ⟨rfl, special.2, special.1⟩
  all_goals exact .inr ⟨_, rfl⟩

/-- A character without a code is shown as an item that means it. -/
theorem isItem_of_plain {c : Char} (plain : isWrittenByCode c = false) :
    IsItem '\x22' (escapeChar '\x22' c) c := by
  obtain ⟨letter, written, means⟩ | ⟨written, noQuote, noLine, noBackslash⟩ :=
    escapeChar_of_plain plain
  · rw [written]
    obtain listed | ⟨rfl, rfl⟩ := of_letterEscape? means
    · exact .letter listed
    · exact .quote
  · rw [written]
    exact .plain (by simp [noQuote, noLine, noBackslash])

/-- A text without codes is shown as items that mean its characters. -/
theorem areItems_of_plain {text : List Char} (plain : ∀ c ∈ text, isWrittenByCode c = false) :
    AreItems '\x22' (shown text) text := by
  induction text with
  | nil => exact .nil
  | cons c text inductionHypothesis =>
    have item := isItem_of_plain (plain c List.mem_cons_self)
    exact .cons item (inductionHypothesis fun d member => plain d (List.mem_cons_of_mem c member))

/-- What is shown by a code is a zero behind a backslash, or begins with a brace behind the
letter u. -/
theorem escapeChar_of_code {d : Char} (code : isWrittenByCode d = true) :
    escapeChar '\x22' d = ['\\', '0'] ∨
      ∃ digits, escapeChar '\x22' d = '\\' :: 'u' :: '\x7b' :: digits := by
  simp only [isWrittenByCode, Bool.or_eq_true, beq_iff_eq] at code
  exact code.imp_right fun written => ⟨_, written⟩

/-- Only itself is shown as a digit. -/
theorem eq_cons_of_shown {base digit : Nat} {c : Char} (isDigit : IsDigit base digit c)
    (atMost : base ≤ 16) {text tail behind : List Char}
    (written : shown text ++ '\x22' :: behind = c :: tail) :
    ∃ back, text = c :: back ∧ escapeChar '\x22' c = [c] ∧
      shown back ++ '\x22' :: behind = tail := by
  -- A digit is neither the closing quote nor the backslash of an escape.
  have found := (digitValue?_iff atMost).2 isDigit
  have notMark : c ≠ '\x22' ∧ c ≠ '\\' := by
    constructor <;> rintro rfl <;> simp [digitValue?] at found
  cases text with
  | nil => exact absurd (List.cons.inj written).1.symm notMark.1
  | cons d back =>
    rw [shown, List.flatMap_cons, List.append_assoc] at written
    obtain ⟨itself, -, -⟩ | ⟨escape, escaped⟩ := escapeChar_cases d
    · rw [itself] at written
      obtain ⟨rfl, same⟩ := List.cons.inj written
      exact ⟨back, rfl, itself, same⟩
    · rw [escaped] at written
      exact absurd (List.cons.inj written).1.symm notMark.2

/-! ## Items in what is shown -/

/-- Two items at the head of one text have the same characters and mean the same. -/
theorem IsItem.eq_of_append {quote : Char} (opens : quote ∈ ['\x22', '\x27'])
    {source other tail behind : List Char} {c d : Char} (item : IsItem quote source c)
    (otherItem : IsItem quote other d) (same : source ++ tail = other ++ behind) :
    source = other ∧ c = d := by
  have notBackslash : ∀ {e : Char}, e ∉ [quote, '\n', '\\'] → e ≠ '\\' := by
    rintro e free rfl
    simp at free
  obtain ⟨rfl, free⟩ | ⟨escape, rfl⟩ := item.plain_or_escape
  all_goals obtain ⟨rfl, otherFree⟩ | ⟨otherEscape, rfl⟩ := otherItem.plain_or_escape
  · obtain ⟨rfl, -⟩ := List.cons.inj same
    exact ⟨rfl, rfl⟩
  · exact absurd (List.cons.inj same).1 (notBackslash free)
  · exact absurd (List.cons.inj same).1.symm (notBackslash otherFree)
  · have inner : escape ++ tail = otherEscape ++ behind := (List.cons.inj same).2
    have read := readEscape_of_isItem opens item tail
    rw [inner, readEscape_of_isItem opens otherItem behind] at read
    cases read
    exact ⟨rfl, rfl⟩

/-- Behind a backslash a zero begins three octal digits. -/
theorem IsItem.of_zero {source tail rest : List Char} {c : Char} (item : IsItem '\x22' source c)
    (written : source ++ tail = '\\' :: '0' :: rest) :
    ∃ first second firstDigit secondDigit, IsDigit 8 firstDigit first ∧
      IsDigit 8 secondDigit second ∧ source = ['\\', '0', first, second] ∧
      rest = first :: second :: tail := by
  cases item with
  | plain free =>
    obtain ⟨rfl, -⟩ := List.cons.inj written
    simp at free
  | letter listed =>
    obtain ⟨rfl, -⟩ := List.cons.inj (List.cons.inj written).2
    simp [letterEscapes] at listed
  | quote => cases written
  | code listed numeral =>
    obtain ⟨rfl, -⟩ := List.cons.inj (List.cons.inj written).2
    simp [codeEscapes] at listed
  | octal three numeral small =>
    obtain ⟨zero, first, second, rfl⟩ := List.length_eq_three.1 three
    obtain ⟨rfl, rfl⟩ := List.cons.inj (List.cons.inj written).2
    obtain ⟨_, _, -, others, -⟩ := IsNumeral.cons_iff.1 numeral
    obtain ⟨firstDigit, _, isFirst, last, -⟩ := IsNumeral.cons_iff.1 others
    obtain ⟨secondDigit, _, isSecond, -, -⟩ := IsNumeral.cons_iff.1 last
    exact ⟨first, second, firstDigit, secondDigit, isFirst, isSecond, rfl, rfl⟩

/-- No item begins with a brace behind the letter u. -/
theorem IsItem.ne_brace {source tail rest : List Char} {c : Char} (item : IsItem '\x22' source c) :
    source ++ tail ≠ '\\' :: 'u' :: '\x7b' :: rest := by
  intro written
  have noDigit : ∀ {base value : Nat} {mark : Char}, base ≤ 16 → digitValue? base mark = none →
      ¬IsDigit base value mark := by
    intro base value mark atMost none isDigit
    rw [(digitValue?_iff atMost).2 isDigit] at none
    cases none
  -- Only a code could begin like this, and a brace is no digit of it.
  cases item with
  | plain free =>
    obtain ⟨rfl, -⟩ := List.cons.inj written
    simp at free
  | letter listed =>
    obtain ⟨rfl, -⟩ := List.cons.inj (List.cons.inj written).2
    simp [letterEscapes] at listed
  | quote => cases written
  | @code letter digits _ listed numeral =>
    obtain ⟨rfl, behind⟩ := List.cons.inj (List.cons.inj written).2
    cases digits with
    | nil => simp [codeEscapes] at listed
    | cons mark digits =>
      obtain ⟨rfl, -⟩ := List.cons.inj behind
      obtain ⟨_, _, isDigit, -, -⟩ := IsNumeral.cons_iff.1 numeral
      exact noDigit (by decide) (by decide) isDigit
  | octal three numeral small =>
    obtain ⟨letter, first, second, rfl⟩ := List.length_eq_three.1 three
    obtain ⟨rfl, -⟩ := List.cons.inj (List.cons.inj written).2
    obtain ⟨_, _, isDigit, -, -⟩ := IsNumeral.cons_iff.1 numeral
    exact noDigit (by decide) (by decide) isDigit

/-- An item at the head of what is shown is what one character without a code is shown as, or
takes more than one character of the text. -/
theorem IsItem.of_shown {source tail text behind : List Char} {c : Char}
    (item : IsItem '\x22' source c)
    (written : source ++ tail = shown text ++ '\x22' :: behind) :
    ∃ front back, text = front ++ back ∧ source = shown front ∧
      tail = shown back ++ '\x22' :: behind ∧
      (front = [c] ∧ isWrittenByCode c = false ∨ 1 < front.length) := by
  cases text with
  | nil =>
    obtain ⟨rfl, free⟩ | ⟨escape, rfl⟩ := item.plain_or_escape
    · obtain ⟨rfl, -⟩ := List.cons.inj written
      simp at free
    · cases written
  | cons d text =>
    rw [shown, List.flatMap_cons, List.append_assoc] at written
    cases code : isWrittenByCode d with
    | false =>
      obtain ⟨rfl, rfl⟩ := item.eq_of_append (by decide) (isItem_of_plain code) written
      exact ⟨[c], text, rfl, (List.append_nil _).symm, List.append_cancel_left written,
        .inl ⟨rfl, code⟩⟩
    | true =>
      -- A null character is shown as the first digit of an octal code: the two characters
      -- behind it in the text are read as the others.
      obtain zero | ⟨digits, brace⟩ := escapeChar_of_code code
      · rw [zero] at written
        obtain ⟨first, second, _, _, isFirst, isSecond, rfl, digits⟩ := item.of_zero written
        obtain ⟨others, rfl, firstShown, afterFirst⟩ := eq_cons_of_shown isFirst (by decide) digits
        obtain ⟨back, rfl, secondShown, afterSecond⟩ :=
          eq_cons_of_shown isSecond (by decide) afterFirst
        refine ⟨[d, first, second], back, rfl, ?_, afterSecond.symm, .inr (by simp)⟩
        simp [zero, firstShown, secondShown]
      · rw [brace] at written
        exact absurd written item.ne_brace

/-! ## What is read -/

/-- What is read from a text as it is shown is no longer than the text, and as long only if no
character has a code. -/
theorem AreItems.of_shown {inner value text rest behind : List Char}
    (items : AreItems '\x22' inner value)
    (written : inner ++ '\x22' :: rest = shown text ++ '\x22' :: behind) :
    inner = shown text ∧ rest = behind ∧ value.length ≤ text.length ∧
      (value.length = text.length → ∀ c ∈ text, isWrittenByCode c = false) := by
  -- Over the items: each stands for one character or more, for one only if that is plain.
  induction items generalizing text with
  | nil =>
    cases text with
    | nil => exact ⟨rfl, (List.cons.inj written).2, Nat.le_refl _, by simp⟩
    | cons d text =>
      rw [shown, List.flatMap_cons, List.append_assoc] at written
      obtain ⟨itself, noQuote, -⟩ | ⟨escape, escaped⟩ := escapeChar_cases d
      · rw [itself] at written
        exact absurd (List.cons.inj written).1.symm noQuote
      · rw [escaped] at written
        cases written
  | cons item items inductionHypothesis =>
    rw [List.append_assoc] at written
    obtain ⟨front, back, rfl, rfl, tail, takes⟩ := item.of_shown written
    obtain ⟨rfl, rfl, short, full⟩ := inductionHypothesis tail
    refine ⟨(List.flatMap_append ..).symm, rfl, ?_⟩
    obtain ⟨rfl, plain⟩ | more := takes
    · refine ⟨Nat.succ_le_succ short, fun same e member => ?_⟩
      obtain rfl | member := List.mem_cons.1 member
      · exact plain
      · exact full (Nat.succ.inj same) e member
    · rw [List.length_append, List.length_cons]
      exact ⟨by omega, fun same => by omega⟩

/-! ## Tokens of quoted texts -/

/-- The tokens of an input that is one string literal with this value. -/
def literalTokens (input value : String) : List Token :=
  [⟨.string, value, 0⟩, ⟨.eof, "", input.utf8ByteSize⟩]

/-- A text that is shown as items is read as one literal with what they mean. -/
theorem tokenize_of_areItems {text : String} {value : List Char}
    (items : AreItems '\x22' (shown text.toList) value) :
    tokenize (Text.quoted text) =
      .ok (literalTokens (Text.quoted text) (String.ofList value)) := by
  have written : (Text.quoted text).toList =
      '\x22' :: ((shown text.toList ++ ['\x22']) ++ []) := by
    simp [Text.quoted]
  have read := readLexeme_of_isBetween (.quoted (by decide) items) []
  rw [List.append_cons, List.append_nil] at read
  have length : byteLength ('\x22' :: (shown text.toList ++ ['\x22'])) =
      (Text.quoted text).utf8ByteSize := by
    rw [← Text.byteLength_toList, written, List.append_nil]
  rw [tokenize, Cursor.start, written, Cursor.tokens_of_lexeme rfl (by rwa [List.append_nil]),
    @Cursor.tokens_of_nil ⟨_, []⟩ rfl, length]
  simp [literalTokens, Except.map, Cursor.skipGap, Cursor.advance, gap]

/-- If a quoted text is read at all, its characters are shown as items. -/
theorem areItems_of_tokenize {text : String} {tokens : List Token}
    (came : tokenize (Text.quoted text) = .ok tokens) :
    ∃ value, AreItems '\x22' (shown text.toList) value ∧ value.length ≤ text.toList.length ∧
      (value.length = text.toList.length → Text.IsPlain text) := by
  have begins : (Cursor.start (Text.quoted text)).skipGap.rest =
      '\x22' :: (shown text.toList ++ ['\x22']) := by
    simp [Cursor.start, Cursor.skipGap, Cursor.advance, Text.quoted, gap_of_quote]
  rw [tokenize, Cursor.tokens_of_cons begins] at came
  split at came
  · cases came
  · rename_i token read
    obtain ⟨lexeme, found, -, -⟩ := Cursor.next_of_ok begins read
    obtain ⟨inner, value, rest, written, between⟩ := isBetween_of_readLexeme (by decide) found
    cases between with
    | quoted _ items =>
      obtain ⟨rfl, -, short, full⟩ := items.of_shown written.symm
      exact ⟨value, items, short, full⟩

/-- Literals and the texts of matchers are written in quotes, and what is written is read back
exactly if no character of the text is written by a code.  Otherwise it is refused, or read
as another text. -/
theorem quoted_readsBack_iff (text : String) :
    (Expr.string text).render = Text.quoted text ∧
      (∀ matcher : LabelMatcher, matcher.condition.text = text →
        matcher.render = matcher.label ++ matcher.condition.kind.symbol ++ Text.quoted text) ∧
      (tokenize (Text.quoted text) = .ok (literalTokens (Text.quoted text) text) ↔
        Text.IsPlain text) ∧
      (¬Text.IsPlain text → (∃ error, tokenize (Text.quoted text) = .error error) ∨
        ∃ other, other ≠ text ∧
          tokenize (Text.quoted text) = .ok (literalTokens (Text.quoted text) other)) := by
  -- A text that is written by codes comes back shorter, if at all.
  have coded : ∀ tokens, tokenize (Text.quoted text) = .ok tokens → ¬Text.IsPlain text →
      ∃ other, other ≠ text ∧ tokens = literalTokens (Text.quoted text) other := by
    intro tokens came notPlain
    obtain ⟨value, items, short, full⟩ := areItems_of_tokenize came
    refine ⟨String.ofList value, ?_, ?_⟩
    · rintro rfl
      exact notPlain (full (by rw [String.toList_ofList]))
    · exact Except.ok.inj (came.symm.trans (tokenize_of_areItems items))
  have matchers : ∀ matcher : LabelMatcher, matcher.condition.text = text →
      matcher.render = matcher.label ++ matcher.condition.kind.symbol ++ Text.quoted text := by
    rintro matcher rfl
    rfl
  refine ⟨by rw [Expr.render], matchers, ⟨fun came => ?_, fun plain => ?_⟩, fun notPlain => ?_⟩
  · by_contra notPlain
    obtain ⟨other, differs, same⟩ := coded _ came notPlain
    rw [literalTokens, literalTokens] at same
    injection same with same
    injection same with _ same
    exact differs same.symm
  · have read := tokenize_of_areItems (areItems_of_plain plain)
    rwa [String.ofList_toList] at read
  · cases came : tokenize (Text.quoted text) with
    | error error => exact .inl ⟨error, rfl⟩
    | ok tokens =>
      obtain ⟨other, differs, rfl⟩ := coded _ came notPlain
      exact .inr ⟨other, differs, rfl⟩

/-- Two zeros behind a NUL character are read as the rest of its code. -/
theorem quoted_readsBack_iff_zeros : ¬Text.IsPlain "\x0000" ∧
    ∃ other, other ≠ "\x0000" ∧ tokenize (Text.quoted "\x0000") =
      .ok (literalTokens (Text.quoted "\x0000") other) := by
  have notPlain : ¬Text.IsPlain "\x0000" := by
    intro plain
    have nul := plain '\x00' (by decide)
    simp [isWrittenByCode, escapeChar] at nul
  refine ⟨notPlain, ?_⟩
  obtain ⟨error, refused⟩ | read := (quoted_readsBack_iff "\x0000").2.2.2 notPlain
  · have zeros : IsNumeral 8 ['0', '0', '0'] '\x00'.toNat :=
      ⟨[0, 0, 0], by simp [IsDigit], by decide⟩
    have item : IsItem '\x22' ['\\', '0', '0', '0'] '\x00' := .octal rfl zeros (by decide)
    have written : shown "\x0000".toList = ['\\', '0', '0', '0'] := by cbv
    have items : AreItems '\x22' (shown "\x0000".toList) ['\x00'] := written ▸ .cons item .nil
    rw [tokenize_of_areItems items] at refused
    cases refused
  · exact read

end RuleAtlas.Query
