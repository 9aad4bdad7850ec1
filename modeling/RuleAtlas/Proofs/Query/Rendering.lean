import RuleAtlas.Proofs.Query.Durations
import RuleAtlas.Proofs.Query.Nodes
import RuleAtlas.Proofs.Query.Readable

/-! # Rendered trees are read as their tokens

The text of a tree is read as the tokens that the tree is written with, wherever no word and
no number goes on behind it.  Each part of a tree is put together from its pieces; what has to
follow a piece is always a blank, a symbol, or the end of the text. -/

namespace RuleAtlas.Query

open Written

/-- The character may go on a word or number. -/
def isTokenPart (c : Char) : Bool := sticksToNumber c || c == ':'

/-- In front of the rest the text is read as the tokens, apart from their places. -/
def Prints (text : String) (tokens : List Token) (rest : List Char) : Prop :=
  Lexes text.toList (tokens.map Token.lexeme) rest

variable {rest : List Char}

/-- No word and no number goes on with the text. -/
abbrev Ends (rest : List Char) : Prop := Text.Stops isTokenPart rest

theorem Ends.word (ends : Ends rest) : Text.Stops isWordPart rest :=
  ends.mono fun c part => by
    simp only [isWordPart, isTokenPart, sticksToNumber, Bool.or_eq_true] at part ⊢
    tauto

theorem Ends.number (ends : Ends rest) : Text.Stops sticksToNumber rest :=
  ends.mono fun c sticks => by simp [isTokenPart, sticks]

/-! ## Putting pieces together -/

namespace Prints

variable {text front back : String} {tokens frontTokens backTokens : List Token}

theorem empty : Prints "" [] rest := Lexes.nil

theorem append (first : Prints front frontTokens (back.toList ++ rest))
    (second : Prints back backTokens rest) :
    Prints (front ++ back) (frontTokens ++ backTokens) rest := by
  unfold Prints
  rw [String.toList_append, List.map_append]
  exact Lexes.append first second

theorem blank : Prints " " [] rest := Lexes.blank

/-- A symbol of one character, whatever follows. -/
theorem symbol {c : Char} {kind : TokenKind} (symbol : symbol? c = some kind) (noColon : c ≠ ':')
    (same : text.toList = [c]) : Prints text [⟨kind, text, 0⟩] rest := by
  unfold Prints
  simp only [List.map_cons, List.map_nil, Token.lexeme, same]
  exact lexes_symbol symbol rest fun colon => absurd colon noColon

theorem word (word : isWord text.toList = true) (stops : Text.Stops isWordPart rest) :
    Prints text [Written.word text] rest := lexes_word word stops

/-- A word between blanks. -/
theorem spacedWord (word : isWord text.toList = true) :
    Prints (" " ++ text ++ " ") [Written.word text] rest :=
  append (append blank (Prints.word word (Text.stops_cons.2 rfl))) blank

/-- A word behind a blank. -/
theorem blankWord (word : isWord text.toList = true) (stops : Text.Stops isWordPart rest) :
    Prints (" " ++ text) [Written.word text] rest :=
  append blank (Prints.word word stops)

theorem leftParen : Prints "(" [Written.leftParen] rest := symbol rfl (by decide) rfl

theorem rightParen : Prints ")" [Written.rightParen] rest := symbol rfl (by decide) rfl

theorem leftBrace : Prints "\x7b" [Written.leftBrace] rest := symbol rfl (by decide) rfl

theorem rightBrace : Prints "\x7d" [Written.rightBrace] rest := symbol rfl (by decide) rfl

theorem leftBracket : Prints "[" [Written.leftBracket] rest := symbol rfl (by decide) rfl

theorem rightBracket : Prints "]" [Written.rightBracket] rest := symbol rfl (by decide) rfl

theorem comma : Prints ", " [Written.comma] rest := by
  have alone : Prints "," [Written.comma] (" ".toList ++ rest) := symbol rfl (by decide) rfl
  exact alone.append blank

/-- Pieces with commas and blanks between them. -/
theorem joined {α : Type} {render : α → String} {tokens : α → List Token} {items : List α}
    (each : ∀ a ∈ items, ∀ rest, Ends rest → Prints (render a) (tokens a) rest)
    (ends : Ends rest) :
    Prints (Text.joinWith ", " (items.map render)) (Written.joined (items.map tokens)) rest := by
  induction items with
  | nil => exact empty
  | cons a items inductionHypothesis =>
    cases items with
    | nil => exact each a List.mem_cons_self rest ends
    | cons b items =>
      have following := inductionHypothesis fun c member =>
        each c (List.mem_cons_of_mem _ member)
      -- The comma belongs to the piece before it, the blank to nothing.
      have regrouped : Written.joined ((a :: b :: items).map tokens) =
          (tokens a ++ [Written.comma]) ++ Written.joined ((b :: items).map tokens) := by
        simp [Written.joined]
      rw [regrouped]
      exact append (append (each a List.mem_cons_self _ (Text.stops_cons.2 rfl)) comma) following

end Prints

/-! ## Parts of trees -/

theorem prints_duration (duration : Duration) (stops : Text.Stops sticksToNumber rest) :
    Prints duration.render [duration.token] rest := by
  unfold Prints
  simp only [List.map_cons, List.map_nil, Duration.token, Written.digits, Token.lexeme,
    String.toList_ofList]
  exact lexes_duration duration stops

theorem prints_finite {significand : ℕ} {exponent : ℤ}
    (canonical : Binary64.Canonical (.finite false significand exponent)) (ends : Ends rest) :
    Prints (renderNumber (.finite false significand exponent))
      (numberTokens (.finite false significand exponent)) rest := by
  obtain ⟨whole, fraction, text, nonempty, wholeDigits, fractionDigits, -⟩ :=
    Binary64.ofText?_finiteText canonical
  unfold Prints
  simp only [renderNumber, Binary64.render, numberTokens, Written.digits, Token.lexeme, text,
    List.nil_append, List.map_cons, List.map_nil, String.toList_ofList, if_neg Bool.false_ne_true]
  exact lexes_number nonempty wholeDigits fractionDigits ends.number

theorem prints_minus : Prints "-" [minus] rest := Prints.symbol rfl (by decide) rfl

theorem prints_signed {negative : Bool} {significand : ℕ} {exponent : ℤ}
    (canonical : Binary64.Canonical (.finite negative significand exponent)) (ends : Ends rest) :
    Prints (renderNumber (.finite negative significand exponent))
      (numberTokens (.finite negative significand exponent)) rest := by
  cases negative with
  | false => exact prints_finite canonical ends
  | true =>
    have text : renderNumber (.finite true significand exponent) =
        "-" ++ renderNumber (.finite false significand exponent) := by
      rw [← String.toList_inj]
      simp [renderNumber, Binary64.render, Binary64.finiteText]
    rw [text]
    exact prints_minus.append (prints_finite canonical ends)

theorem prints_labels {labels : List String} (words : AreWords labels) :
    Prints (renderLabels labels) (labelTokens labels) rest := by
  have joined : Prints (Text.joinWith ", " (labels.map id))
      (Written.joined (labels.map fun label => [word label])) (")".toList ++ rest) :=
    Prints.joined (fun label member rest ends => Prints.word (words label member) ends.word)
      (Text.stops_cons.2 rfl)
  rw [List.map_id] at joined
  exact (Prints.leftParen.append joined).append Prints.rightParen

theorem prints_wordLabels (text : String) {labels : List String} (word : isWord text.toList = true)
    (words : AreWords labels) :
    Prints (" " ++ text ++ renderLabels labels) (Written.word text :: labelTokens labels) rest := by
  refine (Prints.blankWord word ?_).append (prints_labels words)
  rw [renderLabels, String.append_assoc, String.toList_append]
  exact Text.stops_cons.2 rfl

/-- The operator of a matcher, in front of a quoted text. -/
theorem prints_matchKind (kind : MatchKind) :
    Prints kind.symbol [kind.token] ('\x22' :: rest) := by
  cases kind with
  | equal => exact Lexes.of_readLexeme [] rfl rfl
  | notEqual => exact Lexes.of_readLexeme ['='] rfl rfl
  | like => exact Lexes.of_readLexeme ['~'] rfl rfl
  | unlike => exact Lexes.of_readLexeme ['~'] rfl rfl

theorem prints_matcher {matcher : LabelMatcher} (label : isWord matcher.label.toList = true)
    (plain : Text.IsPlain matcher.condition.text) :
    Prints matcher.render matcher.tokens rest := by
  have quoted : ∀ rest, ∃ more,
      (Text.quoted matcher.condition.text).toList ++ rest = '\x22' :: more := by
    intro rest
    rw [Text.quoted, String.toList_ofList]
    exact ⟨_, rfl⟩
  have operator : Prints matcher.condition.kind.symbol [matcher.condition.kind.token]
      ((Text.quoted matcher.condition.text).toList ++ rest) := by
    obtain ⟨more, same⟩ := quoted rest
    rw [same]
    exact prints_matchKind _
  have front : Prints matcher.label [word matcher.label] (matcher.condition.kind.symbol.toList ++
      ((Text.quoted matcher.condition.text).toList ++ rest)) := by
    refine Prints.word label ?_
    cases matcher.condition.kind <;> exact Text.stops_cons.2 rfl
  exact (front.append operator).append (lexes_quoted plain rest)

theorem prints_matchers {matchers : List LabelMatcher}
    (labels : ∀ matcher ∈ matchers, isWord matcher.label.toList = true)
    (plain : ∀ matcher ∈ matchers, Text.IsPlain matcher.condition.text) :
    Prints ("\x7b" ++ Text.joinWith ", " (matchers.map LabelMatcher.render) ++ "\x7d")
      (matcherTokens matchers) rest := by
  have joined : Prints (Text.joinWith ", " (matchers.map LabelMatcher.render))
      (Written.joined (matchers.map LabelMatcher.tokens)) ("\x7d".toList ++ rest) :=
    Prints.joined (fun matcher member rest _ =>
      prints_matcher (labels matcher member) (plain matcher member)) (Text.stops_cons.2 rfl)
  exact (Prints.leftBrace.append joined).append Prints.rightBrace

/-- The name and the matchers of a selector, which are nothing that goes on by itself unless
the name stands alone. -/
theorem prints_base {selector : Selector} (fits : selector.Fits)
    (plain : ∀ matcher ∈ selector.matchers, Text.IsPlain matcher.condition.text)
    (ends : Ends rest) : Prints selector.renderBase selector.baseTokens rest := by
  have matchers : Prints _ _ rest := prints_matchers fits.labels plain
  unfold Selector.renderBase Selector.baseTokens
  rw [fits.name?_eq]
  cases here : selector.name with
  | none => exact matchers
  | some name =>
    obtain ⟨word, -⟩ := fits.named name here
    cases empty : selector.matchers.isEmpty with
    | true => exact Prints.word word ends.word
    | false =>
      -- The brace ends the name.
      refine Prints.append (Prints.word word ?_) matchers
      rw [String.append_assoc, String.toList_append]
      exact Text.stops_cons.2 rfl

theorem prints_instant {instant : Instant} (proper : instant.Proper) (ends : Ends rest) :
    Prints instant.render instant.tokens rest := by
  cases instant with
  | timestamp seconds =>
    obtain ⟨finite, canonical⟩ := proper
    cases seconds with
    | finite negative significand exponent => exact prints_signed canonical ends
    | _ => cases finite
  | rangeStart =>
    have word : Prints "start" [Written.word "start"] ("(".toList ++ (")".toList ++ rest)) :=
      Prints.word rfl (Text.stops_cons.2 rfl)
    exact (word.append Prints.leftParen).append Prints.rightParen
  | rangeEnd =>
    have word : Prints "end" [Written.word "end"] ("(".toList ++ (")".toList ++ rest)) :=
      Prints.word rfl (Text.stops_cons.2 rfl)
    exact (word.append Prints.leftParen).append Prints.rightParen

theorem prints_offset (offset : Offset) (ends : Ends rest) :
    Prints offset.render offset.tokens rest := by
  have duration := prints_duration offset.duration ends.number
  unfold Offset.render Offset.tokens
  cases offset.negative with
  | false => exact Prints.empty.append duration
  | true => exact prints_minus.append duration

theorem prints_atSign : Prints " @ " [atSign] rest := by
  have alone : Prints "@" [atSign] (" ".toList ++ rest) := Prints.symbol rfl (by decide) rfl
  exact (Prints.blank.append alone).append Prints.blank

theorem prints_modifiers {modifiers : Modifiers} (proper : modifiers.Proper) (ends : Ends rest) :
    Prints modifiers.render modifiers.tokens rest := by
  obtain ⟨offset, instant⟩ := modifiers
  unfold Modifiers.render Modifiers.tokens
  cases offset with
  | none =>
    cases instant with
    | none => exact Prints.empty.append Prints.empty
    | some instant =>
      exact (prints_atSign.append (prints_instant (proper.instant instant rfl) ends)).append
        Prints.empty
  | some offset =>
    have word : Prints " offset " [Written.word "offset"] (offset.render.toList ++ rest) :=
      Prints.spacedWord rfl
    have clause := word.append (prints_offset offset ends)
    cases instant with
    | none => exact Prints.empty.append clause
    | some instant =>
      refine (prints_atSign.append (prints_instant (proper.instant instant rfl) ?_)).append clause
      rw [String.toList_append]
      exact Text.stops_cons.2 rfl

/-- The clauses of a selector begin with a blank. -/
theorem ends_modifiers (modifiers : Modifiers) (ends : Ends rest) :
    Ends (modifiers.render.toList ++ rest) := by
  obtain ⟨offset, instant⟩ := modifiers
  unfold Modifiers.render
  cases instant with
  | none =>
    cases offset with
    | none => exact ends
    | some offset =>
      rw [String.toList_append, String.toList_append]
      exact Text.stops_cons.2 rfl
  | some instant =>
    rw [String.toList_append, String.toList_append]
    exact Text.stops_cons.2 rfl

theorem prints_range (range : Duration) :
    Prints ("[" ++ range.render ++ "]") (rangeTokens range) rest := by
  have duration : Prints range.render [range.token] ("]".toList ++ rest) :=
    prints_duration range (Text.stops_cons.2 rfl)
  exact (Prints.leftBracket.append duration).append Prints.rightBracket

/-- The text of a duration begins with a digit. -/
theorem stops_duration (duration : Duration) (rest : List Char) :
    Text.Stops isWordStart (duration.render.toList ++ rest) := by
  obtain ⟨areGroups, nonempty⟩ := duration.areGroups_text
  rw [Duration.render, String.toList_ofList]
  generalize duration.text = text at areGroups nonempty
  cases areGroups with
  | nil => exact absurd rfl nonempty
  | group some_digits all member following =>
    obtain ⟨d, digits, rfl⟩ := List.exists_cons_of_ne_nil some_digits
    refine Text.stops_cons.2 ?_
    cases start : isWordStart d with
    | false => rfl
    | true =>
      have low := toNat_of_isWordStart start
      have high := Binary64.toNat_bounds_of_isDigit (all d List.mem_cons_self)
      omega

theorem prints_subqueryClause {clause : SubqueryClause} (proper : clause.Proper)
    (ends : Ends rest) : Prints clause.render clause.tokens rest := by
  obtain ⟨range, step, modifiers⟩ := clause
  have moved := prints_modifiers proper.modifiers ends
  -- Behind a colon a letter would make it a word; a duration begins with a digit.
  have colon : ∀ rest, Text.Stops isWordStart rest → Prints ":" [colon] rest :=
    fun rest stops => lexes_symbol rfl rest fun _ => stops
  have front : ∀ rest, Text.Stops isWordStart rest →
      Prints ("[" ++ range.render ++ ":") [leftBracket, range.token, Written.colon] rest := by
    intro rest stops
    have duration : Prints range.render [range.token] (":".toList ++ rest) :=
      prints_duration range (Text.stops_cons.2 rfl)
    exact (Prints.leftBracket.append duration).append (colon rest stops)
  cases step with
  | none =>
    exact (((front _ (Text.stops_cons.2 rfl)).append Prints.empty).append
      Prints.rightBracket).append moved
  | some step =>
    have duration : Prints step.render [step.token]
        ("]".toList ++ (modifiers.render.toList ++ rest)) :=
      prints_duration step (Text.stops_cons.2 rfl)
    exact (((front _ (stops_duration step _)).append duration).append
      Prints.rightBracket).append moved

/-! ## Operators -/

theorem prints_grouping {grouping : Grouping} (words : AreWords grouping.labels) :
    Prints grouping.render grouping.tokens rest := by
  cases grouping with
  | «by» labels =>
    have word : Prints " by " [Written.word "by"]
        ((renderLabels labels).toList ++ (" ".toList ++ rest)) := Prints.spacedWord rfl
    have all := (word.append (prints_labels words)).append Prints.blank
    rwa [List.append_nil] at all
  | without labels =>
    have word : Prints " without " [Written.word "without"]
        ((renderLabels labels).toList ++ (" ".toList ++ rest)) := Prints.spacedWord rfl
    have all := (word.append (prints_labels words)).append Prints.blank
    rwa [List.append_nil] at all

/-- An operator in front of a blank. -/
theorem prints_binaryOp (op : BinaryOp) : Prints op.symbol [op.token] (' ' :: rest) := by
  cases op with
  | equal => exact Lexes.of_readLexeme ['='] rfl rfl
  | notEqual => exact Lexes.of_readLexeme ['='] rfl rfl
  | greaterEqual => exact Lexes.of_readLexeme ['='] rfl rfl
  | lessEqual => exact Lexes.of_readLexeme ['='] rfl rfl
  | atan2 => exact Prints.word rfl (Text.stops_cons.2 rfl)
  | and => exact Prints.word rfl (Text.stops_cons.2 rfl)
  | or => exact Prints.word rfl (Text.stops_cons.2 rfl)
  | «unless» => exact Prints.word rfl (Text.stops_cons.2 rfl)
  | _ => exact Lexes.of_readLexeme [] rfl rfl

theorem prints_matching {op : BinaryOp} {matching : VectorMatching} (proper : matching.Proper op) :
    Prints matching.render matching.tokens rest := by
  obtain ⟨labels, group⟩ := matching
  have words := proper.labels
  have front : ∀ rest, Prints labels.render labels.tokens rest := by
    intro rest
    cases labels with
    | on labels => exact prints_wordLabels "on" rfl words
    | ignoring labels => exact prints_wordLabels "ignoring" rfl words
  cases group with
  | none => exact (front _).append Prints.empty
  | some group =>
    obtain ⟨-, taken⟩ := proper.group group rfl
    refine (front _).append ?_
    cases group with
    | left labels => exact prints_wordLabels "group_left" rfl taken
    | right labels => exact prints_wordLabels "group_right" rfl taken

/-- How operands are put together is written behind a blank. -/
theorem begins_matchingLabels (labels : MatchingLabels) (rest : List Char) :
    ∃ more, labels.render.toList ++ rest = ' ' :: more := by
  cases labels with
  | on labels => exact ⟨['o', 'n'] ++ (renderLabels labels).toList ++ rest, by
      simp [MatchingLabels.render]⟩
  | ignoring labels => exact ⟨"ignoring".toList ++ (renderLabels labels).toList ++ rest, by
      simp [MatchingLabels.render]⟩

theorem begins_matching (matching : VectorMatching) (rest : List Char) :
    ∃ more, matching.render.toList ++ rest = ' ' :: more := by
  unfold VectorMatching.render
  rw [String.toList_append, List.append_assoc]
  exact begins_matchingLabels matching.labels _

/-- An operator between blanks, with words behind it that begin with a blank. -/
theorem prints_operator {op : BinaryOp} {words : String} {tokens : List Token}
    (behind : Prints words tokens (" ".toList ++ rest))
    (begins : ∃ more, words.toList ++ (" ".toList ++ rest) = ' ' :: more) :
    Prints (" " ++ op.symbol ++ words ++ " ") (op.token :: tokens) rest := by
  obtain ⟨more, same⟩ := begins
  have operator : Prints op.symbol [op.token] (words.toList ++ (" ".toList ++ rest)) := by
    rw [same]
    exact prints_binaryOp op
  have all := ((Prints.blank.append operator).append behind).append Prints.blank
  rwa [List.append_nil] at all

theorem prints_binaryClause {clause : BinaryClause} (proper : clause.Proper) :
    Prints clause.render clause.tokens rest := by
  obtain ⟨op, returnsBool, matching⟩ := clause
  have bool : ∀ rest, Text.Stops isWordPart rest → Prints " bool" [Written.word "bool"] rest :=
    fun rest stops => Prints.blankWord rfl stops
  unfold BinaryClause.render BinaryClause.tokens BinaryClause.wordTokens
  rw [@String.append_assoc (" " ++ op.symbol)]
  cases matching with
  | none =>
    cases returnsBool with
    | false => exact prints_operator (Prints.empty.append Prints.empty) ⟨rest, rfl⟩
    | true =>
      refine prints_operator ((bool _ (Text.stops_cons.2 rfl)).append Prints.empty) ?_
      exact ⟨"bool".toList ++ (" ".toList ++ rest), by simp⟩
  | some matching =>
    have matched : ∀ rest, Prints matching.render matching.tokens rest :=
      fun rest => prints_matching (proper.matching matching rfl)
    obtain ⟨more, same⟩ := begins_matching matching (" ".toList ++ rest)
    cases returnsBool with
    | false => exact prints_operator (Prints.empty.append (matched _)) ⟨more, same⟩
    | true =>
      refine prints_operator ((bool _ ?_).append (matched _)) ?_
      · rw [same]
        exact Text.stops_cons.2 rfl
      · exact ⟨"bool".toList ++ (matching.render.toList ++ (" ".toList ++ rest)), by simp⟩

/-! ## Trees -/

/-- The texts of the node itself hold only characters that are read as they are written, and
its number is no infinity. -/
def Expr.IsSpelled : Expr → Prop
  | .number value => ∀ negative, value ≠ .infinity negative
  | .string value => Text.IsPlain value
  | .vector selector => ∀ matcher ∈ selector.matchers, Text.IsPlain matcher.condition.text
  | .matrix selector _ => ∀ matcher ∈ selector.matchers, Text.IsPlain matcher.condition.text
  | _ => True

theorem prints_number {value : Binary64} (proper : ProperNumber value)
    (finite : ∀ negative, value ≠ .infinity negative) (ends : Ends rest) :
    Prints (renderNumber value) (numberTokens value) rest := by
  rcases proper with rfl | ⟨canonical, -⟩
  · exact Prints.word rfl ends.word
  · cases value with
    | nan => exact Prints.word rfl ends.word
    | infinity negative => exact absurd rfl (finite negative)
    | finite negative significand exponent => exact prints_signed canonical ends

theorem prints_unaryOp (op : UnaryOp) : Prints op.symbol [op.token] rest := by
  cases op with
  | neg => exact Prints.symbol rfl (by decide) rfl
  | pos => exact Prints.symbol rfl (by decide) rfl

theorem isWord_symbol (op : AggregateOp) : isWord op.symbol.toList = true := by
  cases op <;> rfl

theorem ends_subqueryClause (clause : SubqueryClause) :
    Ends (clause.render.toList ++ rest) := by
  simp only [SubqueryClause.render, String.toList_append, List.append_assoc]
  exact Text.stops_cons.2 rfl

theorem ends_binaryClause (clause : BinaryClause) (text : String) :
    Ends ((clause.render ++ text).toList ++ rest) := by
  simp only [BinaryClause.render, String.toList_append, List.append_assoc]
  exact Text.stops_cons.2 rfl

theorem prints_aggregateOp (op : AggregateOp) (grouping : Option Grouping) :
    (∀ labels ∈ grouping.map Grouping.labels, AreWords labels) →
    Prints (op.symbol ++ (match grouping with
      | none => ""
      | some grouping => grouping.render) ++ "(")
      (word op.symbol :: optionalTokens Grouping.tokens grouping ++ [leftParen]) rest := by
  intro words
  have symbol : ∀ rest, Ends rest → Prints op.symbol [word op.symbol] rest :=
    fun rest ends => Prints.word (isWord_symbol op) ends.word
  cases grouping with
  | none =>
    exact ((symbol _ (Text.stops_cons.2 rfl)).append Prints.empty).append Prints.leftParen
  | some grouping =>
    refine ((symbol _ ?_).append (prints_grouping (words _ rfl))).append Prints.leftParen
    cases grouping <;>
      simp only [Grouping.render, String.toList_append, List.append_assoc] <;>
      exact Text.stops_cons.2 rfl

/-- The expression is written as its tokens in front of whatever may stand behind a tree. -/
def Expr.IsPrinted (expr : Expr) : Prop :=
  ∀ ⦃rest : List Char⦄, Ends rest → Prints expr.render expr.tokens rest

/-- What ends a tree inside parentheses. -/
theorem ends_rightParen (rest : List Char) : Ends (")".toList ++ rest) := Text.stops_cons.2 rfl

theorem prints_matrix {selector : Selector} {range : Duration} (proper : selector.Proper)
    (spelled : ∀ matcher ∈ selector.matchers, Text.IsPlain matcher.condition.text) :
    (Expr.matrix selector range).IsPrinted := by
  intro rest ends
  rw [Expr.render, Expr.tokens]
  have clauses := (prints_range range).append (prints_modifiers proper.modifiers ends)
  have begins :
      Ends (("[" ++ range.render ++ "]" ++ selector.modifiers.render).toList ++ rest) := by
    simp only [String.toList_append, List.append_assoc]
    exact Text.stops_cons.2 rfl
  have all := (prints_base proper.fits spelled begins).append clauses
  simpa only [String.append_assoc] using all

theorem prints_call {name : String} {arguments : List Expr} (word : isWord name.toList = true)
    (each : ∀ argument ∈ arguments, argument.IsPrinted) : (Expr.call name arguments).IsPrinted := by
  intro rest _
  rw [Expr.render, Expr.tokens, Expr.renderAll_eq_map, Expr.tokensAll_eq_map]
  have joined : Prints (Text.joinWith ", " (arguments.map Expr.render))
      (Written.joined (arguments.map Expr.tokens)) (")".toList ++ rest) :=
    Prints.joined (fun argument member rest ends => each argument member ends)
      (ends_rightParen rest)
  have stops : Text.Stops isWordPart ("(".toList ++
      ((Text.joinWith ", " (arguments.map Expr.render)).toList ++ (")".toList ++ rest))) :=
    Text.stops_cons.2 rfl
  exact (((Prints.word word stops).append Prints.leftParen).append joined).append Prints.rightParen

/-- The parameter of an aggregation is written with the comma behind it. -/
theorem prints_parameter {parameter : Option Expr}
    (each : ∀ expr ∈ parameter, expr.IsPrinted) (rest : List Char) :
    Prints (Expr.renderParameter parameter) (Expr.parameterTokens parameter) rest := by
  cases parameter with
  | none => exact Prints.empty
  | some expr => exact (each expr rfl (Text.stops_cons.2 rfl)).append Prints.comma

theorem prints_aggregate {op : AggregateOp} {parameter : Option Expr} {body : Expr}
    {grouping : Option Grouping} (words : ∀ labels ∈ grouping.map Grouping.labels, AreWords labels)
    (first : ∀ expr ∈ parameter, expr.IsPrinted) (operand : body.IsPrinted) :
    (Expr.aggregate op parameter body grouping).IsPrinted := by
  intro rest _
  rw [Expr.render.eq_def, Expr.tokens]
  dsimp only
  have all := (((prints_aggregateOp op grouping words).append (prints_parameter first _)).append
    (operand (ends_rightParen rest))).append Prints.rightParen
  simp only [List.append_assoc, List.cons_append, List.nil_append] at all ⊢
  exact all

/-- A tree that can be read is written as its tokens. -/
theorem prints_render {levels least : Nat} {expr : Expr} (readable : Readable levels least expr)
    (spelled : expr.Everywhere Expr.IsSpelled) (ends : Ends rest) :
    Prints expr.render expr.tokens rest := by
  -- Over the tree, for every text that may follow: what follows an operand is a clause, a
  -- comma, a parenthesis or an operator behind a blank.
  induction readable generalizing rest with
  | number proper =>
    rw [Expr.render, Expr.tokens]
    exact prints_number proper spelled.here ends
  | string value =>
    rw [Expr.render, Expr.tokens]
    exact lexes_quoted spelled.here rest
  | vector proper =>
    rw [Expr.render, Expr.tokens]
    exact (prints_base proper.fits spelled.here (ends_modifiers _ ends)).append
      (prints_modifiers proper.modifiers ends)
  | matrix proper bounded => exact prints_matrix proper spelled.here ends
  | subquery readable operand noRange proper inductionHypothesis =>
    rw [Expr.render, Expr.tokens]
    exact (inductionHypothesis (spelled.inside (by simp [Expr.children]))
      (ends_subqueryClause _)).append (prints_subqueryClause proper ends)
  | call word noNumber noAggregate known counted room readable inductionHypothesis =>
    exact prints_call word (fun argument member rest =>
      inductionHypothesis argument member (spelled.inside member)) ends
  | aggregate words takes readableParameter readable parameterHypothesis bodyHypothesis =>
    refine prints_aggregate words (fun parameter first rest => ?_) (fun rest => ?_) ends
    · cases first
      exact parameterHypothesis parameter rfl (spelled.inside (by simp [Expr.children]))
    · exact bodyHypothesis (spelled.inside (by simp [Expr.children]))
  | @binary levels least clause left right tight readableLeft loose readableRight proper admits
      leftHypothesis rightHypothesis =>
    rw [Expr.render, Expr.tokens, String.append_assoc]
    have second := rightHypothesis (spelled.inside (by simp [Expr.children])) ends
    exact (leftHypothesis (spelled.inside (by simp [Expr.children]))
      (ends_binaryClause clause _)).append ((prints_binaryClause proper).append second)
  | unary readable inductionHypothesis =>
    rw [Expr.render, Expr.tokens]
    have body := inductionHypothesis (spelled.inside (by simp [Expr.children])) ends
    exact (prints_unaryOp _).append body
  | @paren levels least body readable inductionHypothesis =>
    rw [Expr.render, Expr.tokens]
    have inside := inductionHypothesis (spelled.inside (by simp [Expr.children]))
      (ends_rightParen rest)
    exact (Prints.leftParen.append inside).append Prints.rightParen

end RuleAtlas.Query
