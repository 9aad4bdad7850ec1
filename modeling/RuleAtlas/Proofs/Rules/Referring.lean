import RuleAtlas.Proofs.Query.RoundTrip
import RuleAtlas.Proofs.Rules.Faults

/-! # References to recorded series

What a recording rule may be named is said by validation, what an expression may begin with by
the tokens of expressions.  The two agree but for the words of numbers, and for names that begin
with a colon and go on with no letter or underscore.  All other recorded series can be referred
to by their names alone. -/

namespace RuleAtlas

open Query

/-! ## Names as expressions -/

/-- The name is not the word of a number, and behind a colon at its front stands a letter or an
underscore. -/
structure IsReferable (name : String) : Prop where
  noInfinity : lowercase name ≠ "inf"
  noNan : lowercase name ≠ "nan"
  colon : ∀ rest, name.toList = ':' :: rest →
    ∃ next more, rest = next :: more ∧ (IsLetter next ∨ next = '_')

variable {name : String}

theorem isWordStart_iff {c : Char} : isWordStart c = true ↔ IsLetter c ∨ c = '_' := by
  simp [isWordStart, isAlpha_iff]

theorem isWordPart_iff {c : Char} : isWordPart c = true ↔
    IsLetter c ∨ ('0' ≤ c ∧ c ≤ '9') ∨ c = '_' ∨ c = ':' := by
  simp [isWordPart, Char.isAlphanum, isAlpha_iff, isDigit_iff, or_assoc]

/-- A name of a series is a word, unless it begins with a colon that begins no word. -/
theorem isWord_of_matchesSeriesName (series : MatchesSeriesName name)
    (referable : IsReferable name) : isWord name.toList = true := by
  obtain ⟨first, rest, characters, begins, goesOn⟩ := series
  have starts : startsWord first rest = true := by
    rw [← or_assoc] at begins
    rcases begins with letter | rfl
    · rw [startsWord, isWordStart_iff.2 letter, Bool.true_or]
    · obtain ⟨next, more, rfl, letter⟩ := referable.colon rest characters
      simp [startsWord, isWordStart_iff.2 letter]
  have all : rest.all isWordPart = true :=
    List.all_eq_true.2 fun c member => isWordPart_iff.2 (goesOn c member)
  rw [characters, isWord, starts, all]
  rfl

theorem numberWord?_of_isReferable (referable : IsReferable name) : numberWord? name = none := by
  rw [numberWord?, if_neg referable.noInfinity, if_neg referable.noNan]

/-- A word that is not that of a number stands for the series of this name. -/
theorem parse_of_isWord (word : isWord name.toList = true) (noNumber : numberWord? name = none) :
    Expr.parse name = .ok (.vector ⟨some name, [], .none⟩) := by
  let selector : Selector := ⟨some name, [], .none⟩
  have fits : selector.Fits := by
    refine ⟨fun _ member => absurd member List.not_mem_nil, fun text same => ?_, fun none => ?_⟩
    · cases same
      exact ⟨word, noNumber, rfl⟩
    · cases none
  have readable : Readable (maxLevels - 1) 0 (.vector selector) :=
    .vector ⟨fits, Modifiers.proper_none⟩
  have spelled : (Expr.vector selector).Everywhere Expr.IsSpelled :=
    .node (by simp [Expr.IsSpelled, selector]) (by simp [Expr.children])
  have written : (Expr.vector selector).tokens = [Written.word name] := by
    have base : selector.baseTokens = [Written.word name] := by
      rw [Selector.baseTokens, fits.name?_eq]
      rfl
    rw [Expr.tokens, base]
    rfl
  obtain ⟨tokens, lexed, same⟩ := Lexes.tokenize (lexes_word word Text.stops_nil)
  have alike : tokens.map Token.lexeme =
      ((Expr.vector selector).tokens ++ [Token.mk .eof "" 0]).map Token.lexeme := by
    rw [same, written]
    rfl
  exact parse_eq_ok.2
    ⟨tokens, lexed, readWhole_of_lexeme alike (readWhole_tokens readable spelled rfl)⟩

/-! ## Edges to recorded series -/

theorem refersTo_of_parse {rules : List Rule} {rule : Rule} (noAlerts : name ≠ alertsSeries)
    (nonempty : name ≠ "") (parsed : Expr.parse rule.expr = .ok (.vector ⟨some name, [], .none⟩)) :
    rule.RefersTo rules name := by
  refine ⟨_, parsed, ⟨some name, [], .none⟩, List.mem_singleton.2 rfl, name, rfl, nonempty, ?_⟩
  rw [if_neg noAlerts]

/-- A recorded series is referred to by its name: as an expression the name is a selector of
this series, and in the graph of all files that are loaded an edge leads to it from each rule
with this expression. -/
theorem recorded_referred (name : String) (series : MatchesSeriesName name)
    (noAlerts : name ≠ alertsSeries) (referable : IsReferable name) :
    Expr.parse name = .ok (.vector ⟨some name, [], .none⟩) ∧
      ∀ decode files loaded, LoadAs decode files loaded →
        ∃ graph, RuleGraph.ofGroups loaded.flatten = .ok graph ∧
          ∀ recording ∈ allRules loaded.flatten, recording.kind = .recording →
            recording.declaredName = name → ∀ rule ∈ allRules loaded.flatten, rule.expr = name →
              ⟨rule.name, name⟩ ∈ graph.edgeList := by
  have parsed := parse_of_isWord (isWord_of_matchesSeriesName series referable)
    (numberWord?_of_isReferable referable)
  refine ⟨parsed, fun decode files loaded accepted => ?_⟩
  have all := loaded_of_loadAs accepted
  obtain ⟨graph, came, describes⟩ :=
    RuleGraph.ofGroups_of_parses fun rule member => (all rule member).parses
  refine ⟨graph, came, fun recording _ _ _ rule member same => ?_⟩
  have nonempty : name ≠ "" := by
    obtain ⟨first, rest, characters, -⟩ := series
    rintro rfl
    cases characters
  exact (describes.edges rule.name name).2
    ⟨rule, member, rfl, refersTo_of_parse noAlerts nonempty (same ▸ parsed)⟩

/-- A name with a colon at its front, in another file than the rule that refers to it. -/
theorem recorded_referred_colon :
    let early := "groups:\n- name: early\n  rules:\n  - record: ':by'\n    expr: 1\n"
    let late := "groups:\n- name: late\n  rules:\n  - alert: Late\n    expr: ':by'\n"
    let groups : List (List RuleGroup) :=
      [[⟨"early", none, none, [.of .recording ":by" "1"]⟩],
       [⟨"late", none, none, [.of .alerting "Late" ":by"]⟩]]
    MatchesSeriesName ":by" ∧ IsReferable ":by" ∧
      LoadAs RuleFile.ofText [("early.yml", early), ("late.yml", late)] groups ∧
      Expr.parse ":by" = .ok (.vector ⟨some ":by", [], .none⟩) ∧
      ∃ graph, RuleGraph.ofGroups groups.flatten = .ok graph ∧
        ⟨"Late", ":by"⟩ ∈ graph.edgeList := by
  intro early late groups
  have accepted : LoadAs RuleFile.ofText [("early.yml", early), ("late.yml", late)] groups :=
    .cons (eq_ok_of_toOption (by decide +kernel))
      (.cons (eq_ok_of_toOption (by decide +kernel)) .nil)
  have series : MatchesSeriesName ":by" := isSeriesName_iff.1 (by decide +kernel)
  have referable : IsReferable ":by" := by
    refine ⟨by decide +kernel, by decide +kernel, fun rest same => ?_⟩
    cases same
    exact ⟨'b', ['y'], rfl, .inl (.inl (by decide))⟩
  obtain ⟨parsed, edges⟩ := recorded_referred ":by" series (by decide) referable
  obtain ⟨graph, came, edge⟩ := edges _ _ _ accepted
  refine ⟨series, referable, accepted, parsed, graph, came, ?_⟩
  exact edge (.of .recording ":by" "1") (by simp [allRules, groups]) rfl rfl
    (.of .alerting "Late" ":by") (by simp [allRules, groups]) rfl

/-- A series may be named as infinity is written, or with two colons at its front.  The first
name stands for a number, and the second one for nothing. -/
theorem recorded_not_referred :
    (MatchesSeriesName "inf" ∧ "inf" ≠ alertsSeries ∧
      Expr.parse "inf" = .ok (.number (.infinity false))) ∧
    (MatchesSeriesName "::a" ∧ "::a" ≠ alertsSeries ∧
      ∀ expr, Expr.parse "::a" ≠ .ok expr) := by
  have lexed : tokenize "inf" = .ok [⟨.ident, "inf", 0⟩, ⟨.eof, "", 3⟩] := by decide +kernel
  have number : Expr.parse "inf" = .ok (.number (.infinity false)) :=
    parse_eq_ok.2 ⟨_, lexed, rfl⟩
  have refused : (Expr.parse "::a").isOk = false := by decide +kernel
  refine ⟨⟨isSeriesName_iff.1 (by decide +kernel), by decide, number⟩,
    isSeriesName_iff.1 (by decide +kernel), by decide, fun expr parsed => ?_⟩
  rw [parsed] at refused
  cases refused

end RuleAtlas
