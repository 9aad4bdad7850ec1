import Mathlib.Data.List.TakeWhile
import RuleAtlas.Proofs.Graph.Building
import RuleAtlas.Rules.Catalogue

/-! # What loading makes sure of

A file in which validation finds nothing wrong gives rules that have expressions, and recording
rules whose names are those of series.  So the graph of all that was loaded exists, and in it
every rule is a node of a known type. -/

namespace RuleAtlas

open Query

/-! ## Names of series -/

def IsLetter (c : Char) : Prop := ('a' ≤ c ∧ c ≤ 'z') ∨ ('A' ≤ c ∧ c ≤ 'Z')

/-- The name is a letter, an underscore or a colon, and behind it any number of these and of
digits. -/
def MatchesSeriesName (name : String) : Prop :=
  ∃ first rest, name.toList = first :: rest ∧ (IsLetter first ∨ first = '_' ∨ first = ':') ∧
    ∀ c ∈ rest, IsLetter c ∨ ('0' ≤ c ∧ c ≤ '9') ∨ c = '_' ∨ c = ':'

theorem isLetter_of_isAlpha {c : Char} (letter : c.isAlpha = true) : IsLetter c := by
  have upperOrLower : c.isUpper = true ∨ c.isLower = true := Bool.or_eq_true_iff.1 letter
  rcases upperOrLower with upper | lower
  · exact .inr (of_decide_eq_true upper)
  · have bounds := Bool.and_eq_true_iff.1 lower
    exact .inl ⟨of_decide_eq_true bounds.1, of_decide_eq_true bounds.2⟩

theorem digit_bounds {c : Char} (digit : c.isDigit = true) : '0' ≤ c ∧ c ≤ '9' := by
  simp only [Char.isDigit, Bool.and_eq_true, decide_eq_true_eq] at digit
  exact digit

theorem matchesSeriesName_of_isSeriesName {name : String} (series : isSeriesName name = true) :
    MatchesSeriesName name := by
  have start : ∀ {c : Char}, isLabelStart c = true → IsLetter c ∨ c = '_' := by
    intro c starts
    simp only [isLabelStart, Bool.or_eq_true, beq_iff_eq] at starts
    exact starts.imp_left isLetter_of_isAlpha
  unfold isSeriesName at series
  split at series
  · cases series
  · rename_i first rest characters
    simp only [Bool.and_eq_true, Bool.or_eq_true, beq_iff_eq, List.all_eq_true] at series
    obtain ⟨begins, goesOn⟩ := series
    refine ⟨first, rest, characters, ?_, fun c member => ?_⟩
    · rcases begins with letter | colon
      · exact (start letter).imp_right .inl
      · exact .inr (.inr colon)
    · rcases goesOn c member with (letter | digit) | colon
      · exact (start letter).imp_right fun underscore => .inr (.inl underscore)
      · exact .inr (.inl (digit_bounds digit))
      · exact .inr (.inr (.inr colon))

/-- The name of a series is cut nowhere. -/
theorem Rule.name_of_matchesSeriesName {rule : Rule}
    (series : MatchesSeriesName rule.declaredName) : rule.name = rule.declaredName := by
  obtain ⟨first, rest, characters, begins, goesOn⟩ := series
  have noBrace : ∀ c ∈ rule.declaredName.toList, (c != '\x7b') = true := by
    rw [characters]
    intro c member
    rw [bne_iff_ne]
    rintro rfl
    -- A brace is behind all letters.
    rcases List.mem_cons.1 member with rfl | member
    · revert begins
      unfold IsLetter
      decide
    · have inside := goesOn _ member
      revert inside
      unfold IsLetter
      decide
  rw [Rule.name, List.takeWhile_eq_self_iff.2 noBrace, String.ofList_toList]

/-! ## Rules without faults -/

/-- A rule that was loaded has an expression, and the name of a series if it records one. -/
structure Rule.Loaded (rule : Rule) : Prop where
  parses : rule.Parses
  series : rule.kind = .recording → MatchesSeriesName rule.declaredName

theorem faultIf_eq_nil {condition : Bool} {fault : RuleFault} :
    faultIf condition fault = [] ↔ condition = false := by
  cases condition <;> simp [faultIf]

namespace RuleEntry

variable {entry : RuleEntry}

theorem parses_of_exprFaults (none : entry.exprFaults = []) : entry.toRule.Parses := by
  unfold exprFaults at none
  split at none
  · cases none
  · rename_i text here
    split at none
    · cases none
    · split at none
      · rename_i expr parsed
        refine ⟨expr, ?_⟩
        rw [toRule, here]
        exact parsed
      · cases none

/-- Of a record and an alert exactly one is there, so a recording rule has a record. -/
theorem record_of_declarationFaults (none : entry.declarationFaults = [])
    (recording : entry.kind = .recording) : ∃ name, entry.record = some name ∧ name ≠ "" := by
  obtain ⟨⟨-, neither⟩, empty⟩ := by
    simpa only [declarationFaults, List.append_eq_nil_iff, faultIf_eq_nil] using none
  cases record : entry.record with
  | none =>
    cases alert : entry.alert with
    | none => simp [record, alert] at neither
    | some alertName => simp [kind, record, alert] at recording
  | some name =>
    refine ⟨name, rfl, ?_⟩
    rintro rfl
    simp [name?, record] at empty

theorem isSeriesName_of_recordFaults (none : entry.recordFaults = []) {name : String}
    (record : entry.record = some name) (nonempty : name ≠ "") : isSeriesName name = true := by
  unfold recordFaults at none
  rw [record] at none
  obtain ⟨⟨⟨badName, -⟩, -⟩, -⟩ := by
    simpa only [List.append_eq_nil_iff, faultIf_eq_nil] using none
  simpa [String.isEmpty_iff, nonempty] using badName

theorem loaded_of_faults (none : entry.faults = []) : entry.toRule.Loaded := by
  obtain ⟨⟨⟨⟨⟨⟨declaration, expr⟩, record⟩, -⟩, -⟩, -⟩, -⟩ := by
    simpa only [faults, List.append_eq_nil_iff] using none
  refine ⟨parses_of_exprFaults expr, fun recording => ?_⟩
  obtain ⟨name, here, nonempty⟩ := record_of_declarationFaults declaration recording
  have declared : entry.toRule.declaredName = name := by simp [toRule, name?, here]
  rw [declared]
  exact matchesSeriesName_of_isSeriesName (isSeriesName_of_recordFaults record here nonempty)

end RuleEntry

/-! ## Files without violations -/

theorem faults_of_ruleViolations {group : String} {number : Nat} {entries : List RuleEntry}
    (none : ruleViolations group number entries = []) : ∀ entry ∈ entries, entry.faults = [] := by
  induction entries generalizing number with
  | nil => simp
  | cons entry entries inductionHypothesis =>
    rw [ruleViolations, List.append_eq_nil_iff, List.map_eq_nil_iff] at none
    exact List.forall_mem_cons.2 ⟨none.1, inductionHypothesis none.2⟩

theorem faults_of_groupViolations {before : List String} {groups : List GroupEntry}
    (none : groupViolations before groups = []) :
    ∀ group ∈ groups, ∀ entry ∈ group.rules, entry.faults = [] := by
  induction groups generalizing before with
  | nil => simp
  | cons group groups inductionHypothesis =>
    rw [groupViolations, List.append_eq_nil_iff, List.append_eq_nil_iff] at none
    obtain ⟨⟨-, rules⟩, others⟩ := none
    exact List.forall_mem_cons.2 ⟨faults_of_ruleViolations rules, inductionHypothesis others⟩

theorem Report.toResult_eq_ok {α : Type} {report : Report} {value result : α} :
    report.toResult value = .ok result ↔ report.failures = [] ∧ value = result := by
  unfold toResult hasFailures
  cases report.failures <;> simp

theorem loadDecoded_eq_ok {file : String} {decoded : Except Yaml.DecodeError RuleFile}
    {groups : List RuleGroup} (loaded : loadDecoded file decoded = .ok groups) :
    ∃ content, decoded = .ok content ∧ content.violations = [] ∧ groups = content.toGroups := by
  cases decoded with
  | error error => cases loaded
  | ok content =>
    obtain ⟨noFailures, rfl⟩ := Report.toResult_eq_ok.1 loaded
    exact ⟨content, rfl, List.map_eq_nil_iff.1 noFailures, rfl⟩

/-- All rules of a file that was loaded are without faults. -/
theorem loaded_of_loadDecoded {file : String} {decoded : Except Yaml.DecodeError RuleFile}
    {groups : List RuleGroup} (loaded : loadDecoded file decoded = .ok groups) :
    ∀ rule ∈ allRules groups, rule.Loaded := by
  obtain ⟨content, rfl, none, rfl⟩ := loadDecoded_eq_ok loaded
  intro rule member
  obtain ⟨group, groupMember, ruleMember⟩ := List.mem_flatMap.1 member
  obtain ⟨groupEntry, groupEntryMember, rfl⟩ := List.mem_map.1 groupMember
  obtain ⟨entry, entryMember, rfl⟩ := List.mem_map.1 ruleMember
  exact RuleEntry.loaded_of_faults
    (faults_of_groupViolations none groupEntry groupEntryMember entry entryMember)

/-! ## The graph of all files -/

/-- A rule that is there has a node, and a node that is recorded has a recording rule. -/
theorem RuleGraph.Describes.declared {rules : List Rule} {graph : RuleGraph}
    (describes : graph.Describes rules) :
    (∀ rule ∈ rules, graph.nodeType? rule.name = some .recorded ∨
      graph.nodeType? rule.name = some .alerted) ∧
    ∀ name, graph.nodeType? name = some .recorded →
      ∃ rule ∈ rules, rule.name = name ∧ rule.kind = .recording := by
  constructor
  · intro rule member
    obtain ⟨type, here⟩ := (describes.names rule.name).2 ⟨rule, member, .inl rfl⟩
    have known : type ≠ .unknown := fun unknown =>
      (describes.unknown rule.name type here).1 unknown rule member rfl
    have found : graph.nodeType? rule.name = some type := SortedMap.mem_entries_iff.1 here
    cases type with
    | recorded => exact .inl found
    | alerted => exact .inr found
    | unknown => exact absurd rfl known
  · intro name found
    have type := describes.types name .recorded (SortedMap.mem_entries_iff.2 found)
    cases kind : declaredKind? rules name with
    | none => simp [kind] at type
    | some declared =>
      cases declared with
      | recording => exact exists_of_declaredKind? kind
      | alerting => simp [kind, RuleKind.nodeType] at type

/-- The files are loaded as these groups, where their contents are decoded as said. -/
def LoadAs (decode : String → Except Yaml.DecodeError RuleFile) (files : List (String × String))
    (loaded : List (List RuleGroup)) : Prop :=
  List.Forall₂ (fun file groups => loadDecoded file.1 (decode file.2) = .ok groups) files loaded

theorem loaded_of_loadAs {decode : String → Except Yaml.DecodeError RuleFile}
    {files : List (String × String)} {loaded : List (List RuleGroup)}
    (accepted : LoadAs decode files loaded) :
    ∀ rule ∈ allRules loaded.flatten, rule.Loaded := by
  induction accepted with
  | nil => simp [allRules]
  | cons first others inductionHypothesis =>
    intro rule member
    rw [List.flatten_cons, allRules, List.flatMap_append] at member
    rcases List.mem_append.1 member with here | there
    · exact loaded_of_loadDecoded first rule here
    · exact inductionHypothesis rule there

/-- Files that are loaded, however they are decoded, have a graph.  All their rules are nodes of
it with a known type, and all its recorded nodes are names of series that their rules record. -/
theorem ofGroups_of_loadAs (decode : String → Except Yaml.DecodeError RuleFile)
    (files : List (String × String)) (loaded : List (List RuleGroup))
    (accepted : LoadAs decode files loaded) :
    ∃ graph, RuleGraph.ofGroups loaded.flatten = .ok graph ∧
      (∀ rule ∈ allRules loaded.flatten, graph.nodeType? rule.name = some .recorded ∨
        graph.nodeType? rule.name = some .alerted) ∧
      ∀ name, graph.nodeType? name = some .recorded →
        (∃ rule ∈ allRules loaded.flatten, rule.kind = .recording ∧ rule.declaredName = name) ∧
          MatchesSeriesName name := by
  have all := loaded_of_loadAs accepted
  obtain ⟨graph, came, describes⟩ :=
    RuleGraph.ofGroups_of_parses fun rule member => (all rule member).parses
  obtain ⟨known, recorded⟩ := describes.declared
  refine ⟨graph, came, known, fun name found => ?_⟩
  obtain ⟨rule, member, rfl, recording⟩ := recorded name found
  have series := (all rule member).series recording
  rw [Rule.name_of_matchesSeriesName series]
  exact ⟨⟨rule, member, recording, rfl⟩, series⟩

/-- A number as an expression, and in another file an alert whose name is cut. -/
theorem ofGroups_of_loadAs_cut :
    let early := "groups:\n- name: early\n  rules:\n  - record: a:b\n    expr: 1\n"
    let late := "groups:\n- name: late\n  rules:\n  - alert: x\x7by\n    expr: a:b > 0\n"
    let groups : List (List RuleGroup) :=
      [[⟨"early", none, none, [.of .recording "a:b" "1"]⟩],
       [⟨"late", none, none, [.of .alerting "x\x7by" "a:b > 0"]⟩]]
    LoadAs RuleFile.ofText [("early.yml", early), ("late.yml", late)] groups ∧
      ∃ graph, RuleGraph.ofGroups groups.flatten = .ok graph ∧
        (graph.nodeType? "x" = some .recorded ∨ graph.nodeType? "x" = some .alerted) := by
  intro early late groups
  have accepted : LoadAs RuleFile.ofText [("early.yml", early), ("late.yml", late)] groups :=
    .cons (eq_ok_of_toOption (by decide +kernel))
      (.cons (eq_ok_of_toOption (by decide +kernel)) .nil)
  obtain ⟨graph, came, known, -⟩ := ofGroups_of_loadAs _ _ _ accepted
  refine ⟨accepted, graph, came, ?_⟩
  exact known (.of .alerting "x\x7by" "a:b > 0") (by simp [allRules, groups])

end RuleAtlas
