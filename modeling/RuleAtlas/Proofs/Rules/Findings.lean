import Mathlib.Data.List.Basic
import Mathlib.Data.List.Perm.Basic
import RuleAtlas.Proofs.Rules.Faults

/-! # Everything that is wrong with a file is reported

A finding is a fault with its place in a file.  Loading a decoded file reports one failure for
each finding, which says what is wrong and where, in the order of the file: group by group, in a
group first what is wrong with the group itself and then rule by rule.  A file without findings
gives all its groups and rules. -/

namespace RuleAtlas

open Query RuleFault

/-! ## Findings -/

/-- A fault of the group at an index, or of the rule at an index in that group. -/
structure Finding where
  group : Nat
  rule : Option Nat
  fault : RuleFault
  deriving DecidableEq

namespace Finding

/-- What is wrong with a group itself comes before what is wrong with its rules. -/
def turn (finding : Finding) : Nat := finding.rule.elim 0 (· + 1)

/-- The first finding is reported before the second one. -/
def Before (first second : Finding) : Prop :=
  first.group < second.group ∨ first.group = second.group ∧
    (first.turn < second.turn ∨
      first.turn = second.turn ∧ first.fault.Before second.fault)

/-- The finding is one of the rule at an index in the group at an index. -/
def isAt (group rule : Nat) (finding : Finding) : Bool :=
  finding.group = group ∧ finding.rule = some rule

end Finding

namespace RuleFile

/-- What is wrong with a file: something is wrong with a group, for which the names of the
groups before it count, or with a rule. -/
inductive HasFinding (file : RuleFile) : Finding → Prop where
  | ofGroup {index : Nat} {group : GroupEntry} {fault : RuleFault}
      (here : file.groups[index]? = some group)
      (has : group.HasFault ((file.groups.take index).map GroupEntry.name) fault) :
      file.HasFinding ⟨index, none, fault⟩
  | ofRule {groupIndex index : Nat} {group : GroupEntry} {rule : RuleEntry} {fault : RuleFault}
      (here : file.groups[groupIndex]? = some group) (inside : group.rules[index]? = some rule)
      (has : rule.HasFault fault) : file.HasFinding ⟨groupIndex, some index, fault⟩

end RuleFile

/-! ## What is said about them -/

/-- The text says what the fault is. -/
inductive RuleFault.IsToldAs : RuleFault → String → Prop
  | emptyGroupName : IsToldAs .emptyGroupName "group name must not be empty"
  | repeatedGroup (name : String) :
    IsToldAs (.repeatedGroup name)
      ("groupname: " ++ Text.quoted name ++ " is repeated in the same file")
  | badDuration (field text : String) :
    IsToldAs (.badDuration field ⟨text⟩)
      ("invalid field '" ++ field ++ "': " ++
        ("not a valid duration string: " ++ Text.quoted text))
  | badLabelName (name : String) : IsToldAs (.badLabelName name) ("invalid label name: " ++ name)
  | badAnnotationName (name : String) :
    IsToldAs (.badAnnotationName name) ("invalid annotation name: " ++ name)
  | recordAndAlert : IsToldAs .recordAndAlert "only one of 'record' and 'alert' must be set"
  | neitherRecordNorAlert :
    IsToldAs .neitherRecordNorAlert "one of 'record' or 'alert' must be set"
  | emptyName (field : String) :
    IsToldAs (.emptyName field) ("field '" ++ field ++ "' must not be empty")
  | noExpr : IsToldAs .noExpr "field 'expr' must be set in rule"
  | badExpr (error : QueryError) :
    IsToldAs (.badExpr error) ("could not parse expression: " ++ error.toFailure.message)
  | badRecordName (name : String) :
    IsToldAs (.badRecordName name) ("invalid recording rule name: " ++ name)
  | fieldOfAlerts (field : String) :
    IsToldAs (.fieldOfAlerts field) ("invalid field '" ++ field ++ "' in recording rule")

namespace RuleFile

/-- The context says where the finding is: in which file, in which group and, if the fault is
one of a rule, in which rule, with its number and the name of its record or else of its alert. -/
inductive IsPlacedBy (origin : String) (file : RuleFile) :
    Finding → List (String × String) → Prop
  | ofGroup {index : Nat} {group : GroupEntry} {fault : RuleFault}
    (here : file.groups[index]? = some group) :
    IsPlacedBy origin file ⟨index, none, fault⟩ [("file", origin), ("group", group.name)]
  | ofRule {groupIndex index : Nat} {group : GroupEntry} {rule : RuleEntry} {fault : RuleFault}
    (here : file.groups[groupIndex]? = some group) (inside : group.rules[index]? = some rule) :
    IsPlacedBy origin file ⟨groupIndex, some index, fault⟩
      [("file", origin), ("group", group.name),
        ("rule", toString (index + 1) ++ " " ++
          Text.quoted ((rule.record.or rule.alert).getD ""))]

/-- The failure reports the finding and nothing else. -/
structure IsReportedAs (origin : String) (file : RuleFile) (finding : Finding)
    (failure : Failure) : Prop where
  kind : failure.kind = .validationFailed
  operation : failure.operation = "rules::validate"
  message : finding.fault.IsToldAs failure.message
  context : file.IsPlacedBy origin finding failure.context
  cause : failure.cause = none

end RuleFile

/-! ## Rules and groups as they are loaded -/

/-- The rule says what the entry says: it records or alerts under the name of the entry. -/
structure RuleEntry.IsLoadedAs (entry : RuleEntry) (rule : Rule) : Prop where
  declared :
    (entry.record = some rule.declaredName ∧ entry.alert = none ∧ rule.kind = .recording) ∨
    (entry.record = none ∧ entry.alert = some rule.declaredName ∧ rule.kind = .alerting)
  expr : entry.expr = some rule.expr
  holdFor : rule.holdFor = entry.holdFor
  keepFiringFor : rule.keepFiringFor = entry.keepFiringFor
  labels : rule.labels = entry.labels
  annotations : rule.annotations = entry.annotations

/-- The group has all rules of the entry, in order. -/
structure GroupEntry.IsLoadedAs (entry : GroupEntry) (group : RuleGroup) : Prop where
  name : group.name = entry.name
  interval : group.interval = entry.interval
  limit : group.limit = entry.limit
  rules : List.Forall₂ RuleEntry.IsLoadedAs entry.rules group.rules

theorem RuleEntry.isLoadedAs_toRule {entry : RuleEntry}
    (faultless : ∀ fault, ¬entry.HasFault fault) : entry.IsLoadedAs entry.toRule := by
  refine ⟨?_, ?_, rfl, rfl, rfl, rfl⟩
  · cases record : entry.record with
    | none =>
      cases alert : entry.alert with
      | none => exact absurd (.neither record alert) (faultless _)
      | some name => simp [toRule, kind, name?, record, alert]
    | some name =>
      cases alert : entry.alert with
      | none => simp [toRule, kind, name?, record]
      | some other => exact absurd (.both record alert) (faultless _)
  · cases expr : entry.expr with
    | none => exact absurd (.missing expr) (faultless _)
    | some text => simp [toRule, expr]

theorem RuleFile.isLoadedAs_toGroups {file : RuleFile}
    (faultless : ∀ finding, ¬file.HasFinding finding) :
    List.Forall₂ GroupEntry.IsLoadedAs file.groups file.toGroups := by
  refine List.forall₂_map_right_iff.2 (List.forall₂_same.2 fun group member => ?_)
  obtain ⟨groupIndex, here⟩ := List.getElem?_of_mem member
  refine ⟨rfl, rfl, rfl, ?_⟩
  refine List.forall₂_map_right_iff.2 (List.forall₂_same.2 fun rule inside => ?_)
  obtain ⟨index, there⟩ := List.getElem?_of_mem inside
  exact RuleEntry.isLoadedAs_toRule fun fault has => faultless _ (.ofRule here there has)

/-! ## The findings of a file -/

section
variable {α : Type} {items : List α}

theorem ascending_zipIdx (items : List α) :
    items.zipIdx.Pairwise fun first second => first.2 < second.2 := by
  rw [← List.pairwise_map (f := Prod.snd) (R := (· < ·)), List.zipIdx_map_snd]
  exact List.pairwise_lt_range' _

end

/-- The findings of the rules of a group. -/
def GroupEntry.ruleFindings (index : Nat) (group : GroupEntry) : List Finding :=
  group.rules.zipIdx.flatMap fun rule => rule.1.faults.map (⟨index, some rule.2, ·⟩)

/-- The findings of a group and of its rules, given the names of all groups. -/
def GroupEntry.findings (names : List String) (index : Nat) (group : GroupEntry) : List Finding :=
  (group.faults (names.take index)).map (⟨index, none, ·⟩) ++ group.ruleFindings index

def RuleFile.findings (file : RuleFile) : List Finding :=
  file.groups.zipIdx.flatMap fun group =>
    group.1.findings (file.groups.map GroupEntry.name) group.2

theorem GroupEntry.mem_ruleFindings {index : Nat} {group : GroupEntry} {finding : Finding} :
    finding ∈ group.ruleFindings index ↔
      ∃ number rule fault, group.rules[number]? = some rule ∧ rule.HasFault fault ∧
        finding = ⟨index, some number, fault⟩ := by
  simp only [ruleFindings, List.mem_flatMap, Prod.exists, List.mk_mem_zipIdx_iff_getElem?,
    List.mem_map, RuleEntry.mem_faults]
  constructor
  · rintro ⟨rule, number, inside, fault, has, rfl⟩
    exact ⟨number, rule, fault, inside, has, rfl⟩
  · rintro ⟨number, rule, fault, inside, has, rfl⟩
    exact ⟨rule, number, inside, fault, has, rfl⟩

/-- The findings that are listed are those that a file has. -/
theorem RuleFile.mem_findings {file : RuleFile} {finding : Finding} :
    finding ∈ file.findings ↔ file.HasFinding finding := by
  simp only [findings, GroupEntry.findings, List.mem_flatMap, Prod.exists,
    List.mk_mem_zipIdx_iff_getElem?, List.mem_append, List.mem_map, GroupEntry.mem_faults,
    GroupEntry.mem_ruleFindings, ← List.map_take]
  constructor
  · rintro ⟨group, index, here, ⟨fault, has, rfl⟩ | ⟨number, rule, fault, inside, has, rfl⟩⟩
    · exact .ofGroup here has
    · exact .ofRule here inside has
  · rintro (⟨here, has⟩ | ⟨here, inside, has⟩)
    · exact ⟨_, _, here, .inl ⟨_, has, rfl⟩⟩
    · exact ⟨_, _, here, .inr ⟨_, _, _, inside, has, rfl⟩⟩

theorem GroupEntry.ordered_ruleFindings (index : Nat) (group : GroupEntry) :
    (group.ruleFindings index).Pairwise Finding.Before := by
  refine List.pairwise_flatMap.2 ⟨fun rule _ => ?_, ?_⟩
  · refine List.pairwise_map.2 (rule.1.ordered_faults.imp fun before => ?_)
    exact .inr ⟨rfl, .inr ⟨rfl, before⟩⟩
  · refine (ascending_zipIdx group.rules).imp fun {first second} lower a here b there => ?_
    obtain ⟨fault, -, rfl⟩ := List.mem_map.1 here
    obtain ⟨other, -, rfl⟩ := List.mem_map.1 there
    exact .inr ⟨rfl, .inl (Nat.succ_lt_succ lower)⟩

theorem GroupEntry.ordered_findings (names : List String) (index : Nat) (group : GroupEntry) :
    (group.findings names index).Pairwise Finding.Before := by
  refine List.pairwise_append.2 ⟨?_, group.ordered_ruleFindings index, ?_⟩
  · refine List.pairwise_map.2 ((group.ordered_faults _).imp fun before => ?_)
    exact .inr ⟨rfl, .inr ⟨rfl, before⟩⟩
  · intro first here second there
    obtain ⟨fault, -, rfl⟩ := List.mem_map.1 here
    obtain ⟨number, rule, other, -, -, rfl⟩ := GroupEntry.mem_ruleFindings.1 there
    exact .inr ⟨rfl, .inl (Nat.succ_pos number)⟩

theorem GroupEntry.group_of_mem_findings {names : List String} {index : Nat} {group : GroupEntry}
    {finding : Finding} (member : finding ∈ group.findings names index) :
    finding.group = index := by
  rcases List.mem_append.1 member with here | there
  · obtain ⟨fault, -, rfl⟩ := List.mem_map.1 here
    rfl
  · obtain ⟨number, rule, fault, -, -, rfl⟩ := GroupEntry.mem_ruleFindings.1 there
    rfl

/-- Findings are listed in the order of the file. -/
theorem RuleFile.ordered_findings (file : RuleFile) : file.findings.Pairwise Finding.Before := by
  refine List.pairwise_flatMap.2 ⟨fun group _ => group.1.ordered_findings _ _, ?_⟩
  refine (ascending_zipIdx file.groups).imp fun {first second} lower a here b there => .inl ?_
  rw [GroupEntry.group_of_mem_findings here, GroupEntry.group_of_mem_findings there]
  exact lower

/-! ## What is reported for them -/

theorem RuleFault.isToldAs_message (fault : RuleFault) : fault.IsToldAs fault.message := by
  cases fault with
  | badDuration field error =>
    obtain ⟨text⟩ := error
    exact .badDuration field text
  | _ => constructor

/-- The failures of a rule in a group of the given name. -/
def RuleEntry.failures (origin group : String) (index : Nat) (rule : RuleEntry) : List Failure :=
  rule.faults.map fun fault =>
    Violation.toFailure origin ⟨group, some (index + 1, rule.name?.getD ""), fault⟩

theorem ruleViolations_eq (group : String) (start : Nat) (rules : List RuleEntry) :
    ruleViolations group (start + 1) rules = (rules.zipIdx start).flatMap fun rule =>
      rule.1.faults.map (⟨group, some (rule.2 + 1, rule.1.name?.getD ""), ·⟩) := by
  induction rules generalizing start with
  | nil => rfl
  | cons rule rules inductionHypothesis =>
    rw [ruleViolations, List.zipIdx_cons, List.flatMap_cons, inductionHypothesis (start + 1)]

/-- The names that were collected on the way to a group are those of the groups before it. -/
theorem groupViolations_eq (before : List String) (groups : List GroupEntry) :
    groupViolations before groups = (groups.zipIdx before.length).flatMap fun group =>
      (group.1.faults ((before ++ groups.map GroupEntry.name).take group.2)).map
          (⟨group.1.name, none, ·⟩) ++ ruleViolations group.1.name 1 group.1.rules := by
  induction groups generalizing before with
  | nil => rfl
  | cons group groups inductionHypothesis =>
    have behind := inductionHypothesis (before ++ [group.name])
    rw [List.length_append, List.length_singleton, List.append_assoc] at behind
    rw [groupViolations, behind, List.zipIdx_cons, List.flatMap_cons, List.map_cons,
      List.take_left]
    rfl

namespace RuleFile

variable {file : RuleFile} {group : GroupEntry} {rule : RuleEntry} {groupIndex index : Nat}
  {fault : RuleFault} {finding : Finding}

/-- The violation that a finding is, with the names of its group and of its rule. -/
def violation (file : RuleFile) (finding : Finding) : Violation :=
  let group := file.groups[finding.group]?.getD {}
  let rule := finding.rule.map fun index =>
    (index + 1, (group.rules[index]?.getD {}).name?.getD "")
  ⟨group.name, rule, finding.fault⟩

theorem violation_ofGroup (here : file.groups[index]? = some group) :
    file.violation ⟨index, none, fault⟩ = ⟨group.name, none, fault⟩ := by
  simp [violation, here]

theorem violation_ofRule (here : file.groups[groupIndex]? = some group)
    (inside : group.rules[index]? = some rule) :
    file.violation ⟨groupIndex, some index, fault⟩ =
      ⟨group.name, some (index + 1, rule.name?.getD ""), fault⟩ := by
  simp [violation, here, inside]

/-- The violations are the findings, in their order. -/
theorem violations_eq (file : RuleFile) : file.violations = file.findings.map file.violation := by
  rw [violations, groupViolations_eq, findings, List.map_flatMap]
  refine List.flatMap_congr fun group member => ?_
  have here := List.mem_zipIdx_iff_getElem?.1 member
  rw [GroupEntry.findings, List.map_append, GroupEntry.ruleFindings, ruleViolations_eq,
    List.map_flatMap, List.map_map]
  congr 1
  · exact List.map_congr_left fun fault _ => (violation_ofGroup here).symm
  · refine List.flatMap_congr fun rule inside => ?_
    rw [List.map_map]
    exact List.map_congr_left fun fault _ =>
      (violation_ofRule here (List.mem_zipIdx_iff_getElem?.1 inside)).symm

/-- The failure of a finding says what it is and where. -/
theorem isReportedAs_toFailure (origin : String) (has : file.HasFinding finding) :
    file.IsReportedAs origin finding ((file.violation finding).toFailure origin) := by
  cases has with
  | ofGroup here has =>
    rw [violation_ofGroup here]
    exact ⟨rfl, rfl, isToldAs_message _, .ofGroup here, rfl⟩
  | ofRule here inside has =>
    rw [violation_ofRule here inside]
    exact ⟨rfl, rfl, isToldAs_message _, .ofRule here inside, rfl⟩

end RuleFile

/-! ## The order leaves no choice -/

theorem RuleFault.Before.asymm {first second : RuleFault} (before : first.Before second) :
    ¬second.Before first := by
  rintro (lower | ⟨rank, lower⟩)
  · rcases before with upper | ⟨rank, -⟩ <;> omega
  · rcases before with upper | ⟨-, upper⟩
    · omega
    · have absurd := Std.TransCmp.lt_trans lower upper
      simp at absurd

theorem Finding.Before.asymm {first second : Finding} (before : first.Before second) :
    ¬second.Before first := by
  rintro (lower | ⟨group, lower | ⟨turn, lower⟩⟩)
  · rcases before with upper | ⟨group, -⟩ <;> omega
  · rcases before with upper | ⟨-, upper | ⟨turn, -⟩⟩ <;> omega
  · rcases before with upper | ⟨-, upper | ⟨-, upper⟩⟩
    · omega
    · omega
    · exact upper.asymm lower

/-- There is one way to list findings in order. -/
theorem eq_of_ordered {findings others : List Finding}
    (ordered : findings.Pairwise Finding.Before) (othersOrdered : others.Pairwise Finding.Before)
    (same : ∀ finding, finding ∈ findings ↔ finding ∈ others) : findings = others := by
  have distinct : ∀ {findings : List Finding}, findings.Pairwise Finding.Before →
      findings.Nodup := by
    intro findings ordered
    refine ordered.imp ?_
    rintro first _ before rfl
    exact before.asymm before
  refine List.Perm.eq_of_pairwise ?_ ordered othersOrdered
    ((List.perm_ext_iff_of_nodup (distinct ordered) (distinct othersOrdered)).2 same)
  intro first second _ _ before after
  exact absurd after before.asymm

/-- The findings of one rule are its own faults, whatever else is in the file. -/
theorem RuleFile.findings_at {file : RuleFile} {group : GroupEntry} {rule : RuleEntry}
    {groupIndex index : Nat} (here : file.groups[groupIndex]? = some group)
    (inside : group.rules[index]? = some rule) :
    file.findings.filter (Finding.isAt groupIndex index) =
      rule.faults.map (⟨groupIndex, some index, ·⟩) := by
  refine eq_of_ordered (file.ordered_findings.filter _) ?_ fun finding => ?_
  · refine List.pairwise_map.2 (rule.ordered_faults.imp fun before => ?_)
    exact .inr ⟨rfl, .inr ⟨rfl, before⟩⟩
  · simp only [List.mem_filter, mem_findings, List.mem_map, RuleEntry.mem_faults, Finding.isAt,
      decide_eq_true_eq]
    constructor
    · rintro ⟨⟨here⟩ | ⟨hereToo, insideToo, has⟩, rfl, sameRule⟩
      · cases sameRule
      · cases sameRule
        rw [here] at hereToo
        cases hereToo
        rw [inside] at insideToo
        cases insideToo
        exact ⟨_, has, rfl⟩
    · rintro ⟨fault, has, rfl⟩
      exact ⟨.ofRule here inside has, rfl, rfl⟩

/-! ## Loading a decoded file -/

/-- The findings are all that a file has, in its order, each with the failure that reports it.
Loading gives these failures, and if there are none it gives every group with every rule. -/
structure RuleFile.ReportsAll (origin : String) (file : RuleFile)
    (reports : List (Finding × Failure)) : Prop where
  ordered : reports.Pairwise fun report other => report.1.Before other.1
  complete : ∀ finding, finding ∈ reports.map Prod.fst ↔ file.HasFinding finding
  told : ∀ report ∈ reports, file.IsReportedAs origin report.1 report.2
  refused : reports ≠ [] → loadDecoded origin (.ok file) = .error ⟨reports.map Prod.snd⟩
  accepted : reports = [] → ∃ groups, loadDecoded origin (.ok file) = .ok groups ∧
    List.Forall₂ GroupEntry.IsLoadedAs file.groups groups

namespace RuleFile

/-- The findings with the failures of their violations. -/
def reports (origin : String) (file : RuleFile) : List (Finding × Failure) :=
  file.findings.map fun finding => (finding, (file.violation finding).toFailure origin)

theorem fst_reports (origin : String) (file : RuleFile) :
    (file.reports origin).map Prod.fst = file.findings := by
  rw [reports, List.map_map]
  exact List.map_id _

theorem snd_reports (origin : String) (file : RuleFile) :
    (file.reports origin).map Prod.snd = file.violations.map (Violation.toFailure origin) := by
  rw [reports, violations_eq, List.map_map, List.map_map]
  rfl

theorem reportsAll (origin : String) (file : RuleFile) :
    file.ReportsAll origin (file.reports origin) := by
  refine ⟨List.pairwise_map.2 file.ordered_findings, fun finding => ?_, fun report member => ?_,
    fun some_reports => ?_, fun none => ?_⟩
  · rw [fst_reports, mem_findings]
  · obtain ⟨finding, found, rfl⟩ := List.mem_map.1 member
    exact isReportedAs_toFailure origin (mem_findings.1 found)
  · rw [loadDecoded, ← snd_reports, Report.toResult, Report.hasFailures]
    simp [some_reports]
  · refine ⟨file.toGroups, ?_, isLoadedAs_toGroups fun finding has => ?_⟩
    · rw [loadDecoded, ← snd_reports, none]
      rfl
    · rw [← mem_findings, ← fst_reports origin, none] at has
      cases has

/-- The failures for one rule are its own, whatever else is in the file. -/
theorem reports_at {file : RuleFile} {group : GroupEntry} {rule : RuleEntry}
    {groupIndex index : Nat} (origin : String) (here : file.groups[groupIndex]? = some group)
    (inside : group.rules[index]? = some rule) :
    ((file.reports origin).filter fun report => report.1.isAt groupIndex index).map Prod.snd =
      rule.failures origin group.name index := by
  have own : (file.reports origin).filter (fun report => report.1.isAt groupIndex index) =
      (rule.faults.map (⟨groupIndex, some index, ·⟩)).map fun finding =>
        (finding, (file.violation finding).toFailure origin) := by
    rw [← findings_at here inside, reports, List.filter_map]
    rfl
  rw [own, RuleEntry.failures, List.map_map, List.map_map]
  refine List.map_congr_left fun fault _ => ?_
  exact congrArg (Violation.toFailure origin) (violation_ofRule here inside)

end RuleFile

/-- Loading a decoded file reports all that is wrong with it and nothing else, in order, or it
gives everything.  What is reported for a rule is a function of the name of the file, the name
of the group, the index of the rule in the group, and the rule. -/
theorem loadDecoded_reports :
    ∃ failuresOf : String → String → Nat → RuleEntry → List Failure,
      ∀ (origin : String) (file : RuleFile), ∃ reports, file.ReportsAll origin reports ∧
        ∀ groupIndex group index rule, file.groups[groupIndex]? = some group →
          group.rules[index]? = some rule →
          (reports.filter fun report => report.1.isAt groupIndex index).map Prod.snd =
            failuresOf origin group.name index rule :=
  ⟨RuleEntry.failures, fun origin file => ⟨file.reports origin, file.reportsAll origin,
    fun _ _ _ _ here inside => RuleFile.reports_at origin here inside⟩⟩

/-- Faults of two groups and of three rules. -/
theorem loadDecoded_reports_several :
    let file : RuleFile := ⟨[
      { name := "a", interval := some "5", rules := [
        { record := some "1", expr := some "x", holdFor := some "5m" },
        { record := some "b", expr := some "x" },
        { alert := some "A" }] },
      { name := "a", rules := [{ expr := some " ", labels := SortedMap.empty.insert "0" "" }] }]⟩
    ∃ reports, file.ReportsAll "rules.yml" reports ∧
      reports.map Prod.fst =
        [⟨0, none, .badDuration "interval" ⟨"5"⟩⟩, ⟨0, some 0, .badRecordName "1"⟩,
          ⟨0, some 0, .fieldOfAlerts "for"⟩, ⟨0, some 2, .noExpr⟩, ⟨1, none, .repeatedGroup "a"⟩,
          ⟨1, some 0, .neitherRecordNorAlert⟩, ⟨1, some 0, .noExpr⟩,
          ⟨1, some 0, .badLabelName "0"⟩] ∧
      reports.map (fun report => (report.2.message, report.2.context)) =
        [("invalid field 'interval': not a valid duration string: \"5\"",
            [("file", "rules.yml"), ("group", "a")]),
          ("invalid recording rule name: 1",
            [("file", "rules.yml"), ("group", "a"), ("rule", "1 \"1\"")]),
          ("invalid field 'for' in recording rule",
            [("file", "rules.yml"), ("group", "a"), ("rule", "1 \"1\"")]),
          ("field 'expr' must be set in rule",
            [("file", "rules.yml"), ("group", "a"), ("rule", "3 \"A\"")]),
          ("groupname: \"a\" is repeated in the same file",
            [("file", "rules.yml"), ("group", "a")]),
          ("one of 'record' or 'alert' must be set",
            [("file", "rules.yml"), ("group", "a"), ("rule", "1 \"\"")]),
          ("field 'expr' must be set in rule",
            [("file", "rules.yml"), ("group", "a"), ("rule", "1 \"\"")]),
          ("invalid label name: 0",
            [("file", "rules.yml"), ("group", "a"), ("rule", "1 \"\"")])] := by
  intro file
  obtain ⟨failuresOf, all⟩ := loadDecoded_reports
  obtain ⟨reports, reportsAll, -⟩ := all "rules.yml" file
  have findings : reports.map Prod.fst = file.findings :=
    eq_of_ordered (List.pairwise_map.2 reportsAll.ordered) file.ordered_findings fun finding => by
      rw [reportsAll.complete, RuleFile.mem_findings]
  have failures :
      file.violations.map (Violation.toFailure "rules.yml") = reports.map Prod.snd := by
    have some_reports : reports ≠ [] := by
      rintro rfl
      exact absurd findings (by decide +kernel)
    have refused := reportsAll.refused some_reports
    rw [loadDecoded, Report.toResult, if_pos (by decide +kernel)] at refused
    exact congrArg Report.failures (Except.error.inj refused)
  have told : reports.map (fun report => (report.2.message, report.2.context)) =
      (reports.map Prod.snd).map fun failure => (failure.message, failure.context) := by
    rw [List.map_map]
    rfl
  refine ⟨reports, reportsAll, findings.trans (by decide +kernel), ?_⟩
  rw [told, ← failures]
  decide +kernel

end RuleAtlas
