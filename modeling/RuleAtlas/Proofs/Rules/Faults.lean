import RuleAtlas.Proofs.Rules.Loading

/-! # The faults of rules and of groups

What is wrong with a rule, or with a group apart from its rules, is said here without the checks
that find it.  The checks find all of it and nothing else, and list it in a fixed order: faults
come by their ranks, and those of names in the order of the names. -/

namespace RuleAtlas

open Query

/-! ## Names -/

theorem isAlpha_iff {c : Char} : c.isAlpha = true ↔ IsLetter c := by
  refine ⟨isLetter_of_isAlpha, fun letter => Bool.or_eq_true_iff.2 ?_⟩
  rcases letter with lower | upper
  · exact .inr (Bool.and_eq_true_iff.2 ⟨decide_eq_true lower.1, decide_eq_true lower.2⟩)
  · exact .inl (decide_eq_true upper)

theorem isDigit_iff {c : Char} : c.isDigit = true ↔ '0' ≤ c ∧ c ≤ '9' :=
  ⟨digit_bounds, fun bounds => Bool.and_eq_true_iff.2
    ⟨decide_eq_true bounds.1, decide_eq_true bounds.2⟩⟩

/-- The name is a letter or an underscore, and behind it any number of these and of digits. -/
def MatchesLabelName (name : String) : Prop :=
  ∃ first rest, name.toList = first :: rest ∧ (IsLetter first ∨ first = '_') ∧
    ∀ c ∈ rest, IsLetter c ∨ ('0' ≤ c ∧ c ≤ '9') ∨ c = '_'

theorem isLabelName_iff {name : String} : isLabelName name = true ↔ MatchesLabelName name := by
  unfold isLabelName MatchesLabelName
  cases name.toList with
  | nil => simp
  | cons first rest =>
    simp [isLabelStart, isAlpha_iff, isDigit_iff, or_assoc, or_comm (a := _ = '_')]

theorem isSeriesName_iff {name : String} : isSeriesName name = true ↔ MatchesSeriesName name := by
  unfold isSeriesName MatchesSeriesName
  cases name.toList with
  | nil => simp
  | cons first rest =>
    simp [isLabelStart, isAlpha_iff, isDigit_iff, or_assoc, or_left_comm]

/-! ## What may be wrong -/

/-- The field is set, and its text is no duration. -/
def IsNoDuration (field : Option String) (error : DurationError) : Prop :=
  ∃ text, field = some text ∧ Duration.parse text = .error error

/-- There is nothing but blanks in the text. -/
def IsBlankText (text : String) : Prop := ∀ c ∈ text.toList, Text.isBlank c = true

/-- What is wrong with a rule by itself. -/
inductive RuleEntry.HasFault (rule : RuleEntry) : RuleFault → Prop where
  | both {record alert : String} (isRecord : rule.record = some record)
      (isAlert : rule.alert = some alert) : rule.HasFault .recordAndAlert
  | neither (noRecord : rule.record = none) (noAlert : rule.alert = none) :
      rule.HasFault .neitherRecordNorAlert
  | emptyRecord (isRecord : rule.record = some "") : rule.HasFault (.emptyName "record")
  | emptyAlert (noRecord : rule.record = none) (isAlert : rule.alert = some "") :
      rule.HasFault (.emptyName "alert")
  | missing (noExpr : rule.expr = none) : rule.HasFault .noExpr
  | blank {text : String} (isExpr : rule.expr = some text) (blank : IsBlankText text) :
      rule.HasFault .noExpr
  | unparsable {text : String} {error : QueryError} (isExpr : rule.expr = some text)
      (notBlank : ¬IsBlankText text) (refused : Expr.parse text = .error error) :
      rule.HasFault (.badExpr error)
  | recordName {name : String} (isRecord : rule.record = some name) (nonempty : name ≠ "")
      (noSeries : ¬MatchesSeriesName name) : rule.HasFault (.badRecordName name)
  | recordHolds {record text : String} (isRecord : rule.record = some record)
      (holds : rule.holdFor = some text) : rule.HasFault (.fieldOfAlerts "for")
  | recordKeeps {record text : String} (isRecord : rule.record = some record)
      (keeps : rule.keepFiringFor = some text) : rule.HasFault (.fieldOfAlerts "keep_firing_for")
  | recordAnnotated {record : String} (isRecord : rule.record = some record)
      (annotated : rule.annotations ≠ .empty) : rule.HasFault (.fieldOfAlerts "annotations")
  | holdFor {error : DurationError} (noDuration : IsNoDuration rule.holdFor error) :
      rule.HasFault (.badDuration "for" error)
  | keepFiringFor {error : DurationError} (noDuration : IsNoDuration rule.keepFiringFor error) :
      rule.HasFault (.badDuration "keep_firing_for" error)
  | labelName {name : String} (isKey : name ∈ rule.labels.keys) (noLabel : ¬MatchesLabelName name) :
      rule.HasFault (.badLabelName name)
  | annotationName {name : String} (isKey : name ∈ rule.annotations.keys)
      (noLabel : ¬MatchesLabelName name) : rule.HasFault (.badAnnotationName name)

/-- What is wrong with a group that stands behind groups of these names, apart from its rules. -/
inductive GroupEntry.HasFault (before : List String) (group : GroupEntry) : RuleFault → Prop where
  | noName (empty : group.name = "") : group.HasFault before .emptyGroupName
  | repeated (nonempty : group.name ≠ "") (earlier : group.name ∈ before) :
      group.HasFault before (.repeatedGroup group.name)
  | interval {error : DurationError} (noDuration : IsNoDuration group.interval error) :
      group.HasFault before (.badDuration "interval" error)
  | queryOffset {error : DurationError} (noDuration : IsNoDuration group.queryOffset error) :
      group.HasFault before (.badDuration "query_offset" error)
  | labelName {name : String} (isKey : name ∈ group.labels.keys) (noLabel : ¬MatchesLabelName name) :
      group.HasFault before (.badLabelName name)

/-! ## The order of faults -/

namespace RuleFault

/-- The place of a fault among those of one group or of one rule: first what it is called, then
its expression, what only alerts have, its durations, and the names in it. -/
def rank : RuleFault → Nat
  | .emptyGroupName => 0
  | .repeatedGroup _ => 0
  | .recordAndAlert => 0
  | .neitherRecordNorAlert => 0
  | .emptyName _ => 1
  | .noExpr => 2
  | .badExpr _ => 2
  | .badRecordName _ => 3
  | .fieldOfAlerts field => 4 + ["for", "keep_firing_for", "annotations"].idxOf field
  | .badDuration field _ => 7 + ["interval", "query_offset", "for", "keep_firing_for"].idxOf field
  | .badLabelName _ => 11
  | .badAnnotationName _ => 12

/-- The name that orders faults of one rank. -/
def subject : RuleFault → String
  | .badLabelName name => name
  | .badAnnotationName name => name
  | _ => ""

/-- The first fault is listed before the second one. -/
def Before (first second : RuleFault) : Prop :=
  first.rank < second.rank ∨
    first.rank = second.rank ∧ compare first.subject second.subject = .lt

/-- The faults are in order, with ranks from one up to another. -/
structure Ranked (low high : Nat) (faults : List RuleFault) : Prop where
  bounds : low ≤ high
  ordered : faults.Pairwise Before
  ranks : ∀ fault ∈ faults, low ≤ fault.rank ∧ fault.rank < high

variable {low middle next high : Nat} {faults others : List RuleFault}

theorem Ranked.append (first : Ranked low middle faults) (second : Ranked next high others)
    (apart : middle ≤ next) : Ranked low high (faults ++ others) := by
  have lower := first.bounds
  have upper := second.bounds
  refine ⟨by omega, List.pairwise_append.2 ⟨first.ordered, second.ordered, ?_⟩, fun fault => ?_⟩
  · intro a here b there
    have below := (first.ranks a here).2
    have above := (second.ranks b there).1
    exact .inl (by omega)
  · rw [List.mem_append]
    rintro (here | there)
    · have ranks := first.ranks fault here
      omega
    · have ranks := second.ranks fault there
      omega

theorem ranked_nil (bounds : low ≤ high) : Ranked low high [] := ⟨bounds, .nil, by simp⟩

theorem ranked_singleton (fault : RuleFault) : Ranked fault.rank (fault.rank + 1) [fault] :=
  ⟨Nat.le_succ _, List.pairwise_singleton _ _, by simp⟩

end RuleFault

open RuleFault

/-! ## Single checks -/

section
variable {condition : Bool} {fault other : RuleFault} {field : String} {text : Option String}
  {make : String → RuleFault} {map : SortedMap String String}

theorem mem_faultIf : other ∈ faultIf condition fault ↔ condition = true ∧ other = fault := by
  cases condition <;> simp [faultIf]

theorem ranked_faultIf (condition : Bool) (fault : RuleFault) :
    Ranked fault.rank (fault.rank + 1) (faultIf condition fault) := by
  cases condition with
  | false => exact ranked_nil (Nat.le_succ _)
  | true => exact ranked_singleton fault

theorem mem_durationFaults : fault ∈ durationFaults field text ↔
    ∃ error, IsNoDuration text error ∧ fault = .badDuration field error := by
  unfold durationFaults IsNoDuration
  cases text with
  | none => simp
  | some text => cases parsed : Duration.parse text <;> simp [parsed, eq_comm]

theorem ranked_durationFaults (field : String) (text : Option String) (error : DurationError) :
    Ranked (badDuration field error).rank ((badDuration field error).rank + 1)
      (durationFaults field text) := by
  unfold durationFaults
  split
  · exact ranked_nil (Nat.le_succ _)
  · split
    · exact ranked_nil (Nat.le_succ _)
    · rename_i found _
      exact ranked_singleton (.badDuration field found)

theorem mem_nameFaults : fault ∈ nameFaults make map ↔
    ∃ name ∈ map.keys, ¬MatchesLabelName name ∧ fault = make name := by
  simp only [nameFaults, List.mem_map, List.mem_filter, Bool.not_eq_true', ← isLabelName_iff,
    Bool.not_eq_true]
  constructor
  · rintro ⟨name, ⟨isKey, noLabel⟩, rfl⟩
    exact ⟨name, isKey, noLabel, rfl⟩
  · rintro ⟨name, isKey, noLabel, rfl⟩
    exact ⟨name, ⟨isKey, noLabel⟩, rfl⟩

/-- The faults of names come in the order of the names, which is that of the keys. -/
theorem ranked_nameFaults (map : SortedMap String String) {rank : Nat}
    (ranks : ∀ name, (make name).rank = rank) (subjects : ∀ name, (make name).subject = name) :
    Ranked rank (rank + 1) (nameFaults make map) := by
  have ascending : map.keys.Pairwise fun a b => compare a b = .lt :=
    List.pairwise_map.2 map.ascending
  refine ⟨Nat.le_succ _, ?_, ?_⟩
  · refine List.pairwise_map.2 ((ascending.filter _).imp fun {a b} before => .inr ?_)
    rw [ranks, ranks, subjects, subjects]
    exact ⟨rfl, before⟩
  · intro fault member
    obtain ⟨name, -, -, rfl⟩ := mem_nameFaults.1 member
    rw [ranks]
    omega

end

/-! ## Rules -/

namespace RuleEntry

variable {rule : RuleEntry} {fault : RuleFault}

theorem mem_declarationFaults : fault ∈ rule.declarationFaults ↔
    (∃ record alert, rule.record = some record ∧ rule.alert = some alert ∧
      fault = .recordAndAlert) ∨
    (rule.record = none ∧ rule.alert = none ∧ fault = .neitherRecordNorAlert) ∨
    (rule.record = some "" ∧ fault = .emptyName "record") ∨
    (rule.record = none ∧ rule.alert = some "" ∧ fault = .emptyName "alert") := by
  simp only [declarationFaults, List.mem_append, mem_faultIf]
  cases isRecord : rule.record with
  | none => cases isAlert : rule.alert <;> simp [kind, name?, isRecord, isAlert]
  | some record => cases isAlert : rule.alert <;> simp [kind, name?, isRecord, isAlert]

theorem mem_exprFaults : fault ∈ rule.exprFaults ↔
    (rule.expr = none ∧ fault = .noExpr) ∨
    (∃ text, rule.expr = some text ∧ IsBlankText text ∧ fault = .noExpr) ∨
    (∃ text error, rule.expr = some text ∧ ¬IsBlankText text ∧ Expr.parse text = .error error ∧
      fault = .badExpr error) := by
  unfold exprFaults
  cases isExpr : rule.expr with
  | none => simp
  | some text =>
    have blank : text.toList.all Text.isBlank = true ↔ IsBlankText text := List.all_eq_true
    by_cases isBlank : IsBlankText text
    · simp [blank.2 isBlank, isBlank]
    · rw [← blank] at isBlank
      cases parsed : Expr.parse text <;> simp [← blank, isBlank, parsed, eq_comm]

theorem mem_recordFaults : fault ∈ rule.recordFaults ↔
    ∃ record, rule.record = some record ∧
      ((record ≠ "" ∧ ¬MatchesSeriesName record ∧ fault = .badRecordName record) ∨
        ((∃ text, rule.holdFor = some text) ∧ fault = .fieldOfAlerts "for") ∨
        ((∃ text, rule.keepFiringFor = some text) ∧ fault = .fieldOfAlerts "keep_firing_for") ∨
        (rule.annotations ≠ .empty ∧ fault = .fieldOfAlerts "annotations")) := by
  have annotated : rule.annotations.isEmpty = true ↔ rule.annotations = .empty := by
    rw [SortedMap.isEmpty, List.isEmpty_iff]
    exact ⟨fun none => SortedMap.ext none, fun none => by rw [none]; rfl⟩
  unfold recordFaults
  cases isRecord : rule.record with
  | none => simp
  | some record =>
    simp [mem_faultIf, ← isSeriesName_iff, ← annotated, Option.isSome_iff_exists,
      and_assoc]

/-- The checks of a rule find exactly what is wrong with it. -/
theorem mem_faults : fault ∈ rule.faults ↔ rule.HasFault fault := by
  simp only [faults, List.mem_append, mem_declarationFaults, mem_exprFaults, mem_recordFaults,
    mem_durationFaults, mem_nameFaults]
  -- List by list, in the order of the checks: each condition is that of one kind of fault.
  constructor
  · rintro ((((((found | found) | found) | found) | found) | found) | found)
    · rcases found with ⟨record, alert, isRecord, isAlert, rfl⟩ | ⟨noRecord, noAlert, rfl⟩ |
        ⟨isRecord, rfl⟩ | ⟨noRecord, isAlert, rfl⟩
      · exact .both isRecord isAlert
      · exact .neither noRecord noAlert
      · exact .emptyRecord isRecord
      · exact .emptyAlert noRecord isAlert
    · rcases found with ⟨noExpr, rfl⟩ | ⟨text, isExpr, blank, rfl⟩ |
        ⟨text, error, isExpr, notBlank, refused, rfl⟩
      · exact .missing noExpr
      · exact .blank isExpr blank
      · exact .unparsable isExpr notBlank refused
    · rcases found with ⟨record, isRecord, ⟨nonempty, noSeries, rfl⟩ | ⟨⟨text, holds⟩, rfl⟩ |
        ⟨⟨text, keeps⟩, rfl⟩ | ⟨annotated, rfl⟩⟩
      · exact .recordName isRecord nonempty noSeries
      · exact .recordHolds isRecord holds
      · exact .recordKeeps isRecord keeps
      · exact .recordAnnotated isRecord annotated
    · obtain ⟨error, noDuration, rfl⟩ := found
      exact .holdFor noDuration
    · obtain ⟨error, noDuration, rfl⟩ := found
      exact .keepFiringFor noDuration
    · obtain ⟨name, isKey, noLabel, rfl⟩ := found
      exact .labelName isKey noLabel
    · obtain ⟨name, isKey, noLabel, rfl⟩ := found
      exact .annotationName isKey noLabel
  · intro has
    cases has <;> simp_all

/-- A rule does not declare too much and too little at once. -/
theorem ranked_declarationFaults (rule : RuleEntry) : Ranked 0 2 rule.declarationFaults := by
  have both : Ranked 0 1 (faultIf rule.alert.isSome .recordAndAlert) :=
    ranked_faultIf _ .recordAndAlert
  have neither : Ranked 0 1 (faultIf rule.alert.isNone .neitherRecordNorAlert) :=
    ranked_faultIf _ .neitherRecordNorAlert
  have one : Ranked 0 1 (faultIf (rule.record.isSome && rule.alert.isSome) .recordAndAlert ++
      faultIf (rule.record.isNone && rule.alert.isNone) .neitherRecordNorAlert) := by
    cases rule.record with
    | none => exact neither
    | some record => simpa [faultIf] using both
  exact one.append (ranked_faultIf _ (.emptyName _)) (Nat.le_refl 1)

theorem ranked_exprFaults (rule : RuleEntry) : Ranked 2 3 rule.exprFaults := by
  unfold exprFaults
  split
  · exact ranked_singleton .noExpr
  · split
    · exact ranked_singleton .noExpr
    · split
      · exact ranked_nil (by decide)
      · exact ranked_singleton (.badExpr _)

theorem ranked_recordFaults (rule : RuleEntry) : Ranked 3 7 rule.recordFaults := by
  unfold recordFaults
  split
  · exact ranked_nil (by decide)
  · rename_i name _
    have badName : Ranked 3 4 (faultIf (!name.isEmpty && !isSeriesName name)
      (.badRecordName name)) := ranked_faultIf _ (.badRecordName name)
    have holds : Ranked 4 5 (faultIf rule.holdFor.isSome (.fieldOfAlerts "for")) :=
      ranked_faultIf _ (.fieldOfAlerts "for")
    have keeps : Ranked 5 6 (faultIf rule.keepFiringFor.isSome
      (.fieldOfAlerts "keep_firing_for")) := ranked_faultIf _ (.fieldOfAlerts "keep_firing_for")
    have annotated : Ranked 6 7 (faultIf (!rule.annotations.isEmpty)
      (.fieldOfAlerts "annotations")) := ranked_faultIf _ (.fieldOfAlerts "annotations")
    exact ((badName.append holds (by decide)).append keeps (by decide)).append annotated
      (by decide)

/-- The faults of a rule are listed in order. -/
theorem ordered_faults (rule : RuleEntry) : rule.faults.Pairwise Before := by
  have declaration := rule.ranked_declarationFaults
  have expr := rule.ranked_exprFaults
  have record := rule.ranked_recordFaults
  have holds : Ranked 9 10 (durationFaults "for" rule.holdFor) :=
    ranked_durationFaults "for" rule.holdFor ⟨""⟩
  have keeps : Ranked 10 11 (durationFaults "keep_firing_for" rule.keepFiringFor) :=
    ranked_durationFaults "keep_firing_for" rule.keepFiringFor ⟨""⟩
  have labels : Ranked 11 12 (nameFaults .badLabelName rule.labels) :=
    ranked_nameFaults rule.labels (fun _ => rfl) (fun _ => rfl)
  have annotations : Ranked 12 13 (nameFaults .badAnnotationName rule.annotations) :=
    ranked_nameFaults rule.annotations (fun _ => rfl) (fun _ => rfl)
  have declared := (declaration.append expr (by decide)).append record (by decide)
  have durations := (declared.append holds (by decide)).append keeps (by decide)
  exact ((durations.append labels (by decide)).append annotations (by decide)).ordered

end RuleEntry

/-! ## Groups -/

namespace GroupEntry

variable {before : List String} {group : GroupEntry} {fault : RuleFault}

theorem mem_headFaults : fault ∈ group.headFaults before ↔
    (group.name = "" ∧ fault = .emptyGroupName) ∨
    (group.name ≠ "" ∧ group.name ∈ before ∧ fault = .repeatedGroup group.name) := by
  unfold headFaults
  by_cases empty : group.name = "" <;> simp [empty, mem_faultIf]

/-- The checks of a group find exactly what is wrong with it. -/
theorem mem_faults : fault ∈ group.faults before ↔ group.HasFault before fault := by
  simp only [faults, List.mem_append, mem_headFaults, mem_durationFaults, mem_nameFaults]
  constructor
  · rintro ((((⟨empty, rfl⟩ | ⟨nonempty, earlier, rfl⟩) | ⟨error, noDuration, rfl⟩) |
      ⟨error, noDuration, rfl⟩) | ⟨name, isKey, noLabel, rfl⟩)
    · exact .noName empty
    · exact .repeated nonempty earlier
    · exact .interval noDuration
    · exact .queryOffset noDuration
    · exact .labelName isKey noLabel
  · intro has
    cases has <;> simp_all

/-- The faults of a group are listed in order. -/
theorem ordered_faults (before : List String) (group : GroupEntry) :
    (group.faults before).Pairwise Before := by
  have head : Ranked 0 1 (group.headFaults before) := by
    unfold headFaults
    split
    · exact ranked_singleton .emptyGroupName
    · exact ranked_faultIf _ (.repeatedGroup _)
  have interval : Ranked 7 8 (durationFaults "interval" group.interval) :=
    ranked_durationFaults "interval" group.interval ⟨""⟩
  have queryOffset : Ranked 8 9 (durationFaults "query_offset" group.queryOffset) :=
    ranked_durationFaults "query_offset" group.queryOffset ⟨""⟩
  have labels : Ranked 11 12 (nameFaults .badLabelName group.labels) :=
    ranked_nameFaults group.labels (fun _ => rfl) (fun _ => rfl)
  have durations := (head.append interval (by decide)).append queryOffset (by decide)
  exact (durations.append labels (by decide)).ordered

end GroupEntry

end RuleAtlas
