import RuleAtlas.Failure.Report
import RuleAtlas.Query.Expr.Parser
import RuleAtlas.Rules.Basic
import RuleAtlas.Rules.File

/-! # Validation of rule files

Every fault of a file is found, not only the first one.  Faults are listed in the order of the
file: those of a group, then those of its rules.  What is wrong with a rule depends on the rule
alone; a group may also repeat the name of one before it. -/

namespace RuleAtlas

open Query

/-! ## Names -/

/-- The character may begin the name of a label. -/
def isLabelStart (c : Char) : Bool := c.isAlpha || c == '_'

/-- The text is the name of a label: letters, digits and underscores, no digit first. -/
def isLabelName (name : String) : Bool :=
  match name.toList with
  | [] => false
  | first :: rest => isLabelStart first && rest.all fun c => isLabelStart c || c.isDigit

/-- The text is the name of a series: like that of a label, with colons too. -/
def isSeriesName (name : String) : Bool :=
  match name.toList with
  | [] => false
  | first :: rest =>
    (isLabelStart first || first == ':') &&
      rest.all fun c => isLabelStart c || c.isDigit || c == ':'

/-! ## Faults -/

inductive RuleFault where
  | emptyGroupName
  | repeatedGroup (name : String)
  | badDuration (field : String) (error : DurationError)
  | badLabelName (name : String)
  | badAnnotationName (name : String)
  | recordAndAlert
  | neitherRecordNorAlert
  | emptyName (field : String)
  | noExpr
  | badExpr (error : QueryError)
  | badRecordName (name : String)
  | fieldOfAlerts (field : String)
  deriving DecidableEq, Repr, Inhabited

def RuleFault.message : RuleFault → String
  | .emptyGroupName => "group name must not be empty"
  | .repeatedGroup name => "groupname: " ++ Text.quoted name ++ " is repeated in the same file"
  | .badDuration field error => "invalid field '" ++ field ++ "': " ++ error.message
  | .badLabelName name => "invalid label name: " ++ name
  | .badAnnotationName name => "invalid annotation name: " ++ name
  | .recordAndAlert => "only one of 'record' and 'alert' must be set"
  | .neitherRecordNorAlert => "one of 'record' or 'alert' must be set"
  | .emptyName field => "field '" ++ field ++ "' must not be empty"
  | .noExpr => "field 'expr' must be set in rule"
  | .badExpr error => "could not parse expression: " ++ error.toFailure.message
  | .badRecordName name => "invalid recording rule name: " ++ name
  | .fieldOfAlerts field => "invalid field '" ++ field ++ "' in recording rule"

/-- The fault of a field that is set and holds no duration. -/
def durationFaults (field : String) (text : Option String) : List RuleFault :=
  match text with
  | none => []
  | some text =>
    match Duration.parse text with
    | .ok _ => []
    | .error error => [.badDuration field error]

/-- The faults of the keys of a map that are no names of labels, in the order of the keys. -/
def nameFaults (fault : String → RuleFault) (map : SortedMap String String) : List RuleFault :=
  (map.keys.filter (!isLabelName ·)).map fault

/-- A fault if a condition holds. -/
def faultIf (condition : Bool) (fault : RuleFault) : List RuleFault :=
  if condition then [fault] else []

/-! ## Rules -/

namespace RuleEntry

/-- The kind of the rule; one that says nothing is a recording rule. -/
def kind (rule : RuleEntry) : RuleKind :=
  if rule.record.isNone && rule.alert.isSome then .alerting else .recording

/-- The name that the rule declares, of a record before that of an alert. -/
def name? (rule : RuleEntry) : Option String := rule.record.or rule.alert

/-- The faults of what the rule declares: one of a record and an alert, with a name. -/
def declarationFaults (rule : RuleEntry) : List RuleFault :=
  faultIf (rule.record.isSome && rule.alert.isSome) .recordAndAlert ++
    faultIf (rule.record.isNone && rule.alert.isNone) .neitherRecordNorAlert ++
    faultIf (rule.name? == some "")
      (.emptyName (if rule.kind = .recording then "record" else "alert"))

def exprFaults (rule : RuleEntry) : List RuleFault :=
  match rule.expr with
  | none => [.noExpr]
  | some expr =>
    if expr.toList.all Text.isBlank then [.noExpr]
    else
      match Expr.parse expr with
      | .ok _ => []
      | .error error => [.badExpr error]

/-- The faults of a rule that declares a record: it has the name of a series, and none of what
only alerts have. -/
def recordFaults (rule : RuleEntry) : List RuleFault :=
  match rule.record with
  | none => []
  | some name =>
    faultIf (!name.isEmpty && !isSeriesName name) (.badRecordName name) ++
      faultIf rule.holdFor.isSome (.fieldOfAlerts "for") ++
      faultIf rule.keepFiringFor.isSome (.fieldOfAlerts "keep_firing_for") ++
      faultIf (!rule.annotations.isEmpty) (.fieldOfAlerts "annotations")

def faults (rule : RuleEntry) : List RuleFault :=
  rule.declarationFaults ++ rule.exprFaults ++ rule.recordFaults ++
    durationFaults "for" rule.holdFor ++
    durationFaults "keep_firing_for" rule.keepFiringFor ++
    nameFaults .badLabelName rule.labels ++ nameFaults .badAnnotationName rule.annotations

def toRule (rule : RuleEntry) : Rule where
  kind := rule.kind
  declaredName := rule.name?.getD ""
  expr := rule.expr.getD ""
  holdFor := rule.holdFor
  keepFiringFor := rule.keepFiringFor
  labels := rule.labels
  annotations := rule.annotations

end RuleEntry

/-! ## Groups -/

namespace GroupEntry

/-- The fault of the name of a group, given the names before it. -/
def headFaults (before : List String) (group : GroupEntry) : List RuleFault :=
  if group.name.isEmpty then [.emptyGroupName]
  else faultIf (before.contains group.name) (.repeatedGroup group.name)

/-- The faults of a group without those of its rules, given the names before it. -/
def faults (before : List String) (group : GroupEntry) : List RuleFault :=
  group.headFaults before ++ durationFaults "interval" group.interval ++
    durationFaults "query_offset" group.queryOffset ++ nameFaults .badLabelName group.labels

def toGroup (group : GroupEntry) : RuleGroup where
  name := group.name
  interval := group.interval
  limit := group.limit
  rules := group.rules.map RuleEntry.toRule

end GroupEntry

/-! ## Files -/

/-- A fault with the group where it was found, and the number and name of the rule if it was
found in one. -/
structure Violation where
  group : String
  rule : Option (Nat × String)
  fault : RuleFault
  deriving DecidableEq, Repr, Inhabited

def Violation.toFailure (file : String) (violation : Violation) : Failure :=
  let failure :=
    (((Failure.of .validationFailed violation.fault.message).withOperation
      "rules::validate").withContext "file" file).withContext "group" violation.group
  match violation.rule with
  | none => failure
  | some (number, name) =>
    failure.withContext "rule" (toString number ++ " " ++ Text.quoted name)

/-- The violations of rules, of which the first has the given number. -/
def ruleViolations (group : String) : Nat → List RuleEntry → List Violation
  | _, [] => []
  | number, rule :: rules =>
    rule.faults.map (fun fault => ⟨group, some (number, rule.name?.getD ""), fault⟩) ++
      ruleViolations group (number + 1) rules

/-- The violations of groups, given the names of the groups before them. -/
def groupViolations : List String → List GroupEntry → List Violation
  | _, [] => []
  | before, group :: groups =>
    (group.faults before).map (⟨group.name, none, ·⟩) ++
      ruleViolations group.name 1 group.rules ++
      groupViolations (before ++ [group.name]) groups

/-- The violations of a file in the order of the file. -/
def RuleFile.violations (file : RuleFile) : List Violation := groupViolations [] file.groups

def RuleFile.toGroups (file : RuleFile) : List RuleGroup := file.groups.map GroupEntry.toGroup

end RuleAtlas
