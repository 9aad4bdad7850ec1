import RuleAtlas.Proofs.Rules.Loading
import RuleAtlas.Proofs.Yaml.Numbers
import RuleAtlas.Proofs.Yaml.Records

/-! # Values of labels and annotations

A file that was loaded has a root, and the labels and annotations of its rules are the texts of
the scalars that the root holds for them.  A numeral that is written for a value without quotes
is changed by this, unless it is kept as the text of its number. -/

namespace RuleAtlas

open Yaml Yaml.Decode

/-! ## Nodes of fields -/

namespace Yaml.Node

/-- The items under the last entry with this key. -/
def itemsAt (name : String) (entries : List (Node × Node)) : List Node :=
  ((lastValue? name.toList entries).map items).getD []

/-- The entries under the last entry with this key. -/
def entriesAt (name : String) (entries : List (Node × Node)) : List (Node × Node) :=
  ((lastValue? name.toList entries).map Node.entries).getD []

section
variable {tag : Option (List Char)} {style : ScalarStyle} {entries : List (Node × Node)}
  {value : Node} {name other : String}

theorem lastValue?_append_scalar :
    lastValue? other.toList (entries ++ [(.scalar tag name.toList style, value)]) =
      if other = name then some value else lastValue? other.toList entries := by
  rw [lastValue?_append]
  simp only [isNamed_scalar, String.ofList_toList]

@[simp] theorem itemsAt_append :
    itemsAt name (entries ++ [(.scalar tag name.toList style, value)]) = value.items := by
  simp [itemsAt, lastValue?_append_scalar]

@[simp] theorem entriesAt_append :
    entriesAt name (entries ++ [(.scalar tag name.toList style, value)]) = value.entries := by
  simp [entriesAt, lastValue?_append_scalar]

theorem itemsAt_append_other (apart : other ≠ name) :
    itemsAt other (entries ++ [(.scalar tag name.toList style, value)]) =
      itemsAt other entries := by
  simp [itemsAt, lastValue?_append_scalar, apart]

theorem entriesAt_append_other (apart : other ≠ name) :
    entriesAt other (entries ++ [(.scalar tag name.toList style, value)]) =
      entriesAt other entries := by
  simp [entriesAt, lastValue?_append_scalar, apart]

end

end Yaml.Node

/-! ## Rules -/

/-- The fields of a rule that hold values under names. -/
inductive ValueField where
  | labels
  | annotations
  deriving DecidableEq, Repr

namespace ValueField

def name : ValueField → String
  | .labels => "labels"
  | .annotations => "annotations"

def written : ValueField → RuleEntry → SortedMap String String
  | .labels => RuleEntry.labels
  | .annotations => RuleEntry.annotations

def values : ValueField → Rule → SortedMap String String
  | .labels => Rule.labels
  | .annotations => Rule.annotations

def set (field : ValueField) (rule : RuleEntry) (map : SortedMap String String) : RuleEntry :=
  match field with
  | .labels => { rule with labels := map }
  | .annotations => { rule with annotations := map }

theorem written_set (field other : ValueField) (rule : RuleEntry) (map : SortedMap String String) :
    other.written (field.set rule map) = if other = field then map else other.written rule := by
  cases field <;> cases other <;> rfl

theorem name_injective {field other : ValueField} (same : field.name = other.name) :
    field = other := by
  revert same
  cases field <;> cases other <;> decide

theorem values_toRule (field : ValueField) (entry : RuleEntry) :
    field.values entry.toRule = field.written entry := by
  cases field <;> rfl

end ValueField

section
variable {document : Document} {depth : Nat} {path : Path}

/-- The labels and annotations of the rule are those of the entries. -/
def RuleEntry.IsOf (entries : List (Node × Node)) (rule : RuleEntry) : Prop :=
  ∀ field : ValueField, IsScalarMap (Node.entriesAt field.name entries) (field.written rule)

section
variable {entries : List (Node × Node)} {rule : RuleEntry} {tag : Option (List Char)}
  {style : ScalarStyle} {γ : Type} {decode : Decode γ} {change : γ → RuleEntry}

/-- A field that holds no values changes none of them. -/
theorem reads_otherField {of : Node → γ → Prop} {name : String} (reads : Reads document decode of)
    (apart : name ≠ "labels" ∧ name ≠ "annotations")
    (labels : ∀ found, (change found).labels = rule.labels)
    (annotations : ∀ found, (change found).annotations = rule.annotations)
    (before : rule.IsOf entries) :
    Reads document (decode >>= fun found => pure (change found)) fun value =>
      RuleEntry.IsOf (entries ++ [(.scalar tag name.toList style, value)]) := by
  apply Reads.map
  apply reads.mono
  intro value found _ field
  have same : field.written (change found) = field.written rule := by
    cases field
    · exact labels found
    · exact annotations found
  have other : field.name ≠ name := by
    cases field
    · exact apart.1.symm
    · exact apart.2.symm
  rw [Node.entriesAt_append_other other, same]
  exact before field

/-- A field that holds values takes those of its node, and leaves the other field as it is. -/
theorem reads_valueField (field : ValueField) (before : rule.IsOf entries) :
    Reads document (scalarMap depth path >>= fun map => pure (field.set rule map)) fun value =>
      RuleEntry.IsOf (entries ++ [(.scalar tag field.name.toList style, value)]) := by
  apply Reads.map
  apply reads_scalarMap.mono
  intro value map isMap other
  rw [ValueField.written_set]
  split
  · rename_i same
    rwa [same, Node.entriesAt_append]
  · rename_i apart
    rw [Node.entriesAt_append_other fun same => apart (ValueField.name_injective same)]
    exact before other

end

theorem reads_ruleEntry :
    Reads document (RuleEntry.decode depth path) fun node => RuleEntry.IsOf node.entries := by
  apply reads_record
  · intro field name
    cases field <;> rfl
  · simp only [RuleEntry.fields, List.forall_mem_cons]
    refine ⟨?record, ?alert, ?expr, ?hold, ?keep, ?labels, ?annotations, by simp⟩
    all_goals intro depth path tag style entries rule before
    case labels => exact reads_valueField .labels before
    case annotations => exact reads_valueField .annotations before
    case expr =>
      exact reads_otherField (reads_optional reads_scalarText) (by decide) (fun _ => rfl)
        (fun _ => rfl) before
    -- The other fields are texts that may be missing.
    all_goals
      exact reads_otherField (reads_optional reads_text) (by decide) (fun _ => rfl)
        (fun _ => rfl) before

/-- The rules of the group are those of the items of its entries. -/
def GroupEntry.IsOf (entries : List (Node × Node)) (group : GroupEntry) : Prop :=
  List.Forall₂ (fun node => RuleEntry.IsOf node.entries) (Node.itemsAt "rules" entries) group.rules

section
variable {entries : List (Node × Node)} {group : GroupEntry} {tag : Option (List Char)}
  {style : ScalarStyle} {γ : Type} {decode : Decode γ} {change : γ → GroupEntry}

/-- Of the fields of a group, one holds its rules. -/
theorem reads_otherGroupField {of : Node → γ → Prop} {name : String}
    (reads : Reads document decode of) (apart : "rules" ≠ name)
    (same : ∀ found, (change found).rules = group.rules) (before : group.IsOf entries) :
    Reads document (decode >>= fun found => pure (change found)) fun value =>
      GroupEntry.IsOf (entries ++ [(.scalar tag name.toList style, value)]) := by
  apply Reads.map
  apply reads.mono
  intro value found _
  rw [GroupEntry.IsOf, Node.itemsAt_append_other apart, same]
  exact before

end

theorem reads_groupEntry :
    Reads document (GroupEntry.decode depth path) fun node => GroupEntry.IsOf node.entries := by
  apply reads_record
  · exact .nil
  · simp only [GroupEntry.fields, List.forall_mem_cons]
    refine ⟨?name, ?interval, ?limit, ?offset, ?labels, ?rules, by simp⟩
    all_goals intro depth path tag style entries group before
    case name => exact reads_otherGroupField reads_text (by decide) (fun _ => rfl) before
    case limit =>
      exact reads_otherGroupField (reads_optional reads_natural) (by decide) (fun _ => rfl) before
    case labels => exact reads_otherGroupField reads_scalarMap (by decide) (fun _ => rfl) before
    case rules =>
      apply Reads.map
      apply (reads_sequence fun _ _ => reads_ruleEntry).mono
      intro value rules all
      rwa [GroupEntry.IsOf, Node.itemsAt_append]
    -- The other fields are texts that may be missing.
    all_goals
      exact reads_otherGroupField (reads_optional reads_text) (by decide) (fun _ => rfl) before

/-- The groups of the file are those of the items of its entries. -/
def RuleFile.IsOf (entries : List (Node × Node)) (file : RuleFile) : Prop :=
  List.Forall₂ (fun node => GroupEntry.IsOf node.entries) (Node.itemsAt "groups" entries)
    file.groups

theorem reads_ruleFile :
    Reads document (RuleFile.decode depth path) fun node => RuleFile.IsOf node.entries := by
  apply reads_record
  · exact .nil
  · simp only [RuleFile.fields, List.forall_mem_cons]
    refine ⟨?groups, by simp⟩
    intro depth path tag style entries file before
    apply Reads.map
    apply (reads_sequence fun _ _ => reads_groupEntry).mono
    intro value groups all
    rwa [RuleFile.IsOf, Node.itemsAt_append]

end

/-! ## Loaded files -/

/-- A file that gives groups has a root, which the groups are those of. -/
theorem exists_hasRoot_of_loadContent {file content : String} {groups : List RuleGroup}
    (loaded : loadContent file content = .ok groups) (some_groups : groups ≠ []) :
    ∃ root decoded, (Document.ofText content.toList).HasRoot root ∧
      RuleFile.IsOf root.entries decoded ∧ groups = decoded.toGroups := by
  obtain ⟨decoded, read, -, rfl⟩ := loadDecoded_eq_ok loaded
  unfold RuleFile.ofText at read
  split at read
  · cases read
    exact absurd rfl some_groups
  · obtain ⟨root, hasRoot, isOf⟩ := exists_hasRoot_of_run (fun _ _ => reads_ruleFile) read
    exact ⟨root, decoded, hasRoot, isOf, rfl⟩

theorem getElem?_of_forall₂ {α β : Type} {related : α → β → Prop} {nodes : List α} {values : List β}
    (all : List.Forall₂ related nodes values) {index : Nat} {node : α}
    (here : nodes[index]? = some node) :
    ∃ value, values[index]? = some value ∧ related node value := by
  obtain ⟨inside, rfl⟩ := List.getElem?_eq_some_iff.1 here
  have inside' : index < values.length := all.length_eq ▸ inside
  exact ⟨values[index], List.getElem?_eq_getElem inside', all.get inside inside'⟩

/-- The steps to a value of a rule. -/
def valuePath (group rule : Nat) (field : ValueField) (name : String) : List PathStep :=
  [.key "groups".toList, .item group, .key "rules".toList, .item rule, .key field.name.toList,
    .key name.toList]

/-- A scalar that stands at the place of a value has a text, and the rule holds it. -/
theorem find?_of_at? {root node : Node} {decoded : RuleFile} (isOf : decoded.IsOf root.entries)
    {group rule : Nat} {field : ValueField} {name : String}
    (here : root.at? (valuePath group rule field name) = some node) :
    ∃ ruleGroup found text, decoded.toGroups[group]? = some ruleGroup ∧
      ruleGroup.rules[rule]? = some found ∧ (field.values found).find? name = some text ∧
      node.scalarText? = some text := by
  simp only [valuePath, Node.at?, Option.bind_eq_bind, Option.bind_eq_some_iff] at here
  obtain ⟨groups, groupsHere, groupNode, groupHere, rules, rulesHere, ruleNode, ruleHere, values,
    valuesHere, value, valueHere, same⟩ := here
  obtain rfl : value = node := Option.some.inj same
  have groupItem : (Node.itemsAt "groups" root.entries)[group]? = some groupNode := by
    rw [Node.itemsAt, ← Node.value?, groupsHere]
    exact groupHere
  obtain ⟨groupEntry, groupFound, groupOf⟩ := getElem?_of_forall₂ isOf groupItem
  have ruleItem : (Node.itemsAt "rules" groupNode.entries)[rule]? = some ruleNode := by
    rw [Node.itemsAt, ← Node.value?, rulesHere]
    exact ruleHere
  obtain ⟨ruleEntry, ruleFound, ruleOf⟩ := getElem?_of_forall₂ groupOf ruleItem
  have map := ruleOf field name
  rw [Node.entriesAt, ← Node.value?, valuesHere, Option.map_some, Option.getD_some, ← Node.value?,
    valueHere, Option.map_some, Option.map_eq_some_iff] at map
  obtain ⟨text, found, same⟩ := map
  refine ⟨groupEntry.toGroup, ruleEntry.toRule, text, ?_, ?_, ?_, same.symm⟩
  · rw [RuleFile.toGroups, List.getElem?_map, groupFound, Option.map_some]
  · rw [GroupEntry.toGroup, List.getElem?_map, ruleFound, Option.map_some]
  · rw [ValueField.values_toRule]
    exact found

/-- The text of a scalar without a tag is what is written, unless it is plain. -/
theorem scalarText?_of_not_plain {source : List Char} {style : ScalarStyle}
    (quoted : style ≠ .plain) :
    (Node.scalar none source style).scalarText? = some (String.ofList source) := by
  simp [Node.scalarText?, anyScalar, ScalarValue.of, quoted, tooWide?, Except.toOption,
    ScalarValue.render]

/-! ## A version with a zero at its end -/

/-- A rule with the same version twice, as a plain scalar and between quotes. -/
def versions : String :=
  "\x7bgroups: [\x7bname: g, rules: [\x7balert: A, expr: up, labels: \x7bplain: 1.10, quoted: '1.10'\x7d\x7d]\x7d]\x7d"

def versionGroup : RuleGroup where
  name := "g"
  interval := none
  limit := none
  rules := [{ Rule.of .alerting "A" "up" with
    labels := .ofList [("plain", "1.1"), ("quoted", "1.10")] }]

theorem load_versions : loadContent "test.rules" versions = .ok [versionGroup] :=
  Query.eq_ok_of_toOption (by decide +kernel)

theorem hasRoot_versions : ∃ root : Node, (Document.ofText versions.toList).HasRoot root ∧
    root.at? (valuePath 0 0 .labels "plain") = some (.scalar none "1.10".toList .plain) ∧
    root.at? (valuePath 0 0 .labels "quoted") =
      some (.scalar none "1.10".toList .singleQuoted) := by
  let document := Document.ofText versions.toList
  -- All events are on one line, so a mark is told by its index.
  let spot (index : Nat) : Mark := ⟨index, 0, index⟩
  have values : StandEntries document _ _ :=
    .cons rfl (.scalar none "plain".toList .plain (spot 58))
      (.scalar none "1.10".toList .plain (spot 65))
      (.cons rfl (.scalar none "quoted".toList .plain (spot 71))
        (.scalar none "1.10".toList .singleQuoted (spot 79)) .nil)
  have ruleEntries : StandEntries document _ _ :=
    .cons rfl (.scalar none "alert".toList .plain (spot 29)) (.scalar none ['A'] .plain (spot 36))
      (.cons rfl (.scalar none "expr".toList .plain (spot 39))
        (.scalar none "up".toList .plain (spot 45))
        (.cons rfl (.scalar none "labels".toList .plain (spot 49))
          (.mapping none (spot 57) ⟨.mappingEnd, spot 85⟩ values rfl) .nil))
  have rules : StandAll document _ _ :=
    .cons rfl (.mapping none (spot 28) ⟨.mappingEnd, spot 86⟩ ruleEntries rfl) .nil
  have groupEntries : StandEntries document _ _ :=
    .cons rfl (.scalar none "name".toList .plain (spot 11)) (.scalar none ['g'] .plain (spot 17))
      (.cons rfl (.scalar none "rules".toList .plain (spot 20))
        (.sequence none (spot 27) ⟨.sequenceEnd, spot 87⟩ rules rfl) .nil)
  have groups : StandAll document _ _ :=
    .cons rfl (.mapping none (spot 10) ⟨.mappingEnd, spot 88⟩ groupEntries rfl) .nil
  have stands : Stands document _ _ :=
    .mapping none (spot 0) ⟨.mappingEnd, spot 90⟩
      (.cons rfl (.scalar none "groups".toList .plain (spot 1))
        (.sequence none (spot 9) ⟨.sequenceEnd, spot 89⟩ groups rfl) .nil) rfl
  exact ⟨_, ⟨_, [], stands, by decide +kernel⟩, rfl, rfl⟩

/-! ## Numerals as values -/

/-- A rule that was loaded holds the numeral that is written for a value as the text of the value,
if the numeral is quoted or one that is kept, and in no other case. -/
theorem value_eq_numeral_iff {file content : String} {groups : List RuleGroup} {root : Node}
    (hasRoot : (Document.ofText content.toList).HasRoot root)
    (loaded : loadContent file content = .ok groups) (some_groups : groups ≠ [])
    {group rule : Nat} {field : ValueField} {name : String} {n : Binary64.Numeral}
    {style : ScalarStyle}
    (here : root.at? (valuePath group rule field name) = some (.scalar none n.text style)) :
    ∃ ruleGroup found text, groups[group]? = some ruleGroup ∧
      ruleGroup.rules[rule]? = some found ∧ (field.values found).find? name = some text ∧
      (text = String.ofList n.text ↔ (style = .plain → ScalarValue.IsKept n)) := by
  obtain ⟨other, decoded, hasOther, isOf, rfl⟩ := exists_hasRoot_of_loadContent loaded some_groups
  obtain rfl := hasRoot.unique hasOther
  obtain ⟨ruleGroup, found, text, groupFound, ruleFound, held, scalar⟩ := find?_of_at? isOf here
  refine ⟨ruleGroup, found, text, groupFound, ruleFound, held, ?_⟩
  by_cases plain : style = .plain
  · subst plain
    rw [Node.scalarText?, Option.map_eq_some_iff] at scalar
    obtain ⟨value, read, rfl⟩ := scalar
    have read : anyScalar none n.text .plain = .ok value := by
      revert read
      cases anyScalar none n.text .plain <;> simp [Except.toOption]
    rw [ScalarValue.render_eq_text_iff read]
    exact ⟨fun kept _ => kept, fun kept => kept rfl⟩
  · rw [scalarText?_of_not_plain plain] at scalar
    cases scalar
    exact iff_of_true rfl fun here => absurd here plain

/-- The numeral of the version. -/
def versionNumeral : Binary64.Numeral where
  whole := ['1']
  fraction := some ['1', '0']
  whole_ne_nil := by simp
  whole_digits := by simp [Binary64.AllDigits]
  fraction_digits := by simp [Binary64.AllDigits]

/-- The version is not kept, so the rule holds another text for it where it is plain. -/
theorem value_eq_numeral_iff_version :
    loadContent "test.rules" versions = .ok [versionGroup] ∧ [versionGroup] ≠ [] ∧
      (∃ root : Node, (Document.ofText versions.toList).HasRoot root ∧
        root.at? (valuePath 0 0 .labels "plain") =
          some (.scalar none versionNumeral.text .plain)) ∧
      ¬ScalarValue.IsKept versionNumeral := by
  obtain ⟨root, hasRoot, here, -⟩ := hasRoot_versions
  refine ⟨load_versions, by simp, ⟨root, hasRoot, here⟩, fun kept => ?_⟩
  obtain ⟨_, _, text, groupFound, ruleFound, held, same⟩ :=
    value_eq_numeral_iff (n := versionNumeral) hasRoot load_versions (by simp) here
  cases groupFound
  cases ruleFound
  have lost : text ≠ String.ofList versionNumeral.text := by
    obtain rfl : "1.1" = text := Option.some.inj held
    decide
  exact lost (same.2 fun _ => kept)

/-- A plain version loses the zero at its end, which it keeps between quotes. -/
theorem value_loses_zero : ∃ root : Node, (Document.ofText versions.toList).HasRoot root ∧
    root.at? (valuePath 0 0 .labels "plain") = some (.scalar none "1.10".toList .plain) ∧
    root.at? (valuePath 0 0 .labels "quoted") =
      some (.scalar none "1.10".toList .singleQuoted) ∧
    loadContent "test.rules" versions = .ok [versionGroup] ∧
    ∀ rule ∈ versionGroup.rules, rule.labels.find? "plain" = some "1.1" ∧
      rule.labels.find? "quoted" = some "1.10" := by
  obtain ⟨root, hasRoot, plain, quoted⟩ := hasRoot_versions
  refine ⟨root, hasRoot, plain, quoted, load_versions, ?_⟩
  decide +kernel

end RuleAtlas
