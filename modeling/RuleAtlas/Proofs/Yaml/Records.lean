import RuleAtlas.Proofs.Yaml.Decoding

/-! # Scalars, maps and records

A scalar of any type comes to the text of its value, a map of scalars to the texts of its
entries, and a record to what its fields make of the values of its keys, one after the other. -/

namespace RuleAtlas.Yaml

/-- The text of the value of a scalar; a collection has none. -/
def Node.scalarText? : Node → Option String
  | .scalar tag text style => (Decode.anyScalar tag text style).toOption.map ScalarValue.render
  | _ => none

namespace Decode

variable {β : Type} {document : Document} {state behind : DecodeState} {path : Path} {depth : Nat}

/-! ## Scalars of any type -/

/-- Only a scalar comes to a value. -/
theorem anyWith_eq_ok {inner : Option (Path → Decode Unit)} {value : ScalarValue}
    (decoded : anyWith inner path document state = .ok (some value, behind)) :
    ∃ node events, Stands document node events ∧ state.events = events ++ behind.events ∧
      node.scalarText? = some value.render := by
  rw [anyWith] at decoded
  obtain ⟨⟨event, mark⟩, start, last, inside, outside⟩ := node_eq_ok decoded
  simp only at inside
  split at inside
  · rename_i tag text style
    cases read : anyScalar tag text style with
    | error complaint =>
      rw [read] at inside
      exact absurd inside complain_ne_ok
    | ok found =>
      rw [read] at inside
      obtain ⟨same, rfl⟩ := pure_eq_ok.1 inside
      obtain rfl : found = value := Option.some.inj same
      obtain ⟨events, stands, taken⟩ := outside (.scalar tag text style mark) rfl
      exact ⟨_, events, stands, taken, by simp [Node.scalarText?, read, Except.toOption]⟩
  -- Collections are walked through for the errors in them.
  iterate 2
    split at inside
    · obtain ⟨_, _, complained, _⟩ := bind_eq_ok.1 inside
      exact absurd complained complain_ne_ok
    · cases inner with
      | none => exact absurd inside throw_ne_ok
      | some decode =>
        obtain ⟨_, _, _, ended⟩ := bind_eq_ok.1 inside
        cases (pure_eq_ok.1 ended).1
  · cases (pure_eq_ok.1 inside).1

theorem reads_scalarText :
    Reads document (scalarText depth path) fun node text => node.scalarText? = some text := by
  intro state behind text decoded
  rw [scalarText, bind_eq_ok] at decoded
  obtain ⟨value?, middle, anything, decoded⟩ := decoded
  cases value? with
  | none => exact absurd decoded complain_ne_ok
  | some value =>
    obtain ⟨rfl, rfl⟩ := pure_eq_ok.1 decoded
    cases depth with
    | zero => exact anyWith_eq_ok anything
    | succ depth => exact anyWith_eq_ok anything

/-! ## Entries -/

theorem keyStep_eq_ok {step : PathStep} (looked : keyStep document state = .ok (step, behind)) :
    behind = state := by
  rw [keyStep, bind_eq_ok] at looked
  obtain ⟨⟨event, mark⟩, _, peeked, looked⟩ := looked
  obtain ⟨more, events, rfl⟩ := peek_eq_ok peeked
  simp only at looked
  split at looked
  · exact (pure_eq_ok.1 looked).2.symm
  · exact (pure_eq_ok.1 looked).2.symm

/-- An entry is a key and, with the step that the key gives, a value. -/
theorem readsEntry {α : Type} {key : Decode α} {value : PathStep → α → Decode β}
    {ofKey : Node → α → Prop} {of : Node → Node → β → Prop} (keyReads : Reads document key ofKey)
    (valueReads : ∀ {node found step}, ofKey node found →
      Reads document (value step found) (of node)) :
    ReadsEntry document (do
      let step ← keyStep
      let found ← key
      value step found) of := by
  intro state behind last decoded
  obtain ⟨step, _, looked, entry⟩ := bind_eq_ok.1 decoded
  obtain rfl := keyStep_eq_ok looked
  obtain ⟨found, middle, keyDecoded, valueDecoded⟩ := bind_eq_ok.1 entry
  obtain ⟨keyNode, keyEvents, keyStands, split, ofKey⟩ := keyReads keyDecoded
  obtain ⟨node, events, stands, rest, holds⟩ := valueReads ofKey valueDecoded
  exact ⟨keyNode, node, keyEvents, events, keyStands, stands, by rw [split, rest], holds⟩

/-- The values of the entries are scalars, and the map holds their texts and nothing else. -/
def IsScalarMap (entries : List (Node × Node)) (map : SortedMap String String) : Prop :=
  ∀ name : String,
    (map.find? name).map some = (Node.lastValue? name.toList entries).map Node.scalarText?

theorem isNamed_scalar (tag : Option (List Char)) (text : List Char) (style : ScalarStyle)
    (name : String) :
    (Node.scalar tag text style).isNamed name.toList = true ↔ name = String.ofList text := by
  simp only [Node.isNamed, decide_eq_true_eq]
  constructor
  · rintro rfl
    exact String.ofList_toList.symm
  · rintro rfl
    exact String.toList_ofList.symm

theorem reads_scalarMap :
    Reads document (scalarMap depth path) fun node => IsScalarMap node.entries := by
  apply reads_mapping
  · intro name
    rfl
  · intro depth entries map before
    apply readsEntry reads_text
    rintro keyNode key step ⟨tag, text, style, rfl, rfl⟩
    apply Reads.map
    apply reads_scalarText.mono
    intro node value holds name
    rw [SortedMap.find?_insert, Node.lastValue?_append]
    simp only [isNamed_scalar]
    -- The entry decides about its own key, and about no other one.
    split
    · rw [Option.map_some, Option.map_some, holds]
    · exact before name

/-! ## Records -/

theorem fieldNamed_eq_ok {fields : List (RecordField β)} {name : String} {field : RecordField β}
    (found : fieldNamed fields name = .ok field) : field ∈ fields ∧ field.name = name := by
  unfold fieldNamed at found
  split at found
  · rename_i first here
    cases found
    exact ⟨List.mem_of_find?_eq_some here, by simpa using List.find?_some here⟩
  · cases found

/-- It holds of the record that is set so far. -/
def PartlyHolds (inv : List (Node × Node) → β → Prop) (entries : List (Node × Node))
    (found : Partial β) : Prop := inv entries found.record

/-- What holds of a record without entries and is kept by the decoders of the fields, each with
the entry of its name, holds of the record that is decoded and all its entries. -/
theorem reads_record {type : String} {fields : List (RecordField β)} {start : β}
    {inv : List (Node × Node) → β → Prop} (initial : inv [] start)
    (reads : ∀ field ∈ fields, ∀ {depth path tag style entries record}, inv entries record →
      Reads document (field.decode depth path record) fun value =>
        inv (entries ++ [(.scalar tag field.name.toList style, value)])) :
    Reads document (record type fields start depth path) fun node => inv node.entries := by
  unfold record
  apply Reads.map
  change Reads document _ fun node => PartlyHolds inv node.entries
  apply reads_mapping
  · exact initial
  · intro depth entries found before
    apply readsEntry reads_checkedText
    rintro keyNode field step ⟨tag, text, style, rfl, known⟩
    obtain ⟨member, name⟩ := fieldNamed_eq_ok known
    obtain rfl : field.name.toList = text := by rw [name, String.toList_ofList]
    split
    · intro state behind last decoded
      exact absurd decoded complain_ne_ok
    · apply Reads.map
      exact reads field member before

/-! ## Texts -/

/-- A text that is decoded has a root, of which the value is one. -/
theorem exists_hasRoot_of_run {α : Type} {of : Node → α → Prop} {decode : Nat → Path → Decode α}
    {source : List Char} {found : α}
    (reads : ∀ depth path, Reads (Document.ofText source) (decode depth path) of)
    (ran : run decode source = .ok found) :
    ∃ root, (Document.ofText source).HasRoot root ∧ of root found := by
  unfold run at ran
  simp only at ran
  split at ran
  · cases ran
  · rename_i value behind decoded
    obtain ⟨root, events, stands, taken, holds⟩ := reads _ _ decoded
    have same : value = found := by
      split at ran
      · cases ran
      · split at ran
        · cases ran
        · exact Except.ok.inj ran
    exact ⟨root, ⟨events, behind.events, stands, taken⟩, same ▸ holds⟩

end Decode

end RuleAtlas.Yaml
