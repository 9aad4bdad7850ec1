import RuleAtlas.Proofs.Query.Durations

/-! # Which texts are durations

A duration is spelled by amounts, each a number and a unit.  The units come in the order of
their table, from the longest to the shortest, and none of them twice.  Reading such a text adds
up its amounts, and it is refused where the sum does not stay below the limit; every other text
but the zero without a unit is refused too.  The sum is that of natural numbers, which have no
bound. -/

namespace RuleAtlas.Query.Duration

open Binary64 (AllDigits natOfDigits)

/-! ## Amounts -/

/-- A number of units, as it is written. -/
structure Amount where
  digits : List Char
  unit : DurationUnit

def Amount.text (amount : Amount) : List Char := amount.digits ++ amount.unit.name

def Amount.millis (amount : Amount) : Nat := natOfDigits amount.digits * amount.unit.millis

def textOf (amounts : List Amount) : List Char := amounts.flatMap Amount.text

def millisOf (amounts : List Amount) : Nat := (amounts.map Amount.millis).sum

@[simp] theorem textOf_nil : textOf [] = [] := rfl

@[simp] theorem textOf_cons (amount : Amount) (amounts : List Amount) :
    textOf (amount :: amounts) = amount.digits ++ (amount.unit.name ++ textOf amounts) := by
  simp [textOf, Amount.text]

@[simp] theorem millisOf_nil : millisOf [] = 0 := rfl

@[simp] theorem millisOf_cons (amount : Amount) (amounts : List Amount) :
    millisOf (amount :: amounts) = amount.millis + millisOf amounts := rfl

/-- Every amount has digits, and the units are some of the given ones, in the same order and
none of them twice. -/
structure Falling (units : List DurationUnit) (amounts : List Amount) : Prop where
  numbers : ∀ amount ∈ amounts, amount.digits ≠ [] ∧ AllDigits amount.digits
  ordered : (amounts.map Amount.unit).Sublist units

/-- The text is the zero without a unit, or amounts that add up to these milliseconds. -/
def Spells (text : List Char) (millis : Nat) : Prop :=
  (text = ['0'] ∧ millis = 0) ∨
    ∃ amounts, amounts ≠ [] ∧ Falling durationUnits amounts ∧ text = textOf amounts ∧
      millis = millisOf amounts

section
variable {units : List DurationUnit} {unit : DurationUnit} {amounts : List Amount}
variable {amount : Amount}

theorem Falling.nil : Falling units [] := ⟨by simp, List.nil_sublist units⟩

/-- A unit that no amount has. -/
theorem Falling.skip (falling : Falling units amounts) : Falling (unit :: units) amounts :=
  ⟨falling.numbers, falling.ordered.cons unit⟩

theorem Falling.take (number : amount.digits ≠ [] ∧ AllDigits amount.digits)
    (falling : Falling units amounts) : Falling (amount.unit :: units) (amount :: amounts) :=
  ⟨List.forall_mem_cons.2 ⟨number, falling.numbers⟩, falling.ordered.cons_cons amount.unit⟩

/-- The first amount has the first unit, or no amount has it. -/
theorem Falling.uncons (falling : Falling (unit :: units) amounts) :
    Falling units amounts ∨ ∃ amount more, amounts = amount :: more ∧ amount.unit = unit ∧
      (amount.digits ≠ [] ∧ AllDigits amount.digits) ∧ Falling units more := by
  obtain ⟨numbers, ordered⟩ := falling
  cases amounts with
  | nil => exact .inl .nil
  | cons amount more =>
    rw [List.map_cons] at ordered
    cases ordered with
    | cons _ behind => exact .inl ⟨numbers, behind⟩
    | cons_cons _ behind =>
      obtain ⟨number, others⟩ := List.forall_mem_cons.1 numbers
      exact .inr ⟨amount, more, rfl, rfl, number, others, behind⟩

theorem Falling.tail (falling : Falling units (amount :: amounts)) : Falling units amounts :=
  ⟨(List.forall_mem_cons.1 falling.numbers).2,
    (List.sublist_cons_self _ _).trans falling.ordered⟩

theorem Falling.areGroups (falling : Falling units amounts) (subset : units ⊆ durationUnits) :
    AreGroups (textOf amounts) := by
  induction amounts with
  | nil => exact .nil
  | cons amount amounts inductionHypothesis =>
    obtain ⟨nonempty, all⟩ := falling.numbers amount List.mem_cons_self
    have member : amount.unit ∈ units := falling.ordered.subset List.mem_cons_self
    rw [textOf_cons]
    exact .group nonempty all (subset member) (inductionHypothesis falling.tail)

end

/-! ## Adding amounts up -/

/-- What is read as the first group of a text stands at its head. -/
theorem eq_of_group? {text : List Char} {group : Group} (found : group? text = some group) :
    ∃ digits, (digits ≠ [] ∧ AllDigits digits) ∧ group.value = natOfDigits digits ∧
      text = digits ++ (group.letters ++ group.rest) := by
  unfold group? at found
  simp only at found
  split at found
  · cases found
  · rename_i nonempty
    cases found
    refine ⟨text.takeWhile Char.isDigit, ⟨by simpa using nonempty, ?_⟩, rfl, ?_⟩
    · exact fun c member => List.all_eq_true.1 List.all_takeWhile c member
    · simp only [List.takeWhile_append_dropWhile]

/-- Groups that add up to a number are amounts with this sum, which stays below the limit. -/
theorem exists_amounts {units : List DurationUnit} {total millis : Nat} {text : List Char}
    (bounded : total < limit) (added : addGroups units total text = some millis) :
    ∃ amounts, Falling units amounts ∧ text = textOf amounts ∧
      millis = total + millisOf amounts ∧ millis < limit := by
  fun_induction addGroups units total text with
  | case1 =>
    cases added
    exact ⟨[], .nil, rfl, rfl, bounded⟩
  | case2 => cases added
  | case3 => cases added
  | case4 unit units total text _ group found same sum small inductionHypothesis =>
    obtain ⟨amounts, falling, behind, adds, within⟩ := inductionHypothesis small added
    obtain ⟨digits, number, value, whole⟩ := eq_of_group? found
    let amount : Amount := ⟨digits, unit⟩
    refine ⟨amount :: amounts, @Falling.take _ _ amount number falling, ?_, ?_, within⟩
    · rw [whole, same, behind, textOf_cons]
    · rw [adds, millisOf_cons, Amount.millis, ← value, Nat.add_assoc]
  | case5 => cases added
  | case6 unit units total text _ group found other inductionHypothesis =>
    obtain ⟨amounts, falling, rest⟩ := inductionHypothesis bounded added
    exact ⟨amounts, falling.skip, rest⟩

/-- The first group of a text of amounts has the unit of the first one. -/
theorem group?_textOf {amount : Amount} {amounts : List Amount}
    (number : amount.digits ≠ [] ∧ AllDigits amount.digits) (member : amount.unit ∈ durationUnits)
    (following : AreGroups (textOf amounts)) :
    group? (textOf (amount :: amounts)) =
      some ⟨natOfDigits amount.digits, amount.unit.name, textOf amounts⟩ := by
  rw [textOf_cons, group?_group number.1 number.2 member following]

/-- A unit that no amount has is passed over. -/
theorem addGroups_skip {units : List DurationUnit} {unit : DurationUnit} {amounts : List Amount}
    (subset : units ⊆ durationUnits) (other : ∀ d ∈ units, d.name ≠ unit.name)
    (falling : Falling units amounts) (total : Nat) :
    addGroups (unit :: units) total (textOf amounts) =
      addGroups units total (textOf amounts) := by
  cases amounts with
  | nil => rw [textOf_nil, addGroups_nil, addGroups_nil]
  | cons amount amounts =>
    have member : amount.unit ∈ units := falling.ordered.subset List.mem_cons_self
    have found := group?_textOf (falling.numbers amount List.mem_cons_self) (subset member)
      (falling.tail.areGroups subset)
    rw [addGroups_cons found, if_neg (other amount.unit member)]

/-- Amounts of which the sum stays below the limit are added up. -/
theorem addGroups_textOf {units : List DurationUnit} (subset : units ⊆ durationUnits)
    (distinct : units.Pairwise fun a b => b.name ≠ a.name) {amounts : List Amount}
    (falling : Falling units amounts) {total : Nat} (bounded : total + millisOf amounts < limit) :
    addGroups units total (textOf amounts) = some (total + millisOf amounts) := by
  induction units generalizing amounts total with
  | nil =>
    have nothing : amounts = [] := by simpa using falling.ordered
    rw [nothing]
    rfl
  | cons unit units inductionHypothesis =>
    have subsetTail := List.subset_of_cons_subset subset
    obtain ⟨others, distinctTail⟩ := List.pairwise_cons.1 distinct
    obtain without | ⟨amount, more, rfl, rfl, number, behind⟩ := falling.uncons
    · rw [addGroups_skip subsetTail others without]
      exact inductionHypothesis subsetTail distinctTail without bounded
    · have found := group?_textOf number (subset List.mem_cons_self) (behind.areGroups subsetTail)
      rw [millisOf_cons, ← Nat.add_assoc] at bounded ⊢
      -- A part of the sum is no larger than the sum.
      have within : total + natOfDigits amount.digits * amount.unit.millis < limit :=
        Nat.lt_of_le_of_lt (Nat.le_add_right _ _) bounded
      rw [addGroups_cons found, if_pos rfl]
      simp only
      rw [if_pos within]
      exact inductionHypothesis subsetTail distinctTail behind bounded

/-! ## Texts of durations -/

/-- Reading all groups of a text comes to a number if this is the sum of amounts that the text
consists of, and stays below the limit. -/
theorem addGroups_eq_some_iff {text : List Char} {millis : Nat} :
    addGroups durationUnits 0 text = some millis ↔ ∃ amounts, Falling durationUnits amounts ∧
      text = textOf amounts ∧ millis = millisOf amounts ∧ millis < limit := by
  constructor
  · intro added
    obtain ⟨amounts, falling, whole, adds, within⟩ := exists_amounts (by decide) added
    exact ⟨amounts, falling, whole, by rw [adds, Nat.zero_add], within⟩
  · rintro ⟨amounts, falling, rfl, rfl, within⟩
    have added : addGroups durationUnits 0 (textOf amounts) = some (0 + millisOf amounts) :=
      addGroups_textOf (List.Subset.refl durationUnits) (by decide) falling
        (by rwa [Nat.zero_add])
    rwa [Nat.zero_add] at added

theorem ofText?_eq_some_iff {text : List Char} {duration : Duration} :
    ofText? text = some duration ↔ Spells text duration.millis ∧ duration.millis < limit := by
  -- A zero may stand without a unit, all other texts have groups.
  by_cases zero : text = ['0']
  · subst zero
    have only : ∀ millis, Spells ['0'] millis → millis = 0 := by
      rintro millis (⟨-, none⟩ | ⟨amounts, -, falling, whole, -⟩)
      · exact none
      · exact absurd whole.symm (ne_zero_of_areGroups (falling.areGroups (List.Subset.refl _)))
    have read : ofText? ['0'] = some Duration.zero := rfl
    rw [read]
    constructor
    · rintro ⟨⟩
      exact ⟨.inl ⟨rfl, rfl⟩, by decide⟩
    · rintro ⟨spells, -⟩
      obtain ⟨millis⟩ := duration
      rw [only millis spells]
      rfl
  · have none : ¬ (text = ['0'] ∧ duration.millis = 0) := fun both => zero both.1
    rw [ofText?, if_neg zero, Spells, or_iff_right none]
    by_cases empty : text = []
    · subst empty
      refine iff_of_false (by simp) ?_
      rintro ⟨⟨amounts, nonempty, falling, whole, -⟩, -⟩
      obtain ⟨amount, more, rfl⟩ := List.exists_cons_of_ne_nil nonempty
      rw [textOf_cons] at whole
      exact absurd (List.append_eq_nil_iff.1 whole.symm).1
        (falling.numbers amount List.mem_cons_self).1
    · rw [if_neg (by simpa using empty), Option.map_eq_some_iff]
      simp only [addGroups_eq_some_iff]
      constructor
      · rintro ⟨millis, ⟨amounts, falling, whole, adds, within⟩, rfl⟩
        refine ⟨⟨amounts, ?_, falling, whole, adds⟩, within⟩
        rintro rfl
        exact empty whole
      · rintro ⟨⟨amounts, -, falling, whole, adds⟩, within⟩
        exact ⟨duration.millis, ⟨amounts, falling, whole, adds, within⟩, rfl⟩

/-- A text is a duration if it spells milliseconds that stay below the limit. -/
theorem parse_eq_ok_iff {text : String} {duration : Duration} : parse text = .ok duration ↔
    Spells text.toList duration.millis ∧ duration.millis < limit := by
  rw [← ofText?_eq_some_iff, parse]
  cases ofText? text.toList <;> simp

/-- Every other text is refused by name. -/
theorem parse_eq_error_iff {text : String} {error : DurationError} :
    parse text = .error error ↔ error = ⟨text⟩ ∧
      ∀ millis, Spells text.toList millis → limit ≤ millis := by
  have refused : (∀ millis, Spells text.toList millis → limit ≤ millis) ↔
      ofText? text.toList = none := by
    rw [Option.eq_none_iff_forall_ne_some]
    constructor
    · intro large duration read
      obtain ⟨spells, small⟩ := ofText?_eq_some_iff.1 read
      exact absurd small (Nat.not_lt.2 (large _ spells))
    · intro none millis spells
      by_contra small
      exact none ⟨millis⟩ (ofText?_eq_some_iff.2 ⟨spells, Nat.lt_of_not_le small⟩)
  rw [refused, parse]
  cases ofText? text.toList <;> simp [eq_comm]

end RuleAtlas.Query.Duration
