import RuleAtlas.Proofs.Query.Pieces
import RuleAtlas.Query.Duration

/-! # Durations read back

A duration is written as groups of digits and a unit, the units from the largest to the
smallest.  Reading the groups adds up what dividing by the units took apart, and in front of a
text that does not go on with it such a text is one token. -/

namespace RuleAtlas.Query

open Binary64 (AllDigits)

/-! ## Groups -/

/-- The text is a sequence of groups, each some digits and the name of a unit. -/
inductive AreGroups : List Char → Prop
  | nil : AreGroups []
  | group {digits more : List Char} {unit : DurationUnit} (nonempty : digits ≠ [])
      (all : AllDigits digits) (member : unit ∈ durationUnits) (following : AreGroups more) :
      AreGroups (digits ++ (unit.name ++ more))

theorem letters_of_unit {unit : DurationUnit} (member : unit ∈ durationUnits) :
    unit.name ≠ [] ∧ ∀ c ∈ unit.name, c.isAlpha = true := by
  have all : durationUnits.all (fun unit =>
      unit.name ≠ [] && unit.name.all Char.isAlpha) = true := by
    decide
  simpa using List.all_eq_true.1 all unit member

/-- The name of a unit begins no fraction, no exponent and no hexadecimal number. -/
theorem nothing_of_unit {unit : DurationUnit} (member : unit ∈ durationUnits)
    (rest : List Char) : fractionPart (unit.name ++ rest) = [] ∧
      exponentPart (unit.name ++ rest) = [] ∧
      ∀ c ∈ (unit.name ++ rest).head?, c ≠ 'x' ∧ c ≠ 'X' := by
  simp only [durationUnits, List.mem_cons, List.not_mem_nil, or_false] at member
  rcases member with rfl | rfl | rfl | rfl | rfl | rfl | rfl
  all_goals
    refine ⟨rfl, rfl, ?_⟩
    intro c here
    cases here
    decide

theorem isAlpha_of_isDigit {c : Char} (digit : c.isDigit = true) : c.isAlpha = false := by
  have bounds := Binary64.toNat_bounds_of_isDigit digit
  cases alpha : c.isAlpha with
  | false => rfl
  | true =>
    have start : isWordStart c = true := by simp [isWordStart, alpha]
    have low := toNat_of_isWordStart start
    omega

/-- Groups begin with a digit, so no letters go on in front of them. -/
theorem stops_groups {text rest : List Char} (groups : AreGroups text)
    (stops : Text.Stops Char.isAlpha rest) : Text.Stops Char.isAlpha (text ++ rest) := by
  cases groups with
  | nil => exact stops
  | group nonempty all member following =>
    obtain ⟨d, digits, rfl⟩ := List.exists_cons_of_ne_nil nonempty
    exact Text.stops_cons.2 (isAlpha_of_isDigit (all d List.mem_cons_self))

theorem stops_isDigit_of_unit {unit : DurationUnit} (member : unit ∈ durationUnits)
    (rest : List Char) : Text.Stops Char.isDigit (unit.name ++ rest) := by
  obtain ⟨nonempty, letters⟩ := letters_of_unit member
  obtain ⟨c, more, same⟩ := List.exists_cons_of_ne_nil nonempty
  rw [same] at letters ⊢
  refine Text.stops_cons.2 ?_
  cases digit : c.isDigit with
  | false => rfl
  | true =>
    have letter := letters c List.mem_cons_self
    rw [isAlpha_of_isDigit digit] at letter
    cases letter

/-! ## Groups are one token -/

theorem durationUnit?_unit {unit : DurationUnit} (member : unit ∈ durationUnits)
    {rest : List Char} (stops : Text.Stops Char.isAlpha rest) :
    durationUnit? (unit.name ++ rest) = some unit.name := by
  simp only [durationUnits, List.mem_cons, List.not_mem_nil, or_false] at member
  rcases member with rfl | rfl | rfl | rfl | rfl | rfl | rfl
  -- The unit of minutes is the beginning of that of milliseconds.
  case inr.inr.inr.inr.inl =>
    cases rest with
    | nil => rfl
    | cons c rest =>
      have differs : c ≠ 's' := by
        rintro rfl
        have free := Text.stops_cons.1 stops
        cases free
      simp [durationUnit?, differs]
  all_goals rfl

/-- Behind the first digits of groups all units are read. -/
theorem readUnits_groups {unit : DurationUnit} (member : unit ∈ durationUnits)
    {more rest : List Char} (groups : AreGroups more)
    (stops : Text.Stops sticksToNumber rest) :
    readUnits (unit.name ++ (more ++ rest)) = .found (unit.name ++ more) () := by
  have noLetter : Text.Stops Char.isAlpha rest :=
    stops.mono fun c alpha => by simp [sticksToNumber, Char.isAlphanum, alpha]
  -- Over the groups: behind a unit stand the digits of the next group, or the end.
  induction groups generalizing unit with
  | nil =>
    have noDigits := @Text.takeWhile_of_stops _ [] _ (by simp) (isDigit_of_stops stops)
    rw [List.nil_append] at noDigits
    rw [readUnits, durationUnit?_unit member (stops_groups .nil noLetter)]
    simp [noDigits]
  | @group digits more next nonempty all nextMember following inductionHypothesis =>
    have here := durationUnit?_unit member
      (stops_groups (.group nonempty all nextMember following) noLetter)
    have run := Text.takeWhile_of_stops all (stops_isDigit_of_unit nextMember (more ++ rest))
    rw [readUnits, here]
    simp only [List.drop_left, List.append_assoc, run, List.isEmpty_iff, nonempty, if_false,
      inductionHypothesis nextMember]
    simp [Reading.behind, Reading.found, Except.mapError]

/-- In front of a text that does not go on with them, groups are read as a duration. -/
theorem readNumber_groups {text rest : List Char} (groups : AreGroups text) (nonempty : text ≠ [])
    (stops : Text.Stops sticksToNumber rest) :
    readNumber (text ++ rest) = .found text .duration ∧ ∃ c ∈ text.head?, c.isDigit = true := by
  cases groups with
  | nil => exact absurd rfl nonempty
  | @group digits more unit some_digits all member following =>
    obtain ⟨first, others, rfl⟩ := List.exists_cons_of_ne_nil some_digits
    obtain ⟨noFraction, noExponent, noHexadecimal⟩ := nothing_of_unit member (more ++ rest)
    have run := Text.takeWhile_of_stops all (stops_isDigit_of_unit member (more ++ rest))
    have unitHere := durationUnit?_unit member (stops_groups following
      (stops.mono fun c alpha => by simp [sticksToNumber, Char.isAlphanum, alpha]))
    have parts : decimalParts (first :: others ++ (unit.name ++ (more ++ rest))) =
        ⟨first :: others, [], [], unit.name ++ (more ++ rest)⟩ := by
      simp only [decimalParts, run, List.drop_left, noFraction, noExponent, List.length_nil,
        List.drop_zero]
    have second := second_of_digits
      (fun c member => all c (List.mem_cons_of_mem _ member)) noHexadecimal
    refine ⟨?_, first, rfl, all first List.mem_cons_self⟩
    rw [List.cons_append] at parts
    rw [List.append_assoc, List.append_assoc, List.cons_append, readNumber_of_second second,
      readDecimal]
    simp only [parts, List.isEmpty_nil, unitHere, Option.isSome_some, Bool.and_self, if_true,
      readDuration, readUnits_groups member following stops, Reading.found]
    rw [← List.append_assoc unit.name more rest, List.drop_left, finishNumber_of_stops stops]
    rfl

theorem lexes_groups {text rest : List Char} (groups : AreGroups text) (nonempty : text ≠ [])
    (stops : Text.Stops sticksToNumber rest) : Lexes text [⟨.duration, text⟩] rest := by
  obtain ⟨read, begins⟩ := readNumber_groups groups nonempty stops
  obtain ⟨first, more, rfl⟩ := List.exists_cons_of_ne_nil nonempty
  have digit : first.isDigit = true := by simpa using begins
  obtain ⟨noGap, same⟩ := readLexeme_of_isDigit digit (more ++ rest)
  refine Lexes.of_readLexeme more noGap ?_
  rw [same, ← List.cons_append, read]
  rfl

/-! ## Groups add up -/

namespace Duration

/-- What reading a group finds in front of groups. -/
theorem group?_group {digits more : List Char} {unit : DurationUnit} (nonempty : digits ≠ [])
    (all : AllDigits digits) (member : unit ∈ durationUnits) (following : AreGroups more) :
    group? (digits ++ (unit.name ++ more)) =
      some ⟨Binary64.natOfDigits digits, unit.name, more⟩ := by
  obtain ⟨-, letters⟩ := letters_of_unit member
  have stopped := stops_isDigit_of_unit member more
  have noLetter : Text.Stops Char.isAlpha more := by
    simpa using stops_groups following (Text.stops_nil : Text.Stops Char.isAlpha [])
  simp only [group?, Text.takeWhile_of_stops all stopped, Text.dropWhile_of_stops all stopped,
    Text.takeWhile_of_stops letters noLetter, Text.dropWhile_of_stops letters noLetter,
    List.isEmpty_iff, nonempty, if_false]

theorem areGroups_groups {units : List DurationUnit} (subset : units ⊆ durationUnits)
    (millis : Nat) : AreGroups (groups units millis) := by
  induction units generalizing millis with
  | nil => exact .nil
  | cons unit units inductionHypothesis =>
    rw [groups]
    split
    · rw [List.append_assoc]
      exact .group Nat.toDigits_ne_nil (Binary64.allDigits_toDigits _)
        (subset List.mem_cons_self)
        (inductionHypothesis (List.subset_of_cons_subset subset) _)
    · exact inductionHypothesis (List.subset_of_cons_subset subset) _

/-- Behind the units of a text nothing is added. -/
theorem addGroups_nil (units : List DurationUnit) (total : Nat) :
    addGroups units total [] = some total := by
  cases units <;> rfl

/-- What the first unit makes of a text. -/
theorem addGroups_cons {unit : DurationUnit} {units : List DurationUnit} {total : Nat}
    {text : List Char} {group : Group} (found : group? text = some group) :
    addGroups (unit :: units) total text =
      if group.letters = unit.name then
        let sum := total + group.value * unit.millis
        if sum < limit then addGroups units sum group.rest else none
      else addGroups units total text := by
  cases text with
  | nil => cases found
  | cons c text =>
    rw [addGroups, found]
    exact List.cons_ne_nil c text

/-- The first group of a text belongs to one of the units, if there is a group. -/
theorem first_group {units : List DurationUnit} (subset : units ⊆ durationUnits)
    (millis : Nat) : groups units millis = [] ∨
      ∃ group, ∃ unit ∈ units, group? (groups units millis) = some group ∧
        group.letters = unit.name := by
  induction units with
  | nil => exact .inl rfl
  | cons unit units inductionHypothesis =>
    have subsetTail := List.subset_of_cons_subset subset
    rw [groups]
    split
    · right
      rw [List.append_assoc, group?_group Nat.toDigits_ne_nil (Binary64.allDigits_toDigits _)
        (subset List.mem_cons_self) (areGroups_groups subsetTail _)]
      exact ⟨_, unit, List.mem_cons_self, rfl, rfl⟩
    · refine (inductionHypothesis subsetTail).imp_right ?_
      rintro ⟨group, d, member, found, same⟩
      exact ⟨group, d, List.mem_cons_of_mem _ member, found, same⟩

/-- A unit that is not among those of the groups is passed over. -/
theorem addGroups_of_other {unit : DurationUnit} {units : List DurationUnit}
    (subset : units ⊆ durationUnits) (other : ∀ d ∈ units, d.name ≠ unit.name)
    (total millis : Nat) :
    addGroups (unit :: units) total (groups units millis) =
      addGroups units total (groups units millis) := by
  rcases first_group subset millis with nothing | ⟨group, d, member, found, same⟩
  · rw [nothing, addGroups_nil, addGroups_nil]
  · rw [addGroups_cons found, if_neg]
    rw [same]
    exact other d member

/-- What is left of a number by its largest unit can be expressed by the others. -/
theorem expressible_mod {unit : DurationUnit} {units : List DurationUnit} {millis : Nat}
    (expressible : millis = 0 ∨ ∃ other ∈ unit :: units, other.millis = 1) :
    millis % unit.millis = 0 ∨ ∃ other ∈ units, other.millis = 1 := by
  rcases expressible with rfl | ⟨other, member, one⟩
  · exact .inl (Nat.zero_mod _)
  · rcases List.mem_cons.1 member with rfl | member
    · left
      rw [one, Nat.mod_one]
    · exact .inr ⟨other, member, one⟩

/-- Reading the groups of a number of milliseconds adds it up, where the units can express it. -/
theorem addGroups_groups {units : List DurationUnit} (subset : units ⊆ durationUnits)
    (distinct : units.Pairwise fun a b => b.name ≠ a.name) {total millis : Nat}
    (expressible : millis = 0 ∨ ∃ unit ∈ units, unit.millis = 1)
    (bounded : total + millis < limit) :
    addGroups units total (groups units millis) = some (total + millis) := by
  induction units generalizing total millis with
  | nil =>
    have nothing : millis = 0 := by simpa using expressible
    rw [nothing]
    rfl
  | cons unit units inductionHypothesis =>
    have subsetTail := List.subset_of_cons_subset subset
    obtain ⟨others, distinctTail⟩ := List.pairwise_cons.1 distinct
    have expressibleTail := expressible_mod expressible
    -- A unit that fits takes its part; what it leaves is smaller, and still expressible.
    by_cases fits : unit.millis ≤ millis
    · have parts : millis / unit.millis * unit.millis + millis % unit.millis = millis := by
        rw [Nat.mul_comm]
        exact Nat.div_add_mod millis unit.millis
      have first := group?_group (Nat.toDigits_ne_nil (b := 10) (n := millis / unit.millis))
        (Binary64.allDigits_toDigits _) (subset List.mem_cons_self)
        (areGroups_groups subsetTail (millis % unit.millis))
      rw [groups, if_pos fits, List.append_assoc, addGroups_cons first, if_pos rfl]
      simp only [Binary64.natOfDigits_toDigits]
      rw [if_pos (by omega), inductionHypothesis subsetTail distinctTail expressibleTail (by omega)]
      congr 1
      omega
    · rw [Nat.mod_eq_of_lt (Nat.not_le.1 fits)] at expressibleTail
      rw [groups, if_neg fits, addGroups_of_other subsetTail others]
      exact inductionHypothesis subsetTail distinctTail expressibleTail bounded

/-! ## The text of a duration -/

/-- The groups of all units add up to the milliseconds. -/
theorem addGroups_durationUnits {millis : Nat} (bounded : millis < limit) :
    addGroups durationUnits 0 (groups durationUnits millis) = some millis := by
  have added : addGroups durationUnits 0 (groups durationUnits millis) = some (0 + millis) :=
    addGroups_groups (List.Subset.refl durationUnits) (by decide)
      (.inr ⟨⟨['m', 's'], 1⟩, by decide, rfl⟩) (by rwa [Nat.zero_add])
  rwa [Nat.zero_add] at added

/-- The text of a duration is groups, at least one. -/
theorem areGroups_text (duration : Duration) :
    AreGroups duration.text ∧ duration.text ≠ [] := by
  unfold text
  simp only
  split
  · exact ⟨@AreGroups.group ['0'] [] ⟨['s'], 1000⟩ (by simp) (by simp [AllDigits])
      (by decide) .nil, by simp⟩
  · rename_i positive
    refine ⟨areGroups_groups (List.Subset.refl _) _, ?_⟩
    -- No groups at all would add up to zero.
    intro nothing
    have added := addGroups_durationUnits (Nat.mod_lt duration.millis (by decide : 0 < limit))
    rw [nothing, addGroups_nil] at added
    exact positive (Option.some.inj added).symm

/-- A text of groups ends with a letter, so it is not the zero without a unit. -/
theorem ne_zero_of_areGroups {text : List Char} (groups : AreGroups text) : text ≠ ['0'] := by
  rintro rfl
  generalize whole : ['0'] = text at groups
  cases groups with
  | nil => cases whole
  | group nonempty all member following =>
    -- A group has a digit and a letter, which is one character too many.
    have lengths := congrArg List.length whole
    have digit := List.length_pos_iff.2 nonempty
    have letter := List.length_pos_iff.2 (letters_of_unit member).1
    simp only [List.length_append, List.length_singleton] at lengths
    omega

/-- A duration of fewer milliseconds than the limit reads back from its text. -/
theorem parse_render {duration : Duration} (bounded : duration.millis < limit) :
    parse duration.render = .ok duration := by
  obtain ⟨areGroups, nonempty⟩ := areGroups_text duration
  have read : ofText? duration.text = some duration := by
    rw [ofText?, if_neg (ne_zero_of_areGroups areGroups), if_neg (by simpa using nonempty)]
    unfold text
    simp only [Nat.mod_eq_of_lt bounded]
    split
    · rename_i nothing
      obtain ⟨millis⟩ := duration
      cases nothing
      rfl
    · rw [addGroups_durationUnits bounded]
      rfl
  rw [parse, render, String.toList_ofList, read]

/-- Adding groups never comes to the limit. -/
theorem addGroups_lt_limit {units : List DurationUnit} {total millis : Nat} {text : List Char}
    (bounded : total < limit) (added : addGroups units total text = some millis) :
    millis < limit := by
  fun_induction addGroups units total text with
  | case1 => cases added; exact bounded
  | case2 => cases added
  | case3 => cases added
  | case4 _ _ _ _ _ _ _ _ _ small inductionHypothesis => exact inductionHypothesis small added
  | case5 => cases added
  | case6 _ _ _ _ _ _ _ _ inductionHypothesis => exact inductionHypothesis bounded added

theorem lt_limit_of_parse {text : String} {duration : Duration}
    (read : parse text = .ok duration) : duration.millis < limit := by
  unfold parse at read
  split at read
  · rename_i found
    cases read
    unfold ofText? at found
    split at found
    · cases found
      decide
    · split at found
      · cases found
      · obtain ⟨millis, added, rfl⟩ := Option.map_eq_some_iff.1 found
        exact addGroups_lt_limit (by decide) added
  · cases read

end Duration

theorem lexes_duration (duration : Duration) {rest : List Char}
    (stops : Text.Stops sticksToNumber rest) :
    Lexes duration.render.toList [⟨.duration, duration.text⟩] rest := by
  obtain ⟨areGroups, nonempty⟩ := duration.areGroups_text
  rw [Duration.render, String.toList_ofList]
  exact lexes_groups areGroups nonempty stops

end RuleAtlas.Query
