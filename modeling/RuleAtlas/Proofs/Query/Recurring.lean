import RuleAtlas.Proofs.Query.Taking

/-! # Tokens in front of a gap

A token that was read once is read again from the same characters when they stand in front of
a gap or at the end of a text, whatever stood behind them before.  Readers look at most three
characters ahead, and no character of a gap, nor one that begins a comment, goes on a token. -/

namespace RuleAtlas.Query

/-- The character is no part of a gap and begins none. -/
def isInk (c : Char) : Bool := c ∉ [' ', '\t', '\n', '\r', '#']

/-- What the reader finds in the text it finds again in the same characters, in front of any
other text that fits. -/
def Recurs {α : Type} (read : List Char → Reading α) (fits : List Char → Prop)
    (text : List Char) : Prop :=
  ∀ value, (read text).outcome = .ok value → ∀ rest, fits rest →
    read ((read text).source ++ rest) = read text

/-- Any text may follow. -/
abbrev Anything : List Char → Prop := fun _ => True

/-- A gap or the end follows. -/
def Gapped (rest : List Char) : Prop := Text.Stops isInk rest

/-- What none of these characters goes on does not go on there. -/
theorem Gapped.stops {kind : Char → Bool} {rest : List Char} (gapped : Gapped rest)
    (none : [' ', '\t', '\n', '\r', '#'].any kind = false) : Text.Stops kind rest := by
  intro c member
  have noInk : isInk c = false := gapped c member
  have here : c ∈ [' ', '\t', '\n', '\r', '#'] := by
    simpa only [isInk, decide_eq_false_iff_not, not_not] using noInk
  exact Bool.eq_false_iff.2 (List.any_eq_false.1 none c here)

theorem Gapped.sticksToNumber {rest : List Char} (gapped : Gapped rest) :
    Text.Stops sticksToNumber rest := gapped.stops rfl

theorem Gapped.isDigit {rest : List Char} (gapped : Gapped rest) :
    Text.Stops Char.isDigit rest := gapped.stops rfl

namespace Recurs

variable {α β : Type} {read : List Char → Reading α} {inner : List Char → Reading β}
  {fits : List Char → Prop} {front text : List Char}

/-- A reader that looks at certain characters only. -/
theorem of_front (front : List Char) (value : α)
    (same : ∀ rest, fits rest → read (front ++ rest) = .found front value)
    (here : read text = .found front value) : Recurs read fits text := by
  intro _ _ rest follows
  rw [here]
  exact same rest follows

theorem map (f : α → β) (recurs : Recurs read fits text) :
    Recurs (fun text => (read text).map f) fits text := by
  intro value found rest follows
  obtain ⟨_, inside, -⟩ := Reading.outcome_of_map found
  exact congrArg (Reading.map f) (recurs _ inside rest follows)

/-- A reader goes on as another one does, behind characters that decide it in front of the
text and of what is found in it. -/
theorem behind_of {read : List Char → Reading β} (here : read (front ++ text) =
      (inner text).behind front)
    (same : ∀ value, (inner text).outcome = .ok value → ∀ rest, fits rest →
      read (front ++ ((inner text).source ++ rest)) =
        (inner ((inner text).source ++ rest)).behind front)
    (recurs : Recurs inner fits text) : Recurs read fits (front ++ text) := by
  intro value found rest follows
  rw [here] at found ⊢
  have inside := Reading.outcome_of_behind found
  rw [source_behind, List.append_assoc, same value inside rest follows,
    recurs value inside rest follows]

/-- Behind characters that decide it, a reader goes on as another one does. -/
theorem behind (front : List Char) {read : List Char → Reading β}
    (same : ∀ text, read (front ++ text) = (inner text).behind front)
    (recurs : Recurs inner fits text) : Recurs read fits (front ++ text) :=
  behind_of (same text) (fun _ _ _ _ => same _) recurs

end Recurs

/-! ## Strings -/

theorem recurs_readDigits (base count value : Nat) (text : List Char) :
    Recurs (readDigits base count value) Anything text := by
  fun_induction readDigits base count value text with
  | case1 value text => exact .of_front [] value (fun _ _ => rfl) rfl
  | case2 =>
    intro _ found
    cases found
  | case3 count value c text no_digit =>
    intro _ found
    simp [readDigits, no_digit, Reading.fault] at found
  | case4 count value c text digit some_digit inductionHypothesis =>
    refine Recurs.behind [c] (fun text => ?_) inductionHypothesis
    simp only [List.singleton_append, readDigits, some_digit]

theorem recurs_characterOf {read : List Char → Reading Nat} {text : List Char}
    (recurs : Recurs read Anything text) (limit : Nat) :
    Recurs (fun text => characterOf (read text) limit) Anything text := by
  intro character found rest _
  dsimp only at found ⊢
  rw [source_characterOf]
  cases code : (read text).outcome with
  | error stumble =>
    simp only [characterOf, code] at found
    cases found
  | ok value => rw [recurs value code rest trivial]

theorem recurs_readEscape (quote : Char) (text : List Char) :
    Recurs (readEscape quote) Anything text := by
  cases text with
  | nil =>
    intro _ found
    cases found
  | cons c text =>
    -- What is read of a code depends on its digits alone.
    have code : ∀ base count value limit,
        (∀ text, readEscape quote (c :: text) =
          (characterOf (readDigits base count value text) limit).behind [c]) →
        Recurs (readEscape quote) Anything (c :: text) := by
      intro base count value limit same
      refine Recurs.behind [c] same (recurs_characterOf ?_ limit)
      exact recurs_readDigits base count value text
    cases letter : letterEscape? quote c with
    | some value =>
      refine .of_front [c] value (fun _ _ => ?_) ?_
      all_goals simp [readEscape, letter]
    | none =>
      by_cases two : c = 'x'
      · exact code 16 2 0 (Nat.pow 2 32) fun text => by
          simp only [readEscape, letter, if_pos two]
      by_cases four : c = 'u'
      · exact code 16 4 0 (Nat.pow 2 32) fun text => by
          simp only [readEscape, letter, if_neg two, if_pos four]
      by_cases eight : c = 'U'
      · exact code 16 8 0 (Nat.pow 2 32) fun text => by
          simp only [readEscape, letter, if_neg two, if_neg four, if_pos eight]
      cases octal : digitValue? 8 c with
      | some digit =>
        exact code 8 2 digit 255 fun text => by
          simp only [readEscape, letter, if_neg two, if_neg four, if_neg eight, octal]
      | none =>
        intro _ found
        simp [readEscape, letter, two, four, eight, octal, Reading.fault] at found

theorem recurs_readQuoted (quote : Char) (text : List Char) :
    Recurs (readQuoted quote) Anything text := by
  fun_induction readQuoted quote text with
  | case1 =>
    intro _ found
    simp [readQuoted, Reading.fault] at found
  | case2 rest =>
    refine .of_front [quote] [] (fun _ _ => ?_) ?_
    all_goals simp [readQuoted]
  | case3 rest notQuote =>
    intro _ found
    rw [readQuoted, if_neg notQuote] at found
    cases found
  | case4 rest escape stumble fault notQuote =>
    intro _ found
    rw [readQuoted, if_neg notQuote, if_neg (by decide), if_pos rfl] at found
    simp only [escape, fault] at found
    cases found
  | case5 rest escape value here notQuote _ inductionHypothesis =>
    have again : ∀ text, readEscape quote (escape.source ++ text) = escape := fun text =>
      recurs_readEscape quote rest value here text trivial
    have whole : '\\' :: rest =
        ('\\' :: escape.source) ++ rest.drop escape.source.length := by
      rw [List.cons_append, List.prefix_iff_eq_append.1 (takes_readEscape quote rest)]
    rw [whole]
    refine Recurs.behind _ (fun text => ?_) (inductionHypothesis.map (value :: ·))
    rw [List.cons_append, readQuoted, if_neg notQuote, if_neg (by decide), if_pos rfl]
    simp only [again, here, List.drop_left]
  | case6 c rest notQuote notLine notBackslash inductionHypothesis =>
    refine Recurs.behind [c] (fun text => ?_) (inductionHypothesis.map (c :: ·))
    rw [List.singleton_append, readQuoted, if_neg notQuote, if_neg notLine, if_neg notBackslash]

/-! ## Numbers and durations -/

theorem durationUnit?_again {text unit rest : List Char} (found : durationUnit? text = some unit)
    (differs : Text.Stops (· == 's') rest) : durationUnit? (unit ++ rest) = some unit := by
  unfold durationUnit? at found
  split at found
  · cases found
    rfl
  · cases found
    cases rest with
    | nil => rfl
    | cons c rest =>
      have notSecond : c ≠ 's' := by simpa using differs
      simp [durationUnit?, notSecond]
  · split at found
    · rename_i letter
      cases found
      simp_all [durationUnit?]
    · cases found
  · cases found

/-- A unit without digits behind it is the last one. -/
theorem readUnits_of_stops {unit rest : List Char}
    (found : durationUnit? (unit ++ rest) = some unit)
    (stops : Text.Stops Char.isDigit rest) : readUnits (unit ++ rest) = .found unit () := by
  have no_digits : rest.takeWhile Char.isDigit = [] := by
    simpa using Text.takeWhile_of_stops (List.forall_mem_nil _) stops
  rw [readUnits]
  simp only [found, List.drop_left, no_digits, List.isEmpty_nil, if_true]

/-- A unit is read with the digits behind it, and then what follows them. -/
theorem readUnits_of_digits {unit run rest : List Char}
    (found : durationUnit? (unit ++ (run ++ rest)) = some unit)
    (digits : ∀ c ∈ run, c.isDigit = true) (nonempty : run ≠ [])
    (stops : Text.Stops Char.isDigit rest) :
    readUnits (unit ++ run ++ rest) = (readUnits rest).behind (unit ++ run) := by
  rw [List.append_assoc, readUnits]
  simp only [found, List.drop_left, Text.takeWhile_of_stops digits stops]
  rw [if_neg (by simpa using nonempty)]

theorem durationUnit?_head_letter {text unit : List Char} (found : durationUnit? text = some unit) :
    ∃ c more, unit = c :: more ∧ c ∈ ['m', 'y', 'w', 'd', 'h', 's'] := by
  unfold durationUnit? at found
  split at found
  · cases found
    exact ⟨'m', _, rfl, by decide⟩
  · cases found
    exact ⟨'m', _, rfl, by decide⟩
  · split at found
    · rename_i letter
      cases found
      exact ⟨_, _, rfl, List.mem_cons_of_mem _ letter⟩
    · cases found
  · cases found

/-- A unit, digits behind it, and a text that begins with no more digits. -/
theorem exists_run {text unit : List Char} (found : durationUnit? text = some unit) :
    ∃ run rest, text = unit ++ (run ++ rest) ∧ (∀ c ∈ run, c.isDigit = true) ∧
      Text.Stops Char.isDigit rest := by
  obtain ⟨tail, rfl⟩ := durationUnit?_head found
  refine ⟨tail.takeWhile Char.isDigit, tail.dropWhile Char.isDigit, ?_, ?_,
    Text.stops_dropWhile tail⟩
  · rw [List.takeWhile_append_dropWhile]
  · exact List.all_eq_true.1 List.all_takeWhile

/-- What is read as units begins with the letter of one. -/
theorem source_readUnits_letter {text : List Char} {value : Unit}
    (found : (readUnits text).outcome = .ok value) :
    ∃ c more, (readUnits text).source = c :: more ∧ c ∈ ['m', 'y', 'w', 'd', 'h', 's'] := by
  cases unit : durationUnit? text with
  | none =>
    rw [readUnits] at found
    simp only [unit] at found
    cases found
  | some letters =>
    obtain ⟨run, rest, rfl, digits, stops⟩ := exists_run unit
    obtain ⟨c, more, rfl, letter⟩ := durationUnit?_head_letter unit
    cases run with
    | nil =>
      rw [List.nil_append] at unit ⊢
      rw [readUnits_of_stops unit stops]
      exact ⟨c, more, rfl, letter⟩
    | cons d run =>
      rw [← List.append_assoc, readUnits_of_digits unit digits (by simp) stops]
      exact ⟨c, _, rfl, letter⟩

/-- The letter of a unit is neither a digit nor does it go on a number. -/
theorem unit_letter {c : Char} (letter : c ∈ ['m', 'y', 'w', 'd', 'h', 's']) (rest : List Char) :
    Text.Stops Char.isDigit (c :: rest) ∧ fractionPart (c :: rest) = [] ∧
      exponentPart (c :: rest) = [] ∧ (durationUnit? (c :: rest)).isSome = true := by
  simp only [List.mem_cons, List.not_mem_nil, or_false] at letter
  obtain rfl | other := letter
  · refine ⟨Text.stops_cons.2 rfl, rfl, rfl, ?_⟩
    cases rest with
    | nil => rfl
    | cons d rest => by_cases second : d = 's' <;> simp [durationUnit?, second]
  · obtain rfl | rfl | rfl | rfl | rfl := other
    all_goals exact ⟨Text.stops_cons.2 rfl, rfl, rfl, rfl⟩

theorem recurs_readUnits (text : List Char) : Recurs readUnits Gapped text := by
  cases unit : durationUnit? text with
  | none =>
    intro _ found
    rw [readUnits] at found
    simp only [unit] at found
    cases found
  | some letters =>
    obtain ⟨run, rest, rfl, digits, stops⟩ := exists_run unit
    cases run with
    | nil =>
      -- Neither a digit nor the second letter of a unit is in front of a gap.
      refine .of_front letters () (fun other gapped => ?_)
        (readUnits_of_stops unit stops)
      exact readUnits_of_stops (durationUnit?_again unit (gapped.stops rfl))
        gapped.isDigit
    | cons d run =>
      have again : ∀ other, durationUnit? (letters ++ ((d :: run) ++ other)) = some letters := by
        intro other
        apply durationUnit?_again unit
        have digit := digits d List.mem_cons_self
        have differs : d ≠ 's' := by
          rintro rfl
          cases digit
        simpa using differs
      rw [← List.append_assoc]
      refine .behind_of (readUnits_of_digits unit digits (by simp) stops)
        (fun value inside other gapped => ?_) (recurs_readUnits rest)
      apply readUnits_of_digits (again _) digits (by simp)
      obtain ⟨c, more, begins, letter⟩ := source_readUnits_letter inside
      rw [begins]
      exact (unit_letter letter _).1
termination_by text.length
decreasing_by
  subst_vars
  simp only [List.length_append, List.length_cons]
  omega

/-- The fraction of a decimal number is a point with digits behind it, if it is there. -/
theorem fractionPart_cases (text : List Char) :
    fractionPart text = [] ∨
      ∃ run, fractionPart text = '.' :: run ∧ ∀ c ∈ run, c.isDigit = true := by
  unfold fractionPart
  split
  · exact .inr ⟨_, rfl, List.all_eq_true.1 List.all_takeWhile⟩
  · exact .inl rfl

theorem fractionPart_again {text rest : List Char} (stops : Text.Stops Char.isDigit rest)
    (noPoint : Text.Stops (· == '.') rest) :
    fractionPart (fractionPart text ++ rest) = fractionPart text := by
  obtain none | ⟨run, some, digits⟩ := fractionPart_cases text
  · rw [none, List.nil_append]
    cases rest with
    | nil => rfl
    | cons c rest =>
      have other : c ≠ '.' := by simpa using noPoint
      simp [fractionPart, other]
  · rw [some, List.cons_append, fractionPart, Text.takeWhile_of_stops digits stops]

/-- The exponent of a decimal number is a letter, perhaps a sign, and digits, if it is there. -/
theorem exponentPart_cases (text : List Char) :
    exponentPart text = [] ∨ ∃ e sign d run, exponentPart text = e :: (sign ++ d :: run) ∧
      (e = 'e' ∨ e = 'E') ∧ (sign = [] ∨ sign = ['+'] ∨ sign = ['-']) ∧
      ∀ c ∈ d :: run, c.isDigit = true := by
  unfold exponentPart
  split
  · rename_i e rest
    split
    · rename_i letter
      split
      · exact .inl rfl
      · rename_i c tail
        split
        · rename_i digit
          refine .inr ⟨e, [], c, tail.takeWhile Char.isDigit, rfl, by simpa using letter, .inl rfl,
            ?_⟩
          intro d member
          cases member with
          | head => exact digit
          | tail _ member => exact List.all_eq_true.1 List.all_takeWhile d member
        · split
          · rename_i sign
            split
            · exact .inl rfl
            · rename_i d run same
              refine .inr ⟨e, [c], d, run, rfl, by simpa using letter, ?_, ?_⟩
              · simpa using sign
              · rw [← same]
                exact List.all_eq_true.1 List.all_takeWhile
          · exact .inl rfl
    · exact .inl rfl
  · exact .inl rfl

theorem exponentPart_again {text rest : List Char} (stops : Text.Stops sticksToNumber rest) :
    exponentPart (exponentPart text ++ rest) = exponentPart text := by
  obtain none | ⟨e, sign, d, run, some, letter, signs, digits⟩ := exponentPart_cases text
  · rw [none, List.nil_append]
    exact (nothing_of_stops stops).2.1
  · have again := Text.takeWhile_of_stops digits (isDigit_of_stops stops)
    have digit := digits d List.mem_cons_self
    have behind : (run ++ rest).takeWhile Char.isDigit = run :=
      Text.takeWhile_of_stops (fun c member => digits c (List.mem_cons_of_mem d member))
        (isDigit_of_stops stops)
    rw [some]
    obtain rfl | rfl | rfl := signs
    · simp [exponentPart, letter, digit, behind]
    all_goals
      simp only [List.cons_append, List.nil_append] at again ⊢
      simp [exponentPart, letter, again]

/-- A decimal number is split where its parts end. -/
theorem decimalParts_of_parts {whole fraction exponent rest : List Char}
    (digits : ∀ c ∈ whole, c.isDigit = true)
    (stops : Text.Stops Char.isDigit (fraction ++ (exponent ++ rest)))
    (fractionSame : fractionPart (fraction ++ (exponent ++ rest)) = fraction)
    (exponentSame : exponentPart (exponent ++ rest) = exponent) :
    decimalParts (whole ++ (fraction ++ (exponent ++ rest))) =
      ⟨whole, fraction, exponent, rest⟩ := by
  simp only [decimalParts, Text.takeWhile_of_stops digits stops, List.drop_left, fractionSame,
    exponentSame]

theorem stops_append {kind : Char → Bool} {front rest : List Char}
    (here : Text.Stops kind front) (behind : Text.Stops kind rest) :
    Text.Stops kind (front ++ rest) := by
  cases front with
  | nil => exact behind
  | cons c front => exact Text.stops_cons.2 (Text.stops_cons.1 here)

theorem stops_fractionPart (text : List Char) : Text.Stops Char.isDigit (fractionPart text) := by
  obtain none | ⟨run, some, -⟩ := fractionPart_cases text
  · exact none ▸ Text.stops_nil
  · exact some ▸ Text.stops_cons.2 rfl

theorem stops_exponentPart {kind : Char → Bool} (text : List Char)
    (none : ['e', 'E'].any kind = false) : Text.Stops kind (exponentPart text) := by
  obtain noExponent | ⟨e, sign, d, run, some, letter, -⟩ := exponentPart_cases text
  · exact noExponent ▸ Text.stops_nil
  · have here : e ∈ ['e', 'E'] := by simpa using letter
    exact some ▸ Text.stops_cons.2 (Bool.eq_false_iff.2 (List.any_eq_false.1 none e here))

/-- In front of a gap a decimal number is split as it was before. -/
theorem decimalParts_again (text : List Char) {rest : List Char} (gapped : Gapped rest) :
    decimalParts ((decimalParts text).whole ++ ((decimalParts text).fraction ++
        ((decimalParts text).exponent ++ rest))) =
      ⟨(decimalParts text).whole, (decimalParts text).fraction, (decimalParts text).exponent,
        rest⟩ := by
  have behind : Text.Stops Char.isDigit ((decimalParts text).exponent ++ rest) :=
    stops_append (stops_exponentPart _ rfl) gapped.isDigit
  have noPoint : Text.Stops (· == '.') ((decimalParts text).exponent ++ rest) :=
    stops_append (stops_exponentPart _ rfl) (gapped.stops rfl)
  apply decimalParts_of_parts
  · exact List.all_eq_true.1 List.all_takeWhile
  · exact stops_append (stops_fractionPart _) behind
  · exact fractionPart_again behind noPoint
  · exact exponentPart_again gapped.sticksToNumber

theorem finishNumber_of_ok {kind other : TokenKind} {source rest : List Char}
    (found : (finishNumber kind source rest).outcome = .ok other) :
    finishNumber kind source rest = .found source kind := by
  unfold finishNumber at found ⊢
  cases rest with
  | nil => rfl
  | cons c rest =>
    by_cases sticks : sticksToNumber c = true
    · simp only [if_pos sticks] at found
      cases found
    · exact if_neg sticks

/-- A duration is read as far as its units go. -/
theorem readDuration_of_units {digits text rest : List Char}
    (units : (readUnits text).outcome = .ok ()) (gapped : Gapped rest) :
    readDuration digits ((readUnits text).source ++ rest) =
      .found (digits ++ (readUnits text).source) .duration := by
  unfold readDuration
  rw [recurs_readUnits text () units rest gapped]
  simp only [units, List.drop_left, finishNumber_of_stops gapped.sticksToNumber]

/-- A duration that is found has units, and is what was read of them. -/
theorem readDuration_of_ok {digits text : List Char} {kind : TokenKind}
    (found : (readDuration digits text).outcome = .ok kind) :
    (readUnits text).outcome = .ok () ∧
      readDuration digits text = .found (digits ++ (readUnits text).source) .duration := by
  unfold readDuration at found ⊢
  cases units : (readUnits text).outcome with
  | error stumble =>
    simp only [units] at found
    cases found
  | ok value =>
    simp only [units] at found ⊢
    exact ⟨trivial, finishNumber_of_ok found⟩

theorem readDecimal_of_units {digits text rest : List Char}
    (all : ∀ c ∈ digits, c.isDigit = true) (units : (readUnits text).outcome = .ok ())
    (gapped : Gapped rest) :
    readDecimal (digits ++ ((readUnits text).source ++ rest)) =
      .found (digits ++ (readUnits text).source) .duration := by
  obtain ⟨c, more, begins, letter⟩ := source_readUnits_letter units
  obtain ⟨noDigit, noFraction, noExponent, isUnit⟩ := unit_letter letter (more ++ rest)
  have front : (readUnits text).source ++ rest = c :: (more ++ rest) := by
    rw [begins, List.cons_append]
  have parts : decimalParts (digits ++ ((readUnits text).source ++ rest)) =
      ⟨digits, [], [], (readUnits text).source ++ rest⟩ := by
    rw [front]
    exact @decimalParts_of_parts digits [] [] _ all noDigit noFraction noExponent
  unfold readDecimal
  simp only [parts, List.isEmpty_nil, Bool.and_self, Bool.true_and]
  rw [if_pos (by rw [front]; exact isUnit), readDuration_of_units units gapped]

theorem recurs_readDecimal (text : List Char) : Recurs readDecimal Gapped text := by
  intro kind found rest gapped
  by_cases integral : ((decimalParts text).fraction.isEmpty &&
      (decimalParts text).exponent.isEmpty &&
      (durationUnit? (decimalParts text).rest).isSome) = true
  · -- A duration: its digits end where its first unit begins.
    have same : readDecimal text =
        readDuration (decimalParts text).whole (decimalParts text).rest := if_pos integral
    rw [same] at found ⊢
    obtain ⟨units, here⟩ := readDuration_of_ok found
    rw [here]
    show readDecimal ((decimalParts text).whole ++ (readUnits _).source ++ rest) = _
    rw [List.append_assoc]
    exact readDecimal_of_units (List.all_eq_true.1 List.all_takeWhile) units gapped
  · -- A number: no unit begins a gap.
    have same : readDecimal text = finishNumber .number ((decimalParts text).whole ++
        (decimalParts text).fraction ++ (decimalParts text).exponent) (decimalParts text).rest :=
      if_neg integral
    rw [same] at found ⊢
    rw [finishNumber_of_ok found]
    show readDecimal (_ ++ _ ++ _ ++ rest) = _
    rw [List.append_assoc, List.append_assoc]
    have noUnit := (nothing_of_stops gapped.sticksToNumber).2.2
    unfold readDecimal
    simp only [decimalParts_again text gapped, noUnit, Option.isSome_none, Bool.and_false]
    rw [if_neg (by simp), finishNumber_of_stops gapped.sticksToNumber]

/-- The digits of a hexadecimal number are read again. -/
theorem readHexadecimal_again {lead text rest : List Char} {kind : TokenKind}
    (found : (readHexadecimal lead text).outcome = .ok kind) (gapped : Gapped rest) :
    ∃ digits, readHexadecimal lead text = .found (lead ++ digits) .number ∧
      readHexadecimal lead (digits ++ rest) = .found (lead ++ digits) .number := by
  refine ⟨text.takeWhile isHexDigit, ?_, ?_⟩
  all_goals unfold readHexadecimal at found ⊢
  all_goals simp only at found ⊢
  all_goals split at found
  · cases found
  · rename_i some_digits
    rw [if_neg some_digits, finishNumber_of_ok found]
  · cases found
  · rename_i some_digits
    have again : (text.takeWhile isHexDigit ++ rest).takeWhile isHexDigit =
        text.takeWhile isHexDigit :=
      Text.takeWhile_of_stops (List.all_eq_true.1 List.all_takeWhile) (gapped.stops rfl)
    rw [again, if_neg some_digits, List.drop_left, finishNumber_of_stops gapped.sticksToNumber]

/-- The head of the text marks a hexadecimal number. -/
def MarksHexadecimal (text : List Char) : Prop :=
  ∃ x rest, text = '0' :: x :: rest ∧ (x = 'x' ∨ x = 'X')

theorem readNumber_of_not_marked {text : List Char} (plain : ¬MarksHexadecimal text) :
    readNumber text = readDecimal text := by
  unfold readNumber
  split
  · exact absurd ⟨'x', _, rfl, .inl rfl⟩ plain
  · exact absurd ⟨'X', _, rfl, .inr rfl⟩ plain
  · rfl

/-- In front of a gap there is no mark that was not there before. -/
theorem not_marked_again {source text rest : List Char} (head : source <+: text)
    (plain : ¬MarksHexadecimal text) (gapped : Gapped rest) :
    ¬MarksHexadecimal (source ++ rest) := by
  rintro ⟨x, tail, same, mark⟩
  have free : Text.Stops (fun c => c == '0' || c == 'x' || c == 'X') rest :=
    gapped.stops rfl
  cases source with
  | nil =>
    rw [List.nil_append] at same
    simp [same] at free
  | cons c more =>
    injection same with zero same
    cases more with
    | nil =>
      change rest = x :: tail at same
      obtain rfl | rfl := mark
      all_goals simp [same] at free
    | cons d more =>
      injection same with second same
      obtain ⟨behind, rfl⟩ := head
      exact plain ⟨x, more ++ behind, by rw [zero, second]; rfl, mark⟩

theorem recurs_readNumber (text : List Char) : Recurs readNumber Gapped text := by
  by_cases marked : MarksHexadecimal text
  · obtain ⟨x, digits, rfl, mark⟩ := marked
    intro kind found rest gapped
    have same : ∀ digits, readNumber ('0' :: x :: digits) = readHexadecimal ['0', x] digits := by
      obtain rfl | rfl := mark <;> exact fun _ => rfl
    rw [same] at found ⊢
    obtain ⟨run, here, again⟩ := readHexadecimal_again found gapped
    rw [here]
    exact (same (run ++ rest)).trans again
  · intro kind found rest gapped
    rw [readNumber_of_not_marked marked] at found ⊢
    have head : (readDecimal text).source <+: text := takes_readDecimal text
    rw [readNumber_of_not_marked (not_marked_again head marked gapped)]
    exact recurs_readDecimal text kind found rest gapped

/-- A point begins a number only in front of a digit, which is read then. -/
theorem source_readNumber_point {d : Char} (digit : d.isDigit = true) (text : List Char) :
    ∃ more, (readNumber ('.' :: d :: text)).source = '.' :: d :: more := by
  have plain : readNumber ('.' :: d :: text) = readDecimal ('.' :: d :: text) := rfl
  have whole : ('.' :: d :: text).takeWhile Char.isDigit = [] := rfl
  have fraction : (decimalParts ('.' :: d :: text)).fraction =
      '.' :: d :: text.takeWhile Char.isDigit := by
    simp [decimalParts, whole, fractionPart, digit]
  rw [plain]
  unfold readDecimal
  simp only [fraction, List.isEmpty_cons, Bool.false_and]
  rw [if_neg (by simp), source_finishNumber]
  exact ⟨_, rfl⟩

/-! ## Symbols and all tokens -/

theorem pairSymbol?_of_gapped {c d : Char} {rest : List Char} (gapped : Gapped (d :: rest)) :
    pairSymbol? c d = none := by
  have free : Text.Stops (fun c => c == '=' || c == '~') (d :: rest) := gapped.stops rfl
  have differs : d ≠ '=' ∧ d ≠ '~' := by simpa using free
  unfold pairSymbol?
  split
  all_goals first | rfl | simp at differs

theorem readSymbol_of_gapped {c : Char} {rest : List Char} (gapped : Gapped rest) :
    readSymbol c rest = readSingle c := by
  cases rest with
  | nil => rfl
  | cons d rest =>
    unfold readSymbol
    simp only [pairSymbol?_of_gapped gapped]

/-- A symbol is a pair of characters or a single one. -/
theorem readSymbol_cases (c : Char) (text : List Char) :
    readSymbol c text = readSingle c ∨ ∃ d kind, (∀ rest, readSymbol c (d :: rest) =
      .found [c, d] kind) ∧ readSymbol c text = .found [c, d] kind := by
  cases text with
  | nil => exact .inl rfl
  | cons d text =>
    cases pair : pairSymbol? c d with
    | none =>
      left
      unfold readSymbol
      simp only [pair]
    | some kind =>
      have same : ∀ rest, readSymbol c (d :: rest) = .found [c, d] kind := by
        intro rest
        unfold readSymbol
        simp only [pair]
      exact .inr ⟨d, kind, same, same text⟩

theorem readSymbol_again {c : Char} {text rest more : List Char}
    (source : (readSymbol c text).source = c :: more) (gapped : Gapped rest) :
    readSymbol c (more ++ rest) = readSymbol c text := by
  obtain single | ⟨d, kind, again, pair⟩ := readSymbol_cases c text
  · rw [single, source_readSingle] at source
    obtain rfl : more = [] := by simpa using source.symm
    rw [single, List.nil_append, readSymbol_of_gapped gapped]
  · rw [pair] at source
    obtain rfl : more = [d] := by simpa [Reading.found] using source.symm
    rw [pair]
    exact again rest

theorem readRaw_again {quote : Char} {text value rest more : List Char}
    (found : (readRaw quote text).outcome = .ok value)
    (source : (readRaw quote text).source = quote :: more) :
    readRaw quote (more ++ rest) = readRaw quote text := by
  have all : ∀ c ∈ text.takeWhile (· != quote), (c != quote) = true :=
    List.all_eq_true.1 List.all_takeWhile
  have closes : Text.Stops (· != quote) (quote :: rest) := Text.stops_cons.2 (by simp)
  unfold readRaw at found source
  simp only at found source
  split at found
  · cases found
  · rename_i c tail ends
    simp only [ends, Reading.found, List.cons.injEq, true_and] at source
    have here : readRaw quote text =
        .found (quote :: (text.takeWhile (· != quote) ++ [quote]))
          (text.takeWhile (· != quote)) := by
      unfold readRaw
      simp only [ends]
    rw [here, ← source, List.append_assoc, List.singleton_append]
    unfold readRaw
    simp only [Text.takeWhile_of_stops all closes, Text.dropWhile_of_stops all closes]

theorem readString_again {quote : Char} {text value rest more : List Char}
    (found : (readString quote text).outcome = .ok value)
    (source : (readString quote text).source = quote :: more) :
    readString quote (more ++ rest) = readString quote text := by
  rw [source_readString] at source
  injection source with _ source
  have again : readQuoted quote (more ++ rest) = readQuoted quote text := by
    rw [← source]
    exact recurs_readQuoted quote text value (readQuoted_of_readString found) rest trivial
  unfold readString
  rw [again]

theorem readWord_again {first : Char} {text rest more : List Char}
    (source : (readWord first text).source = first :: more) (gapped : Gapped rest) :
    readWord first (more ++ rest) = readWord first text := by
  obtain rfl : more = text.takeWhile isWordPart := by
    simpa [readWord, Reading.found] using source.symm
  unfold readWord
  rw [Text.takeWhile_of_stops (List.all_eq_true.1 List.all_takeWhile) (gapped.stops rfl)]

/-- A word that begins in front of some text begins in front of what was read of it. -/
theorem startsWord_again {first : Char} {text : List Char} (starts : startsWord first text = true)
    (rest : List Char) : startsWord first (text.takeWhile isWordPart ++ rest) = true := by
  apply startsWord_append
  simp only [startsWord, Bool.or_eq_true, Bool.and_eq_true] at starts ⊢
  obtain letter | ⟨colon, following⟩ := starts
  · exact .inl letter
  refine .inr ⟨colon, ?_⟩
  cases text with
  | nil => cases following
  | cons next text =>
    have letter : isWordStart next = true := by simpa using following
    rw [List.takeWhile_cons_of_pos (isWordPart_of_isWordStart letter)]
    simpa using letter

/-- A number that begins in front of some text begins in front of what was read of it. -/
theorem startsNumber_again {first : Char} {text more : List Char}
    (starts : startsNumber first text = true)
    (source : (readNumber (first :: text)).source = first :: more) (rest : List Char) :
    startsNumber first (more ++ rest) = true := by
  by_cases digit : first.isDigit = true
  · simp [startsNumber, digit]
  · simp only [startsNumber, digit, Bool.false_or, Bool.and_eq_true, beq_iff_eq] at starts
    obtain ⟨rfl, following⟩ := starts
    cases text with
    | nil => cases following
    | cons d text =>
      have second : d.isDigit = true := by simpa using following
      obtain ⟨tail, same⟩ := source_readNumber_point second text
      rw [same] at source
      injection source with _ source
      simp [startsNumber, ← source, second]

theorem readNumber_again {first : Char} {text rest more : List Char} {kind : TokenKind}
    (found : (readNumber (first :: text)).outcome = .ok kind)
    (source : (readNumber (first :: text)).source = first :: more) (gapped : Gapped rest) :
    readNumber (first :: (more ++ rest)) = readNumber (first :: text) := by
  have again := recurs_readNumber (first :: text) kind found rest gapped
  rwa [source] at again

/-- Neither a point nor a colon in front of a gap is more than itself. -/
theorem starts_nothing {first : Char} {text more rest : List Char} {kind : TokenKind}
    (noNumber : startsNumber first text = false) (noWord : startsWord first text = false)
    (found : (readSymbol first text).outcome = .ok kind)
    (source : (readSymbol first text).source = first :: more) (gapped : Gapped rest) :
    startsNumber first (more ++ rest) = false ∧ startsWord first (more ++ rest) = false := by
  simp only [startsNumber, startsWord, Bool.or_eq_false_iff] at noNumber noWord ⊢
  refine ⟨⟨noNumber.1, ?_⟩, noWord.1, ?_⟩
  · -- A point is no symbol.
    have differs : first ≠ '.' := by
      rintro rfl
      have single : readSymbol '.' text = readSingle '.' := by cases text <;> rfl
      rw [single] at found
      cases found
    simp [differs]
  · by_cases colon : first = ':'
    · subst colon
      have single : readSymbol ':' text = readSingle ':' := by cases text <;> rfl
      rw [single] at source
      obtain rfl : [] = more := (List.cons.inj source).2
      have free : Text.Stops isWordStart rest := gapped.stops rfl
      cases rest with
      | nil => rfl
      | cons d rest => simpa using free
    · simp [colon]

/-- A token that was read is read again from the same characters in front of a gap. -/
theorem readLexeme_again {first : Char} {text more rest : List Char} {lexeme : Lexeme}
    (found : (readLexeme first text).outcome = .ok lexeme)
    (source : (readLexeme first text).source = first :: more) (gapped : Gapped rest) :
    readLexeme first (more ++ rest) = readLexeme first text := by
  -- In the order in which the kinds of lexemes are tried; those that were refused before are
  -- refused again, since they depend on characters that are still there.
  by_cases opens : (first = '\x22' || first = '\x27') = true
  · have same : ∀ text, readLexeme first text = (readString first text).map (⟨.string, ·⟩) :=
      fun _ => if_pos opens
    rw [same] at found source
    obtain ⟨value, string, -⟩ := Reading.outcome_of_map found
    rw [same, same, readString_again string source]
  by_cases raw : first = '\x60'
  · have same : ∀ text, readLexeme first text = (readRaw first text).map (⟨.string, ·⟩) :=
      fun _ => (if_neg opens).trans (if_pos raw)
    rw [same] at found source
    obtain ⟨value, string, -⟩ := Reading.outcome_of_map found
    rw [same, same, readRaw_again string source]
  by_cases number : startsNumber first text = true
  · have same : ∀ {text}, startsNumber first text = true →
        readLexeme first text = (readNumber (first :: text)).verbatim :=
      fun starts => (if_neg opens).trans ((if_neg raw).trans (if_pos starts))
    rw [same number] at found source
    obtain ⟨kind, inside, -⟩ := Reading.outcome_of_map found
    rw [same number, same (startsNumber_again number source rest),
      readNumber_again inside source gapped]
  by_cases word : startsWord first text = true
  · have same := fun {text} (starts : startsWord first text = true) =>
      (readLexeme_of_startsWord starts).2
    rw [same word] at found source
    obtain rfl : text.takeWhile isWordPart = more := (List.cons.inj source).2
    rw [same word, same (startsWord_again word rest), readWord_again rfl gapped]
  have same : ∀ {text}, startsNumber first text = false → startsWord first text = false →
      readLexeme first text = (readSymbol first text).verbatim := by
    intro text noNumber noWord
    exact (if_neg opens).trans ((if_neg raw).trans ((if_neg (by simp [noNumber])).trans
      (if_neg (by simp [noWord]))))
  rw [Bool.not_eq_true] at number word
  rw [same number word] at found source
  obtain ⟨kind, inside, -⟩ := Reading.outcome_of_map found
  obtain ⟨noNumber, noWord⟩ := starts_nothing number word inside source gapped
  rw [same number word, same noNumber noWord, readSymbol_again source gapped]

end RuleAtlas.Query
