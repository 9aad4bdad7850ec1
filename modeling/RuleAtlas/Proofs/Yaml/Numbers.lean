import RuleAtlas.Proofs.Binary64.Rewriting
import RuleAtlas.Yaml.Decode

/-! # Numerals as plain scalars

A numeral that stands as a plain scalar is an integer, a floating-point number or a text, by its
digits and its point.  The text of its value is the numeral itself where it is a small integer,
padded with zeros, too large for a double, or the standard numeral of its double, and nowhere
else. -/

namespace RuleAtlas.Yaml

open Binary64 (Numeral AllDigits IsUnpadded natOfDigits)

/-! ## Digits at the head -/

section
variable {c : Char} {rest : List Char}

theorem ne_of_isDigit {d : Char} (digit : c.isDigit = true) (other : d.isDigit = false) :
    c ≠ d := by
  rintro rfl
  rw [digit] at other
  cases other

/-- What begins with a digit is none of the words that begin otherwise. -/
theorem not_mem_words {words : List String} (digit : c.isDigit = true)
    (letters : (words.all fun word => word.toList.head?.all (!·.isDigit)) = true) :
    String.ofList (c :: rest) ∉ words := by
  intro member
  have head := List.all_eq_true.1 letters _ member
  simp [digit] at head

end

namespace ScalarValue

theorem exists_text_eq (n : Numeral) :
    ∃ c rest, n.text = c :: rest ∧ c.isDigit = true := by
  obtain ⟨c, rest, whole⟩ := List.exists_cons_of_ne_nil n.whole_ne_nil
  exact ⟨c, rest ++ n.tail, by simp [Numeral.text, whole], n.whole_digits c (by simp [whole])⟩

theorem withoutSign_text (n : Numeral) : withoutSign n.text = n.text := by
  obtain ⟨c, rest, text, digit⟩ := exists_text_eq n
  rw [text]
  unfold withoutSign
  split
  · rename_i same
    exact absurd (List.cons.inj same).1 (ne_of_isDigit digit rfl)
  · rename_i same
    exact absurd (List.cons.inj same).1 (ne_of_isDigit digit rfl)
  · rfl

theorem withoutPlus_text (n : Numeral) : withoutPlus n.text = n.text := by
  obtain ⟨c, rest, text, digit⟩ := exists_text_eq n
  rw [text]
  unfold withoutPlus
  split
  · rename_i same
    exact absurd (List.cons.inj same).1 (ne_of_isDigit digit rfl)
  · rfl

theorem negative?_text (limit : Nat) (n : Numeral) : negative? limit n.text = none := by
  obtain ⟨c, rest, text, digit⟩ := exists_text_eq n
  rw [text]
  unfold negative?
  split
  · rename_i same
    exact absurd (List.cons.inj same).1 (ne_of_isDigit digit rfl)
  · rfl

theorem mem_text {n : Numeral} {c : Char} (member : c ∈ n.text) : c.isDigit = true ∨ c = '.' := by
  rcases List.mem_append.1 member with whole | tail
  · exact .inl (n.whole_digits c whole)
  · unfold Numeral.tail at tail
    split at tail
    · cases tail
    · rename_i places fraction
      rcases List.mem_cons.1 tail with rfl | place
      · exact .inr rfl
      · exact .inl (n.fraction_digits places fraction c place)

/-! ## Integers -/

/-- There are only digits, with zeros in front of them. -/
def IsPaddedInteger (n : Numeral) : Prop := n.fraction = none ∧ ¬IsUnpadded n.whole

theorem all_isDigit_tail (n : Numeral) : n.tail.all Char.isDigit = n.fraction.isNone := by
  unfold Numeral.tail
  cases fraction : n.fraction with
  | none => rfl
  | some places => rfl

theorem isPadded_text_iff (n : Numeral) : isPadded n.text = true ↔ IsPaddedInteger n := by
  obtain ⟨c, rest, whole⟩ := List.exists_cons_of_ne_nil n.whole_ne_nil
  have digits : rest.all Char.isDigit = true := List.all_eq_true.2 fun d member =>
    n.whole_digits d (by simp [whole, member])
  have tail := all_isDigit_tail n
  rw [isPadded, withoutSign_text, Numeral.text, IsPaddedInteger, whole, IsUnpadded]
  by_cases zero : c = '0'
  · subst zero
    cases rest with
    | nil =>
      -- Behind a single zero only the point can stand.
      cases fraction : n.fraction <;> simp [Numeral.tail, fraction]
    | cons d rest =>
      have all : (d :: rest ++ n.tail).all Char.isDigit = n.fraction.isNone := by
        rw [List.all_append, digits, tail, Bool.true_and]
      change (d :: rest ++ n.tail).all Char.isDigit = true ↔ _
      rw [all]
      simp
  · simp [zero]

/-- A step of reading digits of a base. -/
def digitStep (base : Nat) (number? : Option Nat) (c : Char) : Option Nat :=
  match number?, (hexDigit? c).filter (· < base) with
  | some number, some digit => some (number * base + digit)
  | _, _ => none

theorem foldl_digitStep_none (base : Nat) (text : List Char) :
    text.foldl (digitStep base) none = none := by
  induction text with
  | nil => rfl
  | cons c text inductionHypothesis => exact inductionHypothesis

theorem foldl_digitStep {digits : List Char} (all : AllDigits digits) (number : Nat) :
    digits.foldl (digitStep 10) (some number) =
      some (digits.foldl (fun value c => value * 10 + (c.toNat - 48)) number) := by
  induction digits generalizing number with
  | nil => rfl
  | cons c digits inductionHypothesis =>
    have digit := all c List.mem_cons_self
    have bounds := Binary64.toNat_bounds_of_isDigit digit
    have small : c.toNat - 48 < 10 := by omega
    have step : digitStep 10 (some number) c = some (number * 10 + (c.toNat - 48)) := by
      simp [digitStep, hexDigit?, digit, Option.filter, small]
    rw [List.foldl_cons, List.foldl_cons, step]
    exact inductionHypothesis (fun d member => all d (List.mem_cons_of_mem _ member)) _

theorem ofDigits?_text (n : Numeral) :
    ofDigits? 10 n.text = if n.fraction = none then some (natOfDigits n.whole) else none := by
  have nonempty : n.text.isEmpty = false := by simp [Numeral.text, n.whole_ne_nil]
  have fold : ofDigits? 10 n.text = n.text.foldl (digitStep 10) (some 0) := by
    unfold ofDigits?
    rw [nonempty]
    rfl
  rw [fold, Numeral.text, List.foldl_append, foldl_digitStep n.whole_digits]
  unfold Numeral.tail
  cases fraction : n.fraction with
  | none => rfl
  | some places =>
    -- The point is no digit.
    exact foldl_digitStep_none 10 places

open Classical in
/-- Only digits without zeros in front of them are an integer. -/
theorem magnitude?_text (n : Numeral) : magnitude? n.text =
    if n.fraction = none ∧ IsUnpadded n.whole then some (natOfDigits n.whole) else none := by
  have noMark : ∀ mark rest, n.text = '0' :: mark :: rest → mark.isDigit = true ∨ mark = '.' := by
    intro mark rest text
    have member : mark ∈ n.text := by simp [text]
    exact mem_text member
  have decimal : magnitude? n.text =
      if isPadded n.text then none else ofDigits? 10 n.text := by
    unfold magnitude?
    split
    · rename_i text
      simpa using noMark _ _ text
    · rename_i text
      simpa using noMark _ _ text
    · rename_i text
      simpa using noMark _ _ text
    · rfl
  rw [decimal, ofDigits?_text]
  simp only [isPadded_text_iff, IsPaddedInteger]
  by_cases noPoint : n.fraction = none <;> by_cases unpadded : IsUnpadded n.whole <;>
    simp [noPoint, unpadded]

theorem unsigned?_text (limit : Nat) (n : Numeral) :
    unsigned? limit n.text = (magnitude? n.text).filter (· < limit) := by
  rw [unsigned?, withoutPlus_text]

/-! ## Values -/

/-- The value that a numeral stands for as a plain scalar. -/
inductive IsReadAs (n : Numeral) : ScalarValue → Prop
  | integer (noPoint : n.fraction = none) (unpadded : IsUnpadded n.whole)
      (fits : natOfDigits n.whole < 2 ^ 64) : IsReadAs n (.unsigned (natOfDigits n.whole))
  | wideInteger (noPoint : n.fraction = none) (unpadded : IsUnpadded n.whole)
      (large : 2 ^ 64 ≤ natOfDigits n.whole) :
      IsReadAs n (.wideUnsigned (natOfDigits n.whole))
  | padded (padded : IsPaddedInteger n) : IsReadAs n (.text n.text)
  | double (notPadded : ¬IsPaddedInteger n)
      (noInteger : n.fraction = none → 2 ^ 128 ≤ natOfDigits n.whole)
      (finite : n.double.isFinite = true) : IsReadAs n (.float n.double)
  | huge (infinite : n.double.isFinite = false) : IsReadAs n (.text n.text)

theorem float?_text (n : Numeral) :
    float? n.text = if n.double.isFinite then some n.double else none := by
  obtain ⟨c, rest, text, digit⟩ := exists_text_eq n
  have read := n.ofText?_text
  have noPlus := withoutPlus_text n
  rw [text] at read noPlus ⊢
  unfold float?
  simp only [noPlus, read]
  rw [if_neg (by simp), if_neg (not_mem_words digit rfl), if_neg (not_mem_words digit rfl),
    if_neg (not_mem_words digit rfl)]
  rfl

theorem ofPlain_text (n : Numeral) : ofPlain n.text =
    ((integer? n.text).getD
      (if isPadded n.text = true ∨ n.double.isFinite = false then .text n.text
        else .float n.double)) := by
  obtain ⟨c, rest, text, digit⟩ := exists_text_eq n
  have noNull : isNullWord n.text = false := by
    rw [text]
    exact decide_eq_false (not_mem_words digit rfl)
  have noBoolean : booleanWord? n.text = none := by
    rw [text, booleanWord?, if_neg (not_mem_words digit rfl), if_neg (not_mem_words digit rfl)]
  have nonempty : n.text.isEmpty = false := by simp [text]
  unfold ofPlain
  rw [noNull, noBoolean, nonempty, float?_text]
  cases integer? n.text <;> cases isPadded n.text <;> cases n.double.isFinite <;> rfl

theorem integer?_text_of_none {n : Numeral} (none : magnitude? n.text = none) :
    integer? n.text = .none := by
  unfold integer?
  simp [unsigned?_text, negative?_text, none]

theorem integer?_text_of_some {n : Numeral} {number : Nat}
    (read : magnitude? n.text = some number) :
    integer? n.text =
      if number < 2 ^ 64 then some (.unsigned number)
      else if number < 2 ^ 128 then some (.wideUnsigned number) else none := by
  unfold integer?
  simp only [unsigned?_text, negative?_text, read, Option.filter, Nat.pow_eq]
  by_cases fits : number < 2 ^ 64 <;> by_cases fitsWide : number < 2 ^ 128 <;>
    simp only [fits, fitsWide, decide_true, decide_false, if_true, if_false, Bool.false_eq_true]

theorem isReadAs_ofPlain (n : Numeral) : IsReadAs n (ofPlain n.text) := by
  have magnitude := magnitude?_text n
  have padded := isPadded_text_iff n
  rw [ofPlain_text]
  -- Unless the integer is small enough, the doubles are asked.
  have rest : (n.fraction = none → IsUnpadded n.whole → 2 ^ 128 ≤ natOfDigits n.whole) →
      IsReadAs n (if isPadded n.text = true ∨ n.double.isFinite = false then .text n.text
        else .float n.double) := by
    intro large
    by_cases isPadded : IsPaddedInteger n
    · rw [if_pos (.inl (padded.2 isPadded))]
      exact .padded isPadded
    · cases finite : n.double.isFinite with
      | false =>
        rw [if_pos (.inr rfl)]
        exact .huge finite
      | true =>
        rw [if_neg (by simp [padded, isPadded])]
        refine .double isPadded (fun noPoint => large noPoint ?_) finite
        exact Classical.not_not.1 fun zeros => isPadded ⟨noPoint, zeros⟩
  by_cases integer : n.fraction = none ∧ IsUnpadded n.whole
  · rw [if_pos integer] at magnitude
    rw [integer?_text_of_some magnitude]
    split
    · rename_i fits
      exact .integer integer.1 integer.2 fits
    · rename_i large
      split
      · exact .wideInteger integer.1 integer.2 (Nat.not_lt.1 large)
      · rename_i larger
        exact rest fun _ _ => Nat.not_lt.1 larger
  · rw [if_neg integer] at magnitude
    rw [integer?_text_of_none magnitude]
    exact rest fun noPoint unpadded => absurd ⟨noPoint, unpadded⟩ integer

/-! ## Texts of values -/

/-- The numeral is the text of its value: a small integer or one that is padded, a number too
large for a double, or the standard numeral of a double. -/
inductive IsKept (n : Numeral) : Prop
  | small (noPoint : n.fraction = none) (small : natOfDigits n.whole < 2 ^ 63)
  | padded (padded : IsPaddedInteger n)
  | huge (infinite : n.double.isFinite = false)
  | standard (standard : n.IsStandard)

/-- A numeral that comes to a double is kept as the standard one only. -/
theorem IsKept.isStandard {n : Numeral} (kept : IsKept n)
    (large : n.fraction = none → 2 ^ 63 ≤ natOfDigits n.whole) (notPadded : ¬IsPaddedInteger n)
    (finite : n.double.isFinite = true) : n.IsStandard := by
  cases kept with
  | small noPoint small => exact absurd small (Nat.not_lt.2 (large noPoint))
  | padded padded => exact absurd padded notPadded
  | huge infinite => rw [finite] at infinite; cases infinite
  | standard standard => exact standard

theorem text_eq_whole {n : Numeral} (noPoint : n.fraction = none) : n.text = n.whole := by
  simp [Numeral.text, Numeral.tail, noPoint]

theorem toString_natOfDigits {n : Numeral} (noPoint : n.fraction = none)
    (unpadded : IsUnpadded n.whole) :
    toString (natOfDigits n.whole) = String.ofList n.text := by
  have digits := Binary64.toDigits_natOfDigits n.whole_ne_nil n.whole_digits unpadded
  rw [text_eq_whole noPoint, ← digits, Binary64.natOfDigits_toDigits]
  rfl

theorem double_of_noPoint {n : Numeral} (noPoint : n.fraction = none) :
    n.double = Binary64.ofDecimal false n.whole 0 := by
  simp [Numeral.double, Numeral.digits, Numeral.places, noPoint]

/-- A plain scalar without a tag is what it looks like, unless its integer is too wide. -/
theorem eq_ofPlain_of_anyScalar {source : List Char} {value : ScalarValue}
    (read : Decode.anyScalar none source .plain = .ok value) :
    Decode.tooWide? (ofPlain source) = none ∧ value = ofPlain source := by
  have plain : of none source .plain = .ok (ofPlain source) := rfl
  unfold Decode.anyScalar at read
  rw [plain] at read
  cases tooWide : Decode.tooWide? (ofPlain source) <;> simp_all

/-- The text of the value of a numeral is the numeral if it is kept, and only then. -/
theorem render_eq_text_iff {n : Numeral} {value : ScalarValue}
    (read : Decode.anyScalar none n.text .plain = .ok value) :
    value.render = String.ofList n.text ↔ IsKept n := by
  obtain ⟨notTooWide, rfl⟩ := eq_ofPlain_of_anyScalar read
  have readAs := isReadAs_ofPlain n
  generalize ofPlain n.text = found at readAs notTooWide ⊢
  cases readAs with
  | integer noPoint unpadded fits =>
    rw [render]
    split
    · rename_i small
      exact iff_of_true (toString_natOfDigits noPoint unpadded) (.small noPoint small)
    · -- From half of the range on, the integer becomes a double.
      rename_i large
      obtain ⟨sameDouble, finite⟩ := Binary64.ofDecimal_of_lt n.whole_digits fits
      rw [← sameDouble, ← double_of_noPoint noPoint] at *
      rw [Binary64.Numeral.render_double_eq_iff numberNames finite]
      exact ⟨.standard, fun kept =>
        kept.isStandard (fun _ => Nat.not_lt.1 large) (fun padded => padded.2 unpadded) finite⟩
  | wideInteger => cases notTooWide
  | padded padded => exact iff_of_true rfl (.padded padded)
  | double notPadded noInteger finite =>
    rw [render, Binary64.Numeral.render_double_eq_iff numberNames finite]
    refine ⟨.standard, fun kept => kept.isStandard (fun noPoint => ?_) notPadded finite⟩
    exact Nat.le_trans (by decide) (noInteger noPoint)
  | huge infinite => exact iff_of_true rfl (.huge infinite)

end ScalarValue

end RuleAtlas.Yaml
