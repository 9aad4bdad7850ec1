import Mathlib.Algebra.Group.Nat.Defs
import RuleAtlas.Binary64.Decimal
import RuleAtlas.Proofs.Text.Runs

/-! # Strings of decimal digits

The value of a string of digits: how it goes over concatenation, leading zeros and the digits
that a number is written with, and the powers of ten that it lies between.  Without zeros in
front of it a string of digits is the one that its number is written with. -/

namespace RuleAtlas.Binary64

theorem natOfDigits_eq (digits : List Char) :
    natOfDigits digits = Nat.ofDigitChars 10 digits 0 := by
  unfold natOfDigits
  rw [Nat.ofDigitChars_eq_foldl]
  congr 1
  funext value c
  rw [Nat.mul_comm]
  rfl

@[simp] theorem natOfDigits_nil : natOfDigits [] = 0 := rfl

theorem natOfDigits_append (front back : List Char) :
    natOfDigits (front ++ back) = natOfDigits front * 10 ^ back.length + natOfDigits back := by
  simp only [natOfDigits_eq]
  rw [Nat.ofDigitChars_append, Nat.ofDigitChars_eq_ofDigitChars_zero, Nat.mul_comm]

theorem natOfDigits_cons (c : Char) (digits : List Char) :
    natOfDigits (c :: digits) = (c.toNat - 48) * 10 ^ digits.length + natOfDigits digits := by
  rw [← List.singleton_append, natOfDigits_append]
  simp [natOfDigits]

@[simp] theorem natOfDigits_zeros (count : Nat) : natOfDigits (List.replicate count '0') = 0 := by
  simp [natOfDigits_eq]

@[simp] theorem natOfDigits_toDigits (n : Nat) : natOfDigits (Nat.toDigits 10 n) = n := by
  simp [natOfDigits_eq]

def AllDigits (text : List Char) : Prop := ∀ c ∈ text, c.isDigit = true

theorem allDigits_append {front back : List Char} :
    AllDigits (front ++ back) ↔ AllDigits front ∧ AllDigits back := by
  simp only [AllDigits, List.mem_append, or_imp, forall_and]

theorem allDigits_zeros (count : Nat) : AllDigits (List.replicate count '0') := by
  intro c member
  rw [(List.mem_replicate.1 member).2]
  rfl

theorem allDigits_toDigits (n : Nat) : AllDigits (Nat.toDigits 10 n) := fun _ member =>
  Nat.isDigit_of_mem_toDigits (by decide) (by decide) member

theorem toNat_bounds_of_isDigit {c : Char} (h : c.isDigit = true) : 48 ≤ c.toNat ∧ c.toNat ≤ 57 :=
  Char.isDigit_iff_toNat.1 h

/-- As many digits stay below the power of ten with that exponent. -/
theorem natOfDigits_lt {digits : List Char} (all : AllDigits digits) :
    natOfDigits digits < 10 ^ digits.length := by
  induction digits with
  | nil => simp
  | cons c digits inductionHypothesis =>
    have small := inductionHypothesis fun d member => all d (List.mem_cons_of_mem _ member)
    have digit := toNat_bounds_of_isDigit (all c List.mem_cons_self)
    have product : (c.toNat - 48) * 10 ^ digits.length ≤ 9 * 10 ^ digits.length :=
      Nat.mul_le_mul_right _ (by omega)
    rw [natOfDigits_cons, List.length_cons, Nat.pow_succ]
    omega

/-- Digits that begin with none but a zero reach the power of ten below. -/
theorem pow_le_natOfDigits {c : Char} {digits : List Char} (digit : c.isDigit = true)
    (nonzero : c ≠ '0') : 10 ^ digits.length ≤ natOfDigits (c :: digits) := by
  have bounds := toNat_bounds_of_isDigit digit
  have large : 1 ≤ c.toNat - 48 := by
    have differs : c.toNat ≠ 48 := fun same => nonzero (Char.toNat_inj.1 same)
    omega
  have product : 1 * 10 ^ digits.length ≤ (c.toNat - 48) * 10 ^ digits.length :=
    Nat.mul_le_mul_right _ large
  rw [natOfDigits_cons]
  omega

/-- As many digits at the end of two strings are told apart from those in front of them. -/
theorem natOfDigits_append_inj {front back front' back' : List Char} (all : AllDigits back)
    (all' : AllDigits back') (lengths : back.length = back'.length)
    (same : natOfDigits (front ++ back) = natOfDigits (front' ++ back')) :
    natOfDigits front = natOfDigits front' ∧ natOfDigits back = natOfDigits back' := by
  have small := natOfDigits_lt all
  have small' := natOfDigits_lt all'
  rw [natOfDigits_append, natOfDigits_append, ← lengths] at same
  rw [← lengths] at small'
  have positive : 0 < 10 ^ back.length := Nat.pow_pos (by decide)
  -- What stands in front is the quotient by a power of ten, the end is the remainder.
  constructor
  · have quotient := congrArg (· / 10 ^ back.length) same
    simpa only [Nat.mul_comm _ (10 ^ back.length), Nat.mul_add_div positive,
      Nat.div_eq_of_lt small, Nat.div_eq_of_lt small', Nat.add_zero] using quotient
  · have remainder := congrArg (· % 10 ^ back.length) same
    simpa only [Nat.mul_add_mod', Nat.mod_eq_of_lt small, Nat.mod_eq_of_lt small'] using remainder

/-- Equally many digits are told apart by their number. -/
theorem eq_of_natOfDigits_eq {digits others : List Char} (all : AllDigits digits)
    (othersAll : AllDigits others) (lengths : digits.length = others.length)
    (same : natOfDigits digits = natOfDigits others) : digits = others := by
  induction digits generalizing others with
  | nil => exact (List.length_eq_zero_iff.1 lengths.symm).symm
  | cons c digits inductionHypothesis =>
    obtain ⟨d, others, rfl⟩ := List.exists_cons_of_length_eq_add_one lengths.symm
    rw [← List.singleton_append, allDigits_append] at all othersAll
    have lengths : digits.length = others.length := by simpa using lengths
    obtain ⟨first, rest⟩ :=
      @natOfDigits_append_inj [c] digits [d] others all.2 othersAll.2 lengths same
    rw [inductionHypothesis all.2 othersAll.2 lengths rest]
    have cBounds := toNat_bounds_of_isDigit (all.1 c List.mem_cons_self)
    have dBounds := toNat_bounds_of_isDigit (othersAll.1 d List.mem_cons_self)
    have codes : c.toNat = d.toNat := by
      simp only [natOfDigits_cons, List.length_nil, natOfDigits_nil] at first
      omega
    rw [Char.toNat_inj.1 codes]

/-- A number stays below the power of ten with as many places as it has digits. -/
theorem lt_pow_length_toDigits (n : Nat) : n < 10 ^ (Nat.toDigits 10 n).length :=
  (Nat.length_toDigits_le_iff (by decide) Nat.length_toDigits_pos).1 (Nat.le_refl _)

/-- A positive number reaches the power of ten with one place less. -/
theorem pow_length_toDigits_le {n : Nat} (positive : 0 < n) :
    10 ^ ((Nat.toDigits 10 n).length - 1) ≤ n := by
  by_cases single : (Nat.toDigits 10 n).length - 1 = 0
  · rw [single]
    exact positive
  · apply Nat.not_lt.1
    intro small
    have fewer := (Nat.length_toDigits_le_iff (b := 10) (by decide)
      (Nat.pos_of_ne_zero single)).2 small
    omega

/-! ## Zeros -/

/-- No zero stands in front of other digits. -/
def IsUnpadded (digits : List Char) : Prop := digits = ['0'] ∨ digits.head? ≠ some '0'

theorem isUnpadded_toDigits (n : Nat) : IsUnpadded (Nat.toDigits 10 n) := by
  rcases Nat.eq_zero_or_pos n with rfl | positive
  · exact .inl rfl
  · right
    intro zero
    obtain ⟨rest, padded⟩ := List.head?_eq_some_iff.1 zero
    have reached := pow_length_toDigits_le positive
    have number := natOfDigits_toDigits n
    have all := allDigits_toDigits n
    rw [padded] at reached number all
    -- Without the zero there are too few digits for the number.
    have below := natOfDigits_lt fun c member => all c (List.mem_cons_of_mem _ member)
    rw [natOfDigits_cons, show '0'.toNat - 48 = 0 from rfl, Nat.zero_mul, Nat.zero_add] at number
    rw [List.length_cons, Nat.add_sub_cancel] at reached
    omega

/-- Digits without a zero in front are those that their number is written with. -/
theorem toDigits_natOfDigits {digits : List Char} (nonempty : digits ≠ []) (all : AllDigits digits)
    (unpadded : IsUnpadded digits) : Nat.toDigits 10 (natOfDigits digits) = digits := by
  rcases unpadded with rfl | nonzero
  · rfl
  · obtain ⟨c, rest, rfl⟩ := List.exists_cons_of_ne_nil nonempty
    have reached : 10 ^ rest.length ≤ natOfDigits (c :: rest) :=
      pow_le_natOfDigits (all c List.mem_cons_self) fun zero => nonzero (by simp [zero])
    have fits := (Nat.length_toDigits_le_iff (b := 10) (by decide) (by simp)).2 (natOfDigits_lt all)
    have below := lt_pow_length_toDigits (natOfDigits (c :: rest))
    have longer :=
      (Nat.pow_lt_pow_iff_right (a := 10) (by decide)).1 (Nat.lt_of_le_of_lt reached below)
    apply eq_of_natOfDigits_eq (allDigits_toDigits _) all
    · rw [List.length_cons] at fits ⊢
      omega
    · rw [natOfDigits_toDigits]

/-- Zeros at the head do not count. -/
theorem natOfDigits_dropWhile_zero (digits : List Char) :
    natOfDigits (digits.dropWhile (· = '0')) = natOfDigits digits := by
  induction digits with
  | nil => rfl
  | cons c digits inductionHypothesis =>
    by_cases zero : c = '0'
    · subst zero
      rw [List.dropWhile_cons_of_pos (by simp), inductionHypothesis, natOfDigits_cons]
      simp
    · rw [List.dropWhile_cons_of_neg (by simpa using zero)]

def withoutTrailingZeros (digits : List Char) : List Char :=
  (digits.reverse.dropWhile (· = '0')).reverse

/-- The zeros at the end of digits are what they lack without them. -/
theorem withoutTrailingZeros_append (digits : List Char) :
    ∃ count, withoutTrailingZeros digits ++ List.replicate count '0' = digits := by
  have zeros : ∀ c ∈ digits.reverse.takeWhile (· = '0'), c = '0' := fun c member =>
    of_decide_eq_true (List.all_eq_true.1 List.all_takeWhile c member)
  refine ⟨(digits.reverse.takeWhile (· = '0')).length, ?_⟩
  -- The zeros are those at the head of the reversed digits.
  have split : (digits.reverse.takeWhile (· = '0') ++ digits.reverse.dropWhile (· = '0')).reverse
      = digits.reverse.reverse := by
    rw [List.takeWhile_append_dropWhile]
  rw [List.reverse_append, List.reverse_reverse, List.eq_replicate_of_mem zeros,
    List.reverse_replicate] at split
  exact split

/-- The last digit is there, and no zero. -/
def EndsNonzero (digits : List Char) : Prop := ∃ front c, digits = front ++ [c] ∧ c ≠ '0'

theorem EndsNonzero.mod_ten {digits : List Char} (ends : EndsNonzero digits)
    (all : AllDigits digits) : natOfDigits digits % 10 ≠ 0 := by
  obtain ⟨front, c, rfl, nonzero⟩ := ends
  have digit := all c (by simp)
  have bounds := toNat_bounds_of_isDigit digit
  have differs : c.toNat ≠ 48 := fun same => nonzero (Char.toNat_inj.1 same)
  have last : natOfDigits (front ++ [c]) = natOfDigits front * 10 + (c.toNat - 48) := by
    simp [natOfDigits_append, natOfDigits_cons]
  omega

theorem endsNonzero_withoutTrailingZeros {digits : List Char}
    (kept : withoutTrailingZeros digits ≠ []) : EndsNonzero (withoutTrailingZeros digits) := by
  unfold withoutTrailingZeros at kept ⊢
  have stopped : Text.Stops (fun c => decide (c = '0'))
      (digits.reverse.dropWhile fun c => decide (c = '0')) := Text.stops_dropWhile _
  generalize digits.reverse.dropWhile (fun c => decide (c = '0')) = reversed at *
  cases reversed with
  | nil => exact absurd rfl kept
  | cons c reversed => exact ⟨reversed.reverse, c, by simp, by simpa using stopped⟩

end RuleAtlas.Binary64
