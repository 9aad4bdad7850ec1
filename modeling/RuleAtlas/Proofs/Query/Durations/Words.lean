import RuleAtlas.Proofs.Query.Bytes.Following
import RuleAtlas.Proofs.Query.Durations.Amounts

/-! # Durations in bytes and 64-bit words

This reader of durations looks at the bytes of a text.  It counts those of digits and of letters,
cuts the text behind as many bytes, looks units up by their place in the table, and keeps every
number in a word of 64 bits, where a product or a sum may be too large.  Every cut, every place
and every product and sum is checked, and cuts and places that are out of bounds stop a call in a
way of their own.  It answers as reading by lists and natural numbers does; so it never leaves
its bounds, and its words are the exact numbers. -/

namespace RuleAtlas.Query.Duration

open Binary64 (AllDigits natOfDigits)
open Text (byteLength)

/-- Why a call stops: its text is no duration, or the reader itself is at fault. -/
inductive WordHalt where
  | refused (error : DurationError)
  | outOfBounds
  | outOfSteps

/-! ## Words -/

def checkedMul? (a b : UInt64) : Option UInt64 :=
  if a.toNat * b.toNat < Nat.pow 2 64 then some (a * b) else none

def checkedAdd? (a b : UInt64) : Option UInt64 :=
  if a.toNat + b.toNat < Nat.pow 2 64 then some (a + b) else none

/-- The number with one digit more. -/
def pushDigit? (value : UInt64) (c : Char) : Option UInt64 :=
  (checkedMul? value 10).bind fun product => checkedAdd? product (.ofNat (c.toNat - 48))

/-- The number that digits stand for. -/
def word? (digits : List Char) : Option UInt64 := digits.foldlM pushDigit? 0

/-! ## Bytes -/

def bytes (text : List Char) : List UInt8 := text.flatMap String.utf8EncodeChar

def isDigitByte (byte : UInt8) : Bool := 48 ≤ byte && byte ≤ 57

def isLetterByte (byte : UInt8) : Bool := (65 ≤ byte && byte ≤ 90) || (97 ≤ byte && byte ≤ 122)

/-- How many bytes of this kind the text begins with. -/
def countBytes (kind : UInt8 → Bool) (text : List Char) : Nat :=
  ((bytes text).takeWhile kind).length

/-- The text in front of the byte at this place, and from there on. -/
def cut (count : Nat) (text : List Char) : Except WordHalt (List Char × List Char) :=
  match takeBytes? count text, dropBytes? count text with
  | some front, some back => .ok (front, back)
  | _, _ => .error .outOfBounds

/-! ## The reader -/

/-- What is left of a text, the milliseconds before it, and the first unit that it may use. -/
structure Tally where
  rest : List Char
  millis : UInt64
  nextUnit : Nat

def unitAt (index : Nat) : Except WordHalt DurationUnit :=
  match durationUnits[index]? with
  | some unit => .ok unit
  | none => .error .outOfBounds

/-- Reads one amount, which is refused in the name of the whole text. -/
def readAmount (text : String) (tally : Tally) : Except WordHalt Tally := do
  let orRefuse {α : Type} (found : Option α) : Except WordHalt α :=
    found.elim (.error (.refused ⟨text⟩)) .ok
  let count := countBytes isDigitByte tally.rest
  if count = 0 then .error (.refused ⟨text⟩)
  else
    let (digits, behind) ← cut count tally.rest
    let value ← orRefuse (word? digits)
    let (letters, rest) ← cut (countBytes isLetterByte behind) behind
    let index ← orRefuse (durationUnits.findIdx? (letters = ·.name))
    if index < tally.nextUnit then .error (.refused ⟨text⟩)
    else
      let unit ← unitAt index
      let product ← orRefuse (checkedMul? value (.ofNat unit.millis))
      let millis ← orRefuse (checkedAdd? product tally.millis)
      pure ⟨rest, millis, index + 1⟩

/-- Reads amounts to the end of a text, within the given number of steps. -/
def readAmounts (text : String) : (steps : Nat) → Tally → Except WordHalt UInt64
  | 0, _ => .error .outOfSteps
  | steps + 1, tally =>
    if tally.rest.isEmpty then .ok tally.millis
    else readAmount text tally >>= readAmounts text steps

def readWords (steps : Nat) (text : String) : Except WordHalt UInt64 :=
  if text = "0" then .ok 0
  else if text.isEmpty then .error (.refused ⟨text⟩)
  else readAmounts text steps ⟨text.toList, 0, 0⟩

/-! ## Words are exact -/

/-- The word of a number, if the number fits. -/
def fit? (n : Nat) : Option UInt64 := if n < limit then some (.ofNat n) else none

theorem fit?_of_le {n : Nat} (large : limit ≤ n) : fit? n = none :=
  if_neg (Nat.not_lt.2 large)

theorem fit?_of_lt {n : Nat} (small : n < limit) :
    ∃ word : UInt64, fit? n = some word ∧ word.toNat = n := by
  refine ⟨.ofNat n, if_pos small, ?_⟩
  exact Nat.mod_eq_of_lt small

theorem checkedMul?_eq (a b : UInt64) : checkedMul? a b = fit? (a.toNat * b.toNat) := by
  simp [checkedMul?, fit?, limit]

theorem checkedAdd?_eq (a b : UInt64) : checkedAdd? a b = fit? (a.toNat + b.toNat) := by
  simp [checkedAdd?, fit?, limit]

theorem pushDigit?_eq {value : UInt64} {c : Char} (digit : c.isDigit = true) :
    pushDigit? value c = fit? (value.toNat * 10 + (c.toNat - 48)) := by
  have bounds := Binary64.toNat_bounds_of_isDigit digit
  have small : (UInt64.ofNat (c.toNat - 48)).toNat = c.toNat - 48 :=
    Nat.mod_eq_of_lt (by omega)
  rw [pushDigit?, checkedMul?_eq]
  by_cases fits : value.toNat * 10 < limit
  · obtain ⟨product, same, isExact⟩ := fit?_of_lt fits
    have ten : value.toNat * (10 : UInt64).toNat = value.toNat * 10 := rfl
    rw [ten, same, Option.bind_some, checkedAdd?_eq, isExact, small]
  · have large := Nat.not_lt.1 fits
    have ten : value.toNat * (10 : UInt64).toNat = value.toNat * 10 := rfl
    rw [ten, fit?_of_le large, Option.bind_none, fit?_of_le (by omega)]

/-- Digits behind a number that fits. -/
theorem foldlM_pushDigit? {digits : List Char} (all : AllDigits digits) (value : UInt64) :
    digits.foldlM pushDigit? value =
      fit? (value.toNat * 10 ^ digits.length + natOfDigits digits) := by
  induction digits generalizing value with
  | nil =>
    have small : value.toNat < limit := value.toNat_lt
    simp [fit?, small]
  | cons c digits inductionHypothesis =>
    obtain ⟨digit, others⟩ := List.forall_mem_cons.1 all
    have sum : value.toNat * 10 ^ (c :: digits).length + natOfDigits (c :: digits) =
        (value.toNat * 10 + (c.toNat - 48)) * 10 ^ digits.length + natOfDigits digits := by
      rw [Binary64.natOfDigits_cons, List.length_cons, Nat.pow_succ]
      ring
    rw [List.foldlM_cons, pushDigit?_eq digit, sum]
    by_cases fits : value.toNat * 10 + (c.toNat - 48) < limit
    · obtain ⟨pushed, same, isExact⟩ := fit?_of_lt fits
      rw [same, ← isExact]
      exact inductionHypothesis others pushed
    · have large := Nat.not_lt.1 fits
      have grows := Nat.le_mul_of_pos_right (value.toNat * 10 + (c.toNat - 48))
        (Nat.pow_pos (n := digits.length) (by decide : 0 < 10))
      rw [fit?_of_le large, fit?_of_le (by omega)]
      rfl

theorem word?_eq {digits : List Char} (all : AllDigits digits) :
    word? digits = fit? (natOfDigits digits) := by
  have folded := foldlM_pushDigit? all 0
  rwa [UInt64.toNat_zero, Nat.zero_mul, Nat.zero_add] at folded

/-- Reading digits, multiplying and adding each refuse numbers that are too large.  Together they
refuse if the sum is too large, since none of them refuses a part of a sum that fits. -/
theorem checked_eq {digits : List Char} (all : AllDigits digits) {size : Nat} (positive : 0 < size)
    (small : size < limit) (millis : UInt64) :
    ((word? digits).bind fun value => (checkedMul? value (.ofNat size)).bind fun product =>
      checkedAdd? product millis) = fit? (millis.toNat + natOfDigits digits * size) := by
  have sizeOf : (UInt64.ofNat size).toNat = size := Nat.mod_eq_of_lt small
  have grows := Nat.le_mul_of_pos_right (natOfDigits digits) positive
  rw [word?_eq all]
  by_cases number : natOfDigits digits < limit
  · obtain ⟨value, same, isExact⟩ := fit?_of_lt number
    rw [same, Option.bind_some, checkedMul?_eq, isExact, sizeOf]
    by_cases fits : natOfDigits digits * size < limit
    · obtain ⟨product, same, isExact⟩ := fit?_of_lt fits
      rw [same, Option.bind_some, checkedAdd?_eq, isExact, Nat.add_comm]
    · rw [fit?_of_le (Nat.not_lt.1 fits), Option.bind_none, fit?_of_le (by omega)]
  · rw [fit?_of_le (Nat.not_lt.1 number), Option.bind_none, fit?_of_le (by omega)]

/-! ## Cuts are between characters -/

/-- A character of ASCII is one byte, and every other one begins with a byte beyond ASCII. -/
theorem utf8EncodeChar_cases (c : Char) :
    (c.toNat < 128 ∧ String.utf8EncodeChar c = [.ofNat c.toNat]) ∨
      (128 ≤ c.toNat ∧ ∃ byte more, String.utf8EncodeChar c = byte :: more ∧
        192 ≤ byte.toNat) := by
  have value : c.val.toNat = c.toNat := rfl
  unfold String.utf8EncodeChar
  simp only [value]
  by_cases one : c.toNat ≤ 127
  · exact .inl ⟨by omega, if_pos one⟩
  right
  refine ⟨by omega, ?_⟩
  rw [if_neg one]
  by_cases two : c.toNat ≤ 2047
  · rw [if_pos two]
    refine ⟨_, _, rfl, ?_⟩
    rw [UInt8.toNat_ofNat']
    omega
  rw [if_neg two]
  by_cases three : c.toNat ≤ 65535
  · rw [if_pos three]
    refine ⟨_, _, rfl, ?_⟩
    rw [UInt8.toNat_ofNat']
    omega
  · rw [if_neg three]
    refine ⟨_, _, rfl, ?_⟩
    rw [UInt8.toNat_ofNat']
    omega

/-- The bytes of this kind are those of the characters of a kind, which are all ASCII. -/
structure Marks (byteKind : UInt8 → Bool) (kind : Char → Bool) : Prop where
  ascii : ∀ c, kind c = true → c.toNat < 128
  same : ∀ c, c.toNat < 128 → byteKind (.ofNat c.toNat) = kind c
  beyond : ∀ byte : UInt8, 192 ≤ byte.toNat → byteKind byte = false

theorem isDigitByte_iff {byte : UInt8} :
    isDigitByte byte = true ↔ 48 ≤ byte.toNat ∧ byte.toNat ≤ 57 := by
  simp only [isDigitByte, Bool.and_eq_true, decide_eq_true_eq, UInt8.le_iff_toNat_le]
  rfl

theorem marks_digit : Marks isDigitByte Char.isDigit where
  ascii c digit := by
    have bounds := Binary64.toNat_bounds_of_isDigit digit
    omega
  same c ascii := by
    rw [Bool.eq_iff_iff, isDigitByte_iff, Char.isDigit_iff_toNat, UInt8.toNat_ofNat',
      Nat.mod_eq_of_lt (Nat.lt_trans ascii (by decide))]
    rfl
  beyond byte large := by
    rw [← Bool.not_eq_true, isDigitByte_iff]
    omega

theorem isAlpha_iff_toNat {c : Char} : c.isAlpha = true ↔
    (65 ≤ c.toNat ∧ c.toNat ≤ 90) ∨ (97 ≤ c.toNat ∧ c.toNat ≤ 122) := by
  change (decide (c.val ≥ 65 ∧ c.val ≤ 90) ||
    (decide (c.val ≥ 97) && decide (c.val ≤ 122))) = true ↔ _
  simp only [Bool.or_eq_true, Bool.and_eq_true, decide_eq_true_eq, ge_iff_le,
    UInt32.le_iff_toNat_le]
  rfl

theorem isLetterByte_iff {byte : UInt8} : isLetterByte byte = true ↔
    (65 ≤ byte.toNat ∧ byte.toNat ≤ 90) ∨ (97 ≤ byte.toNat ∧ byte.toNat ≤ 122) := by
  simp only [isLetterByte, Bool.or_eq_true, Bool.and_eq_true, decide_eq_true_eq,
    UInt8.le_iff_toNat_le]
  rfl

theorem marks_letter : Marks isLetterByte Char.isAlpha where
  ascii c letter := by
    have bounds := isAlpha_iff_toNat.1 letter
    omega
  same c ascii := by
    rw [Bool.eq_iff_iff, isLetterByte_iff, isAlpha_iff_toNat, UInt8.toNat_ofNat',
      Nat.mod_eq_of_lt (Nat.lt_trans ascii (by decide))]
  beyond byte large := by
    rw [← Bool.not_eq_true, isLetterByte_iff]
    omega

section
variable {byteKind : UInt8 → Bool} {kind : Char → Bool}

/-- The bytes of a kind at the head of a text are those of the characters of the kind. -/
theorem countBytes_eq (marks : Marks byteKind kind) (text : List Char) :
    countBytes byteKind text = byteLength (text.takeWhile kind) := by
  unfold countBytes
  induction text with
  | nil => rfl
  | cons c text inductionHypothesis =>
    rw [bytes, List.flatMap_cons]
    obtain ⟨ascii, single⟩ | ⟨beyond, byte, more, begins, large⟩ := utf8EncodeChar_cases c
    · have size : c.utf8Size = 1 := by
        rw [← String.length_utf8EncodeChar, single]
        rfl
      rw [single, List.singleton_append, List.takeWhile_cons, marks.same c ascii,
        List.takeWhile_cons]
      cases kind c with
      | true =>
        rw [if_pos rfl, if_pos rfl, List.length_cons, Text.byteLength_cons, size, Nat.add_comm]
        exact congrArg (1 + ·) inductionHypothesis
      | false => rfl
    · have other : kind c ≠ true := fun held => by
        have small := marks.ascii c held
        omega
      rw [begins, List.cons_append, List.takeWhile_cons_of_neg (by simp [marks.beyond byte large]),
        List.takeWhile_cons_of_neg other]
      rfl

/-- A text is cut behind its first characters of a kind. -/
theorem cut_countBytes (marks : Marks byteKind kind) (text : List Char) :
    cut (countBytes byteKind text) text = .ok (text.takeWhile kind, text.dropWhile kind) := by
  have taken := takeBytes?_append (text.takeWhile kind) (text.dropWhile kind)
  have dropped := dropBytes?_append (text.takeWhile kind) (text.dropWhile kind)
  rw [List.takeWhile_append_dropWhile] at taken dropped
  rw [cut, countBytes_eq marks, taken, dropped]

theorem countBytes_eq_zero_iff (marks : Marks byteKind kind) (text : List Char) :
    countBytes byteKind text = 0 ↔ text.takeWhile kind = [] := by
  rw [countBytes_eq marks]
  cases text.takeWhile kind with
  | nil => simp
  | cons c run =>
    have positive := c.utf8Size_pos
    simp only [Text.byteLength_cons, reduceCtorEq, iff_false]
    omega

end

/-! ## Units by their place -/

/-- A text that does not begin with digits adds nothing up. -/
theorem addGroups_of_noGroup {text : List Char} (nonempty : text ≠ [])
    (noGroup : group? text = none) (units : List DurationUnit) (total : Nat) :
    addGroups units total text = none := by
  obtain ⟨c, text, rfl⟩ := List.exists_cons_of_ne_nil nonempty
  cases units with
  | nil => rfl
  | cons unit units =>
    rw [addGroups, noGroup]
    exact List.cons_ne_nil c text

/-- The first group of a text goes to the first unit with its letters. -/
theorem addGroups_of_group? {text : List Char} {group : Group} (found : group? text = some group)
    (units : List DurationUnit) (total : Nat) : addGroups units total text =
      (units.findIdx? (group.letters = ·.name)).bind fun index =>
        units[index]?.bind fun unit =>
          if total + group.value * unit.millis < limit then
            addGroups (units.drop (index + 1)) (total + group.value * unit.millis) group.rest
          else none := by
  induction units with
  | nil =>
    cases text with
    | nil => cases found
    | cons c text => rfl
  | cons unit units inductionHypothesis =>
    rw [addGroups_cons found, List.findIdx?_cons]
    by_cases same : group.letters = unit.name
    · simp [same]
    · rw [if_neg same, inductionHypothesis, if_neg (by simpa using same), Option.bind_map]
      rfl

/-- Behind the first units a name stands at its place among all of them, if it is none of the
first. -/
theorem findIdx?_drop {units : List DurationUnit}
    (distinct : units.Pairwise fun a b => b.name ≠ a.name) (letters : List Char) (count : Nat) :
    (units.drop count).findIdx? (letters = ·.name) =
      (units.findIdx? (letters = ·.name)).bind fun index =>
        if index < count then none else some (index - count) := by
  induction units generalizing count with
  | nil => simp
  | cons unit units inductionHypothesis =>
    obtain ⟨others, distinctTail⟩ := List.pairwise_cons.1 distinct
    cases count with
    | zero => simp
    | succ count =>
      rw [List.drop_succ_cons, List.findIdx?_cons]
      by_cases same : letters = unit.name
      · have none : (units.drop count).findIdx? (letters = ·.name) = none := by
          rw [List.findIdx?_eq_none_iff]
          intro other member
          simpa [same, eq_comm] using others other (List.mem_of_mem_drop member)
        rw [none, if_pos (by simpa using same), Option.bind_some, if_pos (Nat.zero_lt_succ count)]
      · rw [inductionHypothesis distinctTail, if_neg (by simpa using same), Option.bind_map]
        simp

/-! ## The reader answers as reading over lists -/

/-- What the reader has to answer where reading comes to this. -/
def answer (text : String) : Option Nat → Except WordHalt UInt64
  | none => .error (.refused ⟨text⟩)
  | some millis => .ok (.ofNat millis)

/-- What is to be added to a tally. -/
def Tally.added (tally : Tally) : Option Nat :=
  addGroups (durationUnits.drop tally.nextUnit) tally.millis.toNat tally.rest

/-- The first group of a tally goes to the unit of its letters, if that may still be used. -/
theorem Tally.added_of_group? {tally : Tally} {group : Group}
    (found : group? tally.rest = some group) : tally.added =
      (durationUnits.findIdx? (group.letters = ·.name)).bind fun index =>
        if index < tally.nextUnit then none
        else durationUnits[index]?.bind fun unit =>
          if tally.millis.toNat + group.value * unit.millis < limit then
            addGroups (durationUnits.drop (index + 1))
              (tally.millis.toNat + group.value * unit.millis) group.rest
          else none := by
  rw [Tally.added, addGroups_of_group? found, findIdx?_drop (by decide), Option.bind_assoc]
  congr 1
  funext index
  by_cases early : index < tally.nextUnit
  · rw [if_pos early, if_pos early, Option.bind_none]
  · have place : tally.nextUnit + (index - tally.nextUnit) = index := by omega
    rw [if_neg early, if_neg early, Option.bind_some, List.getElem?_drop, place]
    simp only [List.drop_drop, ← Nat.add_assoc, place]

theorem unit_bounds {unit : DurationUnit} (member : unit ∈ durationUnits) :
    0 < unit.millis ∧ unit.millis < limit := by
  have all : durationUnits.all (fun unit => 0 < unit.millis && unit.millis < limit) = true := by
    decide
  simpa using List.all_eq_true.1 all unit member

/-- The tally behind the next amount, if there is one and it can be added up. -/
def Tally.next? (tally : Tally) : Option Tally :=
  let digits := tally.rest.takeWhile Char.isDigit
  let behind := tally.rest.dropWhile Char.isDigit
  if digits = [] then none
  else
    (durationUnits.findIdx? (behind.takeWhile Char.isAlpha = ·.name)).bind fun index =>
      if index < tally.nextUnit then none
      else durationUnits[index]?.bind fun unit =>
        ((word? digits).bind fun value =>
          (checkedMul? value (.ofNat unit.millis)).bind (checkedAdd? · tally.millis)).map
            fun millis => ⟨behind.dropWhile Char.isAlpha, millis, index + 1⟩

/-- The place of a unit in the table is never out of bounds. -/
theorem getElem?_of_findIdx? {units : List DurationUnit} {letters : List Char} {index : Nat}
    (place : units.findIdx? (letters = ·.name) = some index) :
    ∃ unit ∈ units, units[index]? = some unit := by
  obtain ⟨inside, -⟩ := List.findIdx?_eq_some_iff_getElem.1 place
  exact ⟨units[index], List.getElem_mem inside, List.getElem?_eq_getElem inside⟩

/-- One amount is read as the next one, or refused where there is none. -/
theorem readAmount_eq (text : String) (tally : Tally) :
    readAmount text tally = tally.next?.elim (.error (.refused ⟨text⟩)) .ok := by
  unfold readAmount Tally.next?
  by_cases noDigits : tally.rest.takeWhile Char.isDigit = []
  · simp only [if_pos ((countBytes_eq_zero_iff marks_digit _).2 noDigits), if_pos noDigits]
    rfl
  simp only [if_neg (mt (countBytes_eq_zero_iff marks_digit _).1 noDigits), if_neg noDigits,
    cut_countBytes marks_digit, cut_countBytes marks_letter, bind, Except.bind]
  cases word? (tally.rest.takeWhile Char.isDigit) with
  | none => simp
  | some value =>
    generalize tally.rest.dropWhile Char.isDigit = behind
    cases place : durationUnits.findIdx? (behind.takeWhile Char.isAlpha = ·.name) with
    | none => simp
    | some index =>
      obtain ⟨unit, -, here⟩ := getElem?_of_findIdx? place
      simp only [Option.elim_some, Option.bind_some, unitAt, here]
      by_cases early : index < tally.nextUnit
      · rw [if_pos early, if_pos early]
        rfl
      · rw [if_neg early, if_neg early]
        cases checkedMul? value (.ofNat unit.millis) with
        | none => rfl
        | some product =>
          cases sum : checkedAdd? product tally.millis with
          | none => simp [sum]
          | some millis => simp [sum, pure, Except.pure]

/-- The next amount leaves less text. -/
theorem Tally.length_of_next? {tally next : Tally} (found : tally.next? = some next) :
    next.rest.length < tally.rest.length := by
  unfold Tally.next? at found
  simp only [Option.ite_none_left_eq_some, Option.bind_eq_some_iff, Option.map_eq_some_iff]
    at found
  obtain ⟨digits, -, -, -, -, -, -, -, rfl⟩ := found
  have whole := congrArg List.length
    (List.takeWhile_append_dropWhile (p := Char.isDigit) (l := tally.rest))
  have positive := List.length_pos_iff.2 digits
  have letters := (List.dropWhile_suffix (l := tally.rest.dropWhile Char.isDigit)
    Char.isAlpha).length_le
  rw [List.length_append] at whole
  simp only
  omega

/-- What is to be added to a tally is to be added to the next one. -/
theorem Tally.added_eq {tally : Tally} (nonempty : tally.rest ≠ []) :
    tally.added = tally.next?.bind Tally.added := by
  -- A round fails for want of digits, of a unit that may still follow, or of room.
  unfold Tally.next?
  by_cases noDigits : tally.rest.takeWhile Char.isDigit = []
  · rw [if_pos noDigits]
    exact addGroups_of_noGroup nonempty (if_pos (by simp [noDigits])) _ _
  have all : AllDigits (tally.rest.takeWhile Char.isDigit) :=
    fun c member => List.all_eq_true.1 List.all_takeWhile c member
  have found := @Tally.added_of_group? tally _
    (if_neg fun isEmpty => noDigits (List.isEmpty_iff.1 isEmpty))
  rw [if_neg noDigits, found]
  simp only
  cases place : durationUnits.findIdx?
      ((tally.rest.dropWhile Char.isDigit).takeWhile Char.isAlpha = ·.name) with
  | none => rfl
  | some index =>
    simp only [Option.bind_some]
    by_cases early : index < tally.nextUnit
    · simp only [if_pos early, Option.bind_none]
    obtain ⟨unit, member, here⟩ := getElem?_of_findIdx? place
    have bounds := unit_bounds member
    simp only [if_neg early, here, Option.bind_some]
    rw [checked_eq all bounds.1 bounds.2]
    by_cases fits : tally.millis.toNat +
        natOfDigits (tally.rest.takeWhile Char.isDigit) * unit.millis < limit
    · obtain ⟨millis, same, isExact⟩ := fit?_of_lt fits
      rw [if_pos fits, same, ← isExact]
      rfl
    · rw [if_neg fits, fit?_of_le (Nat.not_lt.1 fits)]
      rfl

/-- Within as many steps as there are characters, amounts are read to the end of a text. -/
theorem readAmounts_eq (text : String) {steps : Nat} {tally : Tally}
    (enough : tally.rest.length < steps) :
    readAmounts text steps tally = answer text tally.added := by
  induction steps generalizing tally with
  | zero => exact absurd enough (Nat.not_lt_zero _)
  | succ steps inductionHypothesis =>
    rw [readAmounts]
    by_cases finished : tally.rest = []
    · rw [if_pos (by simpa using finished), Tally.added, finished, addGroups_nil]
      exact congrArg Except.ok (UInt64.ofNat_toNat (x := tally.millis)).symm
    rw [if_neg (by simpa using finished), readAmount_eq, Tally.added_eq finished]
    cases found : tally.next? with
    | none => rfl
    | some next =>
      have shorter := Tally.length_of_next? found
      exact inductionHypothesis (by omega)

/-- In words of 64 bits a text is read as in natural numbers: no cut is out of bounds, and the
word is the exact sum. -/
theorem readWords_eq (text : String) {steps : Nat} (enough : text.toList.length < steps) :
    (readWords steps text).map UInt64.toNat = ((parse text).map millis).mapError .refused := by
  have zero : text.toList = ['0'] ↔ text = "0" := @String.toList_inj text "0"
  have empty : text.toList.isEmpty = text.isEmpty := by
    rw [Bool.eq_iff_iff, List.isEmpty_iff, String.isEmpty_iff, String.toList_eq_nil_iff]
  rw [readWords, parse, ofText?]
  by_cases isZero : text = "0"
  · rw [if_pos isZero, if_pos (zero.2 isZero)]
    rfl
  rw [if_neg isZero, if_neg (mt zero.1 isZero), empty]
  by_cases isEmpty : text.isEmpty = true
  · rw [if_pos isEmpty, if_pos isEmpty]
    rfl
  rw [if_neg isEmpty, if_neg isEmpty, readAmounts_eq text enough]
  have whole : (Tally.mk text.toList 0 0).added = addGroups durationUnits 0 text.toList := rfl
  rw [whole]
  cases added : addGroups durationUnits 0 text.toList with
  | none => rfl
  | some millis =>
    have small : millis < limit := addGroups_lt_limit (by decide) added
    exact congrArg Except.ok (Nat.mod_eq_of_lt small)

/-! ## Texts of durations -/

/-- A text is a duration if it spells milliseconds that stay below the limit, and then it is that
of these milliseconds; every other text is a syntax error.  In bytes and words of 64 bits the
answer is the same, with every cut between characters and every number exact. -/
theorem parse_exact (text : String) {steps : Nat} (enough : text.toList.length < steps) :
    (∀ duration, parse text = .ok duration ↔
      Spells text.toList duration.millis ∧ duration.millis < limit) ∧
    ((∀ millis, Spells text.toList millis → limit ≤ millis) →
      parse text = .error ⟨text⟩ ∧ (DurationError.mk text).toFailure.kind = .syntaxError) ∧
    (readWords steps text).map UInt64.toNat = ((parse text).map millis).mapError .refused := by
  refine ⟨fun duration => parse_eq_ok_iff, fun large => ?_, readWords_eq text enough⟩
  exact ⟨parse_eq_error_iff.2 ⟨rfl, large⟩, rfl⟩

/-- The longest duration, which has an amount of every unit. -/
theorem parse_exact_longest :
    let text := "584942417y18w3d14h25m51s615ms"
    text.toList.length < 30 ∧ parse text = .ok ⟨Nat.pow 2 64 - 1⟩ ∧
      (readWords 30 text).map UInt64.toNat = .ok (Nat.pow 2 64 - 1) := by
  intro text
  have enough : text.toList.length < 30 := by decide
  obtain ⟨accepted, -, words⟩ := parse_exact text enough
  let amounts : List Amount :=
    [⟨"584942417".toList, ⟨['y'], 365 * 24 * 60 * 60 * 1000⟩⟩,
     ⟨"18".toList, ⟨['w'], 7 * 24 * 60 * 60 * 1000⟩⟩,
     ⟨"3".toList, ⟨['d'], 24 * 60 * 60 * 1000⟩⟩,
     ⟨"14".toList, ⟨['h'], 60 * 60 * 1000⟩⟩,
     ⟨"25".toList, ⟨['m'], 60 * 1000⟩⟩,
     ⟨"51".toList, ⟨['s'], 1000⟩⟩,
     ⟨"615".toList, ⟨['m', 's'], 1⟩⟩]
  have falling : Falling durationUnits amounts :=
    ⟨by simp [amounts, AllDigits], List.Sublist.refl _⟩
  have parsed : parse text = .ok ⟨Nat.pow 2 64 - 1⟩ :=
    (accepted _).2 ⟨.inr ⟨amounts, by simp [amounts], falling, by decide, by decide⟩, by decide⟩
  rw [parsed] at words
  exact ⟨enough, parsed, words⟩

end RuleAtlas.Query.Duration
