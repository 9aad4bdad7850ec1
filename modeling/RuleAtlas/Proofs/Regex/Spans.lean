import Mathlib.Data.Finset.Card
import RuleAtlas.Regex.Matching

/-! # What regular expressions match

An expression spans a text from one place to another.  The relation says what the expression
means; the places that are computed for matching are those that it gives.  A repetition never
needs more rounds than the text has places, since a way from one place to another that comes
to the same place twice can be cut short. -/

namespace RuleAtlas.Regex

/-! ## Rounds -/

/-- One place is reached from another in the given number of rounds. -/
def Rounds (round : Nat → Nat → Prop) : (count : Nat) → Nat → Nat → Prop
  | 0, i, j => i = j
  | count + 1, i, j => ∃ k, round i k ∧ Rounds round count k j

section
variable {round : Nat → Nat → Prop} {size count i j : Nat}

theorem rounds_add {first second : Nat} :
    Rounds round (first + second) i j ↔
      ∃ k, Rounds round first i k ∧ Rounds round second k j := by
  induction first generalizing i with
  | zero => simp [Rounds]
  | succ first inductionHypothesis =>
    rw [Nat.succ_add]
    simp only [Rounds, inductionHypothesis]
    constructor
    · rintro ⟨k, once, l, before, behind⟩
      exact ⟨l, ⟨k, once, before⟩, behind⟩
    · rintro ⟨l, ⟨k, once, before⟩, behind⟩
      exact ⟨k, once, l, before, behind⟩

/-- Rounds do not lead out of places that no single round leads out of. -/
theorem Rounds.of_closed {places : Places}
    (closed : ∀ {i j}, i ∈ places → round i j → j ∈ places)
    (rounds : Rounds round count i j) (start : i ∈ places) : j ∈ places := by
  induction count generalizing i with
  | zero => exact rounds ▸ start
  | succ count inductionHypothesis =>
    obtain ⟨k, once, more⟩ := rounds
    exact inductionHypothesis more (closed start once)

theorem Rounds.le (inside : ∀ {i j}, round i j → i ≤ size → j ≤ size)
    (rounds : Rounds round count i j) (start : i ≤ size) : j ≤ size := by
  induction count generalizing i with
  | zero => exact rounds ▸ start
  | succ count inductionHypothesis =>
    obtain ⟨k, once, more⟩ := rounds
    exact inductionHypothesis more (inside once start)

/-- A way with more rounds than places comes to a place twice, and what lies between can be left
out. -/
theorem Rounds.cut (inside : ∀ {i j}, round i j → i ≤ size → j ≤ size)
    (rounds : Rounds round count i j) (start : i ≤ size) (long : size < count) :
    ∃ fewer < count, Rounds round fewer i j := by
  have stations (n : Nat) (before : n ∈ Finset.range (count + 1)) :
      ∃ k, Rounds round n i k ∧ Rounds round (count - n) k j := by
    rw [← Nat.add_sub_of_le (Nat.lt_succ_iff.1 (Finset.mem_range.1 before))] at rounds
    exact rounds_add.1 rounds
  choose! station reaches leads using stations
  have crowded : (Finset.range (size + 1)).card < (Finset.range (count + 1)).card := by
    simpa only [Finset.card_range, Nat.add_lt_add_iff_right] using long
  have within : Set.MapsTo station (Finset.range (count + 1)) (Finset.range (size + 1)) :=
    fun n before => Finset.mem_range.2 (Nat.lt_succ_iff.2 ((reaches n before).le inside start))
  obtain ⟨n, early, m, late, distinct, same⟩ :=
    Finset.exists_ne_map_eq_of_card_lt_of_maps_to crowded within
  wlog ordered : n < m generalizing n m
  · exact this m late n early distinct.symm same.symm (by omega)
  rw [Finset.mem_range] at late
  exact ⟨n + (count - m), by omega,
    rounds_add.2 ⟨station n, reaches n early, same ▸ leads m (Finset.mem_range.2 late)⟩⟩

theorem Rounds.exists_le (inside : ∀ {i j}, round i j → i ≤ size → j ≤ size)
    (rounds : Rounds round count i j) (start : i ≤ size) :
    ∃ fewer ≤ count, fewer ≤ size ∧ Rounds round fewer i j := by
  induction count using Nat.strongRecOn with
  | ind count inductionHypothesis =>
    by_cases long : size < count
    · obtain ⟨less, shorter, cut⟩ := rounds.cut inside start long
      obtain ⟨fewer, atMost, few, rest⟩ := inductionHypothesis less shorter cut
      exact ⟨fewer, atMost.trans shorter.le, few, rest⟩
    · exact ⟨count, le_rfl, not_lt.1 long, rounds⟩

end

/-! ## Spans -/

/-- The expression matches the text from one place to another.  No bound is below the least
number of rounds. -/
def Spans (text : Array Char) : Regex → Nat → Nat → Prop
  | .empty, i, j => i = j
  | .set characters, i, j => (∃ c, text[i]? = some c ∧ characters.contains c) ∧ j = i + 1
  | .look condition, i, j =>
    condition.holds (if i = 0 then none else text[i - 1]?) text[i]? ∧ i = j
  | .sequence first second, i, j => ∃ k, Spans text first i k ∧ Spans text second k j
  | .choice first second, i, j => Spans text first i j ∨ Spans text second i j
  | .repeated body least most, i, j =>
    ∃ count, least ≤ count ∧ (∀ bound ∈ most, count ≤ max least bound) ∧
      Rounds (Spans text body) count i j
  | .group body, i, j => Spans text body i j

/-- The expression matches the text from its start to its end. -/
def MatchesWhole (regex : Regex) (text : String) : Prop :=
  regex.Spans text.toList.toArray 0 text.toList.length

theorem Spans.le {text : Array Char} {regex : Regex} {i j : Nat}
    (spans : regex.Spans text i j) (start : i ≤ text.size) : j ≤ text.size := by
  induction regex generalizing i j with
  | empty => exact spans ▸ start
  | set characters =>
    obtain ⟨⟨c, here, -⟩, rfl⟩ := spans
    exact (Array.getElem?_eq_some_iff.1 here).1
  | look condition => exact spans.2 ▸ start
  | sequence first second firstLe secondLe =>
    obtain ⟨k, before, behind⟩ := spans
    exact secondLe behind (firstLe before start)
  | choice first second firstLe secondLe =>
    exact spans.elim (firstLe · start) (secondLe · start)
  | repeated body least most inductionHypothesis =>
    obtain ⟨count, -, -, rounds⟩ := spans
    exact rounds.le inductionHypothesis start
  | group body inductionHypothesis => exact inductionHypothesis spans start

/-! ## The places that are computed -/

theorem mem_mergePlaces {places others : Places} {place : Nat} :
    place ∈ mergePlaces places others ↔ place ∈ places ∨ place ∈ others := by
  fun_induction mergePlaces places others with
  | case1 => simp
  | case2 => simp
  | case3 p places q others below inductionHypothesis => simp [inductionHypothesis, or_assoc]
  | case4 p places q others notBelow above inductionHypothesis =>
    simp [inductionHypothesis, or_left_comm]
  | case5 p places q others notBelow notAbove inductionHypothesis =>
    obtain rfl : p = q := by omega
    simp only [List.mem_cons, inductionHypothesis]
    tauto

section
variable {round : Nat → Nat → Prop} {step : Places → Places} {size : Nat}

/-- The step leads from places in a text to all places that one round leads to. -/
structure Advances (size : Nat) (round : Nat → Nat → Prop) (step : Places → Places) : Prop where
  inside : ∀ {i j}, round i j → i ≤ size → j ≤ size
  mem : ∀ {places}, (∀ i ∈ places, i ≤ size) → ∀ {j}, j ∈ step places ↔ ∃ i ∈ places, round i j

variable {places : Places} (advances : Advances size round step)
  (starts : ∀ i ∈ places, i ≤ size)
include advances starts

theorem Advances.inside_step : ∀ j ∈ step places, j ≤ size := by
  intro j member
  obtain ⟨i, start, once⟩ := (advances.mem starts).1 member
  exact advances.inside once (starts i start)

theorem Advances.exists_succ {count j : Nat} :
    (∃ i ∈ places, Rounds round (count + 1) i j) ↔ ∃ k ∈ step places, Rounds round count k j := by
  constructor
  · rintro ⟨i, start, k, once, more⟩
    exact ⟨k, (advances.mem starts).2 ⟨i, start, once⟩, more⟩
  · rintro ⟨k, member, more⟩
    obtain ⟨i, start, once⟩ := (advances.mem starts).1 member
    exact ⟨i, start, k, once, more⟩

theorem Advances.mem_of_step_eq (same : step places = places) (count : Nat) {j : Nat} :
    j ∈ places ↔ ∃ i ∈ places, Rounds round count i j := by
  induction count with
  | zero => simp [Rounds]
  | succ count inductionHypothesis =>
    rw [advances.exists_succ starts, same]
    exact inductionHypothesis

theorem Advances.mem_iterate (count : Nat) {j : Nat} :
    j ∈ iterate step count places ↔ ∃ i ∈ places, Rounds round count i j := by
  induction count generalizing places with
  | zero => simp [iterate, Rounds]
  | succ count inductionHypothesis =>
    rw [iterate]
    split
    case isTrue same => exact advances.mem_of_step_eq starts same (count + 1)
    case isFalse =>
      rw [inductionHypothesis (advances.inside_step starts), advances.exists_succ starts]

theorem Advances.mem_accumulate (most : Nat) {j : Nat} :
    j ∈ accumulate step most places ↔ ∃ i ∈ places, ∃ count ≤ most, Rounds round count i j := by
  induction most generalizing places with
  | zero => simp [accumulate, Rounds]
  | succ most inductionHypothesis =>
    rw [accumulate]
    split
    case isTrue same =>
      constructor
      · intro member
        exact ⟨j, member, 0, Nat.zero_le _, rfl⟩
      · rintro ⟨i, start, count, -, rounds⟩
        -- A round leads from a place to one of the places.
        refine rounds.of_closed (fun {i j} start once => ?_) start
        rw [← same, mem_mergePlaces]
        exact .inr ((advances.mem starts).2 ⟨i, start, once⟩)
    case isFalse =>
      have inside : ∀ i ∈ mergePlaces places (step places), i ≤ size := fun i member =>
        (mem_mergePlaces.1 member).elim (starts i) (advances.inside_step starts i)
      rw [inductionHypothesis inside]
      constructor
      · rintro ⟨i, member, count, few, rounds⟩
        rcases mem_mergePlaces.1 member with start | reached
        · exact ⟨i, start, count, by omega, rounds⟩
        · obtain ⟨k, start, once⟩ := (advances.mem starts).1 reached
          exact ⟨k, start, count + 1, by omega, i, once, rounds⟩
      · rintro ⟨i, start, count, few, rounds⟩
        cases count with
        | zero => exact ⟨i, mem_mergePlaces.2 (.inl start), 0, Nat.zero_le _, rounds⟩
        | succ count =>
          obtain ⟨k, once, more⟩ := rounds
          exact ⟨k, mem_mergePlaces.2 (.inr ((advances.mem starts).2 ⟨i, start, once⟩)), count,
            by omega, more⟩

/-- After the least number of rounds it is enough to look for as many more as there are places,
since fewer rounds do when there are more of them. -/
theorem Advances.mem_repeated {least more : Nat} {most : Option Nat}
    (few : ∀ count ≤ more, ∀ bound ∈ most, least + count ≤ max least bound)
    (enough : ∀ count ≤ size, (∀ bound ∈ most, least + count ≤ max least bound) → count ≤ more)
    {j : Nat} : j ∈ accumulate step more (iterate step least places) ↔
      ∃ i ∈ places, ∃ count, least ≤ count ∧ (∀ bound ∈ most, count ≤ max least bound) ∧
        Rounds round count i j := by
  have between : ∀ k ∈ iterate step least places, k ≤ size := fun k member => by
    obtain ⟨i, start, rounds⟩ := (advances.mem_iterate starts least).1 member
    exact rounds.le advances.inside (starts i start)
  rw [advances.mem_accumulate between]
  constructor
  · rintro ⟨k, member, count, atMost, behind⟩
    obtain ⟨i, start, before⟩ := (advances.mem_iterate starts least).1 member
    exact ⟨i, start, least + count, Nat.le_add_right _ _, few count atMost,
      rounds_add.2 ⟨k, before, behind⟩⟩
  · rintro ⟨i, start, count, atLeast, bounded, rounds⟩
    rw [← Nat.add_sub_of_le atLeast, rounds_add] at rounds
    obtain ⟨k, before, behind⟩ := rounds
    have member := (advances.mem_iterate starts least).2 ⟨i, start, before⟩
    obtain ⟨fewer, less, short, cut⟩ := behind.exists_le advances.inside (between k member)
    refine ⟨k, member, fewer, enough fewer short fun bound isBound => ?_, cut⟩
    have := bounded bound isBound
    omega

end

/-- The expression can stop at the places to which it matches the text from one of the starts. -/
theorem mem_stops (text : Array Char) (regex : Regex) {starts : Places}
    (within : ∀ i ∈ starts, i ≤ text.size) {j : Nat} :
    j ∈ stops text regex starts ↔ ∃ i ∈ starts, regex.Spans text i j := by
  -- Over the expression, for all starts: where the first part of a sequence stops, its second
  -- part starts.
  induction regex generalizing starts j with
  | empty => simp [stops, Spans]
  | set characters =>
    simp only [stops, Spans, List.mem_map, List.mem_filter, Option.any_eq_true]
    constructor
    · rintro ⟨i, ⟨start, here⟩, rfl⟩
      exact ⟨i, start, here, rfl⟩
    · rintro ⟨i, start, here, rfl⟩
      exact ⟨i, ⟨start, here⟩, rfl⟩
  | look condition =>
    simp only [stops, Spans, List.mem_filter]
    constructor
    · rintro ⟨start, holds⟩
      exact ⟨j, start, holds, rfl⟩
    · rintro ⟨i, start, holds, rfl⟩
      exact ⟨start, holds⟩
  | sequence first second firstMem secondMem =>
    have between : ∀ k ∈ stops text first starts, k ≤ text.size := fun k member => by
      obtain ⟨i, start, spans⟩ := (firstMem within).1 member
      exact spans.le (within i start)
    simp only [stops, Spans, secondMem between, firstMem within]
    constructor
    · rintro ⟨k, ⟨i, start, before⟩, behind⟩
      exact ⟨i, start, k, before, behind⟩
    · rintro ⟨i, start, k, before, behind⟩
      exact ⟨k, ⟨i, start, before⟩, behind⟩
  | choice first second firstMem secondMem =>
    simp only [stops, Spans, mem_mergePlaces, firstMem within, secondMem within]
    constructor
    · rintro (⟨i, start, spans⟩ | ⟨i, start, spans⟩)
      · exact ⟨i, start, .inl spans⟩
      · exact ⟨i, start, .inr spans⟩
    · rintro ⟨i, start, spans | spans⟩
      · exact .inl ⟨i, start, spans⟩
      · exact .inr ⟨i, start, spans⟩
  | repeated body least most inductionHypothesis =>
    have advances : Advances text.size (body.Spans text) (stops text body) :=
      ⟨fun spans => spans.le, fun within => inductionHypothesis within⟩
    simp only [stops, Spans]
    refine advances.mem_repeated within (fun count few bound isBound => ?_)
      fun count few bounded => ?_
    · obtain rfl := isBound
      simp only at few
      omega
    · cases most with
      | none => exact few.trans (Nat.le_succ _)
      | some bound =>
        have := bounded bound rfl
        simp only
        omega
  | group body inductionHypothesis => exact inductionHypothesis within

theorem isFoundIn_iff (regex : Regex) (text : String) : regex.isFoundIn text = true ↔
    ∃ i ≤ text.toList.length, ∃ j, regex.Spans text.toList.toArray i j := by
  have within : ∀ i ∈ List.range (text.toList.toArray.size + 1), i ≤ text.toList.toArray.size :=
    fun i member => Nat.lt_succ_iff.1 (List.mem_range.1 member)
  rw [isFoundIn, Bool.not_eq_true', List.isEmpty_eq_false_iff_exists_mem]
  constructor
  · rintro ⟨j, member⟩
    obtain ⟨i, start, spans⟩ := (mem_stops _ _ within).1 member
    exact ⟨i, within i start, j, spans⟩
  · rintro ⟨i, start, j, spans⟩
    exact ⟨j, (mem_stops _ _ within).2
      ⟨i, List.mem_range.2 (Nat.lt_succ_iff.2 start), spans⟩⟩

end RuleAtlas.Regex
