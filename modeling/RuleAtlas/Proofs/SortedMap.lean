import Mathlib.Data.List.Pairwise
import Mathlib.Data.List.Perm.Basic
import RuleAtlas.SortedMap

/-! # Lookups in sorted maps

What a map holds under a key, after each operation.  A map is no more than its lookups: maps
that agree under every key are equal, since the order of the entries is fixed by the keys. -/

namespace RuleAtlas.SortedMap

variable {α β : Type} [Ord α] {key other : α} {value : β} {entries : List (α × β)}
  {map : SortedMap α β}

theorem contains_eq (map : SortedMap α β) (key : α) :
    map.contains key = (map.find? key).isSome := by
  rw [contains, find?, Option.isSome_map, List.isSome_find?]

section
variable [Std.LawfulEqOrd α]

/-- An entry of ascending entries is the one that is found under its key. -/
theorem find?_of_mem (ascending : entries.Pairwise fun a b => compare a.1 b.1 = .lt)
    (member : (key, value) ∈ entries) :
    entries.find? (fun entry => compare key entry.1 == .eq) = some (key, value) := by
  induction entries with
  | nil => cases member
  | cons head rest inductionHypothesis =>
    obtain ⟨before, restAscending⟩ := List.pairwise_cons.1 ascending
    rcases List.mem_cons.1 member with rfl | later
    · simp
    · -- The keys in front of it are smaller.
      have lower := before (key, value) later
      have apart : key ≠ head.1 := by
        rintro rfl
        simp at lower
      rw [List.find?_cons_of_neg (by simpa using apart)]
      exact inductionHypothesis restAscending later

theorem mem_entries_iff : (key, value) ∈ map.entries ↔ map.find? key = some value := by
  unfold find?
  constructor
  · intro member
    rw [find?_of_mem map.ascending member]
    rfl
  · intro found
    obtain ⟨entry, here, rfl⟩ := Option.map_eq_some_iff.1 found
    obtain rfl : key = entry.1 := by simpa using List.find?_some here
    exact List.mem_of_find?_eq_some here

theorem mem_keys_iff : key ∈ map.keys ↔ (map.find? key).isSome := by
  simp [keys, mem_entries_iff, Option.isSome_iff_exists]

/-! ## Operations -/

variable [DecidableEq α]

theorem find?_put : (put key value entries).find? (fun entry => compare other entry.1 == .eq) =
    if other = key then some (key, value)
    else entries.find? fun entry => compare other entry.1 == .eq := by
  induction entries with
  | nil => by_cases same : other = key <;> simp [put, same]
  | cons head rest inductionHypothesis =>
    by_cases same : other = key
    · subst same
      cases order : compare other head.1 with
      | lt => simp [put, order]
      | eq => simp [put, order]
      | gt => simp [put, order, inductionHypothesis]
    · -- Another key is looked for behind the new entry, or in front of it.
      cases order : compare key head.1 with
      | lt => simp [put, order, same]
      | eq =>
        obtain rfl := Std.LawfulEqOrd.eq_of_compare order
        simp [put, same]
      | gt => simp [put, order, inductionHypothesis, same, List.find?_cons]

end

section
variable [Std.TransOrd α] [Std.LawfulEqOrd α] [DecidableEq α]

theorem find?_insert (map : SortedMap α β) (key other : α) (value : β) :
    (map.insert key value).find? other = if other = key then some value else map.find? other := by
  unfold find? insert
  rw [find?_put]
  split <;> rfl

/-- A value that is there stays, and no other key is touched. -/
theorem find?_insertNew (map : SortedMap α β) (key other : α) (value : β) :
    (map.insertNew key value).find? other =
      if other = key then some ((map.find? key).getD value) else map.find? other := by
  unfold insertNew
  rw [contains_eq]
  cases present : map.find? key with
  | some old =>
    by_cases same : other = key <;> simp [same, present]
  | none => simp [find?_insert]

end

/-- Maps that agree under every key are equal. -/
theorem ext_find? [Std.TransOrd α] [Std.LawfulEqOrd α] {map other : SortedMap α β}
    (same : ∀ key, map.find? key = other.find? key) :
    map = other := by
  have members : ∀ entry, entry ∈ map.entries ↔ entry ∈ other.entries := by
    rintro ⟨key, value⟩
    rw [mem_entries_iff, mem_entries_iff, same]
  have distinct : ∀ map : SortedMap α β, map.entries.Nodup := by
    intro map
    refine map.ascending.imp ?_
    rintro a b lower rfl
    simp at lower
  -- There is one way to put the same entries into ascending order.
  refine ext (List.Perm.eq_of_pairwise ?_ map.ascending other.ascending ?_)
  · intro a b _ _ lower upper
    have absurd := Std.TransCmp.lt_trans lower upper
    simp at absurd
  · exact (List.perm_ext_iff_of_nodup (distinct map) (distinct other)).2 members

end RuleAtlas.SortedMap
