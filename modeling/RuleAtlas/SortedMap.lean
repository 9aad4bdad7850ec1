/-! # Sorted maps

A sorted map holds one value for each of its keys and lists the keys in ascending order.  The
order belongs to the type, so maps with the same values under the same keys are equal. -/

namespace RuleAtlas

/-- Values under keys in ascending order. -/
structure SortedMap (α β : Type) [Ord α] where
  entries : List (α × β)
  ascending : entries.Pairwise fun a b => compare a.1 b.1 = .lt

namespace SortedMap

variable {α β : Type} [Ord α]

/-- Puts a value under a key into entries in ascending order, in place of the value there. -/
def put (key : α) (value : β) : List (α × β) → List (α × β)
  | [] => [(key, value)]
  | entry :: rest =>
    match compare key entry.1 with
    | .lt => (key, value) :: entry :: rest
    | .eq => (key, value) :: rest
    | .gt => entry :: put key value rest

theorem mem_of_mem_put {key : α} {value : β} {entries : List (α × β)} {entry : α × β}
    (h : entry ∈ put key value entries) : entry = (key, value) ∨ entry ∈ entries := by
  induction entries with
  | nil => simpa [put] using h
  | cons head rest ih =>
    simp only [put] at h
    split at h
    · simpa using h
    · rcases List.mem_cons.1 h with here | there
      · exact .inl here
      · exact .inr (List.mem_cons_of_mem _ there)
    · rcases List.mem_cons.1 h with here | there
      · exact .inr (by simp [here])
      · exact (ih there).imp_right (List.mem_cons_of_mem _)

theorem ascending_put [Std.TransOrd α] {key : α} {value : β} {entries : List (α × β)}
    (h : entries.Pairwise fun a b => compare a.1 b.1 = .lt) :
    (put key value entries).Pairwise fun a b => compare a.1 b.1 = .lt := by
  induction entries with
  | nil => simp [put]
  | cons head rest ih =>
    obtain ⟨headBefore, restAscending⟩ := List.pairwise_cons.1 h
    simp only [put]
    split
    · rename_i keyBefore
      refine List.pairwise_cons.2 ⟨?_, h⟩
      intro entry member
      rcases List.mem_cons.1 member with rfl | later
      · exact keyBefore
      · exact Std.TransCmp.lt_trans keyBefore (headBefore entry later)
    · rename_i keyEqual
      refine List.pairwise_cons.2 ⟨?_, restAscending⟩
      intro entry member
      exact Std.TransCmp.lt_of_eq_of_lt keyEqual (headBefore entry member)
    · rename_i keyAfter
      refine List.pairwise_cons.2 ⟨?_, ih restAscending⟩
      intro entry member
      rcases mem_of_mem_put member with rfl | old
      · exact Std.OrientedCmp.lt_of_gt keyAfter
      · exact headBefore entry old

def empty : SortedMap α β := ⟨[], .nil⟩

instance : Inhabited (SortedMap α β) := ⟨empty⟩

/-- The map with a value under a key, in place of the value there. -/
def insert [Std.TransOrd α] (map : SortedMap α β) (key : α) (value : β) : SortedMap α β :=
  ⟨put key value map.entries, ascending_put map.ascending⟩

def find? (map : SortedMap α β) (key : α) : Option β :=
  (map.entries.find? fun entry => compare key entry.1 == .eq).map Prod.snd

def contains (map : SortedMap α β) (key : α) : Bool :=
  map.entries.any fun entry => compare key entry.1 == .eq

/-- The map with a value under a key that had none; a value that is there stays. -/
def insertNew [Std.TransOrd α] (map : SortedMap α β) (key : α) (value : β) : SortedMap α β :=
  if map.contains key then map else map.insert key value

def keys (map : SortedMap α β) : List α := map.entries.map Prod.fst

def size (map : SortedMap α β) : Nat := map.entries.length

def isEmpty (map : SortedMap α β) : Bool := map.entries.isEmpty

/-- The map with the values of a list under their keys; of two values under one key the later
one stays. -/
def ofList [Std.TransOrd α] (entries : List (α × β)) : SortedMap α β :=
  entries.foldl (fun map entry => map.insert entry.1 entry.2) empty

def mapValues {γ : Type} (f : β → γ) (map : SortedMap α β) : SortedMap α γ :=
  ⟨map.entries.map fun entry => (entry.1, f entry.2), List.pairwise_map.2 map.ascending⟩

/-- Maps with the same entries are equal. -/
theorem ext {a b : SortedMap α β} (h : a.entries = b.entries) : a = b := by
  cases a
  cases b
  cases h
  rfl

instance [DecidableEq α] [DecidableEq β] : DecidableEq (SortedMap α β) := fun a b =>
  if h : a.entries = b.entries then isTrue (ext h)
  else isFalse fun equal => h (congrArg entries equal)

instance [Repr α] [Repr β] : Repr (SortedMap α β) := ⟨fun map _ => repr map.entries⟩

end SortedMap

end RuleAtlas
