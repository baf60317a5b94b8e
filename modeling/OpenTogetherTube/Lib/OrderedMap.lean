import Mathlib.Data.List.Nodup

/-!
# Insertion-ordered maps and sets

Keyed collections that remember the order in which keys were first added. A map is a
list of entries and a set is a list of members; writing an existing key keeps its
place, writing a new one appends it.
-/

namespace OpenTogetherTube.Lib

universe u v

/-- Entries in insertion order. -/
abbrev OrderedMap (Key : Type u) (Value : Type v) := List (Key × Value)

namespace OrderedMap

variable {Key : Type u} {Value : Type v} [DecidableEq Key]

/-- The value stored under `key`. -/
def get (map : OrderedMap Key Value) (key : Key) : Option Value :=
  (map.find? fun entry => decide (entry.1 = key)).map Prod.snd

/-- Whether `key` is present. -/
def has (map : OrderedMap Key Value) (key : Key) : Bool :=
  (map.get key).isSome

/-- Overwrite `key` in place, or append it. -/
def set (map : OrderedMap Key Value) (key : Key) (value : Value) : OrderedMap Key Value :=
  if map.has key then
    map.map fun entry => if entry.1 = key then (key, value) else entry
  else
    map ++ [(key, value)]

/-- Drop `key`. -/
def delete (map : OrderedMap Key Value) (key : Key) : OrderedMap Key Value :=
  map.filter fun entry => decide (entry.1 ≠ key)

/-- The keys in insertion order. -/
def keys (map : OrderedMap Key Value) : List Key :=
  map.map Prod.fst

/-- A value that is stored is an entry. -/
theorem mem_of_get {map : OrderedMap Key Value} {key : Key} {value : Value}
    (found : map.get key = some value) : (key, value) ∈ map := by
  obtain ⟨entry, first, rfl⟩ := Option.map_eq_some_iff.mp found
  have same := List.find?_some first
  rw [decide_eq_true_eq] at same
  rw [← same]
  exact List.mem_of_find?_eq_some first

theorem get_of_mem {map : OrderedMap Key Value} (distinct : (map.map Prod.fst).Nodup)
    {entry : Key × Value} (member : entry ∈ map) : map.get entry.1 = some entry.2 := by
  induction map with
  | nil => cases member
  | cons first rest ih =>
      rw [List.map_cons, List.nodup_cons] at distinct
      unfold get
      rcases List.mem_cons.mp member with rfl | later
      · simp
      · have apart : first.1 ≠ entry.1 := fun same =>
          distinct.1 (same ▸ List.mem_map_of_mem later)
        rw [List.find?_cons_of_neg (by simpa using apart)]
        exact ih distinct.2 later

/-- What is left after a deletion. -/
@[simp] theorem mem_delete {map : OrderedMap Key Value} {key : Key} {entry : Key × Value} :
    entry ∈ map.delete key ↔ entry ∈ map ∧ entry.1 ≠ key := by
  simp [delete]

/-- Reading after an overwrite in place. -/
theorem get_overwrite (map : OrderedMap Key Value) (key other : Key) (value : Value) :
    OrderedMap.get (map.map fun entry => if entry.1 = key then (key, value) else entry) other =
      if other = key then if map.has key then some value else none else map.get other := by
  unfold get has get
  induction map with
  | nil => simp
  | cons entry rest ih =>
      by_cases same : other = key
      · subst same
        by_cases written : entry.1 = other
        · simp [written]
        · rw [List.find?_cons_of_neg (by simpa using written)]
          simpa [written] using ih
      · by_cases found : entry.1 = other
        · simp [found, same]
        · by_cases written : entry.1 = key
          · simpa [written, found, same, Ne.symm same] using ih
          · simpa [written, found, same] using ih

/-- Reading after a write. -/
theorem get_set (map : OrderedMap Key Value) (key other : Key) (value : Value) :
    (map.set key value).get other = if other = key then some value else map.get other := by
  unfold set
  split
  · rename_i present
    rw [get_overwrite, if_pos present]
  · rename_i missing
    unfold has get at missing
    unfold get
    rw [List.find?_append]
    by_cases same : other = key
    · subst same
      rw [Bool.not_eq_true, Option.isSome_eq_false_iff, Option.isNone_map,
        Option.isNone_iff_eq_none] at missing
      simp [missing]
    · simp [same, Ne.symm same]

/-- A write adds the key where it is new. -/
theorem keys_set (map : OrderedMap Key Value) (key : Key) (value : Value) :
    (map.set key value).keys = if map.has key then map.keys else map.keys ++ [key] := by
  unfold set keys
  split
  · rw [List.map_map]
    refine List.map_congr_left fun entry _ => ?_
    by_cases same : entry.1 = key
    · simp [same]
    · simp [same]
  · rw [List.map_append]
    rfl

/-- A write to a key that is there keeps the order. -/
theorem keys_set_of_has {map : OrderedMap Key Value} {key : Key} (present : map.has key = true)
    (value : Value) : (map.set key value).keys = map.keys := by
  rw [keys_set, if_pos present]

theorem has_set_of_has {map : OrderedMap Key Value} {key other : Key} {value : Value}
    (present : map.has other = true) : (map.set key value).has other = true := by
  unfold has at present ⊢
  rw [get_set]
  split
  · rfl
  · exact present

theorem has_of_mem_keys {map : OrderedMap Key Value} {key : Key} (listed : key ∈ map.keys) :
    map.has key = true := by
  obtain ⟨entry, member, rfl⟩ := List.mem_map.mp listed
  unfold has get
  rw [Option.isSome_map, List.find?_isSome]
  exact ⟨entry, member, decide_eq_true rfl⟩

theorem mem_keys_of_has {map : OrderedMap Key Value} {key : Key} (present : map.has key = true) :
    key ∈ map.keys := by
  obtain ⟨value, found⟩ := Option.isSome_iff_exists.mp present
  exact List.mem_map_of_mem (mem_of_get found)

theorem nodup_keys_set {map : OrderedMap Key Value} (distinct : map.keys.Nodup) (key : Key)
    (value : Value) : (map.set key value).keys.Nodup := by
  rw [keys_set]
  split
  · exact distinct
  · rename_i missing
    refine List.nodup_append.mpr ⟨distinct, List.nodup_singleton key, fun old listed new same => ?_⟩
    rw [List.mem_singleton.mp same]
    rintro rfl
    exact missing (has_of_mem_keys listed)

/-- Reading after every value is changed in place. -/
theorem get_map_values (map : OrderedMap Key Value) (change : Key → Value → Value) (key : Key) :
    OrderedMap.get (map.map fun entry => (entry.1, change entry.1 entry.2)) key =
      (map.get key).map (change key) := by
  unfold get
  induction map with
  | nil => rfl
  | cons entry rest ih =>
      by_cases found : entry.1 = key
      · simp [found]
      · simpa [found] using ih

/-- Reading after a deletion. -/
theorem get_delete (map : OrderedMap Key Value) (key other : Key) :
    (map.delete key).get other = if other = key then none else map.get other := by
  unfold get delete
  induction map with
  | nil => simp
  | cons entry rest ih =>
      by_cases dropped : entry.1 = key
      · by_cases same : other = key
        · simp [same]
        · simpa [dropped, same, Ne.symm same] using ih
      · by_cases found : entry.1 = other
        · have different : other ≠ key := fun same => dropped (found.trans same)
          simp [found, different]
        · simpa [dropped, found] using ih

/-- After a write every entry is the one written or an old one. -/
theorem mem_of_set {map : OrderedMap Key Value} {key : Key} {value : Value} {entry : Key × Value}
    (member : entry ∈ map.set key value) : entry = (key, value) ∨ entry ∈ map := by
  unfold set at member
  split at member
  · obtain ⟨old, inside, written⟩ := List.mem_map.mp member
    split at written
    · exact Or.inl written.symm
    · rw [← written]
      exact Or.inr inside
  · rcases List.mem_append.mp member with inside | new
    · exact Or.inr inside
    · exact Or.inl (List.mem_singleton.mp new)

/-- A map built from a list of entries: the last value of a key, at the key's first place. -/
def ofEntries (entries : List (Key × Value)) : OrderedMap Key Value :=
  entries.foldl (fun map entry => map.set entry.1 entry.2) []

theorem ofEntries_of_nodup {entries : List (Key × Value)}
    (distinct : (entries.map Prod.fst).Nodup) : ofEntries entries = entries := by
  have appended : ∀ map : OrderedMap Key Value, (map.map Prod.fst ++ entries.map Prod.fst).Nodup →
      entries.foldl (fun map entry => map.set entry.1 entry.2) map = map ++ entries := by
    induction entries with
    | nil => exact fun map _ => (List.append_nil map).symm
    | cons entry rest ih =>
        intro map apart
        have fresh : map.has entry.1 = false := by
          rw [has, Option.isSome_eq_false_iff, Option.isNone_iff_eq_none, get, Option.map_eq_none_iff,
            List.find?_eq_none]
          intro other member same
          rw [decide_eq_true_eq] at same
          exact (List.nodup_append.mp apart).2.2 other.1 (List.mem_map_of_mem member) entry.1
            List.mem_cons_self same
        have write : map.set entry.1 entry.2 = map ++ [entry] := by
          rw [set, fresh, if_neg Bool.false_ne_true]
        rw [List.foldl_cons, write, ih (List.nodup_cons.mp distinct).2 _
          (by simpa using apart), List.append_assoc, List.singleton_append]
  exact appended [] distinct

end OrderedMap

/-- Members in insertion order. -/
abbrev OrderedSet (Member : Type u) := List Member

namespace OrderedSet

variable {Member : Type u} [DecidableEq Member]

/-- Append a member that is not there yet. -/
def add (set : OrderedSet Member) (member : Member) : OrderedSet Member :=
  if member ∈ set then set else set ++ [member]

/-- Drop a member. -/
def remove (set : OrderedSet Member) (member : Member) : OrderedSet Member :=
  set.filter fun other => decide (other ≠ member)

/-- Add the members of a list one by one. -/
def addAll (set : OrderedSet Member) (members : List Member) : OrderedSet Member :=
  members.foldl add set

@[simp] theorem mem_add {set : OrderedSet Member} {member other : Member} :
    other ∈ set.add member ↔ other ∈ set ∨ other = member := by
  unfold add
  split
  · rename_i present
    constructor
    · exact Or.inl
    · rintro (inside | rfl)
      · exact inside
      · exact present
  · simp

@[simp] theorem mem_remove {set : OrderedSet Member} {member other : Member} :
    other ∈ set.remove member ↔ other ∈ set ∧ other ≠ member := by
  simp [remove]

@[simp] theorem mem_addAll {members : List Member} {set : OrderedSet Member} {other : Member} :
    other ∈ set.addAll members ↔ other ∈ set ∨ other ∈ members := by
  unfold addAll
  induction members generalizing set with
  | nil => simp
  | cons member rest ih =>
      rw [List.foldl_cons, ih, mem_add, List.mem_cons, or_assoc]

end OrderedSet

end OpenTogetherTube.Lib
