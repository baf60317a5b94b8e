import Mathlib.Data.List.AList

/-!
# Tables

A finite map with one entry a key, as a keyed list. Reading, writing and erasing are
those of the library; here are the operations over all entries.
-/

namespace OpenTogetherTube.Lib

universe u v

/-- Values by key. -/
abbrev Table (Key : Type u) (Value : Type v) := AList fun _ : Key => Value

namespace Table

variable {Key : Type u} {Value : Type v}

/-- The values, in no particular order. -/
def values (table : Table Key Value) : List Value :=
  table.entries.map Sigma.snd

/-- Keep the entries whose value passes a test. -/
def retain (keep : Value → Bool) (table : Table Key Value) : Table Key Value where
  entries := table.entries.filter fun entry => keep entry.snd
  nodupKeys := table.nodupKeys.sublist List.filter_sublist

/-- Change every value. -/
def mapValues (update : Value → Value) (table : Table Key Value) : Table Key Value where
  entries := table.entries.map fun entry => ⟨entry.fst, update entry.snd⟩
  nodupKeys := List.NodupKeys.map₂ (fun _ => update) table.entries table.nodupKeys

variable [DecidableEq Key]

theorem mem_values_of_lookup {table : Table Key Value} {key : Key} {value : Value}
    (read : table.lookup key = some value) : value ∈ table.values := by
  rw [← Option.mem_def, AList.mem_lookup_iff] at read
  exact List.mem_map_of_mem read

/-- A value is read under its key. -/
theorem exists_lookup_of_mem_values {table : Table Key Value} {value : Value}
    (held : value ∈ table.values) : ∃ key, table.lookup key = some value := by
  obtain ⟨⟨key, _⟩, entry, rfl⟩ := List.mem_map.mp held
  exact ⟨key, AList.mem_lookup_iff.mpr entry⟩

/-- A retained entry is an entry that passes the test. -/
theorem lookup_retain {keep : Value → Bool} {table : Table Key Value} {key : Key} {value : Value} :
    (table.retain keep).lookup key = some value ↔
      table.lookup key = some value ∧ keep value = true := by
  rw [← Option.mem_def, ← Option.mem_def, AList.mem_lookup_iff, AList.mem_lookup_iff]
  exact List.mem_filter

omit [DecidableEq Key] in
/-- The keys of a changed table are those it had. -/
theorem mem_mapValues {update : Value → Value} {table : Table Key Value} {key : Key} :
    key ∈ table.mapValues update ↔ key ∈ table := by
  simp [AList.mem_keys, mapValues, AList.keys, List.keys, Function.comp_def]

/-- Reading from a changed table. -/
theorem lookup_mapValues (update : Value → Value) (table : Table Key Value) (key : Key) :
    (table.mapValues update).lookup key = (table.lookup key).map update := by
  cases read : table.lookup key with
  | none =>
      have missing := AList.lookup_eq_none.mp read
      exact AList.lookup_eq_none.mpr fun present => missing (mem_mapValues.mp present)
  | some value =>
      rw [← Option.mem_def, AList.mem_lookup_iff] at read
      have changed : ⟨key, update value⟩ ∈ (table.mapValues update).entries :=
        List.mem_map_of_mem read
      exact AList.mem_lookup_iff.mpr changed

/-- Reading after a write. -/
theorem lookup_insert_cases {table : Table Key Value} {key other : Key} {value found : Value}
    (read : (table.insert key value).lookup other = some found) :
    other = key ∧ found = value ∨ other ≠ key ∧ table.lookup other = some found := by
  by_cases same : other = key
  · subst same
    rw [AList.lookup_insert] at read
    cases read
    exact Or.inl ⟨rfl, rfl⟩
  · rw [AList.lookup_insert_ne same] at read
    exact Or.inr ⟨same, read⟩

theorem lookup_erase_cases {table : Table Key Value} {key other : Key} {found : Value}
    (read : (table.erase key).lookup other = some found) :
    other ≠ key ∧ table.lookup other = some found := by
  by_cases same : other = key
  · subst same
    rw [AList.lookup_erase] at read
    cases read
  · rw [AList.lookup_erase_ne same] at read
    exact ⟨same, read⟩

/-- Reading after a write, under any key. -/
theorem lookup_insert_ite (table : Table Key Value) (key other : Key) (value : Value) :
    (table.insert key value).lookup other = if other = key then some value else table.lookup other := by
  split
  · rename_i same
    rw [same, AList.lookup_insert]
  · rename_i different
    exact AList.lookup_insert_ne different

/-- Reading after an erase, under any key. -/
theorem lookup_erase_ite (table : Table Key Value) (key other : Key) :
    (table.erase key).lookup other = if other = key then none else table.lookup other := by
  split
  · rename_i same
    rw [same, AList.lookup_erase]
  · rename_i different
    exact AList.lookup_erase_ne different

end Table

end OpenTogetherTube.Lib
