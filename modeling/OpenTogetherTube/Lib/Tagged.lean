import Mathlib.Data.List.Perm.Basic
import Mathlib.Data.Multiset.Filter

/-!
# Lists of tagged values

A program works on a list of values; each value carries a tag that the program does not see.
What it does to the values determines what becomes of the tags, up to the order of equal
values.
-/

namespace OpenTogetherTube.Lib

universe u v

namespace Tagged

variable {Value : Type u} {Tag : Type v}

theorem exists_perm {values other : List Value} (perm : values.Perm other) :
    ∀ {entries : List (Value × Tag)}, entries.map Prod.fst = other →
      ∃ reordered : List (Value × Tag), reordered.Perm entries ∧
        reordered.map Prod.fst = values := by
  induction perm with
  | nil =>
      intro entries same
      exact ⟨entries, List.Perm.refl _, same⟩
  | cons value _ ih =>
      rintro (_ | ⟨entry, rest⟩) ⟨⟩
      obtain ⟨reordered, perm, same⟩ := ih rfl
      exact ⟨entry :: reordered, perm.cons entry, congrArg (entry.1 :: ·) same⟩
  | swap first second rest =>
      rintro (_ | ⟨entry, _ | ⟨next, rest⟩⟩) ⟨⟩
      exact ⟨next :: entry :: rest, List.Perm.swap _ _ _, rfl⟩
  | trans _ _ first second =>
      intro entries same
      obtain ⟨middle, perm, between⟩ := second same
      obtain ⟨reordered, further, same⟩ := first between
      exact ⟨reordered, further.trans perm, same⟩

variable [DecidableEq Value]

/-- The first entry with the value. -/
def lookup (value : Value) (entries : List (Value × Tag)) : Option (Value × Tag) :=
  entries.find? fun entry => decide (entry.1 = value)

/-- The entries without the first one that has the value. -/
def remove (value : Value) (entries : List (Value × Tag)) : List (Value × Tag) :=
  entries.eraseP fun entry => decide (entry.1 = value)

/-- The values without the first such value. -/
theorem remove_values (value : Value) (entries : List (Value × Tag)) :
    (remove value entries).map Prod.fst = (entries.map Prod.fst).erase value := by
  induction entries with
  | nil => rfl
  | cons entry rest ih =>
      unfold remove at ih ⊢
      rw [List.eraseP_cons, List.map_cons, List.erase_cons]
      by_cases found : entry.1 = value
      · simp [found]
      · simp [found, ih]

theorem lookup_value {value : Value} {entries : List (Value × Tag)} {entry : Value × Tag}
    (found : lookup value entries = some entry) : entry.1 = value := by
  unfold lookup at found
  have held := List.find?_some found
  exact of_decide_eq_true held

/-- A value that is there is found. -/
theorem exists_lookup {value : Value} {entries : List (Value × Tag)}
    (member : value ∈ entries.map Prod.fst) :
    ∃ entry, lookup value entries = some entry := by
  obtain ⟨entry, there, same⟩ := List.mem_map.mp member
  refine Option.isSome_iff_exists.mp ?_
  unfold lookup
  rw [List.find?_isSome]
  exact ⟨entry, there, decide_eq_true same⟩

/-- What is looked up and what stays make up the entries. -/
theorem lookup_cons_remove {value : Value} {entries : List (Value × Tag)} {entry : Value × Tag}
    (found : lookup value entries = some entry) :
    entries.Perm (entry :: remove value entries) := by
  induction entries with
  | nil => cases found
  | cons first rest ih =>
      unfold lookup remove at *
      rw [List.find?_cons] at found
      rw [List.eraseP_cons]
      split at found
      · rename_i here
        cases found
        rw [here]
        exact List.Perm.refl _
      · rename_i elsewhere
        rw [elsewhere]
        exact ((ih found).cons first).trans (List.Perm.swap _ _ _)

end Tagged

/-- Whoever takes one entry away keeps the entries of a kind just when it is of another kind. -/
theorem filter_le_iff {Entry : Type u} [DecidableEq Entry] {kept : Entry → Prop}
    [DecidablePred kept] {entry : Entry} {rest : Multiset Entry} :
    (entry ::ₘ rest).filter kept ≤ rest ↔ ¬ kept entry := by
  by_cases keeps : kept entry
  · refine iff_of_false ?_ fun other => other keeps
    intro within
    rw [Multiset.filter_cons_of_pos _ keeps] at within
    have more := Multiset.count_le_of_le entry within
    rw [Multiset.count_cons_self, Multiset.count_filter_of_pos keeps] at more
    exact Nat.not_succ_le_self _ more
  · refine iff_of_true ?_ keeps
    rw [Multiset.filter_cons_of_neg _ keeps]
    exact Multiset.filter_le _ _

end OpenTogetherTube.Lib
