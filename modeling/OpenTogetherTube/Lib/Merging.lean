import OpenTogetherTube.Lib.OrderedMap

/-!
# Merging items of one key

Items are put into an ordered map one after the other. An item whose key is there already
is merged into the one that is, so each key keeps the place of its first item.
-/

namespace OpenTogetherTube.Lib

universe u v

variable {Key : Type u} {Item : Type v} [DecidableEq Key]

/-- Put one item into the map. -/
def mergeInto (key : Item → Key) (merge : Item → Item → Item) (map : OrderedMap Key Item)
    (item : Item) : OrderedMap Key Item :=
  match map.get (key item) with
  | none => map.set (key item) item
  | some existing => map.set (key item) (merge existing item)

/-- Put items into the map in order. -/
def mergeAll (key : Item → Key) (merge : Item → Item → Item) (items : List Item) :
    OrderedMap Key Item :=
  items.foldl (mergeInto key merge) []

/-- What items of one key become. -/
def mergedItem (merge : Item → Item → Item) : List Item → Option Item
  | [] => none
  | first :: rest => some (rest.foldl merge first)

variable {key : Item → Key} {merge : Item → Item → Item} {items : List Item}

/-- What is true of every item and kept by merging is true of every value. -/
theorem mergeAll_values {holds : Item → Prop} (each : ∀ item ∈ items, holds item)
    (kept : ∀ existing item, holds existing → holds item → holds (merge existing item)) :
    ∀ entry ∈ mergeAll key merge items, holds entry.2 := by
  have folded : ∀ map : OrderedMap Key Item, (∀ entry ∈ map, holds entry.2) →
      ∀ entry ∈ items.foldl (mergeInto key merge) map, holds entry.2 := by
    induction items with
    | nil => exact fun map held => held
    | cons item rest ih =>
        intro map held
        refine ih (fun other listed => each other (List.mem_cons_of_mem _ listed))
          _ fun entry member => ?_
        have new := each item List.mem_cons_self
        unfold mergeInto at member
        split at member
        · rcases OrderedMap.mem_of_set member with rfl | old
          · exact new
          · exact held entry old
        · next existing found =>
            rcases OrderedMap.mem_of_set member with rfl | old
            · exact kept existing item (held _ (OrderedMap.mem_of_get found)) new
            · exact held entry old
  exact folded [] fun _ member => absurd member List.not_mem_nil

/-- Every item is stored under its own key. -/
theorem mergeAll_keyed (same : ∀ existing item, key (merge existing item) = key existing) :
    ∀ entry ∈ mergeAll key merge items, entry.1 = key entry.2 := by
  have folded : ∀ map : OrderedMap Key Item, (∀ entry ∈ map, entry.1 = key entry.2) →
      ∀ entry ∈ items.foldl (mergeInto key merge) map, entry.1 = key entry.2 := by
    induction items with
    | nil => exact fun map held => held
    | cons item rest ih =>
        intro map held
        refine ih _ fun entry member => ?_
        unfold mergeInto at member
        split at member
        · rcases OrderedMap.mem_of_set member with rfl | old
          · rfl
          · exact held entry old
        · next existing found =>
            rcases OrderedMap.mem_of_set member with rfl | old
            · exact (held _ (OrderedMap.mem_of_get found)).trans (same existing item).symm
            · exact held entry old
  exact folded [] fun _ member => absurd member List.not_mem_nil

theorem mergeAll_nodup (key : Item → Key) (merge : Item → Item → Item) (items : List Item) :
    (mergeAll key merge items).keys.Nodup := by
  have folded : ∀ map : OrderedMap Key Item, map.keys.Nodup →
      (items.foldl (mergeInto key merge) map).keys.Nodup := by
    induction items with
    | nil => exact fun map distinct => distinct
    | cons item rest ih =>
        intro map distinct
        refine ih _ ?_
        unfold mergeInto
        split
        · exact OrderedMap.nodup_keys_set distinct _ _
        · exact OrderedMap.nodup_keys_set distinct _ _
  exact folded [] List.nodup_nil

/-- The value of a key is what the items of that key become, in their order. -/
theorem get_mergeAll (wanted : Key) :
    (mergeAll key merge items).get wanted =
      mergedItem merge (items.filter fun item => decide (key item = wanted)) := by
  have folded : ∀ map : OrderedMap Key Item,
      OrderedMap.get (items.foldl (mergeInto key merge) map) wanted =
        mergedItem merge ((map.get wanted).toList ++
          items.filter fun item => decide (key item = wanted)) := by
    induction items with
    | nil =>
        intro map
        cases found : map.get wanted with
        | none => simp [found, mergedItem]
        | some existing => simp [found, mergedItem]
    | cons item rest ih =>
        intro map
        rw [List.foldl_cons, ih]
        by_cases own : key item = wanted
        · subst own
          unfold mergeInto
          cases found : map.get (key item) with
          | none => simp [OrderedMap.get_set]
          | some existing => simp [OrderedMap.get_set, mergedItem]
        · have other : wanted ≠ key item := fun same => own same.symm
          unfold mergeInto
          split
          · simp [OrderedMap.get_set, own, other]
          · simp [OrderedMap.get_set, own, other]
  exact folded []

end OpenTogetherTube.Lib
