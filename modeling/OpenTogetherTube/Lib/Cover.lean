import Mathlib.Order.Interval.Basic
import Mathlib.Order.Interval.Set.Basic

/-!
# How far a list of intervals reaches

Closed intervals of a linear order, listed by their lower ends. From a point that some
interval holds, `reach` joins the intervals one after the other until the first gap.
In a dense order the point it stops at is the last one with nothing uncovered before it.
-/

namespace OpenTogetherTube.Lib

variable {α : Type*} [LinearOrder α]

/-- The points that some interval holds. -/
def covered (intervals : List (NonemptyInterval α)) : Set α :=
  {point | ∃ interval ∈ intervals, point ∈ interval}

/-- The intervals are listed by their lower ends. -/
def SortedByStart (intervals : List (NonemptyInterval α)) : Prop :=
  intervals.Pairwise fun earlier later => earlier.fst ≤ later.fst

/-- The upper end reached from `reached` by joining every interval that starts by then. -/
def joined (reached : α) : List (NonemptyInterval α) → α
  | [] => reached
  | interval :: rest =>
      if interval.fst ≤ reached then joined (max reached interval.snd) rest else reached

/-- The upper end reached from a point, if an interval holds it. -/
def reach (point : α) : List (NonemptyInterval α) → Option α
  | [] => none
  | interval :: rest =>
      if interval.fst ≤ point ∧ point ≤ interval.snd then some (joined interval.snd rest)
      else reach point rest

variable {intervals : List (NonemptyInterval α)} {reached point last : α}

@[simp] theorem covered_nil : covered ([] : List (NonemptyInterval α)) = ∅ := by
  simp [covered]

theorem mem_covered_cons {interval : NonemptyInterval α} :
    point ∈ covered (interval :: intervals) ↔
      (interval.fst ≤ point ∧ point ≤ interval.snd) ∨ point ∈ covered intervals := by
  simp [covered, NonemptyInterval.mem_def]

theorem le_joined (reached : α) (intervals : List (NonemptyInterval α)) :
    reached ≤ joined reached intervals := by
  induction intervals generalizing reached with
  | nil => exact le_rfl
  | cons interval rest ih =>
      unfold joined
      split
      · exact (le_max_left _ _).trans (ih _)
      · exact le_rfl

/-- Nothing before the reached end is uncovered. -/
theorem mem_covered_of_le_joined (beyond : reached < point)
    (within : point ≤ joined reached intervals) : point ∈ covered intervals := by
  induction intervals generalizing reached with
  | nil => exact absurd within (not_le.mpr beyond)
  | cons interval rest ih =>
      rw [mem_covered_cons]
      unfold joined at within
      split at within
      · next touching =>
          by_cases inside : point ≤ interval.snd
          · exact Or.inl ⟨touching.trans beyond.le, inside⟩
          · exact Or.inr (ih (max_lt beyond (not_le.mp inside)) within)
      · exact absurd within (not_le.mpr beyond)

/-- Past the reached end comes an uncovered point before any given one. -/
theorem exists_uncovered_of_joined_lt [DenselyOrdered α] (sorted : SortedByStart intervals)
    (beyond : joined reached intervals < point) :
    ∃ gap, joined reached intervals < gap ∧ gap ≤ point ∧ gap ∉ covered intervals := by
  induction intervals generalizing reached with
  | nil => exact ⟨point, beyond, le_rfl, by simp⟩
  | cons interval rest ih =>
      obtain ⟨first, sorted⟩ := List.pairwise_cons.mp sorted
      unfold joined at beyond ⊢
      split
      · next touching =>
          rw [if_pos touching] at beyond
          obtain ⟨gap, above, below, uncovered⟩ := ih sorted beyond
          refine ⟨gap, above, below, fun held => ?_⟩
          rcases mem_covered_cons.mp held with ⟨-, inside⟩ | later
          · have ends : interval.snd ≤ joined (max reached interval.snd) rest :=
              (le_max_right _ _).trans (le_joined _ _)
            exact absurd (inside.trans ends) (not_le.mpr above)
          · exact uncovered later
      · next apart =>
          rw [if_neg apart] at beyond
          -- Every interval left starts at this one's start or later.
          obtain ⟨gap, above, below⟩ := exists_between (lt_min beyond (not_le.mp apart))
          refine ⟨gap, above, (below.trans_le (min_le_left _ _)).le, ?_⟩
          rintro ⟨later, listed, held⟩
          have starts : interval.fst ≤ later.fst := by
            rcases List.mem_cons.mp listed with rfl | listed
            · exact le_rfl
            · exact first later listed
          exact absurd (starts.trans (NonemptyInterval.mem_def.mp held).1)
            (not_le.mpr (below.trans_le (min_le_right _ _)))

theorem reach_eq_none_iff : reach point intervals = none ↔ point ∉ covered intervals := by
  induction intervals with
  | nil => simp [reach]
  | cons interval rest ih =>
      rw [mem_covered_cons]
      unfold reach
      split
      · next inside => simp [inside]
      · next outside => simp [outside, ih]

theorem le_reach (found : reach point intervals = some last) : point ≤ last := by
  induction intervals with
  | nil => cases found
  | cons interval rest ih =>
      unfold reach at found
      split at found
      · next inside =>
          obtain rfl := Option.some.inj found
          exact inside.2.trans (le_joined _ _)
      · exact ih found

theorem Icc_subset_covered (found : reach point intervals = some last) :
    Set.Icc point last ⊆ covered intervals := by
  rintro other ⟨from_, upTo⟩
  induction intervals with
  | nil => cases found
  | cons interval rest ih =>
      rw [mem_covered_cons]
      unfold reach at found
      split at found
      · next inside =>
          obtain rfl := Option.some.inj found
          by_cases held : other ≤ interval.snd
          · exact Or.inl ⟨inside.1.trans from_, held⟩
          · exact Or.inr (mem_covered_of_le_joined (not_le.mp held) upTo)
      · exact Or.inr (ih found)

theorem le_of_Icc_subset_covered [DenselyOrdered α] (sorted : SortedByStart intervals)
    (found : reach point intervals = some last) {further : α}
    (covers : Set.Icc point further ⊆ covered intervals) : further ≤ last := by
  by_contra beyond
  have beyond : last < further := not_le.mp beyond
  suffices gap : ∃ gap, point ≤ gap ∧ gap ≤ further ∧ gap ∉ covered intervals by
    obtain ⟨gap, from_, upTo, uncovered⟩ := gap
    exact uncovered (covers ⟨from_, upTo⟩)
  clear covers
  induction intervals with
  | nil => cases found
  | cons interval rest ih =>
      obtain ⟨first, sorted⟩ := List.pairwise_cons.mp sorted
      unfold reach at found
      split at found
      · next inside =>
          obtain rfl := Option.some.inj found
          obtain ⟨gap, above, below, uncovered⟩ := exists_uncovered_of_joined_lt sorted beyond
          have ends : interval.snd < gap := (le_joined _ _).trans_lt above
          refine ⟨gap, inside.2.trans ends.le, below, fun held => ?_⟩
          rcases mem_covered_cons.mp held with ⟨-, inside⟩ | later
          · exact absurd inside (not_le.mpr ends)
          · exact uncovered later
      · next outside =>
          obtain ⟨gap, from_, upTo, uncovered⟩ := ih sorted found
          refine ⟨gap, from_, upTo, fun held => ?_⟩
          rcases mem_covered_cons.mp held with ⟨starts, inside⟩ | later
          · -- The interval passed over starts before the one that holds the point.
            have held : point ∈ covered rest := by
              by_contra uncovered
              rw [reach_eq_none_iff.mpr uncovered] at found
              cases found
            obtain ⟨holder, listed, within⟩ := held
            have starts := (first holder listed).trans (NonemptyInterval.mem_def.mp within).1
            exact outside ⟨starts, from_.trans inside⟩
          · exact uncovered later

end OpenTogetherTube.Lib
