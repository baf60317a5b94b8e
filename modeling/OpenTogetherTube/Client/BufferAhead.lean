import Mathlib.Order.Bounds.Basic
import Mathlib.Algebra.Order.Field.Basic
import Mathlib.Data.Rat.Cast.Order
import Mathlib.Tactic.Linarith
import OpenTogetherTube.Lib.Cover
import OpenTogetherTube.Lib.Number
import OpenTogetherTube.Lib.Rounding

/-!
# The runway of buffered media

`getBufferAhead` reads the buffered ranges of a media element and answers how many
seconds are buffered without a gap from a position on. A player may expose no ranges,
report ends that are not numbers, or throw while its source is being replaced. The ends are
compared as they are; only the subtraction at the end rounds. It cannot overflow, for what it
takes away is not negative and lies below the end.
-/

namespace OpenTogetherTube.MediaLoading

open Lib

/-- One range, as `start(i)` and `end(i)` read it. -/
structure TimeRange where
  start : Number
  end_ : Number
deriving DecidableEq

/-- A `TimeRanges`, with `none` for a range whose reading throws. -/
abbrev TimeRanges := List (Option TimeRange)

/-- The loop of `getBufferAhead` from the value of `end` so far. It answers `none` where
the function returns null or a read throws. -/
def findEnd (position : ℚ) : Option ℚ → TimeRanges → Option (Option ℚ)
  | end_, [] => some end_
  | _, none :: _ => none
  | end_, some range :: rest =>
      match range.start, range.end_ with
      | .fin start, .fin rangeEnd =>
          if rangeEnd < start then none
          else
            match end_ with
            | none =>
                if start ≤ position ∧ rangeEnd ≥ position then
                  findEnd position (some rangeEnd) rest
                else findEnd position none rest
            | some end_ =>
                if start ≤ end_ then findEnd position (some (max end_ rangeEnd)) rest
                else some (some end_)
      | _, _ => none

/-- Seconds in the continuous buffered range at a position. -/
def getBufferAhead (buffered : TimeRanges) : Number → Option ℚ
  | .fin position =>
      if position < 0 then none
      else
        match findEnd position none buffered with
        | none => none
        -- No range at all means the player does not expose its buffer.
        | some none => if buffered.length = 0 then none else some 0
        | some (some end_) => some (max 0 (binary64.nearest (end_ - position)))
  | _ => none

/-- The ranges as a player exposes them, when they are numbers in order. -/
def exposed (ranges : List (NonemptyInterval ℚ)) : TimeRanges :=
  ranges.map fun range => some ⟨.fin range.fst, .fin range.snd⟩

variable {ranges : List (NonemptyInterval ℚ)} {position : ℚ}

theorem findEnd_joined (position end_ : ℚ) (ranges : List (NonemptyInterval ℚ)) :
    findEnd position (some end_) (exposed ranges) = some (some (joined end_ ranges)) := by
  induction ranges generalizing end_ with
  | nil => rfl
  | cons range rest ih =>
      have inOrder : ¬ range.snd < range.fst := not_lt.mpr range.fst_le_snd
      simp only [exposed, List.map_cons, findEnd, if_neg inOrder, joined]
      split
      · exact ih _
      · rfl

/-- The loop finds where the library's `reach` ends. -/
theorem findEnd_reach (position : ℚ) (ranges : List (NonemptyInterval ℚ)) :
    findEnd position none (exposed ranges) = some (reach position ranges) := by
  induction ranges with
  | nil => rfl
  | cons range rest ih =>
      have inOrder : ¬ range.snd < range.fst := not_lt.mpr range.fst_le_snd
      simp only [exposed, List.map_cons, findEnd, if_neg inOrder, reach]
      split
      · exact findEnd_joined position range.snd rest
      · exact ih

theorem binary64_digits : 0 < binary64.precision := by decide

theorem getBufferAhead_of_reach (nonneg : 0 ≤ position) {last : ℚ}
    (found : reach position ranges = some last) :
    getBufferAhead (exposed ranges) (.fin position) = some (binary64.nearest (last - position)) := by
  have ahead := FloatFormat.nearest_nonneg binary64_digits (sub_nonneg.mpr (le_reach found))
  simp only [getBufferAhead, if_neg (not_lt.mpr nonneg), findEnd_reach, found]
  rw [max_eq_right ahead]

theorem getBufferAhead_of_not_mem (nonneg : 0 ≤ position) (apart : position ∉ covered ranges) :
    getBufferAhead (exposed ranges) (.fin position) = if ranges = [] then none else some 0 := by
  simp only [getBufferAhead, if_neg (not_lt.mpr nonneg), findEnd_reach,
    reach_eq_none_iff.mpr apart]
  simp only [exposed, List.length_map, List.length_eq_zero_iff]

/-- The distances that are buffered without a gap from a position on. -/
def runway (ranges : List (NonemptyInterval ℚ)) (position : ℚ) : Set ℚ :=
  {distance | Set.Icc position (position + distance) ⊆ covered ranges}

/-- The longest runway goes up to where the loop ends. -/
theorem isGreatest_runway (sorted : SortedByStart ranges) {last : ℚ}
    (found : reach position ranges = some last) :
    IsGreatest (runway ranges position) (last - position) := by
  refine ⟨?_, fun further covers => ?_⟩
  · have covers := Icc_subset_covered found
    simpa [runway] using covers
  · have bound := le_of_Icc_subset_covered sorted found covers
    linarith

/-- The answer is unknown without ranges, zero outside of them, and otherwise the double nearest to
the longest runway: that runway itself where it is a double, and never less than a double that is
one. -/
theorem getBufferAhead_nearest (ranges : List (NonemptyInterval ℚ)) (sorted : SortedByStart ranges)
    (position : ℚ) (nonneg : 0 ≤ position) :
    (ranges = [] → getBufferAhead (exposed ranges) (.fin position) = none) ∧
      (ranges ≠ [] → position ∉ covered ranges →
        getBufferAhead (exposed ranges) (.fin position) = some 0) ∧
      (position ∈ covered ranges →
        ∃ longest ahead, IsGreatest (runway ranges position) longest ∧
          getBufferAhead (exposed ranges) (.fin position) = some ahead ∧
          ahead = binary64.nearest longest ∧
          (binary64.Holds longest → ahead = longest) ∧
          ∀ distance ∈ runway ranges position, binary64.Holds distance → distance ≤ ahead) := by
  refine ⟨fun empty => ?_, fun some_ apart => ?_, fun held => ?_⟩
  · have apart : position ∉ covered ranges := by simp [empty]
    rw [getBufferAhead_of_not_mem nonneg apart, if_pos empty]
  · rw [getBufferAhead_of_not_mem nonneg apart, if_neg some_]
  · obtain ⟨last, found⟩ : ∃ last, reach position ranges = some last :=
      Option.ne_none_iff_exists'.mp fun missing => reach_eq_none_iff.mp missing held
    have greatest := isGreatest_runway sorted found
    refine ⟨last - position, _, greatest, getBufferAhead_of_reach nonneg found, rfl,
      FloatFormat.nearest_of_holds, fun distance buffered holds => ?_⟩
    exact FloatFormat.le_nearest binary64_digits holds (greatest.2 buffered)

/-- Three ranges, of which the first two touch. -/
def sampleRanges : List (NonemptyInterval ℚ) :=
  [⟨(0, 10), by decide +kernel⟩, ⟨(10, 20), by decide +kernel⟩, ⟨(30, 40), by decide +kernel⟩]

theorem getBufferAhead_nearest_sample :
    getBufferAhead (exposed sampleRanges) (.fin 5) = some 15 ∧
      ∀ distance ∈ runway sampleRanges 5, binary64.Holds distance → distance ≤ 15 := by
  have sorted : SortedByStart sampleRanges := by
    unfold SortedByStart
    decide +kernel
  have held : (5 : ℚ) ∈ covered sampleRanges := by
    refine ⟨_, List.mem_cons_self, ?_⟩
    rw [NonemptyInterval.mem_def]
    decide +kernel
  have answer : getBufferAhead (exposed sampleRanges) (.fin 5) = some 15 := by decide +kernel
  obtain ⟨_, ahead, _, same, _, _, most⟩ :=
    (getBufferAhead_nearest sampleRanges sorted 5 (by norm_num)).2.2 held
  obtain rfl := Option.some.inj (same.symm.trans answer)
  exact ⟨answer, most⟩

/-- The double nearest to 43.76, an end of a range. -/
def sampleEnd : ℚ := 6158672490429153 / 2 ^ 47

/-- The double nearest to 10.09, a position. -/
def samplePosition : ℚ := 5680165030021038 / 2 ^ 49

/-- Only what lies up to the end is buffered. -/
def sampleRange : List (NonemptyInterval ℚ) := [⟨(0, sampleEnd), by decide +kernel⟩]

/-- From 10.09 the answer is 33.67, which reaches over the end of the one range up to 43.76: among
the distances with nothing unbuffered on the way it is not. -/
theorem getBufferAhead_overshoots :
    ¬ ∀ (ranges : List (NonemptyInterval ℚ)) (position : ℚ),
      (∀ range ∈ ranges, binary64.Holds range.fst ∧ binary64.Holds range.snd) →
      binary64.Holds position → SortedByStart ranges → 0 ≤ position →
      position ∈ covered ranges →
        ∃ ahead, getBufferAhead (exposed ranges) (.fin position) = some ahead ∧
          IsGreatest (runway ranges position) ahead := by
  intro largest
  have doubles : ∀ range ∈ sampleRange, binary64.Holds range.fst ∧ binary64.Holds range.snd := by
    intro range listed
    obtain rfl := List.mem_singleton.mp listed
    exact ⟨FloatFormat.holds_zero, 6158672490429153, by decide +kernel⟩
  have inside : samplePosition ∈ covered sampleRange := by
    refine ⟨_, List.mem_cons_self, ?_⟩
    rw [NonemptyInterval.mem_def]
    decide +kernel
  obtain ⟨ahead, answer, buffered, _⟩ := largest sampleRange samplePosition doubles
    ⟨5680165030021038, by decide +kernel⟩ (List.pairwise_singleton _ _) (by decide +kernel) inside
  have rounded : getBufferAhead (exposed sampleRange) (.fin samplePosition) =
      some (2369315616461947 / 2 ^ 46) := by decide +kernel
  obtain rfl := Option.some.inj (answer.symm.trans rounded)
  -- The last point of the stretch lies behind the end of the only range.
  obtain ⟨range, listed, held⟩ := buffered (Set.right_mem_Icc.mpr (by decide +kernel))
  obtain rfl := List.mem_singleton.mp listed
  exact absurd (NonemptyInterval.mem_def.mp held).2 (by decide +kernel)

end OpenTogetherTube.MediaLoading
