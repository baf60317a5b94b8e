import Mathlib.Order.MinMax

/-!
# The earliest of several times

One timer stands for many deadlines when it is set to the earliest of them, or to the first possible
moment if that has passed. Timers can be nested: one of the times may itself be such a timer.
-/

namespace OpenTogetherTube.Lib

universe u

variable {Time : Type u} [LinearOrder Time]

/-- The earliest of the times, but not before `first`. -/
def earliest (first : Time) (times : List Time) : Option Time := times.min?.map (max first)

variable {first due timer : Time} {times : List Time}

/-- A timer for the times goes off at the latest at each of them, or at the first possible moment. -/
theorem exists_earliest_le (listed : due ∈ times) :
    ∃ timer, earliest first times = some timer ∧ timer ≤ max first due := by
  have lawful : Std.LawfulOrderMin Time :=
    { le_min_iff := fun _ _ _ => le_min_iff
      min_eq_or := min_choice }
  obtain ⟨least, found⟩ := Option.isSome_iff_exists.mp (List.isSome_min?_of_mem listed)
  have below : least ≤ due := (List.min?_eq_some_iff.mp found).2 due listed
  refine ⟨max first least, ?_, max_le_max_left first below⟩
  rw [earliest, found]
  rfl

/-- A timer among the times of another one is no obstacle. -/
theorem exists_earliest_le_nested (listed : timer ∈ times) (within : timer ≤ max first due) :
    ∃ outer, earliest first times = some outer ∧ outer ≤ max first due := by
  obtain ⟨outer, found, below⟩ : ∃ outer, earliest first times = some outer ∧
      outer ≤ max first timer := exists_earliest_le listed
  refine ⟨outer, found, le_trans below ?_⟩
  exact max_le (le_max_left first due) within

end OpenTogetherTube.Lib
