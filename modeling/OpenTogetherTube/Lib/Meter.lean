import Mathlib.Algebra.Order.Ring.Defs
import Mathlib.Algebra.Order.Group.MinMax

/-!
# A counter read off a clock

A meter counts how far a clock of some rate has run. Between two readings it knows only the
anchor from which the clock runs; a reading adds what has run since. The tally is what has
been counted and what a reading would still add while the clock runs. Steps that do not
raise the tally keep the count within what the clock ran, and a reading is such a step
exactly when the clock runs or there is nothing to add.
-/

namespace OpenTogetherTube.Lib

universe u

/-- A clock, and what has been counted of it. -/
structure Meter (K : Type u) where
  running : Bool
  rate : K
  anchor : Option K
  counted : K

namespace Meter

variable {K : Type u} [Ring K] [LinearOrder K]

/-- How far the clock has run since its anchor. -/
def elapsed (now : K) (meter : Meter K) : K :=
  match meter.anchor with
  | some start => (now - start) * meter.rate
  | none => 0

/-- A reading, which adds what has run since the anchor whether the clock runs or not. -/
def read (now : K) (meter : Meter K) : Meter K :=
  { meter with counted := meter.counted + max 0 (meter.elapsed now) }

/-- What a reading may add. -/
def due (now : K) (meter : Meter K) : K :=
  if meter.running then max 0 (meter.elapsed now) else 0

/-- What has been counted and what may still be added. -/
def tally (now : K) (meter : Meter K) : K := meter.counted + meter.due now

variable {meter after : Meter K} {now later played : K}

theorem due_nonneg (meter : Meter K) (now : K) : 0 ≤ meter.due now := by
  unfold due
  split
  · exact le_max_left _ _
  · exact le_rfl

/-- A meter that is stopped, or whose clock has not moved, has nothing to add. -/
theorem tally_of_still (still : meter.running = false ∨ meter.elapsed now ≤ 0) :
    meter.tally now = meter.counted := by
  unfold tally due
  rcases still with stopped | unmoved
  · simp [stopped]
  · rw [max_eq_left unmoved, ite_self, add_zero]

/-- A step that leaves nothing to add keeps the tally if it counts no more than the tally. -/
theorem tally_le_of_still (counted : after.counted ≤ meter.tally now)
    (still : after.running = false ∨ after.elapsed now ≤ 0) :
    after.tally now ≤ meter.tally now :=
  (tally_of_still still).trans_le counted

variable [IsStrictOrderedRing K]

theorem counted_le_tally (meter : Meter K) (now : K) : meter.counted ≤ meter.tally now :=
  le_add_of_nonneg_right (meter.due_nonneg now)

/-- A reading counts no more than the tally exactly when the clock runs or has not moved. -/
theorem read_le_tally_iff :
    (meter.read now).counted ≤ meter.tally now ↔
      meter.running = true ∨ meter.elapsed now ≤ 0 := by
  unfold read tally due
  rw [add_le_add_iff_left]
  cases meter.running with
  | true => simp
  | false => simp

/-- As time passes a meter may add what its clock runs. -/
theorem tally_later (nonneg : 0 ≤ meter.rate) (forward : now ≤ later) :
    meter.tally later ≤
      meter.tally now + if meter.running then (later - now) * meter.rate else 0 := by
  have ran : 0 ≤ (later - now) * meter.rate :=
    mul_nonneg (sub_nonneg.mpr forward) nonneg
  have elapsed : meter.elapsed later ≤ meter.elapsed now + (later - now) * meter.rate := by
    unfold elapsed
    cases meter.anchor with
    | none => simpa using ran
    | some start =>
        change (later - start) * meter.rate ≤
          (now - start) * meter.rate + (later - now) * meter.rate
        rw [← add_mul, sub_add_sub_cancel']
  unfold tally due
  split
  · rw [add_assoc]
    refine add_le_add_right (max_le ?_ ?_) meter.counted
    · exact add_nonneg (le_max_left _ _) ran
    · exact elapsed.trans (add_le_add_left (le_max_right _ _) _)
  · simp

/-- The rule for a run: time passes, and then a step keeps the tally. -/
theorem within_of_step (within : meter.tally now ≤ played) (nonneg : 0 ≤ meter.rate)
    (forward : now ≤ later) (kept : after.tally later ≤ meter.tally later) :
    after.tally later ≤ played + if meter.running then (later - now) * meter.rate else 0 :=
  calc after.tally later
      ≤ meter.tally later := kept
    _ ≤ meter.tally now + if meter.running then (later - now) * meter.rate else 0 :=
        tally_later nonneg forward
    _ ≤ played + if meter.running then (later - now) * meter.rate else 0 :=
        add_le_add_left within _

end Meter

end OpenTogetherTube.Lib
