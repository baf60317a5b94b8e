import Mathlib.Algebra.Order.Field.Basic
import Mathlib.Tactic.Linarith
import Mathlib.Tactic.FieldSimp
import Mathlib.Tactic.Ring

/-!
# Pursuit on a line

Points move towards zero at constant speeds and are gone once they are there. A point is clear of one
behind it when that one does not overtake it as long as it is there. `clearOf_iff` reads this off the
positions and the speeds of one moment.
-/

namespace OpenTogetherTube.Lib

universe u

/-- A point and how fast it moves towards zero. -/
structure Mover (K : Type u) where
  position : K
  speed : K

namespace Mover

variable {K : Type u} [Field K]

/-- The point some time later. -/
def after (mover : Mover K) (time : K) : Mover K :=
  { mover with position := mover.position - mover.speed * time }

theorem after_after (mover : Mover K) (first second : K) :
    (mover.after first).after second = mover.after (first + second) := by
  unfold after
  congr 1
  dsimp only
  ring

theorem after_zero (mover : Mover K) : mover.after 0 = mover := by
  unfold after
  rw [mul_zero, sub_zero]

variable [LinearOrder K]

/-- As long as the point ahead is there, the one behind is not in front of it. -/
def ClearOf (ahead behind : Mover K) : Prop :=
  ∀ time, 0 ≤ time → 0 < (ahead.after time).position →
    (ahead.after time).position ≤ (behind.after time).position

variable {ahead middle behind : Mover K}

theorem ClearOf.position_le (clear : ahead.ClearOf behind) (present : 0 < ahead.position) :
    ahead.position ≤ behind.position := by
  have now := clear 0 le_rfl
  rw [after_zero, after_zero] at now
  exact now present

variable [IsStrictOrderedRing K]

theorem ClearOf.after (clear : ahead.ClearOf behind) {time : K} (elapsed : 0 ≤ time) :
    (ahead.after time).ClearOf (behind.after time) := by
  intro later further present
  rw [after_after] at present ⊢
  rw [after_after]
  exact clear _ (add_nonneg elapsed further) present

/-- Clear of the front of something, and its back clear of a third. -/
theorem ClearOf.trans {back : Mover K} (first : ahead.ClearOf middle)
    (behind_ : middle.position ≤ back.position) (rigid : back.speed = middle.speed)
    (second : back.ClearOf behind) : ahead.ClearOf behind := by
  intro time elapsed present
  have near := first time elapsed present
  have length : (middle.after time).position ≤ (back.after time).position := by
    unfold Mover.after
    rw [rigid]
    exact sub_le_sub_right behind_ _
  have reached := near.trans length
  exact reached.trans (second time elapsed (present.trans_le reached))

/-- A point that is gone is clear of everything. -/
theorem ClearOf.of_gone (slow : 0 ≤ ahead.speed) (gone : ahead.position ≤ 0) :
    ahead.ClearOf behind := by
  intro time elapsed present
  have moved : (ahead.after time).position ≤ ahead.position :=
    sub_le_self _ (mul_nonneg slow elapsed)
  exact absurd (present.trans_le (moved.trans gone)) (lt_irrefl 0)

/-- The test of one moment: the one behind is not in front now, and not when the one ahead is gone. -/
theorem ClearOf.of_test (slow : 0 ≤ ahead.speed) (apart : ahead.position ≤ behind.position)
    (slower : ahead.position * behind.speed ≤ behind.position * ahead.speed) :
    ahead.ClearOf behind := by
  intro time elapsed present
  change 0 < ahead.position - ahead.speed * time at present
  change ahead.position - ahead.speed * time ≤ behind.position - behind.speed * time
  rcases le_total behind.speed ahead.speed with slack | faster
  · have covered := mul_le_mul_of_nonneg_right slack elapsed
    linarith
  · have there : 0 < ahead.position := by
      have moved := mul_nonneg slow elapsed
      linarith
    -- the gain on the one ahead until it is gone, scaled by its position
    have gained : (behind.speed - ahead.speed) * (ahead.speed * time) ≤
        (behind.speed - ahead.speed) * ahead.position :=
      mul_le_mul_of_nonneg_left (by linarith) (by linarith)
    rcases slow.eq_or_lt with still | moving
    · rw [← still, mul_zero] at slower
      have stopped : behind.speed ≤ 0 := nonpos_of_mul_nonpos_right slower there
      have covered := mul_nonpos_of_nonpos_of_nonneg stopped elapsed
      rw [← still]
      linarith
    · have scaled : ahead.speed * ((behind.speed - ahead.speed) * time) ≤
          ahead.speed * (behind.position - ahead.position) := by
        linarith
      have gap := le_of_mul_le_mul_left scaled moving
      linarith

/-- The test says all there is to say. -/
theorem clearOf_iff (slow : 0 ≤ ahead.speed) :
    ahead.ClearOf behind ↔ ahead.position ≤ 0 ∨ ahead.position ≤ behind.position ∧
      ahead.position * behind.speed ≤ behind.position * ahead.speed := by
  constructor
  · intro clear
    rcases le_or_gt ahead.position 0 with gone | present
    · exact .inl gone
    refine .inr ⟨clear.position_le present, not_lt.mp fun reached => ?_⟩
    have further := present.trans_le (clear.position_le present)
    have moving : 0 < behind.speed :=
      pos_of_mul_pos_right ((mul_nonneg further.le slow).trans_lt reached) present.le
    -- when the one behind is gone the one ahead would still be there
    have there : 0 < (ahead.after (behind.position / behind.speed)).position := by
      change 0 < ahead.position - ahead.speed * (behind.position / behind.speed)
      rw [sub_pos, ← mul_div_assoc, div_lt_iff₀ moving, mul_comm]
      exact reached
    have near := clear _ (div_nonneg further.le moving.le) there
    change _ ≤ behind.position - behind.speed * (behind.position / behind.speed) at near
    rw [mul_div_cancel₀ _ moving.ne', sub_self] at near
    exact absurd (there.trans_le near) (lt_irrefl 0)
  · rintro (gone | ⟨apart, slower⟩)
    · exact .of_gone slow gone
    · exact .of_test slow apart slower

end Mover

end OpenTogetherTube.Lib
