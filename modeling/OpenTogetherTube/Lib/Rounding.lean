import Mathlib.Algebra.Order.Round
import Mathlib.Data.Int.Log
import Mathlib.Data.Rat.Floor
import Mathlib.Tactic.FieldSimp
import Mathlib.Tactic.Linarith
import Mathlib.Tactic.Positivity
import Mathlib.Tactic.Push
import Mathlib.Tactic.Ring

/-!
# Rounding to a binary floating-point format

A format has so many binary digits and a least exponent, below which the numbers are equally far
apart. Exponents have no upper end here: overflow is the caller's concern. `nearest` takes a value
to the closest number of the format, a tie to the even one, so it keeps the numbers of the format
and never passes one of them.
-/

namespace OpenTogetherTube.Lib

/-- The nearest integer, of two the even one. -/
def roundEven (x : ℚ) : ℤ :=
  if Int.fract x = 1 / 2 then ⌊x⌋ + ⌊x⌋ % 2 else round x

theorem roundEven_intCast (k : ℤ) : roundEven k = k := by
  unfold roundEven
  rw [Int.fract_intCast, if_neg (by norm_num), round_intCast]

/-- In a tie both neighbours are as near as `round`. -/
theorem abs_sub_roundEven (x : ℚ) : |x - roundEven x| = |x - round x| := by
  unfold roundEven
  split
  · next tie =>
      have parts := Int.floor_add_fract x
      have near : |x - round x| = 1 / 2 := by
        rw [abs_sub_round_eq_min, tie]
        norm_num
      rw [near]
      rcases Int.emod_two_eq_zero_or_one ⌊x⌋ with even | odd
      · rw [even, add_zero, ← Int.fract, tie]
        norm_num
      · have half : x - (⌊x⌋ + 1 : ℤ) = -(1 / 2) := by
          push_cast
          linarith
        rw [odd, half]
        norm_num
  · rfl

/-- No integer is nearer. -/
theorem abs_sub_roundEven_le (x : ℚ) (k : ℤ) : |x - roundEven x| ≤ |x - k| :=
  (abs_sub_roundEven x).trans_le (round_le x k)

/-- A binary format: how many digits its numbers have, and the least exponent of the last digit. -/
structure FloatFormat where
  precision : Nat
  least : ℤ

/-- The format of IEEE 754 doubles. -/
def binary64 : FloatFormat := ⟨53, -1074⟩

namespace FloatFormat

variable (format : FloatFormat)

/-- The exponent of the last digit of the numbers around a value. -/
def exponent (x : ℚ) : ℤ := max (Int.log 2 |x| + 1 - format.precision) format.least

/-- The distance of the numbers around a value. -/
def spacing (x : ℚ) : ℚ := 2 ^ format.exponent x

/-- The value is a number of the format. -/
def Holds (x : ℚ) : Prop := ∃ digits : ℤ, x = digits * format.spacing x

/-- The closest number of the format. -/
def nearest (x : ℚ) : ℚ := roundEven (x / format.spacing x) * format.spacing x

variable {format} {x y : ℚ}

theorem spacing_pos : 0 < format.spacing x := zpow_pos two_pos _

theorem holds_zero : format.Holds 0 := ⟨0, by simp⟩

/-- A number of the format stays as it is. -/
theorem nearest_of_holds (holds : format.Holds x) : format.nearest x = x := by
  obtain ⟨digits, same⟩ := holds
  have quotient : x / format.spacing x = digits := (div_eq_iff spacing_pos.ne').mpr same
  unfold nearest
  rw [quotient, roundEven_intCast]
  exact same.symm

/-- No multiple of the spacing is closer. -/
theorem abs_sub_nearest_le_multiple (x : ℚ) (k : ℤ) :
    |x - format.nearest x| ≤ |x - k * format.spacing x| := by
  have positive : 0 < format.spacing x := spacing_pos
  have scaled : ∀ m : ℚ, |x - m * format.spacing x| =
      |x / format.spacing x - m| * format.spacing x := by
    intro m
    rw [← abs_of_pos positive, ← abs_mul, abs_of_pos positive, sub_mul,
      div_mul_cancel₀ x positive.ne']
  unfold nearest
  rw [scaled, scaled]
  exact mul_le_mul_of_nonneg_right (abs_sub_roundEven_le _ k) positive.le

/-- A number that is spaced no finer than the value is a multiple of the value's spacing. -/
theorem exists_multiple (holds : format.Holds y) (coarser : format.exponent x ≤ format.exponent y) :
    ∃ k : ℤ, y = k * format.spacing x := by
  obtain ⟨digits, same⟩ := holds
  obtain ⟨more, exponents⟩ := Int.le.dest coarser
  refine ⟨digits * 2 ^ more, ?_⟩
  unfold spacing at same ⊢
  rw [← exponents, zpow_add₀ two_ne_zero, zpow_natCast] at same
  rw [same]
  push_cast
  ring

/-- Between a value and the numbers that are spaced finer lies a multiple of the value's spacing. -/
theorem exists_between_finer (nonzero : x ≠ 0) (finer : format.exponent y < format.exponent x)
    (some_ : 0 < format.precision) :
    ∃ k : ℤ, |y| ≤ k * format.spacing x ∧ k * format.spacing x ≤ |x| := by
  have above : format.least < format.exponent x := (le_max_right _ _).trans_lt finer
  have normal : format.exponent x = Int.log 2 |x| + 1 - format.precision := by
    unfold exponent at above ⊢
    omega
  have logs : Int.log 2 |y| + 1 ≤ Int.log 2 |x| := by
    have lower : Int.log 2 |y| + 1 - format.precision ≤ format.exponent y := le_max_left _ _
    omega
  have binade : ((2 ^ (format.precision - 1) : ℤ) : ℚ) * format.spacing x = 2 ^ Int.log 2 |x| := by
    unfold spacing
    rw [normal]
    push_cast
    rw [← zpow_natCast, ← zpow_add₀ two_ne_zero]
    congr 1
    omega
  refine ⟨2 ^ (format.precision - 1), ?_, ?_⟩
  · rw [binade]
    have small : |y| < (2 : ℚ) ^ (Int.log 2 |y| + 1) := by
      exact_mod_cast Int.lt_zpow_succ_log_self one_lt_two |y|
    exact small.le.trans (zpow_le_zpow_right₀ one_le_two logs)
  · rw [binade]
    exact_mod_cast Int.zpow_log_le_self one_lt_two (abs_pos.mpr nonzero)

/-- No number of the format is closer. -/
theorem abs_sub_nearest_le (some_ : 0 < format.precision) (holds : format.Holds y) (x : ℚ) :
    |x - format.nearest x| ≤ |x - y| := by
  by_cases zero : x = 0
  · subst zero
    have same : format.nearest 0 = 0 := nearest_of_holds holds_zero
    rw [same, sub_self, abs_zero]
    exact abs_nonneg _
  rcases le_or_gt (format.exponent x) (format.exponent y) with coarser | finer
  · obtain ⟨k, rfl⟩ := exists_multiple holds coarser
    exact abs_sub_nearest_le_multiple x k
  · obtain ⟨k, outside, inside⟩ := exists_between_finer zero finer some_
    have distance : |x| - k * format.spacing x ≤ |x - y| := by
      have triangle := abs_sub_abs_le_abs_sub x y
      linarith
    refine le_trans ?_ distance
    -- The multiple lies on the side of the value, so it is as far off as the absolute values are.
    rcases abs_cases x with ⟨same, _⟩ | ⟨same, _⟩
    · refine (abs_sub_nearest_le_multiple x k).trans_eq ?_
      rw [same] at inside ⊢
      exact abs_of_nonneg (sub_nonneg.mpr inside)
    · refine (abs_sub_nearest_le_multiple x (-k)).trans_eq ?_
      rw [same] at inside ⊢
      push_cast
      rw [abs_of_nonpos (by linarith)]
      ring

/-- Rounding does not pass a number of the format on the way down. -/
theorem le_nearest (some_ : 0 < format.precision) (holds : format.Holds y) (below : y ≤ x) :
    y ≤ format.nearest x := by
  by_contra passed
  have passed := not_le.mp passed
  have closer := abs_sub_nearest_le some_ holds x
  rw [abs_of_nonneg (sub_nonneg.mpr below),
    abs_of_nonneg (sub_nonneg.mpr (passed.le.trans below))] at closer
  linarith

theorem nearest_nonneg (some_ : 0 < format.precision) (nonneg : 0 ≤ x) : 0 ≤ format.nearest x :=
  le_nearest some_ holds_zero nonneg

end FloatFormat

end OpenTogetherTube.Lib
