import Mathlib.Data.Rat.Defs
import Mathlib.Algebra.Order.Ring.Rat

/-!
# Numbers with the non-finite values

A number is a rational, an infinity or not-a-number. Arithmetic on the rationals is
exact: there is no rounding. Every comparison with `nan` is false, as in the language
the values come from, so `lt` and `le` are Boolean tests rather than an order.
-/

namespace OpenTogetherTube.Lib

/-- A number in exact arithmetic, with the values `Number.isFinite` rejects. -/
inductive Number where
  | nan
  | negInf
  | fin (value : ℚ)
  | posInf
deriving DecidableEq

namespace Number

instance : OfNat Number n := ⟨.fin n⟩

instance : Inhabited Number := ⟨0⟩

def isFinite : Number → Bool
  | .fin _ => true
  | _ => false

/-- `x + y`, for a finite `y`. -/
def addRat : Number → ℚ → Number
  | .fin value, delta => .fin (value + delta)
  | other, _ => other

/-- `x < y`. -/
def lt : Number → Number → Bool
  | .fin left, .fin right => decide (left < right)
  | .negInf, .fin _ => true
  | .negInf, .posInf => true
  | .fin _, .posInf => true
  | _, _ => false

/-- `x <= y`. -/
def le : Number → Number → Bool
  | .nan, _ => false
  | _, .nan => false
  | left, right => lt left right || decide (left = right)

/-- `x === y`: not-a-number differs from itself. -/
def strictEq : Number → Number → Bool
  | .nan, _ => false
  | left, right => decide (left = right)

/-- `!!x`: zero and not-a-number are false. -/
def truthy : Number → Bool
  | .nan => false
  | .fin value => decide (value ≠ 0)
  | _ => true

def isInteger : Number → Bool
  | .fin value => decide (value.den = 1)
  | _ => false

/-- The natural number `x` is, when `Number.isInteger(x) && x >= 0`. -/
def asIndex : Number → Option Nat
  | .fin value => if value.den = 1 ∧ 0 ≤ value.num then some value.num.toNat else none
  | _ => none

/-- `Math.abs(x - y) > bound` for a rational bound. Equal infinities differ by
not-a-number, which exceeds nothing. -/
def farApart (bound : ℚ) : Number → Number → Bool
  | .fin left, .fin right => decide (bound < |left - right|)
  | .nan, _ => false
  | _, .nan => false
  | left, right => decide (left ≠ right)

/-- `Math.abs(x - y)`. -/
def absDiff : Number → Number → Number
  | .fin left, .fin right => .fin |left - right|
  | .nan, _ => .nan
  | _, .nan => .nan
  | left, right => if left = right then .nan else .posInf

/-- `Math.max(x, y)`. -/
def maximum : Number → Number → Number
  | .nan, _ => .nan
  | _, .nan => .nan
  | left, right => if lt left right then right else left

@[simp] theorem addRat_zero (x : Number) : x.addRat 0 = x := by
  cases x <;> simp [addRat]

theorem addRat_addRat (x : Number) (a b : ℚ) : (x.addRat a).addRat b = x.addRat (a + b) := by
  cases x <;> simp [addRat, add_assoc]

/-- A finite number that is not below zero is a nonnegative rational. -/
theorem exists_nonneg_of_isFinite {x : Number} (finite : x.isFinite = true)
    (nonneg : x.lt 0 = false) : ∃ value : ℚ, x = .fin value ∧ 0 ≤ value := by
  cases x with
  | fin value =>
      refine ⟨value, rfl, ?_⟩
      have zero : ((0 : Number)) = .fin 0 := rfl
      rw [zero] at nonneg
      simpa [lt] using nonneg
  | nan => cases finite
  | negInf => cases finite
  | posInf => cases finite

theorem lt_eq_false_of_le {x y : Number} (most : x.le y = true) : y.lt x = false := by
  cases x <;> cases y <;> simp_all [le, lt]
  rcases most with less | same
  · exact less.le
  · exact same.le

theorem farApart_mono {small large : ℚ} (bounds : small ≤ large) {x y : Number}
    (near : farApart small x y = false) : farApart large x y = false := by
  cases x <;> cases y <;> simp_all [farApart]
  exact near.trans bounds

theorem eq_of_strictEq {x y : Number} (same : x.strictEq y = true) : x = y := by
  cases x <;> simp_all [strictEq]

end Number

end OpenTogetherTube.Lib
