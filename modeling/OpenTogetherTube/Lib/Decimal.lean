import Mathlib.Algebra.Group.Nat.Defs
import Mathlib.Data.List.Basic

/-!
# Decimal numbers of a least width

A number written in decimal and filled up with zeros on the left, as a list of characters.
-/

namespace OpenTogetherTube.Lib

/-- `String(number).padStart(width, "0")`. -/
def padded (width number : Nat) : List Char := (Nat.toDigits 10 number).leftpad width '0'

theorem padded_eq (width number : Nat) :
    padded width number =
      List.replicate (width - (Nat.toDigits 10 number).length) '0' ++ Nat.toDigits 10 number :=
  rfl

theorem isDigit_of_mem_padded {width number : Nat} {char : Char}
    (member : char ∈ padded width number) : char.isDigit = true := by
  rw [padded_eq] at member
  rcases List.mem_append.mp member with filled | written
  · rw [List.eq_of_mem_replicate filled]
    decide
  · exact Nat.isDigit_of_mem_toDigits (by decide) (by decide) written

theorem padded_ne_nil (width number : Nat) : padded width number ≠ [] := by
  rw [padded_eq]
  exact List.append_ne_nil_of_right_ne_nil _ Nat.toDigits_ne_nil

/-- Zeros on the left do not change what the digits stand for. -/
@[simp] theorem ofDigitChars_padded (width number : Nat) :
    Nat.ofDigitChars 10 (padded width number) 0 = number := by
  rw [padded_eq, Nat.ofDigitChars_append, Nat.ofDigitChars_replicate_zero, Nat.mul_zero,
    Nat.ofDigitChars_ten_toDigits]

theorem padded_injective (width : Nat) : Function.Injective (padded width) := by
  intro left right same
  have value := congrArg (Nat.ofDigitChars 10 · 0) same
  simpa using value

theorem length_padded {width number : Nat} (some : 0 < width) (fits : number < 10 ^ width) :
    (padded width number).length = width := by
  have short := (Nat.length_toDigits_le_iff (by decide) some).mpr fits
  rw [padded, List.length_leftpad, Nat.max_eq_left short]

end OpenTogetherTube.Lib
