import Mathlib.Data.Nat.Bitwise
import Mathlib.Data.Set.Basic

/-!
# Bit masks as sets

A mask is read as the set of the positions of its bits. Union, intersection and inclusion of
masks are those of the sets, and a mask is determined by its set.
-/

namespace OpenTogetherTube.Lib

/-- The positions of the set bits. -/
def bits (mask : Nat) : Set Nat := {position | mask.testBit position = true}

theorem mem_bits {mask position : Nat} : position ∈ bits mask ↔ mask.testBit position = true :=
  Iff.rfl

@[simp] theorem bits_zero : bits 0 = ∅ :=
  Set.eq_empty_of_forall_notMem fun position set => by
    rw [mem_bits, Nat.zero_testBit] at set
    cases set

@[simp] theorem bits_or (left right : Nat) : bits (left ||| right) = bits left ∪ bits right := by
  ext position
  rw [Set.mem_union, mem_bits, mem_bits, mem_bits, Nat.testBit_or, Bool.or_eq_true]

@[simp] theorem bits_and (left right : Nat) : bits (left &&& right) = bits left ∩ bits right := by
  ext position
  rw [Set.mem_inter_iff, mem_bits, mem_bits, mem_bits, Nat.testBit_and, Bool.and_eq_true]

theorem bits_injective : Function.Injective bits := fun _ _ same =>
  Nat.eq_of_testBit_eq fun position => Bool.eq_iff_iff.mpr (Set.ext_iff.mp same position)

@[simp] theorem bits_inj {left right : Nat} : bits left = bits right ↔ left = right :=
  bits_injective.eq_iff

/-- A mask is part of another just when the other masks nothing of it away. -/
theorem bits_subset_bits {left right : Nat} : bits left ⊆ bits right ↔ left &&& right = left := by
  rw [← Set.inter_eq_left, ← bits_and, bits_inj]

instance (left right : Nat) : Decidable (bits left ⊆ bits right) :=
  decidable_of_iff _ bits_subset_bits.symm

/-- Or-ing a list of masks together collects their bits. -/
theorem mem_bits_foldl_or {masks : List Nat} {mask position : Nat} :
    position ∈ bits (masks.foldl (fun full mask => full ||| mask) mask) ↔
      position ∈ bits mask ∨ ∃ other ∈ masks, position ∈ bits other := by
  induction masks generalizing mask with
  | nil => simp
  | cons first rest ih =>
      rw [List.foldl_cons, ih, bits_or, Set.mem_union, or_assoc]
      simp

end OpenTogetherTube.Lib
