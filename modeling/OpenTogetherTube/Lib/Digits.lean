import Mathlib.Data.List.Basic

/-!
# Digits and separated texts

Numbers in base sixteen and texts whose parts stand between separators, as lists of characters.
-/

namespace OpenTogetherTube.Lib

/-- A hexadecimal digit in lower case. -/
def isLowerHexDigit (char : Char) : Bool :=
  char.isDigit || (decide ('a' ≤ char) && decide (char ≤ 'f'))

/-- A hexadecimal digit. -/
def isHexDigit (char : Char) : Bool :=
  isLowerHexDigit char || (decide ('A' ≤ char) && decide (char ≤ 'F'))

/-- What a hexadecimal digit stands for. -/
def hexDigitValue (char : Char) : Nat :=
  if char.isDigit then char.toNat - '0'.toNat
  else if 'a' ≤ char then char.toNat - 'a'.toNat + 10
  else char.toNat - 'A'.toNat + 10

/-- What hexadecimal digits stand for. -/
def ofHexDigits (text : List Char) : Nat :=
  text.foldl (fun value char => 16 * value + hexDigitValue char) 0

theorem isHexDigit_of_lower {char : Char} (lower : isLowerHexDigit char = true) :
    isHexDigit char = true := by
  unfold isHexDigit
  rw [lower, Bool.true_or]

theorem isLowerHexDigit_digitChar : ∀ digit < 16, isLowerHexDigit (Nat.digitChar digit) = true := by
  decide

theorem hexDigitValue_digitChar :
    ∀ digit < 16, hexDigitValue (Nat.digitChar digit) = digit := by
  decide

/-- The digits of a number in base sixteen are in lower case. -/
theorem isLowerHexDigit_of_mem_toDigits {char : Char} :
    ∀ number : Nat, char ∈ Nat.toDigits 16 number → isLowerHexDigit char = true := by
  intro number
  induction number using Nat.strongRecOn with
  | _ number ih =>
    intro member
    rw [Nat.toDigits_eq_if (by decide)] at member
    split at member
    · rename_i small
      rw [List.mem_singleton.mp member]
      exact isLowerHexDigit_digitChar number small
    · rcases List.mem_append.mp member with leading | last
      · exact ih (number / 16) (by omega) leading
      · rw [List.mem_singleton.mp last]
        exact isLowerHexDigit_digitChar _ (Nat.mod_lt _ (by decide))

/-- They read back as the number. -/
@[simp] theorem ofHexDigits_toDigits (number : Nat) :
    ofHexDigits (Nat.toDigits 16 number) = number := by
  induction number using Nat.strongRecOn with
  | _ number ih =>
    rw [Nat.toDigits_eq_if (by decide)]
    split
    · rename_i small
      exact (Nat.zero_add _).trans (hexDigitValue_digitChar number small)
    · unfold ofHexDigits at ih ⊢
      rw [List.foldl_append, ih (number / 16) (by omega)]
      change 16 * (number / 16) + hexDigitValue (Nat.digitChar (number % 16)) = number
      rw [hexDigitValue_digitChar _ (Nat.mod_lt _ (by decide))]
      omega

theorem toDigits_four {number : Nat} (least : 0x1000 ≤ number) (most : number < 0x10000) :
    Nat.toDigits 16 number = [Nat.digitChar (number / 0x1000), Nat.digitChar (number / 0x100 % 16),
      Nat.digitChar (number / 0x10 % 16), Nat.digitChar (number % 16)] := by
  rw [Nat.toDigits_of_base_le (by decide) (by omega), Nat.toDigits_of_base_le (by decide) (by omega),
    Nat.toDigits_of_base_le (by decide) (by omega), Nat.toDigits_of_lt_base (by omega),
    Nat.div_div_eq_div_mul, Nat.div_div_eq_div_mul, Nat.div_div_eq_div_mul]
  rfl

section Separated

variable {Item : Type} {separator item : Item} {parts : List (List Item)}

/-- What stands in a separated text is the separator or stands in a part. -/
theorem mem_intercalate (member : item ∈ [separator].intercalate parts) :
    item = separator ∨ ∃ part ∈ parts, item ∈ part := by
  induction parts with
  | nil => cases member
  | cons first rest ih =>
      cases rest with
      | nil =>
          rw [List.intercalate_singleton] at member
          exact .inr ⟨first, List.mem_cons_self, member⟩
      | cons second rest =>
          rw [List.intercalate_cons_cons] at member
          rcases List.mem_append.mp member with leading | later
          · rcases List.mem_append.mp leading with inFirst | between
            · exact .inr ⟨first, List.mem_cons_self, inFirst⟩
            · exact .inl (List.mem_singleton.mp between)
          · exact (ih later).imp_right fun ⟨part, among, inside⟩ =>
              ⟨part, List.mem_cons_of_mem _ among, inside⟩

/-- Two separated texts with a separator between them are one. -/
theorem intercalate_append {later : List (List Item)} (some : parts ≠ []) (more : later ≠ []) :
    [separator].intercalate (parts ++ later) =
      [separator].intercalate parts ++ separator :: [separator].intercalate later := by
  induction parts with
  | nil => exact absurd rfl some
  | cons first rest ih =>
      cases rest with
      | nil =>
          rw [List.singleton_append, List.intercalate_cons_of_ne_nil more,
            List.intercalate_singleton, List.append_assoc, List.singleton_append]
      | cons second rest =>
          have joined := ih (List.cons_ne_nil second rest)
          rw [List.cons_append, List.cons_append, List.intercalate_cons_cons,
            List.intercalate_cons_cons, ← List.cons_append, joined]
          simp only [List.append_assoc]

end Separated

end OpenTogetherTube.Lib
