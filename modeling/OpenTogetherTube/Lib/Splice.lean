import Mathlib.Data.List.Infix
import Mathlib.Order.Nat

/-!
# Searching around a spliced part

A part of a list that the searches do not stop in: what is found before it stays where it is,
and what is found behind it moves with its length.
-/

namespace OpenTogetherTube.Lib

variable {α : Type*} {p : α → Bool} {front part back pattern : List α}

/-- The position of the last element that passes. -/
def lastIdx? (p : α → Bool) : List α → Option Nat
  | [] => none
  | item :: rest =>
      match lastIdx? p rest with
      | some index => some (index + 1)
      | none => if p item then some 0 else none

/-- The position of the first occurrence of a pattern. -/
def infixIdx? [DecidableEq α] (pattern : List α) : List α → Option Nat
  | [] => if pattern = [] then some 0 else none
  | item :: rest =>
      if pattern <+: item :: rest then some 0 else (infixIdx? pattern rest).map (· + 1)

theorem lastIdx?_append (front back : List α) :
    lastIdx? p (front ++ back) =
      ((lastIdx? p back).map (· + front.length)).or (lastIdx? p front) := by
  induction front with
  | nil => simp [lastIdx?]
  | cons item rest ih =>
      rw [List.cons_append, lastIdx?, ih, lastIdx?]
      cases lastIdx? p back with
      | some index => simp [Nat.add_assoc]
      | none => cases lastIdx? p rest <;> rfl

theorem lastIdx?_eq_none (fails : ∀ item ∈ part, p item = false) : lastIdx? p part = none := by
  induction part with
  | nil => rfl
  | cons item rest ih =>
      have further := ih fun other listed =>
        fails other (List.mem_cons_of_mem _ listed)
      rw [lastIdx?, further]
      exact if_neg (by simp [fails item List.mem_cons_self])

theorem lt_length_of_lastIdx? {index : Nat} (found : lastIdx? p part = some index) :
    index < part.length := by
  induction part generalizing index with
  | nil => cases found
  | cons item rest ih =>
      rw [lastIdx?] at found
      cases further : lastIdx? p rest with
      | some other =>
          rw [further] at found
          cases found
          exact Nat.succ_lt_succ (ih further)
      | none =>
          rw [further] at found
          dsimp only at found
          split at found
          · cases found
            exact Nat.succ_pos _
          · cases found

theorem lastIdx?_splice (fails : ∀ item ∈ part, p item = false) :
    lastIdx? p (front ++ part ++ back) =
      ((lastIdx? p back).map (· + (front.length + part.length))).or (lastIdx? p front) := by
  rw [lastIdx?_append, lastIdx?_append, lastIdx?_eq_none fails, List.length_append]
  rfl

theorem findIdx_splice (fails : ∀ item ∈ part, p item = false) :
    (front ++ part ++ back).findIdx p =
      if front.findIdx p < front.length then front.findIdx p
      else back.findIdx p + part.length + front.length := by
  rw [List.append_assoc, List.findIdx_append, List.findIdx_append,
    List.findIdx_eq_length_of_false fails, if_neg (lt_irrefl part.length)]

/-- A pattern that does not go on with what follows ends before it. -/
theorem prefix_append_iff (some_ : back ≠ []) (apart : ∀ item ∈ back.head?, item ∉ pattern) :
    pattern <+: front ++ back ↔ pattern <+: front := by
  induction front generalizing pattern with
  | nil =>
      rw [List.nil_append]
      constructor
      · intro begins
        cases pattern with
        | nil => exact List.nil_prefix
        | cons head tail =>
            cases back with
            | nil => exact absurd rfl some_
            | cons next others =>
                obtain ⟨rfl, -⟩ := List.cons_prefix_cons.mp begins
                exact absurd List.mem_cons_self (apart head rfl)
      · intro begins
        rw [List.prefix_nil.mp begins]
        exact List.nil_prefix
  | cons item rest ih =>
      cases pattern with
      | nil => exact iff_of_true List.nil_prefix List.nil_prefix
      | cons head tail =>
          rw [List.cons_append, List.cons_prefix_cons, List.cons_prefix_cons]
          refine and_congr_right fun _ => ih fun other next listed => ?_
          exact apart other next (List.mem_cons_of_mem _ listed)

variable [DecidableEq α]

theorem infixIdx?_part (some_ : pattern ≠ []) (fails : ∀ item ∈ part, item ∉ pattern) :
    infixIdx? pattern (part ++ back) = (infixIdx? pattern back).map (· + part.length) := by
  induction part with
  | nil => simp
  | cons item rest ih =>
      have further := ih fun other listed =>
        fails other (List.mem_cons_of_mem _ listed)
      have not_ : ¬ pattern <+: item :: (rest ++ back) := by
        cases pattern with
        | nil => exact absurd rfl some_
        | cons head tail =>
            intro begins
            obtain ⟨rfl, -⟩ := List.cons_prefix_cons.mp begins
            exact fails head List.mem_cons_self List.mem_cons_self
      rw [List.cons_append, infixIdx?, if_neg not_, further, Option.map_map, List.length_cons]
      rfl

theorem infixIdx?_splice (some_ : pattern ≠ []) (some' : part ≠ [])
    (fails : ∀ item ∈ part, item ∉ pattern) :
    infixIdx? pattern (front ++ part ++ back) =
      (infixIdx? pattern front).or
        ((infixIdx? pattern back).map (· + (front.length + part.length))) := by
  induction front with
  | nil =>
      rw [List.nil_append, infixIdx?_part some_ fails, infixIdx?, if_neg some_, List.length_nil,
        Nat.zero_add]
      rfl
  | cons item rest ih =>
      have apart : ∀ next ∈ (part ++ back).head?, next ∉ pattern := by
        obtain ⟨head, others, rfl⟩ := List.exists_cons_of_ne_nil some'
        rintro next same
        cases same
        exact fails head List.mem_cons_self
      have same : pattern <+: (item :: rest) ++ (part ++ back) ↔ pattern <+: item :: rest :=
        prefix_append_iff (List.append_ne_nil_of_left_ne_nil some' back) apart
      rw [List.cons_append, List.cons_append, infixIdx?, infixIdx?]
      rw [List.cons_append, ← List.append_assoc] at same
      by_cases begins : pattern <+: item :: rest
      · rw [if_pos (same.mpr begins), if_pos begins]
        rfl
      · rw [if_neg (mt same.mp begins), if_neg begins, ih]
        cases infixIdx? pattern rest with
        | some index => rfl
        | none =>
            cases infixIdx? pattern back with
            | none => rfl
            | some index =>
                simp only [Option.map_none, Option.none_or, Option.map_some, List.length_cons]
                congr 1
                omega

theorem add_length_le_of_infixIdx? {index : Nat} (found : infixIdx? pattern front = some index) :
    index + pattern.length ≤ front.length := by
  induction front generalizing index with
  | nil =>
      rw [infixIdx?] at found
      split at found
      · next empty =>
          cases found
          rw [empty]
          exact le_rfl
      · cases found
  | cons item rest ih =>
      rw [infixIdx?] at found
      split at found
      · next begins =>
          cases found
          rw [Nat.zero_add]
          exact begins.length_le
      · cases further : infixIdx? pattern rest with
        | none =>
            rw [further] at found
            cases found
        | some other =>
            rw [further] at found
            cases found
            have within := ih further
            rw [List.length_cons]
            dsimp only
            omega

end OpenTogetherTube.Lib
