import Mathlib.Algebra.Order.Group.Basic
import Mathlib.Algebra.Order.Sub.Basic
import Mathlib.Data.List.Count

/-!
# Admissions in a sliding window

The times of what was admitted, and of these the recent ones: what is no longer recent lies a
width back or more. As long as nothing is admitted while the limit is recent, no window of the
width holds more than the limit.
-/

namespace OpenTogetherTube.Lib

variable {K : Type*} [AddCommGroup K] [LinearOrder K] {width now after : K} {limit : Nat}
  {log recent : List K}

/-- What was admitted, with the times that may be forgotten left out of the recent ones. -/
structure Admissions (width : K) (limit : Nat) (log recent : List K) (now : K) : Prop where
  forgotten : ∃ old, log = old ++ recent ∧ ∀ time ∈ old, width ≤ now - time
  fromStart : ∀ start, log.countP (fun time => start ≤ time ∧ time < start + width) ≤ limit
  toEnd : ∀ start, log.countP (fun time => start < time ∧ time ≤ start + width) ≤ limit

theorem Admissions.none (width now : K) (limit : Nat) : Admissions width limit [] [] now where
  forgotten := ⟨[], rfl, nofun⟩
  fromStart _ := Nat.zero_le _
  toEnd _ := Nat.zero_le _

variable [IsOrderedAddMonoid K]

variable (admissions : Admissions width limit log recent now)

include admissions

theorem Admissions.advance
    (elapsed : now ≤ after) : Admissions width limit log recent after where
  forgotten := by
    obtain ⟨old, split, past⟩ := admissions.forgotten
    refine ⟨old, split, fun time listed => (past time listed).trans ?_⟩
    exact sub_le_sub_right elapsed time
  fromStart := admissions.fromStart
  toEnd := admissions.toEnd

omit [IsOrderedAddMonoid K] in
/-- The recent times that have passed may be forgotten. -/
theorem Admissions.forget :
    Admissions width limit log (recent.dropWhile fun time => width ≤ now - time) now where
  forgotten := by
    obtain ⟨old, split, past⟩ := admissions.forgotten
    have parts : recent.takeWhile (fun time => decide (width ≤ now - time)) ++
        recent.dropWhile (fun time => decide (width ≤ now - time)) = recent :=
      List.takeWhile_append_dropWhile
    refine ⟨old ++ recent.takeWhile fun time => width ≤ now - time, ?_, ?_⟩
    · rw [List.append_assoc, parts, split]
    · intro time listed
      rcases List.mem_append.mp listed with before | passed
      · exact past time before
      · exact of_decide_eq_true (List.all_eq_true.mp List.all_takeWhile time passed)
  fromStart := admissions.fromStart
  toEnd := admissions.toEnd

omit [IsOrderedAddMonoid K] in
/-- A window that holds the present holds no forgotten time, so one more admission fits. -/
theorem Admissions.countP_admit
    (room : recent.length < limit) {window : K → Prop} [DecidablePred window]
    (bounded : log.countP window ≤ limit)
    (apart : window now → ∀ time, width ≤ now - time → ¬ window time) :
    (log ++ [now]).countP window ≤ limit := by
  rw [List.countP_append, List.countP_singleton]
  by_cases present : window now
  · obtain ⟨old, split, past⟩ := admissions.forgotten
    have none_ : old.countP window = 0 :=
      List.countP_eq_zero.mpr fun time listed inside =>
        apart present time (past time listed) (of_decide_eq_true inside)
    have recent_ : recent.countP window ≤ recent.length := List.countP_le_length
    rw [split, List.countP_append, none_, if_pos (decide_eq_true present)]
    omega
  · rw [if_neg (by simpa using present)]
    exact bounded

theorem Admissions.admit
    (room : recent.length < limit) :
    Admissions width limit (log ++ [now]) (recent ++ [now]) now where
  forgotten := by
    obtain ⟨old, split, past⟩ := admissions.forgotten
    exact ⟨old, by rw [split, List.append_assoc], past⟩
  fromStart start := by
    refine admissions.countP_admit room (admissions.fromStart start) ?_
    rintro ⟨_, inside⟩ time past ⟨from_, _⟩
    have further : start + width ≤ now :=
      (add_le_add_left from_ width).trans (le_sub_iff_add_le'.mp past)
    exact absurd inside (not_lt.mpr further)
  toEnd start := by
    refine admissions.countP_admit room (admissions.toEnd start) ?_
    rintro ⟨_, inside⟩ time past ⟨from_, _⟩
    have further : start + width < now :=
      (add_lt_add_left from_ width).trans_le (le_sub_iff_add_le'.mp past)
    exact absurd inside (not_le.mpr further)

end OpenTogetherTube.Lib
