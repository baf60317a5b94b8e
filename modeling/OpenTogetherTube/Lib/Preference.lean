import Mathlib.Order.Lattice
import Mathlib.Order.Defs.LinearOrder
import Mathlib.Data.List.Basic

/-!
# The cheapest candidate that will do

Candidates are tried in the order of their cost, so the first that will do costs least of all that
will. Candidates of least cost may take turns, and some may be tried before the others.
-/

namespace OpenTogetherTube.Lib

universe u v w

variable {Candidate : Type u} {Choice : Type v} {Cost : Type w}

section Costs

variable [LinearOrder Cost] (cost : Candidate → Cost)

/-- The candidates by cost, those of one cost as they come. -/
def byCost (candidates : List Candidate) : List Candidate :=
  candidates.mergeSort fun first second => decide (cost first ≤ cost second)

/-- Candidates that are tried in the order of their cost. -/
def Rising (candidates : List Candidate) : Prop :=
  candidates.Pairwise fun first second => cost first ≤ cost second

/-- The candidates of one cost begin so far on and come round, then the others. -/
def takeTurns (least : Cost) (turn : Nat) (candidates : List Candidate) : List Candidate :=
  let ties := candidates.filter fun candidate => decide (cost candidate = least)
  let start := turn % ties.length
  ties.drop start ++ ties.take start ++
    candidates.filter fun candidate => decide (cost candidate ≠ least)

variable {cost} {candidates : List Candidate}

theorem mem_byCost {candidate : Candidate} :
    candidate ∈ byCost cost candidates ↔ candidate ∈ candidates :=
  List.mem_mergeSort

theorem rising_byCost (candidates : List Candidate) : Rising cost (byCost cost candidates) := by
  have sorted : (byCost cost candidates).Pairwise fun first second =>
      decide (cost first ≤ cost second) = true := by
    refine List.pairwise_mergeSort (fun first second third earlier later => ?_)
      (fun first second => ?_) candidates
    · exact decide_eq_true (le_trans (of_decide_eq_true earlier) (of_decide_eq_true later))
    · rw [Bool.or_eq_true, decide_eq_true_eq, decide_eq_true_eq]
      exact le_total _ _
  exact sorted.imp fun ordered => of_decide_eq_true ordered

theorem mem_takeTurns {least : Cost} {turn : Nat} {candidate : Candidate} :
    candidate ∈ takeTurns cost least turn candidates ↔ candidate ∈ candidates := by
  unfold takeTurns
  rw [List.mem_append, List.mem_append, or_comm (a := _ ∈ List.drop _ _), ← List.mem_append,
    List.take_append_drop]
  simp only [List.mem_filter, decide_eq_true_eq, ← and_or_left]
  exact and_iff_left (em _)

/-- Turns among those of least cost leave the order of costs. -/
theorem Rising.takeTurns (rising : Rising cost candidates) {least : Cost}
    (lowest : ∀ candidate ∈ candidates, least ≤ cost candidate) (turn : Nat) :
    Rising cost (takeTurns cost least turn candidates) := by
  have tied : ∀ {candidate} {start : Nat},
      candidate ∈ (candidates.filter fun candidate => decide (cost candidate = least)).drop start ++
        (candidates.filter fun candidate => decide (cost candidate = least)).take start →
      cost candidate = least := by
    intro candidate start member
    have inside : candidate ∈ candidates.filter fun candidate => decide (cost candidate = least) := by
      rcases List.mem_append.mp member with dropped | taken
      · exact List.mem_of_mem_drop dropped
      · exact List.mem_of_mem_take taken
    exact of_decide_eq_true (List.mem_filter.mp inside).2
  unfold Lib.takeTurns
  refine List.pairwise_append.mpr ⟨?_, rising.filter _, fun first before second after => ?_⟩
  · refine List.pairwise_of_forall_mem_list fun first before second after => ?_
    rw [tied before, tied after]
  · rw [tied before]
    exact lowest second (List.mem_filter.mp after).1

/-- The first candidate of rising cost that will do costs least of all that will. -/
theorem Rising.findSome_least (rising : Rising cost candidates) {pick : Candidate → Option Choice}
    {choice : Choice} (found : candidates.findSome? pick = some choice) :
    ∃ candidate ∈ candidates, pick candidate = some choice ∧
      ∀ other ∈ candidates, pick other ≠ none → cost candidate ≤ cost other := by
  induction candidates with
  | nil => cases found
  | cons first rest ih =>
      obtain ⟨below, risingRest⟩ := List.pairwise_cons.mp rising
      rw [List.findSome?_cons] at found
      cases picked : pick first with
      | some here =>
          rw [picked] at found
          refine ⟨first, List.mem_cons_self, picked.trans found, fun other member _ => ?_⟩
          rcases List.mem_cons.mp member with rfl | later
          · exact le_rfl
          · exact below other later
      | none =>
          rw [picked] at found
          obtain ⟨candidate, member, chosen, least⟩ := ih risingRest found
          refine ⟨candidate, List.mem_cons_of_mem _ member, chosen, fun other among some_ => ?_⟩
          rcases List.mem_cons.mp among with rfl | later
          · exact absurd picked some_
          · exact least other later some_

end Costs

section Favourites

/-- Some candidates before the others. -/
def favouring (favourite : Candidate → Bool) (candidates : List Candidate) : List Candidate :=
  candidates.filter favourite ++ candidates.filter fun candidate => !favourite candidate

variable {favourite : Candidate → Bool} {candidates : List Candidate}

theorem mem_favouring {candidate : Candidate} :
    candidate ∈ favouring favourite candidates ↔ candidate ∈ candidates := by
  unfold favouring
  rw [List.mem_append, List.mem_filter, List.mem_filter, ← and_or_left, Bool.not_eq_true']
  exact and_iff_left (Bool.eq_false_or_eq_true _)

theorem favourite_of_find {willDo : Candidate → Bool} {chosen preferred : Candidate}
    (found : (favouring favourite candidates).find? willDo = some chosen)
    (member : preferred ∈ candidates) (favoured : favourite preferred = true)
    (does : willDo preferred = true) : favourite chosen = true := by
  unfold favouring at found
  rw [List.find?_append] at found
  cases first : (candidates.filter favourite).find? willDo with
  | none =>
      have none_ := List.find?_eq_none.mp first preferred (List.mem_filter.mpr ⟨member, favoured⟩)
      exact absurd does none_
  | some candidate =>
      rw [first, Option.some_or] at found
      obtain rfl := Option.some.inj found
      exact (List.mem_filter.mp (List.mem_of_find?_eq_some first)).2

end Favourites

end OpenTogetherTube.Lib
