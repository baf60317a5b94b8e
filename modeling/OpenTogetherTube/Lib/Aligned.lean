import Mathlib.Data.List.Count
import Mathlib.Data.List.Forall2

/-!
# Answers in the order of requests

A list of answers is aligned with a list of requests when its elements answer, one by one and in
order, those requests that are answered at all. For answers that were looked up one request at a
time this comes down to the single lookups.
-/

namespace OpenTogetherTube.Lib

universe u v

variable {Request : Type u} {Answer : Type v} (Answers : Answer → Request → Prop)
  [∀ answer request, Decidable (Answers answer request)]

/-- The requests that have an answer. -/
def answeredBy (answers : List Answer) (requests : List Request) : List Request :=
  requests.filter fun request => decide (∃ answer ∈ answers, Answers answer request)

/-- Each answer answers, in order, the next request that has one. -/
def Aligned (requests : List Request) (answers : List Answer) : Prop :=
  List.Forall₂ Answers answers (answeredBy Answers answers requests)

variable {Answers} {requests : List Request} {answers : List Answer}

/-- No answer is to something that was not requested. -/
theorem Aligned.requested (aligned : Aligned Answers requests answers) {answer : Answer}
    (member : answer ∈ answers) : ∃ request ∈ requests, Answers answer request := by
  obtain ⟨index, inside, rfl⟩ := List.getElem_of_mem member
  have inside' : index < (answeredBy Answers answers requests).length := by
    rw [← List.Forall₂.length_eq aligned]
    exact inside
  have listed : (answeredBy Answers answers requests)[index] ∈
      answeredBy Answers answers requests := List.getElem_mem inside'
  exact ⟨_, (List.mem_filter.mp listed).1, aligned.get inside inside'⟩

/-- What questions that may fail as a whole collect: one answer for each of them, and no others. -/
theorem mem_mapM {ask : Request → Option Answer} (asked : requests.mapM ask = some answers) :
    (∀ answer ∈ answers, ∃ request ∈ requests, ask request = some answer) ∧
      ∀ request ∈ requests, ∃ answer ∈ answers, ask request = some answer := by
  induction requests generalizing answers with
  | nil =>
      obtain rfl : answers = [] := by simpa using asked.symm
      exact ⟨nofun, nofun⟩
  | cons request rest ih =>
      rw [List.mapM_cons] at asked
      obtain ⟨answer, first, asked⟩ := Option.bind_eq_some_iff.mp asked
      obtain ⟨others, further, asked⟩ := Option.bind_eq_some_iff.mp asked
      obtain rfl := Option.some.inj asked
      obtain ⟨onlyThese, allThese⟩ := ih further
      constructor
      · intro given listed
        rcases List.mem_cons.mp listed with rfl | later
        · exact ⟨request, List.mem_cons_self, first⟩
        · obtain ⟨other, member, found⟩ := onlyThese given later
          exact ⟨other, List.mem_cons_of_mem _ member, found⟩
      · intro other member
        rcases List.mem_cons.mp member with rfl | later
        · exact ⟨answer, List.mem_cons_self, first⟩
        · obtain ⟨given, listed, found⟩ := allThese other later
          exact ⟨given, List.mem_cons_of_mem _ listed, found⟩

section Lookup

variable {find : Request → Option Answer}
  (settled : ∀ request other answer, find other = some answer → Answers answer request →
    find request = some answer)

include settled

omit [∀ answer request, Decidable (Answers answer request)] in
/-- What was looked up for any request answers only requests it is found for. -/
theorem found_of_answers {request : Request} {answer : Answer}
    (member : answer ∈ requests.filterMap find) (answered : Answers answer request) :
    find request = some answer := by
  obtain ⟨other, -, found⟩ := List.mem_filterMap.mp member
  exact settled request other answer found answered

/-- Where every lookup is right, exactly the requests with a find are answered. -/
theorem answeredBy_filterMap
    (right : ∀ request ∈ requests, ∀ answer, find request = some answer → Answers answer request) :
    answeredBy Answers (requests.filterMap find) requests =
      requests.filter fun request => (find request).isSome := by
  unfold answeredBy
  refine List.filter_congr fun request member => ?_
  rw [Bool.eq_iff_iff, decide_eq_true_eq, Option.isSome_iff_exists]
  constructor
  · rintro ⟨answer, found, answered⟩
    exact ⟨answer, found_of_answers settled found answered⟩
  · rintro ⟨answer, found⟩
    exact ⟨answer, List.mem_filterMap.mpr ⟨request, member, found⟩,
      right request member answer found⟩

omit settled [∀ answer request, Decidable (Answers answer request)] in
theorem forall₂_filterMap
    (right : ∀ request ∈ requests, ∀ answer, find request = some answer → Answers answer request) :
    List.Forall₂ Answers (requests.filterMap find)
      (requests.filter fun request => (find request).isSome) := by
  induction requests with
  | nil => exact .nil
  | cons request rest ih =>
      have further := ih fun other member =>
        right other (List.mem_cons_of_mem _ member)
      cases found : find request with
      | none =>
          rw [List.filterMap_cons_none found, List.filter_cons_of_neg (by simp [found])]
          exact further
      | some answer =>
          rw [List.filterMap_cons_some found, List.filter_cons_of_pos (by simp [found])]
          exact .cons (right request List.mem_cons_self answer found) further

/-- Answers looked up one request at a time are aligned just when each lookup is right. -/
theorem aligned_filterMap_iff : Aligned Answers requests (requests.filterMap find) ↔
    ∀ request ∈ requests, ∀ answer, find request = some answer → Answers answer request := by
  constructor
  · intro aligned request member answer found
    -- there are as many answers as finds, so every find is answered, and by itself only
    have lengths := List.Forall₂.length_eq aligned
    rw [List.length_filterMap_eq_countP, List.countP_eq_length_filter] at lengths
    have fewer : (answeredBy Answers (requests.filterMap find) requests).Sublist
        (requests.filter fun request => (find request).isSome) := by
      refine List.monotone_filter_right requests fun other answered => ?_
      obtain ⟨given, listed, answers⟩ := of_decide_eq_true answered
      rw [found_of_answers settled listed answers]
      rfl
    have answered : request ∈ answeredBy Answers (requests.filterMap find) requests := by
      rw [fewer.eq_of_length lengths.symm]
      exact List.mem_filter.mpr ⟨member, by rw [found]; rfl⟩
    obtain ⟨given, listed, answers⟩ := of_decide_eq_true (List.mem_filter.mp answered).2
    obtain rfl := Option.some.inj (found.symm.trans (found_of_answers settled listed answers))
    exact answers
  · intro right
    unfold Aligned
    rw [answeredBy_filterMap settled right]
    exact forall₂_filterMap right

end Lookup

end OpenTogetherTube.Lib
