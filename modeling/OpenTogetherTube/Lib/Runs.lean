import Mathlib.Data.List.TakeWhile
import Mathlib.Data.List.Infix

/-!
# Maximal runs

The maximal runs of the elements of a list that pass a test, each with the position where it
starts. A run between elements that do not pass is found whatever its length, and the runs
beside it only move.
-/

namespace OpenTogetherTube.Lib

variable {α : Type*}

/-- A run and where it starts. -/
structure Run (α : Type*) where
  start : Nat
  items : List α
deriving DecidableEq

/-- An element begins a run, or joins the one right behind it. -/
def joinRun (start : Nat) (item : α) : List (Run α) → List (Run α)
  | [] => [⟨start, [item]⟩]
  | run :: rest =>
      if run.start = start + 1 then ⟨start, item :: run.items⟩ :: rest
      else ⟨start, [item]⟩ :: run :: rest

/-- The maximal runs of a list that begins at a position. -/
def runs (passes : α → Bool) : Nat → List α → List (Run α)
  | _, [] => []
  | start, item :: rest =>
      if passes item then joinRun start item (runs passes (start + 1) rest)
      else runs passes (start + 1) rest

/-- The same runs further on. -/
def Run.move (distance : Nat) (run : Run α) : Run α := { run with start := run.start + distance }

variable {passes : α → Bool} {start : Nat} {item : α} {left right middle items : List α}

theorem le_start_of_mem_runs {run : Run α} (found : run ∈ runs passes start items) :
    start ≤ run.start := by
  induction items generalizing start run with
  | nil => cases found
  | cons item rest ih =>
      unfold runs at found
      split at found
      · cases further : runs passes (start + 1) rest with
        | nil =>
            rw [further, joinRun, List.mem_singleton] at found
            rw [found]
        | cons next others =>
            have behind {other : Run α} (listed : other ∈ next :: others) : start ≤ other.start :=
              Nat.le_of_succ_le (ih (further ▸ listed))
            rw [further, joinRun] at found
            split at found
            · rcases List.mem_cons.mp found with rfl | listed
              · exact le_rfl
              · exact behind (List.mem_cons_of_mem _ listed)
            · rcases List.mem_cons.mp found with rfl | listed
              · exact le_rfl
              · exact behind listed
      · exact Nat.le_of_succ_le (ih found)

theorem runs_cons_of_neg (stops : passes item = false) (rest : List α) :
    runs passes start (item :: rest) = runs passes (start + 1) rest := by
  rw [runs, if_neg (by simp [stops])]

/-- A run takes all it can. -/
theorem runs_cons_of_pos (first : passes item = true) (rest : List α) :
    runs passes start (item :: rest) =
      ⟨start, item :: rest.takeWhile passes⟩ ::
        runs passes (start + 1 + (rest.takeWhile passes).length) (rest.dropWhile passes) := by
  induction rest generalizing start item with
  | nil => rw [runs, if_pos first]; rfl
  | cons next rest ih =>
      rw [runs, if_pos first]
      by_cases further : passes next = true
      · rw [ih further, joinRun, if_pos rfl, List.takeWhile_cons_of_pos further,
          List.dropWhile_cons_of_pos further, List.length_cons]
        congr 2
        omega
      · rw [List.takeWhile_cons_of_neg further, List.dropWhile_cons_of_neg further]
        cases found : runs passes (start + 1) (next :: rest) with
        | nil => rfl
        | cons run others =>
            have late : start + 2 ≤ run.start := by
              rw [runs_cons_of_neg (by simpa using further)] at found
              exact le_start_of_mem_runs (found ▸ List.mem_cons_self)
            rw [joinRun, if_neg (by omega)]

theorem runs_move (distance : Nat) :
    runs passes (start + distance) items = (runs passes start items).map (Run.move distance) := by
  induction items generalizing start with
  | nil => rfl
  | cons item rest ih =>
      have further : runs passes (start + 1 + distance) rest = _ := ih
      rw [Nat.add_right_comm] at further
      unfold runs
      rw [further]
      split
      · cases runs passes (start + 1) rest with
        | nil => rfl
        | cons run others =>
            simp only [List.map_cons, joinRun, Run.move]
            split <;> split <;> first | rfl | omega
      · rfl

/-- A list whose last element fails is not passed as a whole. -/
theorem dropWhile_ne_nil {first : α} (ends : ∀ last ∈ (first :: left).getLast?, passes last = false)
    (begins : passes first = true) : left.dropWhile passes ≠ [] := by
  intro empty
  have all := List.dropWhile_eq_nil_iff.mp empty
  have fails := ends _ (List.getLast?_eq_some_getLast (List.cons_ne_nil first left))
  rcases List.mem_cons.mp (List.getLast_mem (List.cons_ne_nil first left)) with same | listed
  · rw [same, begins] at fails
    cases fails
  · rw [all _ listed] at fails
    cases fails

/-- What passes between two elements that do not is one run. -/
theorem runs_splice (ends : ∀ item ∈ left.getLast?, passes item = false)
    (begins : ∀ item ∈ right.head?, passes item = false) (some_ : middle ≠ [])
    (all : ∀ item ∈ middle, passes item = true) :
    runs passes start (left ++ middle ++ right) =
      runs passes start left ++ ⟨start + left.length, middle⟩ ::
        runs passes (start + left.length + middle.length) right := by
  induction size : left.length using Nat.strong_induction_on generalizing left start with
  | _ size_ ih =>
  subst size
  cases left with
  | nil =>
      cases middle with
      | nil => exact absurd rfl some_
      | cons first rest =>
          have stops : right.takeWhile passes = [] ∧ right.dropWhile passes = right := by
            cases right with
            | nil => exact ⟨rfl, rfl⟩
            | cons next others =>
                have fails : ¬ passes next = true := by simp [begins next rfl]
                exact ⟨List.takeWhile_cons_of_neg fails, List.dropWhile_cons_of_neg fails⟩
          have further : ∀ item ∈ rest, passes item = true :=
            fun item listed => all item (List.mem_cons_of_mem _ listed)
          rw [List.nil_append, List.cons_append, runs_cons_of_pos (all first List.mem_cons_self),
            List.takeWhile_append_of_pos further, List.dropWhile_append_of_pos further, stops.1,
            stops.2, List.append_nil]
          simp only [runs, List.nil_append, List.length_nil, List.length_cons, Nat.add_zero]
          congr 2
          omega
  | cons first rest =>
      by_cases passing : passes first = true
      · have more := dropWhile_ne_nil ends passing
        have parts := congrArg List.length
          (List.takeWhile_append_dropWhile (p := passes) (l := rest))
        rw [List.length_append] at parts
        have positive := List.length_pos_iff.mpr more
        have ends_ : ∀ item ∈ (rest.dropWhile passes).getLast?, passes item = false := by
          intro item last
          refine ends item ?_
          rw [List.getLast?_cons_of_ne_nil (fun empty => more (by rw [empty]; rfl)),
            ← List.takeWhile_append_dropWhile (p := passes) (l := rest), List.getLast?_append, last]
          rfl
        have shorter : (rest.dropWhile passes).length < (first :: rest).length := by
          rw [List.length_cons]
          omega
        have further : runs passes (start + 1 + (rest.takeWhile passes).length)
            (rest.dropWhile passes ++ middle ++ right) = _ :=
          ih _ shorter ends_ rfl
        have here : start + 1 + (rest.takeWhile passes).length + (rest.dropWhile passes).length =
            start + (first :: rest).length := by
          rw [List.length_cons]
          omega
        rw [here] at further
        rw [List.cons_append, List.cons_append, runs_cons_of_pos passing, runs_cons_of_pos passing,
          List.append_assoc, List.takeWhile_append, if_neg (by omega), List.dropWhile_append,
          if_neg (by simpa using more), ← List.append_assoc, further, List.cons_append]
      · have fails : passes first = false := by simpa using passing
        have ends_ : ∀ item ∈ rest.getLast?, passes item = false := by
          cases rest with
          | nil => exact nofun
          | cons next others => rwa [List.getLast?_cons_cons] at ends
        have further : runs passes (start + 1) (rest ++ middle ++ right) = _ :=
          ih rest.length (by simp) ends_ rfl
        rw [List.cons_append, List.cons_append, runs_cons_of_neg fails, runs_cons_of_neg fails,
          further, List.length_cons, Nat.add_right_comm, Nat.add_assoc start rest.length]

/-- Where a run lies, and that nothing can be added to it. -/
theorem exists_of_mem_runs {run : Run α} (found : run ∈ runs passes start items) :
    ∃ left right, items = left ++ run.items ++ right ∧ run.start = start + left.length ∧
      run.items ≠ [] ∧ (∀ item ∈ run.items, passes item = true) ∧
      (∀ item ∈ left.getLast?, passes item = false) ∧
      ∀ item ∈ right.head?, passes item = false := by
  induction size : items.length using Nat.strong_induction_on generalizing items start with
  | _ size_ ih =>
  subst size
  cases items with
  | nil => cases found
  | cons first rest =>
      by_cases passing : passes first = true
      · rw [runs_cons_of_pos passing] at found
        have parts := List.takeWhile_append_dropWhile (p := passes) (l := rest)
        have stops : ∀ item ∈ (rest.dropWhile passes).head?, passes item = false := by
          intro item head
          have fails := List.head?_dropWhile_not passes rest
          rw [head] at fails
          simpa using fails
        rcases List.mem_cons.mp found with rfl | later
        · refine ⟨[], rest.dropWhile passes, ?_, rfl, List.cons_ne_nil _ _, ?_, nofun, stops⟩
          · rw [List.nil_append, List.cons_append, parts]
          · intro item listed
            rcases List.mem_cons.mp listed with rfl | taken
            · exact passing
            · exact List.mem_takeWhile_imp taken
        · have shorter : (rest.dropWhile passes).length < (first :: rest).length :=
            Nat.lt_succ_of_le (List.length_dropWhile_le passes rest)
          obtain ⟨left, right, split, at_, some_, all, ends, begins⟩ :=
            ih _ shorter later rfl
          refine ⟨first :: rest.takeWhile passes ++ left, right, ?_, ?_, some_, all, ?_, begins⟩
          · rw [List.cons_append, List.cons_append, List.cons_append, List.append_assoc,
              List.append_assoc, ← List.append_assoc left, ← split, parts]
          · rw [at_, List.length_append, List.length_cons]
            omega
          · intro item last
            cases left with
            | nil =>
                -- The run would begin where the one before it was stopped.
                obtain ⟨head, others, same⟩ := List.exists_cons_of_ne_nil some_
                have fails := stops head (by rw [split, same]; rfl)
                rw [all head (same ▸ List.mem_cons_self)] at fails
                cases fails
            | cons next others =>
                rw [List.getLast?_append_of_ne_nil _ (List.cons_ne_nil next others)] at last
                exact ends item last
      · have fails : passes first = false := by simpa using passing
        rw [runs_cons_of_neg fails] at found
        obtain ⟨left, right, split, at_, some_, all, ends, begins⟩ :=
          ih rest.length (by simp) found rfl
        refine ⟨first :: left, right, by rw [split]; rfl, ?_, some_, all, ?_, begins⟩
        · rw [at_, List.length_cons]
          omega
        · cases left with
          | nil =>
              intro item last
              obtain rfl := Option.some.inj last
              exact fails
          | cons next others => rwa [List.getLast?_cons_cons]

end OpenTogetherTube.Lib
