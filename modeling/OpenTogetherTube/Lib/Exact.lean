import OpenTogetherTube.Lib.Tasks

/-!
# Exact guards

A guard is exact for a property of the shared state when a piece that begins where the property
holds keeps it just where it meets the guard. Along any run the property then holds throughout just
when every piece meets the guard. The property of the last section is that what is kept was made for
whoever is present.
-/

namespace OpenTogetherTube.Lib

universe u v

namespace TransitionSystem

variable {State : Type u} {Label : Type v} (next : Label → State → State)

/-- A property of every state along the labels. -/
def throughout (holds : State → Prop) : List Label → State → Prop
  | [], state => holds state
  | label :: rest, state => holds state ∧ throughout holds rest (next label state)

variable {next} {holds : State → Prop}

theorem throughout_start {labels : List Label} {state : State}
    (all : throughout next holds labels state) : holds state := by
  cases labels with
  | nil => exact all
  | cons label rest => exact all.1

/-- The last state is one of them. -/
theorem throughout_run {labels : List Label} {state : State}
    (all : throughout next holds labels state) : holds (run next labels state) := by
  induction labels generalizing state with
  | nil => exact all
  | cons label rest ih => exact ih all.2

/-- Where a step keeps the property just when it meets the condition, so do all the steps. -/
theorem throughout_iff {condition : State → Label → Prop}
    [∀ state label, Decidable (condition state label)]
    (exact_ : ∀ state label, holds state → (holds (next label state) ↔ condition state label))
    (labels : List Label) {state : State} (start : holds state) :
    throughout next holds labels state ↔ runs next condition labels state = true := by
  induction labels generalizing state with
  | nil => exact iff_of_true start rfl
  | cons label rest ih =>
      rw [runs, Bool.and_eq_true, decide_eq_true_eq, ← exact_ state label start]
      constructor
      · intro all
        have further := throughout_start all.2
        exact ⟨further, (ih further).mp all.2⟩
      · rintro ⟨further, met⟩
        exact ⟨start, (ih further).mpr met⟩

end TransitionSystem

namespace Guard

variable {Shared Call Answer Point Section : Type u}

/-- A piece that begins where the property holds keeps it just where it meets the guard. -/
structure Exact (guard : Guard Shared Call Answer Point Section)
    (program : Program Shared Call Answer Point Section) (holds : Shared → Prop) : Prop where
  call : ∀ call answer {shared}, holds shared →
    (holds (program.call call answer shared).1 ↔ guard.call call answer shared = true)
  resume : ∀ point answer {shared}, holds shared →
    (holds (program.resume point answer shared).1 ↔ guard.resume point answer shared = true)
  serve : ∀ guarded answer {shared}, holds shared →
    (holds (program.serve guarded answer shared).1 ↔ guard.serve guarded answer shared = true)

variable {guard : Guard Shared Call Answer Point Section}
  {program : Program Shared Call Answer Point Section} {holds : Shared → Prop}

theorem Exact.next_iff (exact_ : guard.Exact program holds) (tasks : Tasks Shared Point Section)
    (label : TaskLabel Call Answer) (start : holds tasks.shared) :
    holds (program.next label tasks).shared ↔ guard.allows tasks label = true := by
  unfold Program.next allows
  cases label with
  | call call answer =>
      dsimp only
      rw [Tasks.park_shared]
      exact exact_.call call answer start
  | resume index answer =>
      dsimp only
      cases tasks.ready[index]? with
      | none => exact iff_of_true start rfl
      | some point =>
          dsimp only
          rw [Tasks.park_shared]
          exact exact_.resume point answer start
  | serve answer =>
      dsimp only
      cases tasks.waiting with
      | nil => exact iff_of_true start rfl
      | cons guarded rest =>
          dsimp only
          rw [Tasks.park_shared]
          exact exact_.serve guarded answer start

/-- In any interleaving the property holds throughout just when every piece meets the guard. -/
theorem Exact.throughout_iff (exact_ : guard.Exact program holds)
    (labels : List (TaskLabel Call Answer)) {tasks : Tasks Shared Point Section}
    (start : holds tasks.shared) :
    TransitionSystem.throughout program.next (fun tasks => holds tasks.shared) labels tasks ↔
      TransitionSystem.runs program.next (fun tasks label => guard.allows tasks label = true) labels
        tasks = true :=
  TransitionSystem.throughout_iff (fun tasks label => exact_.next_iff tasks label) labels start

end Guard

section Owners

variable {Owner : Type u} {kept : Prop} {maker present : Option Owner}

/-- What is kept, if anything is, was made for the present owner. -/
def Belongs (kept : Prop) (maker present : Option Owner) : Prop :=
  kept → ∃ owner, maker = some owner ∧ present = some owner

/-- A new owner finds nothing that belongs to another. -/
theorem Belongs.moved_iff (belongs : Belongs kept maker present) (next : Option Owner) :
    Belongs kept maker next ↔ next = present ∨ ¬ kept := by
  constructor
  · intro moved
    by_cases something : kept
    · obtain ⟨owner, made, rfl⟩ := belongs something
      obtain ⟨_, same, rfl⟩ := moved something
      rw [made] at same
      exact .inl same.symm
    · exact .inr something
  · rintro (rfl | nothing)
    · exact belongs
    · exact fun something => absurd something nothing

theorem belongs_made_iff (owner : Owner) :
    Belongs kept (some owner) present ↔ present = some owner ∨ ¬ kept := by
  constructor
  · intro made
    by_cases something : kept
    · obtain ⟨_, same, there⟩ := made something
      rw [same]
      exact .inl there
    · exact .inr something
  · rintro (there | nothing)
    · exact fun _ => ⟨owner, rfl, there⟩
    · exact fun something => absurd something nothing

end Owners

end OpenTogetherTube.Lib
