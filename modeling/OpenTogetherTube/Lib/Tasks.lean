import Mathlib.Data.List.Basic
import OpenTogetherTube.Lib.Transition

/-!
# Cooperative tasks with a lock

Tasks share a state and run one at a time, each until it comes to rest: at a point from
which it goes on later, or before a section that waits for the one lock. Any task at a point
may go on next; the sections run in the order in which they were asked for. A program says
what each piece between two rests does, and `Program.next_cases` is the one case analysis
every invariant of a program goes through.
-/

namespace OpenTogetherTube.Lib

universe u

/-- Where a task comes to rest. -/
inductive Rest (Point Section : Type u) where
  | done
  | point (point : Point)
  | locked (guarded : Section)
deriving DecidableEq

/-- The point of a rest, if it is at one. -/
def Rest.points {Point Section : Type u} : Rest Point Section → List Point
  | .point here => [here]
  | _ => []

/-- What a task does from one rest to the next. An answer is what comes from outside. -/
structure Program (Shared Call Answer Point Section : Type u) where
  call : Call → Answer → Shared → Shared × Rest Point Section
  resume : Point → Answer → Shared → Shared × Rest Point Section
  serve : Section → Answer → Shared → Shared × Rest Point Section

/-- The shared state, the tasks at a point and the sections in line for the lock. -/
structure Tasks (Shared Point Section : Type u) where
  shared : Shared
  ready : List Point := []
  waiting : List Section := []
deriving DecidableEq

/-- A task begins, one at a point goes on, or the first section in line runs. -/
inductive TaskLabel (Call Answer : Type u) where
  | call (call : Call) (answer : Answer)
  | resume (index : Nat) (answer : Answer)
  | serve (answer : Answer)

namespace Tasks

variable {Shared Point Section : Type u}

/-- The task that just ran comes to rest. -/
def park (result : Shared × Rest Point Section) (tasks : Tasks Shared Point Section) :
    Tasks Shared Point Section :=
  match result.2 with
  | .done => { tasks with shared := result.1 }
  | .point point => { tasks with shared := result.1, ready := tasks.ready ++ [point] }
  | .locked guarded => { tasks with shared := result.1, waiting := tasks.waiting ++ [guarded] }

/-- Nobody is on the way. -/
def quiet (tasks : Tasks Shared Point Section) : Bool := tasks.ready.isEmpty && tasks.waiting.isEmpty

variable (result : Shared × Rest Point Section) (tasks : Tasks Shared Point Section)

@[simp] theorem park_shared : (tasks.park result).shared = result.1 := by
  unfold park
  split <;> rfl

theorem park_ready : (tasks.park result).ready = tasks.ready ++ result.2.points := by
  obtain ⟨shared, rest⟩ := result
  cases rest with
  | done => exact (List.append_nil _).symm
  | point point => rfl
  | locked guarded => exact (List.append_nil _).symm

theorem mem_park_ready {point : Point} :
    point ∈ (tasks.park result).ready ↔ point ∈ tasks.ready ∨ result.2 = .point point := by
  rw [park_ready, List.mem_append]
  refine or_congr_right ?_
  cases result.2 with
  | point other => simp [Rest.points, eq_comm]
  | _ => simp [Rest.points]

theorem mem_park_waiting {guarded : Section} :
    guarded ∈ (tasks.park result).waiting ↔
      guarded ∈ tasks.waiting ∨ result.2 = .locked guarded := by
  unfold park
  split
  · rename_i ended
    simp [ended]
  · rename_i point rests
    simp [rests]
  · rename_i other rests
    simp [rests, eq_comm]

end Tasks

namespace Program

variable {Shared Call Answer Point Section : Type u}
  (program : Program Shared Call Answer Point Section)

/-- The tasks after a step. -/
def next (label : TaskLabel Call Answer) (tasks : Tasks Shared Point Section) :
    Tasks Shared Point Section :=
  match label with
  | .call call answer => tasks.park (program.call call answer tasks.shared)
  | .resume index answer =>
      match tasks.ready[index]? with
      | none => tasks
      | some point =>
          { tasks with ready := tasks.ready.eraseIdx index }.park
            (program.resume point answer tasks.shared)
  | .serve answer =>
      match tasks.waiting with
      | [] => tasks
      | guarded :: rest =>
          { tasks with waiting := rest }.park (program.serve guarded answer tasks.shared)

/-- There is such a task. -/
def Enabled (tasks : Tasks Shared Point Section) : TaskLabel Call Answer → Prop
  | .call _ _ => True
  | .resume index _ => index < tasks.ready.length
  | .serve _ => tasks.waiting ≠ []

instance (tasks : Tasks Shared Point Section) :
    ∀ label : TaskLabel Call Answer, Decidable (Enabled tasks label)
  | .call _ _ => .isTrue trivial
  | .resume _ _ => inferInstanceAs (Decidable (_ < _))
  | .serve _ =>
      match waiting : tasks.waiting with
      | [] => .isFalse fun some => some waiting
      | _ :: _ => .isTrue (by simp [Enabled, waiting])

/-- Every interleaving, from a shared state as given and no task on its way. -/
def system (initial : Shared → Prop) :
    TransitionSystem (Tasks Shared Point Section) (TaskLabel Call Answer) where
  Initial tasks := ∃ shared, initial shared ∧ tasks = { shared }
  Step before label after := Enabled before label ∧ after = program.next label before

/-- A step is one of three: a call, a task that leaves its point, or the first section. -/
theorem next_cases {tasks : Tasks Shared Point Section} {label : TaskLabel Call Answer}
    (possible : Enabled tasks label) :
    (∃ call answer, label = .call call answer ∧
      program.next label tasks = tasks.park (program.call call answer tasks.shared)) ∨
    (∃ earlier point later answer, label = .resume earlier.length answer ∧
      tasks.ready = earlier ++ point :: later ∧
      program.next label tasks = { tasks with ready := earlier ++ later }.park
        (program.resume point answer tasks.shared)) ∨
    ∃ guarded rest answer, label = .serve answer ∧ tasks.waiting = guarded :: rest ∧
      program.next label tasks = { tasks with waiting := rest }.park
        (program.serve guarded answer tasks.shared) := by
  cases label with
  | call call answer => exact Or.inl ⟨call, answer, rfl, rfl⟩
  | resume index answer =>
      change index < tasks.ready.length at possible
      have shape := List.take_append_drop index tasks.ready
      rw [List.drop_eq_getElem_cons possible] at shape
      have first : (tasks.ready.take index).length = index := by
        rw [List.length_take]
        omega
      refine Or.inr (Or.inl ⟨tasks.ready.take index, tasks.ready[index],
        tasks.ready.drop (index + 1), answer, by rw [first], shape.symm, ?_⟩)
      unfold next
      dsimp only
      rw [List.getElem?_eq_getElem possible, List.eraseIdx_eq_take_drop_succ]
  | serve answer =>
      cases line : tasks.waiting with
      | nil => exact absurd line possible
      | cons guarded rest =>
          refine Or.inr (Or.inr ⟨guarded, rest, answer, rfl, rfl, ?_⟩)
          unfold next
          dsimp only
          rw [line]

theorem exists_resume {tasks : Tasks Shared Point Section} {point : Point}
    (member : point ∈ tasks.ready) (answer : Answer) :
    ∃ label : TaskLabel Call Answer, Enabled tasks label ∧ ∃ others,
      program.next label tasks = Tasks.park (program.resume point answer tasks.shared) others := by
  obtain ⟨index, inside, rfl⟩ := List.getElem_of_mem member
  refine ⟨.resume index answer, inside, { tasks with ready := tasks.ready.eraseIdx index }, ?_⟩
  unfold next
  dsimp only
  rw [List.getElem?_eq_getElem inside]

/-- The task that came to rest last goes on at once. -/
theorem next_resume_last (tasks : Tasks Shared Point Section) (shared : Shared) (point : Point)
    (answer : Answer) :
    Enabled (tasks.park (shared, .point point))
        (.resume tasks.ready.length answer : TaskLabel Call Answer) ∧
      program.next (.resume tasks.ready.length answer) (tasks.park (shared, .point point)) =
        tasks.park (program.resume point answer shared) := by
  constructor
  · change tasks.ready.length < (tasks.ready ++ [point]).length
    rw [List.length_append, List.length_singleton]
    exact Nat.lt_succ_self _
  · have rest : (tasks.ready ++ [point]).eraseIdx tasks.ready.length = tasks.ready := by
      rw [List.eraseIdx_append_of_length_le (Nat.le_refl _), Nat.sub_self]
      exact List.append_nil _
    unfold next
    change (match (tasks.ready ++ [point])[tasks.ready.length]? with
      | none => _
      | some point => _) = _
    rw [List.getElem?_append_right (Nat.le_refl _), Nat.sub_self, List.getElem?_cons_zero]
    change Tasks.park (program.resume point answer shared)
      { shared, ready := (tasks.ready ++ [point]).eraseIdx tasks.ready.length,
        waiting := tasks.waiting } = _
    rw [rest]
    unfold Tasks.park
    cases (program.resume point answer shared).2 <;> rfl

end Program

/-- What a piece must meet where it begins. -/
structure Guard (Shared Call Answer Point Section : Type u) where
  call : Call → Answer → Shared → Bool := fun _ _ _ => true
  resume : Point → Answer → Shared → Bool := fun _ _ _ => true
  serve : Section → Answer → Shared → Bool := fun _ _ _ => true

namespace Guard

variable {Shared Call Answer Point Section : Type u}
  (guard : Guard Shared Call Answer Point Section) {tasks : Tasks Shared Point Section}

/-- The piece that a label runs meets the guard. -/
def allows (tasks : Tasks Shared Point Section) : TaskLabel Call Answer → Bool
  | .call call answer => guard.call call answer tasks.shared
  | .resume index answer =>
      tasks.ready[index]?.all fun point => guard.resume point answer tasks.shared
  | .serve answer =>
      tasks.waiting.head?.all fun guarded => guard.serve guarded answer tasks.shared

theorem allows_resume {earlier later : List Point} {point : Point} {answer : Answer}
    (split : tasks.ready = earlier ++ point :: later) :
    guard.allows tasks (.resume earlier.length answer) =
      guard.resume point answer tasks.shared := by
  unfold allows
  dsimp only
  rw [split, List.getElem?_append_right (Nat.le_refl _), Nat.sub_self, List.getElem?_cons_zero]
  rfl

theorem allows_serve {guarded : Section} {rest : List Section} {answer : Answer}
    (first : tasks.waiting = guarded :: rest) :
    guard.allows tasks (.serve answer) = guard.serve guarded answer tasks.shared := by
  unfold allows
  dsimp only
  rw [first]
  rfl

end Guard

namespace Program

variable {Shared Call Answer Point Section : Type u}
  (program : Program Shared Call Answer Point Section)

/-- Labels that are possible in order, each meeting a condition, make a run. -/
theorem steps_run (initial : Shared → Prop)
    (condition : Tasks Shared Point Section → TaskLabel Call Answer → Prop)
    [∀ tasks label, Decidable (condition tasks label)] (labels : List (TaskLabel Call Answer))
    (tasks : Tasks Shared Point Section)
    (possible : TransitionSystem.runs program.next
      (fun tasks label => Enabled tasks label ∧ condition tasks label) labels tasks = true) :
    ((program.system initial).restrict condition).Steps tasks
      (TransitionSystem.run program.next labels tasks) := by
  refine TransitionSystem.steps_run ?_ labels tasks possible
  rintro tasks label ⟨enabled, met⟩
  exact ⟨met, enabled, rfl⟩

end Program

end OpenTogetherTube.Lib
