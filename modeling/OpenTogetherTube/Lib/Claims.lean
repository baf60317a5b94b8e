import Mathlib.Data.List.Count
import OpenTogetherTube.Lib.Tasks

/-!
# Claims on a store

A task may be let through to add to a store and only later add to it. Between the two it holds a
claim. What is stored and claimed grows only where a piece takes its share of the two, so the store
stays within a bound as long as every share that is taken finds space, and no longer.
-/

namespace OpenTogetherTube.Lib

universe u

variable {Shared Call Answer Point Section : Type u}

/-- How much is stored, and at which points a task is yet to add to it. -/
structure Claims (Shared Point : Type u) where
  stored : Shared → Nat
  claims : Point → Bool

namespace Claims

variable (claims : Claims Shared Point)

/-- What is stored and claimed. -/
def total (tasks : Tasks Shared Point Section) : Nat :=
  claims.stored tasks.shared + tasks.ready.countP claims.claims

/-- What a piece leaves stored and claimed. -/
def left (result : Shared × Rest Point Section) : Nat :=
  claims.stored result.1 + result.2.points.countP claims.claims

theorem total_park (result : Shared × Rest Point Section) (tasks : Tasks Shared Point Section) :
    claims.total (tasks.park result) = claims.left result + tasks.ready.countP claims.claims := by
  unfold total left
  rw [Tasks.park_shared, Tasks.park_ready, List.countP_append]
  omega

theorem countP_split (counts : Point → Bool) (earlier later : List Point) (point : Point) :
    (earlier ++ point :: later).countP counts =
      (earlier ++ later).countP counts + if counts point then 1 else 0 := by
  rw [List.countP_append, List.countP_cons, List.countP_append]
  omega

variable (program : Program Shared Call Answer Point Section)

/-- Nothing but a piece that takes its share adds to what is stored and claimed. -/
structure Accounts (takes : Guard Shared Call Answer Point Section) : Prop where
  call : ∀ call answer shared, claims.left (program.call call answer shared) ≤
    claims.stored shared + if takes.call call answer shared then 1 else 0
  resume : ∀ point answer shared, claims.left (program.resume point answer shared) ≤
    claims.stored shared + (if claims.claims point then 1 else 0) +
      if takes.resume point answer shared then 1 else 0
  serve : ∀ guarded answer shared, claims.left (program.serve guarded answer shared) ≤
    claims.stored shared + if takes.serve guarded answer shared then 1 else 0

/-- Whoever takes a share finds space beside what is stored and claimed. -/
def Spare (takes : Guard Shared Call Answer Point Section) (cap : Nat)
    (tasks : Tasks Shared Point Section) (label : TaskLabel Call Answer) : Prop :=
  takes.allows tasks label = true → claims.total tasks < cap

theorem total_split {tasks : Tasks Shared Point Section} {earlier later : List Point} {point : Point}
    (split : tasks.ready = earlier ++ point :: later) :
    claims.total tasks = claims.stored tasks.shared +
      ((earlier ++ later).countP claims.claims + if claims.claims point then 1 else 0) := by
  rw [← countP_split, ← split]
  rfl

variable {claims program} {takes : Guard Shared Call Answer Point Section} {cap : Nat}

/-- A step stays within the bound if the claim it makes has space. -/
theorem Accounts.total_next_le (accounts : claims.Accounts program takes)
    {tasks : Tasks Shared Point Section} {label : TaskLabel Call Answer}
    (possible : Program.Enabled tasks label) (spare : claims.Spare takes cap tasks label)
    (within : claims.total tasks ≤ cap) : claims.total (program.next label tasks) ≤ cap := by
  rcases program.next_cases possible with ⟨call, answer, rfl, next⟩ |
    ⟨earlier, point, later, answer, rfl, split, next⟩ | ⟨guarded, rest, answer, rfl, line, next⟩
  · have piece := accounts.call call answer tasks.shared
    change takes.call call answer tasks.shared = true → claims.total tasks < cap at spare
    rw [next, total_park]
    unfold total at spare within
    split at piece
    · rename_i taken
      have space := spare taken
      omega
    · omega
  · have piece := accounts.resume point answer tasks.shared
    unfold Spare at spare
    rw [takes.allows_resume split] at spare
    rw [claims.total_split split] at spare within
    rw [next, total_park]
    change claims.left (program.resume point answer tasks.shared) +
      (earlier ++ later).countP claims.claims ≤ cap
    by_cases taken : takes.resume point answer tasks.shared = true
    · have space := spare taken
      rw [if_pos taken] at piece
      omega
    · rw [if_neg taken] at piece
      omega
  · have piece := accounts.serve guarded answer tasks.shared
    unfold Spare at spare
    rw [takes.allows_serve line] at spare
    rw [next, total_park]
    change claims.left (program.serve guarded answer tasks.shared) +
      tasks.ready.countP claims.claims ≤ cap
    unfold total at spare within
    split at piece
    · rename_i taken
      have space := spare taken
      omega
    · omega

/-- What is stored and claimed never passes the bound. -/
theorem Accounts.total_le (accounts : claims.Accounts program takes) {initial : Shared → Prop}
    (fits : ∀ shared, initial shared → claims.stored shared ≤ cap)
    {tasks : Tasks Shared Point Section}
    (reachable : ((program.system initial).restrict (claims.Spare takes cap)).Reachable tasks) :
    claims.total tasks ≤ cap := by
  have invariant : TransitionSystem.Inductive
      ((program.system initial).restrict (claims.Spare takes cap))
      fun tasks => claims.total tasks ≤ cap := by
    refine ⟨?_, ?_⟩
    · rintro _ ⟨shared, valid, rfl⟩
      exact fits shared valid
    · rintro before label _ within ⟨spare, possible, rfl⟩
      exact accounts.total_next_le possible spare within
  exact invariant.of_reachable reachable

end Claims

end OpenTogetherTube.Lib
