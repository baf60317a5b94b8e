/-!
# Work in rounds

A loop that does a round of work and goes round again while the state it leaves asks for it. The
relation `Ends` records the rounds that were begun; it is what the theorems are about, and `runFrom`
is its execution with fuel. Where a round that asks for another lowers a measure, the loop ends.
-/

namespace OpenTogetherTube.Lib

universe u

/-- The rounds of a loop, by their numbers, and the test that follows each. -/
structure Rounds (State : Type u) where
  round : Nat → State → State
  again : State → Bool

namespace Rounds

variable {State : Type u} (rounds : Rounds State)

/-- The state the loop ends in, if at most `fuel` rounds from number `index` on lead there. -/
def runFrom : Nat → Nat → State → Option State
  | 0, _, _ => none
  | fuel + 1, index, state =>
      if rounds.again (rounds.round index state) then
        runFrom fuel (index + 1) (rounds.round index state)
      else some (rounds.round index state)

/-- From round `index` on, the loop begins the listed rounds, each at the state it is listed with, and
ends. -/
inductive Ends : Nat → State → List (Nat × State) → State → Prop where
  | stop {index state} (stops : rounds.again (rounds.round index state) = false) :
      Ends index state [(index, state)] (rounds.round index state)
  | more {index state begun final} (goes : rounds.again (rounds.round index state) = true)
      (rest : Ends (index + 1) (rounds.round index state) begun final) :
      Ends index state ((index, state) :: begun) final

variable {rounds} {index : Nat} {state final : State} {begun : List (Nat × State)}

theorem Ends.runFrom_eq (ends : rounds.Ends index state begun final) {fuel : Nat}
    (enough : begun.length ≤ fuel) : rounds.runFrom fuel index state = some final := by
  induction ends generalizing fuel with
  | stop stops =>
      obtain ⟨fuel, rfl⟩ : ∃ less, fuel = less + 1 := ⟨fuel - 1, by grind⟩
      rw [runFrom, stops]
      rfl
  | more goes rest ih =>
      rw [List.length_cons] at enough
      obtain ⟨fuel, rfl⟩ : ∃ less, fuel = less + 1 := ⟨fuel - 1, by omega⟩
      rw [runFrom, goes]
      exact ih (Nat.le_of_succ_le_succ enough)

/-- Where going round again lowers a measure, the loop ends after at most one round more than the
measure says. -/
theorem ends_of_measure (measure : State → Nat)
    (falls : ∀ index state, rounds.again (rounds.round index state) = true →
      measure (rounds.round index state) < measure state) (index : Nat) (state : State) :
    ∃ begun final, rounds.Ends index state begun final ∧ begun.length ≤ measure state + 1 := by
  induction bound : measure state using Nat.strongRecOn generalizing index state with
  | _ bound ih =>
      subst bound
      by_cases goes : rounds.again (rounds.round index state) = true
      · have lower := falls index state goes
        obtain ⟨begun, final, ends, short⟩ :=
          ih _ lower (index + 1) (rounds.round index state) rfl
        exact ⟨_, final, .more goes ends, by rw [List.length_cons]; omega⟩
      · exact ⟨_, _, .stop (by simpa using goes), by simp⟩

/-- The test fails at the end. -/
theorem Ends.settled (ends : rounds.Ends index state begun final) : rounds.again final = false := by
  induction ends with
  | stop stops => exact stops
  | more _ _ ih => exact ih

/-- What each round hands on to the next holds at the end, after as many rounds as were begun. -/
theorem Ends.keepsAt {holds : Nat → State → Prop}
    (kept : ∀ index state, holds index state → holds (index + 1) (rounds.round index state))
    (ends : rounds.Ends index state begun final) (start : holds index state) :
    holds (index + begun.length) final := by
  induction ends with
  | stop _ => exact kept _ _ start
  | @more index _ begun _ _ _ ih =>
      have further := ih (kept _ _ start)
      rwa [Nat.add_right_comm, Nat.add_assoc] at further

theorem Ends.keeps {holds : State → Prop}
    (kept : ∀ index state, holds state → holds (rounds.round index state))
    (ends : rounds.Ends index state begun final) (start : holds state) : holds final :=
  ends.keepsAt (fun index state => kept index state) start

/-- What a round does that is the last one. -/
theorem Ends.lastly {holds : Nat → State → Prop}
    (made : ∀ index state, rounds.again (rounds.round index state) = false →
      holds (index + 1) (rounds.round index state))
    (ends : rounds.Ends index state begun final) : holds (index + begun.length) final := by
  induction ends with
  | stop stops => exact made _ _ stops
  | @more index _ begun _ _ _ ih =>
      rwa [Nat.add_right_comm, Nat.add_assoc] at ih

/-- What the last round decides is decided by all the rounds, where a round that goes round again is
always fine. -/
theorem Ends.decided {good : State → Prop} {fine : Nat → State → Prop}
    (last : ∀ index state, rounds.again (rounds.round index state) = false →
      (good (rounds.round index state) ↔ fine index state))
    (before : ∀ index state, rounds.again (rounds.round index state) = true → fine index state)
    (ends : rounds.Ends index state begun final) :
    good final ↔ ∀ visit ∈ begun, fine visit.1 visit.2 := by
  induction ends with
  | stop stops => simpa using last _ _ stops
  | more goes _ ih =>
      rw [ih, List.forall_mem_cons]
      exact (and_iff_right (before _ _ goes)).symm

end Rounds

end OpenTogetherTube.Lib
