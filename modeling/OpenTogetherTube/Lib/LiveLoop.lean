import Mathlib.Data.List.Basic

/-!
# Loops over a list that the loop shortens

A loop that reads its list anew in each round, at the next index. Where a round takes the element it
is at out of the list, the one behind it moves up to an index that is past, and the loop never gets
to it.
-/

namespace OpenTogetherTube.Lib

section Reached

variable {Element : Type*} (leaves : Element → Bool)

/-- The elements the loop gets to, of those from its index on; the first one moved up if `skips`. -/
def reached : Bool → List Element → List Element
  | _, [] => []
  | true, _ :: rest => reached false rest
  | false, element :: rest => element :: reached (leaves element) rest

end Reached

variable {Element State : Type*} (view : State → List Element) (body : Element → State → State)

/-- The loop from an index on, for so many rounds. -/
def forOf : Nat → Nat → State → State
  | 0, _, state => state
  | rounds + 1, index, state =>
      match (view state)[index]? with
      | none => state
      | some element => forOf rounds (index + 1) (body element state)

/-- What each round keeps the loop keeps. -/
theorem forOf_keeps {Holds : State → Prop}
    (round : ∀ element state, Holds state → Holds (body element state)) (rounds index : Nat)
    {state : State} (holds : Holds state) : Holds (forOf view body rounds index state) := by
  induction rounds generalizing index state with
  | zero => exact holds
  | succ rounds ih =>
      rw [forOf]
      split
      · exact holds
      · exact ih _ (round _ _ holds)

variable {view body} in
theorem forOf_ended {index : Nat} {state : State} (ended : (view state).length ≤ index)
    (rounds : Nat) : forOf view body rounds index state = state := by
  cases rounds with
  | zero => rfl
  | succ rounds => rw [forOf, List.getElem?_eq_none ended]

/-- What each round keeps the loop keeps, and what a round does to its element is done to every
element that is reached. -/
theorem forOf_reached (leaves : Element → Bool) (Holds : State → Prop)
    (Done : Element → State → Prop)
    (round : ∀ element state front rest, Holds state → view state = front ++ element :: rest →
      Holds (body element state) ∧ Done element (body element state) ∧
        view (body element state) = front ++ if leaves element then rest else element :: rest)
    (lasts : ∀ element other state, Holds state → Done other state →
      Done other (body element state))
    (skips : Bool) {rounds : Nat} {front rest : List Element} {state : State}
    (enough : rest.length ≤ rounds) (holds : Holds state) (list : view state = front ++ rest) :
    Holds (forOf view body rounds (front.length + skips.toNat) state) ∧
      (∀ other, Done other state →
        Done other (forOf view body rounds (front.length + skips.toNat) state)) ∧
      ∀ element ∈ reached leaves skips rest,
        Done element (forOf view body rounds (front.length + skips.toNat) state) := by
  induction rest generalizing skips rounds front state with
  | nil =>
      have ended : (view state).length ≤ front.length + skips.toNat := by simp [list]
      rw [forOf_ended ended]
      cases skips <;> exact ⟨holds, fun _ done => done, nofun⟩
  | cons element rest ih =>
      have next : (front ++ [element]).length = front.length + 1 := List.length_append
      have split : front ++ element :: rest = (front ++ [element]) ++ rest := by simp
      cases skips with
      | true =>
          have passed := ih false (Nat.le_of_succ_le enough) holds (list.trans split)
          rw [next] at passed
          exact passed
      | false =>
          cases rounds with
          | zero => exact absurd enough (Nat.not_succ_le_zero _)
          | succ rounds =>
              have here : (view state)[front.length + false.toNat]? = some element := by
                simp [list]
              obtain ⟨held, did, left⟩ := round element state front rest holds list
              have enough := Nat.le_of_succ_le_succ enough
              rw [forOf, here, reached]
              have further : Holds (forOf view body rounds (front.length + 1) (body element state)) ∧
                  (∀ other, Done other (body element state) →
                    Done other (forOf view body rounds (front.length + 1) (body element state))) ∧
                  ∀ other ∈ reached leaves (leaves element) rest,
                    Done other (forOf view body rounds (front.length + 1) (body element state)) := by
                cases gone : leaves element with
                | true =>
                    -- The next round is behind the one that moved up.
                    rw [gone, if_pos rfl] at left
                    exact ih true enough held left
                | false =>
                    rw [gone, if_neg Bool.false_ne_true, split] at left
                    have stayed := ih false enough held left
                    rw [next] at stayed
                    exact stayed
              obtain ⟨last, done, all⟩ := further
              refine ⟨last, fun other earlier => done other (lasts element other state holds earlier),
                fun other listed => ?_⟩
              rcases List.mem_cons.mp listed with rfl | later
              · exact done _ did
              · exact all other later

end OpenTogetherTube.Lib
