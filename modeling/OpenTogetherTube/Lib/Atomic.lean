import OpenTogetherTube.Lib.Handler

/-!
# Handlers that fail without a trace

A handler is atomic where an error leaves the state as it was. Checks that only inspect the state may
come first in any number; once something is written, nothing may throw.
-/

namespace OpenTogetherTube.Lib.Handler

universe u

variable {Error State α β : Type u}

/-- The handler does not throw from `state`. -/
def Returns (handler : Handler Error State α) (state : State) : Prop :=
  ∃ value, handler.outcome state = .ok value

/-- If the handler throws from `state`, it leaves `state`. -/
def Atomic (handler : Handler Error State α) (state : State) : Prop :=
  ∀ error, handler.outcome state = .error error → handler.after state = state

/-- The handler writes nothing. -/
def Inspects (handler : Handler Error State α) : Prop :=
  ∀ state, handler.after state = state

section Returning

theorem Returns.pure (value : α) (state : State) :
    Returns (Pure.pure value : Handler Error State α) state :=
  ⟨value, rfl⟩

theorem Returns.ite {condition : Prop} [Decidable condition]
    {first second : Handler Error State α} {state : State}
    (positive : Returns first state) (negative : Returns second state) :
    Returns (if condition then first else second) state := by
  split
  · exact positive
  · exact negative

theorem Returns.get_bind {next : State → Handler Error State β} {state : State}
    (tail : Returns (next state) state) : Returns (get >>= next) state :=
  tail

theorem Returns.modify_bind {update : State → State} {next : PUnit → Handler Error State β}
    {state : State} (tail : Returns (next ⟨⟩) (update state)) :
    Returns (modify update >>= next : Handler Error State β) state :=
  tail

end Returning

section Failing

theorem Atomic.of_returns {handler : Handler Error State α} {state : State}
    (returns : Returns handler state) : Atomic handler state := by
  obtain ⟨value, returned⟩ := returns
  intro error thrown
  rw [returned] at thrown
  cases thrown

theorem Atomic.throw (error : Error) (state : State) :
    Atomic (MonadExcept.throw error : Handler Error State α) state :=
  fun _ _ => rfl

theorem Atomic.get_bind {next : State → Handler Error State β} {state : State}
    (tail : Atomic (next state) state) : Atomic (get >>= next) state :=
  tail

theorem Atomic.ite {condition : Prop} [Decidable condition]
    {first second : Handler Error State α} {state : State}
    (positive : condition → Atomic first state) (negative : ¬ condition → Atomic second state) :
    Atomic (if condition then first else second) state := by
  split
  · exact positive ‹_›
  · exact negative ‹_›

/-- A check, and then whatever is atomic. -/
theorem Atomic.inspect_bind {first : Handler Error State α} {next : α → Handler Error State β}
    {state : State} (inspects : Inspects first)
    (tail : ∀ value, first.outcome state = .ok value → Atomic (next value) state) :
    Atomic (first >>= next) state := by
  intro error thrown
  rw [outcome_bind] at thrown
  rw [after_bind]
  cases returned : first.outcome state with
  | error _ => exact inspects state
  | ok value =>
      rw [returned, inspects state] at thrown
      dsimp only
      rw [inspects state]
      exact tail value returned error thrown

/-- Whatever is atomic, and then what does not throw. -/
theorem Atomic.bind {first : Handler Error State α} {next : α → Handler Error State β}
    {state : State} (head : Atomic first state)
    (tail : ∀ value, Returns (next value) (first.after state)) : Atomic (first >>= next) state := by
  intro error thrown
  rw [outcome_bind] at thrown
  rw [after_bind]
  cases returned : first.outcome state with
  | error _ => exact head _ returned
  | ok value =>
      obtain ⟨_, ended⟩ := tail value
      rw [returned] at thrown
      dsimp only at thrown
      rw [ended] at thrown
      cases thrown

end Failing

section Inspecting

theorem Inspects.pure (value : α) : Inspects (Pure.pure value : Handler Error State α) :=
  fun _ => rfl

theorem Inspects.throw (error : Error) :
    Inspects (MonadExcept.throw error : Handler Error State α) :=
  fun _ => rfl

theorem Inspects.get_bind {next : State → Handler Error State β}
    (tail : ∀ state, Inspects (next state)) : Inspects (get >>= next) :=
  fun state => tail state state

theorem Inspects.ite {condition : Prop} [Decidable condition] {first second : Handler Error State α}
    (positive : Inspects first) (negative : Inspects second) :
    Inspects (if condition then first else second) := by
  split
  · exact positive
  · exact negative

theorem Inspects.bind {first : Handler Error State α} {next : α → Handler Error State β}
    (head : Inspects first) (tail : ∀ value, Inspects (next value)) : Inspects (first >>= next) := by
  intro state
  rw [after_bind]
  cases first.outcome state with
  | error _ => exact head state
  | ok value =>
      dsimp only
      rw [head state]
      exact tail value state

end Inspecting

end OpenTogetherTube.Lib.Handler
