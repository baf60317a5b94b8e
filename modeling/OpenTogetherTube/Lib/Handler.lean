import Mathlib.Order.Defs.Unbundled
import Mathlib.Control.Lawful

/-!
# Handlers that may throw

A handler reads and writes one state and may stop with an error. What it wrote before
the error stays written, so a handler always leaves a state. `after` is that state and
`Keeps` relates it to the state before; for a reflexive and transitive relation the
rules follow the syntax of a handler.
-/

namespace OpenTogetherTube.Lib

universe u

/-- A computation over `State` that returns a value or throws an `Error`. -/
abbrev Handler (Error State : Type u) := ExceptT Error (StateM State)

namespace Handler

variable {Error State α β : Type u}

/-- The state the handler leaves, returned or thrown. -/
def after (handler : Handler Error State α) (state : State) : State :=
  (StateT.run (ExceptT.run handler) state).2

/-- What the handler returned or threw. -/
def outcome (handler : Handler Error State α) (state : State) : Except Error α :=
  (StateT.run (ExceptT.run handler) state).1

@[simp] theorem after_pure (value : α) (state : State) :
    after (pure value : Handler Error State α) state = state := rfl

@[simp] theorem outcome_pure (value : α) (state : State) :
    outcome (pure value : Handler Error State α) state = .ok value := rfl

@[simp] theorem outcome_throw (error : Error) (state : State) :
    outcome (throw error : Handler Error State α) state = .error error := rfl

@[simp] theorem after_modify (update : State → State) (state : State) :
    after (modify update : Handler Error State PUnit) state = update state := rfl

/-- A sequence runs its second part only when the first returned. -/
theorem after_bind (first : Handler Error State α) (next : α → Handler Error State β)
    (state : State) :
    after (first >>= next) state =
      match outcome first state with
      | .ok value => after (next value) (after first state)
      | .error _ => after first state := by
  unfold after outcome
  rw [ExceptT.run_bind, StateT.run_bind]
  cases result : StateT.run (ExceptT.run first) state with
  | mk outcome final =>
      cases outcome with
      | ok value => rfl
      | error error => rfl

/-- The outcome of a sequence. -/
theorem outcome_bind (first : Handler Error State α) (next : α → Handler Error State β)
    (state : State) :
    outcome (first >>= next) state =
      match outcome first state with
      | .ok value => outcome (next value) (after first state)
      | .error error => .error error := by
  unfold after outcome
  rw [ExceptT.run_bind, StateT.run_bind]
  cases result : StateT.run (ExceptT.run first) state with
  | mk outcome final =>
      cases outcome with
      | ok value => rfl
      | error error => rfl

/-- A sequence that returned: both its parts did. -/
theorem outcome_bind_ok {first : Handler Error State α} {next : α → Handler Error State β}
    {state : State} {value : β} (returned : outcome (first >>= next) state = .ok value) :
    ∃ middle, outcome first state = .ok middle ∧
      outcome (next middle) (after first state) = .ok value ∧
      after (first >>= next) state = after (next middle) (after first state) := by
  rw [outcome_bind] at returned
  cases result : outcome first state with
  | ok middle =>
      rw [result] at returned
      refine ⟨middle, rfl, returned, ?_⟩
      rw [after_bind, result]
  | error error =>
      rw [result] at returned
      cases returned

@[simp] theorem after_get_bind (next : State → Handler Error State β) (state : State) :
    after (get >>= next) state = after (next state) state := rfl

@[simp] theorem outcome_get_bind (next : State → Handler Error State β) (state : State) :
    outcome (get >>= next) state = outcome (next state) state := rfl

@[simp] theorem after_modify_bind (update : State → State)
    (next : PUnit → Handler Error State β) (state : State) :
    after (modify update >>= next) state = after (next ⟨⟩) (update state) := rfl

@[simp] theorem outcome_modify_bind (update : State → State)
    (next : PUnit → Handler Error State β) (state : State) :
    outcome (modify update >>= next) state = outcome (next ⟨⟩) (update state) := rfl

@[simp] theorem after_ite (condition : Prop) [Decidable condition]
    (first second : Handler Error State α) (state : State) :
    after (if condition then first else second) state =
      if condition then after first state else after second state := by
  split <;> rfl

theorem after_tryCatch (body : Handler Error State α) (caught : Error → Handler Error State α)
    (state : State) :
    after (tryCatch body caught) state =
      match outcome body state with
      | .ok _ => after body state
      | .error error => after (caught error) (after body state) := by
  unfold after outcome
  rw [ExceptT.run_tryCatch, StateT.run_bind]
  cases result : StateT.run (ExceptT.run body) state with
  | mk outcome final =>
      cases outcome with
      | ok value => rfl
      | error error => rfl

theorem outcome_tryCatch (body : Handler Error State α) (caught : Error → Handler Error State α)
    (state : State) :
    outcome (tryCatch body caught) state =
      match outcome body state with
      | .ok value => .ok value
      | .error error => outcome (caught error) (after body state) := by
  unfold after outcome
  rw [ExceptT.run_tryCatch, StateT.run_bind]
  cases result : StateT.run (ExceptT.run body) state with
  | mk outcome final =>
      cases outcome with
      | ok value => rfl
      | error error => rfl

/-- Whatever the handler does from `state`, the state it leaves is related to it. -/
def Keeps (relation : State → State → Prop) (handler : Handler Error State α)
    (state : State) : Prop :=
  relation state (handler.after state)

section Rules

variable {relation : State → State → Prop}

theorem Keeps.mono {weaker : State → State → Prop} {handler : Handler Error State α}
    {state : State} (weaken : ∀ {before after}, relation before after → weaker before after)
    (kept : Keeps relation handler state) : Keeps weaker handler state :=
  weaken kept

/-- Reading the state has no effect. -/
theorem Keeps.get_bind {next : State → Handler Error State β} {state : State}
    (tail : Keeps relation (next state) state) : Keeps relation (get >>= next) state :=
  tail

/-- A branch. -/
theorem Keeps.ite {condition : Prop} [Decidable condition]
    {first second : Handler Error State α} {state : State}
    (positive : condition → Keeps relation first state)
    (negative : ¬ condition → Keeps relation second state) :
    Keeps relation (if condition then first else second) state := by
  split
  · exact positive ‹_›
  · exact negative ‹_›

variable [IsPreorder State relation]

/-- A handler that returns at once keeps every preorder. -/
theorem Keeps.pure (value : α) (state : State) :
    Keeps relation (Pure.pure value : Handler Error State α) state :=
  refl state

theorem Keeps.throw (error : Error) (state : State) :
    Keeps relation (MonadExcept.throw error : Handler Error State α) state :=
  refl state

/-- The rule for sequences: the second part starts where the first one returned. -/
theorem Keeps.bind {first : Handler Error State α} {next : α → Handler Error State β}
    {state : State} (head : Keeps relation first state)
    (tail : ∀ value, outcome first state = .ok value →
      Keeps relation (next value) (first.after state)) :
    Keeps relation (first >>= next) state := by
  unfold Keeps
  rw [after_bind]
  cases result : outcome first state with
  | ok value => exact IsTrans.trans _ _ _ head (tail value result)
  | error error => exact head

/-- The rule for caught errors: the handler starts where the body stopped. -/
theorem Keeps.tryCatch {body : Handler Error State α} {caught : Error → Handler Error State α}
    {state : State} (head : Keeps relation body state)
    (tail : ∀ error, outcome body state = .error error →
      Keeps relation (caught error) (body.after state)) :
    Keeps relation (MonadExcept.tryCatch body caught) state := by
  unfold Keeps
  rw [after_tryCatch]
  cases result : outcome body state with
  | ok value => exact head
  | error error => exact IsTrans.trans _ _ _ head (tail error result)

/-- An update followed by the rest. -/
theorem Keeps.modify_bind {update : State → State} {next : PUnit → Handler Error State β}
    {state : State} (head : relation state (update state))
    (tail : Keeps relation (next ⟨⟩) (update state)) :
    Keeps relation (modify update >>= next) state :=
  IsTrans.trans _ _ _ head tail

end Rules

/-- The handler throws and leaves the state as it found it. -/
def Refuses (handler : Handler Error State α) (state : State) : Prop :=
  (∃ error, handler.outcome state = .error error) ∧ handler.after state = state

section Refusals

variable {state : State}

theorem Refuses.throw (error : Error) :
    Refuses (MonadExcept.throw error : Handler Error State α) state :=
  ⟨⟨error, rfl⟩, rfl⟩

theorem Refuses.ite {condition : Prop} [Decidable condition] {first second : Handler Error State α}
    (positive : condition → Refuses first state) (negative : ¬ condition → Refuses second state) :
    Refuses (if condition then first else second) state := by
  split
  · exact positive ‹_›
  · exact negative ‹_›

theorem Refuses.get_bind {next : State → Handler Error State α}
    (refuses : Refuses (next state) state) : Refuses (get >>= next) state :=
  refuses

/-- A first part without effect may refuse as well as the second. -/
theorem Refuses.of_after {first : Handler Error State α} {next : α → Handler Error State β}
    (same : first.after state = state)
    (tail : ∀ value, first.outcome state = .ok value → Refuses (next value) state) :
    Refuses (first >>= next) state := by
  unfold Refuses
  rw [after_bind, outcome_bind]
  cases result : first.outcome state with
  | error error => exact ⟨⟨error, rfl⟩, same⟩
  | ok value =>
      simp only [same]
      exact tail value result

/-- What comes after a refusal does not run. -/
theorem Refuses.bind {first : Handler Error State α} (refuses : Refuses first state)
    (next : α → Handler Error State β) : Refuses (first >>= next) state := by
  refine .of_after refuses.2 fun value returned => ?_
  obtain ⟨error, thrown⟩ := refuses.1
  rw [thrown] at returned
  cases returned

end Refusals

end Handler

end OpenTogetherTube.Lib
