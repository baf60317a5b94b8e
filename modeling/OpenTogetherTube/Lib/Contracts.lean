import OpenTogetherTube.Lib.Handler

/-!
# Contracts of handlers

What a handler guarantees from a state, for both ways it can end: `returns` of the value and the state it
leaves when it returns, `throws` of the error and the state when it throws. The rules follow the syntax of
a handler; `Ensures.bind` hands the first part's guarantee on to the second.
-/

namespace OpenTogetherTube.Lib.Handler

universe u

variable {Error State α β : Type u}

/-- From `state` the handler either returns and meets `returns`, or throws and meets `throws`. -/
def Ensures (returns : α → State → Prop) (throws : Error → State → Prop)
    (handler : Handler Error State α) (state : State) : Prop :=
  match handler.outcome state with
  | .ok value => returns value (handler.after state)
  | .error error => throws error (handler.after state)

variable {returns middle weaker : α → State → Prop} {then_ : β → State → Prop}
  {throws laxer : Error → State → Prop} {state : State}

theorem Ensures.pure {value : α} (met : returns value state) :
    Ensures returns throws (Pure.pure value : Handler Error State α) state :=
  met

theorem Ensures.throw {error : Error} (met : throws error state) :
    Ensures returns throws (MonadExcept.throw error : Handler Error State α) state :=
  met

/-- The second part starts from what the first one guarantees. -/
theorem Ensures.bind {first : Handler Error State α} {next : α → Handler Error State β}
    (head : Ensures middle throws first state)
    (tail : ∀ value after, middle value after → Ensures then_ throws (next value) after) :
    Ensures then_ throws (first >>= next) state := by
  unfold Ensures at head ⊢
  rw [outcome_bind, after_bind]
  cases result : first.outcome state with
  | ok value =>
      rw [result] at head
      exact tail value (first.after state) head
  | error error =>
      rw [result] at head
      exact head

theorem Ensures.get_bind {next : State → Handler Error State β}
    (tail : Ensures then_ throws (next state) state) : Ensures then_ throws (get >>= next) state :=
  tail

theorem Ensures.update {update : State → State} {met : PUnit → State → Prop}
    (updated : met ⟨⟩ (update state)) :
    Ensures met throws (modify update : Handler Error State PUnit) state :=
  updated

theorem Ensures.modify_bind {update : State → State} {next : PUnit → Handler Error State β}
    (tail : Ensures then_ throws (next ⟨⟩) (update state)) :
    Ensures then_ throws (modify update >>= next) state :=
  tail

theorem Ensures.ite {condition : Prop} [Decidable condition] {first second : Handler Error State α}
    (positive : condition → Ensures returns throws first state)
    (negative : ¬ condition → Ensures returns throws second state) :
    Ensures returns throws (if condition then first else second) state := by
  split
  · exact positive ‹_›
  · exact negative ‹_›

/-- A contract may promise less. -/
theorem Ensures.mono {handler : Handler Error State α} (ensures : Ensures returns throws handler state)
    (returned : ∀ value after, returns value after → weaker value after)
    (thrown : ∀ error after, throws error after → laxer error after) :
    Ensures weaker laxer handler state := by
  unfold Ensures at ensures ⊢
  cases result : handler.outcome state with
  | ok value =>
      rw [result] at ensures
      exact returned value _ ensures
  | error error =>
      rw [result] at ensures
      exact thrown error _ ensures

theorem Ensures.of_returned {handler : Handler Error State α} {value : α}
    (ensures : Ensures returns throws handler state) (returned : handler.outcome state = .ok value) :
    returns value (handler.after state) := by
  unfold Ensures at ensures
  rw [returned] at ensures
  exact ensures

/-- What a handler that threw guarantees. -/
theorem Ensures.of_thrown {handler : Handler Error State α} {error : Error}
    (ensures : Ensures returns throws handler state) (thrown : handler.outcome state = .error error) :
    throws error (handler.after state) := by
  unfold Ensures at ensures
  rw [thrown] at ensures
  exact ensures

/-- What both ends have in common holds of the state that is left. -/
theorem Ensures.always {holds : State → Prop} {handler : Handler Error State α}
    (ensures : Ensures (fun _ => holds) (fun _ => holds) handler state) :
    holds (handler.after state) := by
  unfold Ensures at ensures
  cases result : handler.outcome state with
  | ok _ =>
      rw [result] at ensures
      exact ensures
  | error _ =>
      rw [result] at ensures
      exact ensures

section Within

variable {Inner Failure : Type u} (view : State → Inner) (put : Inner → State → State)
  (wrap : Failure → Error)

/-- A handler of one part of the state, its errors as errors of the whole. -/
def within (handler : Handler Failure Inner α) : Handler Error State α := do
  let state ← get
  modify (put (handler.after (view state)))
  match handler.outcome (view state) with
  | .ok value => return value
  | .error failure => throw (wrap failure)

variable {view put wrap}

/-- The part's own guarantee, read with the part put back. -/
theorem Ensures.within {handler : Handler Failure Inner α}
    (part : Ensures (fun value inner => returns value (put inner state))
      (fun failure inner => throws (wrap failure) (put inner state)) handler (view state)) :
    Ensures returns throws (within view put wrap handler) state := by
  unfold Handler.within
  refine get_bind (modify_bind ?_)
  unfold Ensures at part
  cases result : handler.outcome (view state) with
  | ok value =>
      rw [result] at part
      exact pure part
  | error failure =>
      rw [result] at part
      exact throw part

end Within

end OpenTogetherTube.Lib.Handler
