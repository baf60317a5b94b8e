import Mathlib.Logic.Relation

/-!
# Labelled transition systems

The step relation is authoritative; a run is any finite sequence of steps, in any
order the relation admits. An invariant is supplied once, as `Inductive`, and the
theorems here carry it to every reachable state. `restrict` keeps exactly the steps
whose source state and label meet a side condition, so that a conditional result is
an unconditional one about the restricted system.
-/

namespace OpenTogetherTube.Lib

universe u v

/-- States, labels and the steps between them. -/
structure TransitionSystem (State : Type u) (Label : Type v) where
  Initial : State → Prop
  Step : State → Label → State → Prop

namespace TransitionSystem

variable {State : Type u} {Label : Type v} (system : TransitionSystem State Label)

/-- One step under some label. -/
def Next (before after : State) : Prop :=
  ∃ label, system.Step before label after

/-- Zero or more steps. -/
def Steps : State → State → Prop :=
  Relation.ReflTransGen system.Next

/-- A state some run from an initial state ends in. -/
def Reachable (state : State) : Prop :=
  ∃ start, system.Initial start ∧ system.Steps start state

/-- The same system with every step whose source and label miss `condition` removed. -/
def restrict (condition : State → Label → Prop) : TransitionSystem State Label where
  Initial := system.Initial
  Step before label after := condition before label ∧ system.Step before label after

variable {system}

/-- Zero steps. -/
theorem Steps.refl (state : State) : system.Steps state state :=
  Relation.ReflTransGen.refl

/-- Extend a run by one step. -/
theorem Steps.tail {start before after : State} {label : Label}
    (prior : system.Steps start before) (step : system.Step before label after) :
    system.Steps start after :=
  Relation.ReflTransGen.tail prior ⟨label, step⟩

/-- Runs compose where they meet. -/
theorem Steps.trans {start middle finish : State}
    (first : system.Steps start middle) (second : system.Steps middle finish) :
    system.Steps start finish :=
  Relation.ReflTransGen.trans first second

theorem Steps.single {before after : State} {label : Label}
    (step : system.Step before label after) : system.Steps before after :=
  Steps.tail (Steps.refl before) step

theorem Reachable.initial {state : State} (valid : system.Initial state) :
    system.Reachable state :=
  ⟨state, valid, Steps.refl state⟩

/-- Reachability is closed under runs. -/
theorem Reachable.steps {before after : State} (reachable : system.Reachable before)
    (run : system.Steps before after) : system.Reachable after := by
  obtain ⟨start, valid, prior⟩ := reachable
  exact ⟨start, valid, prior.trans run⟩

/-- A relation to a fixed start that is reflexive and kept by each step holds along
every run. This is the rule for two-state properties. -/
theorem Steps.relates {start finish : State} (related : State → Prop)
    (base : related start)
    (kept : ∀ {before label after}, system.Steps start before → related before →
      system.Step before label after → related after)
    (run : system.Steps start finish) : related finish := by
  induction run with
  | refl => exact base
  | tail prior next ih =>
      obtain ⟨_, step⟩ := next
      exact kept prior ih step

/-- An invariant: it holds initially and every step keeps it. -/
structure Inductive (system : TransitionSystem State Label) (holds : State → Prop) : Prop where
  initial : ∀ state, system.Initial state → holds state
  preserved : ∀ {before label after}, holds before → system.Step before label after → holds after

theorem Inductive.of_steps {holds : State → Prop} (invariant : Inductive system holds)
    {before after : State} (start : holds before) (run : system.Steps before after) :
    holds after :=
  Steps.relates holds start (fun _ current step => invariant.preserved current step) run

theorem Inductive.of_reachable {holds : State → Prop} (invariant : Inductive system holds)
    {state : State} (reachable : system.Reachable state) : holds state := by
  obtain ⟨start, valid, run⟩ := reachable
  exact invariant.of_steps (invariant.initial start valid) run

theorem Steps.of_restrict {condition : State → Label → Prop} {before after : State}
    (run : (system.restrict condition).Steps before after) : system.Steps before after := by
  refine Steps.relates (system.Steps before) (Steps.refl before) ?_ run
  intro middle label next _ prior step
  exact prior.tail step.2

/-- A state the restricted system reaches is reachable without the restriction. -/
theorem Reachable.of_restrict {condition : State → Label → Prop} {state : State}
    (reachable : (system.restrict condition).Reachable state) : system.Reachable state := by
  obtain ⟨start, valid, run⟩ := reachable
  exact ⟨start, valid, run.of_restrict⟩

/-- The state after the labels, taken in order, when a label determines the next state. -/
def run (next : Label → State → State) (labels : List Label) (state : State) : State :=
  labels.foldl (fun state label => next label state) state

/-- Each of the labels is possible where it comes up. -/
def runs (next : Label → State → State) (possible : State → Label → Prop)
    [∀ state label, Decidable (possible state label)] : List Label → State → Bool
  | [], _ => true
  | label :: rest, state =>
      decide (possible state label) && runs next possible rest (next label state)

theorem steps_run {next : Label → State → State} {possible : State → Label → Prop}
    [∀ state label, Decidable (possible state label)]
    (step : ∀ state label, possible state label → system.Step state label (next label state))
    (labels : List Label) (state : State) (taken : runs next possible labels state = true) :
    system.Steps state (run next labels state) := by
  induction labels generalizing state with
  | nil => exact Steps.refl state
  | cons label rest ih =>
      rw [runs, Bool.and_eq_true, decide_eq_true_eq] at taken
      have first := step state label taken.1
      exact (Steps.single first).trans (ih _ taken.2)

end TransitionSystem

end OpenTogetherTube.Lib
