import Mathlib.Order.Defs.Unbundled

/-!
# Changes marked by hand

A state shows fields, and some of its fields are marked as changed. A step is tracked when
it marks what it changes. A replica of the fields is current when it is right about every
field that is not marked; tracked steps keep it current, and publishing the marked fields
makes it right about all of them.
-/

namespace OpenTogetherTube.Lib

universe u v w

/-- The fields of a state, and which of them are marked. -/
structure Tracking (State : Type u) (Field : Type v) where
  Value : Field → Type w
  view : ∀ field, State → Value field
  marked : State → Field → Prop

namespace Tracking

variable {State : Type u} {Field : Type v} (tracking : Tracking.{u, v, w} State Field)

/-- Marks stay, and a field that is not marked shows what it showed. -/
structure Tracked (before after : State) : Prop where
  grows : ∀ field, tracking.marked before field → tracking.marked after field
  sameOrMarked : ∀ field,
    tracking.view field after = tracking.view field before ∨ tracking.marked after field

/-- What a replica shows. -/
abbrev Replica : Type (max v w) := ∀ field, tracking.Value field

/-- The replica is right about every field that is not marked. -/
def Current (replica : tracking.Replica) (state : State) : Prop :=
  ∀ field, replica field = tracking.view field state ∨ tracking.marked state field

/-- The replica with some of the fields of a state. -/
def publish (published : Field → Prop) [DecidablePred published] (state : State)
    (replica : tracking.Replica) : tracking.Replica :=
  fun field => if published field then tracking.view field state else replica field

variable {tracking}

instance : IsPreorder State tracking.Tracked where
  refl _ := ⟨fun _ => id, fun _ => .inl rfl⟩
  trans _ _ _ first second := by
    refine ⟨fun field => second.grows field ∘ first.grows field, fun field => ?_⟩
    rcases second.sameOrMarked field with same | marked
    · rcases first.sameOrMarked field with earlier | marked
      · exact .inl (same.trans earlier)
      · exact .inr (second.grows field marked)
    · exact .inr marked

theorem Tracked.refl (state : State) : tracking.Tracked state state :=
  ⟨fun _ => id, fun _ => .inl rfl⟩

theorem Tracked.trans {first second third : State} (earlier : tracking.Tracked first second)
    (later : tracking.Tracked second third) : tracking.Tracked first third :=
  IsTrans.trans _ _ _ earlier later

/-- A step that leaves every field and every mark. -/
theorem Tracked.of_same {before after : State}
    (same : ∀ field, tracking.view field after = tracking.view field before)
    (grows : ∀ field, tracking.marked before field → tracking.marked after field) :
    tracking.Tracked before after :=
  ⟨grows, fun field => .inl (same field)⟩

/-- A replica of the whole state is current. -/
theorem Current.all (state : State) : tracking.Current (fun field => tracking.view field state) state :=
  fun _ => .inl rfl

theorem Current.step {replica : tracking.Replica} {before after : State}
    (current : tracking.Current replica before) (tracked : tracking.Tracked before after) :
    tracking.Current replica after := by
  intro field
  rcases tracked.sameOrMarked field with same | marked
  · rcases current field with right | marked
    · exact .inl (right.trans same.symm)
    · exact .inr (tracked.grows field marked)
  · exact .inr marked

/-- Where nothing is marked, a current replica is right about everything. -/
theorem Current.right {replica : tracking.Replica} {state : State}
    (current : tracking.Current replica state) {field : Field}
    (clean : ¬ tracking.marked state field) : replica field = tracking.view field state :=
  (current field).resolve_right clean

/-- Once the marked fields are published, the replica is right about every field. -/
theorem Current.publish {replica : tracking.Replica} {state : State}
    (current : tracking.Current replica state) (published : Field → Prop)
    [DecidablePred published] (covers : ∀ field, tracking.marked state field → published field)
    (field : Field) :
    tracking.publish published state replica field = tracking.view field state := by
  unfold Tracking.publish
  split
  · rfl
  · rename_i unpublished
    exact current.right fun marked => unpublished (covers field marked)

/-- Once the marked fields have been captured, their marks may go: the replica will be right
when the captured fields reach it. -/
theorem Current.capture {replica : tracking.Replica} {state unmarked : State}
    (current : tracking.Current replica state) (captured : Field → Prop) [DecidablePred captured]
    (covers : ∀ field, tracking.marked state field → captured field)
    (same : ∀ field, tracking.view field unmarked = tracking.view field state) :
    tracking.Current (tracking.publish captured state replica) unmarked :=
  fun field => .inl ((current.publish captured covers field).trans (same field).symm)

/-- Where captured fields do not reach the replica, marking them again makes up for it. -/
theorem Current.restore {replica : tracking.Replica} {origin before after : State}
    {captured : Field → Prop} [DecidablePred captured]
    (current : tracking.Current (tracking.publish captured origin replica) before)
    (tracked : tracking.Tracked before after)
    (restored : ∀ field, captured field → tracking.marked after field) :
    tracking.Current replica after := by
  intro field
  by_cases lost : captured field
  · exact .inr (restored field lost)
  · refine (current.step tracked field).imp_left fun right => ?_
    rw [← right]
    exact (if_neg lost).symm

end Tracking

end OpenTogetherTube.Lib
