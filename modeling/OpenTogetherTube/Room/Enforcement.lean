import OpenTogetherTube.Room.Core
import OpenTogetherTube.Room.GrantsStorage
import OpenTogetherTube.Room.Rounds
import OpenTogetherTube.Room.SettingsGrants

/-!
# What a role may do to a room

Whoever lacks a permission that a request needs is refused, and the room stays as it was. And an
undo applies what the room recorded when it published an event, whatever its sender echoes. The
grants of a room are always ones that the constructor of `Grants` could have made.
-/

namespace OpenTogetherTube

open Lib Lib.Handler

namespace Room

variable (env : Env) (context : RoomRequestContext) (room : Room)

section Undo

/-- Every event that can still be undone was published. -/
def Remembers (room : Room) : Prop := ∀ event ∈ room.recentEvents, .event event ∈ room.published

/-- Going on from a room that remembers what it published to one that does. -/
abbrev KeepsMemory : Room → Room → Prop := Order.Preimage Remembers (· ≤ ·)

theorem memory_core : KeepsCore KeepsMemory where
  frame {before after} _ _ _ told remembers := by
    obtain ⟨published, recent⟩ := Prod.mk.inj told
    unfold Remembers
    rw [published, recent]
    exact remembers
  publish _ _ remembers event member := List.mem_cons_of_mem _ (remembers event member)
  publishRoomEvent room request context additional knownUser remembers := by
    unfold publishRoomEvent
    split
    · exact remembers
    · split
      · exact remembers
      · rename_i user _
        intro event member
        -- The oldest event may have been dropped.
        have kept : event ∈ room.recentEvents ++ [⟨room.nextSerial, request, user, additional⟩] := by
          change event ∈ (if _ then _ else _) at member
          split at member
          · exact List.mem_of_mem_tail member
          · exact member
        rcases List.mem_append.mp kept with old | new
        · exact List.mem_cons_of_mem _ (remembers event old)
        · rw [List.mem_singleton.mp new]
          exact List.mem_cons_self
  forgetEvents _ _ fewer remembers event member := remembers event (fewer member)
  seats _ _ _ := id
  saves _ _ := id
  assignRole _ _ _ := id

theorem apply_memory (action : RoomAction) : KeepsMemory room (action.apply env room) := by
  cases action with
  | claim user => exact id
  | setPasswordHash hash => exact id
  | _ =>
      exact memory_core.apply env room _ (by rintro _ ⟨⟩) (by rintro _ ⟨⟩)
        (fun settings context _ =>
          memory_core.applySettings env context room settings fun _ _ => id)
        fun _ _ => id

/-- A new room has published nothing that can be undone. -/
theorem new_recentEvents (options : RoomOptions) (now : Int) :
    (Room.new options now).recentEvents = [] := by
  have assigned : ∀ other : Room,
      (other.assignOptions options now).recentEvents = other.recentEvents := by
    intro other
    unfold assignOptions
    dsimp only
    iterate 19 rw [applySetting_frame fun room => room.recentEvents]
    all_goals intro value other
    all_goals first
      | rfl
      | exact assignPrevQueue_frame (fun room => room.recentEvents) other value fun _ _ _ => rfl
  obtain ⟨room, same, made⟩ :=
    new_frame (fun room => room.recentEvents) options now fun _ _ _ _ _ _ _ => rfl
  rw [made]
  exact same.trans (assigned _)

/-- The end of an undo: one undo for each published event. -/
def forget (event : RoomEvent) (room : Room) : Room :=
  { room with
    recentEvents := room.recentEvents.filter fun other => decide (other.serial ≠ event.serial) }

/-- An undo that is let through applies a recorded event with the echoed fields, and forgets it. -/
theorem undo_of_ok {echo : UndoEvent}
    (accepted : (processRequest env (.undo echo) context).outcome room = .ok ()) :
    ∃ event ∈ room.recentEvents, event.fields = echo ∧
      (processRequest env (.undo echo) context).after room =
        ((applyUndo env event context).after room).forget event := by
  have same : processRequest env (.undo echo) context = undo env echo context := rfl
  rw [same] at accepted ⊢
  unfold undo at accepted ⊢
  split at accepted
  · cases accepted
  · rename_i valid
    rw [if_neg valid, after_get_bind]
    rw [outcome_get_bind] at accepted
    cases found : room.findRecentEvent echo with
    | none =>
        rw [found] at accepted
        cases accepted
    | some event =>
        rw [found] at accepted
        dsimp only at accepted ⊢
        refine ⟨event, List.mem_of_find?_eq_some found, ?_, ?_⟩
        · have first := List.find?_some found
          exact of_decide_eq_true first
        · rw [after_bind]
          rw [outcome_bind] at accepted
          cases applied : (applyUndo env event context).outcome room with
          | ok _ => rfl
          | error error =>
              rw [applied] at accepted
              cases accepted

end Undo

section Grants

/-- Two rooms whose grants are related. -/
abbrev OfGrants (relation : Grants → Grants → Prop) : Room → Room → Prop :=
  Order.Preimage (fun room => room.grants) relation

variable (relation : Grants → Grants → Prop) [IsPreorder Grants relation]

theorem grants_core : KeepsCore (OfGrants relation) where
  frame _ _ same _ := by
    unfold OfGrants Order.Preimage
    dsimp only
    rw [same]
    exact refl _
  publish _ _ := refl (r := relation) _
  publishRoomEvent _ _ _ _ _ := by
    unfold OfGrants Order.Preimage
    dsimp only
    rw [publishRoomEvent_frame (fun room => room.grants) fun _ _ _ _ => rfl]
    exact refl _
  forgetEvents _ _ _ := refl (r := relation) _
  seats _ _ _ := refl (r := relation) _
  saves _ _ := refl (r := relation) _
  assignRole _ _ _ := refl (r := relation) _

/-- The grants are written by a settings request that is let through, and by the owner. -/
theorem apply_grants (action : RoomAction)
    (configured : ∀ settings context grants, action = .request (.applySettings settings) context →
      settings.grants = some grants → room.acceptsSettings settings context.role = true →
        relation room.grants (room.updatedGrants grants))
    (replaced : ∀ grants, action = .setGrants grants →
      relation room.grants (Grants.setAllGrants grants.masks)) :
    relation room.grants (action.apply env room).grants := by
  have requested : ∀ settings context, action = .request (.applySettings settings) context →
      (applySettings env settings context).Keeps (OfGrants relation) room := by
    intro settings context same
    unfold Keeps OfGrants Order.Preimage
    dsimp only
    rcases applySettings_cases room env settings context with ⟨_, after⟩ | ⟨accepted, after⟩
    · rw [after]
      exact refl _
    · cases given : settings.grants with
      | none =>
          rw [after]
          change relation room.grants (room.writeSettings (room.changedSettings settings)).grants
          rw [changedSettings_grants, given]
          exact refl _
      | some grants =>
          rw [applySettings_grants env given accepted]
          exact configured settings context grants same given accepted
  cases action with
  | claim user => exact refl _
  | setPasswordHash hash => exact refl _
  | _ =>
      exact (grants_core relation).apply env room _ (by rintro _ ⟨⟩) (by rintro _ ⟨⟩) requested replaced

end Grants

end Room

namespace RoomState

/-- In every reachable state what can still be undone was published. -/
theorem remembers_inductive : roomSystem.Inductive fun state => state.room.Remembers := by
  refine ⟨?_, ?_⟩
  · rintro _ (⟨options, now⟩ | ⟨options, now, _, _⟩)
    all_goals
      intro event member
      have none : event ∈ (Room.new options now).recentEvents := member
      rw [Room.new_recentEvents] at none
      cases none
  · rintro before label _ remembers ⟨_, _, rfl⟩
    exact Room.apply_memory label.env before.room label.action remembers

/-- In every reachable state, whatever the request and whoever sends it: a sender whose role lacks a
permission that the request needs is refused and the room stays as it is, and an undo that is let
through does what the event says that the room published and recorded, and forgets it. -/
theorem requests_enforced {state : RoomState} (reachable : roomSystem.Reachable state) (env : Env)
    (context : RoomRequestContext) :
    (∀ request, ∀ permission ∈ state.room.requiredPermissions request,
      state.room.grants.granted context.role permission = false →
        (∃ error, (Room.processRequest env request context).outcome state.room = .error error) ∧
          (Room.processRequest env request context).after state.room = state.room) ∧
    ∀ echo, (Room.processRequest env (.undo echo) context).outcome state.room = .ok () →
      ∃ event ∈ state.room.recentEvents, .event event ∈ state.room.published ∧
        event.fields = echo ∧
        (Room.processRequest env (.undo echo) context).after state.room =
          ((Room.applyUndo env event context).after state.room).forget event := by
  refine ⟨fun request permission needed lacks => ?_, fun echo accepted => ?_⟩
  · exact Room.processRequest_refuses state.room env context request needed lacks
  · obtain ⟨event, recorded, fields, after⟩ := Room.undo_of_ok env context state.room accepted
    exact ⟨event, recorded, remembers_inductive.of_reachable reachable event recorded, fields, after⟩

/-- The grants of a room, and those its owner gives it, come from the constructor of `Grants`. -/
theorem grants_settled {options : RoomOptions} {now : Int}
    (given : ∀ grants, options.grants = some grants → ∃ input, grants = .new input)
    {first after : RoomState} (built : first.room.grants = (Room.new options now).grants)
    (steps : (roomSystem.restrict fun _ label => ∀ grants,
      label.action = .setGrants grants → ∃ input, grants = .new input).Steps first after) :
    after.room.grants.Settled := by
  have settled : ∀ {grants : Grants}, (∃ input, grants = .new input) → grants.Settled := by
    rintro _ ⟨input, rfl⟩
    exact Grants.settled_new input
  refine TransitionSystem.Steps.relates (fun state => state.room.grants.Settled)
    (built ▸ Room.settled_new options now fun grants same => settled (given grants same)) ?_ steps
  intro state label next _ kept step
  obtain ⟨built, _, _, rfl⟩ := step
  refine Room.apply_grants label.env state.room (Order.Preimage Grants.Settled (· ≤ ·)) label.action
    ?_ (fun grants same _ => (settled (built grants same)).setAllGrants) kept
  intro settings context grants _ _ _
  apply List.foldlRecOn (motive := fun grants : Grants => state.room.grants.Settled → grants.Settled)
  · exact id
  · intro grants kept entry member settled
    exact (kept settled).setRoleGrants ((state.room.mem_changedMasks).mp member).2.1 _

end RoomState

namespace Sample

/-- A viewer joins and queues a video of some length. -/
def joinAndQueue (length : Number) : List RoomLabel :=
  [⟨env 1 "first", .request (.join { id := "viewer", username := some "v" } false) viewer⟩,
    ⟨{ env 2 "first" with getVideoInfo := fun video => some { video with length := some length } },
      .request (.add { video := some { service := .direct, id := "video" } }) viewer⟩]

/-- A temporary room after that. -/
def withVideo (length : Number) : RoomState :=
  RoomState.run (joinAndQueue length) ⟨Room.new { isTemporary := some true } 0, 0⟩

/-- Nobody writes the grants. -/
theorem withVideo_steps (length : Number) : (roomSystem.restrict fun _ label =>
    ∀ grants, label.action = .setGrants grants → ∃ input, grants = .new input).Steps
      ⟨Room.new { isTemporary := some true } 0, 0⟩ (withVideo length) := by
  have possible : RoomState.runs (fun _ label => label.action.isBackground = false)
      (joinAndQueue length) ⟨Room.new { isTemporary := some true } 0, 0⟩ = true := by
    rfl
  refine Relation.ReflTransGen.mono ?_ _ _ (RoomState.steps_run _ _ _ possible)
  rintro _ _ ⟨label, request, step⟩
  refine ⟨label, fun grants same => ?_, step⟩
  rw [same] at request
  cases request

theorem withVideo_reachable (length : Number) : roomSystem.Reachable (withVideo length) :=
  ⟨_, .created _ 0, (withVideo_steps length).of_restrict⟩

/-- The echo of its event. -/
def echoed : UndoEvent where
  type := .add
  requestVideo := some { service := .direct, id := "video" }
  video := some { service := .direct, id := "video", length := some 100 }

end Sample

/-- The viewer may not take the video out again by an undo, and the owner may. -/
theorem RoomState.requests_enforced_undo :
    (Room.processRequest (Sample.env 3 "first") (.undo Sample.echoed) Sample.viewer).after
      (Sample.withVideo 100).room = (Sample.withVideo 100).room ∧
    ∃ event ∈ (Sample.withVideo 100).room.recentEvents, .event event ∈ (Sample.withVideo 100).room.published ∧
      event.fields = Sample.echoed := by
  have enforced := requests_enforced (Sample.withVideo_reachable 100) (Sample.env 3 "first")
  obtain ⟨event, recorded, published, same, _⟩ :=
    (enforced { Sample.viewer with role := .owner }).2 Sample.echoed (by decide +kernel)
  exact ⟨((enforced Sample.viewer).1 (.undo Sample.echoed) .queueRemove (by decide +kernel)
    (by decide +kernel)).2, event, recorded, published, same⟩

end OpenTogetherTube
