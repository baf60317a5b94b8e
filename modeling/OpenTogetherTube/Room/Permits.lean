import OpenTogetherTube.Room.Syncable

/-!
# What passes its checks

A permission check returns just when the permission is granted. What a promotion and a settings
request do is stated here once: nothing when a check refuses them, and else one write. A request
needs the permission of the table and those that its handler checks, which depend on the room;
whoever lacks one of them is refused, and the room stays as it was: every check comes before every
write.
-/

namespace OpenTogetherTube

open Lib Lib.Handler

namespace Room

variable (room : Room)

theorem check_passes (role : Role) (permission : Permission) :
    (check role permission).outcome room = .ok () ↔ room.grants.granted role permission = true := by
  refine ⟨granted_of_check room, fun granted => ?_⟩
  unfold check
  rw [outcome_get_bind, if_pos granted]
  rfl

theorem checkSome_passes (role : Role) (permission : Option Permission) :
    (checkSome role permission).outcome room = .ok () ↔
      permission.all (room.grants.granted role) = true := by
  cases permission with
  | none => exact ⟨fun _ => rfl, fun _ => rfl⟩
  | some permission => exact check_passes room role permission

theorem checks_pass (role : Role) (permissions : List Permission) :
    (permissions.forM (check role)).outcome room = .ok ⟨⟩ ↔
      permissions.all (room.grants.granted role) = true := by
  refine ⟨granted_of_checks room, fun granted => ?_⟩
  induction permissions with
  | nil => rfl
  | cons permission rest ih =>
      rw [List.all_cons, Bool.and_eq_true] at granted
      change ((check role permission >>= fun _ => rest.forM (check role)) : RoomM PUnit).outcome
        room = .ok ⟨⟩
      rw [outcome_bind, (check_passes room role permission).mpr granted.1, check_after]
      exact ih granted.2

/-- The permissions a promotion needs. -/
def promotionPermissions (current role : Role) : List Permission :=
  (promotePermission role).toList ++
    if role.rank < current.rank then (demotePermission current).toList else []

/-- A promotion passes every check. -/
def acceptsPromotion (targetClientId : ClientId) (role : Role) (context : RoomRequestContext) : Bool :=
  (room.getUser targetClientId).any fun target =>
    decide (role ≠ .unregisteredUser ∧ role ≠ .owner) &&
      decide (room.getRole target ≠ .unregisteredUser ∧ room.getRole target ≠ .owner) &&
      (promotionPermissions (room.getRole target) role).all (room.grants.granted context.role)

/-- The role sets with the account of a viewer moved. -/
def promotedRoles (targetClientId : ClientId) (role : Role) : OrderedMap Role (List Nat) :=
  match (room.getUser targetClientId).bind RoomUser.userId with
  | some id => (room.assignRole id role).userRoles
  | none => room.userRoles

theorem demotePermission_isSome {current role : Role} (registered : role ≠ .unregisteredUser)
    (assignable : role ≠ .owner) (lowered : role.rank < current.rank) :
    ∃ permission, demotePermission current = some permission := by
  cases current <;> cases role <;>
    first | exact ⟨_, rfl⟩ | exact absurd lowered (by decide) | contradiction

theorem checkPromotion_passes (context : RoomRequestContext) {current role : Role}
    (registered : role ≠ .unregisteredUser) (assignable : role ≠ .owner) :
    (checkPromotion current role context).outcome room = .ok () ↔
      (promotionPermissions current role).all (room.grants.granted context.role) = true := by
  unfold checkPromotion promotionPermissions
  rw [List.all_append, Bool.and_eq_true]
  have raised : ((promotePermission role).toList.all (room.grants.granted context.role)) = true ↔
      (checkSome context.role (promotePermission role)).outcome room = .ok () := by
    rw [checkSome_passes]
    cases promotePermission role with
    | none => exact ⟨fun _ => rfl, fun _ => rfl⟩
    | some permission => rw [Option.toList_some, List.all_cons, List.all_nil, Bool.and_true]; rfl
  rw [raised, outcome_bind, checkSome_after]
  cases passed : (checkSome context.role (promotePermission role)).outcome room with
  | error error => exact ⟨nofun, fun both => nomatch both.1⟩
  | ok value =>
      dsimp only
      by_cases lowered : role.rank < current.rank
      · obtain ⟨permission, demote⟩ := demotePermission_isSome registered assignable lowered
        rw [if_pos lowered, if_pos lowered, demote]
        dsimp only
        rw [check_passes, Option.toList_some, List.all_cons, List.all_nil, Bool.and_true]
        exact ⟨fun granted => ⟨rfl, granted⟩, fun both => both.2⟩
      · rw [if_neg lowered, if_neg lowered]
        exact ⟨fun _ => ⟨rfl, rfl⟩, fun _ => rfl⟩

/-- A promotion moves the account of a viewer, or fails and does nothing. -/
theorem promoteUser_cases (targetClientId : ClientId) (role : Role) (context : RoomRequestContext) :
    room.acceptsPromotion targetClientId role context = false ∧
        (∃ error, (promoteUser targetClientId role context).outcome room = .error error) ∧
        (promoteUser targetClientId role context).after room = room ∨
      room.acceptsPromotion targetClientId role context = true ∧
        (promoteUser targetClientId role context).outcome room = .ok () ∧
        ∃ published, (promoteUser targetClientId role context).after room =
          { room with userRoles := room.promotedRoles targetClientId role, published } := by
  unfold promoteUser acceptsPromotion promotedRoles
  by_cases unassignable : role = .unregisteredUser ∨ role = .owner
  · rw [if_pos unassignable]
    refine .inl ⟨?_, ⟨_, rfl⟩, rfl⟩
    have refused : ¬ (role ≠ .unregisteredUser ∧ role ≠ .owner) := fun both =>
      unassignable.elim both.1 both.2
    cases room.getUser targetClientId with
    | none => rfl
    | some target => rw [Option.any_some, decide_eq_false refused]; rfl
  · rw [if_neg unassignable, after_get_bind, outcome_get_bind]
    rw [not_or] at unassignable
    cases room.getUser targetClientId with
    | none => exact .inl ⟨rfl, ⟨_, rfl⟩, rfl⟩
    | some target =>
        dsimp only
        rw [Option.any_some, Option.bind_some, decide_eq_true unassignable, Bool.true_and, after_bind,
          outcome_bind, checkPromotion_after]
        by_cases permitted : (promotionPermissions (room.getRole target) role).all
            (room.grants.granted context.role) = true
        · rw [permitted, (checkPromotion_passes room context unassignable.1 unassignable.2).mpr
            permitted, Bool.and_true]
          dsimp only
          by_cases fixed : room.getRole target = .unregisteredUser ∨ room.getRole target = .owner
          · rw [if_pos fixed]
            exact .inl ⟨decide_eq_false fun both => fixed.elim both.1 both.2, ⟨_, rfl⟩, rfl⟩
          · rw [if_neg fixed]
            refine .inr ⟨decide_eq_true (not_or.mp fixed), rfl, ?_⟩
            rw [after_modify_bind, after_modify]
            cases target.userId with
            | none => dsimp only; split <;> exact ⟨_, rfl⟩
            | some id => dsimp only; split <;> exact ⟨_, rfl⟩
        · rw [Bool.eq_false_iff.mpr permitted, Bool.and_false]
          cases passed : (checkPromotion (room.getRole target) role context).outcome room with
          | error error => exact .inl ⟨rfl, ⟨error, rfl⟩, rfl⟩
          | ok value => exact absurd ((checkPromotion_passes room context unassignable.1
              unassignable.2).mp passed) permitted

/-- A settings request writes the settings that differ, or does nothing. -/
theorem applySettings_cases (env : Env) (settings : RoomSettings) (context : RoomRequestContext) :
    room.acceptsSettings settings context.role = false ∧
        (applySettings env settings context).after room = room ∨
      room.acceptsSettings settings context.role = true ∧
        (applySettings env settings context).after room =
          (room.writeSettings (room.changedSettings settings)).evaluateBufferGate env.now := by
  unfold applySettings acceptsSettings
  rw [after_get_bind, after_bind, forM_after room fun _ => check_after room _ _]
  by_cases permitted : (settingsPermissions (room.changedSettings settings)).all
      (room.grants.granted context.role) = true
  · rw [permitted, (checks_pass room _ _).mpr permitted, Bool.true_and]
    dsimp only
    rw [after_ite]
    by_cases locked : (room.changedSettings settings).visibility = some .locked ∧
        (!room.hasPassword) = true
    · rw [if_pos locked, decide_eq_true locked.1, locked.2]
      exact .inl ⟨rfl, rfl⟩
    · rw [if_neg locked]
      refine .inr ⟨?_, rfl⟩
      rw [Bool.not_eq_true', Bool.eq_false_iff, ne_eq, Bool.and_eq_true, decide_eq_true_eq]
      exact locked
  · rw [Bool.eq_false_iff.mpr permitted, Bool.false_and]
    refine .inl ⟨rfl, ?_⟩
    cases passed : ((settingsPermissions (room.changedSettings settings)).forM
        (check context.role)).outcome room with
    | error error => rfl
    | ok value => exact absurd ((checks_pass room _ _).mp passed) permitted

section Needs

variable (env : Env) (context : RoomRequestContext)

/-- What `undo` checks for a recorded event. -/
def undoPermissions (event : RoomEvent) : List Permission :=
  match event.request.type with
  | .seek => if event.additional.prevPosition.isSome then [.seek] else []
  | .skip => [.skip, .seek, .queueAdd, .queuePlayNow]
  | .add =>
      if event.request.video.isSome && !room.queue.isEmpty then [.queueRemove]
      else [.queueRemove, .skip]
  | .remove => [.queueAdd, .queueOrder]
  | _ => []

/-- What the handler of a request checks. -/
def handlerPermissions : RoomRequest → List Permission
  | .playNow video =>
      if room.currentSource.map QueueItem.toVideoId = some video.toVideoId then []
      else [if room.isVideoInQueue video.toVideoId then .queueOrder else .queueAdd]
  | .shuffle => [.queueOrder]
  | .promote targetClientId role =>
      (room.getUser targetClientId).toList.flatMap fun target =>
        promotionPermissions (room.getRole target) role
  | .applySettings settings => settingsPermissions (room.changedSettings settings)
  | .restoreQueue discard => [if discard then .queueRemove else .queueAdd]
  | .temporaryPlaybackSpeed action _ _ => if action = .stop then [] else [.speed]
  | .undo echo => (room.findRecentEvent echo).toList.flatMap room.undoPermissions
  | _ => []

/-- Every permission that a request needs. -/
def requiredPermissions (request : RoomRequest) : List Permission :=
  (requestPermission request.type).toList ++ room.handlerPermissions request

section Refusals

variable {context room} {permission : Permission}
  (lacks : room.grants.granted context.role permission = false)

include lacks

/-- A check of the permission refuses, and so does one that passes in front of it. -/
theorem refuses_check {α : Type} {other : Permission} {next : Unit → RoomM α}
    (tail : permission ≠ other → Refuses (next ()) room) :
    Refuses (check context.role other >>= next) room := by
  refine .of_after (check_after room _ _) fun _ passed => tail ?_
  rintro rfl
  rw [granted_of_check room passed] at lacks
  cases lacks

theorem refuses_applyUndo (event : RoomEvent) (needed : permission ∈ room.undoPermissions event) :
    Refuses (applyUndo env event context) room := by
  unfold undoPermissions at needed
  unfold applyUndo
  cases kind : event.request.type with
  | seek =>
      simp only [kind] at needed ⊢
      cases before : event.additional.prevPosition with
      | none => simp [before] at needed
      | some position =>
          simp only [before, Option.isSome_some, if_true, List.mem_singleton] at needed
          exact refuses_check lacks fun other => absurd needed other
  | skip =>
      simp only [kind, List.mem_cons, List.not_mem_nil, or_false] at needed
      unfold undoSkip
      refine refuses_check lacks fun skip => refuses_check lacks fun seek => ?_
      refine refuses_check lacks fun add => refuses_check lacks fun playNow => ?_
      simp [skip, seek, add, playNow] at needed
  | add =>
      simp only [kind] at needed
      unfold undoAdd
      refine refuses_check lacks fun remove => Refuses.get_bind ?_
      cases given : event.request.video with
      | none => exact refuses_check lacks fun skip => by simp [given, remove, skip] at needed
      | some video =>
          cases empty : room.queue.isEmpty with
          | true =>
              exact refuses_check lacks fun skip => by simp [given, empty, remove, skip] at needed
          | false => simp [given, empty, remove] at needed
  | remove =>
      simp only [kind, List.mem_cons, List.not_mem_nil, or_false] at needed
      refine refuses_check lacks fun add => refuses_check lacks fun order => ?_
      simp [add, order] at needed
  | _ => simp [kind] at needed

theorem refuses_handle (request : RoomRequest)
    (needed : permission ∈ room.handlerPermissions request) :
    Refuses (handle env request context) room := by
  cases request with
  | playNow video =>
      change Refuses (playNow env video context) room
      unfold playNow
      refine .of_after (assertUsableVideoId_after room _) fun _ _ => Refuses.get_bind ?_
      refine .ite (fun same => ?_) fun other => refuses_check lacks fun unchecked => ?_
      · simp [handlerPermissions, same] at needed
      · simp only [handlerPermissions, if_neg other, List.mem_singleton] at needed
        exact absurd needed unchecked
  | shuffle =>
      exact refuses_check lacks fun order => absurd (List.mem_singleton.mp needed) order
  | promote targetClientId role =>
      change Refuses (promoteUser targetClientId role context) room
      unfold promoteUser
      refine .ite (fun _ => .throw _) fun assignable => Refuses.get_bind ?_
      obtain ⟨registered, owned⟩ := not_or.mp assignable
      cases found : room.getUser targetClientId with
      | none => exact .throw _
      | some target =>
          simp only [handlerPermissions, found, Option.toList_some, List.flatMap_singleton] at needed
          refine .of_after (checkPromotion_after room _ _ _) fun _ passed => ?_
          have granted := (checkPromotion_passes room context registered owned).mp passed
          rw [List.all_eq_true.mp granted _ needed] at lacks
          cases lacks
  | applySettings settings =>
      refine Refuses.get_bind (.of_after (forM_after room (fun _ => check_after room _ _) _)
        fun _ passed => ?_)
      rw [List.all_eq_true.mp (granted_of_checks room passed) _ needed] at lacks
      cases lacks
  | restoreQueue discard =>
      exact refuses_check lacks fun other => absurd (List.mem_singleton.mp needed) other
  | temporaryPlaybackSpeed action gestureId video =>
      change Refuses (setTemporaryPlaybackSpeed env action gestureId video context) room
      unfold setTemporaryPlaybackSpeed
      refine Refuses.get_bind (.ite (fun _ => .throw _) fun _ => ?_)
      split
      · exact .throw _
      · cases action with
        | stop => cases needed
        | renew => exact refuses_check lacks fun other => absurd (List.mem_singleton.mp needed) other
        | start => exact refuses_check lacks fun other => absurd (List.mem_singleton.mp needed) other
  | undo echo =>
      change Refuses (undo env echo context) room
      unfold undo
      refine .ite (fun _ => .throw _) fun _ => Refuses.get_bind ?_
      cases found : room.findRecentEvent echo with
      | none => exact .throw _
      | some event =>
          simp only [handlerPermissions, found, Option.toList_some, List.flatMap_singleton] at needed
          exact (refuses_applyUndo env lacks event needed).bind _
  | _ => cases needed

end Refusals

/-- Whoever lacks a permission that a request needs is refused, and nothing has happened. -/
theorem processRequest_refuses (request : RoomRequest) {permission : Permission}
    (needed : permission ∈ room.requiredPermissions request)
    (lacks : room.grants.granted context.role permission = false) :
    Refuses (processRequest env request context) room := by
  refine .of_after (checkSome_after room _ _) fun _ passed => ?_
  rcases List.mem_append.mp needed with listed | checked
  · have listed := Option.mem_toList.mp listed
    rw [checkSome_passes, Option.mem_def.mp listed] at passed
    have granted : room.grants.granted context.role permission = true := passed
    rw [granted] at lacks
    cases lacks
  · exact refuses_handle env lacks request checked

end Needs

end Room

end OpenTogetherTube
