import OpenTogetherTube.Common.GrantsRuns
import OpenTogetherTube.Room.Permits
import OpenTogetherTube.Room.Checkpoint

/-!
# Settings requests

Whether a settings request is let through, what it writes, and who may have asked for it. A role
that the request does not list keeps its mask, since the masks of a request are inherited already:
what the lower roles are given is part of what the role has.
-/

namespace OpenTogetherTube

open Lib Lib.Handler

namespace RoomSettings

/-- The request has a value for the setting. -/
def gives (settings : RoomSettings) : PersistentSetting → Bool
  | .title => settings.title.isSome
  | .description => settings.description.isSome
  | .visibility => settings.visibility.isSome
  | .queueMode => settings.queueMode.isSome
  | .autoSkipSegmentCategories => settings.autoSkipSegmentCategories.isSome
  | .grants => settings.grants.isSome
  | .restoreQueueBehavior => settings.restoreQueueBehavior.isSome
  | .enableVoteSkip => settings.enableVoteSkip.isSome
  | .bufferGateMode => settings.bufferGateMode.isSome
  | .danmakuSource => settings.danmakuSource.isSome
  | .userRoles | .owner | .prevQueue | .permissionsRevision => false

end RoomSettings

def propsToPerms : PersistentSetting → Option Permission
  | .title => some .setTitle
  | .description => some .setDescription
  | .visibility => some .setVisibility
  | .queueMode => some .setQueueMode
  | .autoSkipSegmentCategories | .restoreQueueBehavior | .enableVoteSkip | .bufferGateMode =>
      some .configureOther
  | .danmakuSource => some .setDanmakuSource
  | .grants | .userRoles | .owner | .prevQueue | .permissionsRevision => none

/-- The permission of a setting that is given is among the ones that are checked. -/
theorem propsToPerms_of_gives {settings : RoomSettings} {setting : PersistentSetting}
    (plain : setting ≠ .grants) (given : settings.gives setting = true) :
    ∃ permission ∈ Room.settingsPermissions settings, propsToPerms setting = some permission := by
  unfold Room.settingsPermissions
  cases setting with
  | grants => exact absurd rfl plain
  | userRoles | owner | prevQueue | permissionsRevision => cases given
  | _ =>
      refine ⟨_, List.mem_append_left _ (List.mem_filterMap.mpr ⟨(true, _), ?_, rfl⟩), rfl⟩
      rw [← given]
      simp [RoomSettings.gives]

namespace Room

variable (room : Room)

/-- A request that has no value for a setting does not write it. -/
theorem applySetting_setting {Value : Type} {setting : PersistentSetting} (value : Option Value)
    (assign : Value → Room → Room)
    (untouched : value = none ∨
      ∀ value (room : Room), (assign value room).setting setting = room.setting setting) :
    (room.applySetting value assign).setting setting = room.setting setting := by
  cases value with
  | none => rfl
  | some value => exact untouched.elim nofun fun kept => kept value room

theorem writeSettings_setting {settings : RoomSettings} {setting : PersistentSetting}
    (plain : setting ≠ .grants) (absent : settings.gives setting = false) :
    (room.writeSettings settings).setting setting = room.setting setting := by
  have wanted : ∀ (want : Bool) (other : Room),
      (if want then { other with wantSponsorBlock := true } else other).setting setting =
        other.setting setting := by
    rintro (_ | _) other <;> cases setting <;> rfl
  have categories : ∀ other : Room,
      (other.applyCategories settings).setting setting = other.setting setting := by
    intro other
    unfold applyCategories
    split
    · rename_i given
      cases setting with
      | autoSkipSegmentCategories =>
          unfold RoomSettings.gives at absent
          rw [given] at absent
          cases absent
      | _ => rfl
    · rfl
  have granted : ∀ other : Room, (other.applySetting settings.grants fun grants room =>
      grants.masks.foldl writeGrant room).setting setting = other.setting setting := by
    intro other
    refine applySetting_setting other _ _ (.inr fun grants room => ?_)
    refine writeGrants_frame (fun room => room.setting setting) room (fun room entry => ?_) _
    cases setting with
    | grants => exact absurd rfl plain
    | _ => rfl
  unfold writeSettings
  dsimp only
  rw [wanted, granted, applySetting_setting, applySetting_setting, applySetting_setting,
    applySetting_setting, categories, applySetting_setting, applySetting_setting,
    applySetting_setting, applySetting_setting]
  all_goals
    cases setting <;> first
      | exact .inr fun _ _ => rfl
      | exact .inl (Option.isSome_eq_false_iff.mp absent |> Option.isNone_iff_eq_none.mp)

theorem settled_new (options : RoomOptions) (now : Int)
    (given : ∀ grants, options.grants = some grants → grants.Settled) :
    (Room.new options now).grants.Settled := by
  have prevQueue : ∀ (value : Option (List QueueItem)) (room : Room),
      (room.assignPrevQueue value).grants = room.grants := by
    intro value room
    unfold assignPrevQueue
    split <;> rfl
  have assigned : ∀ room : Room, (room.assignOptions options now).grants = room.grants := by
    intro room
    unfold assignOptions
    dsimp only
    iterate 19 rw [applySetting_frame fun room => room.grants]
    all_goals intro value room
    all_goals first | rfl | exact prevQueue value room
  have reloaded : ∀ room : Room, room.reloadPrevQueue.grants = room.grants := by
    intro room
    unfold reloadPrevQueue
    split
    · split
      · exact prevQueue none _
      · rfl
    · rfl
  have forgotten : ∀ room : Room,
      (if room.restoreQueueBehavior = .never then room.assignPrevQueue none
        else room).grants = room.grants := by
    intro room
    split
    · exact prevQueue none room
    · rfl
  have granted : ∀ room : Room, room.grants.Settled → (room.assignGrants options).grants.Settled := by
    intro room settled
    have chosen : (options.grants.getD room.grants).Settled := by
      cases present : options.grants with
      | none => exact settled
      | some grants => exact given grants present
    unfold assignGrants
    dsimp only
    split
    · exact chosen.applyPermissionAdditions _
    · exact chosen
  refine granted _ ?_
  rw [reloaded, forgotten]
  change ((Room.assignOwner none { keepAlivePing := now }).assignOptions options now).grants.Settled
  rw [assigned]
  exact Grants.settled_ofMasks Grants.defaultMasks

/-- The masks of a request that are written: those of the roles below the administrator that
differ from the room's. -/
def changedMasks (grants : Grants) : OrderedMap Role Nat :=
  grants.masks.filter fun entry =>
    decide (entry.1 ∈ [Role.unregisteredUser, .registeredUser, .trustedUser, .moderator]) &&
      decide (entry.2 ≠ room.grants.getMask entry.1)

theorem mem_changedMasks {grants : Grants} {entry : Role × Nat} :
    entry ∈ room.changedMasks grants ↔ entry ∈ grants.masks ∧ entry.1 ≤ .moderator ∧
      entry.2 ≠ room.grants.getMask entry.1 := by
  unfold changedMasks
  rw [List.mem_filter, Bool.and_eq_true, decide_eq_true_eq, decide_eq_true_eq]
  rfl

theorem grants_changedSettings (settings : RoomSettings) :
    (room.changedSettings settings).grants =
      (settings.grants.map fun grants => (⟨room.changedMasks grants⟩ : Grants)).filter
        fun grants => !grants.isEmpty :=
  rfl

/-- The permissions that the masks of a request need are checked with the others. -/
theorem rolePermission_mem {settings : RoomSettings} {grants : Grants}
    (given : settings.grants = some grants) {entry : Role × Nat}
    (member : entry ∈ room.changedMasks grants) {permission : Permission}
    (needed : rolePermission entry.1 = some permission) :
    permission ∈ settingsPermissions (room.changedSettings settings) := by
  have kept : (room.changedSettings settings).grants = some ⟨room.changedMasks grants⟩ := by
    rw [grants_changedSettings, given, Option.map_some]
    refine Option.filter_eq_some_iff.mpr ⟨rfl, ?_⟩
    unfold Grants.isEmpty
    rw [Bool.not_eq_true', List.isEmpty_eq_false_iff]
    exact List.ne_nil_of_mem member
  unfold settingsPermissions
  refine List.mem_append_right _ ?_
  rw [kept, Option.map_some, Option.getD_some]
  exact List.mem_filterMap.mpr ⟨entry.1, List.mem_map_of_mem member, needed⟩

theorem grants_writeGrants (masks : OrderedMap Role Nat) :
    (masks.foldl writeGrant room).grants =
      masks.foldl (fun grants entry => grants.setRoleGrants entry.1 entry.2) room.grants := by
  induction masks generalizing room with
  | nil => rfl
  | cons entry rest ih => exact ih (room.writeGrant entry)

theorem writeSettings_grants (settings : RoomSettings) :
    (room.writeSettings settings).grants =
      (settings.grants.map fun grants => grants.masks.foldl
        (fun grants entry => grants.setRoleGrants entry.1 entry.2) room.grants).getD room.grants := by
  have wanted : ∀ (want : Bool) (other : Room),
      (if want then { other with wantSponsorBlock := true } else other).grants = other.grants := by
    rintro (_ | _) other <;> rfl
  have categories : ∀ other : Room, (other.applyCategories settings).grants = other.grants := by
    intro other
    unfold applyCategories
    split <;> rfl
  have granted : ∀ other : Room, (other.applySetting settings.grants fun grants room =>
      grants.masks.foldl writeGrant room).grants =
        (settings.grants.map fun grants => grants.masks.foldl
          (fun grants entry => grants.setRoleGrants entry.1 entry.2) other.grants).getD other.grants := by
    intro other
    cases settings.grants with
    | none => rfl
    | some grants => exact grants_writeGrants other grants.masks
  unfold writeSettings
  dsimp only
  rw [wanted, granted]
  iterate 4 rw [applySetting_frame fun room => room.grants]
  rw [categories]
  iterate 4 rw [applySetting_frame fun room => room.grants]
  all_goals exact fun _ _ => rfl

/-- What a settings request leaves of the grants: the masks that differ are written in order. -/
theorem changedSettings_grants (settings : RoomSettings) :
    (room.writeSettings (room.changedSettings settings)).grants =
      (settings.grants.map fun grants => (room.changedMasks grants).foldl
        (fun grants entry => grants.setRoleGrants entry.1 entry.2) room.grants).getD room.grants := by
  rw [writeSettings_grants, grants_changedSettings]
  cases settings.grants with
  | none => rfl
  | some grants =>
      rw [Option.map_some, Option.map_some, Option.getD_some, Option.filter_some]
      split
      · rfl
      · rename_i empty
        rw [Bool.not_eq_true, Bool.not_eq_false', Grants.isEmpty, List.isEmpty_iff] at empty
        have empty : room.changedMasks grants = [] := empty
        rw [empty]
        rfl

/-- A settings request goes through just when its checks pass. -/
theorem applySettings_outcome (env : Env) (settings : RoomSettings) (context : RoomRequestContext) :
    (applySettings env settings context).outcome room = .ok () ↔
      room.acceptsSettings settings context.role = true := by
  unfold applySettings acceptsSettings
  rw [outcome_get_bind, outcome_bind, forM_after room fun _ => check_after room _ _]
  by_cases permitted : (settingsPermissions (room.changedSettings settings)).all
      (room.grants.granted context.role) = true
  · rw [permitted, (checks_pass room _ _).mpr permitted, Bool.true_and]
    dsimp only
    by_cases locked : (room.changedSettings settings).visibility = some .locked ∧
        (!room.hasPassword) = true
    · rw [if_pos locked, decide_eq_true locked.1, locked.2]
      exact iff_of_false nofun nofun
    · rw [if_neg locked, Bool.not_eq_true', Bool.eq_false_iff, ne_eq, Bool.and_eq_true,
        decide_eq_true_eq]
      exact iff_of_true rfl locked
  · rw [Bool.eq_false_iff.mpr permitted, Bool.false_and]
    refine iff_of_false (fun passed => permitted ?_) nofun
    cases checked : ((settingsPermissions (room.changedSettings settings)).forM
        (check context.role)).outcome room with
    | error error => rw [checked] at passed; cases passed
    | ok value => exact (checks_pass room _ _).mp checked

/-- A mask of a request that is written is the one its grants have for the role. -/
theorem getMask_of_mem_changedMasks {input : Option GrantsInput} {entry : Role × Nat}
    (member : entry ∈ room.changedMasks (.new input)) :
    (Grants.new input).getMask entry.1 = entry.2 := by
  have stored := OrderedMap.get_of_mem (Grants.new_distinct input)
    ((room.mem_changedMasks).mp member).1
  unfold Grants.getMask
  rw [stored, Option.getD_some]

/-- A role whose mask is not written has the mask of the request already. -/
theorem getMask_of_not_mem_changedMasks (input : Option GrantsInput) {role : Role}
    (low : role ≤ .moderator) (unwritten : role ∉ (room.changedMasks (.new input)).map Prod.fst) :
    (Grants.new input).getMask role = room.grants.getMask role := by
  have listed : role ∈ Role.chain := by revert low; cases role <;> decide
  obtain ⟨mask, found⟩ := Option.isSome_iff_exists.mp (Grants.new_complete input role listed)
  by_contra differs
  refine unwritten (List.mem_map_of_mem (f := Prod.fst) (a := (role, mask))
    ((room.mem_changedMasks).mpr ⟨OrderedMap.mem_of_get found, low, ?_⟩))
  unfold Grants.getMask at differs
  rw [found, Option.getD_some] at differs
  exact differs

/-- A role whose mask is not written keeps it, whatever is written for the others. -/
theorem getMask_unwritten (closed : Monotone room.grants.held)
    (full : room.grants.getMask .administrator = maskOf Permission.all)
    (input : Option GrantsInput) {role : Role}
    (unwritten : role ∉ (room.changedMasks (.new input)).map Prod.fst) :
    ((room.changedMasks (.new input)).foldl
      (fun grants entry => grants.setRoleGrants entry.1 entry.2) room.grants).getMask role =
        room.grants.getMask role := by
  refine bits_injective ?_
  change Grants.held _ role = room.grants.held role
  rw [Grants.held_foldl_setRoleGrants]
  refine raiseAll_of_not_mem closed (by rwa [Grants.writes_roles]) fun write written below => ?_
  obtain ⟨entry, member, rfl⟩ := List.mem_map.mp written
  have low := ((room.mem_changedMasks).mp member).2.1
  by_cases reached : role ≤ .moderator
  · refine Set.inter_subset_left.trans ?_
    rw [← room.getMask_of_mem_changedMasks member]
    change _ ⊆ bits (room.grants.getMask role)
    rw [← room.getMask_of_not_mem_changedMasks input reached unwritten]
    exact (Grants.new_sound input).inherited below
  · have top : role = .administrator := by
      revert below low reached
      cases entry.1 <;> cases role <;> decide
    refine Set.inter_subset_right.trans ((Grants.allowed_subset_all entry.1).trans ?_)
    change _ ⊆ bits (room.grants.getMask role)
    rw [top, full]

/-- Everything that differs between two states of a room was covered by a permission that a role
held in the first. -/
structure Covered (before after : Room) (role : Role) : Prop where
  settings : ∀ setting ≠ PersistentSetting.grants, after.setting setting ≠ before.setting setting →
    ∃ permission, propsToPerms setting = some permission ∧
      before.grants.granted role permission = true
  masks : ∀ target, after.grants.getMask target ≠ before.grants.getMask target →
    ∃ permission, rolePermission target = some permission ∧
      before.grants.granted role permission = true

variable {room} in
/-- A role whose mask a settings request changes is one that the request writes. -/
theorem written_of_getMask_ne (closed : Monotone room.grants.held)
    (full : room.grants.getMask .administrator = maskOf Permission.all) {settings : RoomSettings}
    (built : ∀ grants, settings.grants = some grants → ∃ input, grants = Grants.new input)
    {role : Role}
    (differs : (room.writeSettings (room.changedSettings settings)).grants.getMask role ≠
      room.grants.getMask role) :
    ∃ grants, settings.grants = some grants ∧ role ∈ (room.changedMasks grants).map Prod.fst := by
  rw [changedSettings_grants] at differs
  cases given : settings.grants with
  | none =>
      rw [given, Option.map_none, Option.getD_none] at differs
      exact absurd rfl differs
  | some grants =>
      obtain ⟨input, rfl⟩ := built grants given
      refine ⟨_, rfl, ?_⟩
      by_contra unwritten
      rw [given, Option.map_some, Option.getD_some] at differs
      exact differs (room.getMask_unwritten closed full input unwritten)

/-- A settings request is refused and changes nothing, or everything it changes was covered by a
permission of the sender's role; the administrator and the owner keep their masks. -/
theorem applySettings_authorised (env : Env) (closed : Monotone room.grants.held)
    (full : room.grants.getMask .administrator = maskOf Permission.all) (settings : RoomSettings)
    (built : ∀ grants, settings.grants = some grants → ∃ input, grants = Grants.new input)
    (context : RoomRequestContext) :
    ((∃ error, (applySettings env settings context).outcome room = .error error ∧
        (applySettings env settings context).after room = room) ∨
      ((applySettings env settings context).outcome room = .ok () ∧
        Covered room ((applySettings env settings context).after room) context.role)) ∧
    ∀ role ∈ [Role.administrator, .owner],
      ((applySettings env settings context).after room).grants.getMask role =
        room.grants.getMask role := by
  have outcome := room.applySettings_outcome env settings context
  rcases applySettings_cases room env settings context with ⟨refused, after⟩ | ⟨accepted, after⟩
  · rw [after]
    refine ⟨.inl ?_, fun role _ => rfl⟩
    cases thrown : (applySettings env settings context).outcome room with
    | error error => exact ⟨error, rfl, rfl⟩
    | ok value => rw [outcome.mp thrown] at refused; cases refused
  · rw [after]
    have granted : ∀ permission ∈ settingsPermissions (room.changedSettings settings),
        room.grants.granted context.role permission = true := by
      unfold acceptsSettings at accepted
      rw [Bool.and_eq_true, List.all_eq_true] at accepted
      exact accepted.1
    have low : ∀ {role : Role} {grants : Grants}, role ∈ (room.changedMasks grants).map Prod.fst →
        role ≤ .moderator := by
      intro role grants listed
      obtain ⟨entry, member, rfl⟩ := List.mem_map.mp listed
      exact ((room.mem_changedMasks).mp member).2.1
    refine ⟨.inr ⟨outcome.mpr accepted, fun setting plain differs => ?_, fun target differs => ?_⟩,
      fun role top => ?_⟩
    · cases given : (room.changedSettings settings).gives setting with
      | true =>
          obtain ⟨permission, needed, covers⟩ := propsToPerms_of_gives plain given
          exact ⟨permission, covers, granted permission needed⟩
      | false =>
          refine absurd (Eq.trans ?_ (room.writeSettings_setting plain given)) differs
          cases setting <;> rfl
    · obtain ⟨grants, given, listed⟩ := written_of_getMask_ne closed full built differs
      obtain ⟨entry, member, rfl⟩ := List.mem_map.mp listed
      have permitted : ∃ permission, rolePermission entry.1 = some permission := by
        have below := low listed
        revert below
        cases entry.1 <;> first | exact fun _ => ⟨_, rfl⟩ | exact fun below => absurd below (by decide)
      obtain ⟨permission, needed⟩ := permitted
      exact ⟨permission, needed, granted permission (room.rolePermission_mem given member needed)⟩
    · by_contra differs
      obtain ⟨grants, _, listed⟩ := written_of_getMask_ne closed full built differs
      have below := low listed
      simp only [List.mem_cons, List.not_mem_nil, or_false] at top
      rcases top with rfl | rfl <;> exact absurd below (by decide)

/-- A guest of a new room asks for the vote to skip and for empty grants. -/
theorem applySettings_authorised_guest :
    ((applySettings { now := 0 }
      { enableVoteSkip := some true, grants := some (.new (some (.tuples []))) }
      { role := .unregisteredUser }).after (Room.new {} 0)).grants.getMask .owner =
        (Room.new {} 0).grants.getMask .owner :=
  have settled := settled_new {} 0 nofun
  ((Room.new {} 0).applySettings_authorised { now := 0 } settled.sound.inherited
    settled.administrator { enableVoteSkip := some true, grants := some (.new (some (.tuples []))) }
    (fun _ given => ⟨some (.tuples []), (Option.some.inj given).symm⟩)
    { role := .unregisteredUser }).2 .owner (by decide)

end Room

end OpenTogetherTube
