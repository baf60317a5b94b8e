import OpenTogetherTube.Room.Core

/-!
# What a room is, whatever it does

The name of a room, its kind and its password never change under a request, a tick or a
timer, and its owner changes only by a claim. What such a step saves is a snapshot of this
very room.
-/

namespace OpenTogetherTube

open Lib Lib.Handler

namespace Room

/-- The room is the same one, and what it saved in between is a snapshot of it. -/
def SameRoom (before after : Room) : Prop :=
  after.identity = before.identity ∧
    (after.saved = before.saved ∨
      ∃ (now : Int) (room : Room), after.saved = some (room.serializeState now) ∧
        room.identity = before.identity)

/-- The roles that accounts are moved to and from. -/
def assignedRoles : List Role := [.administrator, .moderator, .trustedUser]

/-- There is a set for every role that accounts are moved to, no account is in two of them, and no
viewer has the account number zero. -/
structure RolesSound (room : Room) : Prop where
  present : ∀ role ∈ assignedRoles, room.userRoles.has role = true
  separate : ∀ first ∈ assignedRoles, ∀ second ∈ assignedRoles, ∀ id : Nat,
    room.holdsRole first id = true → room.holdsRole second id = true → first = second
  numbered : ∀ user ∈ room.realusers, user.userId ≠ some 0

theorem RolesSound.of_same {before after : Room} (roles : after.userRoles = before.userRoles)
    (users : after.realusers = before.realusers) (sound : before.RolesSound) : after.RolesSound := by
  refine ⟨?_, ?_, ?_⟩
  · rw [roles]
    exact sound.present
  · unfold Audience.holdsRole
    rw [roles]
    exact sound.separate
  · rw [users]
    exact sound.numbered

/-- The room is the same one, its grants have seen the same permissions and its role sets are still
sound; what it saved in between is a snapshot of it. -/
structure Stays (before after : Room) : Prop where
  identity : after.identity = before.identity
  revision : after.permissionsRevision = before.permissionsRevision
  saved : after.saved = before.saved ∨
    ∃ (now : Int) (saver : Room), after.saved = some (saver.serializeState now) ∧
      saver.identity = before.identity ∧ saver.permissionsRevision = before.permissionsRevision
  roles : before.RolesSound → after.RolesSound

/-- A step that saves nothing and moves nobody. -/
theorem Stays.of_frame {before after : Room} (identity : after.identity = before.identity)
    (kept : after.kept = before.kept) : Stays before after := by
  obtain ⟨saved, rest⟩ := Prod.mk.inj kept
  obtain ⟨revision, parts⟩ := Prod.mk.inj rest
  obtain ⟨roles, users⟩ := Prod.mk.inj parts
  exact ⟨identity, revision, .inl saved, .of_same roles users⟩

instance : IsPreorder Room Stays where
  refl _ := .of_frame rfl rfl
  trans before middle after first second := by
    refine ⟨second.identity.trans first.identity, second.revision.trans first.revision, ?_,
      fun sound => second.roles (first.roles sound)⟩
    rcases second.saved with unsaved | ⟨now, saver, saved, same, revision⟩
    · rw [unsaved]
      exact first.saved
    · exact Or.inr ⟨now, saver, saved, same.trans first.identity, revision.trans first.revision⟩

theorem Stays.sameRoom {before after : Room} (stays : Stays before after) :
    SameRoom before after := by
  refine ⟨stays.identity, stays.saved.imp_right ?_⟩
  rintro ⟨now, saver, saved, same, _⟩
  exact ⟨now, saver, saved, same⟩

variable (env : Env) (context : RoomRequestContext) (room : Room)

/-- What an account holds after it is moved. -/
theorem holdsRole_assignRole (id other : Nat) {role held : Role} (assigned : held ∈ assignedRoles) :
    (room.assignRole id role).holdsRole held other =
      if other = id then decide (held = role) && room.userRoles.has held
      else room.holdsRole held other := by
  have sets : (room.assignRole id role).userRoles.get held = (room.userRoles.get held).map fun ids =>
      if held = role then OrderedSet.add (OrderedSet.remove ids id) id
      else OrderedSet.remove ids id := by
    have values : (room.assignRole id role).userRoles = room.userRoles.map fun entry =>
        (entry.1, if entry.1 ∈ assignedRoles then
          (if entry.1 = role then OrderedSet.add (OrderedSet.remove entry.2 id) id
            else OrderedSet.remove entry.2 id) else entry.2) := by
      refine List.map_congr_left fun entry _ => ?_
      by_cases listed : entry.1 ∈ assignedRoles
      · rw [if_pos listed]
        exact if_pos listed
      · rw [if_neg listed]
        exact if_neg listed
    rw [values, OrderedMap.get_map_values _ fun key ids => if key ∈ assignedRoles then
      (if key = role then OrderedSet.add (OrderedSet.remove ids id) id else OrderedSet.remove ids id)
      else ids]
    refine congrArg (Option.map · (room.userRoles.get held)) (funext fun ids => ?_)
    rw [if_pos assigned]
  unfold Audience.holdsRole OrderedMap.has
  rw [sets]
  cases room.userRoles.get held with
  | none => simp
  | some ids =>
      by_cases moved : other = id
      · subst moved
        by_cases same : held = role
        · simp [same]
        · simp [same]
      · by_cases same : held = role
        · simp [same, moved]
        · simp [same, moved]

theorem assignRole_stays (id : Nat) (role : Role) : Stays room (room.assignRole id role) := by
  refine ⟨rfl, rfl, .inl rfl, fun sound => ⟨fun held assigned => ?_, ?_, sound.numbered⟩⟩
  · have there := sound.present held assigned
    exact OrderedMap.has_of_mem_keys (by
      have same : (room.assignRole id role).userRoles.keys = room.userRoles.keys := by
        refine (List.map_map ..).trans (List.map_congr_left fun entry _ => ?_)
        dsimp only [Function.comp]
        split <;> rfl
      rw [same]
      exact OrderedMap.mem_keys_of_has there)
  · intro first firstAssigned second secondAssigned other
    rw [holdsRole_assignRole room id other firstAssigned,
      holdsRole_assignRole room id other secondAssigned]
    by_cases moved : other = id
    · rw [if_pos moved, if_pos moved, Bool.and_eq_true, Bool.and_eq_true, decide_eq_true_eq,
        decide_eq_true_eq]
      exact fun one two => one.1.trans two.1.symm
    · rw [if_neg moved, if_neg moved]
      exact sound.separate first firstAssigned second secondAssigned other

/-- A save stores this very room, and no viewer comes with the account number zero. -/
theorem stays_core : KeepsCore Stays where
  frame identity kept _ _ := .of_frame identity kept
  publish _ _ := .of_frame rfl rfl
  publishRoomEvent _ _ _ _ _ :=
    .of_frame (publishRoomEvent_frame identity (fun _ _ _ _ => rfl) ..)
      (publishRoomEvent_frame kept (fun _ _ _ _ => rfl) ..)
  forgetEvents _ _ _ := .of_frame rfl rfl
  seats _ _ numbered := ⟨rfl, rfl, .inl rfl, fun sound => ⟨sound.present, sound.separate,
    numbered sound.numbered⟩⟩
  saves room now := ⟨rfl, rfl, .inr ⟨now, room, rfl, rfl, rfl⟩, .of_same rfl rfl⟩
  assignRole := assignRole_stays

theorem applySettings_stays (settings : RoomSettings) :
    (applySettings env settings context).Keeps Stays room :=
  stays_core.applySettings env context room settings fun _ _ => .of_frame rfl rfl

theorem assignOptions_identity (options : RoomOptions) (now : Int) :
    (room.assignOptions options now).identity =
      ⟨options.name.getD room.name, options.isTemporary.getD room.isTemporary,
        options.passwordHash.getD room.passwordHash, options.owner.getD room.owner⟩ := by
  unfold assignOptions
  dsimp only
  rw [applySetting_project identity _ options.passwordHash _
    (fun value identity => { identity with passwordHash := value }) fun _ _ => rfl]
  iterate 11 rw [applySetting_frame identity]
  rw [applySetting_project identity _ options.owner _
    (fun value identity => { identity with owner := value }) fun _ _ => rfl]
  rw [applySetting_project identity _ options.isTemporary _
    (fun value identity => { identity with isTemporary := value }) fun _ _ => rfl]
  iterate 4 rw [applySetting_frame identity]
  rw [applySetting_project identity _ options.name _
    (fun value identity => { identity with name := value }) fun _ _ => rfl]
  · cases options.name <;> cases options.isTemporary <;> cases options.owner <;>
      cases options.passwordHash <;> rfl
  all_goals intro value room
  all_goals first | rfl | exact assignPrevQueue_frame identity room value fun _ _ _ => rfl

theorem new_identity (options : RoomOptions) (now : Int) :
    (Room.new options now).identity =
      ⟨options.name.getD "", options.isTemporary.getD false, options.passwordHash.getD none,
        options.owner.getD none⟩ := by
  obtain ⟨room, same, made⟩ := new_frame identity options now fun _ _ _ _ _ _ _ => rfl
  rw [made]
  exact same.trans (assignOptions_identity _ options now)

end Room

namespace RoomAction

/-- A claim and a new password are the only changes of identity. -/
def identityAfter (action : RoomAction) (identity : RoomIdentity) : RoomIdentity :=
  match action with
  | .claim user => { identity with owner := some user }
  | .setPasswordHash hash => { identity with passwordHash := hash }
  | _ => identity

variable (env : Env) (room : Room)

theorem apply_stays (action : RoomAction) (claims : ∀ user, action ≠ .claim user)
    (hashes : ∀ hash, action ≠ .setPasswordHash hash) : Room.Stays room (action.apply env room) :=
  Room.stays_core.apply env room action claims hashes
    (fun settings context _ => Room.applySettings_stays env context room settings)
    fun _ _ => .of_frame rfl rfl

/-- What an action does to the identity and to the Redis key of a room. -/
theorem apply_identity (action : RoomAction) :
    (action.apply env room).identity = action.identityAfter room.identity ∧
      ((action.apply env room).saved = room.saved ∨
        ∃ (now : Int) (saver : Room),
          (action.apply env room).saved = some (saver.serializeState now) ∧
            saver.identity = room.identity) := by
  cases action with
  | claim user => exact ⟨rfl, Or.inl rfl⟩
  | setPasswordHash hash => exact ⟨rfl, Or.inl rfl⟩
  | _ => exact (apply_stays env room _ (by rintro _ ⟨⟩) (by rintro _ ⟨⟩)).sameRoom

/-- No action changes which permissions the grants have seen, and what it saves says the same. -/
theorem apply_revision (action : RoomAction) :
    (action.apply env room).permissionsRevision = room.permissionsRevision ∧
      ((action.apply env room).saved = room.saved ∨ ∃ stored : StoredState,
        (action.apply env room).saved = some stored ∧
          stored.permissionsRevision = room.permissionsRevision) := by
  have kept : ∀ after : Room, Room.Stays room after →
      after.permissionsRevision = room.permissionsRevision ∧ (after.saved = room.saved ∨
        ∃ stored : StoredState, after.saved = some stored ∧
          stored.permissionsRevision = room.permissionsRevision) := by
    intro after stays
    refine ⟨stays.revision, stays.saved.imp_right ?_⟩
    rintro ⟨now, saver, saved, _, revision⟩
    exact ⟨_, saved, revision⟩
  cases action with
  | claim user => exact ⟨rfl, Or.inl rfl⟩
  | setPasswordHash hash => exact ⟨rfl, Or.inl rfl⟩
  | _ => exact kept _ (apply_stays env room _ (by rintro _ ⟨⟩) (by rintro _ ⟨⟩))

end RoomAction

end OpenTogetherTube
