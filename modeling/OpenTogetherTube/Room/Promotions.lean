import Mathlib.Data.List.Find
import OpenTogetherTube.Room.Identity
import OpenTogetherTube.Room.Permits
import OpenTogetherTube.Room.QueueCap

/-!
# Promotions

What `promoteUser` promises: the target has the role asked for, nobody else moves, and whoever asked
was allowed to. A viewer has two accounts, the number the session last came with and the record that
was looked up for it. The role is read from the record and the sets are written under the number, so
the promise is kept as long as the two are the same.
-/

namespace OpenTogetherTube

open Lib Lib.Handler

namespace Room

/-- A claim and a new password move nobody either. -/
theorem RolesSound.apply {room : Room} (sound : room.RolesSound) (env : Env) (action : RoomAction) :
    (action.apply env room).RolesSound := by
  cases action with
  | claim user => exact ⟨sound.present, sound.separate, sound.numbered⟩
  | setPasswordHash hash => exact ⟨sound.present, sound.separate, sound.numbered⟩
  | _ => exact (RoomAction.apply_stays env room _ (by rintro _ ⟨⟩) (by rintro _ ⟨⟩)).roles sound

/-- Who holds a role and who is there. -/
def members (room : Room) : OrderedMap Role (List Nat) × List RoomUser :=
  (room.userRoles, room.realusers)

/-- Empty role sets are sound. -/
theorem RolesSound.of_empty {room : Room}
    (roles : room.userRoles = [(.trustedUser, []), (.moderator, []), (.administrator, [])])
    (users : room.realusers = []) : room.RolesSound := by
  refine ⟨?_, ?_, ?_⟩
  · rw [roles]
    decide
  · intro first assigned second _ id held
    have nobody : room.holdsRole first id = false := by
      unfold Audience.holdsRole
      rw [roles]
      cases first <;> rfl
    rw [nobody] at held
    cases held
  · rw [users]
    exact nofun

/-- A new room is empty, with the role sets it is given or with empty ones. -/
theorem RolesSound.new {options : RoomOptions} {now : Int}
    (given : ∀ sets, options.userRoles = some sets → ∃ room : Room, room.RolesSound ∧
      room.userRoles = sets) : (Room.new options now).RolesSound := by
  have assigned : ∀ room : Room, (room.assignOptions options now).members = room.members := by
    intro room
    unfold assignOptions
    dsimp only
    iterate 19 rw [applySetting_frame members]
    all_goals intro value room
    all_goals first | rfl | exact assignPrevQueue_frame members room value fun _ _ _ => rfl
  obtain ⟨room, same, made⟩ := new_frame members options now fun _ _ _ _ _ _ _ => rfl
  have plain : room.members = ([(.trustedUser, []), (.moderator, []), (.administrator, [])], []) :=
    same.trans (assigned _)
  obtain ⟨roles, users⟩ := Prod.mk.inj plain
  have members : (Room.new options now).members =
      (options.userRoles.getD [(.trustedUser, []), (.moderator, []), (.administrator, [])], []) := by
    rw [made]
    exact Prod.ext (congrArg options.userRoles.getD roles) users
  obtain ⟨roles, users⟩ := Prod.mk.inj members
  cases chosen : options.userRoles with
  | none =>
      rw [chosen] at roles
      exact .of_empty roles users
  | some sets =>
      rw [chosen] at roles
      obtain ⟨other, sound, rfl⟩ := given sets chosen
      refine ⟨?_, ?_, ?_⟩
      · rw [roles]
        exact sound.present
      · unfold Audience.holdsRole
        rw [roles]
        exact sound.separate
      · rw [users]
        exact nofun

/-- What a promotion that returns has done. -/
structure Promoted (before after : Room) (user : RoomUser) (role : Role)
    (context : RoomRequestContext) : Prop where
  promoted : after.getRole user = role
  others : ∀ id : Nat, user.userId ≠ some id →
    after.getRoleFromSession (some id) = before.getRoleFromSession (some id)
  separate : ∀ first ∈ assignedRoles, ∀ second ∈ assignedRoles, ∀ id : Nat,
    after.holdsRole first id = true → after.holdsRole second id = true → first = second
  raising : ∀ permission, promotePermission role = some permission →
    before.grants.granted context.role permission = true
  lowering : role.rank < (before.getRole user).rank → ∃ permission,
    demotePermission (before.getRole user) = some permission ∧
      before.grants.granted context.role permission = true
  movable : before.getRole user ≠ .owner ∧ before.getRole user ≠ .unregisteredUser
  owner : ∀ owner, before.owner = some owner → ∀ held ∈ assignedRoles,
    after.holdsRole held owner.id = before.holdsRole held owner.id

/-- What `promoteUser` promises. -/
structure PromotionContract (room : Room) (target : ClientId) (role : Role)
    (context : RoomRequestContext) : Prop where
  failed : ∀ error, (promoteUser target role context).outcome room = .error error →
    ((promoteUser target role context).after room).userRoles = room.userRoles
  returned : (promoteUser target role context).outcome room = .ok () →
    ∃ user, room.getUser target = some user ∧
      Promoted room ((promoteUser target role context).after room) user role context

/-- The account that was looked up is the one the session came with, or the viewer has the role
already and the sets say so of the owner, if that is whose number it is. -/
def ReadsWhereItWrites (room : Room) (user : RoomUser) (role : Role) : Prop :=
  user.user.map User.id = user.userId ∨
    room.getRole user = role ∧ ∀ owner, room.owner = some owner → user.userId = some owner.id →
      (room.assignedRole owner.id).getD .registeredUser = role

section Moving

variable {room : Room} {role : Role} {id : Nat}

/-- The first set that holds an account is the only one. -/
theorem RolesSound.assignedRole_eq_iff (sound : room.RolesSound) {held : Role}
    (assigned : held ∈ assignedRoles) :
    room.assignedRole id = some held ↔ room.holdsRole held id = true := by
  refine ⟨List.find?_some (p := fun role => room.holdsRole role id), fun holds => ?_⟩
  cases first : room.assignedRole id with
  | none => exact absurd holds (List.find?_eq_none.mp first held assigned)
  | some other =>
      have otherHolds : room.holdsRole other id = true :=
        List.find?_some (p := fun role => room.holdsRole role id) first
      have listed : other ∈ assignedRoles := List.mem_of_find?_eq_some first
      rw [sound.separate other listed held assigned id otherHolds holds]

theorem assignedRole_eq_none_iff :
    room.assignedRole id = none ↔ ∀ held ∈ assignedRoles, room.holdsRole held id = false := by
  unfold Audience.assignedRole
  rw [List.find?_eq_none]
  exact forall₂_congr fun _ _ => (Bool.not_eq_true _).to_iff

theorem assignedRole_congr {other : Room} (same : ∀ held ∈ assignedRoles,
    other.holdsRole held id = room.holdsRole held id) :
    other.assignedRole id = room.assignedRole id :=
  List.find?_congr same

/-- Moving an account changes the role of no other. -/
theorem assignedRole_assignRole_of_ne {other : Nat} (different : other ≠ id) :
    (room.assignRole id role).assignedRole other = room.assignedRole other :=
  assignedRole_congr fun held assigned => by
    rw [holdsRole_assignRole room id other assigned, if_neg different]

/-- A moved account is in the set of its role alone. -/
theorem RolesSound.holdsRole_moved (sound : room.RolesSound) {held : Role}
    (assigned : held ∈ assignedRoles) :
    (room.assignRole id role).holdsRole held id = decide (held = role) := by
  rw [holdsRole_assignRole room id id assigned, if_pos rfl, sound.present held assigned,
    Bool.and_true]

/-- A role that can be asked for is one of the sets or that of every account. -/
theorem RolesSound.assignedRole_moved (sound : room.RolesSound)
    (assignable : role ≠ .unregisteredUser ∧ role ≠ .owner) :
    ((room.assignRole id role).assignedRole id).getD .registeredUser = role := by
  have moved := (assignRole_stays room id role).roles sound
  by_cases listed : role ∈ assignedRoles
  · have found : (room.assignRole id role).assignedRole id = some role :=
      (moved.assignedRole_eq_iff listed).mpr (by
        rw [sound.holdsRole_moved listed, decide_eq_true rfl])
    rw [found]
    rfl
  · have nowhere : (room.assignRole id role).assignedRole id = none :=
      assignedRole_eq_none_iff.mpr fun held assigned => by
        rw [sound.holdsRole_moved assigned]
        exact decide_eq_false fun same => listed (same ▸ assigned)
    rw [nowhere]
    cases role with
    | registeredUser => rfl
    | unregisteredUser => exact absurd rfl assignable.1
    | owner => exact absurd rfl assignable.2
    | _ => exact absurd (by decide) listed

/-- An account's sets are as a move would leave them just when its role is the one asked for. -/
theorem RolesSound.holdsRole_moved_iff (sound : room.RolesSound)
    (assignable : role ≠ .unregisteredUser ∧ role ≠ .owner) :
    (∀ held ∈ assignedRoles, (room.assignRole id role).holdsRole held id = room.holdsRole held id) ↔
      (room.assignedRole id).getD .registeredUser = role := by
  constructor
  · intro same
    rw [← assignedRole_congr same]
    exact sound.assignedRole_moved assignable
  · intro already held assigned
    rw [sound.holdsRole_moved assigned]
    by_cases same : held = role
    · subst same
      rw [decide_eq_true rfl]
      symm
      rw [← sound.assignedRole_eq_iff assigned]
      cases found : room.assignedRole id with
      | none =>
          rw [found] at already
          subst already
          exact absurd assigned (by decide)
      | some other =>
          rw [found] at already
          exact congrArg some already
    · rw [decide_eq_false same, eq_comm, ← Bool.not_eq_true]
      intro holds
      rw [(sound.assignedRole_eq_iff assigned).mpr holds] at already
      exact same already

end Moving

section Contract

variable {room : Room} {role : Role} {context : RoomRequestContext} {user : RoomUser}

theorem not_isOwner (movable : room.getRole user ≠ .owner) : room.isOwner user = false := by
  rw [← Bool.not_eq_true]
  intro owns
  exact movable (if_pos owns)

theorem getRole_of_account {account : User} (other : room.isOwner user = false)
    (looked : user.user = some account) (numbered : user.isLoggedIn = true) :
    room.getRole user = (room.assignedRole account.id).getD .registeredUser := by
  unfold Audience.getRole
  rw [other, looked, if_neg Bool.false_ne_true, Option.bind_some]
  cases room.assignedRole account.id with
  | none => exact if_pos numbered
  | some held => rfl

/-- What a promotion checks before it moves anyone. -/
structure Permitted (room : Room) (user : RoomUser) (role : Role) (context : RoomRequestContext) :
    Prop where
  assignable : role ≠ .unregisteredUser ∧ role ≠ .owner
  movable : room.getRole user ≠ .unregisteredUser ∧ room.getRole user ≠ .owner
  granted : ∀ permission ∈ promotionPermissions (room.getRole user) role,
    room.grants.granted context.role permission = true

theorem permitted_of_accepted {target : ClientId}
    (accepted : room.acceptsPromotion target role context = true) :
    ∃ user, room.getUser target = some user ∧ Permitted room user role context := by
  unfold acceptsPromotion at accepted
  obtain ⟨user, found, passed⟩ := (Option.any_eq_true _ _).mp accepted
  rw [Bool.and_eq_true, Bool.and_eq_true, decide_eq_true_eq, decide_eq_true_eq, List.all_eq_true]
    at passed
  exact ⟨user, found, passed.1.1, passed.1.2, passed.2⟩

theorem Permitted.raising (permitted : Permitted room user role context) (permission : Permission)
    (needed : promotePermission role = some permission) :
    room.grants.granted context.role permission = true := by
  refine permitted.granted permission (List.mem_append_left _ ?_)
  rw [needed]
  exact List.mem_singleton.mpr rfl

theorem Permitted.lowering (permitted : Permitted room user role context)
    (lower : role.rank < (room.getRole user).rank) : ∃ permission,
      demotePermission (room.getRole user) = some permission ∧
        room.grants.granted context.role permission = true := by
  obtain ⟨permission, needed⟩ :=
    demotePermission_isSome permitted.assignable.1 permitted.assignable.2 lower
  refine ⟨permission, needed, permitted.granted permission (List.mem_append_right _ ?_)⟩
  rw [if_pos lower, needed]
  exact List.mem_singleton.mpr rfl

/-- A viewer without a number is not moved. -/
theorem promoted_iff_of_unmoved {after : Room} (sound : room.RolesSound)
    (permitted : Permitted room user role context) (same : after.toAudience = room.toAudience)
    (nobody : user.userId = none) :
    Promoted room after user role context ↔ room.ReadsWhereItWrites user role := by
  constructor
  · intro promoted
    refine .inr ⟨?_, fun owner _ numbered => ?_⟩
    · rw [← promoted.promoted, same]
    · rw [nobody] at numbered
      cases numbered
  · intro reads
    refine ⟨?_, fun _ _ => ?_, ?_, permitted.raising, permitted.lowering, permitted.movable.symm,
      fun _ _ _ _ => ?_⟩
    · rw [same]
      rcases reads with account | already
      · refine absurd ?_ permitted.movable.1
        rw [nobody, Option.map_eq_none_iff] at account
        unfold Audience.getRole Audience.isOwner RoomUser.isLoggedIn
        rw [account, nobody]
        rfl
      · exact already.1
    · rw [same]
    · rw [same]
      exact sound.separate
    · rw [same]

/-- A viewer with a number is moved under it. -/
theorem promoted_iff_of_moved {after : Room} {id : Nat} (sound : room.RolesSound)
    (permitted : Permitted room user role context)
    (same : after.toAudience = (room.assignRole id role).toAudience)
    (numbered : user.userId = some id) (positive : id ≠ 0) :
    Promoted room after user role context ↔ room.ReadsWhereItWrites user role := by
  have loggedIn : user.isLoggedIn = true := by
    unfold RoomUser.isLoggedIn presentId
    rw [numbered]
    exact decide_eq_true positive
  have other : room.isOwner user = false := not_isOwner permitted.movable.2
  have afterOther : (room.assignRole id role).isOwner user = false := other
  -- What the role is read from is not what was moved.
  have apart : user.user.map User.id ≠ some id →
      (room.assignRole id role).getRole user = room.getRole user := by
    intro different
    cases looked : user.user with
    | none =>
        unfold Audience.getRole
        rw [other, afterOther, looked]
        rfl
    | some account =>
        rw [getRole_of_account afterOther looked loggedIn, getRole_of_account other looked loggedIn,
          assignedRole_assignRole_of_ne]
        intro named
        rw [looked, Option.map_some, named] at different
        exact different rfl
  constructor
  · intro promoted
    by_cases account : user.user.map User.id = some id
    · exact .inl (account.trans numbered.symm)
    · refine .inr ⟨?_, fun owner owned ownNumber => ?_⟩
      · rw [← apart account, ← same]
        exact promoted.promoted
      · obtain rfl : id = owner.id := Option.some.inj (numbered.symm.trans ownNumber)
        refine (sound.holdsRole_moved_iff permitted.assignable).mp fun held assigned => ?_
        rw [← same]
        exact promoted.owner owner owned held assigned
  · intro reads
    refine ⟨?_, fun otherId different => ?_, ?_, permitted.raising, permitted.lowering,
      permitted.movable.symm, fun owner owned held assigned => ?_⟩
    · rw [same]
      by_cases account : user.user.map User.id = some id
      · obtain ⟨found, looked, rfl⟩ := Option.map_eq_some_iff.mp account
        rw [getRole_of_account afterOther looked loggedIn]
        exact sound.assignedRole_moved permitted.assignable
      · rw [apart account]
        exact (reads.resolve_left (numbered ▸ account)).1
    · have unmoved : otherId ≠ id := fun equal => different (equal ▸ numbered)
      rw [same]
      unfold Audience.getRoleFromSession
      dsimp only
      rw [assignedRole_assignRole_of_ne unmoved]
      rfl
    · rw [same]
      exact ((assignRole_stays room id role).roles sound).separate
    · rw [same]
      by_cases moved : owner.id = id
      · subst moved
        rcases reads with account | already
        · obtain ⟨found, looked, named⟩ := Option.map_eq_some_iff.mp (account.trans numbered)
          refine absurd ?_ (Bool.eq_false_iff.mp other)
          unfold Audience.isOwner
          rw [looked, owned]
          exact decide_eq_true named
        · exact (sound.holdsRole_moved_iff permitted.assignable).mpr
            (already.2 owner owned numbered) held assigned
      · rw [holdsRole_assignRole room id owner.id assigned, if_neg moved]

/-- In a room whose sets are sound a promotion keeps its promise just when it is refused or reads
the role of the account it moves. -/
theorem RolesSound.promotion_iff (sound : room.RolesSound) (target : ClientId) (role : Role)
    (context : RoomRequestContext) :
    room.PromotionContract target role context ↔
      (room.acceptsPromotion target role context = true → ∀ user, room.getUser target = some user →
        room.ReadsWhereItWrites user role) := by
  rcases promoteUser_cases room target role context with
    ⟨refused, ⟨error, failed⟩, same⟩ | ⟨accepted, passed, published, after⟩
  · rw [refused]
    refine ⟨fun _ => nofun, fun _ => ⟨fun _ _ => by rw [same], fun returned => ?_⟩⟩
    rw [failed] at returned
    cases returned
  · obtain ⟨user, found, permitted⟩ := permitted_of_accepted accepted
    have moved : Promoted room ((promoteUser target role context).after room) user role context ↔
        room.ReadsWhereItWrites user role := by
      rw [after]
      unfold promotedRoles
      rw [found, Option.bind_some]
      cases numbered : user.userId with
      | none => exact promoted_iff_of_unmoved sound permitted rfl numbered
      | some id =>
          refine promoted_iff_of_moved sound permitted rfl numbered ?_
          rintro rfl
          exact sound.numbered user (List.mem_of_find?_eq_some found) numbered
    constructor
    · intro contract _ viewer seen
      obtain ⟨other, there, promoted⟩ := contract.returned passed
      obtain rfl : user = viewer := Option.some.inj (found.symm.trans seen)
      obtain rfl : user = other := Option.some.inj (found.symm.trans there)
      exact moved.mp promoted
    · intro reads
      refine ⟨fun error failed => ?_, fun _ => ⟨user, found, moved.mpr (reads accepted user found)⟩⟩
      rw [passed] at failed
      cases failed

end Contract

end Room

namespace RoomLife

/-- What a snapshot or a row says about the role sets is what this room had at some time. -/
def EnabledRoles (life : RoomLife) : LifeLabel → Prop
  | .act label => label.action.Enabled life.state.room ∧ label.env.uuid ∉ life.state.room.rounds
  | .loadSnapshot saver _ _ _ => saver ∈ life.rooms
  | .loadRow _ _ row _ => ∃ room ∈ life.rooms, row.userRoles = room.userRoles

end RoomLife

/-- Every life of a room that is created with empty role sets. -/
def roleSystem : TransitionSystem RoomLife LifeLabel where
  Initial life := ∃ (options : RoomOptions) (now : Int), options.userRoles = none ∧
    life = ⟨⟨Room.new options now, now⟩, []⟩
  Step before label after := before.EnabledRoles label ∧ after = before.next label

namespace RoomLife

/-- In every life the role sets are sound, and were at every time. -/
theorem roles_sound {life : RoomLife} (reachable : roleSystem.Reachable life) :
    ∀ room ∈ life.rooms, room.RolesSound := by
  have invariant : TransitionSystem.Inductive roleSystem
      fun life => ∀ room ∈ life.rooms, room.RolesSound := by
    refine ⟨?_, ?_⟩
    · rintro _ ⟨options, now, plain, rfl⟩ room member
      rw [List.mem_singleton.mp member]
      exact .new fun sets given => by rw [plain] at given; cases given
    · rintro before label _ sound ⟨possible, rfl⟩
      have built : (before.next label).state.room.RolesSound := by
        cases label with
        | act label => exact (sound _ List.mem_cons_self).apply label.env label.action
        | loadSnapshot saver savedAt hash now =>
            refine .new fun sets given => ⟨saver, sound saver possible, ?_⟩
            exact Option.some.inj given
        | loadRow saver savedAt row now =>
            obtain ⟨room, member, same⟩ := possible
            have loaded : (Room.new (dbToRoomArgs row) now).RolesSound := by
              refine .new fun sets given => ⟨room, sound room member, ?_⟩
              rw [← same]
              exact Option.some.inj given
            exact ⟨loaded.present, loaded.separate, loaded.numbered⟩
      have earlier : (before.next label).past = before.rooms := by
        cases label <;> rfl
      intro room member
      rcases List.mem_cons.mp member with rfl | old
      · exact built
      · rw [earlier] at old
        exact sound room old
  exact invariant.of_reachable reachable

/-- In every life and for every request, `promoteUser` keeps its promise just when the promotion is
refused or the viewer's role is read from the account that is moved. -/
theorem promotion_kept_iff {life : RoomLife} (reachable : roleSystem.Reachable life)
    (target : ClientId) (role : Role) (context : RoomRequestContext) :
    life.state.room.PromotionContract target role context ↔
      (life.state.room.acceptsPromotion target role context = true →
        ∀ user, life.state.room.getUser target = some user →
          life.state.room.ReadsWhereItWrites user role) :=
  (roles_sound reachable _ List.mem_cons_self).promotion_iff target role context

instance (life : RoomLife) : ∀ label, Decidable (life.EnabledRoles label)
  | .act _ => inferInstanceAs (Decidable (_ ∧ _))
  | .loadSnapshot _ _ _ _ => inferInstanceAs (Decidable (_ ∈ _))
  | .loadRow _ _ row _ =>
      inferInstanceAs (Decidable (∃ room ∈ life.rooms, row.userRoles = room.userRoles))

end RoomLife

namespace Sample

/-- A guest joins and then comes back with the session of account 5; `found` says whether the
account can be looked up. -/
def logsIn (found : Bool) : List LifeLabel :=
  [.act ⟨{ now := 1, uuid := "first" },
      .request (.join { id := "viewer", username := some "guest" } false) viewer⟩,
    .act ⟨{ now := 2, uuid := "second", getUserCachedById := fun id =>
        if found then some ⟨id, "account"⟩ else none },
      .reauthenticate "viewer" "token" { id := "viewer", userId := some 5 }⟩]

/-- The room the viewer is in. -/
def loggedIn (found : Bool) : RoomLife := TransitionSystem.run RoomLife.next (logsIn found) newLife

theorem loggedIn_reachable (found : Bool) : roleSystem.Reachable (loggedIn found) := by
  refine ⟨newLife, ⟨{}, 0, rfl, rfl⟩, ?_⟩
  have possible : TransitionSystem.runs RoomLife.next RoomLife.EnabledRoles (logsIn found) newLife =
      true := by
    cases found <;> decide +kernel
  refine TransitionSystem.steps_run ?_ (logsIn found) newLife possible
  exact fun life label enabled => ⟨enabled, rfl⟩

end Sample

namespace RoomLife

/-- The account that was found can be made a moderator. -/
theorem promotion_kept_found :
    (Sample.loggedIn true).state.room.PromotionContract "viewer" .moderator { role := .owner } :=
  (promotion_kept_iff (Sample.loggedIn_reachable true) "viewer" .moderator { role := .owner }).mpr
    fun _ user found => by
      have account : (Sample.loggedIn true).state.room.getUser "viewer" =
          some ⟨"viewer", "token", some 5, "guest", some ⟨5, "account"⟩, .none⟩ := by decide +kernel
      obtain rfl := Option.some.inj (found.symm.trans account)
      exact Or.inl rfl

/-- The account that was not found is moved, and the viewer is not. -/
theorem promotion_lost :
    ¬ ∀ life : RoomLife, roleSystem.Reachable life → ∀ target role context,
      life.state.room.PromotionContract target role context := by
  intro kept
  have contract := kept (Sample.loggedIn false) (Sample.loggedIn_reachable false) "viewer"
    .moderator { role := .owner }
  have returned : (Room.promoteUser "viewer" .moderator { role := .owner }).outcome
      (Sample.loggedIn false).state.room = .ok () := by decide +kernel
  have unmoved : ((Sample.loggedIn false).state.room.getUser "viewer").map
      ((Room.promoteUser "viewer" .moderator { role := .owner }).after
        (Sample.loggedIn false).state.room).getRole = some .registeredUser := by decide +kernel
  obtain ⟨user, found, promoted⟩ := contract.returned returned
  rw [found, Option.map_some, promoted.promoted] at unmoved
  cases unmoved

end RoomLife

end OpenTogetherTube
