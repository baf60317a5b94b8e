import Mathlib.Algebra.Group.Nat.Defs
import OpenTogetherTube.Lib.OrderedMap

/-!
# Roles, permissions and grants

Embeds `common/permissions.ts`. A `Grants` value maps roles to bit masks; writing one
role's mask clips it to what the role may ever hold and then lets every higher role
inherit it. The owner is outside the inheritance chain.
-/

namespace OpenTogetherTube

open Lib

/-- `Role`, with the numeric values of the source enum in `Role.rank`. -/
inductive Role where
  | unregisteredUser
  | registeredUser
  | trustedUser
  | moderator
  | administrator
  | owner
deriving DecidableEq

namespace Role

/-- The enum's number; the owner sorts below everyone. -/
def rank : Role → Int
  | .unregisteredUser => 0
  | .registeredUser => 1
  | .trustedUser => 2
  | .moderator => 3
  | .administrator => 4
  | .owner => -1

/-- Roles `UnregisteredUser` to `Administrator`, the inheritance chain. -/
def chain : List Role :=
  [.unregisteredUser, .registeredUser, .trustedUser, .moderator, .administrator]

end Role

/-- `PERMISSIONS`, one constructor an entry, in the order of their mask bits. -/
inductive Permission where
  | playPause
  | skip
  | seek
  | queueAdd
  | queueRemove
  | queueOrder
  | queueVote
  | chat
  | setTitle
  | setDescription
  | setVisibility
  | setQueueMode
  | setPermissionsModerator
  | setPermissionsTrusted
  | setPermissionsRegistered
  | setPermissionsUnregistered
  | promoteAdmin
  | demoteAdmin
  | promoteModerator
  | demoteModerator
  | promoteTrusted
  | demoteTrusted
  | configureOther
  | speed
  | kick
  | queuePlayNow
  | queueEdit
  | setNotes
  | setDanmakuSource
deriving DecidableEq

namespace Permission

/-- The permission names of the source. -/
def name : Permission → String
  | .playPause => "playback.play-pause"
  | .skip => "playback.skip"
  | .seek => "playback.seek"
  | .queueAdd => "manage-queue.add"
  | .queueRemove => "manage-queue.remove"
  | .queueOrder => "manage-queue.order"
  | .queueVote => "manage-queue.vote"
  | .chat => "chat"
  | .setTitle => "configure-room.set-title"
  | .setDescription => "configure-room.set-description"
  | .setVisibility => "configure-room.set-visibility"
  | .setQueueMode => "configure-room.set-queue-mode"
  | .setPermissionsModerator => "configure-room.set-permissions.for-moderator"
  | .setPermissionsTrusted => "configure-room.set-permissions.for-trusted-users"
  | .setPermissionsRegistered => "configure-room.set-permissions.for-all-registered-users"
  | .setPermissionsUnregistered => "configure-room.set-permissions.for-all-unregistered-users"
  | .promoteAdmin => "manage-users.promote-admin"
  | .demoteAdmin => "manage-users.demote-admin"
  | .promoteModerator => "manage-users.promote-moderator"
  | .demoteModerator => "manage-users.demote-moderator"
  | .promoteTrusted => "manage-users.promote-trusted-user"
  | .demoteTrusted => "manage-users.demote-trusted-user"
  | .configureOther => "configure-room.other"
  | .speed => "playback.speed"
  | .kick => "manage-users.kick"
  | .queuePlayNow => "manage-queue.play-now"
  | .queueEdit => "manage-queue.edit"
  | .setNotes => "configure-room.set-notes"
  | .setDanmakuSource => "configure-room.set-danmaku-source"

/-- The position of the permission's bit. -/
def bit : Permission → Nat
  | .playPause => 0
  | .skip => 1
  | .seek => 2
  | .queueAdd => 3
  | .queueRemove => 4
  | .queueOrder => 5
  | .queueVote => 6
  | .chat => 7
  | .setTitle => 8
  | .setDescription => 9
  | .setVisibility => 10
  | .setQueueMode => 11
  | .setPermissionsModerator => 12
  | .setPermissionsTrusted => 13
  | .setPermissionsRegistered => 14
  | .setPermissionsUnregistered => 15
  | .promoteAdmin => 16
  | .demoteAdmin => 17
  | .promoteModerator => 18
  | .demoteModerator => 19
  | .promoteTrusted => 20
  | .demoteTrusted => 21
  | .configureOther => 22
  | .speed => 23
  | .kick => 24
  | .queuePlayNow => 25
  | .queueEdit => 26
  | .setNotes => 27
  | .setDanmakuSource => 28

/-- The permission's mask. -/
def mask (permission : Permission) : Nat := 2 ^ permission.bit

/-- The lowest role that may be granted the permission. -/
def minRole : Permission → Role
  | .queueRemove | .setTitle | .setDescription | .setVisibility | .setQueueMode
  | .setPermissionsUnregistered | .configureOther => .registeredUser
  | .setPermissionsRegistered | .promoteTrusted | .demoteTrusted | .kick => .trustedUser
  | .setPermissionsTrusted | .promoteModerator | .demoteModerator => .moderator
  | .setPermissionsModerator | .promoteAdmin | .demoteAdmin => .administrator
  | _ => .unregisteredUser

/-- `PERMISSIONS`. -/
def all : List Permission :=
  [.playPause, .skip, .seek, .queueAdd, .queueRemove, .queueOrder, .queueVote, .chat,
    .setTitle, .setDescription, .setVisibility, .setQueueMode, .setPermissionsModerator,
    .setPermissionsTrusted, .setPermissionsRegistered, .setPermissionsUnregistered,
    .promoteAdmin, .demoteAdmin, .promoteModerator, .demoteModerator, .promoteTrusted,
    .demoteTrusted, .configureOther, .speed, .kick, .queuePlayNow, .queueEdit, .setNotes,
    .setDanmakuSource]

end Permission

/-- The union of the masks of a list of permissions. -/
def maskOf (permissions : List Permission) : Nat :=
  permissions.foldl (fun full permission => full ||| permission.mask) 0

/-- `parseIntoGrantMask`: each text selects every permission whose name starts with it,
and `*` selects all. -/
def parseIntoGrantMask (texts : List String) : Nat :=
  maskOf (texts.flatMap fun text =>
    Permission.all.filter fun permission => permission.name.startsWith text || text == "*")

/-- `getValidationMask`: what a role may hold at all. No permission has a minimum role
at or below the owner's number, so the owner's mask is the full one. -/
def getValidationMask (role : Role) : Nat :=
  let allowed := Permission.all.filter fun permission => role.rank ≥ permission.minRole.rank
  if allowed.isEmpty then maskOf Permission.all else maskOf allowed

/-- `Grants`: role masks in insertion order. -/
structure Grants where
  masks : OrderedMap Role Nat := []
deriving DecidableEq

namespace Grants

/-- `getMask`; an absent role behaves as zero in every bit operation. -/
def getMask (grants : Grants) (role : Role) : Nat :=
  (grants.masks.get role).getD 0

/-- `_processInheiritance`: each role of the chain takes the union so far. -/
def processInheiritance (grants : Grants) : Grants :=
  ⟨(Role.chain.foldl
    (fun (progress : OrderedMap Role Nat × Nat) role =>
      let fullmask := progress.2 ||| (progress.1.get role).getD 0
      (progress.1.set role fullmask, fullmask))
    (grants.masks, 0)).1⟩

def setRoleGrants (grants : Grants) (role : Role) (mask : Nat) : Grants :=
  processInheiritance ⟨grants.masks.set role (mask &&& getValidationMask role)⟩

/-- `setAllGrants`: start empty and write every nonzero mask in order. -/
def setAllGrants (entries : OrderedMap Role Nat) : Grants :=
  entries.foldl
    (fun grants entry => if entry.2 = 0 then grants else grants.setRoleGrants entry.1 entry.2)
    ⟨[]⟩

/-- The `Grants` constructor on given masks: administrator and owner always hold all. -/
def ofMasks (entries : OrderedMap Role Nat) : Grants :=
  ((setAllGrants entries).setRoleGrants .administrator (maskOf Permission.all)).setRoleGrants
    .owner (maskOf Permission.all)

/-- The masks `defaultPermissions` lists, before the constructor processes them. -/
def defaultMasks : OrderedMap Role Nat :=
  [(.unregisteredUser, maskOf [.playPause, .skip, .seek, .speed, .queueAdd, .queueOrder,
      .queueVote, .queuePlayNow, .queueEdit, .chat, .setNotes, .setDanmakuSource]),
    (.registeredUser, maskOf [.queueRemove, .setTitle, .setDescription, .setVisibility,
      .setQueueMode, .configureOther]),
    (.trustedUser, 0),
    (.moderator, maskOf [.promoteTrusted, .demoteTrusted, .kick]),
    (.administrator, maskOf Permission.all),
    (.owner, maskOf Permission.all)]

def defaultPermissions : Grants := ofMasks defaultMasks

/-- `granted`: all bits of the permission are in the role's mask. -/
def granted (grants : Grants) (role : Role) (permission : Permission) : Bool :=
  decide (grants.getMask role &&& permission.mask = permission.mask)

def getRoles (grants : Grants) : List Role := grants.masks.keys

def deleteRole (grants : Grants) (role : Role) : Grants := ⟨grants.masks.delete role⟩

def isEmpty (grants : Grants) : Bool := grants.masks.isEmpty

end Grants

def ROOM_PERMISSIONS_REVISION : Nat := 1

/-- `PERMISSION_ADDITIONS`: the permissions each revision introduced. -/
def permissionAdditions : Nat → List Permission
  | 1 => [.setDanmakuSource]
  | _ => []

/-- `applyPermissionAdditions`: one step of the loop for each missed revision. -/
def applyPermissionAdditions (grants : Grants) (fromRevision : Nat) : Grants :=
  (List.range' (fromRevision + 1) (ROOM_PERMISSIONS_REVISION - fromRevision)).foldl
    (fun grants revision =>
      let added := permissionAdditions revision
      if added.isEmpty then grants
      else grants.setRoleGrants .unregisteredUser
        (grants.getMask .unregisteredUser ||| maskOf added))
    grants

end OpenTogetherTube
