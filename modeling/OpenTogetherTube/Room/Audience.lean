import OpenTogetherTube.Common.Models
import OpenTogetherTube.Common.Permissions

/-!
# The people in a room

Embeds `RoomUser` of `server/room.ts` and the part of `Room` that decides who holds
which role: the connected viewers, the owner, the role sets and the grants.
-/

namespace OpenTogetherTube

open Lib

/-- `ClientInfo`. Diagnostics are only logged and left out. -/
structure ClientInfo where
  id : ClientId
  userId : Option Nat := none
  username : Option String := none
  status : Option PlayerStatus := none
deriving DecidableEq

structure RoomUser where
  id : ClientId
  token : AuthToken
  userId : Option Nat := none
  unregisteredUsername : String := ""
  user : Option User := none
  playerStatus : PlayerStatus := .none
deriving DecidableEq

structure RoomUserInfo where
  id : ClientId
  name : String
  isLoggedIn : Bool
  status : PlayerStatus
  role : Role
deriving DecidableEq

/-- A user id counts as present when it is truthy. -/
def presentId (userId : Option Nat) : Bool :=
  userId.any fun id => decide (id ≠ 0)

namespace RoomUser

def isLoggedIn (user : RoomUser) : Bool := presentId user.userId

def username (user : RoomUser) : String :=
  match user.isLoggedIn, user.user with
  | true, some account => account.username
  | _, _ => user.unregisteredUsername

/-- `updateInfo` up to the cached lookup: what is written before it can fail. -/
def updateUserId (info : ClientInfo) (user : RoomUser) : RoomUser :=
  if presentId info.userId then { user with userId := info.userId }
  else if info.username.any (· ≠ "") then
    { user with
      unregisteredUsername := info.username.getD ""
      userId := none
      user := none }
  else user

/-- `updateInfo`; `none` when the cached lookup of the account throws. -/
def updateInfo (getUserCachedById : Nat → Option User) (info : ClientInfo)
    (user : RoomUser) : Option RoomUser :=
  let user := user.updateUserId info
  let looked : Option RoomUser :=
    if presentId info.userId then
      (getUserCachedById (info.userId.getD 0)).map fun account => { user with user := some account }
    else some user
  looked.map fun user =>
    match info.status with
    | some status => { user with playerStatus := status }
    | none => user

end RoomUser

/-- The connected viewers and what their roles depend on. -/
structure Audience where
  realusers : List RoomUser := []
  owner : Option User := none
  grants : Grants := Grants.defaultPermissions
  userRoles : OrderedMap Role (List Nat) :=
    [(.trustedUser, []), (.moderator, []), (.administrator, [])]
deriving DecidableEq

namespace Audience

def isOwner (room : Audience) (user : RoomUser) : Bool :=
  match user.user, room.owner with
  | some account, some owner => decide (account.id = owner.id)
  | _, _ => false

/-- `this.userRoles.get(role)?.has(id)`. -/
def holdsRole (room : Audience) (role : Role) (id : Nat) : Bool :=
  (room.userRoles.get role).any fun ids => decide (id ∈ ids)

/-- The loop over the assigned roles, highest first. -/
def assignedRole (room : Audience) (id : Nat) : Option Role :=
  [Role.administrator, .moderator, .trustedUser].find? fun role => room.holdsRole role id

def getRole (room : Audience) (user : RoomUser) : Role :=
  if room.isOwner user then .owner
  else
    match user.user.bind fun account => room.assignedRole account.id with
    | some role => role
    | none => if user.isLoggedIn then .registeredUser else .unregisteredUser

/-- `getRoleFromSession`, for a session with the given user id. -/
def getRoleFromSession (room : Audience) (userId : Option Nat) : Role :=
  match userId with
  | none => .unregisteredUser
  | some id =>
      if room.owner.any fun owner => decide (owner.id = id) then .owner
      else (room.assignedRole id).getD .registeredUser

def getUser (room : Audience) (client : ClientId) : Option RoomUser :=
  room.realusers.find? fun user => decide (user.id = client)

/-- One entry of `users`. -/
def userInfo (room : Audience) (user : RoomUser) : RoomUserInfo :=
  ⟨user.id, user.username, user.isLoggedIn, user.playerStatus, room.getRole user⟩

/-- `getUserInfo`; `none` where it throws. -/
def getUserInfo (room : Audience) (client : ClientId) : Option RoomUserInfo :=
  (room.getUser client).map room.userInfo

/-- `this.grants.granted(this.getRole(user), permission)`. -/
def userGranted (room : Audience) (permission : Permission) (user : RoomUser) : Bool :=
  room.grants.granted (room.getRole user) permission

def eligiblePreparers (room : Audience) : List RoomUser :=
  room.realusers.filter (room.userGranted .playPause)

/-- Whether the viewer behind an id is present and holds the permission. -/
def clientGranted (room : Audience) (permission : Permission) (client : ClientId) : Bool :=
  (room.getUser client).any (room.userGranted permission)

def playbackEligibleIds (room : Audience) (preparation : PlaybackPreparation) : List ClientId :=
  preparation.eligibleIds.filter (room.clientGranted .playPause)

def sessionInRoom (room : Audience) (token : AuthToken) (exceptFor : Option ClientId) : Bool :=
  room.realusers.any fun user => decide (user.token = token) && decide (some user.id ≠ exceptFor)

end Audience

end OpenTogetherTube
