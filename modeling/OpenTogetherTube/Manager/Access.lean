import OpenTogetherTube.Room.State

/-!
# Access to a locked room

Embeds `hasRoomAccess` of `server/room-password.ts`. The digest of the stored hash and the
Redis keys of granted access are parameters.
-/

namespace OpenTogetherTube

open Lib

inductive SessionInfo where
  | guest (username : String)
  | account (userId : Nat)
deriving DecidableEq

/-- What the check asks of outside: the sixteen digits of a digest that version the grant
keys, and the keys Redis has. -/
structure AccessStore where
  version : String → String
  exists_ : String → Bool

namespace Room

def grantKey (store : AccessStore) (token : AuthToken) (room : Room) : String :=
  "room-password:" ++ room.name ++ ":" ++ store.version (room.passwordHash.getD "") ++ ":" ++ token

/-- The grant of the token, if there is one; an empty token is none. -/
def hasGrant (store : AccessStore) (token : Option AuthToken) (room : Room) : Bool :=
  match token with
  | none => false
  | some token => decide (token ≠ "") && store.exists_ (room.grantKey store token)

def hasRoomAccess (store : AccessStore) (token : Option AuthToken) (session : Option SessionInfo)
    (room : Room) : Bool :=
  if !room.hasPassword then true
  else
    match session, room.owner.map User.id with
    | some (.account userId), some owner => decide (owner = userId) || room.hasGrant store token
    | _, _ => room.hasGrant store token

theorem hasRoomAccess_congr {before after : Room} (name : after.name = before.name)
    (password : after.passwordHash = before.passwordHash)
    (owner : after.owner.map User.id = before.owner.map User.id) (store : AccessStore)
    (token : Option AuthToken) (session : Option SessionInfo) :
    after.hasRoomAccess store token session = before.hasRoomAccess store token session := by
  have granted : after.hasGrant store token = before.hasGrant store token := by
    unfold hasGrant grantKey
    rw [name, password]
  unfold hasRoomAccess hasPassword
  rw [password, owner, granted]

end Room

end OpenTogetherTube
