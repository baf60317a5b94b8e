import OpenTogetherTube.Lib.Table
import OpenTogetherTube.Manager.Access
import OpenTogetherTube.Room.System

/-!
# The room manager and its stores

Embeds `server/roommanager.ts`, the part of `server/storage/room.ts` it reads and
`setRoomPassword`. A room is in up to three stores: the loaded rooms and the database rows,
both found by the name in lower case, and the Redis snapshots, found by the exact name. A
password change writes the database and the room in two steps, and an unload first lets the
room save; other steps may come in between. Every other operation runs without interruption.
Names match `ROOM_NAME_REGEX`, so that `toLower`, which knows ASCII only, is `toLowerCase`.
-/

namespace OpenTogetherTube

open Lib

/-- The columns of a saved room. The owner is joined in. -/
structure DbRoom where
  name : String
  title : String
  description : String
  visibility : Visibility
  queueMode : QueueMode
  owner : Option User
  permissions : OrderedMap Role Nat
  userRoles : OrderedMap Role (List Nat)
  autoSkipSegmentCategories : List Category
  prevQueue : Option (List QueueItem)
  restoreQueueBehavior : BehaviorOption
  enableVoteSkip : Bool
  bufferGateMode : BufferGateMode
  danmakuSource : Option RoomDanmakuSource
  permissionsRevision : Option Nat
  passwordHash : Option String := none
deriving DecidableEq

def dbToRoomArgs (row : DbRoom) : RoomOptions where
  name := some row.name
  title := some row.title
  description := some row.description
  isTemporary := some false
  visibility := some row.visibility
  queueMode := some row.queueMode
  owner := some row.owner
  grants := some (Grants.ofMasks row.permissions)
  userRoles := some row.userRoles
  autoSkipSegmentCategories := some row.autoSkipSegmentCategories
  prevQueue := some row.prevQueue
  restoreQueueBehavior := some row.restoreQueueBehavior
  enableVoteSkip := some row.enableVoteSkip
  bufferGateMode := some row.bufferGateMode
  danmakuSource := some row.danmakuSource
  passwordHash := some row.passwordHash
  permissionsRevision := row.permissionsRevision

/-- `roomToDb`, which writes no password. -/
def roomToDb (room : Room) : DbRoom where
  name := room.name
  title := room.title
  description := room.description
  visibility := room.visibility
  queueMode := room.queueMode
  owner := room.owner
  permissions := ((room.grants.deleteRole .administrator).deleteRole .owner).masks
  userRoles := room.userRoles
  autoSkipSegmentCategories := room.autoSkipSegmentCategories
  prevQueue := room.prevQueue
  restoreQueueBehavior := room.restoreQueueBehavior
  enableVoteSkip := room.enableVoteSkip
  bufferGateMode := room.bufferGateMode
  danmakuSource := room.danmakuSource
  permissionsRevision := some room.permissionsRevision

/-- `redisStateToState`; a permanent room comes back paused. -/
def redisStateToState (state : StoredState) : RoomOptions where
  name := some state.name
  title := some state.title
  description := some state.description
  isTemporary := some state.isTemporary
  visibility := some state.visibility
  queueMode := some state.queueMode
  currentSource := some state.currentSource
  queue := some state.queue
  isPlaying := some (state.isTemporary && state.isPlaying)
  playbackPosition := some state.playbackPosition
  playbackSpeed := some state.playbackSpeed
  resumeOnNextJoin := state.resumeOnNextJoin
  grants := some (Grants.ofMasks state.grants.masks)
  userRoles := some state.userRoles
  owner := some (state.owner.map fun id => ⟨id, ""⟩)
  playbackStart := state.playbackStart
  autoSkipSegmentCategories := some state.autoSkipSegmentCategories
  prevQueue := some state.prevQueue
  restoreQueueBehavior := some state.restoreQueueBehavior
  enableVoteSkip := some state.enableVoteSkip
  bufferGateMode := some state.bufferGateMode
  danmakuSource := some state.danmakuSource
  permissionsRevision := some state.permissionsRevision

/-- A loaded `Room` object. Its load epoch tells it from another one of the same name. -/
structure LoadedRoom where
  room : Room
  epoch : Nat
deriving DecidableEq

/-- A `setRoomPassword` that has the hash and has written the database, if it has to. -/
structure PasswordChange where
  key : String
  epoch : Nat
  hash : Option String
deriving DecidableEq

inductive UnloadReason where
  | commanded
  | keepalive
  | shutdown
  | admin
deriving DecidableEq

/-- `preserveRedis`, as the callers set it. -/
def UnloadReason.preservesRedis : UnloadReason → Bool
  | .commanded | .shutdown => true
  | .keepalive | .admin => false

/-- The three stores and the password changes in progress. -/
structure ManagerState where
  /-- `rooms`, by name in lower case. -/
  rooms : Table String LoadedRoom := ∅
  /-- The snapshots, by the name in `room:name`. -/
  redis : Table String StoredState := ∅
  /-- The rows, by name in lower case. -/
  storage : Table String DbRoom := ∅
  changes : List PasswordChange := []
  nextEpoch : Nat := 0
  /-- History: the rooms that were dropped with their snapshot kept, as they were. -/
  unloaded : Table String LoadedRoom := ∅
deriving DecidableEq

namespace ManagerState

def getRoomPasswordHash (key : String) (state : ManagerState) : Option String :=
  (state.storage.lookup key).bind DbRoom.passwordHash

def addRoom (room : Room) (state : ManagerState) : ManagerState :=
  { state with
    rooms := state.rooms.insert room.name.toLower ⟨room, state.nextEpoch⟩
    nextEpoch := state.nextEpoch + 1
    unloaded := state.unloaded.erase room.name.toLower }

/-- A loaded room acts; what it saves goes to its Redis key. -/
def act (key : String) (label : RoomLabel) (state : ManagerState) : ManagerState :=
  match state.rooms.lookup key with
  | none => state
  | some loaded =>
      let room := label.action.apply label.env { loaded.room with saved := none }
      { state with
        rooms := state.rooms.insert key { loaded with room }
        redis :=
          match room.saved with
          | some stored => state.redis.insert room.name stored
          | none => state.redis }

/-- `createRoom`. The name must be free in all three stores; the hash is that of the
password the room is created with. -/
def createRoom (env : Env) (name : String) (options : RoomOptions) (hash : Option String)
    (state : ManagerState) : ManagerState :=
  if name.toLower ∈ state.rooms ∨ name ∈ state.redis ∨ name.toLower ∈ state.storage then state
  else
    let created := Room.new { options with name := some name, passwordHash := none } env.now
    let room := if hash.isSome then created.setPasswordHash hash else created
    let state :=
      if room.isTemporary then state
      else { state with
        storage := state.storage.insert name.toLower
          { roomToDb created with passwordHash := hash } }
    let started : RoomM Unit := do
      Room.update env
      Room.sync env
    match started.outcome room with
    | .ok _ => state.addRoom (started.after room)
    | .error _ => state

/-- The first part of `setRoomPassword`, on the room object that had the given epoch: a
permanent room's row is written first, and the call fails without one. -/
def storePassword (key : String) (epoch : Nat) (isTemporary : Bool) (hash : Option String)
    (state : ManagerState) : ManagerState :=
  if isTemporary then { state with changes := ⟨key, epoch, hash⟩ :: state.changes }
  else
    match state.storage.lookup key with
    | none => state
    | some row =>
        { state with
          storage := state.storage.insert key { row with passwordHash := hash }
          changes := ⟨key, epoch, hash⟩ :: state.changes }

/-- The second part of `setRoomPassword`. Nobody sees a write to a dropped object. -/
def finishPassword (index : Nat) (state : ManagerState) : ManagerState :=
  match state.changes[index]? with
  | none => state
  | some change =>
      let state := { state with changes := state.changes.eraseIdx index }
      match state.rooms.lookup change.key with
      | none => state
      | some loaded =>
          if loaded.epoch = change.epoch then
            { state with
              rooms := state.rooms.insert change.key
                { loaded with room := loaded.room.setPasswordHash change.hash } }
          else state

/-- `storage.updateRoom`, whatever it writes: it has no password column and no name. -/
def updateRoom (key : String) (written : DbRoom) (state : ManagerState) : ManagerState :=
  match state.storage.lookup key with
  | none => state
  | some row =>
      { state with
        storage := state.storage.insert key
          { written with name := row.name, passwordHash := row.passwordHash } }

/-- `unloadRoom` once `onBeforeUnload` has returned, or at once for a commanded unload. -/
def unloadRoom (key : String) (reason : UnloadReason) (state : ManagerState) : ManagerState :=
  match state.rooms.lookup key with
  | none => state
  | some loaded =>
      if reason.preservesRedis then
        { state with
          rooms := state.rooms.erase key
          unloaded := state.unloaded.insert key loaded }
      else
        { state with
          rooms := state.rooms.erase key
          redis := state.redis.erase loaded.room.name
          unloaded := state.unloaded.erase key }

/-- The process dies: the stores outlive it. -/
def crash (state : ManagerState) : ManagerState :=
  { state with rooms := ∅, changes := [], unloaded := state.rooms ∪ state.unloaded }

/-- The room `getRoom` builds when none is loaded. A lookup of the password that fails lets
the whole load fail; a lookup of the row that fails finds no room. -/
def buildRoom (requested : String) (storageAnswers : Bool) (now : Int) (state : ManagerState) :
    Option Room :=
  match state.redis.lookup requested with
  | some stored =>
      let options := redisStateToState stored
      if stored.isTemporary then some (Room.new options now)
      else if storageAnswers then
        some (Room.new
          { options with passwordHash := some (state.getRoomPasswordHash stored.name.toLower) } now)
      else none
  | none =>
      if storageAnswers then
        (state.storage.lookup requested.toLower).map fun row =>
          (Room.new (dbToRoomArgs row) now).restoreFromStorage
      else none

def getRoom (requested : String) (storageAnswers : Bool) (now : Int) (state : ManagerState) :
    ManagerState :=
  if requested.toLower ∈ state.rooms then state
  else
    match state.buildRoom requested storageAnswers now with
    | some room => state.addRoom room
    | none => state

end ManagerState

/-- What happens to the stores. -/
inductive ManagerLabel where
  | createRoom (env : Env) (name : String) (options : RoomOptions) (hash : Option String)
  | act (key : String) (label : RoomLabel)
  | storePassword (key : String) (epoch : Nat) (isTemporary : Bool) (hash : Option String)
  | finishPassword (index : Nat)
  | updateRoom (key : String) (written : DbRoom)
  | deleteRoom (key : String)
  | unloadRoom (key : String) (reason : UnloadReason)
  | crash
  | expire (name : String)
  | getRoom (requested : String) (storageAnswers : Bool) (now : Int)

/-- The action of `setRoomPassword` on the room. -/
def RoomAction.setsPassword : RoomAction → Bool
  | .setPasswordHash _ => true
  | _ => false

namespace ManagerState

/-- A loaded room acts as it does by itself; its password is set by `setRoomPassword`. A
password call has had its room from `getRoom` or `createRoom` and knows its kind. -/
def Enabled (state : ManagerState) : ManagerLabel → Prop
  | .act key label =>
      ∃ loaded ∈ state.rooms.lookup key,
        label.action.Enabled loaded.room ∧ label.env.uuid ∉ loaded.room.rounds ∧
          label.action.setsPassword = false
  | .storePassword key epoch isTemporary _ =>
      epoch < state.nextEpoch ∧ ∀ loaded ∈ state.rooms.lookup key,
        loaded.epoch = epoch → loaded.room.isTemporary = isTemporary
  | _ => True

instance (state : ManagerState) : ∀ label, Decidable (state.Enabled label)
  | .act _ _ => inferInstanceAs (Decidable (∃ loaded ∈ _, _))
  | .storePassword _ _ _ _ => inferInstanceAs (Decidable (_ ∧ _))
  | .createRoom _ _ _ _ => .isTrue trivial
  | .finishPassword _ => .isTrue trivial
  | .updateRoom _ _ => .isTrue trivial
  | .deleteRoom _ => .isTrue trivial
  | .unloadRoom _ _ => .isTrue trivial
  | .crash => .isTrue trivial
  | .expire _ => .isTrue trivial
  | .getRoom _ _ _ => .isTrue trivial

/-- The stores after a step. -/
def next (label : ManagerLabel) (state : ManagerState) : ManagerState :=
  match label with
  | .createRoom env name options hash => state.createRoom env name options hash
  | .act key label => state.act key label
  | .storePassword key epoch isTemporary hash => state.storePassword key epoch isTemporary hash
  | .finishPassword index => state.finishPassword index
  | .updateRoom key written => state.updateRoom key written
  | .deleteRoom key => { state with storage := state.storage.erase key }
  | .unloadRoom key reason => state.unloadRoom key reason
  | .crash => state.crash
  | .expire name => { state with
      redis := state.redis.erase name
      unloaded := state.unloaded.retain fun loaded => decide (loaded.room.name ≠ name) }
  | .getRoom requested storageAnswers now => state.getRoom requested storageAnswers now

end ManagerState

/-- Every run of a room manager, from empty stores. -/
def managerSystem : TransitionSystem ManagerState ManagerLabel where
  Initial state := state = {}
  Step before label after := before.Enabled label ∧ after = before.next label

namespace ManagerState

/-- The stores after a sequence of labels. -/
def run (labels : List ManagerLabel) : ManagerState :=
  TransitionSystem.run next labels {}

/-- A sequence of labels that can be taken, each meeting the condition, is a run. -/
theorem run_reachable (condition : ManagerState → ManagerLabel → Prop)
    [∀ state label, Decidable (condition state label)] (labels : List ManagerLabel)
    (possible : TransitionSystem.runs next
      (fun state label => state.Enabled label ∧ condition state label) labels {} = true) :
    (managerSystem.restrict condition).Reachable (run labels) := by
  have step : ∀ state label, state.Enabled label ∧ condition state label →
      (managerSystem.restrict condition).Step state label (state.next label) :=
    fun _ _ taken => ⟨taken.2, taken.1, rfl⟩
  exact ⟨{}, rfl, TransitionSystem.steps_run step labels _ possible⟩

end ManagerState

end OpenTogetherTube
