import OpenTogetherTube.Lib.Transition
import OpenTogetherTube.Room.Requests

/-!
# Rooms as a transition system

The `Room` constructor, the events a room reacts to and the system they make. Handlers
run one at a time and in any order; the time and every answer from outside are chosen
anew at each step. The only thing a step relies on is that `randomUUID` answers with an
identifier the room has not used.
-/

namespace OpenTogetherTube

open Lib

/-- What the `Room` constructor reads: the options of a new room, of a database row or
of a Redis snapshot. `none` is an absent key. -/
structure RoomOptions where
  name : Option String := none
  title : Option String := none
  description : Option String := none
  visibility : Option Visibility := none
  queueMode : Option QueueMode := none
  isTemporary : Option Bool := none
  owner : Option (Option User) := none
  currentSource : Option (Option QueueItem) := none
  queue : Option (List QueueItem) := none
  playbackPosition : Option Number := none
  isPlaying : Option Bool := none
  playbackSpeed : Option ℚ := none
  autoSkipSegmentCategories : Option (List Category) := none
  prevQueue : Option (Option (List QueueItem)) := none
  restoreQueueBehavior : Option BehaviorOption := none
  enableVoteSkip : Option Bool := none
  bufferGateMode : Option BufferGateMode := none
  danmakuSource : Option (Option RoomDanmakuSource) := none
  passwordHash : Option (Option String) := none
  resumeOnNextJoin : Bool := false
  grants : Option Grants := none
  permissionsRevision : Option Nat := none
  userRoles : Option (OrderedMap Role (List Nat)) := none
  playbackStart : Option Int := none
deriving DecidableEq

namespace Room

/-- `Object.assign` of the picked options, through the setters and in the order of the
list. -/
def assignOptions (options : RoomOptions) (now : Int) (room : Room) : Room :=
  let room := room.applySetting options.name fun value room =>
    { room with name := value }.markDirty .name
  let room := room.applySetting options.title fun value room =>
    { room with title := value }.markDirty .title
  let room := room.applySetting options.description fun value room =>
    { room with description := value }.markDirty .description
  let room := room.applySetting options.visibility fun value room =>
    { room with visibility := value }.markDirty .visibility
  let room := room.applySetting options.queueMode fun value room =>
    { room with queueMode := value }.markDirty .queueMode
  let room := room.applySetting options.isTemporary fun value room =>
    { room with isTemporary := value }
  let room := room.applySetting options.owner assignOwner
  let room := room.applySetting options.currentSource fun value room =>
    room.onPlayback (Playback.assignCurrentSource value now)
  let room := room.applySetting options.queue fun value room => { room with queue := value }
  let room := room.applySetting options.playbackPosition fun value room =>
    room.onPlayback (Playback.assignPlaybackPosition value)
  let room := room.applySetting options.isPlaying fun value room =>
    room.onPlayback (Playback.assignIsPlaying value now)
  let room := room.applySetting options.playbackSpeed fun value room =>
    room.onPlayback (Playback.assignPlaybackSpeed value)
  let room := room.applySetting options.autoSkipSegmentCategories fun value room =>
    { room with autoSkipSegmentCategories := value }.markDirty .autoSkipSegmentCategories
  let room := room.applySetting options.prevQueue assignPrevQueue
  let room := room.applySetting options.restoreQueueBehavior fun value room =>
    { room with restoreQueueBehavior := value }
  let room := room.applySetting options.enableVoteSkip fun value room =>
    { room with enableVoteSkip := value }.markDirty .enableVoteSkip
  let room := room.applySetting options.bufferGateMode fun value room =>
    { room with bufferGateMode := value }.markDirty .bufferGateMode
  let room := room.applySetting options.danmakuSource fun value room =>
    { room with danmakuSource := value }.markDirty .danmakuSource
  room.applySetting options.passwordHash fun value room => { room with passwordHash := value }

/-- The saved queue comes back into an idle room. -/
def reloadPrevQueue (room : Room) : Room :=
  match room.prevQueue with
  | some items =>
      if room.currentSource.isNone && room.queue.isEmpty &&
          decide (room.restoreQueueBehavior = .always) then
        { ({ room with queue := room.queue ++ items }.markDirty .queue).assignPrevQueue none with
          restoredFromStorage := true }
      else room
  | none => room

/-- The grants of a new room, with the permissions its revision has not seen. -/
def assignGrants (options : RoomOptions) (room : Room) : Room :=
  let revision := options.permissionsRevision.getD 0
  let grants := options.grants.getD room.grants
  if revision < ROOM_PERMISSIONS_REVISION then
    { room with
      grants := applyPermissionAdditions grants revision
      permissionsRevision := ROOM_PERMISSIONS_REVISION }
  else { room with grants, permissionsRevision := revision }

/-- The `Room` constructor. -/
def new (options : RoomOptions) (now : Int) : Room :=
  let room := ({ keepAlivePing := now } : Room).assignOwner none
  let room := room.assignOptions options now
  let room := { room with resumeOnNextJoin := options.resumeOnNextJoin }
  let room := if room.restoreQueueBehavior = .never then room.assignPrevQueue none else room
  let room := room.reloadPrevQueue
  let room := room.assignGrants options
  let room := { room with userRoles := options.userRoles.getD room.userRoles }
  { room with playbackStart := options.playbackStart.or room.playbackStart }

def restoreFromStorage (room : Room) : Room := { room with restoredFromStorage := true }

/-- `onBeforeUnload` up to its final checkpoint. -/
def stopForUnload (now : Int) (room : Room) : Room :=
  let room := room.onPlayback fun p =>
    (p.clearPlaybackStartTimer).endTemporaryPlaybackSpeed true now
  let room := { room with pendingLeaveEvents := [] }
  if room.isTemporary then room
  else (room.onPlayback (Playback.pausePlaybackClock now)).markDirty .currentSource

def onBeforeUnload (env : Env) : RoomM Unit := do
  modify (stopForUnload env.now)
  modify fun room => { room with syncPending := false }
  sync env
  modify (flushSave env)

def setGrants (grants : Grants) (now : Int) (room : Room) : Room :=
  ({ room with grants := Grants.setAllGrants grants.masks }.markDirty .grants).evaluateBufferGate now

/-- The leave event's timer: it is announced unless the session came back. -/
def fireLeaveTimer (token : AuthToken) (room : Room) : Room :=
  match room.pendingLeaveEvents.get token with
  | none => room
  | some pending =>
      let room := { room with pendingLeaveEvents := room.pendingLeaveEvents.delete token }
      if room.sessionInRoom token none then room
      else room.publishRoomEvent .leave pending.context { user := some pending.user }
        (some pending.user)

/-- The in-place identity change of a re-authenticated connection (`onClientReauth`). An
account that cannot be looked up leaves the old one. -/
def reauthenticate (clientId : ClientId) (token : AuthToken) (info : ClientInfo) (env : Env)
    (room : Room) : Room :=
  match room.getUser clientId with
  | none => room
  | some user =>
      let user := { user with token }
      let updated := (user.updateInfo env.getUserCachedById info).getD (user.updateUserId info)
      let room := room.replaceUser updated
      room.syncUser (room.userInfo updated)

end Room

/-- What a loaded room reacts to. -/
inductive RoomAction where
  | request (request : RoomRequest) (context : RoomRequestContext)
  | update
  | playbackStartTimer
  | temporarySpeedTimer
  | leaveTimer (token : AuthToken)
  | throttledSync
  | sync
  | save
  | holdEmptyPlaybackForJoin (reconnect : Bool)
  | setGrants (grants : Grants)
  | claim (user : User)
  | setPasswordHash (hash : Option String)
  | reauthenticate (clientId : ClientId) (token : AuthToken) (info : ClientInfo)
  | onBeforeUnload
deriving DecidableEq

namespace RoomAction

/-- A timer can fire only while it is pending; everything else can happen at any time. -/
def Enabled (action : RoomAction) (room : Room) : Prop :=
  match action with
  | .playbackStartTimer => room.playbackStartTimer.isSome = true
  | .temporarySpeedTimer => room.temporarySpeedTimer.isSome = true
  | .throttledSync => room.syncPending = true
  | .save => room.savePending = true
  | .claim _ => room.owner = none
  | _ => True

instance (action : RoomAction) (room : Room) : Decidable (action.Enabled room) :=
  match action with
  | .playbackStartTimer => inferInstanceAs (Decidable (_ = true))
  | .temporarySpeedTimer => inferInstanceAs (Decidable (_ = true))
  | .throttledSync => inferInstanceAs (Decidable (_ = true))
  | .save => inferInstanceAs (Decidable (_ = true))
  | .claim _ => inferInstanceAs (Decidable (_ = none))
  | .request _ _ => inferInstanceAs (Decidable True)
  | .update => inferInstanceAs (Decidable True)
  | .leaveTimer _ => inferInstanceAs (Decidable True)
  | .sync => inferInstanceAs (Decidable True)
  | .holdEmptyPlaybackForJoin _ => inferInstanceAs (Decidable True)
  | .setGrants _ => inferInstanceAs (Decidable True)
  | .setPasswordHash _ => inferInstanceAs (Decidable True)
  | .reauthenticate _ _ _ => inferInstanceAs (Decidable True)
  | .onBeforeUnload => inferInstanceAs (Decidable True)

/-- The room after an action, whether it threw or not. -/
def apply (env : Env) (action : RoomAction) (room : Room) : Room :=
  match action with
  | .request asked context => (Room.processRequest env asked context).after room
  | .update => (Room.update env).after room
  | .playbackStartTimer =>
      { room with playbackStartTimer := none }.onPlayback (Playback.startPreparedPlayback env.now)
  | .temporarySpeedTimer => room.onPlayback (Playback.endTemporaryPlaybackSpeed true env.now)
  | .leaveTimer token => room.fireLeaveTimer token
  | .throttledSync => room.throttledSync env
  | .sync => (Room.sync env).after room
  | .save => room.saveStateToRedis env
  | .holdEmptyPlaybackForJoin reconnect => room.holdEmptyPlaybackForJoin reconnect env.now
  | .setGrants grants => room.setGrants grants env.now
  | .claim user => room.assignOwner (some user)
  | .setPasswordHash hash => room.setPasswordHash hash
  | .reauthenticate clientId token info => room.reauthenticate clientId token info env
  | .onBeforeUnload => (Room.onBeforeUnload env).after room

end RoomAction

/-- A room together with the latest time at which it has acted. -/
structure RoomState where
  room : Room
  clock : Int
deriving DecidableEq

/-- One step: an action and what it takes from outside. -/
structure RoomLabel where
  env : Env
  action : RoomAction

namespace RoomState

/-- The state after a step. -/
def next (label : RoomLabel) (state : RoomState) : RoomState :=
  ⟨label.action.apply label.env state.room, max state.clock label.env.now⟩

end RoomState

/-- The rooms a server holds: new ones and those rebuilt from a Redis snapshot, whatever
it says, and those rebuilt from a database row, which has no playback state. -/
inductive RoomState.Initial : RoomState → Prop
  | created (options : RoomOptions) (now : Int) : Initial ⟨Room.new options now, now⟩
  | restored (options : RoomOptions) (now : Int) (idle : options.isPlaying = none)
      (still : options.resumeOnNextJoin = false) :
      Initial ⟨(Room.new options now).restoreFromStorage, now⟩

/-- Every run of a room. -/
def roomSystem : TransitionSystem RoomState RoomLabel where
  Initial := RoomState.Initial
  Step before label after :=
    label.action.Enabled before.room ∧ label.env.uuid ∉ before.room.rounds ∧
      after = before.next label

namespace RoomState

/-- The state after a sequence of labels. -/
def run (labels : List RoomLabel) (state : RoomState) : RoomState :=
  TransitionSystem.run next labels state

/-- Each label of the sequence can be taken where it comes up, and meets the condition. -/
def runs (condition : RoomState → RoomLabel → Prop) [∀ state label, Decidable (condition state label)]
    (labels : List RoomLabel) (state : RoomState) : Bool :=
  TransitionSystem.runs next (fun state label => label.action.Enabled state.room ∧
    label.env.uuid ∉ state.room.rounds ∧ condition state label) labels state

/-- A sequence of labels that can be taken is a run. -/
theorem steps_run (condition : RoomState → RoomLabel → Prop)
    [∀ state label, Decidable (condition state label)] (labels : List RoomLabel)
    (state : RoomState) (possible : runs condition labels state = true) :
    (roomSystem.restrict condition).Steps state (state.run labels) := by
  refine TransitionSystem.steps_run ?_ labels state possible
  rintro state label ⟨enabled, fresh, met⟩
  exact ⟨met, enabled, fresh, rfl⟩

end RoomState

end OpenTogetherTube
