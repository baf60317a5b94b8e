import OpenTogetherTube.Lib.Handler
import OpenTogetherTube.Room.Preparation

/-!
# The state of a room

The whole of `Room` in `server/room.ts` as a record, what it receives (`RoomRequest`),
what it sends (`ServerMessage`), what it stores (`StoredState`) and what it asks of the
world outside (`Env`). A request handler runs in `RoomM`; what it wrote before it threw
stays written.
-/

namespace OpenTogetherTube

open Lib

/-- The temporary speed request's action. -/
inductive GestureAction where
  | start
  | renew
  | stop
deriving DecidableEq

structure AddRequest where
  url : Option String := none
  video : Option VideoAdd := none
  videos : Option (List VideoAdd) := none
deriving DecidableEq

/-- `Partial<RoomSettings>`. -/
structure RoomSettings where
  title : Option String := none
  description : Option String := none
  visibility : Option Visibility := none
  queueMode : Option QueueMode := none
  grants : Option Grants := none
  autoSkipSegmentCategories : Option (List Category) := none
  restoreQueueBehavior : Option BehaviorOption := none
  enableVoteSkip : Option Bool := none
  bufferGateMode : Option BufferGateMode := none
  danmakuSource : Option (Option RoomDanmakuSource) := none
deriving DecidableEq

inductive RoomRequestType where
  | join
  | leave
  | playback
  | skip
  | seek
  | add
  | remove
  | order
  | vote
  | promote
  | updateUser
  | chat
  | undo
  | applySettings
  | playNow
  | shuffle
  | playbackSpeed
  | restoreQueue
  | kick
  | updateQueueItem
  | temporaryPlaybackSpeed
  | addNote
  | deleteNote
deriving DecidableEq

/-- The fields of an echoed event that undo looks at. -/
structure UndoEvent where
  type : RoomRequestType
  requestVideo : Option VideoAdd := none
  video : Option QueueItem := none
  prevPosition : Option Number := none
  queueIdx : Option Number := none
deriving DecidableEq

inductive RoomRequest where
  | join (info : ClientInfo) (reconnect : Bool)
  | leave
  | playback (state : Bool)
  | skip
  | seek (value : Option Number)
  | add (request : AddRequest)
  | remove (video : VideoId)
  | order (fromIdx toIdx : Number)
  | vote (video : VideoId) (add : Bool)
  | promote (targetClientId : ClientId) (role : Role)
  | updateUser (info : ClientInfo) (playbackPrepared : Option PlaybackPrepared)
  | chat (text : String)
  | undo (event : UndoEvent)
  | applySettings (settings : RoomSettings)
  | playNow (video : VideoAdd)
  | shuffle
  | playbackSpeed (speed : Number)
  | restoreQueue (discard : Bool)
  | kick (clientId : ClientId)
  | updateQueueItem (video : VideoId) (subtitleUrl : Option (Option String))
  | temporaryPlaybackSpeed (action : GestureAction) (gestureId : String) (video : Option VideoId)
  | addNote (text : String)
  | deleteNote (noteId : Number)
deriving DecidableEq

/-- An identified video without extras. -/
def VideoId.asAdd (video : VideoId) : VideoAdd := { video with }

namespace RoomRequest

def type : RoomRequest → RoomRequestType
  | .join .. => .join
  | .leave => .leave
  | .playback _ => .playback
  | .skip => .skip
  | .seek _ => .seek
  | .add _ => .add
  | .remove _ => .remove
  | .order .. => .order
  | .vote .. => .vote
  | .promote .. => .promote
  | .updateUser .. => .updateUser
  | .chat _ => .chat
  | .undo _ => .undo
  | .applySettings _ => .applySettings
  | .playNow _ => .playNow
  | .shuffle => .shuffle
  | .playbackSpeed _ => .playbackSpeed
  | .restoreQueue _ => .restoreQueue
  | .kick _ => .kick
  | .updateQueueItem .. => .updateQueueItem
  | .temporaryPlaybackSpeed .. => .temporaryPlaybackSpeed
  | .addNote _ => .addNote
  | .deleteNote _ => .deleteNote

def video : RoomRequest → Option VideoAdd
  | .add request => request.video
  | .remove video => some video.asAdd
  | .vote video _ => some video.asAdd
  | .playNow video => some video
  | .updateQueueItem video _ => some video.asAdd
  | .temporaryPlaybackSpeed _ _ video => video.map VideoId.asAdd
  | _ => none

end RoomRequest

structure RoomRequestAuthorization where
  token : AuthToken
  clientId : Option ClientId := none
deriving DecidableEq

structure RoomRequestContext where
  username : String := ""
  role : Role
  clientId : Option ClientId := none
  auth : Option RoomRequestAuthorization := none
deriving DecidableEq

structure RoomEventContext where
  video : Option QueueItem := none
  videos : Option (List QueueItem) := none
  prevPosition : Option Number := none
  queueIdx : Option Number := none
  user : Option RoomUserInfo := none
deriving DecidableEq

/-- `ServerMessageEvent`. The serial number stands for the identity of the recorded
object; no two recorded events share one. -/
structure RoomEvent where
  serial : Nat
  request : RoomRequest
  user : RoomUserInfo
  additional : RoomEventContext := {}
deriving DecidableEq

/-- The fields `findRecentEvent` compares. -/
def RoomEvent.fields (event : RoomEvent) : UndoEvent where
  type := event.request.type
  requestVideo := event.request.video
  video := event.additional.video
  prevPosition := event.additional.prevPosition
  queueIdx := event.additional.queueIdx

/-- What a room hands to the client manager. A sync message is given by the properties
it carries. -/
inductive ServerMessage where
  | sync (properties : OrderedSet SyncProp)
  | event (event : RoomEvent)
  | chat (sender : RoomUserInfo) (text : String)
  | eventcustom (text : String)
  | user (info : RoomUserInfo)
  | notes
  | kick (clientId : ClientId)
deriving DecidableEq

/-- The exceptions a room throws. `external` stands for a failure of a service the room
called. -/
inductive RoomError where
  | badApiArgument (argument reason : String)
  | permissionDenied (permission : Permission)
  | videoAlreadyQueued
  | videoNotFound
  | unsupportedSubtitleType
  | unsupportedSubtitleUrl
  | undoEventUnavailable
  | clientNotFoundInRoom
  | impossiblePromotion
  | featureDisabled (reason : String)
  | noteTooLong
  | tooManyNotes
  | noteNotFound
  | error (reason : String)
  | external
deriving DecidableEq

/-- What one step takes from outside the room: the time, a fresh identifier, the
configuration and the answers of the services it calls. `none` is a rejected promise. -/
structure Env where
  now : Int
  uuid : String := ""
  getUserCachedById : Nat → Option User := fun id => some ⟨id, ""⟩
  /-- `getServiceAdapterForURL` followed by `getVideoId`. -/
  videoOfUrl : String → Option VideoId := fun _ => none
  getVideoInfo : VideoId → Option QueueItem := fun video => some { video with }
  getManyVideoInfo : List VideoAdd → Option (List QueueItem) := fun _ => none
  /-- `assertUsableSubtitleUrl`: the exception it throws. -/
  subtitleError : String → Option RoomError := fun _ => none
  shuffle : List QueueItem → List QueueItem := id
  shuffle_perm : ∀ items, (shuffle items).Perm items := by intro items; exact List.Perm.refl items
  fetchSegments : String → Option (List Segment) := fun _ => none
  /-- `video.sponsorblock.enabled`. -/
  sponsorblockEnabled : Bool := false
  /-- `room.unload_after`, in seconds. -/
  unloadAfter : ℚ := 240
  /-- Whether `redisClient.expire` resolves. -/
  expireSucceeds : Bool := true
  /-- Whether `storage.updateRoom` resolves true. -/
  updateRoomSucceeds : Bool := true
  /-- Whether `redisClient.set` resolves. -/
  saveSucceeds : Bool := true
  countNotes : Nat := 0
  deleteNote : Number → Bool := fun _ => false

/-- `RoomStateStorable`: what `serializeState` writes. The owner is cut to the id. -/
structure StoredState where
  name : String
  title : String
  description : String
  isTemporary : Bool
  visibility : Visibility
  queueMode : QueueMode
  currentSource : Option QueueItem
  queue : List QueueItem
  isPlaying : Bool
  playbackPosition : Number
  playbackSpeed : ℚ
  resumeOnNextJoin : Bool
  grants : Grants
  userRoles : OrderedMap Role (List Nat)
  owner : Option Nat
  playbackStart : Option Int
  videoSegments : List Segment
  autoSkipSegmentCategories : List Category
  prevQueue : Option (List QueueItem)
  restoreQueueBehavior : BehaviorOption
  enableVoteSkip : Bool
  bufferGateMode : BufferGateMode
  danmakuSource : Option RoomDanmakuSource
  permissionsRevision : Nat
deriving DecidableEq

/-- A leave event that waits for its grace timer. -/
structure PendingLeave where
  context : RoomRequestContext
  user : RoomUserInfo
deriving DecidableEq

structure Room extends Playback, Audience where
  name : String := ""
  title : String := ""
  description : String := ""
  visibility : Visibility := .unlisted
  queueMode : QueueMode := .manual
  isTemporary : Bool := false
  autoSkipSegmentCategories : List Category := ALL_SKIP_CATEGORIES
  restoreQueueBehavior : BehaviorOption := .always
  enableVoteSkip : Bool := false
  bufferGateMode : BufferGateMode := .off
  danmakuSource : Option RoomDanmakuSource := none
  pendingLeaveEvents : OrderedMap AuthToken PendingLeave := []
  passwordHash : Option String := none
  permissionsRevision : Nat := 0
  queue : List QueueItem := []
  prevQueue : Option (List QueueItem) := none
  votes : OrderedMap String (OrderedSet ClientId) := []
  videoSegments : List Segment := []
  votesToSkip : OrderedSet ClientId := []
  recentEvents : List RoomEvent := []
  /-- The serial number of the next recorded event. -/
  nextSerial : Nat := 0
  keepAlivePing : Int := 0
  wantSponsorBlock : Bool := false
  dontSkipSegmentsUntil : Option Number := none
  /-- A call of `saveStateToRedisDebounced` waits for its debounce. -/
  savePending : Bool := false
  /-- The value under the room's Redis key, as far as this room wrote it. -/
  saved : Option StoredState := none
  /-- History: the messages sent, newest first. -/
  published : List ServerMessage := []
deriving DecidableEq

/-- A method of `Room` that may throw. -/
abbrev RoomM := Handler RoomError Room

namespace Room

/-- Run a method that touches the playback fields only. -/
def onPlayback (update : Playback → Playback) (room : Room) : Room :=
  { room with toPlayback := update room.toPlayback }

def markDirty (property : SyncProp) : Room → Room := onPlayback (Playback.markDirty property)

/-- `publish`, and `command` for a kick. -/
def publish (message : ServerMessage) (room : Room) : Room :=
  { room with published := message :: room.published }

/-- `syncUser(getUserInfo(id))`. -/
def syncUser (info : RoomUserInfo) : Room → Room := publish (.user info)

/-- `hasPassword`; an empty hash is no password. -/
def hasPassword (room : Room) : Bool := room.passwordHash.any (· ≠ "")

def setPasswordHash (hash : Option String) (room : Room) : Room :=
  { room with passwordHash := hash }.markDirty .hasPassword

/-- `set owner`. -/
def assignOwner (value : Option User) (room : Room) : Room :=
  { room with owner := value }.markDirty .hasOwner

/-- `set videoSegments`. -/
def assignVideoSegments (value : List Segment) (room : Room) : Room :=
  { room with videoSegments := value }.markDirty .videoSegments

/-- `set prevQueue`. -/
def assignPrevQueue (value : Option (List QueueItem)) (room : Room) : Room :=
  if value.isNone && room.prevQueue.isNone then room
  else { room with prevQueue := value }.markDirty .prevQueue

/-- A write of the queue's items; the queue's dirty callback marks the room. -/
def assignQueue (items : List QueueItem) (room : Room) : Room :=
  { room with queue := items }.markDirty .queue

def publishRoomEvent (request : RoomRequest) (context : RoomRequestContext)
    (additional : RoomEventContext) (knownUser : Option RoomUserInfo) (room : Room) : Room :=
  match context.clientId with
  | none => room
  | some clientId =>
      match knownUser.or (room.getUserInfo clientId) with
      | none => room
      | some user =>
          let event : RoomEvent := ⟨room.nextSerial, request, user, additional⟩
          let events := room.recentEvents ++ [event]
          { room with
            recentEvents := if events.length > RECENT_EVENTS_LIMIT then events.tail else events
            nextSerial := room.nextSerial + 1 }.publish (.event event)

def serializeState (now : Int) (room : Room) : StoredState where
  name := room.name
  title := room.title
  description := room.description
  isTemporary := room.isTemporary
  visibility := room.visibility
  queueMode := room.queueMode
  currentSource := room.currentSource
  queue := room.queue
  isPlaying := room.isPlaying
  playbackPosition :=
    if room.temporarySpeed.isSome then room.realPlaybackPosition now else room.playbackPosition
  playbackSpeed := (room.temporarySpeed.map TemporarySpeed.previousSpeed).getD room.playbackSpeed
  resumeOnNextJoin := room.bufferingGateHeld || room.resumeOnNextJoin
  grants := room.grants
  userRoles := room.userRoles
  owner := room.owner.map User.id
  playbackStart :=
    if room.temporarySpeed.isSome then (if room.isPlaying then some now else none)
    else room.playbackStart
  videoSegments := room.videoSegments
  autoSkipSegmentCategories := room.autoSkipSegmentCategories
  prevQueue := room.prevQueue
  restoreQueueBehavior := room.restoreQueueBehavior
  enableVoteSkip := room.enableVoteSkip
  bufferGateMode := room.bufferGateMode
  danmakuSource := room.danmakuSource
  permissionsRevision := room.permissionsRevision

/-- `saveStateToRedis`: a failed write is logged and leaves the old value. -/
def saveStateToRedis (env : Env) (room : Room) : Room :=
  if env.saveSucceeds then
    { room with savePending := false, saved := some (room.serializeState env.now) }
  else { room with savePending := false }

/-- `saveStateToRedisDebounced.flush()`. -/
def flushSave (env : Env) (room : Room) : Room :=
  if room.savePending then room.saveStateToRedis env else room

/-- The properties that are both synced and in `storableProps`. -/
def isStorable : SyncProp → Bool
  | .name | .title | .description | .isTemporary | .visibility | .queueMode | .currentSource
  | .queue | .isPlaying | .playbackPosition | .playbackSpeed | .grants | .videoSegments
  | .autoSkipSegmentCategories | .prevQueue | .restoreQueueBehavior | .enableVoteSkip
  | .bufferGateMode | .danmakuSource => true
  | .temporaryPlaybackSpeed | .playbackPreparation | .hasOwner | .hasPassword | .voteCounts
  | .votesToSkip => false

/-- Whether a dirty property makes `syncDirty` write the database row. -/
def isPersisted : SyncProp → Bool
  | .title | .description | .visibility | .queueMode | .autoSkipSegmentCategories | .grants
  | .prevQueue | .restoreQueueBehavior | .enableVoteSkip | .bufferGateMode | .danmakuSource
  | .hasOwner | .queue | .currentSource | .isPlaying | .playbackPosition => true
  | .name | .isTemporary | .playbackSpeed | .temporaryPlaybackSpeed | .playbackPreparation
  | .hasPassword | .voteCounts | .videoSegments | .votesToSkip => false

/-- `sync`, that is `syncDirty` under the lock. The pending checkpoint is put back when
the database write fails. -/
def sync (env : Env) : RoomM Unit := do
  let room ← get
  let dirty := room.dirty
  if dirty.isEmpty then return ()
  else
    modify fun room => { room with
      dirty := []
      savePending := room.savePending || dirty.any isStorable }.publish (.sync dirty)
    if !room.isTemporary && dirty.any isPersisted && !env.updateRoomSucceeds then
      modify fun room => { room with dirty := room.dirty.addAll dirty }
      throw (.error "Failed to persist permanent room state")
    else return ()

/-- The debounced background call of `sync`, which logs a rejection. -/
def throttledSync (env : Env) (room : Room) : Room :=
  (sync env).after { room with syncPending := false }

def isVideoInQueue (video : VideoId) (room : Room) : Bool :=
  decide (room.currentSource.map QueueItem.toVideoId = some video) ||
    room.queue.any fun item => decide (item.toVideoId = video)

def getSegmentForTime (time : Number) (room : Room) : Option Segment :=
  room.videoSegments.find? fun segment =>
    Number.le segment.startTime time && Number.le time segment.endTime

def check (role : Role) (permission : Permission) : RoomM Unit := do
  let room ← get
  if room.grants.granted role permission then return ()
  else throw (.permissionDenied permission)

def releaseBufferGate (timedOut : Bool) (now : Int) (room : Room) : Room :=
  room.onPlayback (Playback.releaseBufferGate timedOut room.toAudience now)

def evaluateBufferGate (now : Int) (room : Room) : Room :=
  room.onPlayback (Playback.evaluateBufferGate room.bufferGateMode room.toAudience now)

def prepareEmptyRoomPlayback (env : Env) (room : Room) : Room :=
  room.onPlayback (Playback.prepareEmptyRoomPlayback env.uuid room.toAudience env.now)

def holdEmptyPlaybackForJoin (skipForReconnect : Bool) (now : Int) (room : Room) : Room :=
  room.onPlayback (Playback.holdEmptyPlaybackForJoin skipForReconnect room.toAudience now)

end Room

end OpenTogetherTube
