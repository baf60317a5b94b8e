import OpenTogetherTube.Edge.RoomObject
import OpenTogetherTube.Lib.Earliest
import OpenTogetherTube.Lib.Rounds

/-!
# Edge rooms: the commit

Embeds `commit` of `ott-edge/src/room-object.ts` with what it calls there and in `room-state.ts` and
`room-index.ts`: the record in storage and the text it was saved as, the values of the room's row in the
index, the sockets and the sends to them that may fail, and the alarm. A commit is a loop of rounds. The
runtime answers each round with its clock readings, and says which of its writes and sends fail.
-/

namespace OpenTogetherTube.Edge

open Lib

/-- A property as JSON has it: an undefined one is left out. -/
def Property.json {α : Type} : Property α → Property α
  | .undefined => .missing
  | given => given

/-- A queue item as JSON has it. -/
def QueueItem.json (item : QueueItem) : QueueItem where
  toVideoId := item.toVideoId
  length := item.length.json
  startAt := item.startAt.json
  endAt := item.endAt.json
  subtitleUrl := item.subtitleUrl.json
  metadata := item.metadata.filter fun entry => entry.2.isSome

/-- `JSON.stringify(snapshot)`, read back: snapshots have one text just when this is the same. -/
def Snapshot.json (snapshot : Snapshot) : Snapshot :=
  { snapshot with
    currentSource := snapshot.currentSource.map QueueItem.json
    queue := snapshot.queue.map QueueItem.json }

/-- `checkpointMilliseconds`, of the number `CHECKPOINT_SECONDS` reads as. -/
def checkpointMilliseconds (seconds : Number) : ℚ :=
  match seconds with
  | .fin seconds => if 15 ≤ seconds ∧ seconds ≤ 600 then seconds * 1000 else 30000
  | _ => 30000

/-- The environment's `ROOM_IDLE_SECONDS` and `CHECKPOINT_SECONDS`, as numbers. -/
structure Timing where
  idleSeconds : Number
  checkpointSeconds : Number

/-- The columns of a room's row in the index. -/
structure IndexValues where
  title : String
  description : String
  visibility : Visibility
  queueMode : QueueMode
  currentSource : Option QueueItem
  users : Nat
  expiresAt : Option ℚ
deriving DecidableEq

def indexValues (snapshot : Snapshot) (users : Nat) (idleMs : ℚ) : IndexValues where
  title := snapshot.title
  description := snapshot.description
  visibility := snapshot.visibility
  queueMode := snapshot.queueMode
  currentSource := snapshot.currentSource.map QueueItem.json
  users
  expiresAt :=
    if snapshot.isTemporary then snapshot.emptySince.map fun (since : Int) => (since : ℚ) + idleMs
    else none

/-- `playbackPreparation` in a sync message. -/
structure SyncPreparation where
  id : String
  clientId : ClientId
  video : VideoId
  position : ℚ
deriving DecidableEq

/-- `temporaryPlaybackSpeed` in a sync message. -/
structure SyncTemporarySpeed where
  clientId : ClientId
  gestureId : String
  speed : ℚ := 2
deriving DecidableEq

/-- `ServerMessageSync`, with every key. -/
structure FullSync where
  name : String
  title : String
  description : String
  isTemporary : Bool
  visibility : Visibility
  queueMode : QueueMode
  isPlaying : Bool
  playbackPosition : ℚ
  playbackSpeed : ℚ
  currentSource : Option QueueItem
  queue : List QueueItem
  prevQueue : Option (List QueueItem) := none
  hasOwner : Bool := true
  grants : OrderedMap Role Nat
  voteCounts : OrderedMap String Nat
  votesToSkip : List ClientId
  enableVoteSkip : Bool
  autoSkipSegmentCategories : List Category := []
  videoSegments : List Segment := []
  restoreQueueBehavior : BehaviorOption := .always
  playbackPreparation : Option SyncPreparation
  temporaryPlaybackSpeed : Option SyncTemporarySpeed
deriving DecidableEq

/-- What a socket is sent in a commit. A sync message names the keys it takes from the full one. -/
inductive Payload where
  | you (id : ClientId)
  | users (value : List RoomUserInfo)
  | fullSync (full : FullSync)
  | message (message : ServerMessage)
  | sync (keys : List SyncKey) (full : FullSync)
deriving DecidableEq

namespace RoomState

def users (room : RoomState) : List RoomUserInfo := room.members.map fun member => room.info member

def fullSync (now : Int) (room : RoomState) : FullSync where
  name := room.snapshot.name
  title := room.snapshot.title
  description := room.snapshot.description
  isTemporary := room.snapshot.isTemporary
  visibility := room.snapshot.visibility
  queueMode := room.snapshot.queueMode
  isPlaying := room.snapshot.isPlaying
  playbackPosition := room.position now
  playbackSpeed := room.snapshot.playbackSpeed
  currentSource := room.snapshot.currentSource
  queue := room.snapshot.queue
  grants := room.snapshot.grants
  voteCounts := room.snapshot.votes.map fun entry => (entry.1, entry.2.length)
  votesToSkip := room.snapshot.votesToSkip
  enableVoteSkip := room.snapshot.enableVoteSkip
  playbackPreparation := room.snapshot.preparation.map fun preparation =>
    { id := preparation.id
      clientId := preparation.clientId
      video := preparation.video
      position := preparation.position }
  temporaryPlaybackSpeed := room.snapshot.temporarySpeed.map fun speed =>
    { clientId := speed.clientId
      gestureId := speed.gestureId }

/-- The messages `drain` takes out: what was pushed, and the dirty keys. -/
def outbox (now : Int) (room : RoomState) : List Payload :=
  room.messages.map .message ++
    if room.dirty.isEmpty then [] else [.sync room.dirty (room.fullSync now)]

/-- The `times` of `nextAlarm`, in order: the expiry of an empty room, of the temporary speed and of the
preparation, the checkpoint and the end of the current source. -/
def alarmTimes (idleMs checkpointMs : ℚ) (now : Int) (room : RoomState) : List (Option ℚ) :=
  let s := room.snapshot
  let playing := s.isPlaying && !room.members.isEmpty
  [if s.isTemporary then s.emptySince.map fun (since : Int) => (since : ℚ) + idleMs else none,
    s.temporarySpeed.map fun speed => (speed.expiresAt : ℚ),
    s.preparation.map fun preparation => (preparation.expiresAt : ℚ),
    if playing then some ((s.anchorAt : ℚ) + checkpointMs) else none,
    if playing then (s.currentSource.bind QueueItem.mediaEnd).map fun last =>
      (now : ℚ) + max 1 ((last - room.position now) / s.playbackSpeed * 1000) else none]

def nextAlarm (idleMs checkpointMs : ℚ) (now : Int) (room : RoomState) : Option ℚ :=
  earliest ((now : ℚ) + 1) (room.alarmTimes idleMs checkpointMs now).reduceOption

end RoomState

/-- `Attachment`, of a socket the runtime lists. -/
structure Attachment where
  id : ClientId
  session : Option GuestSession
  authDeadline : Int
  closed : Bool := false
deriving DecidableEq

/-- The record under `room`, and the text it was last saved as: none before the first write and after
`erase`. The constructor reads the text off the record, and a write sets both. -/
structure Storage where
  stored : Option Snapshot
  saved : Option Snapshot
  agree : saved = stored.map Snapshot.json
deriving DecidableEq

namespace Storage

/-- What the constructor finds. -/
def found (stored : Option Snapshot) : Storage := ⟨stored, stored.map Snapshot.json, rfl⟩

/-- `storage.put`, with the text that goes with it. -/
def put (snapshot : Snapshot) : Storage := ⟨some snapshot, some snapshot.json, rfl⟩

/-- `storage.deleteAll`, in `erase`. -/
def erased : Storage := ⟨none, none, rfl⟩

end Storage

/-- A `RoomObject` that has a room, and what its present commit has drained and sent: each draining
with the socket that was greeted in that round. -/
structure LiveRoom where
  room : RoomState
  storage : Storage
  indexed : Option IndexValues := none
  indexRetryAt : Option Int := none
  sockets : List Attachment := []
  alarm : Option ℚ := none
  drains : List (Option ClientId × List Payload) := []
  sent : List (ClientId × Payload) := []
deriving DecidableEq

/-- What the runtime answers in one round of a commit. -/
structure Runtime where
  /-- The clock when the snapshot is written. -/
  persistAt : Int
  /-- The clock when the update of the index is answered. -/
  indexAt : Int
  /-- The clock when the messages are sent and the alarm is set. -/
  now : Int
  indexFails : Bool := false
  /-- Whether a socket's send, by its place among those of the round, throws. -/
  sendFails : ClientId → Nat → Bool := fun _ _ => false
  /-- `randomUUID`, while a socket is closed. -/
  randomUUID : ClientId → String := fun _ => ""

/-- What a room sees while the socket is closed. -/
def Runtime.host (runtime : Runtime) (id : ClientId) : Host where
  now := runtime.now
  randomUUID := runtime.randomUUID id

namespace LiveRoom

/-- `sockets`. -/
def openSockets (object : LiveRoom) : List Attachment :=
  object.sockets.filter fun attachment => !attachment.closed

/-- `attachment.closed = true`. -/
def markClosed (id : ClientId) (object : LiveRoom) : LiveRoom :=
  { object with sockets := object.sockets.map fun attachment =>
      if attachment.id = id then { attachment with closed := true } else attachment }

def close (runtime : Runtime) (id : ClientId) (object : LiveRoom) : LiveRoom :=
  { object.markClosed id with room := object.room.leave id (runtime.host id) }

/-- `send`, the socket's send with number `index` in the round. -/
def send (runtime : Runtime) (id : ClientId) (index : Nat) (payload : Payload) (object : LiveRoom) :
    LiveRoom :=
  if runtime.sendFails id index then object.close runtime id
  else { object with sent := object.sent ++ [(id, payload)] }

/-- Send a socket the messages in order. -/
def sendAll (runtime : Runtime) (id : ClientId) : Nat → List Payload → LiveRoom → LiveRoom
  | _, [], object => object
  | index, payload :: rest, object =>
      sendAll runtime id (index + 1) rest (object.send runtime id index payload)

/-- The snapshot differs from what was saved. -/
def unsaved (object : LiveRoom) : Bool :=
  decide (some object.room.snapshot.json ≠ object.storage.saved)

/-- Write the snapshot at a checkpoint or when it may have changed. -/
def persist (checkpoint : Bool) (runtime : Runtime) (object : LiveRoom) : LiveRoom :=
  if checkpoint || !object.room.dirty.isEmpty || object.unsaved then
    { object with
      room := object.room.persisted runtime.persistAt
      storage := .put (object.room.persisted runtime.persistAt).snapshot }
  else object

/-- The values the index should have. -/
def values (timing : Timing) (object : LiveRoom) : IndexValues :=
  indexValues object.room.snapshot object.room.members.length (idleMilliseconds timing.idleSeconds)

/-- Update the index when its values changed, or plan to try again. -/
def index (timing : Timing) (runtime : Runtime) (object : LiveRoom) : LiveRoom :=
  if some (object.values timing) = object.indexed then object
  else if runtime.indexFails then { object with indexRetryAt := some (runtime.indexAt + 10000) }
  else { object with indexed := some (object.values timing), indexRetryAt := none }

/-- The three messages a socket gets that has just joined. -/
def greet (runtime : Runtime) (id : ClientId) (object : LiveRoom) : LiveRoom :=
  let object := object.send runtime id 0 (.you id)
  let object := object.send runtime id 1 (.users object.room.users)
  object.send runtime id 2 (.fullSync (object.room.fullSync runtime.now))

/-- Greet the socket that joined, if one did. -/
def welcome (joined : Option ClientId) (runtime : Runtime) (object : LiveRoom) : LiveRoom :=
  match joined with
  | none => object
  | some id => object.greet runtime id

/-- `drain`, of the room. -/
def drain (joined : Option ClientId) (runtime : Runtime) (object : LiveRoom) : LiveRoom :=
  { object with
    room := object.room.drained
    drains := object.drains ++ [(joined, object.room.outbox runtime.now)] }

/-- What the delivery does to one of the listed sockets. -/
def deliverTo (joined : Option ClientId) (runtime : Runtime) (payloads : List Payload)
    (kicks : List ClientId) (object : LiveRoom) (attachment : Attachment) : LiveRoom :=
  if attachment.id ∈ kicks then object.close runtime attachment.id
  else if joined = some attachment.id ∨ attachment.session = none ∨
      object.room.members.has attachment.id = false then object
  else object.sendAll runtime attachment.id 0 payloads

/-- Drain the room and deliver to the open sockets. -/
def deliver (joined : Option ClientId) (runtime : Runtime) (object : LiveRoom) : LiveRoom :=
  object.openSockets.foldl
    (deliverTo joined runtime (object.room.outbox runtime.now) object.room.kicks)
    (object.drain joined runtime)

/-- When the alarm must go off at the latest. -/
def nextAlarm (timing : Timing) (now : Int) (object : LiveRoom) : Option ℚ :=
  let room := object.room.nextAlarm (idleMilliseconds timing.idleSeconds)
    (checkpointMilliseconds timing.checkpointSeconds) now
  let retry := object.indexRetryAt.map fun (at_ : Int) => (at_ : ℚ)
  let sockets := object.openSockets.map fun attachment =>
    (((attachment.session.map GuestSession.expiresAt).getD attachment.authDeadline : Int) : ℚ)
  earliest ((now : ℚ) + 1) ([room, retry].reduceOption ++ sockets)

/-- Set the alarm, or delete it. -/
def schedule (timing : Timing) (now : Int) (object : LiveRoom) : LiveRoom :=
  { object with alarm := object.nextAlarm timing now }

/-- One round of a commit up to its deliveries. -/
def exchange (timing : Timing) (checkpoint : Bool) (joined : Option ClientId) (runtime : Runtime)
    (object : LiveRoom) : LiveRoom :=
  (((object.persist checkpoint runtime).index timing runtime).welcome joined runtime).deliver joined
    runtime

/-- One round of a commit: the alarm is set unless another round follows. -/
def round (timing : Timing) (checkpoint : Bool) (joined : Option ClientId) (runtime : Runtime)
    (object : LiveRoom) : LiveRoom :=
  let after := object.exchange timing checkpoint joined runtime
  if after.unsaved then after else after.schedule timing runtime.now

/-- The rounds of `commit(checkpoint, joined)`: the later ones are `commit()`. -/
def rounds (timing : Timing) (checkpoint : Bool) (joined : Option ClientId)
    (runtime : Nat → Runtime) : Rounds LiveRoom where
  round index object :=
    object.round timing (checkpoint && index == 0) (if index = 0 then joined else none) (runtime index)
  again := unsaved

/-- A commit begins: nothing has been sent in it. -/
def begin (object : LiveRoom) : LiveRoom := { object with drains := [], sent := [] }

/-- `commit`, with fuel for its rounds. -/
def commit (timing : Timing) (checkpoint : Bool) (joined : Option ClientId) (runtime : Nat → Runtime)
    (fuel : Nat) (object : LiveRoom) : Option LiveRoom :=
  (rounds timing checkpoint joined runtime).runFrom fuel 0 object.begin

end LiveRoom

end OpenTogetherTube.Edge
