import OpenTogetherTube.Edge.Playback

/-!
# Edge rooms: the room rules

Embeds the methods of `RoomState` in `ott-edge/src/room-state.ts` that no command is
needed for: the clock, preparations, temporary speeds, joining, leaving, recovery, status
reports, starting a source and the alarm's tick.
-/

namespace OpenTogetherTube.Edge

open Lib

/-- `rank`: the owner's enum number is the lowest, its rank the highest. -/
def rank (role : Role) : Int := if role = .owner then 100 else role.rank

/-- `new Grants(grants)`: of several entries for one role the last counts. -/
def grantsOf (grants : List (Role × Nat)) : Grants :=
  Grants.ofMasks (grants.foldl (fun known entry => OrderedMap.set known entry.1 entry.2) [])

structure RoomState where
  snapshot : Snapshot
  members : Members := []
  dirty : OrderedSet SyncKey := []
  messages : List ServerMessage := []
  kicks : List ClientId := []
deriving DecidableEq

namespace RoomState

def role (session : GuestSession) (room : RoomState) : Role :=
  if session.identityId = room.snapshot.ownerId then .owner
  else (room.snapshot.roles.get session.identityId).getD .unregisteredUser

def info (member : Member) (room : RoomState) : RoomUserInfo where
  id := member.id
  name := member.session.username
  isLoggedIn := false
  status := member.status
  role := room.role member.session

def grants (room : RoomState) : Grants := grantsOf room.snapshot.grants

def can (session : GuestSession) (permission : Permission) (room : RoomState) : Bool :=
  room.grants.granted (room.role session) permission

def position (now : Int) (room : RoomState) : ℚ := room.snapshot.positionAt now

/-- Change the playback part of the snapshot. -/
def onPlayback (update : Playback → Playback) (room : RoomState) : RoomState :=
  { room with
    snapshot := { room.snapshot with toPlayback := update room.snapshot.toPlayback } }

/-- Change the access part of the snapshot. -/
def onAccess (update : Access → Access) (room : RoomState) : RoomState :=
  { room with snapshot := { room.snapshot with toAccess := update room.snapshot.toAccess } }

def mark (keys : List SyncKey) (room : RoomState) : RoomState :=
  { room with dirty := room.dirty.addAll keys }

def push (message : ServerMessage) (room : RoomState) : RoomState :=
  { room with messages := room.messages ++ [message] }

def event (request : EventRequest) (member : Member) (additional : Additional)
    (room : RoomState) : RoomState :=
  room.push (.event request member.session.username additional)

def playing (value : Bool) (now : Int) (room : RoomState) : RoomState :=
  (room.onPlayback (Playback.playing value now)).mark [.isPlaying, .playbackPosition]

def clearPreparation (room : RoomState) : RoomState :=
  if room.snapshot.preparation.isSome then
    (room.onPlayback Playback.clearPreparation).mark [.playbackPreparation]
  else room

/-- The change of the play state a `PlaybackRequest` makes, or a viewer that is ready. -/
def play (value : Bool) (now : Int) (room : RoomState) : RoomState :=
  (room.clearPreparation.onPlayback Playback.forgetResume).playing value now

def clearTemporarySpeed (now : Int) (room : RoomState) : RoomState :=
  if room.snapshot.temporarySpeed.isSome then
    (room.onPlayback (Playback.clearTemporarySpeed now)).mark
      [.temporaryPlaybackSpeed, .playbackSpeed, .playbackPosition]
  else room

/-- The viewer `prepare` picks: the first one that may resume playback. -/
def preparer (exclude : Option ClientId) (room : RoomState) : Option Member :=
  room.members.find? fun member =>
    decide (some member.id ≠ exclude) && room.can member.session .playPause

def prepare (exclude : Option ClientId) (host : Host) (room : RoomState) : RoomState :=
  let preparer := room.preparer exclude
  if (room.snapshot.nextPreparation preparer host).isSome then
    (room.onPlayback (Playback.prepare preparer host)).mark
      [.playbackPreparation, .playbackPosition, .isPlaying]
  else room

/-- A member comes in. -/
def enter (member : Member) (room : RoomState) : RoomState :=
  { room with
    members := room.members.set member
    snapshot := { room.snapshot with emptySince := none } }

def join (member : Member) (host : Host) (room : RoomState) : RoomState :=
  let room := room.enter member
  let room := room.push (.userUpdate (room.info member))
  let room := room.event (.join member.id member.session.username) member .nothing
  room.prepare none host

/-- The number of votes for an item. -/
def votesFor (room : RoomState) (item : QueueItem) : Nat :=
  ((room.snapshot.votes.get (keyFor item.toVideoId)).map List.length).getD 0

/-- `orderVotes`: the sort keeps the order of items with equally many votes. -/
def orderVotes (room : RoomState) : RoomState :=
  if room.snapshot.queueMode = .vote then
    { room with
      snapshot := { room.snapshot with
        queue := room.snapshot.queue.mergeSort fun a b =>
          decide (room.votesFor b ≤ room.votesFor a) } }.mark [.queue]
  else room

/-- Take a client's votes back. -/
def dropVotes (id : ClientId) (room : RoomState) : RoomState :=
  { room with
    snapshot := { room.snapshot with
      votes := room.snapshot.votes.map fun (entry : String × List ClientId) =>
        (entry.1, entry.2.filter fun voter => decide (voter ≠ id))
      votesToSkip := room.snapshot.votesToSkip.filter fun voter => decide (voter ≠ id) } }.mark
    [.voteCounts, .votesToSkip]

/-- Stamp the time the last viewer left. -/
def emptiedAt (since : Int) (room : RoomState) : RoomState :=
  { room with snapshot := { room.snapshot with emptySince := some since } }

/-- What `leave` does once the client is out of the room: hold playback for the next one
to join when nobody is left, else look for a viewer to prepare. -/
def settleAfterLeave (host : Host) (room : RoomState) : RoomState :=
  if room.members.isEmpty then
    ((room.onPlayback Playback.awaitJoin).playing false host.now).emptiedAt host.now
  else room.prepare none host

/-- `members.delete(id)`. -/
def removeMember (id : ClientId) (room : RoomState) : RoomState :=
  { room with members := room.members.delete id }

/-- A temporary speed of the client ends. -/
def endGestureOf (id : ClientId) (now : Int) (room : RoomState) : RoomState :=
  if room.snapshot.temporarySpeed.map TemporarySpeed.clientId = some id then
    room.clearTemporarySpeed now
  else room

/-- A preparation by the client is dropped. -/
def dropPreparationOf (id : ClientId) (room : RoomState) : RoomState :=
  if room.snapshot.preparation.map Preparation.clientId = some id then room.clearPreparation
  else room

def leave (id : ClientId) (host : Host) (room : RoomState) : RoomState :=
  match room.members.get id with
  | none => room
  | some member =>
      let room := room.event .leave member (.user (room.info member))
      let room := ((room.removeMember id).push (.userRemove id)).dropVotes id
      ((room.orderVotes.endGestureOf id host.now).dropPreparationOf id).settleAfterLeave host

def recover (host : Host) (room : RoomState) : RoomState :=
  if room.members.isEmpty then
    let prepared := room.snapshot.preparation.isSome
    let room := (room.onPlayback (Playback.recoverEmpty host.now)).emptiedAt
      (room.snapshot.emptySince.getD host.now)
    if prepared then room.mark [.playbackPreparation] else room
  else
    match room.snapshot.preparation with
    | none => room
    | some preparation =>
        if room.members.has preparation.clientId then room
        else room.clearPreparation.prepare none host

/-- Whether a status report is the one the preparation waits for. A report without
`playbackPrepared` has no position either. -/
def completes (preparation : Preparation) (member : Member) (status : PlayerStatus)
    (prepared : Option PlaybackPrepared) (now : Int) (room : RoomState) : Bool :=
  match prepared with
  | none => false
  | some prepared =>
      decide (preparation.clientId = member.id) && decide (prepared.id = preparation.id) &&
        decide (status = .ready) && decide (now < preparation.expiresAt) &&
        prepared.position.isFinite &&
        !Number.farApart (3 / 2) prepared.position (.fin preparation.position) &&
        sameVideo (room.snapshot.currentSource.map QueueItem.toVideoId) (some preparation.video) &&
        room.can member.session .playPause

/-- `members.set(member.id, member)`. -/
def setMember (member : Member) (room : RoomState) : RoomState :=
  { room with members := room.members.set member }

/-- `status`, of a member of the room. -/
def status (member : Member) (status : PlayerStatus) (prepared : Option PlaybackPrepared)
    (now : Int) (room : RoomState) : RoomState :=
  let member := { member with status }
  let room := room.setMember member
  let room := room.push (.userUpdate (room.info member))
  match room.snapshot.preparation with
  | none => room
  | some preparation =>
      if room.completes preparation member status prepared now then
        room.play true now
      else room

def start (video : Option QueueItem) (now : Int) (room : RoomState) : RoomState :=
  let room := (room.clearTemporarySpeed now).clearPreparation
  let room := room.onPlayback (Playback.begin video (!room.members.isEmpty) now)
  { room with snapshot := { room.snapshot with votesToSkip := [] } }.mark
    [.currentSource, .playbackPosition, .isPlaying, .playbackSpeed, .votesToSkip,
      .playbackPreparation]

/-- In loop mode the current source goes to the end of the queue. -/
def requeue (room : RoomState) : RoomState :=
  match room.snapshot.queueMode, room.snapshot.currentSource with
  | .loop, some source =>
      { room with snapshot := { room.snapshot with queue := room.snapshot.queue ++ [source] } }
  | _, _ => room

/-- `queue.shift()`, with the votes for the item. -/
def shift (room : RoomState) : Option QueueItem × RoomState :=
  match room.snapshot.queue with
  | [] => (none, room)
  | item :: rest =>
      (some item, { room with
        snapshot := { room.snapshot with
          queue := rest
          votes := room.snapshot.votes.delete (keyFor item.toVideoId) } })

def next (now : Int) (room : RoomState) : RoomState :=
  let (item, room) := room.requeue.shift
  (room.start item now).mark [.queue, .voteCounts]

/-- The first part of `tick`: an expired temporary speed ends. -/
def expireTemporarySpeed (now : Int) (room : RoomState) : RoomState :=
  if room.snapshot.temporarySpeed.any fun speed => decide (speed.expiresAt ≤ now) then
    room.clearTemporarySpeed now
  else room

/-- The second part of `tick`: an expired preparation is given to another viewer. -/
def expirePreparation (host : Host) (room : RoomState) : RoomState :=
  match room.snapshot.preparation with
  | none => room
  | some preparation =>
      if preparation.expiresAt ≤ host.now then
        room.clearPreparation.prepare (some preparation.clientId) host
      else room

def tick (host : Host) (room : RoomState) : RoomState :=
  let room := (room.expireTemporarySpeed host.now).expirePreparation host
  if room.snapshot.ended host.now then room.next host.now else room

def persisted (now : Int) (room : RoomState) : RoomState :=
  room.onPlayback (Playback.anchor now)

/-- The state `drain` leaves; what it takes out is sent to the sockets. -/
def drained (room : RoomState) : RoomState :=
  { room with dirty := [], messages := [], kicks := [] }

end RoomState

end OpenTogetherTube.Edge
