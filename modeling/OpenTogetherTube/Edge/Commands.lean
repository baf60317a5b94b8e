import Mathlib.Algebra.GroupWithZero.Nat
import OpenTogetherTube.Edge.RoomState
import OpenTogetherTube.Lib.Handler

/-!
# Edge rooms: commands

Embeds `RoomState.apply` and `RoomState.settings` of `ott-edge/src/room-state.ts`. The
branch of each command is a handler: it throws where the branch throws, and it returns
what the command's event adds, or nothing where the branch returns before the event.
-/

namespace OpenTogetherTube.Edge

open Lib

/-- A room handler that may throw. -/
abbrev RoomM := Handler ApiError RoomState

namespace RoomState

/-- The error of `check`. -/
def permissionDenied : ApiError where
  status := 403
  message := "你没有执行此操作的房间权限。"
  name := "PermissionDeniedException"

def check (session : GuestSession) (permission : Permission) : RoomM Unit := do
  if (← get).can session permission then return () else throw permissionDenied

def checkCommand (command : Command) (member : Member) : RoomM Unit :=
  match commandPermissions command with
  | some permission => check member.session permission
  | none => return ()

/-- The bytes of `JSON.stringify([current, ...queue])`, from those of each item: brackets,
commas and `null` for no current item. -/
def queueBytes (jsonBytes : QueueItem → Nat) (queue : List QueueItem)
    (current : Option QueueItem) : Nat :=
  2 + queue.length + (current.map jsonBytes).getD 4 + (queue.map jsonBytes).sum

def checkQueueSize (jsonBytes : QueueItem → Nat) (queue : List QueueItem)
    (current : Option QueueItem) : RoomM Unit :=
  if queue.length > 200 ∨ queueBytes jsonBytes queue current > 512 * 1024 then
    throw { status := 400, message := "队列已达到容量上限，请先移除部分待播视频。" }
  else return ()

/-- The branch of `ChatRequest`. -/
def chat (text : String) (member : Member) : RoomM (Option Additional) := do
  modify fun room => room.push (.chat (room.info member) text)
  return none

/-- The branch of `PlaybackRequest`. -/
def playback (host : Host) (state : Bool) : RoomM (Option Additional) := do
  let room ← get
  if room.snapshot.currentSource.isNone then return none
  else
    modify (play state host.now)
    return some .nothing

/-- Look for a viewer to prepare anew when there is a preparation. -/
def reprepare (host : Host) (room : RoomState) : RoomState :=
  if room.snapshot.preparation.isSome then room.clearPreparation.prepare none host else room

/-- The branch of `SeekRequest`. -/
def seek (host : Host) (value : ℚ) : RoomM (Option Additional) := do
  let room ← get
  match room.snapshot.currentSource with
  | none => throw { status := 400, message := "当前没有视频。" }
  | some source =>
      if source.mediaEnd.any fun last => decide (last < value) then
        throw { status := 400, message := "跳转位置超过视频时长。" }
      else
        let prevPosition := room.position host.now
        modify (onPlayback (Playback.anchorTo value host.now))
        modify (mark [.playbackPosition])
        modify (reprepare host)
        return some (.moved prevPosition)

/-- Vote to skip, where skipping takes votes. -/
def voteToSkip (member : Member) (room : RoomState) : RoomState :=
  { room with
    snapshot := { room.snapshot with
      votesToSkip :=
        if member.id ∈ room.snapshot.votesToSkip then room.snapshot.votesToSkip
        else room.snapshot.votesToSkip ++ [member.id] } }.mark [.votesToSkip]

/-- Whether the member may only vote to skip: vote skipping is on and the member ranks
below a moderator. -/
def mustVote (member : Member) (room : RoomState) : Bool :=
  room.snapshot.enableVoteSkip && decide (rank (room.role member.session) < Role.moderator.rank)

/-- The end of the branch of `SkipRequest`. -/
def skipNow (host : Host) : RoomM (Option Additional) := do
  let room ← get
  modify (next host.now)
  return some (.skipped room.snapshot.currentSource (room.position host.now))

/-- The branch of `SkipRequest`: a vote skips once more than half of the members are for
it. -/
def skip (host : Host) (member : Member) : RoomM (Option Additional) := do
  let room ← get
  if room.mustVote member then
    modify (voteToSkip member)
    let room ← get
    if 2 * room.snapshot.votesToSkip.length ≤ room.members.length then return none
    else skipNow host
  else skipNow host

/-- An idle room goes on to the next item. -/
def advanceIdle (now : Int) (room : RoomState) : RoomState :=
  if room.snapshot.currentSource.isNone then room.next now else room

/-- Replace the queue. -/
def withQueue (queue : List QueueItem) (room : RoomState) : RoomState :=
  { room with snapshot := { room.snapshot with queue } }

/-- The branch of `AddRequest`. -/
def add (jsonBytes : QueueItem → Nat) (host : Host) (resolved : List QueueItem) :
    RoomM (Option Additional) := do
  let room ← get
  if resolved.isEmpty ∨ room.snapshot.queue.length + resolved.length > 200 then
    throw { status := 400, message := "队列最多可保存 200 个待播视频。" }
  else
    checkQueueSize jsonBytes (room.snapshot.queue ++ resolved) room.snapshot.currentSource
    modify (withQueue (room.snapshot.queue ++ resolved))
    modify (mark [.queue])
    modify orderVotes
    modify (advanceIdle host.now)
    return some (.added resolved)

/-- The place of a video in the queue. -/
def findInQueue (video : VideoId) (room : RoomState) : Option Nat :=
  room.snapshot.queue.findIdx? fun item => sameVideo (some item.toVideoId) (some video)

/-- `delete votes[key]`. -/
def deleteVotes (video : VideoId) (room : RoomState) : RoomState :=
  { room with
    snapshot := { room.snapshot with votes := room.snapshot.votes.delete (keyFor video) } }

/-- The error for a video that is not in the queue. -/
def notInQueue : ApiError where
  status := 404
  message := "待播队列中没有该视频。"

/-- The branch of `RemoveRequest`. -/
def remove (video : VideoId) : RoomM (Option Additional) := do
  let room ← get
  match room.findInQueue video with
  | none => throw notInQueue
  | some index =>
      modify (withQueue (room.snapshot.queue.eraseIdx index))
      modify (deleteVotes video)
      modify (mark [.queue, .voteCounts])
      return some (.removed room.snapshot.queue[index]? index)

/-- `queue.splice(toIdx, 0, queue.splice(fromIdx, 1)[0])`. -/
def moveItem (fromIdx toIdx : Nat) (queue : List QueueItem) : List QueueItem :=
  let rest := queue.eraseIdx fromIdx
  rest.take toIdx ++ queue[fromIdx]?.toList ++ rest.drop toIdx

/-- The branch of `OrderRequest`. -/
def order (fromIdx toIdx : Nat) : RoomM (Option Additional) := do
  let room ← get
  if fromIdx ≥ room.snapshot.queue.length ∨ toIdx ≥ room.snapshot.queue.length then
    throw { status := 400, message := "队列位置无效。" }
  else
    modify (withQueue (moveItem fromIdx toIdx room.snapshot.queue))
    modify (mark [.queue])
    return some .nothing

/-- `votes[key] = ids`. -/
def writeVotes (video : VideoId) (ids : List ClientId) (room : RoomState) : RoomState :=
  { room with
    snapshot := { room.snapshot with votes := room.snapshot.votes.set (keyFor video) ids } }

/-- The branch of `VoteRequest`. -/
def vote (video : VideoId) (add : Bool) (member : Member) : RoomM (Option Additional) := do
  let room ← get
  if (room.findInQueue video).isNone then throw notInQueue
  else
    let votes := OrderedSet.addAll [] ((room.snapshot.votes.get (keyFor video)).getD [])
    let votes := if add then votes.add member.id else votes.remove member.id
    modify (writeVotes video votes)
    modify (mark [.voteCounts])
    modify orderVotes
    return some .nothing

/-- The branch of `PlayNowRequest`. -/
def playNow (jsonBytes : QueueItem → Nat) (host : Host) (video : VideoAdd)
    (resolved : List QueueItem) : RoomM (Option Additional) := do
  let room ← get
  if sameVideo (room.snapshot.currentSource.map QueueItem.toVideoId) (some video.toVideoId) then
    return none
  else
    match resolved.head? with
    | none => throw { status := 400, message := "未取得视频信息。" }
    | some item =>
        let queue := room.snapshot.currentSource.toList ++
          room.snapshot.queue.filter fun other =>
            !sameVideo (some other.toVideoId) (some video.toVideoId)
        checkQueueSize jsonBytes queue (some item)
        modify (withQueue queue)
        modify (deleteVotes video.toVideoId)
        modify (start (some item) host.now)
        modify (mark [.queue, .voteCounts])
        return some .nothing

/-- The loop of `ShuffleRequest`, from index `i` down. -/
def shuffleFrom (host : Host) : Nat → List QueueItem → List QueueItem
  | 0, queue => queue
  | i + 1, queue =>
      let j := host.randomInt (i + 2) % (i + 2)
      shuffleFrom host i <|
        match queue[i + 1]?, queue[j]? with
        | some a, some b => (queue.set (i + 1) b).set j a
        | _, _ => queue

/-- The branch of `ShuffleRequest`. -/
def shuffle (host : Host) : RoomM (Option Additional) := do
  modify fun room =>
    room.withQueue (shuffleFrom host (room.snapshot.queue.length - 1) room.snapshot.queue)
  modify (mark [.queue])
  return some .nothing

/-- The branch of `PlaybackSpeedRequest`. -/
def playbackSpeed (host : Host) (speed : ℚ) : RoomM (Option Additional) := do
  modify (clearTemporarySpeed host.now)
  modify (onPlayback (Playback.anchor host.now))
  modify (onPlayback (Playback.assignSpeed speed))
  modify (mark [.playbackSpeed, .playbackPosition])
  return some .nothing

/-- Whether the temporary speed belongs to this gesture of this member. -/
def owned (member : Member) (gestureId : String) (room : RoomState) : Bool :=
  room.snapshot.temporarySpeed.any fun speed =>
    decide (speed.clientId = member.id) && decide (speed.gestureId = gestureId)

/-- The branch of `TemporaryPlaybackSpeedRequest`; it never reaches the event. -/
def temporaryPlaybackSpeed (host : Host) (action : GestureAction) (gestureId : String)
    (video : VideoId) (member : Member) : RoomM (Option Additional) := do
  let room ← get
  if !sameVideo (room.snapshot.currentSource.map QueueItem.toVideoId) (some video) then
    return none
  else
    match action with
    | .stop =>
        if room.owned member gestureId then modify (clearTemporarySpeed host.now)
        return none
    | .renew =>
        if room.owned member gestureId then
          modify (onPlayback (Playback.renewTemporarySpeed host.now))
        return none
    | .start =>
        if room.snapshot.isPlaying && room.snapshot.temporarySpeed.isNone then
          modify (onPlayback (Playback.startTemporarySpeed member.id gestureId host.now))
          modify (mark [.playbackPosition, .playbackSpeed, .temporaryPlaybackSpeed])
        return none

/-- The branch of `UpdateQueueItemRequest`. -/
def updateQueueItem (jsonBytes : QueueItem → Nat) (video : VideoId) (resolved : List QueueItem) :
    RoomM (Option Additional) := do
  let room ← get
  match room.findInQueue video, resolved.head? with
  | some index, some item =>
      let queue := room.snapshot.queue.modify index fun old => old.spread item
      checkQueueSize jsonBytes queue room.snapshot.currentSource
      modify (withQueue queue)
      modify (mark [.queue])
      return some .nothing
  | _, _ => throw notInQueue

/-- The permission `names` asks for to take a role away. -/
def demotePermission : Role → Option Permission
  | .administrator => some .demoteAdmin
  | .moderator => some .demoteModerator
  | .trustedUser => some .demoteTrusted
  | _ => none

/-- The permission `names` asks for to give a role. -/
def promotePermission : Role → Option Permission
  | .administrator => some .promoteAdmin
  | .moderator => some .promoteModerator
  | .trustedUser => some .promoteTrusted
  | _ => none

/-- Check a permission if there is one to check. -/
def checkSome (session : GuestSession) (permission : Option Permission) : RoomM Unit :=
  match permission with
  | some permission => check session permission
  | none => return ()

/-- Write a role and tell every client of the identity. -/
def assignRole (identityId : String) (role : Role) (room : RoomState) : RoomState :=
  let room := room.onAccess fun access =>
    { access with roles := access.roles.set identityId role }
  { room with
    messages := room.messages ++
      (room.members.filter fun peer => decide (peer.session.identityId = identityId)).map
        fun peer => .userUpdate (room.info peer) }

/-- Take the preparation from a client that may not resume playback any more. -/
def reprepareFor (target : Member) (host : Host) (room : RoomState) : RoomState :=
  if room.snapshot.preparation.map Preparation.clientId = some target.id ∧
      room.can target.session .playPause = false then
    room.clearPreparation.prepare none host
  else room

/-- Whether the actor outranks the target's role and the new one, and neither is the
owner's. -/
def mayPromote (target : Member) (role : Role) (member : Member) (room : RoomState) : Bool :=
  decide (role ≠ .owner) && decide (room.role target.session ≠ .owner) &&
    decide (max (rank (room.role target.session)) (rank role) < rank (room.role member.session))

/-- The branch of `PromoteRequest`. -/
def promote (host : Host) (targetClientId : ClientId) (role : Role) (member : Member) :
    RoomM (Option Additional) := do
  let room ← get
  match room.members.get targetClientId with
  | none => throw { status := 403, message := "不能修改该用户的权限。" }
  | some target =>
      if room.mayPromote target role member = false then
        throw { status := 403, message := "不能修改该用户的权限。" }
      else
        checkSome member.session (demotePermission (room.role target.session))
        checkSome member.session (promotePermission role)
        if room.snapshot.roles.has target.session.identityId = false ∧
            room.snapshot.roles.length ≥ 500 then
          throw { status := 400, message := "此房间保存的用户角色已达到上限。" }
        else
          modify (assignRole target.session.identityId role)
          modify (reprepareFor target host)
          return some .nothing

/-- The branch of `KickRequest`. -/
def kick (host : Host) (clientId : ClientId) (member : Member) : RoomM (Option Additional) := do
  let room ← get
  match room.members.get clientId with
  | none => throw { status := 403, message := "不能移出该用户。" }
  | some target =>
      if rank (room.role member.session) ≤ rank (room.role target.session) then
        throw { status := 403, message := "不能移出该用户。" }
      else
        modify fun room => { room with kicks := room.kicks ++ [target.id] }
        modify (leave target.id host)
        return some .nothing

/-- Whether the masks given differ from those in force. -/
def grantsChanged (grants : Option (List (Role × Nat))) (room : RoomState) : Bool :=
  grants.any fun given =>
    (grantsOf given).masks.any fun entry => decide (entry.2 ≠ room.grants.getMask entry.1)

/-- The permission each key of the settings takes. -/
def settingsPermission : SettingsKey → Permission
  | .title => .setTitle
  | .description => .setDescription
  | .visibility => .setVisibility
  | .queueMode => .setQueueMode
  | _ => .configureOther

/-- The check of one key: grants are the owner's to change. -/
def checkKey (changed : Bool) (member : Member) (key : SettingsKey) : RoomM Unit := do
  let room ← get
  if key = .grants then
    if changed ∧ room.role member.session ≠ .owner then
      throw { status := 403, message := "此测试版由房主调整房间权限。" }
    else return ()
  else check member.session (settingsPermission key)

/-- The checks of the keys in order. -/
def checkKeys (changed : Bool) (member : Member) : List SettingsKey → RoomM Unit
  | [] => return ()
  | key :: rest => do
      checkKey changed member key
      checkKeys changed member rest

/-- The settings this backend does not support. -/
def unsupported (settings : Settings) : Bool :=
  decide (settings.visibility = some .locked) || decide (settings.queueMode = some .dj) ||
    (settings.autoSkipSegmentCategories.any fun categories => !categories.isEmpty) ||
    (settings.restoreQueueBehavior.any fun behavior => decide (behavior ≠ .always))

/-- Assign one of the plain settings if it is there. -/
def assign {α : Type} (key : SyncKey) (value : Option α) (write : α → Snapshot → Snapshot)
    (room : RoomState) : RoomState :=
  match value with
  | none => room
  | some value => { room with snapshot := write value room.snapshot }.mark [key]

/-- The loop that assigns the plain settings. -/
def assignSettings (settings : Settings) (room : RoomState) : RoomState :=
  let room := room.assign .title settings.title fun title s => { s with title }
  let room := room.assign .description settings.description fun description s =>
    { s with description }
  let room := room.assign .visibility settings.visibility fun visibility s => { s with visibility }
  let room := room.assign .queueMode settings.queueMode fun queueMode s => { s with queueMode }
  room.assign .enableVoteSkip settings.enableVoteSkip fun enableVoteSkip s =>
    { s with enableVoteSkip }

/-- Write new grants: a preparer that may not resume playback any more loses the
preparation. -/
def assignGrants (grants : List (Role × Nat)) (host : Host) (room : RoomState) : RoomState :=
  let room := (room.onAccess fun access =>
    { access with grants := (grantsOf grants).masks }).mark [.grants]
  let preparer := room.members.get
    ((room.snapshot.preparation.map Preparation.clientId).getD "")
  let room :=
    if preparer.any fun member => !room.can member.session .playPause then room.clearPreparation
    else room
  room.prepare none host

def settings (host : Host) (settings : Settings) (member : Member) :
    RoomM (Option Additional) := do
  let room ← get
  let changed := room.grantsChanged settings.grants
  checkKeys changed member settings.keys
  if unsupported settings then
    throw {
      status := 400
      message := "此测试版暂不支持私人账号房间、DJ 队列和自动跳广告。" }
  else
    modify (assignSettings settings)
    modify fun room =>
      match changed, settings.grants with
      | true, some grants => room.assignGrants grants host
      | _, _ => room
    modify orderVotes
    return some .nothing

/-- The branches of `apply`. -/
def branch (jsonBytes : QueueItem → Nat) (host : Host) (command : Command) (member : Member)
    (resolved : List QueueItem) : RoomM (Option Additional) :=
  match command with
  | .chat text => chat text member
  | .playback state => playback host state
  | .seek value => seek host value
  | .skip => skip host member
  | .add _ _ _ => add jsonBytes host resolved
  | .remove video => remove video
  | .order fromIdx toIdx => order fromIdx toIdx
  | .vote video add => vote video add member
  | .playNow video => playNow jsonBytes host video resolved
  | .shuffle => shuffle host
  | .playbackSpeed speed => playbackSpeed host speed
  | .temporaryPlaybackSpeed action gestureId video =>
      temporaryPlaybackSpeed host action gestureId video member
  | .updateQueueItem video _ => updateQueueItem jsonBytes video resolved
  | .promote targetClientId role => promote host targetClientId role member
  | .kick clientId => kick host clientId member
  | .applySettings given => settings host given member
  | .restoreQueue _ => return none

def apply (jsonBytes : QueueItem → Nat) (host : Host) (command : Command) (member : Member)
    (resolved : List QueueItem) : RoomM Unit := do
  checkCommand command member
  match ← branch jsonBytes host command member resolved with
  | some additional => modify (event (.command command) member additional)
  | none => return ()

end RoomState

end OpenTogetherTube.Edge
