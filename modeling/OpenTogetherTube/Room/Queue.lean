import OpenTogetherTube.Room.State

/-!
# The queue of a room

Embeds `VideoQueue` of `server/videoqueue.ts` as `Room` uses it, `dequeueNext` and the
periodic `update`. The queue's lock serialises whole operations, so each one is a single
write here.
-/

namespace OpenTogetherTube

open Lib

namespace Room

/-- The error of every operation that would pass the cap. -/
def queueFull : RoomError :=
  .badApiArgument "queue" "The queue cannot hold more than 200 items"

def enqueue (videos : List QueueItem) : RoomM Unit := do
  let room ← get
  if videos.isEmpty then return ()
  else if room.queue.length + videos.length > MAX_QUEUE_ITEMS then throw queueFull
  else modify fun room => room.assignQueue (room.queue ++ videos)

/-- `queue.pushTop` of one item. -/
def pushTop (video : QueueItem) : RoomM Unit := do
  let room ← get
  if room.queue.length + 1 > MAX_QUEUE_ITEMS then throw queueFull
  else modify fun room => room.assignQueue (video :: room.queue)

/-- `queue.insert`. -/
def insertAt (video : QueueItem) (index : Number) : RoomM Unit := do
  let room ← get
  match index.asIndex with
  | none => throw (.error "Index out of bounds")
  | some index =>
      if index > room.queue.length then throw (.error "Index out of bounds")
      else if room.queue.length + 1 > MAX_QUEUE_ITEMS then throw queueFull
      else modify fun room => room.assignQueue (room.queue.insertIdx index video)

def move (fromIdx toIdx : Nat) : RoomM Unit := do
  let room ← get
  if fromIdx = toIdx then return ()
  else
    match room.queue[fromIdx]? with
    | none => throw (.error "'fromIdx' out of bounds")
    | some item =>
        if toIdx ≥ room.queue.length then throw (.error "'toIdx' out of bounds")
        else modify fun room =>
          room.assignQueue ((room.queue.eraseIdx fromIdx).insertIdx toIdx item)

def findIndex (video : VideoId) (room : Room) : Option Nat :=
  room.queue.findIdx? fun item => decide (item.toVideoId = video)

/-- `queue.contains`. -/
def queueContains (video : VideoId) (room : Room) : Bool := (room.findIndex video).isSome

/-- `queue.evict`: the item and where it was. -/
def evict (video : VideoId) : RoomM (Nat × QueueItem) := do
  let room ← get
  match room.findIndex video with
  | none => throw .videoNotFound
  | some index =>
      match room.queue[index]? with
      | none => throw .videoNotFound
      | some item =>
          modify fun room => room.assignQueue (room.queue.eraseIdx index)
          return (index, item)

/-- `queue.update` with a subtitle patch; `none` leaves the item as it is. -/
def updateItem (video : VideoId) (subtitleUrl : Option (Option String)) : RoomM Unit := do
  let room ← get
  match room.findIndex video with
  | none => throw .videoNotFound
  | some index =>
      modify fun room => room.assignQueue (room.queue.modify index fun item =>
        { item with subtitleUrl := subtitleUrl.getD item.subtitleUrl })

/-- The number of votes for an item. -/
def voteCount (room : Room) (item : QueueItem) : Nat :=
  ((room.votes.get item.toVideoId.voteKey).getD []).length

/-- `queue.orderBy` of `update`: most votes first, ties in their old order. -/
def orderByVotes (room : Room) : Room :=
  let ordered := room.queue.mergeSort fun first second =>
    decide (room.voteCount second ≤ room.voteCount first)
  if ordered = room.queue then room else room.assignQueue ordered

/-- Dequeue the given first item and make it current. Votes for it have nowhere to go. -/
def takeNext (now : Int) (item : QueueItem) (rest : List QueueItem) (room : Room) : Room :=
  let room := room.assignQueue rest
  let room := room.onPlayback (Playback.takeSource item (item.startAt.getD 0) now)
  let room := if room.videoSegments.isEmpty then room else room.assignVideoSegments []
  { room with votes := room.votes.delete item.toVideoId.voteKey }.markDirty .voteCounts

/-- Dequeue the given first item and set it going. -/
def playNext (env : Env) (item : QueueItem) (rest : List QueueItem) (room : Room) : Room :=
  let room := room.takeNext env.now item rest
  room.onPlayback (Playback.startItem env.uuid room.toAudience env.now)

/-- What `dequeueNext` does after the new source is set: segments are wanted for it, or
dropped with the last one. -/
def refreshSegments (env : Env) (room : Room) : Room :=
  let room :=
    if env.sponsorblockEnabled && !room.autoSkipSegmentCategories.isEmpty &&
        room.currentSource.isSome then
      { room with wantSponsorBlock := true }
    else room
  if room.currentSource.isNone && !room.videoSegments.isEmpty then room.assignVideoSegments []
  else room

/-- The move to the next item, or to none. -/
def replaceSource (env : Env) (room : Room) : Room :=
  match room.queue with
  | item :: rest => room.playNext env item rest
  | [] => if room.currentSource.isSome then room.onPlayback (Playback.clearSource env.now) else room

/-- `dequeueNext` after the queue mode has been dealt with. -/
def advanceQueue (env : Env) (room : Room) : Room :=
  ((room.replaceSource env).refreshSegments env).onPlayback (Playback.assignPlaybackSpeed 1)

/-- Drop the votes to skip when an item is left behind. -/
def clearSkipVotes (room : Room) : Room :=
  if room.enableVoteSkip then { room with votesToSkip := [] }.markDirty .votesToSkip else room

/-- Count what has been watched of the current item. -/
def countSource (now : Int) (room : Room) : Room :=
  if room.currentSource.isSome then room.onPlayback (Playback.countWatched now) else room

/-- What `dequeueNext` does first, whatever the queue mode. -/
def leaveCurrent (now : Int) (room : Room) : Room :=
  ((room.releaseBufferGate false now).clearSkipVotes).countSource now

def dequeueNext (env : Env) (room : Room) : Room :=
  let room := room.leaveCurrent env.now
  match room.currentSource, room.queueMode with
  | some source, .dj => room.onPlayback (Playback.restartSource source env.now)
  | some source, .loop =>
      (room.assignQueue (room.queue ++ [source.clearQueueItemTrim])).advanceQueue env
  | _, _ => room.advanceQueue env

/-- `update` up to the question whether the current item has ended. -/
def settlePlayback (env : Env) (room : Room) : Room :=
  let room := room.evaluateBufferGate env.now
  let room := room.onPlayback (Playback.updatePreparation room.toAudience env.now)
  room.onPlayback (Playback.updateTemporarySpeed room.toAudience env.now)

/-- Whether `update` moves on to the next item. -/
def wantsNext (now : Int) (room : Room) : Bool :=
  (room.currentSource.isNone && !room.queue.isEmpty) || room.currentEnded now

/-- The dequeue of `update`. -/
def updateSource (env : Env) (room : Room) : Room :=
  if room.wantsNext env.now then room.dequeueNext env else room

/-- The keep-alive of `update`; the ping is written before the Redis call can fail. -/
def keepAlive (env : Env) : RoomM Unit := do
  let room ← get
  if !room.realusers.isEmpty &&
      decide ((room.keepAlivePing : ℚ) + env.unloadAfter * 900 < (env.now : ℚ)) then
    modify fun room => { room with keepAlivePing := env.now }
    if env.expireSucceeds then return () else throw .external
  else return ()

/-- `fetchSponsorBlockSegments`; a failed fetch is logged and changes nothing. -/
def fetchSponsorBlockSegments (env : Env) (room : Room) : Room :=
  match room.currentSource with
  | some source =>
      if source.service = .youtube then
        match env.fetchSegments source.id with
        | some segments => room.assignVideoSegments segments
        | none => room
      else if room.videoSegments.isEmpty then room
      else room.assignVideoSegments []
  | none => if room.videoSegments.isEmpty then room else room.assignVideoSegments []

/-- Forget the segment a seek landed in once playback has left it. -/
def expireSegmentPause (now : Int) (room : Room) : Room :=
  match room.dontSkipSegmentsUntil with
  | some finish =>
      if finish.truthy && Number.le finish (room.realPlaybackPosition now) then
        { room with dontSkipSegmentsUntil := none }
      else room
  | none => room

/-- Seek past a segment of a skipped category. -/
def skipSegment (now : Int) (room : Room) : Room :=
  if room.isPlaying && !room.videoSegments.isEmpty && room.dontSkipSegmentsUntil.isNone then
    match room.getSegmentForTime (room.realPlaybackPosition now) with
    | some segment =>
        if segment.category ∈ room.autoSkipSegmentCategories then
          (room.onPlayback (Playback.seekRaw segment.endTime now)).publish
            (.eventcustom ("Skipped " ++ segment.category.name))
        else room
    | none => room
  else room

/-- The SponsorBlock part of `update`. -/
def updateSegments (env : Env) (room : Room) : Room :=
  if env.sponsorblockEnabled && !room.autoSkipSegmentCategories.isEmpty then
    let room :=
      if room.wantSponsorBlock then
        { room with wantSponsorBlock := false }.fetchSponsorBlockSegments env
      else room
    (room.expireSegmentPause env.now).skipSegment env.now
  else room

/-- `update` once playback is settled. -/
def moveOn (env : Env) : RoomM Unit := do
  modify (updateSource env)
  keepAlive env
  modify fun room => if room.queueMode = .vote then room.orderByVotes else room
  modify (updateSegments env)

def update (env : Env) : RoomM Unit := do
  modify (settlePlayback env)
  moveOn env

end Room

end OpenTogetherTube
