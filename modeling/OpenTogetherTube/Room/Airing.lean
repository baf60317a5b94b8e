import OpenTogetherTube.Room.PlayNow
import OpenTogetherTube.Room.UndoOnce

/-!
# The current video between awaits

Embeds what `seek`, `skip`, `playNow`, `undo` and `update` do to the current item and its skip
segments, cut at their awaits and at the lock of the queue: `dequeueNext` with both its callers, and
`fetchSponsorBlockSegments` around its request. Other handlers are pieces that do what they like to
the queue, the clock and the settings. `update` may be under way more than once.
-/

namespace OpenTogetherTube

open Lib

/-- A seek past a segment that `update` makes. -/
structure AutoSeek where
  /-- What was current. -/
  video : Option VideoId
  /-- What the segments had been fetched for. -/
  fetchedFor : Option VideoId
  target : Number
deriving DecidableEq

/-- What the pieces read and write. -/
structure Airing extends Recall where
  queueMode : QueueMode := .manual
  isPlaying : Bool := false
  autoSkipSegmentCategories : List Category := ALL_SKIP_CATEGORIES
  videoSegments : List Segment := []
  wantSponsorBlock : Bool := false
  dontSkipSegmentsUntil : Option Number := none
  /-- History: the video the segments were fetched for. -/
  fetchedFor : Option VideoId := none
  /-- History: what was current when the seek was made that `dontSkipSegmentsUntil` is from. -/
  soughtIn : Option VideoId := none
  /-- History: the automatic seeks, newest first. -/
  autoSeeks : List AutoSeek := []
deriving DecidableEq

/-- What comes from outside. -/
structure AiringAnswer extends RecallAnswer where
  /-- The checks of permissions and texts and the votes let the request go on. -/
  passes : Bool := true
  /-- `conf.get("video.sponsorblock.enabled")`. -/
  sponsorblockEnabled : Bool := true
  /-- `fetchSegments`. `none` is an exception. -/
  fetchSegments : Option (List Segment) := none
  /-- `getVideoInfo`. -/
  found : Option QueueItem := none
  /-- The current item has an end and the position is past it. -/
  ended : Bool := false
  /-- `isPlaying` of an item that waits for the viewers, or of a room back from storage. -/
  held : Option Bool := none
  /-- `update` has a keep-alive to send or votes to sort by. -/
  waits : Bool := false

/-- The first piece of a handler, or a piece of one that is not cut here. -/
inductive AiringCall where
  | seek (value : Option Number)
  | undo (echo : UndoEvent)
  | skip
  | playNow (request : VideoAdd)
  | update
  | applySettings (settings : RoomSettings)
  | other (queue : List QueueItem) (playbackPosition : Number) (isPlaying : Bool)
      (queueMode : QueueMode) (announced : List (RoomRequest × RoomUserInfo × RoomEventContext))

/-- Who called `dequeueNext`. -/
inductive DequeueCaller where
  | skip (current : QueueItem) (prevPosition : Number)
  | update
deriving DecidableEq

/-- Where a handler waits for something other than the lock. -/
inductive AiringPoint where
  | undo (point : RecallPoint)
  /-- `seek`, once the event is out; the event of an undo if that made it. -/
  | marking (sought : Option VideoId) (undone : Option RoomEvent)
  /-- `dequeueNext`, once the buffer gate is released. -/
  | dequeuing (caller : DequeueCaller)
  /-- `dequeueNext`, with the current item queued again. -/
  | requeued (caller : DequeueCaller)
  /-- `dequeueNext`, with the next item. -/
  | dequeued (item : Option QueueItem) (caller : DequeueCaller)
  /-- `dequeueNext`, once the item plays. -/
  | playing (caller : DequeueCaller)
  /-- The caller, after `dequeueNext`. -/
  | moved (caller : DequeueCaller)
  /-- `skip`, once the event is out. -/
  | skipped
  /-- `playNow`, at the subtitle check. -/
  | checkingPlay (request : VideoAdd) (queued : Bool)
  /-- `playNow`, at the lookup. -/
  | lookingUpPlay (request : VideoAdd)
  /-- `playNow`, with the item taken out of the queue. -/
  | evicted (request : VideoAdd) (item : QueueItem)
  /-- `playNow`, once the current item is back in the queue. -/
  | pushed (item : QueueItem)
  /-- `playNow`, once the item plays. -/
  | playingNow
  /-- `update`, before its part about segments. -/
  | settled
  /-- `fetchSponsorBlockSegments`, at the request. -/
  | fetching (id : String)
  /-- `update`, after `fetchSponsorBlockSegments`. -/
  | fetched
deriving DecidableEq

/-- A section under the queue's lock. -/
inductive AiringSection where
  | undo (guarded : RecallSection)
  | enqueueOverflow (item : QueueItem) (caller : DequeueCaller)
  | dequeue (caller : DequeueCaller)
  | evict (request : VideoAdd)
  | pushTop (current item : QueueItem)
deriving DecidableEq

namespace Airing

abbrev Result := Airing × Rest AiringPoint AiringSection

/-- The current video. -/
def video (airing : Airing) : Option VideoId := airing.playlist.source.map QueueItem.toVideoId

/-- A piece of `undo`. -/
def undoing (airing : Airing) (result : Recall.Result) : Result :=
  ({ airing with toRecall := result.1 },
    match result.2 with
    | .done => .done
    | .point point => .point (.undo point)
    | .locked guarded => .locked (.undo guarded))

def publishRoomEvent (request : RoomRequest) (answer : AiringAnswer)
    (additional : RoomEventContext) (airing : Airing) : Airing :=
  { airing with toRecall := airing.toRecall.publishRoomEvent request answer.user additional }

def getSegmentForTime (time : Number) (airing : Airing) : Option Segment :=
  airing.videoSegments.find? fun segment =>
    Number.le segment.startTime time && Number.le time segment.endTime

/-- `seek` of a client with the permission, for itself or for the undo of an event. -/
def seekTo (target : Number) (undone : Option RoomEvent) (answer : AiringAnswer)
    (airing : Airing) : Result :=
  if !target.isFinite || target.lt 0 || Number.lt (.fin MAX_SEEK_SECONDS) target then
    (airing, .done)
  else
    ({ airing with playbackPosition := target }.publishRoomEvent (.seek (some target)) answer
        { prevPosition := some answer.position }, .point (.marking airing.video undone))

/-- The end of `seek`. -/
def mark (sought : Option VideoId) (undone : Option RoomEvent) (airing : Airing) : Result :=
  ({ airing with
    dontSkipSegmentsUntil := (airing.getSegmentForTime airing.playbackPosition).map Segment.endTime
    soughtIn := sought },
    match undone with
    | none => .done
    | some event => .point (.undo (.finishing event)))

/-- `undo` of a seek. -/
def undoSeek (event : RoomEvent) (answer : AiringAnswer) (airing : Airing) : Result :=
  match event.additional.prevPosition with
  | none => airing.undoing (airing.toRecall.finish event)
  | some target =>
      if answer.granted .seek then airing.seekTo target (some event) answer else (airing, .done)

/-- The event `undo` finds. -/
def undoEvent (echo : UndoEvent) (airing : Airing) : Option RoomEvent :=
  if Room.validUndoEvent echo then airing.findRecentEvent echo else none

/-- The first piece of `undo`. -/
def undo (echo : UndoEvent) (answer : AiringAnswer) (airing : Airing) : Result :=
  match airing.undoEvent echo with
  | none => (airing, .done)
  | some event =>
      if event.request.type = .seek then airing.undoSeek event answer
      else airing.undoing (airing.toRecall.undo echo answer.toRecallAnswer)

/-- Another item becomes current, or none does; its segments are still to come. -/
def replaceSource (item : Option QueueItem) (playbackPosition : Number) (airing : Airing) : Airing :=
  { airing with
    playlist := { airing.playlist with source := item }
    playbackPosition
    videoSegments := [] }

/-- The current item is set playing, unless it waits or plays already. -/
def setPlaying (point : AiringPoint) (next : Airing → Result) (answer : AiringAnswer)
    (airing : Airing) : Result :=
  match answer.held with
  | some isPlaying => next { airing with isPlaying }
  | none =>
      if airing.isPlaying then next airing else ({ airing with isPlaying := true }, .point point)

/-- The end of `dequeueNext`. -/
def finishDequeue (caller : DequeueCaller) (answer : AiringAnswer) (airing : Airing) : Result :=
  ({ airing with
    wantSponsorBlock := airing.wantSponsorBlock ||
      (answer.sponsorblockEnabled && !airing.autoSkipSegmentCategories.isEmpty &&
        airing.playlist.source.isSome)
    videoSegments := if airing.playlist.source.isNone then [] else airing.videoSegments },
    .point (.moved caller))

/-- `dequeueNext` once the queue mode has been dealt with. -/
def advanceQueue (caller : DequeueCaller) (answer : AiringAnswer) (airing : Airing) : Result :=
  match airing.playlist.queue, airing.playlist.source with
  | _ :: _, _ => (airing, .locked (.dequeue caller))
  | [], some _ =>
      { airing with
        playlist := { airing.playlist with source := none }
        playbackPosition := 0
        isPlaying := false }.finishDequeue caller answer
  | [], none => airing.finishDequeue caller answer

/-- `dequeueNext` after the buffer gate. -/
def dequeueNext (caller : DequeueCaller) (answer : AiringAnswer) (airing : Airing) : Result :=
  match airing.playlist.source, airing.queueMode with
  | some source, .dj =>
      ({ airing with
        playlist := { airing.playlist with source := some source.clearQueueItemTrim }
        playbackPosition := 0
        isPlaying := true }, .point (.moved caller))
  | some source, .loop => (airing, .locked (.enqueueOverflow source.clearQueueItemTrim caller))
  | _, _ => airing.advanceQueue caller answer

/-- The first piece of `skip`. -/
def skip (answer : AiringAnswer) (airing : Airing) : Result :=
  match airing.playlist.source with
  | some current =>
      if answer.passes then (airing, .point (.dequeuing (.skip current answer.position)))
      else (airing, .done)
  | none => (airing, .done)

/-- `playNow` once the subtitle is checked. -/
def takeRequested (request : VideoAdd) (queued : Bool) (airing : Airing) : Result :=
  if queued then (airing, .locked (.evict request)) else (airing, .point (.lookingUpPlay request))

def isVideoInQueue (video : VideoId) (airing : Airing) : Bool :=
  decide (airing.video = some video) || decide (airing.playlist.Queued video)

/-- The first piece of `playNow`. -/
def playNow (request : VideoAdd) (answer : AiringAnswer) (airing : Airing) : Result :=
  if airing.video = some request.toVideoId then (airing, .done)
  else
    let queued := airing.isVideoInQueue request.toVideoId
    if !answer.passes || (!queued && decide (airing.playlist.queue.length ≥ MAX_QUEUE_ITEMS)) then
      (airing, .done)
    else if request.hasSubtitle then (airing, .point (.checkingPlay request queued))
    else airing.takeRequested request queued

/-- The end of `playNow`. -/
def finishPlay (airing : Airing) : Result :=
  (if airing.autoSkipSegmentCategories.isEmpty then airing
    else { airing with wantSponsorBlock := true }, .done)

/-- `playNow` once the current item is out of the way. -/
def playRequested (item : QueueItem) (answer : AiringAnswer) (airing : Airing) : Result :=
  (airing.replaceSource (some item) 0).setPlaying .playingNow finishPlay answer

/-- `playNow` once it has its item. -/
def pushInterrupted (item : QueueItem) (answer : AiringAnswer) (airing : Airing) : Result :=
  match airing.playlist.source with
  | some current =>
      let current := { current with startAt := some answer.position }
      ({ airing with playlist := { airing.playlist with source := some current } },
        .locked (.pushTop current item))
  | none => airing.playRequested item answer

/-- Forget the segment a seek landed in once playback has left it. -/
def expireSegmentPause (position : Number) (airing : Airing) : Airing :=
  match airing.dontSkipSegmentsUntil with
  | some finish =>
      if finish.truthy && Number.le finish position then
        { airing with dontSkipSegmentsUntil := none }
      else airing
  | none => airing

/-- Seek past a segment of a skipped category. -/
def skipSegment (position : Number) (airing : Airing) : Airing :=
  if airing.isPlaying && !airing.videoSegments.isEmpty && airing.dontSkipSegmentsUntil.isNone then
    match airing.getSegmentForTime position with
    | some segment =>
        if segment.category ∈ airing.autoSkipSegmentCategories then
          { airing with
            playbackPosition := segment.endTime
            autoSeeks := ⟨airing.video, airing.fetchedFor, segment.endTime⟩ :: airing.autoSeeks }
        else airing
    | none => airing
  else airing

/-- The end of `update`. -/
def autoSkip (answer : AiringAnswer) (airing : Airing) : Result :=
  ((airing.expireSegmentPause answer.position).skipSegment answer.position, .done)

/-- `fetchSponsorBlockSegments`, up to the request. -/
def fetchSponsorBlockSegments (airing : Airing) : Result :=
  match airing.playlist.source with
  | some source =>
      if source.service = .youtube then (airing, .point (.fetching source.id))
      else ({ airing with videoSegments := [] }, .point .fetched)
  | none => ({ airing with videoSegments := [] }, .point .fetched)

/-- The segments of a video have arrived, unless the request failed. -/
def storeSegments (id : String) (answer : AiringAnswer) (airing : Airing) : Airing :=
  match answer.fetchSegments with
  | some segments => { airing with videoSegments := segments, fetchedFor := some ⟨.youtube, id⟩ }
  | none => airing

/-- The part of `update` about segments. -/
def updateSegments (answer : AiringAnswer) (airing : Airing) : Result :=
  if answer.sponsorblockEnabled && !airing.autoSkipSegmentCategories.isEmpty then
    if airing.wantSponsorBlock then
      { airing with wantSponsorBlock := false }.fetchSponsorBlockSegments
    else airing.autoSkip answer
  else (airing, .done)

/-- `update` once the current item is settled. -/
def afterMove (answer : AiringAnswer) (airing : Airing) : Result :=
  if answer.waits then (airing, .point .settled) else airing.updateSegments answer

/-- `update` from the question on whether the current item has ended. -/
def update (answer : AiringAnswer) (airing : Airing) : Result :=
  if (airing.playlist.source.isNone && !airing.playlist.queue.isEmpty) ||
      (airing.playlist.source.isSome && airing.isPlaying && answer.ended) then
    (airing, .point (.dequeuing .update))
  else airing.afterMove answer

/-- What becomes of the skip categories, and whether segments are wanted for them. -/
def applySettings (settings : RoomSettings) (airing : Airing) : Airing :=
  match settings.autoSkipSegmentCategories with
  | some categories =>
      if ALL_SKIP_CATEGORIES.any fun category =>
          decide (category ∈ categories) != decide (category ∈ airing.autoSkipSegmentCategories) then
        let chosen := ALL_SKIP_CATEGORIES.filter fun category => decide (category ∈ categories)
        { airing with
          autoSkipSegmentCategories := chosen
          wantSponsorBlock := airing.wantSponsorBlock ||
            (!chosen.isEmpty && airing.videoSegments.isEmpty && airing.playlist.source.isSome) }
      else { airing with autoSkipSegmentCategories := categories }
  | none => airing

/-- The first piece of a handler, or a piece of one that is not cut here. -/
def call (call : AiringCall) (answer : AiringAnswer) (airing : Airing) : Result :=
  match call with
  | .seek none => (airing, .done)
  | .seek (some target) =>
      if answer.granted .seek then airing.seekTo target none answer else (airing, .done)
  | .undo echo => airing.undo echo answer
  | .skip => airing.skip answer
  | .playNow request => airing.playNow request answer
  | .update => airing.update answer
  | .applySettings settings => (airing.applySettings settings, .done)
  | .other queue playbackPosition isPlaying queueMode announced =>
      (announced.foldl (fun airing entry =>
        airing.publishRoomEvent entry.1 { answer with user := some entry.2.1 } entry.2.2)
        { airing with
          playlist := { airing.playlist with queue }
          playbackPosition
          isPlaying
          queueMode }, .done)

/-- What a handler does from a point on. -/
def resume (point : AiringPoint) (answer : AiringAnswer) (airing : Airing) : Result :=
  match point with
  | .undo point => airing.undoing (airing.toRecall.resume point answer.toRecallAnswer)
  | .marking sought undone => airing.mark sought undone
  | .dequeuing caller => airing.dequeueNext caller answer
  | .requeued caller => airing.advanceQueue caller answer
  | .dequeued item caller =>
      (airing.replaceSource item ((item.bind QueueItem.startAt).getD 0)).setPlaying (.playing caller)
        (finishDequeue caller answer) answer
  | .playing caller => airing.finishDequeue caller answer
  | .moved (.skip current prevPosition) =>
      (airing.publishRoomEvent .skip answer
        { video := some current, prevPosition := some prevPosition }, .point .skipped)
  | .moved .update => airing.afterMove answer
  | .skipped => ({ airing with videoSegments := [] }, .done)
  | .checkingPlay request queued =>
      if answer.passes then airing.takeRequested request queued else (airing, .done)
  | .lookingUpPlay request =>
      match answer.found with
      | some item => airing.pushInterrupted (Room.withSubtitle request.subtitleUrl item) answer
      | none => (airing, .done)
  | .evicted request item =>
      airing.pushInterrupted (Room.withSubtitle request.subtitleUrl item) answer
  | .pushed item => airing.playRequested item answer
  | .playingNow => airing.finishPlay
  | .settled => airing.updateSegments answer
  | .fetching id => (airing.storeSegments id answer, .point .fetched)
  | .fetched => airing.autoSkip answer

/-- What a section does under the lock. -/
def serve (guarded : AiringSection) (answer : AiringAnswer) (airing : Airing) : Result :=
  match guarded with
  | .undo guarded => airing.undoing (airing.toRecall.serve guarded answer.toRecallAnswer)
  | .enqueueOverflow item caller =>
      ({ airing with playlist := { airing.playlist with queue := airing.playlist.queue ++ [item] } },
        .point (.requeued caller))
  | .dequeue caller =>
      ({ airing with playlist := { airing.playlist with queue := airing.playlist.queue.tail } },
        .point (.dequeued airing.playlist.queue.head? caller))
  | .evict request =>
      match airing.playlist.queue.findIdx? fun item => decide (item.toVideoId = request.toVideoId) with
      | some index =>
          match airing.playlist.queue[index]? with
          | some item =>
              ({ airing with
                playlist := { airing.playlist with queue := airing.playlist.queue.eraseIdx index } },
                .point (.evicted request item))
          | none => (airing, .done)
      | none => (airing, .done)
  | .pushTop current item =>
      if airing.playlist.queue.length + 1 > MAX_QUEUE_ITEMS then (airing, .done)
      else
        ({ airing with playlist := { airing.playlist with queue := current :: airing.playlist.queue } },
          .point (.pushed item))

/-- The handlers as tasks. -/
def program : Program Airing AiringCall AiringAnswer AiringPoint AiringSection where
  call := call
  resume := resume
  serve := serve

end Airing

abbrev AiringLabel := TaskLabel AiringCall AiringAnswer

end OpenTogetherTube
