import OpenTogetherTube.Room.Playback
import OpenTogetherTube.Room.Audience

/-!
# The buffer gate and the preparation of a held start

Embeds the methods of `Room` that hold the clock for viewers: the buffer gate, which
pauses a playing room while a viewer buffers, and the preparation round, which keeps a
new or resumed source paused until the eligible viewers have a frame up. They read the
audience and write the playback fields.
-/

namespace OpenTogetherTube

open Lib

namespace Playback

/-- What `releaseBufferGate` does to the gate itself, before it decides to play. -/
def clearBufferGate (gate : BufferGate) (timedOut : Bool) (audience : Audience) (now : Int)
    (p : Playback) : Playback :=
  let exhausted :=
    if timedOut && decide (audience.realusers.length = 1) then gate.waitingOn else []
  let p := { p with bufferGate := none }.trace (.released now timedOut exhausted)
  if timedOut then
    { p with
      bufferGateCooldownUntil := some (now + BUFFER_GATE_COOLDOWN_MS)
      bufferGateExhausted := p.bufferGateExhausted.addAll exhausted }
  else p

def releaseBufferGate (timedOut : Bool) (audience : Audience) (now : Int)
    (p : Playback) : Playback :=
  match p.bufferGate with
  | none => p
  | some gate =>
      let p := p.clearBufferGate gate timedOut audience now
      if gate.pausedByGate && !p.isPlaying && !audience.realusers.isEmpty &&
          p.currentSource.isSome && p.playbackPreparation.isNone then
        p.play now
      else p

/-- The viewers `evaluateBufferGate` would hold the room for. -/
def bufferingViewers (audience : Audience) (p : Playback) : List RoomUser :=
  audience.eligiblePreparers.filter fun user =>
    decide (user.playerStatus = .buffering) && decide (user.id ∉ p.bufferGateExhausted)

/-- The hold `evaluateBufferGate` begins. -/
def engageBufferGate (waitingOn : List ClientId) (now : Int) (p : Playback) : Playback :=
  ({ p with bufferGate := some ⟨now, waitingOn, true⟩ }.trace (.engaged now waitingOn)).pause
    true now

def evaluateBufferGate (mode : BufferGateMode) (audience : Audience) (now : Int)
    (p : Playback) : Playback :=
  if p.gateExpired now then p.releaseBufferGate true audience now
  else if (decide (mode ≠ .pause) && decide (audience.realusers.length ≠ 1)) ||
      p.temporarySpeed.isSome || p.playbackPreparation.isSome || p.currentSource.isNone then
    p.releaseBufferGate false audience now
  else
    let waiting := p.bufferingViewers audience
    if waiting.isEmpty then p.releaseBufferGate false audience now
    else
      match p.bufferGate with
      | some gate =>
          { p with bufferGate := some { gate with waitingOn := waiting.map RoomUser.id } }.trace
            (.waiting now (waiting.map RoomUser.id))
      | none =>
          if !p.isPlaying || p.inStartGrace now || p.inGateCooldown now then p
          else p.engageBufferGate (waiting.map RoomUser.id) now

def allEligibleReady (audience : Audience) (preparation : PlaybackPreparation) : Bool :=
  let eligible := audience.playbackEligibleIds preparation
  !eligible.isEmpty && eligible.all fun id => decide (id ∈ preparation.readyIds)

def readyBufferIsEnough (preparation : PlaybackPreparation) (prepared : PlaybackPrepared) : Bool :=
  match prepared.bufferAhead with
  | none => true
  | some ahead => Number.le (playbackReadyBufferSeconds preparation.video.service) ahead

/-- Replace the round in place. -/
def assignRound (round : PlaybackPreparation) (p : Playback) : Playback :=
  { p with playbackPreparation := some round }.markDirty .playbackPreparation

def schedulePlaybackStart (fallback : Option Fallback) (audience : Audience) (now : Int)
    (p : Playback) : Playback :=
  match p.playbackPreparation with
  | none => p
  | some preparation =>
      if preparation.startAt.isSome then p
      else if (audience.playbackEligibleIds preparation).length ≤ 1 then
        (p.assignRound { preparation with fallback, startAt := some now }).startPreparedPlayback now
      else
        let startAt := now + PLAYBACK_START_LEAD_MS
        { p.assignRound { preparation with fallback, startAt := some startAt } with
          playbackStartTimer := some (now + max 0 (startAt - now)) }

/-- The round without one participant: its eligible viewers and their reports. -/
def withoutParticipant (clientId : ClientId) (preparation : PlaybackPreparation) :
    PlaybackPreparation :=
  { preparation with
    eligible := some (preparation.eligibleIds.filter fun id => decide (id ≠ clientId))
    ready := some (preparation.reports.filter fun report => decide (report.clientId ≠ clientId)) }

/-- The first eligible viewer leads the round; without one it waits for a manual start. -/
def withLeader (preparation : PlaybackPreparation) : PlaybackPreparation :=
  match preparation.eligibleIds with
  | [] => { preparation with fallback := some .none }
  | leader :: _ => { preparation with clientId := leader }

def dropPlaybackParticipant (clientId : ClientId) (audience : Audience) (now : Int)
    (p : Playback) : Playback :=
  match p.playbackPreparation with
  | none => p
  | some preparation =>
      if clientId ∉ preparation.eligibleIds then p
      else
        let round := withLeader (withoutParticipant clientId preparation)
        let p := p.assignRound round
        if !round.eligibleIds.isEmpty && allEligibleReady audience round then
          p.schedulePlaybackStart none audience now
        else p

/-- The round narrowed to the viewers that are still eligible. -/
def narrowedTo (eligible : List ClientId) (preparation : PlaybackPreparation) :
    PlaybackPreparation :=
  { preparation with
    eligible := some eligible
    ready := some (preparation.reports.filter fun report => decide (report.clientId ∈ eligible)) }

def refreshPlaybackPreparation (audience : Audience) (p : Playback) : Playback :=
  match p.playbackPreparation with
  | none => p
  | some preparation =>
      let eligible := audience.playbackEligibleIds preparation
      if eligible = preparation.eligibleIds then p
      else if eligible.isEmpty && audience.eligiblePreparers.isEmpty then
        { p with playbackPreparation := some (narrowedTo eligible preparation)
          }.cancelPlaybackPreparation
      else p.assignRound (withLeader (narrowedTo eligible preparation))

def canHoldPlaybackForPreparation (audience : Audience) (p : Playback) : Bool :=
  p.canPreparePlayback && !audience.eligiblePreparers.isEmpty

/-- The round `prepareEmptyRoomPlayback` creates. -/
def newRound (id : String) (source : QueueItem) (leader : ClientId) (eligible : List ClientId)
    (now : Int) (p : Playback) : PlaybackPreparation where
  id := id
  clientId := leader
  video := source.toVideoId
  position := p.playbackPosition
  eligible := some eligible
  ready := some []
  deadlineAt := some (now + PLAYBACK_READY_WAIT_MS)
  hardDeadlineAt := some (now + PLAYBACK_HARD_FALLBACK_MS)
  startAt := none
  fallback := none

/-- `prepareEmptyRoomPlayback`; `id` is the answer of `randomUUID`. -/
def prepareEmptyRoomPlayback (id : String) (audience : Audience) (now : Int)
    (p : Playback) : Playback :=
  if !p.resumeOnNextJoin || p.isPlaying || p.playbackPreparation.isSome ||
      !p.canPreparePlayback || !p.playbackPosition.isFinite || p.playbackPosition.lt 0 then p
  else
    match p.currentSource, audience.eligiblePreparers.map RoomUser.id with
    | some source, leader :: others =>
        { p with
          playbackPreparation := some (p.newRound id source leader (leader :: others) now)
          rounds := id :: p.rounds
          playbackStart := none }.markDirty .playbackPreparation
    | _, _ => p

/-- Stop the clock with the intent to resume: `holdPlaybackForPreparation` before it
creates the round. -/
def holdClock (now : Int) (p : Playback) : Playback :=
  let p := p.endTemporaryPlaybackSpeed true now
  let p := { p with playbackStart := none }
  let p := p.assignIsPlaying false now
  { p with resumeOnNextJoin := true }.markDirty .isPlaying

def holdPlaybackForPreparation (id : String) (audience : Audience) (now : Int)
    (p : Playback) : Playback :=
  (p.holdClock now).prepareEmptyRoomPlayback id audience now

def holdEmptyPlaybackForJoin (skipForReconnect : Bool) (audience : Audience) (now : Int)
    (p : Playback) : Playback :=
  if !audience.realusers.isEmpty || skipForReconnect || (!p.isPlaying && !p.bufferingGateHeld) ||
      !p.canPreparePlayback then p
  else
    let p := { p with bufferGate := none }.pausePlaybackClock now
    { p with resumeOnNextJoin := true }.markDirty .isPlaying

/-- The report is about the present round and comes from a viewer that takes part. -/
def acceptsReport (clientId : ClientId) (prepared : PlaybackPrepared) (audience : Audience)
    (preparation : PlaybackPreparation) (p : Playback) : Bool :=
  decide (prepared.id = preparation.id) &&
    decide (clientId ∈ audience.playbackEligibleIds preparation) &&
    decide (p.currentSource.map QueueItem.toVideoId = some preparation.video) &&
    p.playbackPosition.strictEq preparation.position && !p.isPlaying

/-- The report says that the viewer has the first frame up at the held position. -/
def isReadyReport (status : Option PlayerStatus) (prepared : PlaybackPrepared)
    (preparation : PlaybackPreparation) : Bool :=
  decide (status = some .ready) && decide (prepared.firstFrame ≠ some false) &&
    prepared.position.isFinite && !prepared.position.lt 0 &&
    !Number.farApart 1 prepared.position preparation.position &&
    readyBufferIsEnough preparation prepared

/-- The round with a viewer's report in place of an earlier one. -/
def withReport (clientId : ClientId) (bufferAhead : Option Number) (now : Int)
    (preparation : PlaybackPreparation) : PlaybackPreparation :=
  { preparation with
    ready := some
      ((preparation.reports.filter fun report => decide (report.clientId ≠ clientId)) ++
        [⟨clientId, true, bufferAhead, now⟩]) }

def finishPlaybackPreparation (clientId : ClientId) (status : Option PlayerStatus)
    (prepared : Option PlaybackPrepared) (audience : Audience) (now : Int)
    (p : Playback) : Playback :=
  match p.playbackPreparation, prepared with
  | some preparation, some prepared =>
      if !p.acceptsReport clientId prepared audience preparation then p
      else if prepared.failed || decide (prepared.visible = some false) then
        p.dropPlaybackParticipant clientId audience now
      else if !isReadyReport status prepared preparation then p
      else
        let round := withReport clientId prepared.bufferAhead now preparation
        let p := p.assignRound round
        if allEligibleReady audience round then p.schedulePlaybackStart none audience now else p
  | _, _ => p

/-- The deadlines of a round without a start time. -/
def escalateRound (audience : Audience) (now : Int) (preparation : PlaybackPreparation)
    (p : Playback) : Playback :=
  if allEligibleReady audience preparation then p.schedulePlaybackStart none audience now
  else if preparation.deadlineAt.any fun deadline => decide (now ≥ deadline) then
    if !preparation.reports.isEmpty then p.schedulePlaybackStart (some .partially) audience now
    else if preparation.hardDeadlineAt.any fun deadline => decide (now ≥ deadline) then
      p.schedulePlaybackStart (some .forced) audience now
    else if preparation.fallback ≠ some .none then
      p.assignRound { preparation with fallback := some .none }
    else p
  else p

/-- The deadline part of `update`. -/
def escalatePreparation (audience : Audience) (now : Int) (p : Playback) : Playback :=
  match p.playbackPreparation with
  | some preparation =>
      if preparation.startAt.isNone then p.escalateRound audience now preparation else p
  | none => p

/-- A round whose start time has come. -/
def startDue (now : Int) (p : Playback) : Bool :=
  p.playbackPreparation.any fun preparation =>
    preparation.startAt.any fun startAt => decide (now ≥ startAt)

/-- The preparation part of `update`. -/
def updatePreparation (audience : Audience) (now : Int) (p : Playback) : Playback :=
  if p.playbackPreparation.isNone then p
  else
    let p := (p.refreshPlaybackPreparation audience).escalatePreparation audience now
    if p.startDue now then p.startPreparedPlayback now else p

/-- The temporary speed part of `update`. -/
def updateTemporarySpeed (audience : Audience) (now : Int) (p : Playback) : Playback :=
  match p.temporarySpeed with
  | some temporary =>
      if audience.clientGranted .speed temporary.clientId then p
      else p.endTemporaryPlaybackSpeed true now
  | none => p

/-- Make an item current at a position, with the clock anchored now. -/
def takeSource (item : QueueItem) (position : Number) (now : Int) (p : Playback) : Playback :=
  { (p.assignCurrentSource (some item) now).assignPlaybackPosition position with
    playbackStart := some now }

/-- How `dequeueNext` sets a dequeued item going: paused in a restored room, held when
somebody can prime it, and otherwise playing. -/
def startItem (id : String) (audience : Audience) (now : Int) (p : Playback) : Playback :=
  if p.restoredFromStorage then { p with playbackStart := none }
  else if p.canHoldPlaybackForPreparation audience then
    p.holdPlaybackForPreparation id audience now
  else if p.isPlaying then p
  else p.play now

/-- How `playNow` sets its item going; a restored room makes no difference here. -/
def startItemNow (id : String) (audience : Audience) (now : Int) (p : Playback) : Playback :=
  if p.canHoldPlaybackForPreparation audience then
    p.holdPlaybackForPreparation id audience now
  else if p.isPlaying then p
  else p.play now

/-- The restart of the current item in DJ mode. -/
def restartSource (source : QueueItem) (now : Int) (p : Playback) : Playback :=
  let p := p.takeSource source.clearQueueItemTrim 0 now
  if p.isPlaying then p else p.play now

/-- What `dequeueNext` does when nothing is left to play. -/
def clearSource (now : Int) (p : Playback) : Playback :=
  let p := if p.isPlaying then p.assignIsPlaying false now else p
  let p := { p.assignPlaybackPosition 0 with playbackStart := some now }
  p.assignCurrentSource none now

/-- Begin a temporary speed on a playing room. -/
def startTemporarySpeed (clientId : ClientId) (gestureId : String) (now : Int)
    (p : Playback) : Playback :=
  let p := p.flushPlaybackPosition now
  let p := { p with
    temporarySpeed := some ⟨clientId, gestureId, TEMPORARY_PLAYBACK_SPEED, p.playbackSpeed⟩ }
  let p := p.assignPlaybackSpeed TEMPORARY_PLAYBACK_SPEED
  (p.markDirty .temporaryPlaybackSpeed).renewTemporaryPlaybackSpeed now

/-- `setPlaybackSpeed` after its range check. -/
def changeSpeed (speed : ℚ) (now : Int) (p : Playback) : Playback :=
  ((p.endTemporaryPlaybackSpeed false now).flushPlaybackPosition now).assignPlaybackSpeed speed

/-- `leaveRoom` when the last viewer is gone: the clock stops and the intent to play is
kept for the next join. -/
def emptyRoom (audience : Audience) (now : Int) (p : Playback) : Playback :=
  let shouldResume := p.isPlaying || p.bufferingGateHeld || p.playbackPreparation.isSome ||
    p.resumeOnNextJoin
  let p := p.releaseBufferGate false audience now
  let p := (p.pausePlaybackClock now).cancelPlaybackPreparation
  { p with resumeOnNextJoin := shouldResume && p.canPreparePlayback }.markDirty .isPlaying

/-- `leaveRoom` when an eligible viewer of the round is gone but others are left. -/
def rebuildRound (id : String) (clientId : ClientId) (audience : Audience) (now : Int)
    (p : Playback) : Playback :=
  match p.playbackPreparation with
  | none => p
  | some preparation =>
      if clientId ∈ preparation.eligibleIds then
        let p := { p.cancelPlaybackPreparation with resumeOnNextJoin := true }.markDirty .isPlaying
        p.prepareEmptyRoomPlayback id audience now
      else p

/-- `joinRoom`: a returning viewer resumes the room at once, anybody else prepares it. -/
def resumeForJoin (reconnect mayPlay : Bool) (id : String) (audience : Audience) (now : Int)
    (p : Playback) : Playback :=
  if reconnect && p.resumeOnNextJoin && decide (audience.realusers.length = 1) && mayPlay &&
      p.canPreparePlayback then
    let p := { p with resumeOnNextJoin := false }.markDirty .isPlaying
    (p.play now).markDirty .playbackPosition
  else p.prepareEmptyRoomPlayback id audience now

/-- A status other than buffering re-arms the gate for the viewer. -/
def noteRecovery (clientId : ClientId) (p : Playback) : Playback :=
  { p with bufferGateExhausted := p.bufferGateExhausted.remove clientId }.trace
    (.recovered clientId)

/-- Whether the item has an end the clock can pass: `currentHasEnd` with `currentEnd`. -/
def currentEnd (source : QueueItem) : Option Number :=
  match source.endAt.or source.length with
  | some finish =>
      if !source.isLive && finish.isFinite && Number.lt 0 finish then some finish else none
  | none => none

def currentEnded (now : Int) (p : Playback) : Bool :=
  match p.currentSource.bind currentEnd with
  | some finish => p.isPlaying && Number.lt finish (p.realPlaybackPosition now)
  | none => false

end Playback

end OpenTogetherTube
