import OpenTogetherTube.Common.Models
import OpenTogetherTube.Lib.OrderedMap
import Mathlib.Data.List.Infix

/-!
# The playback part of a room

Embeds the fields of `Room` in `server/room.ts` that decide what plays and where, the
property setters that write them, and the methods that touch nothing else: the room
clock, the temporary speed, play and pause, and the start of a prepared round. Every
setter marks its property dirty, so the dirty set lives here too.

The trailing fields of `Playback` are history variables: no method reads them.
-/

namespace OpenTogetherTube

open Lib

/-- `keyof RoomStateSyncable`. -/
inductive SyncProp where
  | name
  | title
  | description
  | isTemporary
  | visibility
  | queueMode
  | currentSource
  | queue
  | isPlaying
  | playbackPosition
  | playbackSpeed
  | temporaryPlaybackSpeed
  | playbackPreparation
  | grants
  | hasOwner
  | hasPassword
  | voteCounts
  | videoSegments
  | autoSkipSegmentCategories
  | prevQueue
  | restoreQueueBehavior
  | enableVoteSkip
  | bufferGateMode
  | danmakuSource
  | votesToSkip
deriving DecidableEq

/-- `temporarySpeed`: the gesture in force and the speed it replaced. -/
structure TemporarySpeed where
  clientId : ClientId
  gestureId : String
  speed : ℚ
  previousSpeed : ℚ
deriving DecidableEq

structure BufferGate where
  startedAt : Int
  waitingOn : List ClientId
  pausedByGate : Bool
deriving DecidableEq

/-- One increment of `counterPlaybackStart`: the round that started playback and where. -/
structure RoundStart where
  round : String
  position : Number
  startAt : Int
  fallback : Option Fallback
deriving DecidableEq

/-- What happened to the buffer gate, and what resets a viewer's exhausted wait. -/
inductive GateEvent where
  | engaged (time : Int) (waitingOn : List ClientId)
  | waiting (time : Int) (waitingOn : List ClientId)
  | released (time : Int) (timedOut : Bool) (exhausted : List ClientId)
  | continued (time : Int)
  | sourceSet (source : Option VideoId)
  | recovered (clientId : ClientId)
deriving DecidableEq

/-- The room clock: where playback is and how fast it moves. -/
structure RoomClock where
  isPlaying : Bool := false
  playbackPosition : Number := 0
  /-- Every write is a constant, a snapshot of an earlier value or has passed
  `Number.isFinite`, so the speed is a rational. -/
  playbackSpeed : ℚ := 1
  playbackStart : Option Int := none
  temporarySpeed : Option TemporarySpeed := none
deriving DecidableEq

/-- The start a room holds back: the present preparation round and the intent to play. -/
structure HeldStart where
  playbackPreparation : Option PlaybackPreparation := none
  resumeOnNextJoin : Bool := false
  /-- History: the ids of the preparation rounds created so far. -/
  rounds : List String := []
  /-- History: the rounds that started playback, newest first. -/
  starts : List RoundStart := []
deriving DecidableEq

/-- The buffer gate and what decides when it may close again. `none` in a time is the
initial `-Infinity`. -/
structure GateState where
  bufferGate : Option BufferGate := none
  bufferGateExhausted : OrderedSet ClientId := []
  lastPlayAt : Option Int := none
  bufferGateCooldownUntil : Option Int := none
  /-- History: the gate's events, newest first. -/
  gateTrace : List GateEvent := []
deriving DecidableEq

/-- Pending work: unsynced properties and timers. -/
structure Pending where
  dirty : OrderedSet SyncProp := []
  /-- A call of `throttledSync` waits for its debounce. -/
  syncPending : Bool := false
  temporarySpeedTimer : Option Int := none
  playbackStartTimer : Option Int := none
deriving DecidableEq

/-- The playback fields of a room. -/
structure Playback extends RoomClock, HeldStart, GateState, Pending where
  currentSource : Option QueueItem := none
  restoredFromStorage : Bool := false
  /-- History: what the room has added to `counterSecondsWatched`, over all services. -/
  secondsWatched : ℚ := 0
deriving DecidableEq

namespace RoomClock

/-- `calcDurationFromPlaybackStart`: media seconds elapsed since the anchor. -/
def calcDurationFromPlaybackStart (now : Int) (clock : RoomClock) : ℚ :=
  match clock.playbackStart with
  | some start => ((now - start : Int) : ℚ) / 1000 * clock.playbackSpeed
  | none => 0

def realPlaybackPosition (now : Int) (clock : RoomClock) : Number :=
  if clock.playbackStart.isSome && clock.isPlaying then
    clock.playbackPosition.addRat (clock.calcDurationFromPlaybackStart now)
  else
    clock.playbackPosition

end RoomClock

namespace GateState

def bufferingGateHeld (gate : GateState) : Bool :=
  gate.bufferGate.any BufferGate.pausedByGate

/-- `lastPlayAt` is less than the start grace ago. -/
def inStartGrace (now : Int) (gate : GateState) : Bool :=
  gate.lastPlayAt.any fun time => decide (now - time < BUFFER_GATE_START_GRACE_MS)

/-- The cooldown of an earlier release has not run out. -/
def inGateCooldown (now : Int) (gate : GateState) : Bool :=
  gate.bufferGateCooldownUntil.any fun time => decide (now < time)

/-- The wait of a held gate has reached its limit. -/
def gateExpired (now : Int) (gate : GateState) : Bool :=
  gate.bufferGate.any fun hold => decide (now - hold.startedAt ≥ BUFFER_GATE_MAX_WAIT_MS)

end GateState

namespace Playback

def markDirty (property : SyncProp) (p : Playback) : Playback :=
  { p with dirty := p.dirty.add property, syncPending := true }

/-- Record an event of the gate. -/
def trace (event : GateEvent) (p : Playback) : Playback :=
  { p with gateTrace := event :: p.gateTrace }

/-- `set playbackPosition`. -/
def assignPlaybackPosition (value : Number) (p : Playback) : Playback :=
  { p with playbackPosition := value }.markDirty .playbackPosition

/-- `set playbackSpeed`. -/
def assignPlaybackSpeed (value : ℚ) (p : Playback) : Playback :=
  { p with playbackSpeed := value }.markDirty .playbackSpeed

/-- `counterSecondsWatched.inc` of `calcDurationFromPlaybackStart`. A counter never goes
down, so a duration below zero adds nothing. -/
def countWatched (now : Int) (p : Playback) : Playback :=
  { p with secondsWatched := p.secondsWatched + max 0 (p.calcDurationFromPlaybackStart now) }

def flushPlaybackPosition (now : Int) (p : Playback) : Playback :=
  let p := p.countWatched now
  { p.assignPlaybackPosition (p.realPlaybackPosition now) with playbackStart := some now }

def endTemporaryPlaybackSpeed (restore : Bool) (now : Int) (p : Playback) : Playback :=
  let p := { p with temporarySpeedTimer := none }
  match p.temporarySpeed with
  | none => p
  | some previous =>
      let p := { p with temporarySpeed := none }
      let p := if restore then
          (p.flushPlaybackPosition now).assignPlaybackSpeed previous.previousSpeed
        else p
      p.markDirty .temporaryPlaybackSpeed

/-- `set isPlaying`. -/
def assignIsPlaying (value : Bool) (now : Int) (p : Playback) : Playback :=
  let p := if value then p else p.endTemporaryPlaybackSpeed true now
  { p with isPlaying := value }.markDirty .isPlaying

def clearPlaybackStartTimer (p : Playback) : Playback :=
  { p with playbackStartTimer := none }

def cancelPlaybackPreparation (p : Playback) : Playback :=
  let p := p.clearPlaybackStartTimer
  let p := if p.playbackPreparation.isSome then
      { p with playbackPreparation := none }.markDirty .playbackPreparation
    else p
  if p.resumeOnNextJoin then
    { p with resumeOnNextJoin := false }.markDirty .isPlaying
  else p

/-- `set currentSource`. -/
def assignCurrentSource (value : Option QueueItem) (now : Int) (p : Playback) : Playback :=
  let p := { p with bufferGate := none, bufferGateExhausted := [], lastPlayAt := some now }
  let p := p.endTemporaryPlaybackSpeed true now
  let p := p.cancelPlaybackPreparation
  let p := p.trace (.sourceSet (value.map QueueItem.toVideoId))
  { p with currentSource := value }.markDirty .currentSource

def play (now : Int) (p : Playback) : Playback :=
  let p := if p.bufferGate.isSome then
      { p with
        bufferGate := none
        bufferGateCooldownUntil := some (now + BUFFER_GATE_COOLDOWN_MS) }.trace (.continued now)
    else p
  let p := p.cancelPlaybackPreparation
  let p := { p with restoredFromStorage := false }
  if p.isPlaying then p
  else
    let p := { p with lastPlayAt := some now }
    let p := p.assignIsPlaying true now
    { p with playbackStart := some now }

def pausePlaybackClock (now : Int) (p : Playback) : Playback :=
  let p := p.endTemporaryPlaybackSpeed true now
  if p.isPlaying then
    let p := p.flushPlaybackPosition now
    let p := { p with playbackStart := none }
    p.assignIsPlaying false now
  else p

def pause (byBufferGate : Bool) (now : Int) (p : Playback) : Playback :=
  let p := if byBufferGate then p else { p with bufferGate := none }
  (p.cancelPlaybackPreparation).pausePlaybackClock now

/-- The mime types of `NATIVE_ODYSEE_MIME_REGEX`, which is not anchored. -/
def nativeOdyseeMime (mime : String) : Bool :=
  ["video/mp4", "application/vnd.apple.mpegurl", "application/x-mpegURL"].any fun text =>
    decide (text.toList <:+: mime.toList)

/-- The service and mime test of `canPreparePlayback`. -/
def hasPreparablePlayer (source : QueueItem) : Bool :=
  match source.service with
  | .direct | .googledrive | .hls | .reddit | .tubi | .pluto | .dash => true
  | .odysee => source.mime.any nativeOdyseeMime
  | _ => false

/-- `Number.isFinite(source.length) && source.length > 0`. -/
def hasPositiveLength (source : QueueItem) : Bool :=
  match source.length with
  | some length => length.isFinite && Number.lt 0 length
  | none => false

def canPreparePlayback (p : Playback) : Bool :=
  match p.currentSource with
  | some source => !source.isLive && hasPositiveLength source && hasPreparablePlayer source
  | none => false

def startPreparedPlayback (now : Int) (p : Playback) : Playback :=
  match p.playbackPreparation with
  | none => p
  | some preparation =>
      match preparation.startAt with
      | none => p
      | some startAt =>
          if now + 50 < startAt then p
          else
            let p := { p with
              starts := ⟨preparation.id, preparation.position, startAt, preparation.fallback⟩
                :: p.starts }
            let p := p.clearPlaybackStartTimer
            let p := { p with playbackPreparation := none, resumeOnNextJoin := false }
            let p := p.assignPlaybackPosition preparation.position
            let p := p.assignIsPlaying true now
            let p := { p with playbackStart := some startAt }
            ((p.markDirty .playbackPreparation).markDirty .isPlaying).markDirty .playbackPosition

def seekRaw (value : Number) (now : Int) (p : Playback) : Playback :=
  let p := p.cancelPlaybackPreparation.countWatched now
  { p.assignPlaybackPosition value with playbackStart := some now }

def renewTemporaryPlaybackSpeed (now : Int) (p : Playback) : Playback :=
  { p with temporarySpeedTimer := some (now + TEMPORARY_PLAYBACK_SPEED_LEASE_MS) }

end Playback

end OpenTogetherTube
