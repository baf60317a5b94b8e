import Mathlib.Algebra.Order.Group.Unbundled.Abs
import OpenTogetherTube.Lib.Number
import OpenTogetherTube.Lib.Transition

/-!
# The recovery of a media source

Embeds `createMediaRecovery` of `client/src/util/media-recovery.ts` with the seek holder of
`client/src/util/media-seek.ts`. The media element is read afresh in every call, and what a
call writes to it is kept within that call. `play`, `pause` and `getPosition` change nothing
that is kept here. The callbacks of the player return, and `restart` may throw.
-/

namespace OpenTogetherTube

open Lib

inductive MediaErrorType where
  | unknown
  | network
  | decode
  | unsupported
deriving DecidableEq

structure MediaPlayerError where
  type : MediaErrorType
  message : Option String := none
  retryable : Option Bool := none
  sourceUnreachable : Option Bool := none
deriving DecidableEq

/-- What the controller reads of the element, and whether it takes a position and a rate. -/
structure MediaElement where
  currentTime : ℚ := 0
  duration : Number := .nan
  playbackRate : ℚ := 1
  readyState : Nat := 0
  paused : Bool := true
  seeking : Bool := false
  error : Bool := false
  takesPosition : Bool := true
  takesRate : Bool := true
deriving DecidableEq

/-- `stallFirstResponse`. -/
inductive StallResponse where
  | wait
  | reload
deriving DecidableEq

/-- What surrounds a call: the element, whether `restart` throws, the answer of
`stallFirstResponse`, whether the page is hidden, and `Date.now()`. -/
structure PlayerPage where
  media : Option MediaElement := none
  restartThrows : Bool := false
  stallFirstResponse : Option StallResponse := none
  hidden : Bool := false
  now : Nat := 0

inductive RecoveryPhase where
  | loading
  | ready
  | scheduled
  | recovering
  | failed
  | disposed
deriving DecidableEq

/-- The pending timer: of a retry after its delay, or of an attempt that takes too long. -/
inductive RecoveryTimer where
  | retry (delay : Nat)
  | timeout
deriving DecidableEq

structure PlaybackSnapshot where
  position : ℚ
  rate : ℚ
deriving DecidableEq

/-- The calls into the player. -/
inductive RecoveryCallback where
  | restart (error : MediaPlayerError) (manual : Bool)
  | onRecovering
  | onError (error : MediaPlayerError)
  | onStallSkip (skippedSeconds : ℚ)
deriving DecidableEq

/-- Whether an error may pass with another attempt. -/
def MediaPlayerError.retries (error : MediaPlayerError) : Bool :=
  decide (error.retryable ≠ some false) && decide (error.type ∈ [.network, .decode])

def networkRetryDelaysMs : List Nat := [1000, 3000, 6000]

def stallTriggerMs : Nat := 8000

def stallNudgeSeconds : ℚ := 3 / 10

def stallSkipSeconds : ℚ := 3

def stallPositionEpsilon : ℚ := 1 / 2

def restoreSeekToleranceSeconds : ℚ := 1 / 4

def seekToleranceSeconds : ℚ := 1 / 20

/-- The variables of `createMediaRecovery`. -/
structure MediaRecovery where
  phase : RecoveryPhase := .loading
  snapshot : Option PlaybackSnapshot := some ⟨0, 1⟩
  networkAttempts : Nat := 0
  decodeAttempts : Nat := 0
  generation : Nat := 0
  timer : Option RecoveryTimer := none
  lastError : MediaPlayerError := { type := .network }
  stallWatch : Bool := false
  lastStallPosition : ℚ := -1
  lastStallProgressAt : Nat := 0
  stallAnchor : Option ℚ := none
  stallAttemptsAtAnchor : Nat := 0
  /-- The position that `createMediaSeek` holds. -/
  target : Option ℚ := none
  /-- The generations of the restarts that have not settled. -/
  restarting : List Nat := []
  called : List RecoveryCallback := []
deriving DecidableEq

namespace MediaRecovery

variable (page : PlayerPage) (recovery : MediaRecovery)

def call (callback : RecoveryCallback) : MediaRecovery :=
  { recovery with called := recovery.called ++ [callback] }

def clearTimer : MediaRecovery := { recovery with timer := none }

def stopStallWatch : MediaRecovery := { recovery with stallWatch := false }

def capture : MediaRecovery :=
  if recovery.snapshot.isSome then recovery
  else
    { recovery with
      snapshot :=
        some
          { position := (page.media.map fun media => max 0 media.currentTime).getD 0
            rate := (page.media.map MediaElement.playbackRate).getD 1 } }

def reset : MediaRecovery :=
  { recovery with
    generation := recovery.generation + 1
    target := none
    timer := none
    stallWatch := false
    stallAnchor := none
    stallAttemptsAtAnchor := 0
    networkAttempts := 0
    decodeAttempts := 0
    lastError := { type := .network }
    snapshot := some ⟨0, (page.media.map MediaElement.playbackRate).getD 1⟩
    phase := .loading }

def fail (error : MediaPlayerError) : MediaRecovery :=
  { recovery.clearTimer.stopStallWatch with phase := .failed }.call (.onError error)

/-- The delay of the next attempt, if one is left, and the controller that has counted it. -/
def nextAttempt (type : MediaErrorType) : Option Nat × MediaRecovery :=
  if type = .network then
    (networkRetryDelaysMs[recovery.networkAttempts]?,
      { recovery with networkAttempts := recovery.networkAttempts + 1 })
  else
    (if recovery.decodeAttempts = 0 then some 1000 else none,
      { recovery with decodeAttempts := recovery.decodeAttempts + 1 })

/-- Schedules another attempt for an error that may pass, as long as its type has one left. -/
def handleError (error : MediaPlayerError) : MediaRecovery :=
  if recovery.phase = .disposed ∨ recovery.phase = .failed then recovery
  else
    let captured := recovery.capture page
    if ¬ error.retries then { captured with lastError := error }.fail error
    -- A native media error and an hls.js error may describe the same failed request.
    else if captured.phase = .scheduled then captured
    else
      match { captured with lastError := error }.clearTimer.nextAttempt error.type with
      | (none, counted) => counted.fail error
      | (some delay, counted) =>
          { counted.call .onRecovering with phase := .scheduled, timer := some (.retry delay) }

/-- `runRecovery` up to and with the call of `restart`. -/
def restarted (manual : Bool) : MediaRecovery :=
  { recovery.clearTimer with target := none, phase := .recovering, timer := some .timeout }.call
    (.restart recovery.lastError manual)

def runRecovery (manual : Bool) : MediaRecovery :=
  let restarted := recovery.restarted manual
  if page.restartThrows then restarted.handleError page restarted.lastError
  else { restarted with restarting := recovery.generation :: restarted.restarting }

def retry : MediaRecovery :=
  if recovery.phase = .disposed then recovery
  else
    let captured := { recovery with generation := recovery.generation + 1 }.capture page
    ({ captured with networkAttempts := 0, decodeAttempts := 0 }.call .onRecovering).runRecovery
      page true

def noteStallProgress (media : MediaElement) : MediaRecovery :=
  { recovery with lastStallPosition := media.currentTime, lastStallProgressAt := page.now }

def startStallWatch : MediaRecovery :=
  if recovery.stallWatch then recovery
  else
    match page.media with
    | none => { recovery with stallWatch := true }
    | some media => { recovery.noteStallProgress page media with stallWatch := true }

/-- `seek` of `createMediaSeek`, with the element after it, or `none` where setting the
position throws. -/
def seek (media : MediaElement) (position : ℚ) : MediaRecovery × Option MediaElement :=
  if position < 0 then (recovery, some media)
  else if |media.currentTime - position| ≤ seekToleranceSeconds then (recovery, some media)
  else if media.takesPosition then
    ({ recovery with target := some position },
      some { media with currentTime := position, paused := true, seeking := true })
  else ({ recovery with target := none }, none)

/-- `ready` of `createMediaSeek`. -/
def seekReady (media : MediaElement) : MediaRecovery × Bool :=
  if media.error ∨ media.seeking ∨ media.readyState < 2 then (recovery, false)
  else
    match recovery.target with
    | none => (recovery, true)
    | some target =>
        if 1 / 2 < |media.currentTime - target| then (recovery, false)
        else ({ recovery with target := none }, true)

/-- Counts the attempts at one spot. -/
def noteStall (media : MediaElement) : MediaRecovery :=
  let sameSpot :=
    recovery.stallAnchor.any fun anchor => |media.currentTime - anchor| ≤ stallPositionEpsilon
  { recovery with
    stallAttemptsAtAnchor := if sameSpot then recovery.stallAttemptsAtAnchor + 1 else 1
    stallAnchor := some media.currentTime }.noteStallProgress page media

/-- Moves the playhead past the bad spot. A throw leaves the rest undone. -/
def movePlayhead (media : MediaElement) : MediaRecovery :=
  let skipped :=
    if recovery.stallAttemptsAtAnchor = 2 then stallNudgeSeconds else stallSkipSeconds
  match recovery.seek media (media.currentTime + skipped) with
  | (sought, none) => sought
  | (sought, some _) =>
      if sought.stallAttemptsAtAnchor ≥ 3 then sought.call (.onStallSkip stallSkipSeconds)
      else sought

/-- One rung per attempt: fetch the same region again, then nudge past the bad spot, then
skip. -/
def recoverFromStall (media : MediaElement) : MediaRecovery :=
  let noted := recovery.noteStall page media
  if noted.stallAttemptsAtAnchor = 1 then
    if page.stallFirstResponse.getD .reload = .reload then
      (noted.capture page).runRecovery page false
    else noted
  else noted.movePlayhead media

/-- Whether the check of the stall watch counts as playback that advances. -/
def progresses (media : MediaElement) : Bool :=
  page.hidden || media.paused || media.seeking || decide (media.readyState ≥ 3) ||
    decide (1 / 20 < |media.currentTime - recovery.lastStallPosition|)

/-- Whether the check of the stall watch finds a stall that has lasted long enough. -/
def stalls (media : MediaElement) : Bool :=
  !recovery.progresses page media &&
    decide (stallTriggerMs ≤ page.now - recovery.lastStallProgressAt)

/-- The interval callback of `startStallWatch`. -/
def checkStall : MediaRecovery :=
  match page.media with
  | none => recovery
  | some media =>
      if recovery.phase ≠ .ready then recovery
      else if recovery.progresses page media then recovery.noteStallProgress page media
      else if recovery.stalls page media then recovery.recoverFromStall page media
      else recovery

/-- The position that `restoreMetadata` restores: a little before the end at most. -/
def restoredPosition (media : MediaElement) (snapshot : PlaybackSnapshot) : ℚ :=
  match media.duration with
  | .fin duration =>
      if 0 < duration then min snapshot.position (max 0 (duration - 1 / 10))
      else snapshot.position
  | _ => snapshot.position

/-- The seek of `restoreMetadata`. A fresh source is already at its start. -/
def seekRestored (media : MediaElement) (snapshot : PlaybackSnapshot) :
    MediaRecovery × Option MediaElement :=
  let position := restoredPosition media snapshot
  if 1 / 10 < snapshot.position ∧ restoreSeekToleranceSeconds < |media.currentTime - position| then
    recovery.seek media position
  else (recovery, some media)

/-- `restoreMetadata`, with the element after it. -/
def restoreMetadata : MediaRecovery × Option MediaElement × Bool :=
  match page.media with
  | none => (recovery, none, false)
  | some media =>
      if media.readyState < 1 ∨ recovery.phase ∈ [.scheduled, .failed, .disposed] then
        (recovery, some media, false)
      else
        match recovery.snapshot with
        | none => (recovery, some media, true)
        | some snapshot =>
            match recovery.seekRestored media snapshot with
            | (sought, none) => (sought, some media, false)
            | (sought, some held) =>
                if held.takesRate then
                  (sought, some { held with playbackRate := snapshot.rate }, true)
                else (sought, some held, false)

def canPlay : MediaRecovery × Bool :=
  if recovery.phase ∈ [.scheduled, .failed, .disposed] ∨
      (page.media.map MediaElement.readyState).getD 0 < 2 then
    (recovery, false)
  else
    match recovery.restoreMetadata page with
    | (restored, _, false) | (restored, none, true) => (restored, false)
    | (restored, some media, true) =>
        match restored.seekReady media with
        | (held, false) => (held, false)
        | (held, true) =>
            let ready := { held with snapshot := none, phase := .ready }.clearTimer
            (ready.startStallWatch { page with media := some media }, true)

def setPosition (position : Number) : MediaRecovery :=
  match position with
  | .fin position =>
      if position < 0 then recovery
      else
        match recovery.snapshot, page.media with
        | some snapshot, _ => { recovery with snapshot := some { snapshot with position } }
        | none, some media => (recovery.seek media position).1
        | none, none => recovery
  | _ => recovery

def setPlaybackRate (rate : ℚ) : MediaRecovery :=
  { recovery with snapshot := recovery.snapshot.map fun snapshot => { snapshot with rate } }

def dispose : MediaRecovery :=
  { recovery with generation := recovery.generation + 1, phase := .disposed }.clearTimer
    |>.stopStallWatch

end MediaRecovery

/-- What reaches the controller. -/
inductive RecoveryCall where
  | reset
  | retry
  | handleError (error : MediaPlayerError)
  | restoreMetadata
  | canPlay
  | setPosition (position : Number)
  | setPlaybackRate (rate : ℚ)
  | dispose
  /-- The pending timer fires. -/
  | timer
  /-- The interval of the stall watch. -/
  | checkStall
  /-- A restart of this generation is rejected. -/
  | rejected (generation : Nat)
deriving DecidableEq

namespace MediaRecovery

variable (page : PlayerPage) (recovery : MediaRecovery)

/-- The error that a call hands to `handleError`, with the state in which it does so. -/
def reported : RecoveryCall → Option (MediaRecovery × MediaPlayerError)
  | .handleError error => some (recovery, error)
  | .timer =>
      match recovery.timer with
      | none => none
      | some .timeout => some ({ recovery with timer := none }, recovery.lastError)
      | some (.retry _) =>
          if page.restartThrows then
            let restarted := recovery.restarted false
            some (restarted, restarted.lastError)
          else none
  | .rejected generation =>
      if generation ∈ recovery.restarting ∧ recovery.generation = generation ∧
          recovery.phase ≠ .disposed then
        some ({ recovery with restarting := recovery.restarting.erase generation },
          recovery.lastError)
      else none
  | _ => none

/-- The controller after a call. A timer or an interval that is not pending does nothing. -/
def next : RecoveryCall → MediaRecovery
  | .reset => recovery.reset page
  | .retry => recovery.retry page
  | .handleError error => recovery.handleError page error
  | .restoreMetadata => (recovery.restoreMetadata page).1
  | .canPlay => (recovery.canPlay page).1
  | .setPosition position => recovery.setPosition page position
  | .setPlaybackRate rate => recovery.setPlaybackRate rate
  | .dispose => recovery.dispose
  | .timer =>
      match recovery.timer with
      | none => recovery
      | some (.retry _) => recovery.runRecovery page false
      | some .timeout => { recovery with timer := none }.handleError page recovery.lastError
  | .checkStall => if recovery.stallWatch then recovery.checkStall page else recovery
  | .rejected generation =>
      if generation ∈ recovery.restarting then
        let settled :=
          { recovery with restarting := recovery.restarting.erase generation }
        if settled.generation = generation ∧ settled.phase ≠ .disposed then
          settled.handleError page settled.lastError
        else settled
      else recovery

/-- The controller in its surroundings, from its creation on. -/
def system : Lib.TransitionSystem MediaRecovery (RecoveryCall × PlayerPage) where
  Initial recovery := recovery = {}
  Step before label after := after = before.next label.2 label.1

end MediaRecovery

end OpenTogetherTube
