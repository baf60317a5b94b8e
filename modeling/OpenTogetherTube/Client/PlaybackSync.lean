import Mathlib.Algebra.Field.Rat
import Mathlib.Data.Sign.Basic
import OpenTogetherTube.Lib.Cooldown
import OpenTogetherTube.Lib.Number
import OpenTogetherTube.Lib.Transition

/-!
# The synchronisation of playback with the room

Embeds `createPlaybackSync` of `client/src/util/playback-sync.ts`. A function is cut where it
awaits: what comes after the `await` is a call of its own, made when the promise settles, and any
other calls may come in between. What the options answer, and `Date.now()`, are read afresh in every
call. The trace records what the code does to the player and what it measures; the code never reads
it.
-/

namespace OpenTogetherTube

open Lib

/-- `source` and `player` are compared by identity, so a number stands for each object. -/
structure PlaybackSyncState where
  source : Option Nat := none
  player : Option Nat := none
  ready : Bool := true
  error : Bool := false
  blocked : Bool := false
  seeking : Bool := false
  recovering : Bool := false
  buffering : Bool := false
  bufferAhead : Option Number := none
  live : Bool := false
  playing : Bool := true
  temporarySpeed : Bool := false
  position : Number := 0

/-- A function of the options may return at once, return a promise, or throw. -/
inductive Reply (α : Type) where
  | returned (value : α)
  | promised
  | threw
deriving DecidableEq

/-- What the options answer during one call, and `Date.now()`. -/
structure PlaybackSyncOptions where
  getState : PlaybackSyncState := {}
  getPosition : Reply Number := .promised
  setPosition : Reply Unit := .returned ()
  getBendBase : Option Number := none
  setLocalRate : Reply Unit := .returned ()
  allowRateBend : Option Bool := none
  now : Nat := 0

def playbackInitialMaxDriftSeconds : ℚ := 10

def playbackInitialSyncCooldownMs : Nat := 8000

def playbackMinSeekBufferSeconds : ℚ := 3 / 2

def bendStart : ℚ := 3 / 10

def bendStop : ℚ := 15 / 100

def maxBend : ℚ := 8 / 100

def hardSeekDrift : ℚ := 3

def catchupFull : ℚ := 1

def catchupMaxBend : ℚ := 15 / 100

/-- `BEND_DEADLINE_MS`. -/
def bendDeadlineMinimumMs : ℚ := 8000

def maxBendDeadlineMs : ℚ := 30000

def rateWriteThreshold : ℚ := 2 / 1000

def bendCeiling (magnitude : ℚ) : ℚ :=
  if magnitude ≤ catchupFull then maxBend
  else
    maxBend + (min magnitude hardSeekDrift - catchupFull) / (hardSeekDrift - catchupFull) *
      (catchupMaxBend - maxBend)

def bendDeadlineMs (magnitude ceiling : ℚ) : ℚ :=
  min maxBendDeadlineMs (max bendDeadlineMinimumMs (magnitude / ceiling * 1000 * (5 / 4)))

/-- Why a seek is made: one that was asked for brings its reason along. -/
inductive SeekReason where
  | asked (reason : String)
  | driftLarge
  | bendDeadline
deriving DecidableEq

def SeekReason.text : SeekReason → String
  | .asked reason => reason
  | .driftLarge => "drift-large"
  | .bendDeadline => "bend-deadline"

def SeekReason.isAutomatic : SeekReason → Bool
  | .asked _ => false
  | _ => true

/-- The base speed of a moment and the one the bend is using then. -/
structure BaseSpeeds where
  current : Option ℚ
  bend : Option ℚ

/-- `base` is the base speed of the moment or the one the bend is using. -/
def BaseSpeeds.Has (speeds : BaseSpeeds) (base : ℚ) : Prop :=
  speeds.current = some base ∨ speeds.bend = some base

/-- What the trace records. -/
inductive SyncEvent where
  /-- A state in which the player is buffering has been read. -/
  | buffering
  | reset
  | sought (at_ : Nat) (reason : SeekReason) (position : Number) (buffering : Bool)
  | wroteRate (rate : ℚ) (speeds : BaseSpeeds)
  | measured (drift : ℚ)
  | bendBegan (at_ : Nat) (drift : ℚ)
  | bendOver (speeds : BaseSpeeds)
  | reportedError

/-- What is awaited: a position, by an observation or to see whether a drift is large; a position
set; a rate written; or nothing more than the end of the call. The request is the observation that
ends with it. -/
inductive Awaited where
  | observed (request generation : Nat) (source player : Option Nat)
  | tolerated (reason : String)
  | positionSet (generation : Nat) (request : Option Nat)
  | rateWritten (generation : Nat) (request : Option Nat)
  | ended (request : Nat)
deriving DecidableEq

/-- How a promise settles. Only a promised position has a value that is looked at. -/
inductive Settlement where
  | resolved (position : Number)
  | rejected
deriving DecidableEq

/-- The variables of `createPlaybackSync`. Requests are told apart by numbers, in place of symbols,
and `none` is the `-Infinity` of `lastSeekAt`. -/
structure PlaybackSync where
  /-- Whether the options have a `setLocalRate`. -/
  takesRate : Bool := true
  source : Option Nat := none
  player : Option Nat := none
  generation : Nat := 0
  lastSeekAt : Option Nat := none
  bufferedSinceLastSeek : Bool := false
  initialSyncUntil : Nat := 0
  pendingSeek : Bool := false
  pendingSeekToleratesDrift : Bool := false
  pendingSeekReason : String := ""
  inFlight : Option Nat := none
  disposed : Bool := false
  bendStartedAt : Option Nat := none
  bendBase : Option ℚ := none
  bendOffset : Option ℚ := none
  appliedRate : Option ℚ := none
  bendPeak : ℚ := 0
  bendDeadlineAt : ℚ := 0
  rateWrites : Nat := 0
  deadlineSeeks : Nat := 0
  maxAbsDrift : Number := 0
  requests : Nat := 0
  awaiting : List Awaited := []
  trace : List SyncEvent := []

namespace PlaybackSync

variable (options : PlaybackSyncOptions) (sync : PlaybackSync)

def record (event : SyncEvent) : PlaybackSync := { sync with trace := event :: sync.trace }

def await (awaited : Awaited) : PlaybackSync := { sync with awaiting := awaited :: sync.awaiting }

/-- The state that `getState` has returned is one in which the player buffers or not. -/
def read (state : PlaybackSyncState) : PlaybackSync :=
  if state.buffering then sync.record .buffering else sync

/-- The `finally` of an observation. -/
def finish (request : Nat) : PlaybackSync :=
  if sync.inFlight = some request then { sync with inFlight := none } else sync

/-- An observation, if there is one, ends once its current call has returned. -/
def awaitEnd (request : Option Nat) : PlaybackSync :=
  match request with
  | none => sync
  | some request => sync.await (.ended request)

/-- Reports an error, unless the call that it comes from has been overtaken. -/
def onError (generation : Nat) : PlaybackSync :=
  if sync.disposed = false ∧ generation = sync.generation then sync.record .reportedError else sync

def getBendBase : Option ℚ :=
  if options.allowRateBend = some false then none
  else
    match options.getBendBase with
    | some (.fin base) => if sync.takesRate ∧ 0 < base then some base else none
    | _ => none

def baseSpeeds : BaseSpeeds := ⟨sync.getBendBase options, sync.bendBase⟩

/-- `failed` of `writeRate`. -/
def rateFailed (generation : Nat) : PlaybackSync :=
  if sync.disposed = false ∧ generation = sync.generation then
    { sync with appliedRate := none }.onError generation
  else sync

/-- Writes a rate that differs from the applied one by more than the threshold. -/
def setRate (rate : ℚ) (request : Option Nat) : PlaybackSync :=
  let counted := { sync with appliedRate := some rate, rateWrites := sync.rateWrites + 1 }
  if sync.takesRate = false then counted.awaitEnd request
  else
    let written := counted.record (.wroteRate rate (sync.baseSpeeds options))
    match options.setLocalRate with
    | .returned _ => written.awaitEnd request
    | .promised => written.await (.rateWritten sync.generation request)
    | .threw => (written.rateFailed sync.generation).awaitEnd request

/-- `writeRate`, for the observation that awaits it, if one does. -/
def writeRate (rate : ℚ) (request : Option Nat) : PlaybackSync :=
  match sync.appliedRate with
  | some applied =>
      if |rate - applied| ≤ rateWriteThreshold then sync.awaitEnd request
      else sync.setRate options rate request
  | none => sync.setRate options rate request

/-- Goes back to the base speed when a bend is cancelled. -/
def restoreRate : PlaybackSync :=
  match sync.bendStartedAt with
  | none => sync
  | some _ =>
      let ended := sync.record (.bendOver (sync.baseSpeeds options))
      match (sync.getBendBase options).or sync.bendBase with
      | some base => ended.writeRate options base none
      | none => ended

def cancelBend : PlaybackSync :=
  { sync.restoreRate options with
    bendStartedAt := none
    bendBase := none
    bendOffset := none
    bendPeak := 0
    bendDeadlineAt := 0
    appliedRate := none }

def invalidateRate : PlaybackSync :=
  { sync with generation := sync.generation + 1, inFlight := none }.cancelBend options

def resetMetrics : PlaybackSync :=
  { sync with rateWrites := 0, deadlineSeeks := 0, maxAbsDrift := 0 }

def reset : PlaybackSync :=
  { (sync.invalidateRate options).resetMetrics.record .reset with
    lastSeekAt := none
    bufferedSinceLastSeek := false
    initialSyncUntil := options.now + playbackInitialSyncCooldownMs
    pendingSeek := true
    pendingSeekToleratesDrift := false
    pendingSeekReason := "reset"
    inFlight := none }

def canSeek (state : PlaybackSyncState) : Bool :=
  !sync.disposed && state.source.isSome && state.player.isSome && state.ready && !state.error &&
    state.position.isFinite && (0 : Number).le state.position

def canObserve (state : PlaybackSyncState) : Bool :=
  sync.canSeek state && !state.blocked && !state.seeking && !state.recovering && !state.buffering

def hasSeekBuffer (state : PlaybackSyncState) : Bool :=
  match state.bufferAhead with
  | none => true
  | some ahead => (Number.fin playbackMinSeekBufferSeconds).le ahead

/-- The last seek and the buffering since, as the cooldown of automatic seeks. -/
def cooldown : Cooldown Nat := ⟨sync.lastSeekAt, sync.bufferedSinceLastSeek⟩

def canSeekNow (state : PlaybackSyncState) : Bool :=
  sync.canObserve state &&
    match sync.lastSeekAt with
    | none => true
    | some last => decide (last + (if sync.bufferedSinceLastSeek then 8000 else 2000) ≤ options.now)

/-- `seek`, for the observation that awaits it, if one does. -/
def seek (state : PlaybackSyncState) (reason : SeekReason) (request : Option Nat) : PlaybackSync :=
  let counted :=
    if reason.text = "bend-deadline" then { sync with deadlineSeeks := sync.deadlineSeeks + 1 }
    else sync
  let sought :=
    { counted.cancelBend options with
      lastSeekAt := some options.now
      bufferedSinceLastSeek := state.buffering }.record
        (.sought options.now reason state.position state.buffering)
  match options.setPosition with
  | .returned _ => sought.awaitEnd request
  | .promised => sought.await (.positionSet sought.generation request)
  | .threw => (sought.onError sought.generation).awaitEnd request

/-- Whether `seekIfDriftIsLarge` gives up when it has the position. -/
def givesUp (latest : PlaybackSyncState) : Bool :=
  sync.disposed || latest.live || decide (sync.source ≠ latest.source) ||
    decide (sync.player ≠ latest.player) || !sync.canSeek latest

/-- Whether the drift is large enough to seek, for `seekIfDriftIsLarge`. -/
def driftIsLarge (position : Number) : Bool :=
  let latest := options.getState
  let drift := latest.position.absDiff position
  let canBend := latest.playing && !latest.temporarySpeed && (sync.getBendBase options).isSome
  let limit := if canBend then hardSeekDrift else bendStart
  (!position.isFinite || (Number.fin limit).lt drift) && hasSeekBuffer latest

/-- `seekIfDriftIsLarge`, from where it has the position. -/
def seekTolerated (reason : String) (position : Number) : PlaybackSync :=
  let latest := options.getState
  let current := sync.read latest
  if current.givesUp latest then current
  else
    let drift := latest.position.absDiff position
    let measured := { current with maxAbsDrift := current.maxAbsDrift.maximum drift }
    if measured.driftIsLarge options position then measured.seek options latest (.asked reason) none
    else measured

def seekIfDriftIsLarge (reason : String) : PlaybackSync :=
  match options.getPosition with
  | .returned position => sync.seekTolerated options reason position
  | .promised => sync.await (.tolerated reason)
  | .threw => sync

/-- A new source or player is taken over, and synchronised from the start. -/
def follow (state : PlaybackSyncState) : PlaybackSync :=
  if sync.source ≠ state.source ∨ sync.player ≠ state.player then
    { sync with source := state.source, player := state.player }.reset options
  else sync

def seekPending (state : PlaybackSyncState) : PlaybackSync :=
  let taken := { sync with pendingSeek := false, pendingSeekToleratesDrift := false }
  if sync.pendingSeekToleratesDrift then
    taken.seekIfDriftIsLarge options sync.pendingSeekReason
  else taken.seek options state (.asked sync.pendingSeekReason) none

/-- Begins an observation, up to where it awaits the position. -/
def observe (state : PlaybackSyncState) : PlaybackSync :=
  let request := sync.requests
  let asked := { sync with requests := request + 1, inFlight := some request }
  match options.getPosition with
  | .threw => (asked.onError sync.generation).finish request
  | _ => asked.await (.observed request sync.generation state.source state.player)

def tick : PlaybackSync :=
  if sync.disposed then sync
  else
    let state := options.getState
    let current := (sync.follow options state).read state
    if state.live then current.cancelBend options
    else
      let noted :=
        { current with
          bufferedSinceLastSeek := current.bufferedSinceLastSeek || state.buffering }
      let steady :=
        if !noted.canObserve state || !state.playing || state.temporarySpeed then
          noted.cancelBend options
        else noted
      if !steady.canSeek state then steady
      -- An explicit seek is not kept back by what keeps back an observation.
      else if steady.pendingSeek then steady.seekPending options state
      else if steady.inFlight.isSome || !steady.canObserve state then steady
      else steady.observe options state

def beginBend (base drift : ℚ) (request : Nat) : PlaybackSync :=
  let ceiling := bendCeiling |drift|
  let offset := SignType.sign drift * ceiling
  ({ sync with
      bendStartedAt := some options.now
      bendPeak := |drift|
      bendDeadlineAt := options.now + bendDeadlineMs |drift| ceiling
      bendOffset := some offset }.record (.bendBegan options.now drift)).writeRate options
    (base * (1 + offset)) (some request)

/-- The drift has changed its direction: another correction, at another rate. -/
def turnBend (base drift : ℚ) (request : Nat) : PlaybackSync :=
  let ceiling := bendCeiling |drift|
  let offset := SignType.sign drift * ceiling
  { sync with
    bendPeak := |drift|
    bendDeadlineAt := options.now + bendDeadlineMs |drift| ceiling
    bendOffset := some offset }.writeRate options (base * (1 + offset)) (some request)

/-- The drift has grown: the deadline follows, and the rate where it differs enough. -/
def growBend (startedAt : Nat) (base drift : ℚ) (request : Nat) : PlaybackSync :=
  let ceiling := bendCeiling |drift|
  let next := SignType.sign drift * ceiling
  let grown :=
    { sync with
      bendPeak := |drift|
      bendDeadlineAt := startedAt + bendDeadlineMs |drift| ceiling }
  if ∀ offset ∈ sync.bendOffset, rateWriteThreshold < |next - offset| then
    { grown with bendOffset := some next }.writeRate options (base * (1 + next)) (some request)
  else grown.finish request

/-- Begins the bend, or goes on with it. -/
def holdBend (base drift : ℚ) (request : Nat) : PlaybackSync :=
  let held := { sync with bendBase := some base }
  match sync.bendStartedAt with
  | none => held.beginBend options base drift request
  | some startedAt =>
      if ∃ offset ∈ sync.bendOffset, SignType.sign offset ≠ SignType.sign drift then
        held.turnBend options base drift request
      else if sync.bendPeak < |drift| then
        held.growBend options startedAt base drift request
      else
        match sync.appliedRate, sync.bendOffset with
        | none, some offset => held.writeRate options (base * (1 + offset)) (some request)
        | _, _ => held.finish request

/-- Corrects a drift that is not seeked, where the player takes rates. -/
def bend (latest : PlaybackSyncState) (base drift : ℚ) (request : Nat) : PlaybackSync :=
  let current :=
    if sync.bendBase.isSome ∧ sync.bendBase ≠ some base then sync.cancelBend options else sync
  if if current.bendStartedAt.isSome then |drift| ≤ bendStop + 1 / 1000000000
      else |drift| < bendStart then
    (current.cancelBend options).finish request
  else if current.bendStartedAt.isSome ∧ current.bendDeadlineAt ≤ options.now then
    let ended := current.cancelBend options
    if ended.canSeekNow options latest && hasSeekBuffer latest then
      ended.seek options latest .bendDeadline (some request)
    else ended.finish request
  else current.holdBend options base drift request

/-- Corrects a drift that has been observed. -/
def correct (latest : PlaybackSyncState) (drift : ℚ) (request : Nat) : PlaybackSync :=
  let measured :=
    { sync with maxAbsDrift := sync.maxAbsDrift.maximum (.fin |drift|) }.record (.measured drift)
  let base :=
    if latest.playing && !latest.temporarySpeed then measured.getBendBase options else none
  let seekLimit :=
    if base.isSome then
      if options.now < measured.initialSyncUntil then playbackInitialMaxDriftSeconds
      else hardSeekDrift
    else 1
  if seekLimit < |drift| ∧ measured.canSeekNow options latest ∧ hasSeekBuffer latest then
    measured.seek options latest .driftLarge (some request)
  else
    match base with
    | none => (measured.cancelBend options).finish request
    | some base => measured.bend options latest base drift request

/-- Whether the position is still asked for by the observation that awaited it. -/
def isCurrent (request generation : Nat) (source player : Option Nat) : Prop :=
  sync.inFlight = some request ∧ generation = sync.generation ∧
    source = options.getState.source ∧ player = options.getState.player

instance (request generation : Nat) (source player : Option Nat) :
    Decidable (sync.isCurrent options request generation source player) :=
  inferInstanceAs (Decidable (_ ∧ _ ∧ _ ∧ _))

/-- An observation, from where it has the position. -/
def observed (request generation : Nat) (source player : Option Nat) (position : Number) :
    PlaybackSync :=
  let latest := options.getState
  let current := sync.read latest
  if ¬ current.isCurrent options request generation source player then current.finish request
  else
    match latest.position, position with
    | .fin there, .fin here =>
        if current.canObserve latest then current.correct options latest (there - here) request
        else (current.cancelBend options).finish request
    -- A position that is not finite cannot be observed.
    | _, _ => (current.cancelBend options).finish request

def finishRequest (request : Option Nat) : PlaybackSync :=
  match request with
  | none => sync
  | some request => sync.finish request

/-- What comes after an `await`. -/
def settle (awaited : Awaited) (settlement : Settlement) : PlaybackSync :=
  let current := { sync with awaiting := sync.awaiting.erase awaited }
  match awaited, settlement with
  | .observed request generation source player, .resolved position =>
      current.observed options request generation source player position
  | .observed request generation _ _, .rejected =>
      (current.onError generation).finish request
  | .tolerated reason, .resolved position => current.seekTolerated options reason position
  | .tolerated _, .rejected => current
  | .positionSet _ request, .resolved _ => current.finishRequest request
  | .positionSet generation request, .rejected =>
      (current.onError generation).finishRequest request
  | .rateWritten _ request, .resolved _ => current.finishRequest request
  | .rateWritten generation request, .rejected =>
      (current.rateFailed generation).finishRequest request
  | .ended request, _ => current.finish request

def requestSeek (reason : String) (tolerateSmallDrift : Bool) : PlaybackSync :=
  let asked :=
    { sync with
      pendingSeek := true
      pendingSeekToleratesDrift := tolerateSmallDrift
      pendingSeekReason := reason }
  ({ asked.invalidateRate options with inFlight := none }).tick options

def dispose : PlaybackSync :=
  { sync.cancelBend options with
    disposed := true
    generation := sync.generation + 1
    inFlight := none }

/-- The calls, with the settling of a promise that is awaited. -/
inductive SyncCall where
  | tick
  | requestSeek (reason : String) (tolerateSmallDrift : Bool)
  | invalidateRate
  | reset
  | dispose
  | resetMetrics
  | settle (awaited : Awaited) (settlement : Settlement)
deriving DecidableEq

def next (call : SyncCall) : PlaybackSync :=
  match call with
  | .tick => sync.tick options
  | .requestSeek reason tolerateSmallDrift => sync.requestSeek options reason tolerateSmallDrift
  | .invalidateRate => sync.invalidateRate options
  | .reset => sync.reset options
  | .dispose => sync.dispose options
  | .resetMetrics => sync.resetMetrics
  | .settle awaited settlement => sync.settle options awaited settlement

/-- Only what is awaited settles. -/
def Possible (call : SyncCall) : Prop :=
  match call with
  | .settle awaited _ => awaited ∈ sync.awaiting
  | _ => True

/-- Any calls in any order, each with what the options answer in it. -/
def system : TransitionSystem PlaybackSync (SyncCall × PlaybackSyncOptions) where
  Initial sync := ∃ takesRate, sync = { takesRate }
  Step before label after :=
    before.Possible label.1 ∧ after = before.next label.2 label.1

end PlaybackSync

end OpenTogetherTube
