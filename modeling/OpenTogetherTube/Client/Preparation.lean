import OpenTogetherTube.Lib.Tasks
import OpenTogetherTube.Common.Models

/-!
# A viewer's side of a preparation round

Embeds `createPlaybackPreparation` of `client/src/util/playback-preparation.ts`, cut at its
awaits. A `Preparer` is what the closure keeps; what `getState` returns, the player's position
and whether its calls reject come with each piece. Sources and players are compared by
identity, so they carry a number that stands for the object.
-/

namespace OpenTogetherTube

open Lib

/-- The `phase` of `PlaybackPreparationState`. -/
inductive PreparationPhase where
  | idle
  | aligning
  | preparing
  | waitingAck
  | failed
deriving DecidableEq

/-- The `phase` of `MediaLoadingState`. -/
inductive LoadingPhase where
  | preparing
  | seeking
  | buffering
  | waitingFrame
deriving DecidableEq

structure MediaLoadingState where
  phase : Option LoadingPhase := none
  currentTime : Option Number := none
  bufferAhead : Option Number := none
deriving DecidableEq

/-- The current source as the page holds it. -/
structure SourceObject where
  object : Nat
  video : VideoId
deriving DecidableEq

structure PreparationInput where
  preparation : Option PlaybackPreparation := none
  clientId : ClientId
  source : Option SourceObject := none
  player : Option Nat := none
  connected : Bool := true
  roomPlaying : Bool := false
  ready : Bool := true
  playing : Bool := true
  blocked : Bool := false
  error : Bool := false
  seeking : Bool := false
  recovering : Bool := false
  loading : Option MediaLoadingState := none
  visible : Option Bool := none
deriving DecidableEq

namespace PreparationInput

def hasFrame (state : PreparationInput) : Bool :=
  state.loading.any fun loading =>
    loading.phase.isNone && loading.currentTime.any Number.isFinite

def canPosition (state : PreparationInput) : Bool := state.ready && !state.error && !state.seeking

def usable (state : PreparationInput) : Bool := state.canPosition && !state.recovering

/-- `state.loading?.bufferAhead ?? null`. -/
def bufferAhead (state : PreparationInput) : Option Number :=
  state.loading.bind MediaLoadingState.bufferAhead

/-- The buffer is known to be short of what the source needs. -/
def bufferShort (state : PreparationInput) : Bool :=
  state.bufferAhead.any fun ahead =>
    ahead.lt (playbackReadyBufferSeconds (state.source.map fun source => source.video.service))

end PreparationInput

/-- `context`: the round as it was when the viewer took it up, and the objects it is about. -/
structure PreparationContext extends PlaybackPreparation where
  source : SourceObject
  player : Option Nat
deriving DecidableEq

def POSITION_TOLERANCE : ℚ := 1 / 4
def MAX_REALIGNMENTS : Nat := 2

/-- The variables of the closure. -/
structure Preparer where
  context : Option PreparationContext := none
  phase : PreparationPhase := .idle
  generation : Nat := 0
  inFlight : Option Nat := none
  positioned : Bool := false
  realignments : Nat := 0
  cancelledId : Option String := none
  disposed : Bool := false
  /-- How many symbols `tick` has made. -/
  symbols : Nat := 0
  /-- History: the reports of `sendReady` and `sendFailed`, newest first. -/
  sent : List PlaybackPrepared := []
deriving DecidableEq

/-- What a tick has in its hands at an await. -/
structure PreparationTick where
  preparation : PreparationContext
  request : Nat
  generation : Nat
  initialPosition : Bool
deriving DecidableEq

/-- The calls from outside. -/
inductive PreparerCall where
  | tick
  | retry
  | cancel
  | fail
  | dispose
deriving DecidableEq

/-- The awaits of `tick`. -/
inductive PreparerPoint where
  /-- At the first `getPosition`. -/
  | locating (tick : PreparationTick)
  /-- At the `pause` before a seek. -/
  | halting (tick : PreparationTick)
  /-- At `setPosition`. -/
  | seeking (tick : PreparationTick)
  /-- At the `pause` before the report. -/
  | freezing (tick : PreparationTick)
  /-- At the second `getPosition`. -/
  | confirming (tick : PreparationTick)
deriving DecidableEq

/-- The tick at an await. -/
def PreparerPoint.tick : PreparerPoint → PreparationTick
  | .locating tick | .halting tick | .seeking tick | .freezing tick | .confirming tick => tick

/-- What a piece sees. -/
structure PreparerAnswer where
  state : PreparationInput
  /-- What `getPosition` resolves to. -/
  position : Number := 0
  /-- The awaited call rejects. -/
  rejects : Bool := false
deriving DecidableEq

namespace Preparer

/-- Where a call goes on from. -/
abbrev Result := Preparer × Rest PreparerPoint Empty

def isOwner (state : PreparationInput) (preparer : Preparer) : Bool :=
  !preparer.disposed && state.connected && decide (state.visible ≠ some false) &&
    !state.roomPlaying && decide (state.clientId ≠ "") &&
    state.preparation.any fun preparation =>
      decide (some preparation.id ≠ preparer.cancelledId) &&
        decide (state.clientId ∈ preparation.eligibleIds) &&
        decide (state.source.map SourceObject.video = some preparation.video) &&
        preparation.position.isFinite && Number.le 0 preparation.position

def «matches» (state : PreparationInput) (preparer : Preparer) : Bool :=
  preparer.isOwner state &&
    match preparer.context, state.preparation with
    | some context, some preparation =>
        decide (context.id = preparation.id) && decide (context.clientId = state.clientId) &&
          context.position.strictEq preparation.position &&
          decide (some context.source = state.source) && decide (context.player = state.player)
    | _, _ => false

/-- The context of a viewer that takes part. -/
def newContext (state : PreparationInput) (preparer : Preparer) : Option PreparationContext :=
  match preparer.isOwner state, state.preparation, state.source with
  | true, some preparation, some source =>
      some { preparation with source, player := state.player }
  | _, _, _ => none

def reconcile (state : PreparationInput) (preparer : Preparer) : Preparer :=
  if preparer.matches state then preparer
  else
    let context := preparer.newContext state
    { preparer with
      generation := preparer.generation + 1
      inFlight := none
      positioned := false
      realignments := 0
      context
      phase := if context.isSome then .aligning else .idle }

def fail (state : PreparationInput) (preparer : Preparer) : Preparer :=
  if preparer.matches state then
    { preparer with
      generation := preparer.generation + 1
      inFlight := none
      phase := .failed
      sent := (state.preparation.map fun preparation =>
        ({ id := preparation.id, position := 0, failed := true } : PlaybackPrepared)).toList ++
          preparer.sent }
  else preparer

def current (tick : PreparationTick) (state : PreparationInput) (preparer : Preparer) : Bool :=
  decide (preparer.generation = tick.generation) &&
    decide (preparer.inFlight = some tick.request) && preparer.matches state

def canContinue (tick : PreparationTick) (state : PreparationInput) : Bool :=
  if tick.initialPosition then state.canPosition else state.usable

/-- The `finally` of `tick`. -/
def release (tick : PreparationTick) (preparer : Preparer) : Result :=
  (if preparer.inFlight = some tick.request then { preparer with inFlight := none } else preparer,
    .done)

/-- The `catch` of `tick`. -/
def abort (tick : PreparationTick) (state : PreparationInput) (preparer : Preparer) : Result :=
  (if preparer.current tick state then preparer.fail state else preparer).release tick

/-- `tick` up to its first await. -/
def tick (state : PreparationInput) (preparer : Preparer) : Result :=
  let preparer := preparer.reconcile state
  match preparer.context with
  | none => (preparer, .done)
  | some context =>
      if preparer.inFlight.isSome || decide (preparer.phase = .failed) ||
          decide (preparer.phase = .waitingAck) || !state.canPosition ||
          (preparer.positioned &&
            (!state.usable || !state.hasFrame || !state.playing || state.blocked)) then
        (preparer, .done)
      else
        ({ preparer with inFlight := some preparer.symbols, symbols := preparer.symbols + 1 },
          .point (.locating
            ⟨context, preparer.symbols, preparer.generation, !preparer.positioned⟩))

/-- `tick` once it has a position. -/
def locate (tick : PreparationTick) (state : PreparationInput) (position : Number)
    (preparer : Preparer) : Result :=
  if !preparer.current tick state || !canContinue tick state then preparer.release tick
  else if !position.isFinite || position.lt 0 then preparer.abort tick state
  else if Number.farApart POSITION_TOLERANCE position tick.preparation.position then
    if preparer.positioned && decide (preparer.realignments ≥ MAX_REALIGNMENTS) then
      { preparer with realignments := preparer.realignments + 1 }.abort tick state
    else
      ({ preparer with
          realignments :=
            if preparer.positioned then preparer.realignments + 1 else preparer.realignments
          phase := .aligning },
        .point (.halting tick))
  else
    let preparer := { preparer with positioned := true, phase := .preparing }
    if !state.usable || !state.playing || state.blocked || !state.hasFrame || state.bufferShort then
      preparer.release tick
    else ({ preparer with phase := .waitingAck }, .point (.freezing tick))

/-- A tick that found its viewer unusable while it was freezing it. -/
def thaw (tick : PreparationTick) (state : PreparationInput) (preparer : Preparer) : Result :=
  (if preparer.current tick state then { preparer with phase := .preparing } else preparer).release
    tick

/-- The report of `sendReady`. -/
def readyReport (tick : PreparationTick) (state : PreparationInput) (position : Number) :
    PlaybackPrepared where
  id := tick.preparation.id
  position := position
  firstFrame := some true
  bufferAhead := state.bufferAhead
  visible := if state.visible = some false then some false else none

/-- `tick` with its viewer frozen and its position read again. -/
def confirm (tick : PreparationTick) (state : PreparationInput) (position : Number)
    (preparer : Preparer) : Result :=
  if !preparer.current tick state || !state.usable || state.blocked then preparer.thaw tick state
  else if !position.isFinite ||
      Number.farApart POSITION_TOLERANCE position tick.preparation.position then
    { preparer with phase := .preparing }.release tick
  else { preparer with sent := readyReport tick state position :: preparer.sent }.release tick

/-- What a tick does from an await on. -/
def resume (point : PreparerPoint) (answer : PreparerAnswer) (preparer : Preparer) : Result :=
  if answer.rejects then preparer.abort point.tick answer.state
  else
    match point with
    | .locating tick => preparer.locate tick answer.state answer.position
    | .halting tick =>
        if !preparer.current tick answer.state || !canContinue tick answer.state then
          preparer.release tick
        else (preparer, .point (.seeking tick))
    | .seeking tick =>
        if !preparer.current tick answer.state then preparer.release tick
        else { preparer with positioned := true, phase := .preparing }.release tick
    | .freezing tick =>
        if !preparer.current tick answer.state || !answer.state.usable || answer.state.blocked then
          preparer.thaw tick answer.state
        else (preparer, .point (.confirming tick))
    | .confirming tick => preparer.confirm tick answer.state answer.position

def retry (state : PreparationInput) (preparer : Preparer) : Preparer :=
  let preparer := preparer.reconcile state
  if preparer.context.isNone then preparer
  else
    { preparer with
      generation := preparer.generation + 1
      inFlight := none
      positioned := false
      realignments := 0
      phase := .aligning }

def cancel (state : PreparationInput) (preparer : Preparer) : Preparer :=
  { preparer with cancelledId := state.preparation.map PlaybackPreparation.id }.reconcile state

def dispose (state : PreparationInput) (preparer : Preparer) : Preparer :=
  { preparer with disposed := true }.reconcile state

/-- The first piece of each call. -/
def call (call : PreparerCall) (answer : PreparerAnswer) (preparer : Preparer) : Result :=
  match call with
  | .tick => preparer.tick answer.state
  | .retry => (preparer.retry answer.state, .done)
  | .cancel => (preparer.cancel answer.state, .done)
  | .fail => (preparer.fail answer.state, .done)
  | .dispose => (preparer.dispose answer.state, .done)

/-- The calls of one viewer as tasks. -/
def program : Program Preparer PreparerCall PreparerAnswer PreparerPoint Empty where
  call := call
  resume := resume
  serve guarded _ _ := guarded.elim

/-- Every run of one viewer's page, whatever it is fed. -/
def system : TransitionSystem (Tasks Preparer PreparerPoint Empty)
    (TaskLabel PreparerCall PreparerAnswer) :=
  program.system fun preparer => preparer = {}

end Preparer

end OpenTogetherTube
