import OpenTogetherTube.Room.Clock
import OpenTogetherTube.Room.Preparation

/-!
# What each playback method changes

For every method an equation for each part of the state it leaves: the clock in terms of
the clock operations, the held start, the gate, the source. Later modules rewrite with
these and unfold none of the methods.
-/

namespace OpenTogetherTube

open Lib

namespace HeldStart

/-- No round and no intent to play. -/
def dropped (held : HeldStart) : HeldStart :=
  { held with playbackPreparation := none, resumeOnNextJoin := false }

end HeldStart

namespace GateState

/-- The gate after the current source was set. -/
def sourceSet (source : Option VideoId) (now : Int) (gate : GateState) : GateState :=
  { gate with
    bufferGate := none
    bufferGateExhausted := []
    lastPlayAt := some now
    gateTrace := .sourceSet source :: gate.gateTrace }

/-- The gate after a viewer chose to continue. -/
def continued (now : Int) (gate : GateState) : GateState :=
  if gate.bufferGate.isSome then
    { gate with
      bufferGate := none
      bufferGateCooldownUntil := some (now + BUFFER_GATE_COOLDOWN_MS)
      gateTrace := .continued now :: gate.gateTrace }
  else gate

/-- The gate opened. -/
def opened (gate : GateState) : GateState := { gate with bufferGate := none }

/-- The gate after a release; `exhausted` are the viewers whose wait ran out. -/
def released (timedOut : Bool) (exhausted : List ClientId) (now : Int) (gate : GateState) :
    GateState :=
  { gate with
    bufferGate := none
    gateTrace := .released now timedOut exhausted :: gate.gateTrace
    bufferGateCooldownUntil :=
      if timedOut then some (now + BUFFER_GATE_COOLDOWN_MS) else gate.bufferGateCooldownUntil
    bufferGateExhausted := gate.bufferGateExhausted.addAll exhausted }

@[simp] theorem continued_bufferGate (gate : GateState) (now : Int) :
    (gate.continued now).bufferGate = none := by
  unfold continued
  split
  · rfl
  · rename_i free
    simpa using free

@[simp] theorem continued_bufferGateExhausted (gate : GateState) (now : Int) :
    (gate.continued now).bufferGateExhausted = gate.bufferGateExhausted := by
  unfold continued
  split <;> rfl

end GateState

namespace Playback

variable (p : Playback) (now : Int)

@[simp] theorem markDirty_frame (property : SyncProp) :
    (p.markDirty property).toRoomClock = p.toRoomClock ∧
      (p.markDirty property).toHeldStart = p.toHeldStart ∧
      (p.markDirty property).toGateState = p.toGateState ∧
      (p.markDirty property).currentSource = p.currentSource ∧
      (p.markDirty property).restoredFromStorage = p.restoredFromStorage :=
  ⟨rfl, rfl, rfl, rfl, rfl⟩

@[simp] theorem countWatched_frame :
    (p.countWatched now).toRoomClock = p.toRoomClock ∧
      (p.countWatched now).toHeldStart = p.toHeldStart ∧
      (p.countWatched now).toGateState = p.toGateState ∧
      (p.countWatched now).toPending = p.toPending ∧
      (p.countWatched now).currentSource = p.currentSource ∧
      (p.countWatched now).restoredFromStorage = p.restoredFromStorage :=
  ⟨rfl, rfl, rfl, rfl, rfl, rfl⟩

@[simp] theorem flushPlaybackPosition_frame :
    (p.flushPlaybackPosition now).toRoomClock = p.toRoomClock.flush now ∧
      (p.flushPlaybackPosition now).toHeldStart = p.toHeldStart ∧
      (p.flushPlaybackPosition now).toGateState = p.toGateState ∧
      (p.flushPlaybackPosition now).currentSource = p.currentSource ∧
      (p.flushPlaybackPosition now).restoredFromStorage = p.restoredFromStorage :=
  ⟨rfl, rfl, rfl, rfl, rfl⟩

@[simp] theorem endTemporaryPlaybackSpeed_frame (restore : Bool) :
    (p.endTemporaryPlaybackSpeed restore now).toHeldStart = p.toHeldStart ∧
      (p.endTemporaryPlaybackSpeed restore now).toGateState = p.toGateState ∧
      (p.endTemporaryPlaybackSpeed restore now).currentSource = p.currentSource ∧
      (p.endTemporaryPlaybackSpeed restore now).restoredFromStorage = p.restoredFromStorage := by
  unfold endTemporaryPlaybackSpeed
  dsimp only
  cases p.temporarySpeed with
  | none => exact ⟨rfl, rfl, rfl, rfl⟩
  | some previous =>
      cases restore with
      | false => exact ⟨rfl, rfl, rfl, rfl⟩
      | true => exact ⟨rfl, rfl, rfl, rfl⟩

@[simp] theorem endTemporaryPlaybackSpeed_clock :
    (p.endTemporaryPlaybackSpeed true now).toRoomClock = p.toRoomClock.restoreSpeed now := by
  unfold endTemporaryPlaybackSpeed RoomClock.restoreSpeed
  dsimp only
  cases p.temporarySpeed with
  | none => rfl
  | some previous => rfl

@[simp] theorem endTemporaryPlaybackSpeed_override :
    (p.endTemporaryPlaybackSpeed false now).toRoomClock =
      { p.toRoomClock with temporarySpeed := none } := by
  unfold endTemporaryPlaybackSpeed
  dsimp only
  cases speed : p.temporarySpeed with
  | none =>
      dsimp only
      rw [← speed]
  | some previous => rfl

@[simp] theorem assignIsPlaying_frame (value : Bool) :
    (p.assignIsPlaying value now).toHeldStart = p.toHeldStart ∧
      (p.assignIsPlaying value now).toGateState = p.toGateState ∧
      (p.assignIsPlaying value now).currentSource = p.currentSource ∧
      (p.assignIsPlaying value now).restoredFromStorage = p.restoredFromStorage := by
  cases value with
  | true => exact ⟨rfl, rfl, rfl, rfl⟩
  | false => exact endTemporaryPlaybackSpeed_frame p now true

@[simp] theorem assignIsPlaying_true_clock :
    (p.assignIsPlaying true now).toRoomClock = { p.toRoomClock with isPlaying := true } := rfl

@[simp] theorem assignIsPlaying_false_clock :
    (p.assignIsPlaying false now).toRoomClock =
      { p.toRoomClock.restoreSpeed now with isPlaying := false } := by
  rw [← endTemporaryPlaybackSpeed_clock]
  rfl

@[simp] theorem cancelPlaybackPreparation_frame :
    p.cancelPlaybackPreparation.toRoomClock = p.toRoomClock ∧
      p.cancelPlaybackPreparation.toHeldStart = p.toHeldStart.dropped ∧
      p.cancelPlaybackPreparation.toGateState = p.toGateState ∧
      p.cancelPlaybackPreparation.currentSource = p.currentSource ∧
      p.cancelPlaybackPreparation.restoredFromStorage = p.restoredFromStorage := by
  obtain ⟨clock, ⟨round, resume, rounds, starts⟩, gate, pending, source, restored, watched⟩ := p
  cases round with
  | none =>
      cases resume with
      | false => exact ⟨rfl, rfl, rfl, rfl, rfl⟩
      | true => exact ⟨rfl, rfl, rfl, rfl, rfl⟩
  | some preparation =>
      cases resume with
      | false => exact ⟨rfl, rfl, rfl, rfl, rfl⟩
      | true => exact ⟨rfl, rfl, rfl, rfl, rfl⟩

@[simp] theorem assignCurrentSource_frame (value : Option QueueItem) :
    (p.assignCurrentSource value now).toRoomClock = p.toRoomClock.restoreSpeed now ∧
      (p.assignCurrentSource value now).toHeldStart = p.toHeldStart.dropped ∧
      (p.assignCurrentSource value now).toGateState =
        p.toGateState.sourceSet (value.map QueueItem.toVideoId) now ∧
      (p.assignCurrentSource value now).currentSource = value ∧
      (p.assignCurrentSource value now).restoredFromStorage = p.restoredFromStorage := by
  unfold assignCurrentSource trace GateState.sourceSet
  simp

@[simp] theorem play_frame :
    (p.play now).toRoomClock = p.toRoomClock.start now ∧
      (p.play now).toHeldStart = p.toHeldStart.dropped ∧
      (p.play now).toGateState =
        { p.toGateState.continued now with
          lastPlayAt := if p.isPlaying then p.lastPlayAt else some now } ∧
      (p.play now).currentSource = p.currentSource ∧
      (p.play now).restoredFromStorage = false := by
  unfold play RoomClock.start GateState.continued trace
  cases gate : p.bufferGate with
  | none =>
      cases playing : p.isPlaying with
      | false => simp [gate, playing]
      | true =>
          simp [gate, playing]
          rw [← gate]
  | some hold =>
      cases playing : p.isPlaying with
      | false => simp [playing]
      | true => simp [playing]

@[simp] theorem pausePlaybackClock_frame :
    (p.pausePlaybackClock now).toRoomClock = p.toRoomClock.stop now ∧
      (p.pausePlaybackClock now).toHeldStart = p.toHeldStart ∧
      (p.pausePlaybackClock now).toGateState = p.toGateState ∧
      (p.pausePlaybackClock now).currentSource = p.currentSource ∧
      (p.pausePlaybackClock now).restoredFromStorage = p.restoredFromStorage := by
  unfold pausePlaybackClock RoomClock.stop
  simp only [endTemporaryPlaybackSpeed_clock, RoomClock.restoreSpeed_isPlaying]
  cases playing : p.isPlaying with
  | false => simp
  | true =>
      simp only [if_true]
      refine ⟨?_, by simp, by simp, by simp, by simp⟩
      rw [assignIsPlaying_false_clock, RoomClock.restoreSpeed_of_none]
      · simp
      · simp

@[simp] theorem pause_frame (byBufferGate : Bool) :
    (p.pause byBufferGate now).toRoomClock = p.toRoomClock.stop now ∧
      (p.pause byBufferGate now).toHeldStart = p.toHeldStart.dropped ∧
      (p.pause byBufferGate now).toGateState =
        (if byBufferGate then p.toGateState else p.toGateState.opened) ∧
      (p.pause byBufferGate now).currentSource = p.currentSource ∧
      (p.pause byBufferGate now).restoredFromStorage = p.restoredFromStorage := by
  cases byBufferGate with
  | false => simp [pause, GateState.opened]
  | true => simp [pause]

@[simp] theorem seekRaw_frame (value : Number) :
    (p.seekRaw value now).toRoomClock =
        { p.toRoomClock with playbackPosition := value, playbackStart := some now } ∧
      (p.seekRaw value now).toHeldStart = p.toHeldStart.dropped ∧
      (p.seekRaw value now).toGateState = p.toGateState ∧
      (p.seekRaw value now).currentSource = p.currentSource ∧
      (p.seekRaw value now).restoredFromStorage = p.restoredFromStorage := by
  unfold seekRaw assignPlaybackPosition
  simp

@[simp] theorem takeSource_frame (item : QueueItem) (position : Number) :
    (p.takeSource item position now).toRoomClock =
        { p.toRoomClock.restoreSpeed now with
          playbackPosition := position, playbackStart := some now } ∧
      (p.takeSource item position now).toHeldStart = p.toHeldStart.dropped ∧
      (p.takeSource item position now).toGateState =
        p.toGateState.sourceSet (some item.toVideoId) now ∧
      (p.takeSource item position now).currentSource = some item ∧
      (p.takeSource item position now).restoredFromStorage = p.restoredFromStorage := by
  unfold takeSource assignPlaybackPosition
  simp

@[simp] theorem clearBufferGate_frame (gate : BufferGate) (timedOut : Bool)
    (audience : Audience) :
    (p.clearBufferGate gate timedOut audience now).toRoomClock = p.toRoomClock ∧
      (p.clearBufferGate gate timedOut audience now).toHeldStart = p.toHeldStart ∧
      (p.clearBufferGate gate timedOut audience now).toGateState =
        p.toGateState.released timedOut
          (if timedOut && decide (audience.realusers.length = 1) then gate.waitingOn else []) now ∧
      (p.clearBufferGate gate timedOut audience now).currentSource = p.currentSource ∧
      (p.clearBufferGate gate timedOut audience now).restoredFromStorage =
        p.restoredFromStorage := by
  cases timedOut with
  | false => exact ⟨rfl, rfl, rfl, rfl, rfl⟩
  | true => exact ⟨rfl, rfl, rfl, rfl, rfl⟩

@[simp] theorem assignRound_frame (round : PlaybackPreparation) :
    (p.assignRound round).toRoomClock = p.toRoomClock ∧
      (p.assignRound round).toHeldStart =
        { p.toHeldStart with playbackPreparation := some round } ∧
      (p.assignRound round).toGateState = p.toGateState ∧
      (p.assignRound round).currentSource = p.currentSource ∧
      (p.assignRound round).restoredFromStorage = p.restoredFromStorage :=
  ⟨rfl, rfl, rfl, rfl, rfl⟩

@[simp] theorem assignPlaybackSpeed_frame (speed : ℚ) :
    (p.assignPlaybackSpeed speed).toRoomClock = { p.toRoomClock with playbackSpeed := speed } ∧
      (p.assignPlaybackSpeed speed).toHeldStart = p.toHeldStart ∧
      (p.assignPlaybackSpeed speed).toGateState = p.toGateState ∧
      (p.assignPlaybackSpeed speed).currentSource = p.currentSource ∧
      (p.assignPlaybackSpeed speed).restoredFromStorage = p.restoredFromStorage :=
  ⟨rfl, rfl, rfl, rfl, rfl⟩

@[simp] theorem changeSpeed_frame (speed : ℚ) :
    (p.changeSpeed speed now).toRoomClock =
        { ({ p.toRoomClock with temporarySpeed := none } : RoomClock).flush now with
          playbackSpeed := speed } ∧
      (p.changeSpeed speed now).toHeldStart = p.toHeldStart ∧
      (p.changeSpeed speed now).toGateState = p.toGateState ∧
      (p.changeSpeed speed now).currentSource = p.currentSource ∧
      (p.changeSpeed speed now).restoredFromStorage = p.restoredFromStorage := by
  unfold changeSpeed
  simp

@[simp] theorem startTemporarySpeed_frame (clientId : ClientId) (gestureId : String) :
    (p.startTemporarySpeed clientId gestureId now).toRoomClock =
        { p.toRoomClock.flush now with
          playbackSpeed := TEMPORARY_PLAYBACK_SPEED
          temporarySpeed :=
            some ⟨clientId, gestureId, TEMPORARY_PLAYBACK_SPEED, p.playbackSpeed⟩ } ∧
      (p.startTemporarySpeed clientId gestureId now).toHeldStart = p.toHeldStart ∧
      (p.startTemporarySpeed clientId gestureId now).toGateState = p.toGateState ∧
      (p.startTemporarySpeed clientId gestureId now).currentSource = p.currentSource ∧
      (p.startTemporarySpeed clientId gestureId now).restoredFromStorage =
        p.restoredFromStorage :=
  ⟨rfl, rfl, rfl, rfl, rfl⟩

@[simp] theorem noteRecovery_frame (clientId : ClientId) :
    (p.noteRecovery clientId).toRoomClock = p.toRoomClock ∧
      (p.noteRecovery clientId).toHeldStart = p.toHeldStart ∧
      (p.noteRecovery clientId).toGateState =
        { p.toGateState with
          bufferGateExhausted := p.bufferGateExhausted.remove clientId
          gateTrace := .recovered clientId :: p.gateTrace } ∧
      (p.noteRecovery clientId).currentSource = p.currentSource ∧
      (p.noteRecovery clientId).restoredFromStorage = p.restoredFromStorage :=
  ⟨rfl, rfl, rfl, rfl, rfl⟩

@[simp] theorem engageBufferGate_frame (waitingOn : List ClientId) :
    (p.engageBufferGate waitingOn now).toRoomClock = p.toRoomClock.stop now ∧
      (p.engageBufferGate waitingOn now).toHeldStart = p.toHeldStart.dropped ∧
      (p.engageBufferGate waitingOn now).toGateState =
        { p.toGateState with
          bufferGate := some ⟨now, waitingOn, true⟩
          gateTrace := .engaged now waitingOn :: p.gateTrace } ∧
      (p.engageBufferGate waitingOn now).currentSource = p.currentSource ∧
      (p.engageBufferGate waitingOn now).restoredFromStorage = p.restoredFromStorage := by
  unfold engageBufferGate trace
  simp

@[simp] theorem clearSource_frame :
    (p.clearSource now).isPlaying = false ∧
      (p.clearSource now).temporarySpeed = none ∧
      (p.clearSource now).toHeldStart = p.toHeldStart.dropped ∧
      (p.clearSource now).toGateState = p.toGateState.sourceSet none now ∧
      (p.clearSource now).currentSource = none ∧
      (p.clearSource now).restoredFromStorage = p.restoredFromStorage := by
  unfold clearSource assignPlaybackPosition
  cases playing : p.isPlaying with
  | false => simp [playing]
  | true => simp

@[simp] theorem holdClock_frame :
    (p.holdClock now).toRoomClock =
        { ({ p.toRoomClock.restoreSpeed now with playbackStart := none } : RoomClock) with
          isPlaying := false } ∧
      (p.holdClock now).toHeldStart = { p.toHeldStart with resumeOnNextJoin := true } ∧
      (p.holdClock now).toGateState = p.toGateState ∧
      (p.holdClock now).currentSource = p.currentSource ∧
      (p.holdClock now).restoredFromStorage = p.restoredFromStorage := by
  unfold holdClock
  simp [RoomClock.restoreSpeed_of_none]

/-- A release without a gate does nothing. With one it opens the gate, and plays when the
gate is what had paused the room. -/
theorem releaseBufferGate_cases (timedOut : Bool) (audience : Audience) :
    p.bufferGate = none ∧ p.releaseBufferGate timedOut audience now = p ∨
      ∃ gate, p.bufferGate = some gate ∧
        (p.releaseBufferGate timedOut audience now =
            p.clearBufferGate gate timedOut audience now ∨
          p.isPlaying = false ∧ p.playbackPreparation = none ∧
            audience.realusers ≠ [] ∧
            p.releaseBufferGate timedOut audience now =
              (p.clearBufferGate gate timedOut audience now).play now) := by
  unfold releaseBufferGate
  cases held : p.bufferGate with
  | none => exact Or.inl ⟨rfl, rfl⟩
  | some gate =>
      refine Or.inr ⟨gate, rfl, ?_⟩
      dsimp only
      split
      · rename_i plays
        simp only [clearBufferGate_frame, Bool.and_eq_true, Bool.not_eq_true',
          Option.isNone_iff_eq_none] at plays
        obtain ⟨⟨⟨⟨_, stopped⟩, viewers⟩, _⟩, noRound⟩ := plays
        refine Or.inr ⟨stopped, noRound, ?_, rfl⟩
        intro nobody
        rw [nobody] at viewers
        cases viewers
      · exact Or.inl rfl

/-- `prepareEmptyRoomPlayback` does nothing, or creates a round at the held position. -/
theorem prepareEmptyRoomPlayback_cases (id : String) (audience : Audience) :
    p.prepareEmptyRoomPlayback id audience now = p ∨
      ∃ source leader others, p.currentSource = some source ∧ p.isPlaying = false ∧
        p.resumeOnNextJoin = true ∧ p.playbackPreparation = none ∧
        p.playbackPosition.isFinite = true ∧ p.playbackPosition.lt 0 = false ∧
        audience.eligiblePreparers.map RoomUser.id = leader :: others ∧
        p.prepareEmptyRoomPlayback id audience now =
          { p with
            playbackPreparation := some (p.newRound id source leader (leader :: others) now)
            rounds := id :: p.rounds
            playbackStart := none }.markDirty .playbackPreparation := by
  unfold prepareEmptyRoomPlayback
  split
  · exact Or.inl rfl
  · rename_i allowed
    simp only [Bool.or_eq_true, not_or, Bool.not_eq_true', Bool.not_eq_false, Bool.not_eq_true,
      Option.isSome_eq_false_iff, Option.isNone_iff_eq_none] at allowed
    obtain ⟨⟨⟨⟨⟨resume, stopped⟩, noRound⟩, _⟩, finite⟩, nonneg⟩ := allowed
    split
    · rename_i source leader others present viewers
      exact Or.inr ⟨source, leader, others, present, stopped, resume, noRound, finite, nonneg,
        viewers, rfl⟩
    · exact Or.inl rfl

theorem startPreparedPlayback_cases :
    p.startPreparedPlayback now = p ∨
      ∃ round startAt, p.playbackPreparation = some round ∧ round.startAt = some startAt ∧
        startAt ≤ now + 50 ∧
        (p.startPreparedPlayback now).toRoomClock =
          { p.toRoomClock with
            playbackPosition := round.position, isPlaying := true
            playbackStart := some startAt } ∧
        (p.startPreparedPlayback now).toHeldStart =
          { p.toHeldStart.dropped with
            starts := ⟨round.id, round.position, startAt, round.fallback⟩ :: p.starts } ∧
        (p.startPreparedPlayback now).toGateState = p.toGateState ∧
        (p.startPreparedPlayback now).currentSource = p.currentSource ∧
        (p.startPreparedPlayback now).restoredFromStorage = p.restoredFromStorage := by
  unfold startPreparedPlayback
  split
  · exact Or.inl rfl
  · rename_i round present
    split
    · exact Or.inl rfl
    · rename_i startAt scheduled
      split
      · exact Or.inl rfl
      · rename_i due
        exact Or.inr ⟨round, startAt, present, scheduled, by omega, rfl, rfl, rfl, rfl, rfl⟩

/-- The last viewer leaves: the clock stops, the gate opens, and the intent to resume is
kept only where the room was going to play. -/
theorem emptyRoom_frame (audience : Audience) (nobody : audience.realusers = []) :
    (p.emptyRoom audience now).toRoomClock = p.toRoomClock.stop now ∧
      (∃ resume : Bool, (p.emptyRoom audience now).toHeldStart =
          { p.toHeldStart.dropped with resumeOnNextJoin := resume } ∧
        (resume = true → p.isPlaying = true ∨ p.bufferingGateHeld = true ∨
          p.playbackPreparation.isSome = true ∨ p.resumeOnNextJoin = true)) ∧
      (p.emptyRoom audience now).toGateState =
        (if p.bufferGate.isSome then p.toGateState.released false [] now else p.toGateState) ∧
      (p.emptyRoom audience now).currentSource = p.currentSource ∧
      (p.emptyRoom audience now).restoredFromStorage = p.restoredFromStorage := by
  have opened : (p.releaseBufferGate false audience now).toRoomClock = p.toRoomClock ∧
      (p.releaseBufferGate false audience now).toHeldStart = p.toHeldStart ∧
      (p.releaseBufferGate false audience now).toGateState =
        (if p.bufferGate.isSome then p.toGateState.released false [] now else p.toGateState) ∧
      (p.releaseBufferGate false audience now).currentSource = p.currentSource ∧
      (p.releaseBufferGate false audience now).restoredFromStorage = p.restoredFromStorage := by
    rcases releaseBufferGate_cases p now false audience with
      ⟨free, same⟩ | ⟨gate, held, same | ⟨_, _, viewers, _⟩⟩
    · rw [same, free]
      exact ⟨rfl, rfl, rfl, rfl, rfl⟩
    · rw [same, held]
      simp
    · exact absurd nobody viewers
  obtain ⟨clock, held, gate, source, restored⟩ := opened
  unfold emptyRoom
  dsimp only
  refine ⟨by simp [clock], ⟨_, by simp [held]; rfl, ?_⟩, by simp [gate], by simp [source],
    by simp [restored]⟩
  intro resumes
  simp only [Bool.and_eq_true, Bool.or_eq_true] at resumes
  rcases resumes.1 with ((playing | gated) | round) | intent
  · exact Or.inl playing
  · exact Or.inr (Or.inl gated)
  · exact Or.inr (Or.inr (Or.inl round))
  · exact Or.inr (Or.inr (Or.inr intent))

/-- `holdEmptyPlaybackForJoin` does nothing, or stops a room that was going to play. -/
theorem holdEmptyPlaybackForJoin_cases (skipForReconnect : Bool) (audience : Audience) :
    p.holdEmptyPlaybackForJoin skipForReconnect audience now = p ∨
      (p.isPlaying = true ∨ p.bufferingGateHeld = true) ∧
        (p.holdEmptyPlaybackForJoin skipForReconnect audience now).toRoomClock =
          p.toRoomClock.stop now ∧
        (p.holdEmptyPlaybackForJoin skipForReconnect audience now).toHeldStart =
          { p.toHeldStart with resumeOnNextJoin := true } ∧
        (p.holdEmptyPlaybackForJoin skipForReconnect audience now).toGateState =
          p.toGateState.opened ∧
        (p.holdEmptyPlaybackForJoin skipForReconnect audience now).currentSource =
          p.currentSource ∧
        (p.holdEmptyPlaybackForJoin skipForReconnect audience now).restoredFromStorage =
          p.restoredFromStorage := by
  unfold holdEmptyPlaybackForJoin
  split
  · exact Or.inl rfl
  · rename_i holds
    simp only [Bool.or_eq_true, not_or, Bool.and_eq_true, Bool.not_eq_true', not_and,
      Bool.not_eq_false] at holds
    refine Or.inr ⟨?_, by simp, by simp, by simp [GateState.opened], by simp, by simp⟩
    cases playing : p.isPlaying with
    | true => exact Or.inl rfl
    | false => exact Or.inr (holds.1.2 playing)

end Playback

end OpenTogetherTube
