import Mathlib.Tactic.Ring
import OpenTogetherTube.Room.Playback

/-!
# The room clock

The abstract operations on a clock: flush the position, end a temporary speed, start,
stop. Each of them keeps the real position at the instant it happens.
-/

namespace OpenTogetherTube

open Lib

namespace RoomClock

/-- Move the anchor to `now`. -/
def flush (now : Int) (clock : RoomClock) : RoomClock :=
  { clock with playbackPosition := clock.realPlaybackPosition now, playbackStart := some now }

/-- End a temporary speed and go back to the speed it replaced. -/
def restoreSpeed (now : Int) (clock : RoomClock) : RoomClock :=
  match clock.temporarySpeed with
  | none => clock
  | some temporary =>
      { clock.flush now with temporarySpeed := none, playbackSpeed := temporary.previousSpeed }

/-- Start a stopped clock. -/
def start (now : Int) (clock : RoomClock) : RoomClock :=
  if clock.isPlaying then clock else { clock with isPlaying := true, playbackStart := some now }

/-- Stop the clock where it is. -/
def stop (now : Int) (clock : RoomClock) : RoomClock :=
  let clock := clock.restoreSpeed now
  if clock.isPlaying then { clock.flush now with playbackStart := none, isPlaying := false }
  else clock

variable (clock : RoomClock) (now : Int)

theorem calcDurationFromPlaybackStart_self (anchored : clock.playbackStart = some now) :
    clock.calcDurationFromPlaybackStart now = 0 := by
  simp [calcDurationFromPlaybackStart, anchored]

/-- A clock that does not play shows its stored position. -/
theorem realPlaybackPosition_of_stopped (stopped : clock.isPlaying = false) :
    clock.realPlaybackPosition now = clock.playbackPosition := by
  simp [realPlaybackPosition, stopped]

/-- A clock anchored right now shows its stored position. -/
theorem realPlaybackPosition_of_anchored (anchored : clock.playbackStart = some now) :
    clock.realPlaybackPosition now = clock.playbackPosition := by
  unfold realPlaybackPosition
  split
  · rw [calcDurationFromPlaybackStart_self clock now anchored, Number.addRat_zero]
  · rfl

theorem realPlaybackPosition_advance (playing : clock.isPlaying = true)
    (anchored : clock.playbackStart.isSome = true) (later : Int) :
    clock.realPlaybackPosition later =
      (clock.realPlaybackPosition now).addRat
        (clock.playbackSpeed * (((later - now : Int) : ℚ) / 1000)) := by
  obtain ⟨start, anchor⟩ := Option.isSome_iff_exists.mp anchored
  have shown : ∀ time, clock.realPlaybackPosition time =
      clock.playbackPosition.addRat (((time - start : Int) : ℚ) / 1000 * clock.playbackSpeed) := by
    intro time
    simp [realPlaybackPosition, calcDurationFromPlaybackStart, playing, anchor]
  rw [shown later, shown now, Number.addRat_addRat]
  congr 1
  push_cast
  ring

/-- Without an anchor, or while it does not play, the clock stands still. -/
theorem realPlaybackPosition_constant
    (still : clock.isPlaying = false ∨ clock.playbackStart = none) (later : Int) :
    clock.realPlaybackPosition later = clock.realPlaybackPosition now := by
  rcases still with stopped | unanchored
  · rw [realPlaybackPosition_of_stopped clock later stopped,
      realPlaybackPosition_of_stopped clock now stopped]
  · simp [realPlaybackPosition, unanchored]

@[simp] theorem flush_isPlaying : (clock.flush now).isPlaying = clock.isPlaying := rfl

@[simp] theorem flush_temporarySpeed :
    (clock.flush now).temporarySpeed = clock.temporarySpeed := rfl

@[simp] theorem flush_playbackStart : (clock.flush now).playbackStart = some now := rfl

theorem flush_of_stopped (stopped : clock.isPlaying = false) :
    (clock.flush now).playbackPosition = clock.playbackPosition :=
  realPlaybackPosition_of_stopped clock now stopped

@[simp] theorem realPlaybackPosition_flush :
    (clock.flush now).realPlaybackPosition now = clock.realPlaybackPosition now :=
  realPlaybackPosition_of_anchored (clock.flush now) now rfl

@[simp] theorem restoreSpeed_isPlaying :
    (clock.restoreSpeed now).isPlaying = clock.isPlaying := by
  unfold restoreSpeed
  split <;> rfl

@[simp] theorem restoreSpeed_temporarySpeed :
    (clock.restoreSpeed now).temporarySpeed = none := by
  unfold restoreSpeed
  split
  · assumption
  · rfl

theorem restoreSpeed_of_none (plain : clock.temporarySpeed = none) :
    clock.restoreSpeed now = clock := by
  simp [restoreSpeed, plain]

/-- Ending a temporary speed keeps the real position. -/
@[simp] theorem realPlaybackPosition_restoreSpeed :
    (clock.restoreSpeed now).realPlaybackPosition now = clock.realPlaybackPosition now := by
  unfold restoreSpeed
  split
  · rfl
  · exact realPlaybackPosition_of_anchored _ now rfl

/-- A stopped clock keeps its stored position when a temporary speed ends. -/
theorem restoreSpeed_playbackPosition (stopped : clock.isPlaying = false) :
    (clock.restoreSpeed now).playbackPosition = clock.playbackPosition := by
  have kept := realPlaybackPosition_restoreSpeed clock now
  rw [realPlaybackPosition_of_stopped clock now stopped,
    realPlaybackPosition_of_stopped _ now (by rw [restoreSpeed_isPlaying, stopped])] at kept
  exact kept

/-- An anchored clock stays anchored when a temporary speed ends. -/
theorem restoreSpeed_anchored (anchored : clock.playbackStart.isSome = true) :
    (clock.restoreSpeed now).playbackStart.isSome = true := by
  unfold restoreSpeed
  split
  · exact anchored
  · rfl

@[simp] theorem start_isPlaying : (clock.start now).isPlaying = true := by
  unfold start
  split
  · assumption
  · rfl

@[simp] theorem start_temporarySpeed :
    (clock.start now).temporarySpeed = clock.temporarySpeed := by
  unfold start
  split <;> rfl

@[simp] theorem realPlaybackPosition_start :
    (clock.start now).realPlaybackPosition now = clock.realPlaybackPosition now := by
  unfold start
  split
  · rfl
  · rename_i stopped
    rw [realPlaybackPosition_of_anchored _ now rfl,
      realPlaybackPosition_of_stopped clock now (Bool.eq_false_iff.mpr stopped)]

theorem start_anchored (anchored : clock.isPlaying = true → clock.playbackStart.isSome = true) :
    (clock.start now).playbackStart.isSome = true := by
  unfold start
  split
  · rename_i playing
    exact anchored playing
  · rfl

@[simp] theorem stop_isPlaying : (clock.stop now).isPlaying = false := by
  unfold stop
  dsimp only
  split
  · rfl
  · rename_i stopped
    exact Bool.eq_false_iff.mpr stopped

@[simp] theorem stop_temporarySpeed : (clock.stop now).temporarySpeed = none := by
  unfold stop
  dsimp only
  split
  · exact restoreSpeed_temporarySpeed clock now
  · exact restoreSpeed_temporarySpeed clock now

/-- Stopping keeps the real position. -/
@[simp] theorem realPlaybackPosition_stop :
    (clock.stop now).realPlaybackPosition now = clock.realPlaybackPosition now := by
  rw [realPlaybackPosition_of_stopped _ now (stop_isPlaying clock now)]
  unfold stop
  dsimp only
  split
  · exact realPlaybackPosition_restoreSpeed clock now
  · rename_i stopped
    rw [← realPlaybackPosition_restoreSpeed clock now,
      realPlaybackPosition_of_stopped _ now (Bool.eq_false_iff.mpr stopped)]

/-- A stopped clock keeps its stored position when it is stopped again. -/
theorem stop_playbackPosition (stopped : clock.isPlaying = false) :
    (clock.stop now).playbackPosition = clock.playbackPosition := by
  have kept := realPlaybackPosition_stop clock now
  rw [realPlaybackPosition_of_stopped clock now stopped,
    realPlaybackPosition_of_stopped _ now (stop_isPlaying clock now)] at kept
  exact kept

end RoomClock

end OpenTogetherTube
