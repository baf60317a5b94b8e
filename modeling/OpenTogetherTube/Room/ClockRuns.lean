import Mathlib.Algebra.Order.Archimedean.Basic
import OpenTogetherTube.Room.Rounds

/-!
# The room clock over whole runs

The operations that must not move the position do not, and a playing clock has an anchor
in every state, except after `dequeueNext` handed an item over paused in a room that was
already playing.
-/

namespace OpenTogetherTube

open Lib Lib.Handler

namespace Playback

/-- A playing clock has an anchor to run from. -/
def Anchored (p : Playback) : Prop := p.isPlaying = true → p.playbackStart.isSome = true

variable {scope : Scope} {p q : Playback}

/-- A clock that does not play needs no anchor. -/
theorem Anchored.of_paused (paused : q.isPlaying = false) : q.Anchored := by
  intro playing
  rw [paused] at playing
  cases playing

/-- Only a handover in a playing room takes the anchor away. -/
theorem Anchored.effect (runs : ¬ scope.frozen) (effect : Effect scope p q)
    (anchored : p.Anchored) : q.Anchored := by
  have restored : p.isPlaying = true →
      (p.toRoomClock.restoreSpeed scope.now).playbackStart.isSome = true := by
    intro playing
    exact RoomClock.restoreSpeed_anchored p.toRoomClock scope.now (anchored playing)
  cases effect with
  | pending pending => exact anchored
  | speedEnded => simpa [Anchored] using restored
  | speedChanged speed nonneg counts => simp [Anchored]
  | spedUp clientId gestureId playing plain source => simp [Anchored]
  | speedReset plain still => simpa [Anchored] using anchored
  | played cause =>
      intro _
      simpa using RoomClock.start_anchored p.toRoomClock scope.now anchored
  | released timedOut audience due =>
      rcases releaseBufferGate_cases p scope.now timedOut audience with
        ⟨_, same⟩ | ⟨gate, _, same | ⟨paused, _, _, same⟩⟩
      · rw [same]
        exact anchored
      · rw [same]
        simpa [Anchored] using anchored
      · rw [same]
        intro _
        simpa [paused] using RoomClock.start_anchored p.toRoomClock scope.now anchored
  | waited gate waitingOn held armed => exact anchored
  | engaged waitingOn free playing plain noRound source settled cool armed =>
      exact .of_paused (by simp)
  | recovered clientId => simpa [Anchored] using anchored
  | paused => exact .of_paused (by simp)
  | stopped => exact .of_paused (by simp)
  | sourceTaken item position => simp [Anchored]
  | sourceLeft item position counts => simp [Anchored]
  | sourceEnded cause counts => exact .of_paused (by simp)
  | sourceDropped cause => simpa [Anchored] using restored
  | sourceRetimed source startAt current => exact anchored
  | handedOver restoredRoom playing =>
      intro running
      exact absurd (playing running) runs
  | clockHeld cause free => exact .of_paused (by simp)
  | prepared audience fresh =>
      rcases prepareEmptyRoomPlayback_cases p scope.now scope.uuid audience with
        same | ⟨source, leader, others, _, paused, _, _, _, _, _, same⟩
      · rw [same]
        exact anchored
      · rw [same]
        exact .of_paused paused
  | roundEdited before after present edit => exact anchored
  | scheduled before fallback startAt present unscheduled later soon => exact anchored
  | started onTime =>
      rcases startPreparedPlayback_cases p scope.now with
        same | ⟨round, startAt, _, _, _, clock, _, _, _, _⟩
      · rw [same]
        exact anchored
      · simp [Anchored, clock]
  | cancelled => simpa [Anchored] using anchored
  | sought value counts => simp [Anchored]
  | emptied audience nobody =>
      obtain ⟨clock, _, _, _, _⟩ := emptyRoom_frame p scope.now audience nobody
      exact .of_paused (by rw [clock]; simp)
  | intentKept round => simpa [Anchored] using anchored
  | heldForJoin skipForReconnect audience =>
      rcases holdEmptyPlaybackForJoin_cases p scope.now skipForReconnect audience with
        same | ⟨_, clock, _, _, _, _⟩
      · rw [same]
        exact anchored
      · exact .of_paused (by rw [clock]; simp)

/-- A clock that runs forward passes the end of its item. -/
theorem exists_currentEnded {value : ℚ} {finish : Number} (playing : p.isPlaying = true)
    (anchored : p.playbackStart.isSome = true) (position : p.playbackPosition = .fin value)
    (forward : 0 < p.playbackSpeed) (ends : p.currentSource.bind currentEnd = some finish) :
    ∃ later, p.currentEnded later = true := by
  obtain ⟨start, anchor⟩ := Option.isSome_iff_exists.mp anchored
  have finite : ∃ limit : ℚ, finish = .fin limit := by
    obtain ⟨source, _, ended⟩ := Option.bind_eq_some_iff.mp ends
    unfold currentEnd at ended
    split at ended
    · split at ended
      · rename_i usable
        cases ended
        simp only [Bool.and_eq_true] at usable
        cases finish with
        | fin limit => exact ⟨limit, rfl⟩
        | nan => cases usable.1.2
        | negInf => cases usable.1.2
        | posInf => cases usable.1.2
      · cases ended
    · cases ended
  obtain ⟨limit, rfl⟩ := finite
  obtain ⟨steps, enough⟩ := exists_nat_gt ((limit - value) / (p.playbackSpeed / 1000))
  refine ⟨start + steps, ?_⟩
  have passed : limit < value + (steps : ℚ) / 1000 * p.playbackSpeed := by
    have scaled := (div_lt_iff₀ (by positivity)).mp enough
    have same : (steps : ℚ) * (p.playbackSpeed / 1000) = (steps : ℚ) / 1000 * p.playbackSpeed := by
      ring
    linarith
  have shown : p.realPlaybackPosition (start + steps) =
      .fin (value + (steps : ℚ) / 1000 * p.playbackSpeed) := by
    simp [RoomClock.realPlaybackPosition, RoomClock.calcDurationFromPlaybackStart, anchor, playing,
      position, Number.addRat]
  unfold currentEnded
  rw [ends]
  simp [playing, shown, Number.lt, passed]

/-- A clock operation kept the position shown at `now`. -/
def SamePosition (now : Int) (p q : Playback) : Prop :=
  q.realPlaybackPosition now = p.realPlaybackPosition now

section Position

variable (p : Playback) (now : Int)

theorem play_position : SamePosition now p (p.play now) := by
  simp [SamePosition]

theorem pause_position (byBufferGate : Bool) : SamePosition now p (p.pause byBufferGate now) := by
  simp [SamePosition]

theorem changeSpeed_position (speed : ℚ) : SamePosition now p (p.changeSpeed speed now) := by
  unfold SamePosition
  rw [(changeSpeed_frame p now speed).1]
  exact RoomClock.realPlaybackPosition_of_anchored _ now rfl

theorem startTemporarySpeed_position (clientId : ClientId) (gestureId : String) :
    SamePosition now p (p.startTemporarySpeed clientId gestureId now) := by
  unfold SamePosition
  rw [(startTemporarySpeed_frame p now clientId gestureId).1]
  exact RoomClock.realPlaybackPosition_of_anchored _ now rfl

theorem endTemporaryPlaybackSpeed_position :
    SamePosition now p (p.endTemporaryPlaybackSpeed true now) := by
  simp [SamePosition]

theorem flushPlaybackPosition_position : SamePosition now p (p.flushPlaybackPosition now) := by
  simp [SamePosition]

theorem releaseBufferGate_position (timedOut : Bool) (audience : Audience) :
    SamePosition now p (p.releaseBufferGate timedOut audience now) := by
  rcases releaseBufferGate_cases p now timedOut audience with
    ⟨_, same⟩ | ⟨gate, _, same | ⟨_, _, _, same⟩⟩
  · rw [same]
    rfl
  · rw [same]
    simp [SamePosition]
  · rw [same]
    simp [SamePosition]

theorem evaluateBufferGate_position (mode : BufferGateMode) (audience : Audience) :
    SamePosition now p (p.evaluateBufferGate mode audience now) := by
  unfold evaluateBufferGate
  split
  · exact releaseBufferGate_position p now true audience
  · split
    · exact releaseBufferGate_position p now false audience
    · dsimp only
      split
      · exact releaseBufferGate_position p now false audience
      · split
        · rfl
        · split
          · rfl
          · simp [SamePosition]

theorem emptyRoom_position (audience : Audience) (nobody : audience.realusers = []) :
    SamePosition now p (p.emptyRoom audience now) := by
  unfold SamePosition
  rw [(emptyRoom_frame p now audience nobody).1]
  exact RoomClock.realPlaybackPosition_stop p.toRoomClock now

theorem prepareEmptyRoomPlayback_position (id : String) (audience : Audience) :
    SamePosition now p (p.prepareEmptyRoomPlayback id audience now) := by
  rcases prepareEmptyRoomPlayback_cases p now id audience with
    same | ⟨source, leader, others, _, paused, _, _, _, _, _, same⟩
  · rw [same]
    rfl
  · have stopped := RoomClock.realPlaybackPosition_of_stopped p.toRoomClock now paused
    rw [same]
    refine Eq.trans ?_ stopped.symm
    exact RoomClock.realPlaybackPosition_of_stopped _ now paused

theorem rebuildRound_position (id : String) (clientId : ClientId) (audience : Audience) :
    SamePosition now p (p.rebuildRound id clientId audience now) := by
  unfold rebuildRound
  split
  · rfl
  · split
    · refine (prepareEmptyRoomPlayback_position _ now id audience).trans ?_
      simp
    · rfl

end Position

end Playback

namespace Room

/-- The position of the room shown at `now` is the same. -/
def SamePosition (now : Int) (before after : Room) : Prop :=
  Playback.SamePosition now before.toPlayback after.toPlayback

instance (now : Int) : IsPreorder Room (SamePosition now) where
  refl _ := rfl
  trans _ _ _ first second := second.trans first

/-- Pending work does not move the position. -/
theorem SamePosition.of_same {now : Int} {before after : Room} (same : SamePlayback before after) :
    SamePosition now before after := by
  obtain ⟨pending, equal⟩ := same
  unfold SamePosition
  rw [equal]
  rfl

variable (env : Env) (context : RoomRequestContext) (room : Room)

theorem playback_position (state : Bool) :
    (playback env state context).Keeps (SamePosition env.now) room := by
  refine Keeps.modify_bind ?_ (keeps_modify _ (.of_same (samePlayback_writes.publishRoomEvent _ _ _ _ _)))
  cases state with
  | true => exact Playback.play_position room.toPlayback env.now
  | false => exact Playback.pause_position room.toPlayback env.now false

theorem setPlaybackSpeed_position (speed : Number) :
    (setPlaybackSpeed env speed).Keeps (SamePosition env.now) room := by
  unfold setPlaybackSpeed
  split
  · exact Keeps.ite (fun _ => Keeps.throw _ _) fun _ =>
      keeps_modify room (Playback.changeSpeed_position room.toPlayback env.now _)
  · exact Keeps.throw _ _

theorem setTemporaryPlaybackSpeed_position (action : GestureAction) (gestureId : String)
    (video : Option VideoId) :
    (setTemporaryPlaybackSpeed env action gestureId video context).Keeps
      (SamePosition env.now) room :=
  keeps_setTemporaryPlaybackSpeed room context action gestureId video
    (Playback.endTemporaryPlaybackSpeed_position room.toPlayback env.now) rfl
    (Playback.releaseBufferGate_position room.toPlayback env.now false room.toAudience)
    fun clientId _ _ _ _ => Playback.startTemporarySpeed_position _ env.now clientId gestureId

theorem leaveRoom_position : (leaveRoom env context).Keeps (SamePosition env.now) room :=
  keeps_leaveRoom room context
    (fun clientId => keeps_endOwnGesture room clientId
      (Playback.endTemporaryPlaybackSpeed_position room.toPlayback env.now))
    (fun room user => .of_same (samePlayback_writes.forgetUser context room user fun _ => ⟨_, rfl⟩))
    (fun clientId _ => keeps_settleLeave _ clientId
      (fun nobody => Playback.emptyRoom_position _ env.now _ (by simpa using nobody))
      (Playback.rebuildRound_position _ env.now _ _ _)
      (fun room => (sync_keeps room env).mono .of_same) fun room => .of_same (flushSave_same room env))
    fun room => Playback.evaluateBufferGate_position room.toPlayback env.now _ _

end Room

namespace RoomAction

/-- The actions that must not move the position: play and pause, a change of speed, a
temporary speed and its lease, a viewer who leaves, a sync. -/
def keepsPosition : RoomAction → Bool
  | .request (.playback _) _ => true
  | .request (.playbackSpeed _) _ => true
  | .request (.temporaryPlaybackSpeed _ _ _) _ => true
  | .request .leave _ => true
  | .temporarySpeedTimer => true
  | .throttledSync => true
  | .sync => true
  | _ => false

/-- A request keeps the position if its handler does: the permission check moves nothing. -/
theorem processRequest_position {env : Env} {request : RoomRequest}
    {context : RoomRequestContext} {room : Room}
    (handled : (Room.handle env request context).Keeps (Room.SamePosition env.now) room) :
    (Room.processRequest env request context).Keeps (Room.SamePosition env.now) room := by
  unfold Room.processRequest
  refine Keeps.bind (Room.keeps_of_after room (Room.checkSome_after room _ _)) fun _ _ => ?_
  rw [Room.checkSome_after]
  exact handled

theorem apply_position (env : Env) (room : Room) (action : RoomAction)
    (listed : action.keepsPosition = true) :
    Room.SamePosition env.now room (action.apply env room) := by
  cases action with
  | request request context =>
      refine processRequest_position ?_
      cases request with
      | playback state => exact Room.playback_position env context room state
      | playbackSpeed speed => exact Room.setPlaybackSpeed_position env room speed
      | temporaryPlaybackSpeed action gestureId video =>
          exact Room.setTemporaryPlaybackSpeed_position env context room action gestureId video
      | leave => exact Room.leaveRoom_position env context room
      | _ => cases listed
  | temporarySpeedTimer => exact Playback.endTemporaryPlaybackSpeed_position room.toPlayback env.now
  | throttledSync =>
      have idle : Room.SamePlayback room { room with syncPending := false } := ⟨_, rfl⟩
      exact .of_same (IsTrans.trans _ _ _ idle (Room.sync_keeps _ env))
  | sync => exact .of_same (Room.sync_keeps room env)
  | _ => cases listed

end RoomAction

namespace RoomState

/-- The clock is continuous. Play and pause, a change of speed, a temporary speed, its
renewal, stop and lease, the gate, a viewer who leaves, a flush and a sync keep the
position at the instant they happen. Between them it grows by the speed times the elapsed
seconds while the clock plays from an anchor, and stands still otherwise. -/
theorem position_continuous (room : Room) (env : Env) :
    (∀ action : RoomAction, action.keepsPosition = true →
      (action.apply env room).realPlaybackPosition env.now = room.realPlaybackPosition env.now) ∧
    (room.evaluateBufferGate env.now).realPlaybackPosition env.now =
      room.realPlaybackPosition env.now ∧
    (∀ timedOut, (room.releaseBufferGate timedOut env.now).realPlaybackPosition env.now =
      room.realPlaybackPosition env.now) ∧
    (room.toPlayback.flushPlaybackPosition env.now).realPlaybackPosition env.now =
      room.realPlaybackPosition env.now ∧
    (∀ later : Int, room.isPlaying = true ∧ room.playbackStart.isSome = true →
      room.realPlaybackPosition later = (room.realPlaybackPosition env.now).addRat
        (room.playbackSpeed * (((later - env.now : Int) : ℚ) / 1000))) ∧
    (∀ later : Int, ¬ (room.isPlaying = true ∧ room.playbackStart.isSome = true) →
      room.realPlaybackPosition later = room.realPlaybackPosition env.now) := by
  refine ⟨?_, ?_, ?_, ?_, ?_, ?_⟩
  · intro action listed
    exact RoomAction.apply_position env room action listed
  · exact Playback.evaluateBufferGate_position room.toPlayback env.now _ _
  · intro timedOut
    exact Playback.releaseBufferGate_position room.toPlayback env.now timedOut _
  · exact Playback.flushPlaybackPosition_position room.toPlayback env.now
  · rintro later ⟨playing, anchored⟩
    exact RoomClock.realPlaybackPosition_advance room.toRoomClock env.now playing anchored later
  · intro later still
    refine RoomClock.realPlaybackPosition_constant room.toRoomClock env.now ?_ later
    by_cases playing : room.isPlaying = true
    · right
      by_contra anchored
      exact still ⟨playing, Option.isSome_iff_ne_none.mpr anchored⟩
    · exact Or.inl (Bool.eq_false_iff.mpr playing)

instance (env : Env) (action : RoomAction) (room : Room) : Decidable (action.Freezes env room) :=
  decidable_of_iff ((action.dequeueEntry env room).any fun entry =>
    entry.handsOver && entry.restoredFromStorage && entry.isPlaying) (by
      simp only [RoomAction.Freezes, Option.any_eq_true, Bool.and_eq_true, and_assoc])

/-- A room created without playback state is paused. -/
theorem new_paused (options : RoomOptions) (now : Int) (idle : options.isPlaying = none) :
    (Room.new options now).isPlaying = false := by
  refine Room.new_preserves (fun p => p.isPlaying = false) options now rfl ?_ ?_ ?_ ?_ ?_ ?_ ?_ ?_
  · intro p pending paused
    exact paused
  · intro p value paused
    simpa using paused
  · intro p value paused
    exact paused
  · intro p value given
    rw [idle] at given
    cases given
  · intro p value paused
    exact paused
  · intro p paused
    exact paused
  · intro p paused
    exact paused
  · intro p paused
    exact paused

/-- From a new room or one rebuilt from its database row, and while no step hands an item
over, paused, in a room that is playing, a playing clock has an anchor: it advances, and it
passes the end of an item that has one. -/
theorem playing_clock_anchored (options : RoomOptions) (now : Int)
    (idle : options.isPlaying = none) {start state : RoomState}
    (begins : start = ⟨Room.new options now, now⟩ ∨
      start = ⟨(Room.new options now).restoreFromStorage, now⟩)
    (run : (roomSystem.restrict fun state label =>
      ¬ label.action.Freezes label.env state.room).Steps start state)
    (playing : state.room.isPlaying = true) :
    state.room.playbackStart.isSome = true ∧
      (∀ now later : Int, state.room.realPlaybackPosition later =
        (state.room.realPlaybackPosition now).addRat
          (state.room.playbackSpeed * (((later - now : Int) : ℚ) / 1000))) ∧
      (∀ value finish, state.room.playbackPosition = .fin value → 0 < state.room.playbackSpeed →
        state.room.currentSource.bind Playback.currentEnd = some finish →
        ∃ later, state.room.currentEnded later = true) := by
  have base : start.room.Anchored := by
    have paused := new_paused options now idle
    rcases begins with rfl | rfl
    · exact .of_paused paused
    · exact .of_paused paused
  have anchored : state.room.Anchored := by
    refine TransitionSystem.Steps.relates (fun state => state.room.Anchored) base ?_ run
    intro before label after _ current step
    exact (step_effects step.2).preserves Playback.Anchored
      (fun _ _ => Playback.Anchored.effect step.1) current
  have anchor := anchored playing
  refine ⟨anchor, ?_, ?_⟩
  · intro now later
    exact RoomClock.realPlaybackPosition_advance state.room.toRoomClock now playing anchor later
  · intro value finish position forward ends
    exact Playback.exists_currentEnded playing anchor position forward ends

end RoomState

namespace Sample

/-- The viewer has the first frame up, so the held video starts. -/
def ready : RoomLabel :=
  ⟨env 3 "second", .request (.updateUser { id := "viewer", status := some .ready }
    (some { id := "first", position := 0 })) viewer⟩

/-- A second video is queued and the first one skipped. -/
def addAndSkip : List RoomLabel :=
  [⟨env 4 "second", .request (.add { video := some { service := .direct, id := "next" } }) viewer⟩,
    ⟨env 5 "second", .request .skip viewer⟩]

/-- A room rebuilt from its database row. -/
def restored : RoomState := ⟨(Room.new {} 0).restoreFromStorage, 0⟩

/-- It is playing after a prepared start. -/
def started : RoomState := restored.run (joinAndPlay ++ [ready])

/-- After the skip its clock has no anchor. -/
def frozen : RoomState := restored.run (joinAndPlay ++ [ready] ++ addAndSkip)

end Sample

namespace RoomState

/-- The prepared start of a restored room leaves its mark, and the next dequeue then takes
the anchor of the playing clock. -/
theorem restored_clock_freezes : Sample.restored.Initial ∧
    roomSystem.Steps Sample.restored Sample.frozen ∧ Sample.frozen.room.isPlaying = true ∧
    Sample.frozen.room.playbackStart = none := by
  have possible : runs (fun _ _ => True) (Sample.joinAndPlay ++ [Sample.ready] ++
      Sample.addAndSkip) Sample.restored = true := by
    decide +kernel
  have playing : Sample.frozen.room.isPlaying = true := by decide +kernel
  have unanchored : Sample.frozen.room.playbackStart = none := by decide +kernel
  exact ⟨.restored {} 0 rfl rfl, (steps_run _ _ _ possible).of_restrict, playing, unanchored⟩

/-- The room of `restored_clock_freezes` before the skip. -/
theorem playing_clock_anchored_started : Sample.started.room.isPlaying = true ∧
    Sample.started.room.playbackStart.isSome = true := by
  have possible : runs (fun state label => ¬ label.action.Freezes label.env state.room)
      (Sample.joinAndPlay ++ [Sample.ready]) Sample.restored = true := by
    decide +kernel
  have playing : Sample.started.room.isPlaying = true := by decide +kernel
  have run : (roomSystem.restrict fun state label =>
      ¬ label.action.Freezes label.env state.room).Steps Sample.restored Sample.started :=
    steps_run _ _ _ possible
  have anchored := playing_clock_anchored {} 0 rfl (Or.inr (Eq.refl Sample.restored)) run playing
  exact ⟨playing, anchored.1⟩

end RoomState

end OpenTogetherTube
