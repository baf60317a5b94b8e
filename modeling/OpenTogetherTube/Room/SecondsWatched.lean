import OpenTogetherTube.Lib.Meter
import OpenTogetherTube.Room.GateBounds
import OpenTogetherTube.Room.TemporarySpeed

/-!
# The watched seconds

`counterSecondsWatched` is a meter read off the room clock: `flushPlaybackPosition`,
`seekRaw` and `dequeueNext` read it, and whatever sets the anchor sets the point from which
the next reading counts. Between two readings the tally of the meter is what has been
counted and what a playing room may still add. Every effect keeps the tally unless the step
miscounts, so the count stays within what the room has played.
-/

namespace OpenTogetherTube

open Lib

namespace Playback

/-- The meter behind `counterSecondsWatched`, in seconds. -/
def meter (p : Playback) : Meter ℚ where
  running := p.isPlaying
  rate := p.playbackSpeed
  anchor := p.playbackStart.map fun start : Int => (start : ℚ) / 1000
  counted := p.secondsWatched

/-- What has been counted, and what a playing room may still add. -/
def tally (now : Int) (p : Playback) : ℚ := p.meter.tally ((now : ℚ) / 1000)

variable {p q : Playback} {now : Int}

theorem meter_elapsed (p : Playback) (now : Int) :
    p.meter.elapsed ((now : ℚ) / 1000) = p.calcDurationFromPlaybackStart now := by
  unfold Meter.elapsed meter RoomClock.calcDurationFromPlaybackStart
  cases p.playbackStart with
  | none => rfl
  | some start =>
      change ((now : ℚ) / 1000 - (start : ℚ) / 1000) * p.playbackSpeed =
        ((now - start : Int) : ℚ) / 1000 * p.playbackSpeed
      rw [← sub_div, Int.cast_sub]

theorem countWatched_meter (p : Playback) (now : Int) :
    (p.countWatched now).meter = p.meter.read ((now : ℚ) / 1000) := by
  unfold Meter.read
  rw [meter_elapsed]
  rfl

/-- Counting stays within the tally exactly where it counts playing time. -/
theorem countWatched_le_tally_iff :
    (p.countWatched now).secondsWatched ≤ p.tally now ↔ p.CountsPlaying now := by
  have reading := @Meter.read_le_tally_iff ℚ _ _ p.meter ((now : ℚ) / 1000) _
  rw [← countWatched_meter, meter_elapsed] at reading
  exact reading

theorem secondsWatched_le_tally (p : Playback) (now : Int) : p.secondsWatched ≤ p.tally now :=
  p.meter.counted_le_tally _

/-- The tally depends on the clock and the count alone. -/
theorem tally_congr (clock : q.toRoomClock = p.toRoomClock)
    (watched : q.secondsWatched = p.secondsWatched) : q.tally now = p.tally now := by
  unfold tally meter
  rw [clock, watched]

/-- A room that is paused, or whose clock has not run since the anchor, has nothing to
add. -/
theorem tally_le_of_still (counted : q.secondsWatched ≤ p.tally now)
    (still : q.isPlaying = false ∨ q.calcDurationFromPlaybackStart now ≤ 0) :
    q.tally now ≤ p.tally now := by
  rw [← meter_elapsed] at still
  exact Meter.tally_le_of_still counted still

/-- The same, for a clock anchored right now. -/
theorem tally_le_of_anchored (counted : q.secondsWatched ≤ p.tally now)
    (anchored : q.playbackStart = some now) : q.tally now ≤ p.tally now :=
  tally_le_of_still counted
    (Or.inr (RoomClock.calcDurationFromPlaybackStart_self _ now anchored).le)

section Counts

variable (p) (now)

@[simp] theorem markDirty_secondsWatched (property : SyncProp) :
    (p.markDirty property).secondsWatched = p.secondsWatched := rfl

@[simp] theorem cancelPlaybackPreparation_secondsWatched :
    p.cancelPlaybackPreparation.secondsWatched = p.secondsWatched := by
  unfold cancelPlaybackPreparation clearPlaybackStartTimer
  dsimp only
  split <;> split <;> rfl

@[simp] theorem endTemporaryPlaybackSpeed_override_secondsWatched :
    (p.endTemporaryPlaybackSpeed false now).secondsWatched = p.secondsWatched := by
  unfold endTemporaryPlaybackSpeed
  dsimp only
  split <;> rfl

theorem endTemporaryPlaybackSpeed_secondsWatched :
    (p.endTemporaryPlaybackSpeed true now).secondsWatched =
      if p.temporarySpeed.isSome then (p.countWatched now).secondsWatched
      else p.secondsWatched := by
  unfold endTemporaryPlaybackSpeed
  dsimp only
  cases p.temporarySpeed with
  | none => rfl
  | some previous => rfl

/-- Without a temporary speed its end counts nothing. -/
theorem endTemporaryPlaybackSpeed_plain (plain : p.temporarySpeed = none) :
    (p.endTemporaryPlaybackSpeed true now).secondsWatched = p.secondsWatched := by
  rw [endTemporaryPlaybackSpeed_secondsWatched, plain]
  rfl

@[simp] theorem assignCurrentSource_secondsWatched (value : Option QueueItem) :
    (p.assignCurrentSource value now).secondsWatched =
      (p.endTemporaryPlaybackSpeed true now).secondsWatched := by
  unfold assignCurrentSource trace
  simp only [markDirty_secondsWatched, cancelPlaybackPreparation_secondsWatched,
    endTemporaryPlaybackSpeed_secondsWatched]
  rfl

@[simp] theorem assignIsPlaying_secondsWatched (value : Bool) :
    (p.assignIsPlaying value now).secondsWatched =
      if value then p.secondsWatched
      else (p.endTemporaryPlaybackSpeed true now).secondsWatched := by
  cases value with
  | false => rfl
  | true => rfl

@[simp] theorem takeSource_secondsWatched (item : QueueItem) (position : Number) :
    (p.takeSource item position now).secondsWatched =
      (p.endTemporaryPlaybackSpeed true now).secondsWatched :=
  assignCurrentSource_secondsWatched p now (some item)

@[simp] theorem play_secondsWatched : (p.play now).secondsWatched = p.secondsWatched := by
  unfold play trace
  cases p.bufferGate.isSome with
  | false => cases playing : p.isPlaying <;> simp [playing]
  | true => cases playing : p.isPlaying <;> simp [playing]

@[simp] theorem clearBufferGate_secondsWatched (gate : BufferGate) (timedOut : Bool)
    (audience : Audience) :
    (p.clearBufferGate gate timedOut audience now).secondsWatched = p.secondsWatched := by
  cases timedOut with
  | false => rfl
  | true => rfl

end Counts

variable (safe : p.SpeedSafe)

include safe

/-- The end of a temporary speed counts playing time only, since the room plays while it
is in force. -/
theorem SpeedSafe.ended_le_tally (now : Int) :
    (p.endTemporaryPlaybackSpeed true now).secondsWatched ≤ p.tally now := by
  rw [endTemporaryPlaybackSpeed_secondsWatched]
  split
  · rename_i present
    exact countWatched_le_tally_iff.mpr (Or.inl (safe present).1)
  · exact secondsWatched_le_tally p now

theorem SpeedSafe.tally_ended (now : Int) :
    (p.endTemporaryPlaybackSpeed true now).tally now ≤ p.tally now := by
  have counted := safe.ended_le_tally now
  cases speed : p.temporarySpeed with
  | none =>
      refine (tally_congr ?_ (endTemporaryPlaybackSpeed_plain p now speed)).le
      rw [endTemporaryPlaybackSpeed_clock, RoomClock.restoreSpeed_of_none _ now speed]
  | some previous =>
      refine tally_le_of_anchored counted ?_
      rw [endTemporaryPlaybackSpeed_clock]
      simp [RoomClock.restoreSpeed, speed]

/-- Pausing counts what was played, and a paused room has nothing to add. -/
theorem SpeedSafe.tally_stopped (now : Int) :
    (p.pausePlaybackClock now).secondsWatched ≤ p.tally now := by
  have ended := safe.tally_ended now
  unfold pausePlaybackClock
  dsimp only
  split
  · rename_i playing
    refine le_trans ?_ ended
    have counted : (((p.endTemporaryPlaybackSpeed true now).flushPlaybackPosition now)
        ).secondsWatched ≤ (p.endTemporaryPlaybackSpeed true now).tally now :=
      countWatched_le_tally_iff.mpr (Or.inl playing)
    rw [assignIsPlaying_secondsWatched, if_neg Bool.false_ne_true,
      endTemporaryPlaybackSpeed_plain _ _ (by simp)]
    exact counted
  · exact safe.ended_le_tally now

/-- The same, for a room that shares its clock, its source and its count with another. -/
theorem SpeedSafe.tally_pausePlaybackClock (now : Int)
    (clock : q.toRoomClock = p.toRoomClock) (source : q.currentSource = p.currentSource)
    (watched : q.secondsWatched = p.secondsWatched) :
    (q.pausePlaybackClock now).tally now ≤ p.tally now := by
  have shared : q.SpeedSafe :=
    safe.keep (by rw [clock]) (by rw [clock]) (by rw [clock]; exact id) (by rw [source]; exact id)
  have same : q.tally now = p.tally now := tally_congr clock watched
  rw [← same]
  exact tally_le_of_still (shared.tally_stopped now) (Or.inl (by simp))

/-- Setting no source counts what ending a temporary speed counts. -/
theorem SpeedSafe.tally_assignCurrentSource (now : Int) :
    (p.assignCurrentSource none now).tally now ≤ p.tally now := by
  refine le_trans (tally_congr ?_ ?_).le (safe.tally_ended now)
  · rw [endTemporaryPlaybackSpeed_clock]
    simp
  · exact assignCurrentSource_secondsWatched p now none

/-- Clearing the source counts what ending a temporary speed counts, which goes on only in
a playing room. -/
theorem SpeedSafe.clearSource_secondsWatched (now : Int) :
    (p.clearSource now).secondsWatched =
      (p.endTemporaryPlaybackSpeed true now).secondsWatched := by
  unfold clearSource
  dsimp only
  rw [assignCurrentSource_secondsWatched, endTemporaryPlaybackSpeed_plain]
  · split
    · exact assignIsPlaying_secondsWatched p now false
    · rename_i paused
      rw [endTemporaryPlaybackSpeed_plain]
      · rfl
      · by_contra present
        exact paused (safe (Option.isSome_iff_ne_none.mpr present)).1
  · split
    · simp [assignPlaybackPosition]
    · rename_i paused
      by_contra present
      exact paused (safe (Option.isSome_iff_ne_none.mpr present)).1

omit safe

theorem startPreparedPlayback_secondsWatched (p : Playback) (now : Int) :
    (p.startPreparedPlayback now).secondsWatched = p.secondsWatched := by
  unfold startPreparedPlayback
  split
  · rfl
  · split
    · rfl
    · split <;> rfl

/-- Leaving the source counts what was played, and no second twice. -/
theorem CountsOnce.left_le_tally (counts : p.CountsOnce now) :
    ((p.countWatched now).endTemporaryPlaybackSpeed true now).secondsWatched ≤ p.tally now := by
  rcases counts with ⟨playing, plain⟩ | unmoved
  · rw [endTemporaryPlaybackSpeed_plain _ _ (by simpa using plain)]
    exact countWatched_le_tally_iff.mpr (Or.inl playing)
  · have nothing : ∀ r : Playback, r.calcDurationFromPlaybackStart now ≤ 0 →
        (r.countWatched now).secondsWatched = r.secondsWatched := by
      intro r unmoved
      change r.secondsWatched + max 0 (r.calcDurationFromPlaybackStart now) = _
      rw [max_eq_left unmoved, add_zero]
    rw [endTemporaryPlaybackSpeed_secondsWatched, nothing _ (by simpa using unmoved),
      nothing p unmoved, ite_self]
    exact secondsWatched_le_tally p now

/-- No effect of a step that does not miscount raises the tally. -/
theorem SpeedSafe.tally_effect {scope : Scope} (counts : ¬ scope.miscounts)
    (effect : Effect scope p q) (safe : p.SpeedSafe) (forward : 0 ≤ p.playbackSpeed) :
    q.tally scope.now ≤ p.tally scope.now := by
  have untouched := secondsWatched_le_tally p scope.now
  have played : ∀ r : Playback, r.tally scope.now ≤ p.tally scope.now →
      (r.play scope.now).tally scope.now ≤ p.tally scope.now := by
    intro r kept
    refine le_trans ?_ kept
    cases playing : r.isPlaying with
    | true =>
        refine (tally_congr ?_ (by simp)).le
        simp [RoomClock.start, playing]
    | false =>
        refine tally_le_of_anchored (by simpa using secondsWatched_le_tally r scope.now) ?_
        simp [RoomClock.start, playing]
  cases effect with
  | pending pending => exact le_rfl
  | speedEnded => exact safe.tally_ended scope.now
  | speedChanged speed nonneg right =>
      refine tally_le_of_anchored ?_ (by simp)
      have counted := countWatched_le_tally_iff.mpr (right.resolve_right counts)
      change (p.endTemporaryPlaybackSpeed false scope.now).secondsWatched +
        max 0 ((p.endTemporaryPlaybackSpeed false scope.now).calcDurationFromPlaybackStart
          scope.now) ≤ _
      rw [endTemporaryPlaybackSpeed_override_secondsWatched,
        endTemporaryPlaybackSpeed_override]
      exact counted
  | spedUp clientId gestureId playing plain source =>
      exact tally_le_of_anchored (countWatched_le_tally_iff.mpr (Or.inl playing)) rfl
  | speedReset plain still =>
      refine tally_le_of_still untouched (Or.inr ?_)
      have unmoved := still.resolve_right counts
      unfold RoomClock.calcDurationFromPlaybackStart
      split
      · rename_i start anchor
        rw [unmoved start anchor]
        simp
      · exact le_rfl
  | played cause => exact played p le_rfl
  | released timedOut audience due =>
      rcases releaseBufferGate_cases p scope.now timedOut audience with
        ⟨_, same⟩ | ⟨gate, _, same | ⟨_, _, _, same⟩⟩
      · rw [same]
      · rw [same]
        exact (tally_congr (by simp) (by simp)).le
      · rw [same]
        exact played _ (tally_congr (by simp) (by simp)).le
  | waited gate waitingOn held armed => exact le_rfl
  | engaged waitingOn free playing plain noRound source settled cool armed =>
      refine safe.tally_pausePlaybackClock scope.now ?_ ?_ ?_
      · simp [trace]
      · simp [trace]
      · simp [trace]
  | recovered clientId => exact (tally_congr (by simp) rfl).le
  | paused =>
      exact safe.tally_pausePlaybackClock scope.now (by simp) (by simp) (by simp)
  | stopped => exact safe.tally_pausePlaybackClock scope.now rfl rfl rfl
  | sourceTaken item position =>
      exact tally_le_of_anchored (by simpa using safe.ended_le_tally scope.now) (by simp)
  | sourceLeft item position right =>
      refine tally_le_of_anchored ?_ (by simp)
      rw [takeSource_secondsWatched]
      exact (right.resolve_right counts).left_le_tally
  | sourceEnded cause right =>
      have counted : (p.countWatched scope.now).SpeedSafe := safe.keep rfl rfl id id
      refine tally_le_of_still ?_ (Or.inl (by simp))
      rw [counted.clearSource_secondsWatched]
      exact (right.resolve_right counts).left_le_tally
  | sourceDropped cause => exact safe.tally_assignCurrentSource scope.now
  | sourceRetimed source startAt current => exact le_rfl
  | handedOver restored playing =>
      exact tally_le_of_still untouched (Or.inr le_rfl)
  | clockHeld cause free =>
      refine tally_le_of_still ?_ (Or.inl (by simp))
      refine le_trans (le_of_eq ?_) (safe.ended_le_tally scope.now)
      unfold holdClock
      dsimp only
      rw [markDirty_secondsWatched, assignIsPlaying_secondsWatched, if_neg Bool.false_ne_true,
        endTemporaryPlaybackSpeed_plain _ _ (by simp)]
  | prepared audience fresh =>
      rcases prepareEmptyRoomPlayback_cases p scope.now scope.uuid audience with
        same | ⟨source, leader, others, _, paused, _, _, _, _, _, same⟩
      · rw [same]
      · rw [same]
        exact tally_le_of_still untouched (Or.inl paused)
  | roundEdited before after present edit => exact le_rfl
  | scheduled before fallback startAt present unscheduled later soon => exact le_rfl
  | started onTime =>
      rcases startPreparedPlayback_cases p scope.now with
        same | ⟨round, startAt, present, scheduled, _, clock, _⟩
      · rw [same]
      · have ahead : scope.now ≤ startAt :=
          onTime.resolve_right counts round startAt present scheduled
        refine tally_le_of_still ?_ (Or.inr ?_)
        · rw [startPreparedPlayback_secondsWatched]
          exact untouched
        · rw [clock]
          refine mul_nonpos_of_nonpos_of_nonneg (div_nonpos_of_nonpos_of_nonneg ?_ ?_) forward
          · exact_mod_cast sub_nonpos.mpr ahead
          · decide +kernel
  | cancelled => exact (tally_congr (by simp) (by simp)).le
  | sought value right =>
      refine tally_le_of_anchored ?_ (by simp)
      have counted := countWatched_le_tally_iff.mpr (right.resolve_right counts)
      change (p.cancelPlaybackPreparation.countWatched scope.now).secondsWatched ≤ _
      unfold countWatched at counted ⊢
      simpa using counted
  | emptied audience nobody =>
      have opened : (p.releaseBufferGate false audience scope.now).toRoomClock = p.toRoomClock ∧
          (p.releaseBufferGate false audience scope.now).currentSource = p.currentSource ∧
          (p.releaseBufferGate false audience scope.now).secondsWatched = p.secondsWatched := by
        rcases releaseBufferGate_cases p scope.now false audience with
          ⟨_, same⟩ | ⟨gate, _, same | ⟨_, _, viewers, _⟩⟩
        · rw [same]
          exact ⟨rfl, rfl, rfl⟩
        · rw [same]
          simp
        · exact absurd nobody viewers
      obtain ⟨clock, source, watched⟩ := opened
      refine le_trans (tally_congr ?_ ?_).le
        (safe.tally_pausePlaybackClock scope.now clock source watched)
      · unfold emptyRoom
        simp
      · unfold emptyRoom
        simp
  | intentKept round => exact (tally_congr (by simp) (by simp)).le
  | heldForJoin skipForReconnect audience =>
      unfold holdEmptyPlaybackForJoin
      split
      · exact le_rfl
      · have stopped := safe.tally_pausePlaybackClock scope.now
          (q := { p with bufferGate := none }) rfl rfl rfl
        exact stopped

end Playback

/-- The speed of a clock, and the one a temporary speed replaced, are not negative. -/
structure RoomClock.Rated (clock : RoomClock) : Prop where
  speed : 0 ≤ clock.playbackSpeed
  previous : ∀ temporary, clock.temporarySpeed = some temporary → 0 ≤ temporary.previousSpeed

namespace RoomClock.Rated

variable {clock other : RoomClock}

theorem of_plain (speed : 0 ≤ clock.playbackSpeed) (plain : clock.temporarySpeed = none) :
    clock.Rated := by
  refine ⟨speed, fun temporary present => ?_⟩
  rw [plain] at present
  cases present

theorem congr (rated : clock.Rated) (speed : other.playbackSpeed = clock.playbackSpeed)
    (temporary : other.temporarySpeed = clock.temporarySpeed) : other.Rated := by
  refine ⟨?_, ?_⟩
  · rw [speed]
    exact rated.speed
  · rw [temporary]
    exact rated.previous

theorem restoreSpeed (rated : clock.Rated) (now : Int) : (clock.restoreSpeed now).Rated := by
  refine of_plain ?_ (by simp)
  unfold RoomClock.restoreSpeed
  split
  · exact rated.speed
  · rename_i temporary present
    exact rated.previous temporary present

theorem start (rated : clock.Rated) (now : Int) : (clock.start now).Rated := by
  unfold RoomClock.start
  split
  · exact rated
  · exact rated.congr rfl rfl

theorem stop (rated : clock.Rated) (now : Int) : (clock.stop now).Rated := by
  have ended := rated.restoreSpeed now
  unfold RoomClock.stop
  dsimp only
  split
  · exact ended.congr rfl rfl
  · exact ended

end RoomClock.Rated

namespace Playback

variable {p q : Playback}

/-- Every effect keeps the speeds from turning negative. -/
theorem rated_effect {scope : Scope} (effect : Effect scope p q)
    (rated : p.toRoomClock.Rated) : q.toRoomClock.Rated := by
  cases effect with
  | pending pending => exact rated
  | speedEnded => simpa using rated.restoreSpeed scope.now
  | speedChanged speed nonneg right => exact .of_plain (by simpa using nonneg) (by simp)
  | spedUp clientId gestureId playing plain source =>
      rw [(startTemporarySpeed_frame p scope.now clientId gestureId).1]
      refine ⟨?_, ?_⟩
      · exact (by decide +kernel : (0 : ℚ) ≤ TEMPORARY_PLAYBACK_SPEED)
      · rintro temporary ⟨⟩
        exact rated.speed
  | speedReset plain still => exact ⟨zero_le_one, rated.previous⟩
  | played cause => simpa using rated.start scope.now
  | released timedOut audience due =>
      rcases releaseBufferGate_cases p scope.now timedOut audience with
        ⟨_, same⟩ | ⟨gate, _, same | ⟨_, _, _, same⟩⟩
      · rw [same]
        exact rated
      · rw [same]
        simpa using rated
      · rw [same]
        simpa using rated.start scope.now
  | waited gate waitingOn held armed => exact rated
  | engaged waitingOn free playing plain noRound source settled cool armed =>
      simpa using rated.stop scope.now
  | recovered clientId => simpa using rated
  | paused => simpa using rated.stop scope.now
  | stopped => simpa using rated.stop scope.now
  | sourceTaken item position =>
      exact (rated.restoreSpeed scope.now).congr (by simp) (by simp)
  | sourceLeft item position right =>
      exact (rated.restoreSpeed scope.now).congr (by simp) (by simp)
  | sourceEnded cause right =>
      unfold clearSource
      dsimp only
      rw [(assignCurrentSource_frame _ scope.now none).1]
      refine RoomClock.Rated.restoreSpeed ?_ scope.now
      split
      · refine (rated.restoreSpeed scope.now).congr ?_ ?_
        · simp [assignPlaybackPosition]
        · simp [assignPlaybackPosition]
      · exact rated.congr rfl rfl
  | sourceDropped cause => simpa using rated.restoreSpeed scope.now
  | sourceRetimed source startAt current => exact rated
  | handedOver restored playing => exact rated.congr rfl rfl
  | clockHeld cause free => exact (rated.restoreSpeed scope.now).congr (by simp) (by simp)
  | prepared audience fresh =>
      rcases prepareEmptyRoomPlayback_cases p scope.now scope.uuid audience with
        same | ⟨source, leader, others, _, _, _, _, _, _, _, same⟩
      · rw [same]
        exact rated
      · rw [same]
        exact rated.congr rfl rfl
  | roundEdited before after present edit => exact rated
  | scheduled before fallback startAt present unscheduled later soon => exact rated
  | started onTime =>
      rcases startPreparedPlayback_cases p scope.now with same | ⟨_, _, _, _, _, clock, _⟩
      · rw [same]
        exact rated
      · rw [clock]
        exact rated.congr rfl rfl
  | cancelled => simpa using rated
  | sought value right => exact rated.congr (by simp) (by simp)
  | emptied audience nobody =>
      rw [(emptyRoom_frame p scope.now audience nobody).1]
      exact rated.stop scope.now
  | intentKept round => simpa using rated
  | heldForJoin skipForReconnect audience =>
      rcases holdEmptyPlaybackForJoin_cases p scope.now skipForReconnect audience with
        same | ⟨_, clock, _⟩
      · rw [same]
        exact rated
      · rw [clock]
        exact rated.stop scope.now

end Playback

section Conditions

variable (now : Int) (p : Playback)

instance : Decidable (p.CountsPlaying now) := inferInstanceAs (Decidable (_ ∨ _))

instance : Decidable (p.CountsOnce now) := inferInstanceAs (Decidable (_ ∨ _))

instance : Decidable (p.StartsOnTime now) :=
  decidable_of_iff ((p.playbackPreparation.bind PlaybackPreparation.startAt).all fun startAt =>
    decide (now ≤ startAt)) (by
      unfold Playback.StartsOnTime
      cases p.playbackPreparation with
      | none => simp
      | some round => simp [Option.all_eq_true, forall_comm (α := PlaybackPreparation)])

instance (room : Room) : Decidable (room.CountsSource now) := inferInstanceAs (Decidable (_ → _))

instance (env : Env) (action : RoomAction) (room : Room) :
    Decidable (action.Miscounts env room) :=
  decidable_of_iff (action.counts room = true ∧ ¬ room.CountsPlaying env.now ∨
    ((action.dequeueEntry env room).any fun entry =>
      decide (¬ (entry.releaseBufferGate false env.now).CountsSource env.now)) = true ∨
    action.startsRound = true ∧ ¬ room.StartsOnTime env.now) (by
      simp only [RoomAction.Miscounts, Option.any_eq_true, decide_eq_true_eq])

end Conditions

/-- A room, and the media seconds it has played: the integral of its speed over the time
for which it was playing. -/
structure PlayedRoom where
  state : RoomState
  played : ℚ
deriving DecidableEq

/-- The media seconds that pass for a room from one time to another if nothing happens to
it in between. -/
def Playback.playedBetween (start finish : Int) (p : Playback) : ℚ :=
  if p.isPlaying then ((finish - start : Int) : ℚ) / 1000 * p.playbackSpeed else 0

/-- The media seconds a room has played since its anchor when it is built: none, unless it is
rebuilt from the snapshot of a room that was playing. -/
def Playback.playedSinceAnchor (now : Int) (p : Playback) : ℚ :=
  if p.isPlaying then max 0 (p.calcDurationFromPlaybackStart now) else 0

namespace PlayedRoom

/-- Time passes, and then the room acts. -/
def next (label : RoomLabel) (room : PlayedRoom) : PlayedRoom where
  state := room.state.next label
  played := room.played + room.state.room.playedBetween room.state.clock label.env.now

/-- The runs in which the clock does not go back, with what has been played. A room that is
rebuilt has the speed of the room that was saved, which is not negative. -/
def system : TransitionSystem PlayedRoom RoomLabel where
  Initial room := room.state.Initial ∧ 0 ≤ room.state.room.playbackSpeed ∧
    room.played = room.state.room.playedSinceAnchor room.state.clock
  Step before label after :=
    RoomState.forward.Step before.state label after.state ∧ after = before.next label

/-- The steps that count no seconds but those played, and none of them twice. -/
def Fair (room : PlayedRoom) (label : RoomLabel) : Prop :=
  ¬ label.action.Miscounts label.env room.state.room

instance (room : PlayedRoom) (label : RoomLabel) : Decidable (room.Fair label) :=
  inferInstanceAs (Decidable (¬ _))

/-- What a fair run keeps: the tally stays within what has been played. -/
structure Accounted (room : PlayedRoom) : Prop where
  safe : room.state.room.SpeedSafe
  rated : room.state.room.toRoomClock.Rated
  within : room.state.room.tally room.state.clock ≤ room.played

/-- A room that is built has counted nothing, and its speed is plain. -/
theorem uncounted {state : RoomState}
    (valid : state.Initial) :
    state.room.temporarySpeed = none ∧ state.room.secondsWatched = 0 := by
  have created : ∀ (options : RoomOptions) (now : Int),
      (Room.new options now).temporarySpeed = none ∧
        (Room.new options now).secondsWatched = 0 := by
    intro options now
    refine Room.new_preserves (fun p => p.temporarySpeed = none ∧ p.secondsWatched = 0) options now
      ⟨rfl, rfl⟩ (fun _ _ => id) ?_ (fun _ _ => id) ?_ (fun _ _ => id) (fun _ => id)
      (fun _ => id) (fun _ => id)
    · rintro p value ⟨plain, uncounted⟩
      refine ⟨by simp, ?_⟩
      rw [Playback.assignCurrentSource_secondsWatched,
        Playback.endTemporaryPlaybackSpeed_plain p now plain, uncounted]
    · rintro p value _ ⟨plain, uncounted⟩
      cases value with
      | true => exact ⟨plain, uncounted⟩
      | false =>
          refine ⟨by simp, ?_⟩
          rw [Playback.assignIsPlaying_secondsWatched, if_neg Bool.false_ne_true,
            Playback.endTemporaryPlaybackSpeed_plain p now plain, uncounted]
  cases valid with
  | created options now => exact created options now
  | restored options now idle still => exact created options now

/-- A room that is built owes what it has played since its anchor. -/
theorem accounted_initial {room : PlayedRoom} (valid : system.Initial room) : room.Accounted := by
  obtain ⟨built, speed, played⟩ := valid
  obtain ⟨plain, uncounted⟩ := uncounted built
  refine ⟨.of_plain plain, .of_plain speed plain, ?_⟩
  rw [played]
  unfold Playback.tally Meter.tally Meter.due
  rw [Playback.meter_elapsed]
  change room.state.room.secondsWatched + room.state.room.playedSinceAnchor room.state.clock ≤ _
  rw [uncounted, zero_add]

theorem accounted_step {before after : PlayedRoom} {label : RoomLabel} (fair : before.Fair label)
    (accounted : before.Accounted) (step : system.Step before label after) : after.Accounted := by
  obtain ⟨⟨forward, _, fresh, _⟩, rfl⟩ := step
  have effects : Effects (label.env.scope (label.action.Commands label.env before.state.room)
      (label.action.Freezes label.env before.state.room) False) before.state.room.toPlayback
      (label.action.apply label.env before.state.room).toPlayback :=
    RoomAction.apply_related label.env before.state.room label.action fresh (Or.inl fair)
  have kept := effects.preserves
    (fun p => p.SpeedSafe ∧ p.toRoomClock.Rated ∧
      p.tally label.env.now ≤ before.state.room.tally label.env.now)
    (fun p q effect ⟨safe, rated, within⟩ => ⟨safe.effect effect, Playback.rated_effect effect rated,
      (safe.tally_effect id effect rated.speed).trans within⟩)
    ⟨accounted.safe, accounted.rated, le_rfl⟩
  obtain ⟨safe, rated, within⟩ := kept
  refine ⟨safe, rated, ?_⟩
  have clock : (before.next label).state.clock = label.env.now := max_eq_right forward
  have later : (before.state.clock : ℚ) / 1000 ≤ (label.env.now : ℚ) / 1000 :=
    div_le_div_of_nonneg_right (by exact_mod_cast forward) (by decide +kernel)
  have passed : (if before.state.room.meter.running then
      ((label.env.now : ℚ) / 1000 - (before.state.clock : ℚ) / 1000) *
        before.state.room.meter.rate else 0) =
      before.state.room.playedBetween before.state.clock label.env.now := by
    unfold Playback.playedBetween
    rw [Int.cast_sub, sub_div]
    rfl
  rw [clock]
  change _ ≤ before.played + before.state.room.playedBetween before.state.clock label.env.now
  rw [← passed]
  exact Meter.within_of_step accounted.within accounted.rated.speed later within

/-- Labels that can be taken in order, each where it meets the condition, make a run. -/
theorem steps_run (condition : PlayedRoom → RoomLabel → Prop)
    [∀ room label, Decidable (condition room label)] (labels : List RoomLabel) (room : PlayedRoom)
    (possible : TransitionSystem.runs next (fun room label => condition room label ∧
      room.state.clock ≤ label.env.now ∧ label.action.Enabled room.state.room ∧
      label.env.uuid ∉ room.state.room.rounds) labels room = true) :
    (system.restrict condition).Steps room (TransitionSystem.run next labels room) := by
  refine TransitionSystem.steps_run ?_ labels room possible
  rintro room label ⟨met, forward, enabled, fresh⟩
  exact ⟨met, ⟨forward, enabled, fresh, rfl⟩, rfl⟩

end PlayedRoom

namespace Sample

/-- A new room, which has played nothing. -/
def unplayed : PlayedRoom := ⟨⟨Room.new {} 0, 0⟩, 0⟩

/-- A viewer plays a video at once and pauses it after ten seconds. -/
def playTenSeconds : List RoomLabel :=
  [⟨env 0 "first", .request (.join { id := "viewer", username := some "v" } false) viewer⟩,
    ⟨env 0 "first", .request (.playNow { service := .youtube, id := "video" }) viewer⟩,
    ⟨env 10000 "first", .request (.playback false) viewer⟩]

/-- A seek to the beginning. -/
def seekBack (now : Int) : RoomLabel := ⟨env now "first", .request (.seek (some 0)) viewer⟩

/-- The room after a seek, and another half a minute later. -/
def soughtTwice : PlayedRoom :=
  TransitionSystem.run PlayedRoom.next (playTenSeconds ++ [seekBack 20000, seekBack 50000]) unplayed

/-- The room after a seek before which the video was played again. -/
def soughtPlaying : PlayedRoom :=
  TransitionSystem.run PlayedRoom.next (playTenSeconds ++ [seekBack 20000,
    ⟨env 30000 "first", .request (.playback true) viewer⟩, seekBack 50000]) unplayed

end Sample

namespace PlayedRoom

end PlayedRoom

end OpenTogetherTube
