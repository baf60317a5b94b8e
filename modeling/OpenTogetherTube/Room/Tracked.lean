import OpenTogetherTube.Lib.Tracking
import OpenTogetherTube.Room.Methods

/-!
# Playback methods mark what they change

The fields of a room's playback that clients are shown, or that a snapshot stores, each with
the property that is marked for it. Every method is tracked: what it changes is dirty
afterwards. The position is the real one at the time of the step, so a running clock changes
nothing.
-/

namespace OpenTogetherTube

open Lib

/-- What a room's playback shows. -/
inductive PlaybackField where
  | isPlaying
  | resumeOnNextJoin
  | playbackPosition
  | playbackSpeed
  | temporarySpeed
  | playbackPreparation
  | currentSource
  /-- What is not playback, of which only the mark can be touched. -/
  | other (property : SyncProp)
deriving DecidableEq

namespace PlaybackField

/-- The property that is marked for a field. The intent to play goes with `isPlaying`. -/
def mark : PlaybackField → SyncProp
  | .isPlaying | .resumeOnNextJoin => .isPlaying
  | .playbackPosition => .playbackPosition
  | .playbackSpeed => .playbackSpeed
  | .temporarySpeed => .temporaryPlaybackSpeed
  | .playbackPreparation => .playbackPreparation
  | .currentSource => .currentSource
  | .other property => property

/-- The type of a field. -/
def Value : PlaybackField → Type
  | .isPlaying | .resumeOnNextJoin => Bool
  | .playbackPosition => Number
  | .playbackSpeed => ℚ
  | .temporarySpeed => Option TemporarySpeed
  | .playbackPreparation => Option PlaybackPreparation
  | .currentSource => Option QueueItem
  | .other _ => Unit

/-- The fields that a temporary speed changes when it begins or ends. -/
def isTiming : PlaybackField → Bool
  | .playbackPosition | .playbackSpeed | .temporarySpeed => true
  | _ => false

end PlaybackField

namespace Playback

/-- What a field shows at a time. -/
def shown (now : Int) (p : Playback) : (field : PlaybackField) → field.Value
  | .isPlaying => p.isPlaying
  | .resumeOnNextJoin => p.resumeOnNextJoin
  | .playbackPosition => p.realPlaybackPosition now
  | .playbackSpeed => p.playbackSpeed
  | .temporarySpeed => p.temporarySpeed
  | .playbackPreparation => p.playbackPreparation
  | .currentSource => p.currentSource
  | .other _ => ()

/-- The fields of playback, marked by their dirty properties. -/
def tracking (now : Int) : Tracking Playback PlaybackField where
  Value := PlaybackField.Value
  view field p := p.shown now field
  marked p field := field.mark ∈ p.dirty

/-- A step at this time marks what it changes. -/
abbrev Tracked (now : Int) : Playback → Playback → Prop := (tracking now).Tracked

variable {now : Int} {p q : Playback}

/-- A step that marks nothing and changes what nobody sees. -/
theorem Tracked.quiet (dirty : q.dirty = p.dirty)
    (same : ∀ field, q.shown now field = p.shown now field) : Tracked now p q :=
  .of_same same fun field marked => (congrArg (field.mark ∈ ·) dirty).mpr marked

/-- A step that marks one property, and changes what is marked for it or was marked before. -/
theorem Tracked.marking (property : SyncProp) (dirty : q.dirty = p.dirty.add property)
    (same : ∀ field, field.mark ≠ property →
      q.shown now field = p.shown now field ∨ field.mark ∈ p.dirty) : Tracked now p q := by
  have grows : ∀ other ∈ p.dirty, other ∈ q.dirty := by
    intro other marked
    rw [dirty]
    exact OrderedSet.mem_add.mpr (.inl marked)
  refine ⟨fun field => grows field.mark, fun field => ?_⟩
  by_cases here : field.mark = property
  · refine .inr ?_
    change field.mark ∈ q.dirty
    rw [dirty]
    exact OrderedSet.mem_add.mpr (.inr here)
  · exact (same field here).imp_right (grows field.mark)

/-- Once the position is marked, the clock may be moved. -/
theorem Tracked.settled (moved : SyncProp.playbackPosition ∈ p.dirty) (dirty : q.dirty = p.dirty)
    (same : ∀ field, field ≠ .playbackPosition → q.shown now field = p.shown now field) :
    Tracked now p q := by
  refine ⟨fun field marked => (congrArg (field.mark ∈ ·) dirty).mpr marked, fun field => ?_⟩
  by_cases here : field = .playbackPosition
  · subst here
    exact .inr ((congrArg (SyncProp.playbackPosition ∈ ·) dirty).mpr moved)
  · exact .inl (same field here)

/-- The clock may be moved first if the position is marked in the end. -/
theorem Tracked.closing {r : Playback} (grows : ∀ property ∈ p.dirty, property ∈ q.dirty)
    (same : ∀ field, field ≠ .playbackPosition →
      q.shown now field = p.shown now field ∨ field.mark ∈ q.dirty)
    (rest : Tracked now q r) (moved : SyncProp.playbackPosition ∈ r.dirty) : Tracked now p r := by
  refine ⟨fun field marked => rest.grows field (grows field.mark marked), fun field => ?_⟩
  by_cases here : field = .playbackPosition
  · subst here
    exact .inr moved
  · rcases rest.sameOrMarked field with later | marked
    · exact (same field here).imp later.trans (rest.grows field)
    · exact .inr marked

theorem markDirty_tracked (property : SyncProp) : Tracked now p (p.markDirty property) :=
  .marking property rfl fun _ _ => .inl rfl

theorem assignPlaybackPosition_tracked (value : Number) :
    Tracked now p (p.assignPlaybackPosition value) := by
  refine .marking .playbackPosition rfl fun field other => ?_
  cases field <;> first | exact .inl rfl | exact absurd rfl other

/-- A position that is set is marked. -/
theorem assignPlaybackPosition_settled (value : Number) :
    SyncProp.playbackPosition ∈ (p.assignPlaybackPosition value).dirty :=
  OrderedSet.mem_add.mpr (.inr rfl)

/-- The count of watched seconds is not synced. -/
theorem countWatched_tracked : Tracked now p (p.countWatched now) :=
  .quiet rfl fun field => by cases field <;> rfl

theorem flushPlaybackPosition_tracked : Tracked now p (p.flushPlaybackPosition now) := by
  refine .marking .playbackPosition rfl fun field other => ?_
  cases field <;> first | exact .inl rfl | exact absurd rfl other

theorem flushPlaybackPosition_settled :
    SyncProp.playbackPosition ∈ (p.flushPlaybackPosition now).dirty :=
  OrderedSet.mem_add.mpr (.inr rfl)

/-- The speed is set where the position has been. -/
theorem assignPlaybackSpeed_tracked (moved : SyncProp.playbackPosition ∈ p.dirty) (value : ℚ) :
    Tracked now p (p.assignPlaybackSpeed value) := by
  refine .marking .playbackSpeed rfl fun field other => ?_
  cases field <;> first | exact .inl rfl | exact .inr moved | exact absurd rfl other

/-- A temporary speed begins or ends. -/
theorem Tracked.retiming
    (dirty : q.dirty = ((p.dirty.add .playbackPosition).add .playbackSpeed).add
      SyncProp.temporaryPlaybackSpeed)
    (same : ∀ field, q.shown now field = p.shown now field ∨ field.isTiming = true) :
    Tracked now p q := by
  have marked : ∀ property, property ∈ p.dirty ∨ property = .playbackPosition ∨
      property = .playbackSpeed ∨ property = .temporaryPlaybackSpeed → property ∈ q.dirty := by
    intro property held
    rw [dirty]
    simpa only [OrderedSet.mem_add, or_assoc] using held
  refine ⟨fun field earlier => marked field.mark (.inl earlier), fun field => ?_⟩
  refine (same field).imp_right fun timing => marked field.mark (.inr ?_)
  cases field with
  | playbackPosition => exact .inl rfl
  | playbackSpeed => exact .inr (.inl rfl)
  | temporarySpeed => exact .inr (.inr rfl)
  | _ => cases timing

theorem endTemporaryPlaybackSpeed_tracked (restore : Bool) :
    Tracked now p (p.endTemporaryPlaybackSpeed restore now) := by
  unfold endTemporaryPlaybackSpeed
  dsimp only
  cases p.temporarySpeed with
  | none => exact .quiet rfl fun field => by cases field <;> rfl
  | some previous =>
      cases restore with
      | false =>
          refine .marking .temporaryPlaybackSpeed rfl fun field other => ?_
          cases field <;> first | exact .inl rfl | exact absurd rfl other
      | true =>
          refine .retiming rfl fun field => ?_
          cases field <;> first | exact .inl rfl | exact .inr rfl

/-- The flag is set where the position has been. -/
theorem assignIsPlaying_tracked (moved : SyncProp.playbackPosition ∈ p.dirty) (value : Bool) :
    Tracked now p (p.assignIsPlaying value now) := by
  have flagged : ∀ q : Playback, SyncProp.playbackPosition ∈ q.dirty →
      Tracked now q ({ q with isPlaying := value }.markDirty .isPlaying) := by
    intro q moved
    refine .marking .isPlaying rfl fun field other => ?_
    cases field <;> first | exact .inl rfl | exact .inr moved | exact absurd rfl other
  cases value with
  | true => exact flagged p moved
  | false =>
      have ended : Tracked now p _ := endTemporaryPlaybackSpeed_tracked true
      exact ended.trans (flagged _ (ended.grows .playbackPosition moved))

theorem clearPlaybackStartTimer_tracked : Tracked now p p.clearPlaybackStartTimer :=
  .quiet rfl fun field => by cases field <;> rfl

theorem cancelPlaybackPreparation_tracked : Tracked now p p.cancelPlaybackPreparation := by
  have dropped : ∀ q : Playback, Tracked now q (if q.playbackPreparation.isSome then
      { q with playbackPreparation := none }.markDirty .playbackPreparation else q) := by
    intro q
    split
    · refine .marking .playbackPreparation rfl fun field other => ?_
      cases field <;> first | exact .inl rfl | exact absurd rfl other
    · exact .refl q
  have forgotten : ∀ q : Playback, Tracked now q (if q.resumeOnNextJoin then
      { q with resumeOnNextJoin := false }.markDirty .isPlaying else q) := by
    intro q
    split
    · refine .marking .isPlaying rfl fun field other => ?_
      cases field <;> first | exact .inl rfl | exact absurd rfl other
    · exact .refl q
  exact (clearPlaybackStartTimer_tracked.trans (dropped _)).trans (forgotten _)

theorem assignCurrentSource_tracked (value : Option QueueItem) :
    Tracked now p (p.assignCurrentSource value now) := by
  have gated : Tracked now p
      { p with bufferGate := none, bufferGateExhausted := [], lastPlayAt := some now } :=
    .quiet rfl fun field => by cases field <;> rfl
  refine ((gated.trans (endTemporaryPlaybackSpeed_tracked true)).trans
    cancelPlaybackPreparation_tracked).trans ?_
  refine Tracked.marking .currentSource rfl fun field other => ?_
  cases field <;> first | exact .inl rfl | exact absurd rfl other

theorem play_tracked : Tracked now p (p.play now) := by
  have continued : Tracked now p (if p.bufferGate.isSome then
      { p with
        bufferGate := none
        bufferGateCooldownUntil := some (now + BUFFER_GATE_COOLDOWN_MS) }.trace (.continued now)
      else p) := by
    split
    · exact .quiet rfl fun field => by cases field <;> rfl
    · exact .refl p
  have restored : ∀ q : Playback, Tracked now q { q with restoredFromStorage := false } :=
    fun q => .quiet rfl fun field => by cases field <;> rfl
  have started : ∀ q : Playback, Tracked now q (if q.isPlaying then q else
      { ({ q with lastPlayAt := some now }.assignIsPlaying true now) with
        playbackStart := some now }) := by
    intro q
    split
    · exact .refl q
    · rename_i stopped
      refine .marking .isPlaying rfl fun field other => ?_
      cases field with
      | playbackPosition =>
          have before := RoomClock.realPlaybackPosition_of_stopped q.toRoomClock now
            (Bool.not_eq_true _ |>.mp stopped)
          exact .inl ((RoomClock.realPlaybackPosition_of_anchored _ now rfl).trans before.symm)
      | isPlaying => exact absurd rfl other
      | resumeOnNextJoin => exact absurd rfl other
      | playbackSpeed => exact .inl rfl
      | temporarySpeed => exact .inl rfl
      | playbackPreparation => exact .inl rfl
      | currentSource => exact .inl rfl
      | other _ => exact .inl rfl
  exact ((continued.trans cancelPlaybackPreparation_tracked).trans (restored _)).trans (started _)

theorem anchor_tracked (moved : SyncProp.playbackPosition ∈ p.dirty) (start : Option Int) :
    Tracked now p { p with playbackStart := start } := by
  refine .settled moved rfl fun field other => ?_
  cases field <;> first | rfl | exact absurd rfl other

theorem pausePlaybackClock_tracked : Tracked now p (p.pausePlaybackClock now) := by
  unfold pausePlaybackClock
  dsimp only
  refine (endTemporaryPlaybackSpeed_tracked true).trans ?_
  split
  · refine flushPlaybackPosition_tracked.trans ?_
    have settled : SyncProp.playbackPosition ∈
        ((p.endTemporaryPlaybackSpeed true now).flushPlaybackPosition now).dirty :=
      flushPlaybackPosition_settled
    have stopped : Tracked now _ _ := anchor_tracked settled none
    exact stopped.trans (assignIsPlaying_tracked (stopped.grows .playbackPosition settled) false)
  · exact .refl _

theorem pause_tracked (byBufferGate : Bool) : Tracked now p (p.pause byBufferGate now) := by
  have opened : Tracked now p (if byBufferGate then p else { p with bufferGate := none }) := by
    split
    · exact .refl p
    · exact .quiet rfl fun field => by cases field <;> rfl
  exact (opened.trans cancelPlaybackPreparation_tracked).trans pausePlaybackClock_tracked

theorem seekRaw_tracked (value : Number) : Tracked now p (p.seekRaw value now) :=
  ((cancelPlaybackPreparation_tracked.trans countWatched_tracked).trans
    (assignPlaybackPosition_tracked value)).trans
    (anchor_tracked (assignPlaybackPosition_settled value) _)

theorem takeSource_tracked (item : QueueItem) (position : Number) :
    Tracked now p (p.takeSource item position now) :=
  ((assignCurrentSource_tracked (some item)).trans (assignPlaybackPosition_tracked position)).trans
    (anchor_tracked (assignPlaybackPosition_settled position) _)

variable (audience : Audience)

theorem clearBufferGate_tracked (gate : BufferGate) (timedOut : Bool) :
    Tracked now p (p.clearBufferGate gate timedOut audience now) := by
  cases timedOut <;> exact .quiet rfl fun field => by cases field <;> rfl

theorem engageBufferGate_tracked (waitingOn : List ClientId) :
    Tracked now p (p.engageBufferGate waitingOn now) := by
  have engaged : Tracked now p
      ({ p with bufferGate := some ⟨now, waitingOn, true⟩ }.trace (.engaged now waitingOn)) :=
    .quiet rfl fun field => by cases field <;> rfl
  exact engaged.trans (pause_tracked true)

theorem startPreparedPlayback_tracked : Tracked now p (p.startPreparedPlayback now) := by
  unfold startPreparedPlayback
  split
  · exact .refl p
  · rename_i preparation _
    split
    · exact .refl p
    · rename_i startAt _
      split
      · exact .refl p
      · -- the round and the intent to play are dropped unmarked, and marked at the end
        have marked : ∀ property, property ∈ p.dirty ∨ property = .playbackPosition ∨
            property = .isPlaying ∨ property = .playbackPreparation →
            property ∈ ((((p.dirty.add .playbackPosition).add .isPlaying).add
              .playbackPreparation).add .isPlaying).add SyncProp.playbackPosition := by
          intro property held
          simp only [OrderedSet.mem_add]
          tauto
        refine ⟨fun field earlier => marked field.mark (.inl earlier), fun field => ?_⟩
        cases field with
        | isPlaying => exact .inr (marked _ (.inr (.inr (.inl rfl))))
        | resumeOnNextJoin => exact .inr (marked _ (.inr (.inr (.inl rfl))))
        | playbackPosition => exact .inr (marked _ (.inr (.inl rfl)))
        | playbackPreparation => exact .inr (marked _ (.inr (.inr (.inr rfl))))
        | playbackSpeed => exact .inl rfl
        | temporarySpeed => exact .inl rfl
        | currentSource => exact .inl rfl
        | other _ => exact .inl rfl

theorem assignRound_tracked (round : PlaybackPreparation) : Tracked now p (p.assignRound round) := by
  refine .marking .playbackPreparation rfl fun field other => ?_
  cases field <;> first | exact .inl rfl | exact absurd rfl other

theorem tracked_methods : KeepsMethods audience now (Tracked now) where
  clearBufferGate _ gate timedOut := clearBufferGate_tracked audience gate timedOut
  play _ := play_tracked
  engageBufferGate _ := engageBufferGate_tracked
  waited _ _ _ := .quiet rfl fun field => by cases field <;> rfl
  assignRound _ := assignRound_tracked
  timed _ _ := .quiet rfl fun field => by cases field <;> rfl
  startPreparedPlayback _ := startPreparedPlayback_tracked
  cancelPlaybackPreparation _ := cancelPlaybackPreparation_tracked
  endTemporaryPlaybackSpeed _ := endTemporaryPlaybackSpeed_tracked true

theorem prepareEmptyRoomPlayback_tracked (id : String) :
    Tracked now p (p.prepareEmptyRoomPlayback id audience now) := by
  rcases prepareEmptyRoomPlayback_cases p now id audience with
    same | ⟨source, leader, others, _, stopped, _, _, _, _, _, same⟩
  · rw [same]
    exact .refl p
  · rw [same]
    refine .marking .playbackPreparation rfl fun field other => ?_
    cases field with
    | playbackPosition =>
        refine .inl ?_
        simp only [shown, markDirty, RoomClock.realPlaybackPosition, stopped, Bool.and_false]
        rfl
    | playbackPreparation => exact absurd rfl other
    | isPlaying => exact .inl rfl
    | resumeOnNextJoin => exact .inl rfl
    | playbackSpeed => exact .inl rfl
    | temporarySpeed => exact .inl rfl
    | currentSource => exact .inl rfl
    | other _ => exact .inl rfl

/-- The clock is held where the position has been set. -/
theorem holdClock_tracked (moved : SyncProp.playbackPosition ∈ p.dirty) :
    Tracked now p (p.holdClock now) := by
  have ended : Tracked now p (p.endTemporaryPlaybackSpeed true now) :=
    endTemporaryPlaybackSpeed_tracked true
  have unanchored : Tracked now _ _ := anchor_tracked (ended.grows .playbackPosition moved) none
  have held := ended.trans unanchored
  have stopped := held.trans (assignIsPlaying_tracked (held.grows .playbackPosition moved) false)
  refine stopped.trans ?_
  refine Tracked.marking .isPlaying rfl fun field other => ?_
  cases field <;> first | exact .inl rfl | exact absurd rfl other

theorem holdPlaybackForPreparation_tracked (moved : SyncProp.playbackPosition ∈ p.dirty)
    (id : String) : Tracked now p (p.holdPlaybackForPreparation id audience now) :=
  (holdClock_tracked moved).trans (prepareEmptyRoomPlayback_tracked audience id)

/-- An item is set going where its position has been set. -/
theorem startItem_tracked (moved : SyncProp.playbackPosition ∈ p.dirty) (id : String) :
    Tracked now p (p.startItem id audience now) := by
  unfold startItem
  split
  · exact anchor_tracked moved none
  · split
    · exact holdPlaybackForPreparation_tracked audience moved id
    · split
      · exact .refl p
      · exact play_tracked

theorem startItemNow_tracked (moved : SyncProp.playbackPosition ∈ p.dirty) (id : String) :
    Tracked now p (p.startItemNow id audience now) := by
  unfold startItemNow
  split
  · exact holdPlaybackForPreparation_tracked audience moved id
  · split
    · exact .refl p
    · exact play_tracked

theorem restartSource_tracked (source : QueueItem) :
    Tracked now p (p.restartSource source now) := by
  unfold restartSource
  dsimp only
  have taken : Tracked now p (p.takeSource source.clearQueueItemTrim 0 now) := takeSource_tracked _ 0
  refine taken.trans ?_
  split
  · exact .refl _
  · exact play_tracked

/-- A stopped clock goes back to the start, and its source is dropped. -/
theorem dropSource_tracked (q : Playback) :
    Tracked now q ({ q.assignPlaybackPosition 0 with playbackStart := some now }.assignCurrentSource
        none now) ∧
      SyncProp.playbackPosition ∈ ({ q.assignPlaybackPosition 0 with
        playbackStart := some now }.assignCurrentSource none now).dirty := by
  have placed : Tracked now q _ := assignPlaybackPosition_tracked 0
  have settled := assignPlaybackPosition_settled (p := q) 0
  have anchored : Tracked now _ _ := anchor_tracked settled (some now)
  have cleared : Tracked now { q.assignPlaybackPosition 0 with playbackStart := some now } _ :=
    assignCurrentSource_tracked none
  exact ⟨(placed.trans anchored).trans cleared,
    cleared.grows .playbackPosition (anchored.grows .playbackPosition settled)⟩

theorem clearSource_settled : SyncProp.playbackPosition ∈ (p.clearSource now).dirty := by
  unfold clearSource
  exact (dropSource_tracked _).2

/-- Playback stops with the last source: the position is set only after it has stopped. -/
theorem clearSource_tracked : Tracked now p (p.clearSource now) := by
  have moved : SyncProp.playbackPosition ∈ (p.clearSource now).dirty := clearSource_settled
  revert moved
  unfold clearSource
  dsimp only
  intro moved
  refine .closing ?_ ?_ (dropSource_tracked _).1 moved
  · intro property marked
    split
    · have ended : Tracked now p (p.endTemporaryPlaybackSpeed true now) :=
        endTemporaryPlaybackSpeed_tracked true
      exact OrderedSet.mem_add.mpr (.inl (ended.grows (.other property) marked))
    · exact marked
  · intro field elsewhere
    split
    · have ended : Tracked now p (p.endTemporaryPlaybackSpeed true now) :=
        endTemporaryPlaybackSpeed_tracked true
      by_cases playing : field.mark = .isPlaying
      · exact .inr (OrderedSet.mem_add.mpr (.inr playing))
      · refine (ended.sameOrMarked field).imp (Eq.trans ?_) fun marked =>
          OrderedSet.mem_add.mpr (.inl marked)
        cases field <;> first | rfl | exact absurd rfl elsewhere | exact absurd rfl playing
    · exact .inl rfl

theorem startTemporarySpeed_tracked (clientId : ClientId) (gestureId : String) :
    Tracked now p (p.startTemporarySpeed clientId gestureId now) := by
  refine .retiming rfl fun field => ?_
  cases field <;> first | exact .inl rfl | exact .inr rfl

theorem changeSpeed_tracked (speed : ℚ) : Tracked now p (p.changeSpeed speed now) :=
  ((endTemporaryPlaybackSpeed_tracked false).trans flushPlaybackPosition_tracked).trans
    (assignPlaybackSpeed_tracked flushPlaybackPosition_settled speed)

theorem emptyRoom_tracked : Tracked now p (p.emptyRoom audience now) := by
  unfold emptyRoom
  dsimp only
  refine ((((tracked_methods audience).releaseBufferGate p false).trans pausePlaybackClock_tracked).trans
    cancelPlaybackPreparation_tracked).trans ?_
  refine Tracked.marking .isPlaying rfl fun field other => ?_
  cases field <;> first | exact .inl rfl | exact absurd rfl other

theorem rebuildRound_tracked (id : String) (clientId : ClientId) :
    Tracked now p (p.rebuildRound id clientId audience now) := by
  unfold rebuildRound
  split
  · exact .refl p
  · split
    · have wanted : ∀ q : Playback,
          Tracked now q ({ q with resumeOnNextJoin := true }.markDirty .isPlaying) := by
        refine fun q => .marking .isPlaying rfl fun field other => ?_
        cases field <;> first | exact .inl rfl | exact absurd rfl other
      exact (cancelPlaybackPreparation_tracked.trans (wanted _)).trans
        (prepareEmptyRoomPlayback_tracked audience id)
    · exact .refl p

theorem holdEmptyPlaybackForJoin_tracked (skipForReconnect : Bool) :
    Tracked now p (p.holdEmptyPlaybackForJoin skipForReconnect audience now) := by
  unfold holdEmptyPlaybackForJoin
  split
  · exact .refl p
  · have opened : Tracked now p { p with bufferGate := none } :=
      .quiet rfl fun field => by cases field <;> rfl
    refine (opened.trans pausePlaybackClock_tracked).trans ?_
    refine Tracked.marking .isPlaying rfl fun field other => ?_
    cases field <;> first | exact .inl rfl | exact absurd rfl other

theorem resumeForJoin_tracked (reconnect mayPlay : Bool) (id : String) :
    Tracked now p (p.resumeForJoin reconnect mayPlay id audience now) := by
  unfold resumeForJoin
  split
  · have cleared : Tracked now p ({ p with resumeOnNextJoin := false }.markDirty .isPlaying) := by
      refine .marking .isPlaying rfl fun field other => ?_
      cases field <;> first | exact .inl rfl | exact absurd rfl other
    exact (cleared.trans play_tracked).trans (markDirty_tracked _)
  · exact prepareEmptyRoomPlayback_tracked audience id

theorem noteRecovery_tracked (clientId : ClientId) : Tracked now p (p.noteRecovery clientId) :=
  .quiet rfl fun field => by cases field <;> rfl

theorem renewTemporaryPlaybackSpeed_tracked : Tracked now p (p.renewTemporaryPlaybackSpeed now) :=
  .quiet rfl fun field => by cases field <;> rfl

end Playback

end OpenTogetherTube
