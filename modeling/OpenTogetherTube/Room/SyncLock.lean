import OpenTogetherTube.Room.Watched

/-!
# Writes while a checkpoint waits

`syncDirty` reads the room and clears its marks at once, and then waits: for a debounced save
of the snapshot, and for the database. Setters run in the meantime. A setter marks what it
writes, so what clients were told and what the row says is right wherever nothing is dirty and
no checkpoint is on its way; a checkpoint that fails marks again what it had taken.
-/

namespace OpenTogetherTube

open Lib Lib.Handler

/-- A write through a setter of `Room`, or of its queue. -/
inductive SetterWrite where
  | name (value : String)
  | title (value : String)
  | description (value : String)
  | visibility (value : Visibility)
  | queueMode (value : QueueMode)
  | autoSkipSegmentCategories (value : List Category)
  | currentSource (value : Option QueueItem)
  | queue (items : List QueueItem)
  | isPlaying (value : Bool)
  | playbackPosition (value : Number)
  | playbackSpeed (value : ℚ)
  | owner (value : Option User)
  | videoSegments (value : List Segment)
  | prevQueue (value : Option (List QueueItem))
  | enableVoteSkip (value : Bool)
  | bufferGateMode (value : BufferGateMode)
  | danmakuSource (value : Option RoomDanmakuSource)
deriving DecidableEq

namespace SetterWrite

/-- The property that is marked for the write. -/
def property : SetterWrite → SyncProp
  | .name _ => .name
  | .title _ => .title
  | .description _ => .description
  | .visibility _ => .visibility
  | .queueMode _ => .queueMode
  | .autoSkipSegmentCategories _ => .autoSkipSegmentCategories
  | .currentSource _ => .currentSource
  | .queue _ => .queue
  | .isPlaying _ => .isPlaying
  | .playbackPosition _ => .playbackPosition
  | .playbackSpeed _ => .playbackSpeed
  | .owner _ => .hasOwner
  | .videoSegments _ => .videoSegments
  | .prevQueue _ => .prevQueue
  | .enableVoteSkip _ => .enableVoteSkip
  | .bufferGateMode _ => .bufferGateMode
  | .danmakuSource _ => .danmakuSource

/-- The setters. -/
def apply (now : Int) (write : SetterWrite) (room : Room) : Room :=
  match write with
  | .name value => { room with name := value }.markDirty .name
  | .title value => { room with title := value }.markDirty .title
  | .description value => { room with description := value }.markDirty .description
  | .visibility value => { room with visibility := value }.markDirty .visibility
  | .queueMode value => { room with queueMode := value }.markDirty .queueMode
  | .autoSkipSegmentCategories value =>
      { room with autoSkipSegmentCategories := value }.markDirty .autoSkipSegmentCategories
  | .currentSource value => room.onPlayback (Playback.assignCurrentSource value now)
  | .queue items => room.assignQueue items
  | .isPlaying value => room.onPlayback (Playback.assignIsPlaying value now)
  | .playbackPosition value => room.onPlayback (Playback.assignPlaybackPosition value)
  | .playbackSpeed value => room.onPlayback (Playback.assignPlaybackSpeed value)
  | .owner value => room.assignOwner value
  | .videoSegments value => room.assignVideoSegments value
  | .prevQueue value => room.assignPrevQueue value
  | .enableVoteSkip value => { room with enableVoteSkip := value }.markDirty .enableVoteSkip
  | .bufferGateMode value => { room with bufferGateMode := value }.markDirty .bufferGateMode
  | .danmakuSource value => { room with danmakuSource := value }.markDirty .danmakuSource

/-- The setter of the saved queue returns at once when there is none and none is to come. -/
def isIgnored (write : SetterWrite) (room : Room) : Bool :=
  decide (write = .prevQueue none) && room.prevQueue.isNone

end SetterWrite

namespace RoomClock

/-- How far the clock has run from its position. -/
def elapsed (now : Int) (clock : RoomClock) : ℚ :=
  if clock.playbackStart.isSome && clock.isPlaying then clock.calcDurationFromPlaybackStart now else 0

theorem realPlaybackPosition_elapsed (clock : RoomClock) (now : Int) :
    clock.realPlaybackPosition now = clock.playbackPosition.addRat (clock.elapsed now) := by
  unfold realPlaybackPosition elapsed
  split
  · rfl
  · rw [Number.addRat_zero]

end RoomClock

namespace Room

variable (room : Room)

/-- What the synced properties are, the clock not run. -/
def anchoredState : (property : SyncProp) → property.Value
  | .playbackPosition => room.playbackPosition
  | property => room.syncableState 0 property

/-- The synced properties, marked when dirty. -/
def anchoredView : Tracking Room SyncProp where
  Value := SyncProp.Value
  view property room := room.anchoredState property
  marked room property := property ∈ room.dirty

/-- Values of the synced properties, the clock run on. -/
def runOn (elapsed : ℚ) (values : (property : SyncProp) → property.Value) :
    (property : SyncProp) → property.Value
  | .playbackPosition => Number.addRat (values .playbackPosition) elapsed
  | property => values property

theorem syncableState_runOn (now : Int) (property : SyncProp) :
    room.syncableState now property = runOn (room.elapsed now) room.anchoredState property := by
  cases property <;> first | rfl | exact room.realPlaybackPosition_elapsed now

/-- The queue to save, the current item at a position. -/
def snapshotAt (position : Number) : Option (List QueueItem) :=
  let items := (room.currentSource.map fun item =>
    { item with startAt := some position }).toList ++ room.queue
  if items.isEmpty then room.prevQueue else some items

theorem queueSnapshot_at (now : Int) :
    room.queueSnapshot now = room.snapshotAt (room.playbackPosition.addRat (room.elapsed now)) :=
  congrArg room.snapshotAt (room.realPlaybackPosition_elapsed now)

/-- The settings, the saved queue as it depends on how far the clock has run. -/
def savedView : Tracking Room PersistentSetting where
  Value
    | .prevQueue => ℚ → Option (List QueueItem)
    | setting => setting.Value
  view
    | .prevQueue, room => fun elapsed => room.snapshotAt (room.playbackPosition.addRat elapsed)
    | .title, room => room.title
    | .description, room => room.description
    | .visibility, room => room.visibility
    | .queueMode, room => room.queueMode
    | .autoSkipSegmentCategories, room => room.autoSkipSegmentCategories
    | .grants, room => room.grants
    | .userRoles, room => room.userRoles
    | .owner, room => room.owner
    | .restoreQueueBehavior, room => room.restoreQueueBehavior
    | .enableVoteSkip, room => room.enableVoteSkip
    | .bufferGateMode, room => room.bufferGateMode
    | .danmakuSource, room => room.danmakuSource
    | .permissionsRevision, room => room.permissionsRevision
  marked room setting := setting.handedOver room.dirty = true

/-- A write marks what it changes, of the synced properties and of the settings. -/
structure Written (before after : Room) : Prop where
  anchored : anchoredView.Tracked before after
  saved : savedView.Tracked before after

namespace Written

variable {room} {before after : Room}

theorem trans {first second third : Room} (earlier : Written first second)
    (later : Written second third) : Written first third :=
  ⟨earlier.anchored.trans later.anchored, earlier.saved.trans later.saved⟩

/-- One property is marked, and nothing else changes. -/
theorem marking (property : SyncProp) (dirty : after.dirty = before.dirty.add property)
    (anchored : ∀ other ≠ property, after.anchoredState other = before.anchoredState other)
    (saved : ∀ setting : PersistentSetting, property ∉ setting.triggers →
      savedView.view setting after = savedView.view setting before) : Written before after := by
  have grows : ∀ other ∈ before.dirty, other ∈ after.dirty := by
    intro other held
    rw [dirty]
    exact OrderedSet.mem_add.mpr (.inl held)
  have marked : property ∈ after.dirty := by
    rw [dirty]
    exact OrderedSet.mem_add.mpr (.inr rfl)
  refine ⟨⟨grows, fun other => ?_⟩, ⟨fun setting => PersistentSetting.handedOver_mono grows,
    fun setting => ?_⟩⟩
  · by_cases here : other = property
    · exact .inr (here ▸ marked)
    · exact .inl (anchored other here)
  · by_cases triggered : property ∈ setting.triggers
    · exact .inr (List.any_eq_true.mpr ⟨property, triggered, decide_eq_true marked⟩)
    · exact .inl (saved setting triggered)

/-- A playback method that marks what it changes, the stored position too. -/
theorem onPlayback {now : Int} {update : Playback → Playback}
    (tracked : Playback.Tracked now room.toPlayback (update room.toPlayback))
    (placed : (update room.toPlayback).playbackPosition = room.playbackPosition ∨
      SyncProp.playbackPosition ∈ (update room.toPlayback).dirty) :
    Written room (room.onPlayback update) := by
  have tracked : Room.Tracked now room (room.onPlayback update) := .onPlayback tracked
  have held : ∀ property, property ∈ PersistentSetting.triggers .prevQueue →
      property ∈ (room.onPlayback update).dirty →
      PersistentSetting.handedOver (room.onPlayback update).dirty .prevQueue = true :=
    fun property trigger held => List.any_eq_true.mpr ⟨property, trigger, decide_eq_true held⟩
  refine ⟨⟨fun _ => dirty_of_tracked tracked, fun property => ?_⟩,
    ⟨fun setting => PersistentSetting.handedOver_mono fun _ => dirty_of_tracked tracked,
      fun setting => ?_⟩⟩
  · by_cases position : property = .playbackPosition
    · subst position
      exact placed
    · rcases tracked.sameOrMarked (.sync property) with same | ⟨other, mark, marked⟩
      · refine .inl ?_
        have still : ∀ room : Room, anchoredView.view property room =
            room.syncableState now property := by
          intro room
          cases property <;> first | rfl | exact absurd rfl position
        rw [still, still]
        exact same
      · cases mark
        exact .inr marked
  · cases setting with
    | prevQueue =>
        rcases tracked.sameOrMarked (.sync .currentSource) with source | ⟨other, mark, marked⟩
        · rcases placed with placed | marked
          · refine .inl (funext fun elapsed => ?_)
            change Room.snapshotAt _ _ = Room.snapshotAt _ _
            unfold Room.snapshotAt
            have source : (room.onPlayback update).currentSource = room.currentSource := source
            have placed : (room.onPlayback update).playbackPosition = room.playbackPosition := placed
            rw [source, placed]
            rfl
          · exact .inr (held _ (by decide) marked)
        · cases mark
          exact .inr (held _ (by decide) marked)
    | _ => exact .inl rfl

end Written

end Room

namespace Playback

variable (p : Playback) (now : Int)

/-- The stored position moves with its mark only. -/
theorem endTemporaryPlaybackSpeed_placed :
    (p.endTemporaryPlaybackSpeed true now).playbackPosition = p.playbackPosition ∨
      SyncProp.playbackPosition ∈ (p.endTemporaryPlaybackSpeed true now).dirty := by
  unfold endTemporaryPlaybackSpeed
  dsimp only
  cases p.temporarySpeed with
  | none => exact .inl rfl
  | some previous =>
      refine .inr (OrderedSet.mem_add.mpr (.inl (OrderedSet.mem_add.mpr (.inl ?_))))
      exact OrderedSet.mem_add.mpr (.inr rfl)

theorem assignCurrentSource_placed (value : Option QueueItem) :
    (p.assignCurrentSource value now).playbackPosition = p.playbackPosition ∨
      SyncProp.playbackPosition ∈ (p.assignCurrentSource value now).dirty := by
  have cancelled : ∀ q : Playback, q.cancelPlaybackPreparation.playbackPosition = q.playbackPosition := by
    intro q
    unfold cancelPlaybackPreparation
    dsimp only
    split <;> split <;> rfl
  have gated : Playback.Tracked now
      (Playback.endTemporaryPlaybackSpeed true now
        { p with bufferGate := none, bufferGateExhausted := [], lastPlayAt := some now })
      (p.assignCurrentSource value now) := by
    refine cancelPlaybackPreparation_tracked.trans ?_
    refine Tracked.marking .currentSource rfl fun field other => ?_
    cases field <;> first | exact .inl rfl | exact absurd rfl other
  refine (endTemporaryPlaybackSpeed_placed
    { p with bufferGate := none, bufferGateExhausted := [], lastPlayAt := some now } now).imp ?_
    (gated.grows .playbackPosition)
  intro same
  exact (cancelled _).trans same

end Playback

namespace SetterWrite

/-- Every setter marks what it changes. -/
theorem apply_written (now : Int) (write : SetterWrite) (room : Room) :
    room.Written (write.apply now room) := by
  have flagged : ∀ (room : Room) (value : Bool), room.Written (room.onPlayback fun p =>
      { p with isPlaying := value }.markDirty .isPlaying) := by
    intro room value
    refine .marking .isPlaying rfl (fun other elsewhere => ?_) fun setting _ => ?_
    · cases other <;> first | rfl | exact absurd rfl elsewhere
    · cases setting <;> rfl
  cases write with
  | currentSource value =>
      exact .onPlayback (@Playback.assignCurrentSource_tracked now _ value)
        (Playback.assignCurrentSource_placed _ now value)
  | isPlaying value =>
      cases value with
      | true => exact flagged room true
      | false =>
          have ended : room.Written
              (room.onPlayback (Playback.endTemporaryPlaybackSpeed true now)) :=
            .onPlayback (Playback.endTemporaryPlaybackSpeed_tracked true)
              (Playback.endTemporaryPlaybackSpeed_placed _ now)
          exact ended.trans (flagged _ false)
  | prevQueue value =>
      change room.Written (room.assignPrevQueue value)
      unfold Room.assignPrevQueue
      split
      · exact ⟨.refl room, .refl room⟩
      · refine .marking .prevQueue rfl (fun other elsewhere => ?_) fun setting untriggered => ?_
        · cases other <;> first | rfl | exact absurd rfl elsewhere
        · cases setting <;> first | rfl | exact absurd (by decide) untriggered
  | _ =>
      refine .marking _ rfl (fun other elsewhere => ?_) fun setting untriggered => ?_
      · cases other <;> first | rfl | exact absurd rfl elsewhere
      · cases setting <;> first | rfl | exact absurd (by decide) untriggered

theorem apply_marks (now : Int) (write : SetterWrite) (room : Room)
    (effective : write.isIgnored room = false) : write.property ∈ (write.apply now room).dirty := by
  cases write with
  | prevQueue value =>
      change SyncProp.prevQueue ∈ (room.assignPrevQueue value).dirty
      unfold Room.assignPrevQueue
      split
      · rename_i ignored
        rw [Bool.and_eq_true, Option.isNone_iff_eq_none] at ignored
        obtain ⟨rfl, none⟩ := ignored
        rw [isIgnored, decide_eq_true rfl, none] at effective
        cases effective
      · exact OrderedSet.mem_add.mpr (.inr rfl)
  | _ => exact OrderedSet.mem_add.mpr (.inr rfl)

end SetterWrite

/-- What `syncDirty` reads before it first waits: the room and the time. -/
structure Capture where
  room : Room
  now : Int

namespace Capture

/-- The message it publishes. The queue is sent as it is by then: the message holds the queue
itself and not its items. -/
def message (capture : Capture) (queue : List QueueItem) : (property : SyncProp) → property.Value
  | .queue => queue
  | property => capture.room.syncableState capture.now property

/-- The settings it hands to `updateRoom`. -/
def settings (capture : Capture) : PersistableState := capture.room.syncedSettings capture.now

end Capture

/-- What a checkpoint waits for: the debounced save, then the database. -/
inductive SyncPoint where
  | saving
  | persisting
deriving DecidableEq

/-- What `updateRoom` does: it returns true, or it returns false or throws, having written the row
or not. -/
inductive UpdateAnswer where
  | updated
  | failed (written : Bool)
deriving DecidableEq

/-- A room whose checkpoints wait. -/
structure SyncRun where
  room : Room
  /-- The calls of `sync` that wait for `syncLock`. -/
  waiting : Nat
  /-- The call that holds the lock, and what it has read. -/
  holder : Option (SyncPoint × Capture)
  /-- What was published last, a property at a time. -/
  published : (property : SyncProp) → property.Value
  row : DbRoom
  /-- History: how far the clock had run when the position was last published, and when the
  queue was last saved. -/
  publishedElapsed : ℚ
  savedElapsed : ℚ
  /-- History: what has been written since the last checkpoint that read anything. -/
  written : List SyncProp

/-- A setter runs, `sync` is called, or a call of `sync` goes on. -/
inductive SyncLabel where
  | write (now : Int) (write : SetterWrite)
  | sync
  | acquire (now : Int)
  | saved
  | answered (answer : UpdateAnswer)

namespace SyncRun

/-- `syncDirty` up to where it first waits: the room is read and its marks are cleared. -/
def take (run : SyncRun) : SyncRun :=
  { run with
    room := { run.room with
      dirty := []
      savePending := run.room.savePending || run.room.dirty.any Room.isStorable }
    written := [] }

/-- `syncDirty` from the publication on, to where it waits for the database or returns. -/
def publish (capture : Capture) (run : SyncRun) : SyncRun :=
  { run with
    room := run.room.publish (.sync capture.room.dirty)
    published := fun property =>
      if property ∈ capture.room.dirty then capture.message run.room.queue property
      else run.published property
    publishedElapsed :=
      if SyncProp.playbackPosition ∈ capture.room.dirty then capture.room.elapsed capture.now
      else run.publishedElapsed
    holder :=
      if !run.room.isTemporary && capture.room.dirty.any Room.isPersisted then
        some (.persisting, capture)
      else none }

/-- A call of `sync` gets the lock. -/
def acquire (now : Int) (run : SyncRun) : SyncRun :=
  let run := { run with waiting := run.waiting - 1 }
  if run.room.dirty.isEmpty then run
  else
    let capture : Capture := ⟨run.room, now⟩
    if run.room.dirty.any Room.isStorable then { run.take with holder := some (.saving, capture) }
    else run.take.publish capture

/-- The row is written with what a checkpoint read. -/
def updateRow (capture : Capture) (run : SyncRun) : SyncRun :=
  { run with
    row := roomToDbPartial capture.settings run.row
    savedElapsed :=
      if PersistentSetting.prevQueue.handedOver capture.room.dirty then
        capture.room.elapsed capture.now
      else run.savedElapsed }

/-- `syncDirty` after `updateRoom`: what could not be saved is marked again. -/
def finish (capture : Capture) (answer : UpdateAnswer) (run : SyncRun) : SyncRun :=
  match answer with
  | .updated => { run.updateRow capture with holder := none }
  | .failed written =>
      let run := if written then run.updateRow capture else run
      { run with
        room := { run.room with dirty := run.room.dirty.addAll capture.room.dirty }
        holder := none }

/-- The run after a step. -/
def next (label : SyncLabel) (run : SyncRun) : SyncRun :=
  match label, run.holder with
  | .write now write, _ =>
      { run with
        room := write.apply now run.room
        written := if write.isIgnored run.room then run.written else write.property :: run.written }
  | .sync, _ => { run with waiting := run.waiting + 1 }
  | .acquire now, _ => run.acquire now
  | .saved, some (_, capture) => run.publish capture
  | .answered answer, some (_, capture) => run.finish capture answer
  | _, none => run

/-- The lock is free for a waiting call, or the call that holds it waits for just this. -/
def Enabled (run : SyncRun) : SyncLabel → Prop
  | .write _ _ | .sync => True
  | .acquire _ => run.holder = none ∧ 0 < run.waiting
  | .saved => ∃ capture, run.holder = some (.saving, capture)
  | .answered _ => ∃ capture, run.holder = some (.persisting, capture)

end SyncRun

/-- A row says what a setter writes. The saved queue has the current item at where the clock had
run to; an owner that is null is not written. -/
structure DbRoom.Holds (row : DbRoom) (saved : Room.savedView.Replica) (elapsed : ℚ) : Prop where
  title : row.title = saved .title
  description : row.description = saved .description
  visibility : row.visibility = saved .visibility
  queueMode : row.queueMode = saved .queueMode
  autoSkipSegmentCategories : row.autoSkipSegmentCategories = saved .autoSkipSegmentCategories
  enableVoteSkip : row.enableVoteSkip = saved .enableVoteSkip
  bufferGateMode : row.bufferGateMode = saved .bufferGateMode
  danmakuSource : row.danmakuSource = saved .danmakuSource
  owner : ∀ user, saved .owner = some user → row.owner = some user
  prevQueue : row.prevQueue = saved .prevQueue elapsed

namespace SyncRun

/-- The settings of the room. -/
def live (room : Room) : Room.savedView.Replica := fun setting => Room.savedView.view setting room

/-- A client that was given the whole state, and a row that is behind only where the room is
dirty; no checkpoint is on its way. -/
structure Initial (run : SyncRun) : Prop where
  idle : run.holder = none
  unwritten : run.written = []
  given : ∃ now, run.published = run.room.syncableState now ∧
    run.publishedElapsed = run.room.elapsed now
  stored : run.room.isTemporary = false → ∃ saved, run.row.Holds saved run.savedElapsed ∧
    Room.savedView.Current saved run.room

end SyncRun

/-- Every interleaving of writes with checkpoints that wait for each other. -/
def syncRuns : TransitionSystem SyncRun SyncLabel where
  Initial := SyncRun.Initial
  Step before label after := before.Enabled label ∧ after = before.next label

namespace SyncRun

/-- What the clients will show once a call that waits for the save has published. -/
def clientsAhead (holder : Option (SyncPoint × Capture)) (anchored : Room.anchoredView.Replica) :
    Room.anchoredView.Replica :=
  match holder with
  | some (.saving, capture) =>
      Room.anchoredView.publish (· ∈ capture.room.dirty) capture.room anchored
  | _ => anchored

/-- What the row will say once the holder of the lock has written it. -/
def rowAhead (holder : Option (SyncPoint × Capture)) (saved : Room.savedView.Replica) :
    Room.savedView.Replica :=
  match holder with
  | some (_, capture) => Room.savedView.publish
      (fun setting => setting.handedOver capture.room.dirty = true) capture.room saved
  | none => saved

/-- What the clients will show and what the row will say once the holder of the lock is through
is right wherever the room is not dirty. -/
structure Accounted (run : SyncRun) : Prop where
  taken : ∀ point capture, run.holder = some (point, capture) →
    capture.room.isTemporary = run.room.isTemporary
  written : ∀ property ∈ run.written, property ∈ run.room.dirty
  told : ∃ anchored, run.published = Room.runOn run.publishedElapsed anchored ∧
    Room.anchoredView.Current (clientsAhead run.holder anchored) run.room
  stored : run.room.isTemporary = false → ∃ saved, run.row.Holds saved run.savedElapsed ∧
    Room.savedView.Current (rowAhead run.holder saved) run.room

variable {run : SyncRun}

/-- Nothing is written yet, and nothing is on its way. -/
theorem Initial.accounted (initial : run.Initial) : run.Accounted := by
  obtain ⟨now, given, elapsed⟩ := initial.given
  refine ⟨?_, ?_, ⟨run.room.anchoredState, ?_, ?_⟩, ?_⟩
  · intro point capture held
    rw [initial.idle] at held
    cases held
  · rw [initial.unwritten]
    nofun
  · rw [given, elapsed]
    exact funext fun property => run.room.syncableState_runOn now property
  · rw [initial.idle]
    exact .all _
  · rw [initial.idle]
    exact initial.stored

theorem apply_isTemporary (now : Int) (write : SetterWrite) (room : Room) :
    (write.apply now room).isTemporary = room.isTemporary := by
  cases write with
  | prevQueue value =>
      change (room.assignPrevQueue value).isTemporary = _
      unfold Room.assignPrevQueue
      split <;> rfl
  | _ => rfl

/-- A setter marks what it writes. -/
theorem Accounted.write (accounted : run.Accounted) (now : Int) (write : SetterWrite) :
    (run.next (.write now write)).Accounted := by
  have tracked := write.apply_written now run.room
  have temporary := apply_isTemporary now write run.room
  refine ⟨?_, ?_, ?_, ?_⟩
  · intro point capture held
    exact (accounted.taken point capture held).trans temporary.symm
  · intro property member
    change property ∈ if write.isIgnored run.room then run.written
      else write.property :: run.written at member
    cases effective : write.isIgnored run.room with
    | true =>
        rw [if_pos effective] at member
        exact tracked.anchored.grows property (accounted.written property member)
    | false =>
        rw [effective, if_neg Bool.false_ne_true] at member
        rcases List.mem_cons.mp member with rfl | member
        · exact write.apply_marks now run.room effective
        · exact tracked.anchored.grows property (accounted.written property member)
  · obtain ⟨anchored, told, current⟩ := accounted.told
    exact ⟨anchored, told, current.step tracked.anchored⟩
  · intro permanent
    obtain ⟨saved, holds, current⟩ := accounted.stored (temporary.symm.trans permanent)
    exact ⟨saved, holds, current.step tracked.saved⟩

/-- The marks of what has been captured may go. -/
theorem Accounted.take (accounted : run.Accounted) (idle : run.holder = none) (now : Int) :
    ({ run.take with holder := some (.saving, ⟨run.room, now⟩) } : SyncRun).Accounted := by
  refine ⟨?_, nofun, ?_, ?_⟩
  · rintro point capture ⟨⟩
    rfl
  · obtain ⟨anchored, told, current⟩ := accounted.told
    rw [idle] at current
    refine ⟨anchored, told, current.capture (· ∈ run.room.dirty) (fun _ held => held) fun property => ?_⟩
    cases property <;> rfl
  · intro permanent
    obtain ⟨saved, holds, current⟩ := accounted.stored permanent
    rw [idle] at current
    refine ⟨saved, holds, current.capture
      (fun setting => setting.handedOver run.room.dirty = true) (fun _ held => held) fun setting => ?_⟩
    cases setting <;> rfl

theorem runOn_congr {elapsed later : ℚ} {values others : (property : SyncProp) → property.Value}
    {property : SyncProp} (same : values property = others property)
    (ran : property = .playbackPosition → elapsed = later) :
    Room.runOn elapsed values property = Room.runOn later others property := by
  cases property with
  | playbackPosition =>
      cases ran rfl
      exact congrArg (Number.addRat · elapsed) same
  | _ => exact same

/-- What a message says is what was captured, but for the queue, which it says as it is. -/
theorem message_runOn (capture : Capture) (queue : List QueueItem) (elapsed : ℚ)
    (property : SyncProp)
    (ran : property = .playbackPosition → elapsed = capture.room.elapsed capture.now) :
    capture.message queue property =
      Room.runOn elapsed ({ capture.room with queue } : Room).anchoredState property := by
  cases property with
  | playbackPosition =>
      rw [ran rfl]
      exact capture.room.realPlaybackPosition_elapsed capture.now
  | _ => rfl

/-- A publication brings the clients to where they were heading. -/
theorem Accounted.publish {capture : Capture} (accounted : run.Accounted)
    (held : run.holder = some (.saving, capture)) : (run.publish capture).Accounted := by
  have same : ∀ property, Room.anchoredView.view property (run.publish capture).room =
      Room.anchoredView.view property run.room := fun property => by cases property <;> rfl
  have through : ∀ anchored, clientsAhead (run.publish capture).holder anchored = anchored := by
    intro anchored
    change clientsAhead (if (!run.room.isTemporary && capture.room.dirty.any Room.isPersisted) = true
      then some (SyncPoint.persisting, capture) else none) anchored = anchored
    split <;> rfl
  refine ⟨?_, accounted.written, ?_, fun permanent => ?_⟩
  · intro point other holds
    change (if _ then some (SyncPoint.persisting, capture) else none) = some (point, other) at holds
    split at holds
    · cases holds
      exact accounted.taken .saving capture held
    · cases holds
  · obtain ⟨anchored, told, current⟩ := accounted.told
    rw [held] at current
    refine ⟨Room.anchoredView.publish (· ∈ capture.room.dirty)
      { capture.room with queue := run.room.queue } anchored, funext fun property => ?_, ?_⟩
    · change (if property ∈ capture.room.dirty then capture.message run.room.queue property
        else run.published property) = _
      by_cases sent : property ∈ capture.room.dirty
      · rw [if_pos sent, message_runOn capture run.room.queue (run.publish capture).publishedElapsed
          property fun position => if_pos (position ▸ sent)]
        exact runOn_congr (if_pos sent).symm fun _ => rfl
      · rw [if_neg sent, told]
        exact runOn_congr (if_neg sent).symm fun position => (if_neg (position ▸ sent)).symm
    · rw [through]
      intro property
      rw [same]
      by_cases queue : property = .queue ∧ property ∈ capture.room.dirty
      · obtain ⟨rfl, sent⟩ := queue
        exact .inl (if_pos sent)
      · refine (current property).imp_left fun right => Eq.trans ?_ right
        by_cases sent : property ∈ capture.room.dirty
        · have other : property ≠ .queue := fun same => queue ⟨same, sent⟩
          refine (if_pos sent).trans (Eq.trans ?_ (if_pos sent).symm)
          cases property <;> first | rfl | exact absurd rfl other
        · exact (if_neg sent).trans (if_neg sent).symm
  · obtain ⟨saved, holds, current⟩ := accounted.stored permanent
    refine ⟨saved, holds, ?_⟩
    rw [held] at current
    have unmarked : Room.savedView.Current (rowAhead (some (.saving, capture)) saved)
        (run.room.publish (.sync capture.room.dirty)) := by
      refine current.step (.of_same (fun setting => ?_) fun _ => id)
      cases setting <;> rfl
    change Room.savedView.Current (rowAhead (if (!run.room.isTemporary &&
      capture.room.dirty.any Room.isPersisted) = true then some (SyncPoint.persisting, capture)
        else none) saved) _
    split
    · exact unmarked
    · rename_i finished
      have permanent : run.room.isTemporary = false := permanent
      rw [permanent, Bool.not_false, Bool.true_and, ← Room.handedOver_iff, not_exists] at finished
      intro setting
      refine (unmarked setting).imp_left fun right => Eq.trans ?_ right
      exact (if_neg (finished setting)).symm

/-- A row that is written says what the room was when it was read. -/
theorem updateRow_holds (capture : Capture) {saved : Room.savedView.Replica}
    (holds : run.row.Holds saved run.savedElapsed) :
    (run.updateRow capture).row.Holds (Room.savedView.publish
      (fun setting => setting.handedOver capture.room.dirty = true) capture.room saved)
      (run.updateRow capture).savedElapsed := by
  have column : ∀ {Value : Type} (handed : Bool) (value : Value) {old saved : Value}, old = saved →
      (if handed then some value else none).getD old = if handed = true then value else saved := by
    intro Value handed value old saved same
    cases handed with
    | true => rfl
    | false => exact same
  refine ⟨column _ _ holds.title, column _ _ holds.description, column _ _ holds.visibility,
    column _ _ holds.queueMode, column _ _ holds.autoSkipSegmentCategories,
    column _ _ holds.enableVoteSkip, column _ _ holds.bufferGateMode, column _ _ holds.danmakuSource,
    ?_, ?_⟩
  · intro user
    change (if PersistentSetting.handedOver capture.room.dirty .owner = true then capture.room.owner
      else saved .owner) = some user → Option.or ((if PersistentSetting.handedOver
        capture.room.dirty .owner then some capture.room.owner else none).getD none) run.row.owner =
          some user
    cases PersistentSetting.handedOver capture.room.dirty .owner with
    | true =>
        intro owned
        have owned : capture.room.owner = some user := owned
        rw [owned]
        rfl
    | false => exact holds.owner user
  · change (if PersistentSetting.handedOver capture.room.dirty .prevQueue then
        some (capture.room.queueSnapshot capture.now) else none).getD run.row.prevQueue =
      (if PersistentSetting.handedOver capture.room.dirty .prevQueue = true then
        Room.savedView.view .prevQueue capture.room else saved .prevQueue)
        (if PersistentSetting.handedOver capture.room.dirty .prevQueue = true then
          capture.room.elapsed capture.now else run.savedElapsed)
    split
    · exact capture.room.queueSnapshot_at capture.now
    · exact holds.prevQueue

/-- Marks may be added. -/
theorem Accounted.remark (accounted : run.Accounted) (idle : run.holder = none)
    (more : List SyncProp) : ({ run with
      room := { run.room with dirty := run.room.dirty.addAll more } } : SyncRun).Accounted := by
  have grows : ∀ property ∈ run.room.dirty, property ∈ run.room.dirty.addAll more :=
    fun property marked => OrderedSet.mem_addAll.mpr (.inl marked)
  obtain ⟨anchored, told, current⟩ := accounted.told
  refine ⟨?_, fun property member => grows property (accounted.written property member),
    ⟨anchored, told, current.step (.of_same (fun property => ?_) grows)⟩, fun permanent => ?_⟩
  · intro point capture held
    rw [idle] at held
    cases held
  · cases property <;> rfl
  · obtain ⟨saved, holds, current⟩ := accounted.stored permanent
    refine ⟨saved, holds, current.step (.of_same (fun setting => ?_) fun _ =>
      PersistentSetting.handedOver_mono grows)⟩
    cases setting <;> rfl

/-- A checkpoint that is through has brought the row to where it was heading. -/
theorem Accounted.updated {capture : Capture} (accounted : run.Accounted)
    (held : run.holder = some (.persisting, capture)) :
    ({ run.updateRow capture with holder := none } : SyncRun).Accounted := by
  obtain ⟨anchored, told, current⟩ := accounted.told
  rw [held] at current
  refine ⟨?_, accounted.written, ⟨anchored, told, current⟩, fun permanent => ?_⟩
  · rintro _ _ ⟨⟩
  · obtain ⟨saved, holds, current⟩ := accounted.stored permanent
    rw [held] at current
    exact ⟨_, updateRow_holds capture holds, current⟩

/-- A checkpoint that has failed marks again what it had taken. -/
theorem Accounted.failed {capture : Capture} (accounted : run.Accounted)
    (held : run.holder = some (.persisting, capture)) : ({ run with
      room := { run.room with dirty := run.room.dirty.addAll capture.room.dirty }
      holder := none } : SyncRun).Accounted := by
  have grows : ∀ property ∈ run.room.dirty, property ∈ run.room.dirty.addAll capture.room.dirty :=
    fun property marked => OrderedSet.mem_addAll.mpr (.inl marked)
  obtain ⟨anchored, told, current⟩ := accounted.told
  rw [held] at current
  refine ⟨?_, fun property member => grows property (accounted.written property member),
    ⟨anchored, told, current.step (.of_same (fun property => ?_) grows)⟩, fun permanent => ?_⟩
  · rintro _ _ ⟨⟩
  · cases property <;> rfl
  · obtain ⟨saved, holds, current⟩ := accounted.stored permanent
    rw [held] at current
    refine ⟨saved, holds, current.restore (.of_same (fun setting => ?_) fun _ =>
      PersistentSetting.handedOver_mono grows) fun setting handed => ?_⟩
    · cases setting <;> rfl
    · exact PersistentSetting.handedOver_mono
        (fun property taken => OrderedSet.mem_addAll.mpr (.inr taken)) handed

theorem Accounted.finish {capture : Capture} (accounted : run.Accounted)
    (held : run.holder = some (.persisting, capture)) (answer : UpdateAnswer) :
    (run.finish capture answer).Accounted := by
  cases answer with
  | updated => exact accounted.updated held
  | failed written =>
      cases written with
      | true => exact (accounted.updated held).remark rfl capture.room.dirty
      | false => exact accounted.failed held

/-- Every step accounts for what it takes. -/
theorem accounted_inductive : TransitionSystem.Inductive syncRuns Accounted := by
  refine ⟨fun _ => Initial.accounted, ?_⟩
  rintro run label _ accounted ⟨enabled, rfl⟩
  cases label with
  | write now write => exact accounted.write now write
  | sync => exact ⟨accounted.taken, accounted.written, accounted.told, accounted.stored⟩
  | acquire now =>
      have waiting : ({ run with waiting := run.waiting - 1 } : SyncRun).Accounted :=
        ⟨accounted.taken, accounted.written, accounted.told, accounted.stored⟩
      have taken := waiting.take enabled.1 now
      change (run.acquire now).Accounted
      unfold SyncRun.acquire
      dsimp only
      split
      · exact waiting
      · split
        · exact taken
        · exact taken.publish rfl
  | saved =>
      obtain ⟨capture, held⟩ := enabled
      have next : run.next .saved = run.publish capture := by
        unfold SyncRun.next
        rw [held]
      rw [next]
      exact accounted.publish held
  | answered answer =>
      obtain ⟨capture, held⟩ := enabled
      have next : run.next (.answered answer) = run.finish capture answer := by
        unfold SyncRun.next
        rw [held]
      rw [next]
      exact accounted.finish held answer

/-- The database answers at once. -/
def answered (succeeds : Bool) (run : SyncRun) : SyncRun :=
  match run.holder with
  | some (.persisting, capture) =>
      run.finish capture (if succeeds then .updated else .failed false)
  | _ => run

/-- The holder of the lock goes on to its end without interruption. -/
def settle (succeeds : Bool) (run : SyncRun) : SyncRun :=
  match run.holder with
  | some (.saving, capture) => (run.publish capture).answered succeeds
  | _ => run.answered succeeds

theorem answered_publish (env : Env) (run : SyncRun) (dirty : run.room.dirty ≠ []) :
    ((run.take.publish ⟨run.room, env.now⟩).answered env.updateRoomSucceeds).room =
      (Room.sync env).after run.room := by
  have holder : (run.take.publish ⟨run.room, env.now⟩).holder =
      if !run.room.isTemporary && run.room.dirty.any Room.isPersisted then
        some (SyncPoint.persisting, ⟨run.room, env.now⟩)
      else none := rfl
  unfold answered Room.sync
  rw [after_get_bind, if_neg (mt List.isEmpty_iff.mp dirty), after_modify_bind]
  by_cases persists : (!run.room.isTemporary && run.room.dirty.any Room.isPersisted) = true
  · rw [if_pos persists] at holder
    rw [holder, persists, Bool.true_and]
    cases env.updateRoomSucceeds <;> rfl
  · rw [if_neg persists] at holder
    rw [holder, Bool.eq_false_iff.mpr persists, Bool.false_and]
    rfl

/-- A checkpoint that nothing interrupts does to the room what `sync` does. -/
theorem settle_acquire (env : Env) (run : SyncRun) (idle : run.holder = none) :
    ((run.acquire env.now).settle env.updateRoomSucceeds).room = (Room.sync env).after run.room := by
  by_cases clean : run.room.dirty = []
  · have acquired : run.acquire env.now = { run with waiting := run.waiting - 1 } :=
      if_pos (List.isEmpty_iff.mpr clean)
    rw [acquired]
    unfold settle answered Room.sync
    dsimp only
    rw [idle, after_get_bind, if_pos (List.isEmpty_iff.mpr clean)]
    rfl
  · let called : SyncRun := { run with waiting := run.waiting - 1 }
    rw [← answered_publish env called clean]
    by_cases storable : run.room.dirty.any Room.isStorable = true
    · have acquired : run.acquire env.now =
          { called.take with holder := some (.saving, ⟨run.room, env.now⟩) } :=
        (if_neg (mt List.isEmpty_iff.mp clean)).trans (if_pos storable)
      rw [acquired]
      rfl
    · have acquired : run.acquire env.now = called.take.publish ⟨run.room, env.now⟩ :=
        (if_neg (mt List.isEmpty_iff.mp clean)).trans (if_neg storable)
      rw [acquired]
      unfold settle
      split
      · rename_i held
        change (if !run.room.isTemporary && run.room.dirty.any Room.isPersisted then
          some (SyncPoint.persisting, (⟨run.room, env.now⟩ : Capture)) else none) = _ at held
        split at held <;> cases held
      · rfl

/-- Whatever the order of writes and checkpoints: what a checkpoint had taken, or is dirty when it
fails, is dirty after it, and so is what was written since it read the room; and with nothing
dirty and no checkpoint on its way, the clients show the room and the row holds its settings, both
but for how far the clock has run since. -/
theorem sync_keeps_updates {before after : SyncRun} {label : SyncLabel}
    (reachable : syncRuns.Reachable before) (step : syncRuns.Step before label after) :
    (∀ capture written, label = .answered (.failed written) →
        before.holder = some (.persisting, capture) →
        ∀ property, property ∈ capture.room.dirty ∨ property ∈ before.room.dirty →
          property ∈ after.room.dirty) ∧
      (∀ property ∈ after.written, property ∈ after.room.dirty) ∧
      (after.holder = none → after.room.dirty = [] →
        after.published = Room.runOn after.publishedElapsed after.room.anchoredState ∧
          (after.room.isTemporary = false →
            after.row.Holds (live after.room) after.savedElapsed)) := by
  have accounted : after.Accounted := accounted_inductive.preserved
    (accounted_inductive.of_reachable reachable) step
  refine ⟨?_, accounted.written, fun idle clean => ⟨?_, fun permanent => ?_⟩⟩
  · rintro capture written rfl held property member
    obtain ⟨_, rfl⟩ := step
    have room : (before.next (.answered (.failed written))).room.dirty =
        before.room.dirty.addAll capture.room.dirty := by
      unfold SyncRun.next
      rw [held]
      cases written <;> rfl
    rw [room]
    exact OrderedSet.mem_addAll.mpr member.symm
  · obtain ⟨anchored, told, current⟩ := accounted.told
    rw [idle] at current
    rw [told]
    refine congrArg (Room.runOn _) (funext fun property => current.right ?_)
    change property ∉ after.room.dirty
    rw [clean]
    exact List.not_mem_nil
  · obtain ⟨saved, holds, current⟩ := accounted.stored permanent
    rw [idle] at current
    have same : saved = live after.room := by
      refine funext fun setting => current.right ?_
      change ¬ setting.handedOver after.room.dirty = true
      rw [clean]
      simp [PersistentSetting.handedOver]
    rw [← same]
    exact holds

theorem held_iff (point : SyncPoint) :
    run.holder.map Prod.fst = some point ↔ ∃ capture, run.holder = some (point, capture) := by
  rw [Option.map_eq_some_iff]
  constructor
  · rintro ⟨⟨_, capture⟩, held, rfl⟩
    exact ⟨capture, held⟩
  · rintro ⟨capture, held⟩
    exact ⟨(point, capture), held, rfl⟩

instance (run : SyncRun) : (label : SyncLabel) → Decidable (run.Enabled label)
  | .write _ _ | .sync => .isTrue trivial
  | .acquire _ => inferInstanceAs (Decidable (run.holder = none ∧ 0 < run.waiting))
  | .saved => decidable_of_iff _ (run.held_iff .saving)
  | .answered _ => decidable_of_iff _ (run.held_iff .persisting)

end SyncRun

namespace Sample

/-- A new permanent room, its row and a client that has just joined. -/
def newSyncRun : SyncRun where
  room := Room.new {} 0
  waiting := 0
  holder := none
  published := (Room.new {} 0).syncableState 0
  row := roomToDb (Room.new {} 0)
  publishedElapsed := 0
  savedElapsed := 0
  written := []

theorem newSyncRun_initial : syncRuns.Initial newSyncRun := by
  refine ⟨rfl, rfl, ⟨0, rfl, by decide +kernel⟩, fun _ => ⟨SyncRun.live (Room.new {} 0), ?_, .all _⟩⟩
  exact ⟨rfl, rfl, rfl, rfl, rfl, rfl, rfl, rfl, fun _ => id, rfl⟩

/-- A video to queue. -/
def queued (id : String) : QueueItem := { service := .youtube, id }

/-- A video is queued, and the checkpoint waits for the database; another is queued meanwhile. -/
def queueAndPersist : List SyncLabel :=
  [.write 1 (.queue [queued "a"]), .sync, .acquire 2, .saved,
    .write 3 (.queue [queued "a", queued "b"])]

theorem reaches (labels : List SyncLabel)
    (enabled : TransitionSystem.runs SyncRun.next SyncRun.Enabled labels newSyncRun = true) :
    syncRuns.Reachable (TransitionSystem.run SyncRun.next labels newSyncRun) := by
  have step : ∀ run label, run.Enabled label → syncRuns.Step run label (run.next label) :=
    fun _ _ possible => ⟨possible, rfl⟩
  exact ⟨newSyncRun, newSyncRun_initial, TransitionSystem.steps_run step labels newSyncRun enabled⟩

end Sample

namespace SyncRun

/-- The database write fails while the queue has changed again: the queue stays dirty. -/
theorem sync_keeps_updates_queue :
    SyncProp.queue ∈ ((TransitionSystem.run next Sample.queueAndPersist Sample.newSyncRun).next
      (.answered (.failed false))).room.dirty := by
  have persisting : ((TransitionSystem.run next Sample.queueAndPersist
      Sample.newSyncRun).holder.map Prod.fst) = some .persisting := by decide +kernel
  obtain ⟨capture, held⟩ := (held_iff .persisting).mp persisting
  have fails : syncRuns.Step _ (.answered (.failed false)) _ := ⟨⟨capture, held⟩, rfl⟩
  exact (sync_keeps_updates (Sample.reaches Sample.queueAndPersist (by decide +kernel)) fails).1
    capture false rfl held .queue (.inr (by decide +kernel))

/-- A queued video is saved where a saved queue is: nothing is dirty, and the room has none. -/
theorem sync_keeps_updates_snapshot : ¬ ∀ before label after, syncRuns.Reachable before →
    syncRuns.Step before label after → after.holder = none → after.room.dirty = [] →
    after.room.isTemporary = false → after.row.prevQueue = after.room.prevQueue := by
  intro claimed
  have persisting : ((TransitionSystem.run next (Sample.queueAndPersist.take 4)
      Sample.newSyncRun).holder.map Prod.fst) = some .persisting := by decide +kernel
  have same := claimed _ (.answered .updated) _
    (Sample.reaches (Sample.queueAndPersist.take 4) (by decide +kernel))
    ⟨(held_iff .persisting).mp persisting, rfl⟩ (by decide +kernel) (by decide +kernel)
    (by decide +kernel)
  exact absurd same (by decide +kernel)

end SyncRun

end OpenTogetherTube
