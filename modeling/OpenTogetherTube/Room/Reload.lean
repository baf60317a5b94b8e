import OpenTogetherTube.Room.Enforcement
import OpenTogetherTube.Room.Revision

/-!
# Rooms that are loaded again

A temporary room is rebuilt from the snapshot it saved in Redis. That brings everything back, with
the clock running on, as far as JSON can write its numbers: `null` stands for those that are not
finite.
-/

namespace OpenTogetherTube

open Lib

/-- The numbers of an item are finite. -/
def QueueItem.isFinite (item : QueueItem) : Bool :=
  item.length.all Number.isFinite && item.startAt.all Number.isFinite &&
    item.endAt.all Number.isFinite

/-- An item as JSON brings it back. It is read alike without a number and with `null` for it. -/
def QueueItem.throughJson (item : QueueItem) : QueueItem :=
  { item with
    length := item.length.filter Number.isFinite
    startAt := item.startAt.filter Number.isFinite
    endAt := item.endAt.filter Number.isFinite }

namespace StoredState

/-- The numbers that are read back are finite. -/
def isFinite (state : StoredState) : Bool :=
  state.playbackPosition.isFinite && state.currentSource.all QueueItem.isFinite &&
    state.queue.all QueueItem.isFinite && state.prevQueue.all (List.all · QueueItem.isFinite)

/-- `JSON.parse` of what `JSON.stringify` writes, in which a number that is not finite is `null`. A
position that is `null` counts as zero. -/
def throughJson (state : StoredState) : StoredState :=
  { state with
    playbackPosition := if state.playbackPosition.isFinite then state.playbackPosition else 0
    currentSource := state.currentSource.map QueueItem.throughJson
    queue := state.queue.map QueueItem.throughJson
    prevQueue := state.prevQueue.map (List.map QueueItem.throughJson) }

theorem throughJson_of_isFinite {state : StoredState} (finite : state.isFinite = true) :
    state.throughJson = state := by
  have number : ∀ given : Option Number, given.all Number.isFinite = true →
      given.filter Number.isFinite = given := by
    intro given kept
    cases given with
    | none => rfl
    | some value => exact if_pos kept
  have item : ∀ item : QueueItem, item.isFinite = true → item.throughJson = item := by
    intro item kept
    unfold QueueItem.isFinite at kept
    rw [Bool.and_eq_true, Bool.and_eq_true] at kept
    unfold QueueItem.throughJson
    rw [number _ kept.1.1, number _ kept.1.2, number _ kept.2]
  have items : ∀ items : List QueueItem, items.all QueueItem.isFinite = true →
      items.map QueueItem.throughJson = items := fun items kept =>
    (List.map_congr_left fun one member => item one (List.all_eq_true.mp kept one member)).trans
      (List.map_id items)
  have option : ∀ {Value : Type} {good : Value → Bool} {through : Value → Value},
      (∀ value, good value = true → through value = value) → ∀ given : Option Value,
        given.all good = true → given.map through = given := by
    intro Value good through same given kept
    cases given with
    | none => rfl
    | some value => exact congrArg some (same value kept)
  unfold isFinite at finite
  rw [Bool.and_eq_true, Bool.and_eq_true, Bool.and_eq_true] at finite
  obtain ⟨⟨⟨position, source⟩, queue⟩, saved⟩ := finite
  unfold throughJson
  rw [if_pos position, option item _ source, items _ queue, option items _ saved]

end StoredState

namespace Room

/-- A room with something to play, or nothing saved, keeps its saved queue as it is. -/
theorem reloadPrevQueue_of_occupied {room : Room}
    (occupied : room.currentSource ≠ none ∨ room.queue ≠ [] ∨ room.prevQueue = none) :
    room.reloadPrevQueue = room := by
  unfold reloadPrevQueue
  cases saved : room.prevQueue with
  | none => rfl
  | some items =>
      dsimp only
      rw [if_neg]
      simp only [Bool.and_eq_true, Option.isNone_iff_eq_none, List.isEmpty_iff, not_and]
      intro idle
      simp [idle, saved] at occupied

/-- What the constructor does once the options are assigned. -/
theorem new_of_assigned {options : RoomOptions} {now : Int} (holds : Room → Prop)
    (rest : ∀ room : Room, room = { (({ keepAlivePing := now } : Room).assignOwner
        none).assignOptions options now with resumeOnNextJoin := options.resumeOnNextJoin } →
      holds (
        let room := if room.restoreQueueBehavior = .never then room.assignPrevQueue none else room
        let room := room.reloadPrevQueue.assignGrants options
        let room := { room with userRoles := options.userRoles.getD room.userRoles }
        { room with playbackStart := options.playbackStart.or room.playbackStart })) :
    holds (Room.new options now) :=
  rest _ rfl

/-- What a temporary room saved is what the room that is loaded from it would save, at any later
time: only the grants may be listed in another order, and the segments are fetched again. -/
theorem serializeState_new (stored : StoredState) (temporary : stored.isTemporary = true)
    (remembers : stored.restoreQueueBehavior ≠ .never)
    (occupied : stored.currentSource ≠ none ∨ stored.queue ≠ [] ∨ stored.prevQueue = none)
    (current : ROOM_PERMISSIONS_REVISION ≤ stored.permissionsRevision) (now later : Int) :
    (Room.new (redisStateToState stored) now).temporarySpeed = none ∧
      (Room.new (redisStateToState stored) now).bufferGate = none ∧
      (Room.new (redisStateToState stored) now).serializeState later =
        { stored with grants := .ofMasks stored.grants.masks, videoSegments := [] } := by
  cases stored
  rename_i isPlaying _ _ _ _ _ owner playbackStart _ _ prevQueue _ _ _ _ _
  dsimp only at temporary remembers occupied current ⊢
  subst temporary
  refine new_of_assigned (fun room =>
    room.temporarySpeed = none ∧ room.bufferGate = none ∧ room.serializeState later = _)
      fun room same => ?_
  have assigned : room.restoreQueueBehavior ≠ .never ∧
      (room.currentSource ≠ none ∨ room.queue ≠ [] ∨ room.prevQueue = none) := by
    subst same
    cases prevQueue <;> cases isPlaying <;> exact ⟨remembers, occupied⟩
  dsimp only
  rw [if_neg assigned.1, reloadPrevQueue_of_occupied assigned.2]
  unfold assignGrants
  simp only [redisStateToState, Option.getD_some, if_neg (Nat.not_lt_of_le current), Bool.true_and]
  subst same
  cases prevQueue <;> cases isPlaying <;> cases owner <;> cases playbackStart <;> exact ⟨rfl, rfl, rfl⟩

/-- The clock of the loaded room reads what the old one reads once a temporary speed has ended. -/
theorem realPlaybackPosition_new {room : Room} (temporary : room.isTemporary = true)
    (remembers : room.restoreQueueBehavior ≠ .never)
    (occupied : room.currentSource ≠ none ∨ room.queue ≠ [] ∨ room.prevQueue = none)
    (current : ROOM_PERMISSIONS_REVISION ≤ room.permissionsRevision) (saved now time : Int) :
    (Room.new (redisStateToState (room.serializeState saved)) now).realPlaybackPosition time =
      (room.toRoomClock.restoreSpeed saved).realPlaybackPosition time := by
  obtain ⟨plain, _, written⟩ := serializeState_new (room.serializeState saved) temporary remembers
    occupied current now saved
  have clock : ∀ after : Room, after.temporarySpeed = none → after.toRoomClock =
      ⟨(after.serializeState saved).isPlaying, (after.serializeState saved).playbackPosition,
        (after.serializeState saved).playbackSpeed, (after.serializeState saved).playbackStart,
        none⟩ := by
    intro after plain
    have whole : after.toRoomClock = ⟨after.isPlaying, after.playbackPosition, after.playbackSpeed,
      after.playbackStart, after.temporarySpeed⟩ := rfl
    rw [whole]
    simp [serializeState, plain]
  rw [clock _ plain, written]
  unfold serializeState RoomClock.restoreSpeed
  cases room.temporarySpeed with
  | none => rfl
  | some previous =>
      unfold RoomClock.flush RoomClock.realPlaybackPosition
      cases room.isPlaying <;> simp

end Room

/-- What a room that is loaded from a snapshot has of the room that saved it at a time. The clock of
that room is taken as if a temporary speed had ended then. -/
structure Room.RestoredFrom (saved : Int) (room again : Room) : Prop where
  name : again.name = room.name
  title : again.title = room.title
  description : again.description = room.description
  visibility : again.visibility = room.visibility
  queueMode : again.queueMode = room.queueMode
  autoSkipSegmentCategories : again.autoSkipSegmentCategories = room.autoSkipSegmentCategories
  restoreQueueBehavior : again.restoreQueueBehavior = room.restoreQueueBehavior
  enableVoteSkip : again.enableVoteSkip = room.enableVoteSkip
  bufferGateMode : again.bufferGateMode = room.bufferGateMode
  danmakuSource : again.danmakuSource = room.danmakuSource
  currentSource : again.currentSource = room.currentSource
  queue : again.queue = room.queue
  isPlaying : again.isPlaying = room.isPlaying
  grants : ∀ role, again.grants.getMask role = room.grants.getMask role
  userRoles : again.userRoles = room.userRoles
  owner : again.owner.map User.id = room.owner.map User.id
  prevQueue : again.prevQueue = room.prevQueue
  permissionsRevision : again.permissionsRevision = room.permissionsRevision
  realPlaybackPosition : ∀ time, again.realPlaybackPosition time =
    (room.toRoomClock.restoreSpeed saved).realPlaybackPosition time
  resumeOnNextJoin : again.resumeOnNextJoin = (room.bufferingGateHeld || room.resumeOnNextJoin)

namespace RoomState

/-- A temporary room that is unloaded and loaded from Redis is the room it was, in every run that
begins with a room of the constructor, if its numbers are finite. -/
theorem temporary_room_restored {options : RoomOptions} {start : Int}
    (given : ∀ grants, options.grants = some grants → ∃ input, grants = .new input)
    {first after : RoomState} (held : first.room = Room.new options start ∨
      first.room = (Room.new options start).restoreFromStorage)
    (steps : (roomSystem.restrict fun _ label => ∀ grants,
      label.action = .setGrants grants → ∃ input, grants = .new input).Steps first after)
    (temporary : after.room.isTemporary = true)
    (remembers : after.room.restoreQueueBehavior ≠ .never)
    (occupied : after.room.currentSource ≠ none ∨ after.room.queue ≠ [] ∨ after.room.prevQueue = none)
    (saved now : Int) (finite : (after.room.serializeState saved).isFinite = true) :
    Room.RestoredFrom saved after.room
      (Room.new (redisStateToState (after.room.serializeState saved).throughJson) now) := by
  have settled := grants_settled given (by rcases held with new | restored <;> simp only [*] <;> rfl)
    steps
  have current : ROOM_PERMISSIONS_REVISION ≤ after.room.permissionsRevision := by
    refine TransitionSystem.Steps.relates
      (fun state => ROOM_PERMISSIONS_REVISION ≤ state.room.permissionsRevision) ?_ ?_ steps
    · rcases held with new | restored
      · rw [new]
        exact Room.new_revision options start
      · rw [restored]
        exact Room.new_revision options start
    · intro state label next _ kept step
      obtain ⟨_, _, _, rfl⟩ := step
      exact kept.trans_eq (RoomAction.apply_revision label.env state.room label.action).1.symm
  rw [StoredState.throughJson_of_isFinite finite]
  have position := Room.realPlaybackPosition_new temporary remembers occupied current saved now
  obtain ⟨_, free, written⟩ := Room.serializeState_new (after.room.serializeState saved) temporary
    remembers occupied current now saved
  generalize Room.new (redisStateToState (after.room.serializeState saved)) now = again at *
  have read := fun {Value : Type} (field : StoredState → Value) => congrArg field written
  exact {
    name := read (·.name)
    title := read (·.title)
    description := read (·.description)
    visibility := read (·.visibility)
    queueMode := read (·.queueMode)
    autoSkipSegmentCategories := read (·.autoSkipSegmentCategories)
    restoreQueueBehavior := read (·.restoreQueueBehavior)
    enableVoteSkip := read (·.enableVoteSkip)
    bufferGateMode := read (·.bufferGateMode)
    danmakuSource := read (·.danmakuSource)
    currentSource := read (·.currentSource)
    queue := read (·.queue)
    isPlaying := read (·.isPlaying)
    grants := fun role => by
      have masks : again.grants = .ofMasks after.room.grants.masks := read (·.grants)
      rw [masks]
      exact settled.getMask_ofMasks settled.distinct (fun _ _ => rfl) role
    userRoles := read (·.userRoles)
    owner := read (·.owner)
    prevQueue := read (·.prevQueue)
    permissionsRevision := read (·.permissionsRevision)
    realPlaybackPosition := position
    resumeOnNextJoin := by
      have kept := read (·.resumeOnNextJoin)
      change (again.bufferGate.any BufferGate.pausedByGate || again.resumeOnNextJoin) = _ at kept
      rw [free] at kept
      exact kept }

/-- The room of a viewer who has queued a video. -/
theorem temporary_room_restored_queued : Room.RestoredFrom 3 (Sample.withVideo 100).room
    (Room.new (redisStateToState ((Sample.withVideo 100).room.serializeState 3).throughJson) 4) :=
  temporary_room_restored (by rintro _ ⟨⟩) (.inl rfl) (Sample.withVideo_steps 100) (by decide +kernel)
    (by decide +kernel) (by decide +kernel) 3 4 (by decide +kernel)

/-- A length that is read by `parseInt` from a text without digits is not a number, and comes back as
`null`. -/
theorem unknown_length_lost : ¬ ∀ state, roomSystem.Reachable state →
    state.room.isTemporary = true → state.room.restoreQueueBehavior ≠ .never →
    (state.room.currentSource ≠ none ∨ state.room.queue ≠ [] ∨ state.room.prevQueue = none) →
    ∀ saved now, Room.RestoredFrom saved state.room
      (Room.new (redisStateToState (state.room.serializeState saved).throughJson) now) := by
  intro restored
  have kept := (restored (Sample.withVideo .nan) (Sample.withVideo_reachable .nan) (by decide +kernel)
    (by decide +kernel) (by decide +kernel) 3 4).queue
  revert kept
  decide +kernel

end RoomState

end OpenTogetherTube
