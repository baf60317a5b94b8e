import OpenTogetherTube.Room.Tracked
import OpenTogetherTube.Room.Turns

/-!
# Requests mark what they change

The fields of a room that clients are shown (`syncableProps`) or that a snapshot stores, each
with the property that is marked for it, if one is. Nearly every method is tracked. The
exceptions are three: a promotion writes the role sets, which have no property; the settings
write `restoreQueueBehavior`, which is a plain field; and a video played out of an overfull
queue leaves the current item with a new start.
-/

namespace OpenTogetherTube

open Lib Lib.Handler

/-- The type of a property of `syncableState`. -/
def SyncProp.Value : SyncProp → Type
  | .name | .title | .description => String
  | .isTemporary | .isPlaying | .hasOwner | .hasPassword | .enableVoteSkip => Bool
  | .visibility => Visibility
  | .queueMode => QueueMode
  | .currentSource => Option QueueItem
  | .queue => List QueueItem
  | .playbackPosition => Number
  | .playbackSpeed => ℚ
  | .temporaryPlaybackSpeed => Option (ClientId × String × ℚ)
  | .playbackPreparation => Option PlaybackPreparation
  | .grants => Grants
  | .voteCounts => OrderedMap String Nat
  | .videoSegments => List Segment
  | .autoSkipSegmentCategories => List Category
  | .prevQueue => Option (List QueueItem)
  | .restoreQueueBehavior => BehaviorOption
  | .bufferGateMode => BufferGateMode
  | .danmakuSource => Option RoomDanmakuSource
  | .votesToSkip => OrderedSet ClientId

/-- What a room shows, or stores. -/
inductive RoomField where
  | sync (property : SyncProp)
  | isTemporary
  | resumeOnNextJoin
  | temporarySpeed
  | owner
  | userRoles
  | permissionsRevision
deriving DecidableEq

namespace RoomField

/-- The property that is marked for a field. What kind a room is and which permissions its
grants have seen never changes, and role sets have no property. -/
def mark : RoomField → Option SyncProp
  | .sync property => some property
  | .isTemporary | .userRoles | .permissionsRevision => none
  | .resumeOnNextJoin => some .isPlaying
  | .temporarySpeed => some .temporaryPlaybackSpeed
  | .owner => some .hasOwner

/-- The type of a field. -/
def Value : RoomField → Type
  | .sync property => property.Value
  | .isTemporary => Bool
  | .resumeOnNextJoin => Bool
  | .temporarySpeed => Option TemporarySpeed
  | .owner => Option User
  | .userRoles => OrderedMap Role (List Nat)
  | .permissionsRevision => Nat

end RoomField

namespace Room

/-- `get voteCounts`. -/
def voteCounts (room : Room) : OrderedMap String Nat :=
  room.votes.map fun entry => (entry.1, entry.2.length)

/-- `syncableState`, a property at a time. -/
def syncableState (now : Int) (room : Room) : (property : SyncProp) → property.Value
  | .name => room.name
  | .title => room.title
  | .description => room.description
  | .isTemporary => room.isTemporary
  | .visibility => room.visibility
  | .queueMode => room.queueMode
  | .currentSource => room.currentSource
  | .queue => room.queue
  | .isPlaying => room.isPlaying
  | .playbackPosition => room.realPlaybackPosition now
  | .playbackSpeed => room.playbackSpeed
  | .temporaryPlaybackSpeed =>
      room.temporarySpeed.map fun held => (held.clientId, held.gestureId, held.speed)
  | .playbackPreparation => room.playbackPreparation
  | .grants => room.grants
  | .hasOwner => room.owner.isSome
  | .hasPassword => room.hasPassword
  | .voteCounts => room.voteCounts
  | .videoSegments => room.videoSegments
  | .autoSkipSegmentCategories => room.autoSkipSegmentCategories
  | .prevQueue => room.prevQueue
  | .restoreQueueBehavior => room.restoreQueueBehavior
  | .enableVoteSkip => room.enableVoteSkip
  | .bufferGateMode => room.bufferGateMode
  | .danmakuSource => room.danmakuSource
  | .votesToSkip => room.votesToSkip

/-- What a field shows at a time. -/
def shown (now : Int) (room : Room) : (field : RoomField) → field.Value
  | .sync property => room.syncableState now property
  | .isTemporary => room.isTemporary
  | .resumeOnNextJoin => room.resumeOnNextJoin
  | .temporarySpeed => room.temporarySpeed
  | .owner => room.owner
  | .userRoles => room.userRoles
  | .permissionsRevision => room.permissionsRevision

/-- The fields of a room, marked by its dirty properties. -/
def tracking (now : Int) : Tracking Room RoomField where
  Value := RoomField.Value
  view field room := room.shown now field
  marked room field := ∃ property ∈ field.mark, property ∈ room.dirty

/-- A step at this time marks what it changes. -/
abbrev Tracked (now : Int) : Room → Room → Prop := (tracking now).Tracked

variable {now : Int} {before after : Room}

theorem Tracked.refl (room : Room) : Tracked now room room := Lib.Tracking.Tracked.refl room

theorem Tracked.trans {first second third : Room} (earlier : Tracked now first second)
    (later : Tracked now second third) : Tracked now first third :=
  Lib.Tracking.Tracked.trans earlier later

/-- A step that marks nothing and changes what nobody sees. -/
theorem Tracked.quiet (dirty : after.dirty = before.dirty)
    (same : ∀ field, after.shown now field = before.shown now field) : Tracked now before after := by
  refine .of_same same fun field marked => ?_
  obtain ⟨property, mark, held⟩ := marked
  exact ⟨property, mark, dirty.symm ▸ held⟩

theorem Tracked.marking (property : SyncProp) (dirty : after.dirty = before.dirty.add property)
    (same : ∀ field, field.mark ≠ some property →
      after.shown now field = before.shown now field) : Tracked now before after := by
  refine ⟨fun field marked => ?_, fun field => ?_⟩
  · obtain ⟨other, mark, held⟩ := marked
    refine ⟨other, mark, ?_⟩
    rw [dirty]
    exact OrderedSet.mem_add.mpr (.inl held)
  · by_cases here : field.mark = some property
    · refine .inr ⟨property, here, ?_⟩
      rw [dirty]
      exact OrderedSet.mem_add.mpr (.inr rfl)
    · exact .inl (same field here)

/-- The playback field behind a field of the room, if it is one of playback. -/
def playbackField : RoomField → PlaybackField
  | .sync .isPlaying => .isPlaying
  | .sync .playbackPosition => .playbackPosition
  | .sync .playbackSpeed => .playbackSpeed
  | .sync .temporaryPlaybackSpeed => .temporarySpeed
  | .sync .playbackPreparation => .playbackPreparation
  | .sync .currentSource => .currentSource
  | .sync property => .other property
  | .resumeOnNextJoin => .resumeOnNextJoin
  | .temporarySpeed => .temporarySpeed
  | .owner => .other .hasOwner
  | .isTemporary | .userRoles | .permissionsRevision => .other .name

theorem Tracked.onPlayback {room : Room} {update : Playback → Playback}
    (tracked : Playback.Tracked now room.toPlayback (update room.toPlayback)) :
    Tracked now room (room.onPlayback update) := by
  refine ⟨fun field marked => ?_, fun field => ?_⟩
  · obtain ⟨property, mark, held⟩ := marked
    exact ⟨property, mark, tracked.grows (.other property) held⟩
  · have kept := tracked.sameOrMarked (playbackField field)
    cases field with
    | sync property =>
        cases property with
        | temporaryPlaybackSpeed =>
            exact kept.imp (fun same => congrArg (Option.map fun held : TemporarySpeed =>
              (held.clientId, held.gestureId, held.speed)) same) fun marked => ⟨_, rfl, marked⟩
        | isPlaying => exact kept.imp id fun marked => ⟨_, rfl, marked⟩
        | playbackPosition => exact kept.imp id fun marked => ⟨_, rfl, marked⟩
        | playbackSpeed => exact kept.imp id fun marked => ⟨_, rfl, marked⟩
        | playbackPreparation => exact kept.imp id fun marked => ⟨_, rfl, marked⟩
        | currentSource => exact kept.imp id fun marked => ⟨_, rfl, marked⟩
        | _ => exact .inl rfl
    | resumeOnNextJoin => exact kept.imp id fun marked => ⟨_, rfl, marked⟩
    | temporarySpeed => exact kept.imp id fun marked => ⟨_, rfl, marked⟩
    | isTemporary => exact .inl rfl
    | owner => exact .inl rfl
    | userRoles => exact .inl rfl
    | permissionsRevision => exact .inl rfl

/-- What is marked stays marked along a tracked step. -/
theorem dirty_of_tracked (tracked : Tracked now before after) {property : SyncProp}
    (held : property ∈ before.dirty) : property ∈ after.dirty := by
  obtain ⟨other, same, held⟩ := tracked.grows (.sync property) ⟨property, rfl, held⟩
  cases same
  exact held

section Writes

variable (now) (room : Room)

theorem markDirty_tracked (property : SyncProp) : Tracked now room (room.markDirty property) :=
  .marking property rfl fun _ _ => rfl

theorem assignQueue_tracked (items : List QueueItem) :
    Tracked now room (room.assignQueue items) := by
  refine .marking .queue rfl fun field other => ?_
  rcases field with ⟨property⟩ | _ <;> try cases property
  all_goals first | rfl | exact absurd rfl other

theorem assignVideoSegments_tracked (segments : List Segment) :
    Tracked now room (room.assignVideoSegments segments) := by
  refine .marking .videoSegments rfl fun field other => ?_
  rcases field with ⟨property⟩ | _ <;> try cases property
  all_goals first | rfl | exact absurd rfl other

theorem assignPrevQueue_tracked (items : Option (List QueueItem)) :
    Tracked now room (room.assignPrevQueue items) := by
  unfold assignPrevQueue
  split
  · exact .refl room
  · refine .marking .prevQueue rfl fun field other => ?_
    rcases field with ⟨property⟩ | _ <;> try cases property
    all_goals first | rfl | exact absurd rfl other

theorem assignOwner_tracked (user : Option User) : Tracked now room (room.assignOwner user) := by
  refine .marking .hasOwner rfl fun field other => ?_
  rcases field with ⟨property⟩ | _ <;> try cases property
  all_goals first | rfl | exact absurd rfl other

theorem setPasswordHash_tracked (hash : Option String) :
    Tracked now room (room.setPasswordHash hash) := by
  refine .marking .hasPassword rfl fun field other => ?_
  rcases field with ⟨property⟩ | _ <;> try cases property
  all_goals first | rfl | exact absurd rfl other

/-- A write of the votes for items. -/
theorem assignVotes_tracked (votes : OrderedMap String (OrderedSet ClientId)) :
    Tracked now room ({ room with votes }.markDirty .voteCounts) := by
  refine .marking .voteCounts rfl fun field other => ?_
  rcases field with ⟨property⟩ | _ <;> try cases property
  all_goals first | rfl | exact absurd rfl other

theorem assignVotesToSkip_tracked (votesToSkip : OrderedSet ClientId) :
    Tracked now room ({ room with votesToSkip }.markDirty .votesToSkip) := by
  refine .marking .votesToSkip rfl fun field other => ?_
  rcases field with ⟨property⟩ | _ <;> try cases property
  all_goals first | rfl | exact absurd rfl other

/-- A change of what is neither shown nor stored nor pending. -/
theorem Tracked.behind {room changed : Room} (same : { changed with
      realusers := room.realusers
      pendingLeaveEvents := room.pendingLeaveEvents
      recentEvents := room.recentEvents
      nextSerial := room.nextSerial
      keepAlivePing := room.keepAlivePing
      wantSponsorBlock := room.wantSponsorBlock
      dontSkipSegmentsUntil := room.dontSkipSegmentsUntil
      savePending := room.savePending
      saved := room.saved
      published := room.published } = room) : Tracked now room changed := by
  have dirty := congrArg (fun room : Room => room.dirty) same
  refine .quiet dirty fun field => ?_
  have seen := congrArg (fun room : Room => room.shown now field) same
  rcases field with ⟨property⟩ | _ <;> try cases property
  all_goals exact seen

theorem publishRoomEvent_tracked (request : RoomRequest) (context : RoomRequestContext)
    (additional : RoomEventContext) (knownUser : Option RoomUserInfo) :
    Tracked now room (room.publishRoomEvent request context additional knownUser) := by
  unfold publishRoomEvent
  split
  · exact .refl room
  · split
    · exact .refl room
    · exact .behind now rfl

end Writes

variable (env : Env) (context : RoomRequestContext) (room : Room)

/-- A handler is tracked at the time it runs. -/
abbrev Tracks {α : Type} (env : Env) (handler : RoomM α) (room : Room) : Prop :=
  handler.Keeps (Tracked env.now) room

theorem tracked_writes (now : Int) : KeepsWrites (Tracked now) where
  assignQueue := assignQueue_tracked now
  publish _ _ := .behind now rfl
  publishRoomEvent := publishRoomEvent_tracked now
  assignPendingLeaveEvents _ _ := .behind now rfl
  assignPrevQueue := assignPrevQueue_tracked now
  assignVotes := assignVotes_tracked now
  assignVotesToSkip := assignVotesToSkip_tracked now
  forgetEvents _ _ _ := .behind now rfl

theorem tracked_ticks (now : Int) : KeepsTicks (Tracked now) where
  assignVideoSegments _ _ := assignVideoSegments_tracked _ _ _
  wantSponsorBlock _ _ := .behind now rfl
  assignPause _ _ := .behind now rfl
  keepAlivePing _ _ := .behind now rfl

theorem playback_tracked (state : Bool) : Tracks env (playback env state context) room := by
  refine Keeps.modify_bind (.onPlayback ?_) (keeps_modify _ (publishRoomEvent_tracked _ _ _ _ _ _))
  cases state with
  | true => exact Playback.play_tracked
  | false => exact Playback.pause_tracked false

theorem releaseBufferGate_tracked (timedOut : Bool) :
    Tracked env.now room (room.releaseBufferGate timedOut env.now) :=
  .onPlayback ((Playback.tracked_methods _).releaseBufferGate _ timedOut)

theorem tracked_upkeep (now : Int) : KeepsUpkeep now (Tracked now) where
  toKeepsMessages := (tracked_writes now).toKeepsMessages
  replaceUser _ _ _ := .behind now rfl
  saves _ := .behind now rfl
  unsaved _ := .behind now rfl
  endTemporaryPlaybackSpeed _ := .onPlayback (Playback.endTemporaryPlaybackSpeed_tracked true)
  evaluateBufferGate _ := .onPlayback ((Playback.tracked_methods _).evaluateBufferGate _ _)
  noteRecovery _ _ := .onPlayback (Playback.noteRecovery_tracked _)
  finishPlaybackPreparation _ _ _ _ :=
    .onPlayback ((Playback.tracked_methods _).finishPlaybackPreparation _ _ _ _)

theorem leaveCurrent_tracked : Tracked env.now room (room.leaveCurrent env.now) := by
  have counted : ∀ other : Room, Tracked env.now other (other.countSource env.now) := by
    intro other
    unfold countSource
    split
    · exact .onPlayback Playback.countWatched_tracked
    · exact .refl other
  exact ((releaseBufferGate_tracked env room false).trans
    ((tracked_writes env.now).clearSkipVotes _)).trans (counted _)

/-- The next item is made current: its position is marked. -/
theorem takeNext_tracked (item : QueueItem) (rest : List QueueItem) :
    Tracked env.now room (room.takeNext env.now item rest) ∧
      SyncProp.playbackPosition ∈ (room.takeNext env.now item rest).dirty := by
  have taken : Tracked env.now (room.assignQueue rest) ((room.assignQueue rest).onPlayback
      (Playback.takeSource item (item.startAt.getD 0) env.now)) :=
    .onPlayback (Playback.takeSource_tracked item _)
  have dropped : ∀ room : Room, Tracked env.now room
      (if room.videoSegments.isEmpty then room else room.assignVideoSegments []) := by
    intro room
    split
    · exact .refl room
    · exact assignVideoSegments_tracked _ _ _
  have unvoted : ∀ room : Room, Tracked env.now room
      ({ room with votes := room.votes.delete item.toVideoId.voteKey }.markDirty .voteCounts) :=
    fun room => assignVotes_tracked env.now room _
  have unvoted := (dropped ((room.assignQueue rest).onPlayback
    (Playback.takeSource item (item.startAt.getD 0) env.now))).trans (unvoted _)
  exact ⟨((assignQueue_tracked _ _ _).trans taken).trans unvoted,
    dirty_of_tracked unvoted (Playback.assignPlaybackPosition_settled _)⟩

theorem replaceSource_tracked (waiting : room.currentSource.isSome = true ∨ room.queue ≠ []) :
    Tracked env.now room (room.replaceSource env) ∧
      SyncProp.playbackPosition ∈ (room.replaceSource env).dirty := by
  unfold replaceSource
  split
  · rename_i item rest _
    obtain ⟨taken, moved⟩ := takeNext_tracked env room item rest
    have started : Tracked env.now (room.takeNext env.now item rest)
        (room.playNext env item rest) := .onPlayback (Playback.startItem_tracked _ moved _)
    exact ⟨taken.trans started, dirty_of_tracked started moved⟩
  · rename_i empty
    rw [if_pos (waiting.resolve_right fun other => other empty)]
    exact ⟨.onPlayback Playback.clearSource_tracked, Playback.clearSource_settled⟩

theorem advanceQueue_tracked (waiting : room.currentSource.isSome = true ∨ room.queue ≠ []) :
    Tracked env.now room (room.advanceQueue env) := by
  obtain ⟨replaced, moved⟩ := replaceSource_tracked env room waiting
  have refreshed := (tracked_ticks env.now).refreshSegments env (room.replaceSource env)
  exact (replaced.trans refreshed).trans (.onPlayback (Playback.assignPlaybackSpeed_tracked
    (dirty_of_tracked refreshed moved) 1))

theorem dequeueNext_tracked (waiting : room.currentSource.isSome = true ∨ room.queue ≠ []) :
    Tracked env.now room (room.dequeueNext env) := by
  have left := leaveCurrent_tracked env room
  obtain ⟨queue, _, source, _⟩ := leaveCurrent_frame room env.now
  have still := waiting
  rw [← source, ← queue] at still
  unfold dequeueNext
  dsimp only
  refine left.trans ?_
  split
  · exact .onPlayback (Playback.restartSource_tracked _)
  · refine (assignQueue_tracked _ _ _).trans (advanceQueue_tracked env _ (.inr ?_))
    simp [assignQueue, markDirty, onPlayback]
  · exact advanceQueue_tracked env _ still

theorem skip_tracked : Tracks env (skip env context) room := by
  unfold skip
  refine Keeps.get_bind ?_
  split
  · exact Keeps.pure _ _
  · rename_i current present
    have source : (room.voteToSkip context).currentSource.isSome = true := by
      rw [(samePlayback_writes.voteToSkip context room).choose_spec, present]
      rfl
    refine Keeps.modify_bind ((tracked_writes env.now).voteToSkip context room) (Keeps.get_bind
      (Keeps.ite (fun _ => ?_) fun _ => Keeps.pure _ _))
    exact Keeps.modify_bind (dequeueNext_tracked env _ (.inl source)) (Keeps.modify_bind
      (publishRoomEvent_tracked _ _ _ _ _ _) (keeps_modify _ (assignVideoSegments_tracked _ _ _)))

theorem seek_tracked (value : Option Number) : Tracks env (seek env value context) room :=
  (tracked_ticks env.now).seek env context room (tracked_writes env.now).toKeepsMessages value
    fun _ _ _ => .onPlayback (Playback.seekRaw_tracked _)

theorem joinRoom_tracked (info : ClientInfo) (reconnect : Bool) :
    Tracks env (joinRoom env info reconnect context) room :=
  (tracked_writes env.now).joinRoom env context room info reconnect
    (.onPlayback (Playback.holdEmptyPlaybackForJoin_tracked _ reconnect))
    (fun _ _ _ => .behind env.now rfl) fun _ _ => .onPlayback (Playback.resumeForJoin_tracked _ _ _ _)

theorem endOwnGesture_tracked (clientId : ClientId) :
    Tracked env.now room (room.endOwnGesture clientId env.now) :=
  keeps_endOwnGesture room clientId ((tracked_upkeep env.now).endTemporaryPlaybackSpeed room)

theorem forgetUser_tracked (user : RoomUser) :
    Tracked env.now room (room.forgetUser context user) :=
  (tracked_writes env.now).forgetUser context room user fun _ => .behind env.now rfl

/-- A promotion writes the role sets, if it gets that far, and announces them. -/
theorem promoteUser_after (targetClientId : ClientId) (role : Role) :
    (promoteUser targetClientId role context).after room = room ∨
      (promoteUser targetClientId role context).outcome room = .ok () ∧
        ∃ userRoles published, (promoteUser targetClientId role context).after room =
          { room with userRoles, published } := by
  unfold promoteUser
  split
  · exact .inl rfl
  · rw [after_get_bind, outcome_get_bind]
    split
    · exact .inl rfl
    · rename_i target _
      rw [after_bind, outcome_bind, checkPromotion_after]
      split
      · split
        · exact .inl rfl
        · refine .inr ⟨rfl, ?_⟩
          rw [after_modify_bind, after_modify]
          cases target.userId with
          | none => dsimp only; split <;> exact ⟨_, _, rfl⟩
          | some id => dsimp only; split <;> exact ⟨_, _, rfl⟩
      · exact .inl rfl

theorem setPlaybackSpeed_tracked (speed : Number) :
    Tracks env (setPlaybackSpeed env speed) room := by
  unfold setPlaybackSpeed
  split
  · exact Keeps.ite (fun _ => Keeps.throw _ _) fun _ =>
      keeps_modify room (.onPlayback (Playback.changeSpeed_tracked _))
  · exact Keeps.throw _ _

theorem setTemporaryPlaybackSpeed_tracked (action : GestureAction) (gestureId : String)
    (video : Option VideoId) :
    Tracks env (setTemporaryPlaybackSpeed env action gestureId video context) room :=
  keeps_setTemporaryPlaybackSpeed room context action gestureId video
    (.onPlayback (Playback.endTemporaryPlaybackSpeed_tracked true))
    (.onPlayback Playback.renewTemporaryPlaybackSpeed_tracked)
    (releaseBufferGate_tracked env room false) fun _ _ _ _ _ =>
      .onPlayback (Playback.startTemporarySpeed_tracked _ _)

/-- A settings request passes every check. -/
def acceptsSettings (settings : RoomSettings) (role : Role) (room : Room) : Bool :=
  (settingsPermissions (room.changedSettings settings)).all (room.grants.granted role) &&
    !(decide ((room.changedSettings settings).visibility = some .locked) && !room.hasPassword)

theorem setting_tracked (property : SyncProp) {changed : Room}
    (dirty : changed.dirty = room.dirty) (same : ∀ field, field.mark ≠ some property →
      changed.shown env.now field = room.shown env.now field) :
    Tracked env.now room (changed.markDirty property) := by
  refine .marking property (congrArg (OrderedSet.add · property) dirty) fun field other => ?_
  refine Eq.trans ?_ (same field other)
  rcases field with ⟨property⟩ | _ <;> try cases property
  all_goals rfl

/-- The settings are marked as they are written, `restoreQueueBehavior` apart. -/
theorem tracked_settings (settings : RoomSettings)
    (plain : settings.restoreQueueBehavior = none) : KeepsSettings settings (Tracked env.now) := by
  constructor
  case restoreQueueBehavior =>
    intro value given
    rw [plain] at given
    cases given
  case wantSponsorBlock => exact fun _ => .behind env.now rfl
  all_goals
    intro room _
    refine setting_tracked env room _ rfl fun field other => ?_
    rcases field with ⟨property⟩ | _ <;> try cases property
    all_goals first | rfl | exact absurd rfl other

/-- Checks that all return were all granted. -/
theorem granted_of_checks {role : Role} {permissions : List Permission} {value : PUnit}
    (passed : (permissions.forM (check role)).outcome room = .ok value) :
    permissions.all (room.grants.granted role) = true := by
  induction permissions with
  | nil => rfl
  | cons permission rest ih =>
      change ((check role permission >>= fun _ => rest.forM (check role)) : RoomM PUnit).outcome
        room = .ok value at passed
      rw [outcome_bind, check_after] at passed
      split at passed
      · rename_i granted
        rw [List.all_cons, granted_of_check room granted, ih passed]
        rfl
      · cases passed

/-- Settings are tracked unless they get to write `restoreQueueBehavior`. -/
theorem applySettings_tracked (settings : RoomSettings)
    (plain : (room.changedSettings settings).restoreQueueBehavior = none ∨
      room.acceptsSettings settings context.role = false) :
    Tracks env (applySettings env settings context) room := by
  unfold applySettings
  refine Keeps.get_bind (Keeps.bind (keeps_of_after room (forM_after room
    (fun _ => check_after room _ _) _)) fun _ passed => ?_)
  have granted := granted_of_checks room passed
  rw [forM_after room (fun _ => check_after room _ _)]
  refine Keeps.ite (fun _ => Keeps.throw _ _) fun unlocked => ?_
  have plain := plain.resolve_right fun refused => by
    unfold acceptsSettings at refused
    simp only [granted, Bool.true_and, Bool.not_eq_false', Bool.and_eq_true,
      decide_eq_true_eq] at refused
    exact unlocked refused
  exact Keeps.modify_bind ((tracked_settings env _ plain).writeSettings room)
    (keeps_modify _ ((tracked_upkeep env.now).evaluateBufferGate _))

/-- A play-now request passes every check and takes its video out of the queue, which is then
still too full for the interrupted item; that item has been given a new start by then. -/
def strandsCurrent (video : VideoAdd) : Bool :=
  room.acceptsPlayNow env context video &&
    room.currentSource.any (fun source =>
      decide (source.startAt ≠ some (room.realPlaybackPosition env.now))) &&
    decide (MAX_QUEUE_ITEMS < room.queue.length)

/-- Which item was current does not matter to the next one. -/
theorem takeSource_retimeCurrent (source item : QueueItem) (items : List QueueItem) (now : Int) :
    ((room.retimeCurrent source).assignQueue items).onPlayback (Playback.takeSource item 0 now) =
      (room.assignQueue items).onPlayback (Playback.takeSource item 0 now) := by
  have overwritten : ∀ p : Playback, Playback.takeSource item 0 now
      { p with currentSource := some source } = Playback.takeSource item 0 now p := by
    rintro ⟨⟨_, _, _, _, held⟩, ⟨preparation, resumes, _, _⟩, _, _, _, _⟩
    cases held <;> cases preparation <;> cases resumes <;> rfl
  exact congrArg (fun playback => { room.assignQueue items with toPlayback := playback })
    (overwritten (room.assignQueue items).toPlayback)

/-- The interrupted item goes back to the queue before the other is made current. -/
theorem interrupt_tracked (item : QueueItem)
    (fits : ∀ source ∈ room.currentSource, room.queue.length + 1 ≤ MAX_QUEUE_ITEMS ∨
      source.startAt = some (room.realPlaybackPosition env.now))
    {next : RoomM PUnit} (tail : ∀ room : Room, SyncProp.playbackPosition ∈ room.dirty →
      next.Keeps (Tracked env.now) room) :
    Tracks env (do
      pushInterrupted env
      modify (onPlayback (Playback.takeSource item 0 env.now))
      next) room := by
  have taken : ∀ room : Room, Tracked env.now room (next.after
      (room.onPlayback (Playback.takeSource item 0 env.now))) := fun room =>
    Tracked.trans (.onPlayback (Playback.takeSource_tracked item 0))
      (tail _ (Playback.assignPlaybackPosition_settled 0))
  unfold pushInterrupted Tracks Keeps
  rw [after_bind, outcome_get_bind, after_get_bind]
  cases present : room.currentSource with
  | none => exact taken room
  | some source =>
      dsimp only
      simp only [outcome_modify_bind, after_modify_bind]
      rcases pushTop_cases (room.retimeCurrent
          { source with startAt := some (room.realPlaybackPosition env.now) })
          { source with startAt := some (room.realPlaybackPosition env.now) } with
        ⟨⟨error, thrown⟩, left, full⟩ | ⟨pushed, _, left⟩
      · have same : { source with startAt := some (room.realPlaybackPosition env.now) } = source := by
          rw [← (fits source present).resolve_left full]
        rw [thrown, left, same]
        unfold retimeCurrent
        rw [← present]
        exact .refl room
      · rw [pushed, left]
        dsimp only
        rw [takeSource_retimeCurrent]
        exact (assignQueue_tracked _ _ _).trans (taken _)

/-- What a play-now request does once its item is current and the position is marked. -/
theorem startNow_tracked (moved : SyncProp.playbackPosition ∈ room.dirty) : Tracks env (do
    modify (markDirty .queue)
    modify (assignVideoSegments [])
    modify fun room => room.onPlayback (Playback.startItemNow env.uuid room.toAudience env.now)
    modify fun room =>
      if room.autoSkipSegmentCategories.isEmpty then room
      else { room with wantSponsorBlock := true } : RoomM Unit) room := by
  have marked := (markDirty_tracked env.now room .queue).trans
    (assignVideoSegments_tracked env.now _ [])
  have moved : SyncProp.playbackPosition ∈ _ := dirty_of_tracked marked moved
  refine Keeps.modify_bind (markDirty_tracked _ _ _) (Keeps.modify_bind
    (assignVideoSegments_tracked _ _ _) (Keeps.modify_bind
      (.onPlayback (Playback.startItemNow_tracked _ moved env.uuid)) (keeps_modify _ ?_)))
  split
  · exact .refl _
  · exact .behind env.now rfl

theorem playNow_tracked (may : room.grants.granted context.role .queuePlayNow = true)
    (video : VideoAdd) (fits : room.strandsCurrent env context video = false) :
    Tracks env (playNow env video context) room := by
  unfold playNow
  refine Keeps.bind (keeps_of_after room (assertUsableVideoId_after room _)) fun _ usable => ?_
  rw [assertUsableVideoId_after]
  refine Keeps.get_bind (Keeps.ite (fun _ => Keeps.pure _ _) fun other => ?_)
  refine Keeps.bind (keeps_of_after room (check_after room _ _)) fun _ granted => ?_
  rw [check_after]
  refine Keeps.ite (fun _ => Keeps.throw _ _) fun space => ?_
  refine Keeps.bind (keeps_of_after room (assertUsableSubtitle_after room env _)) fun _ subtitle => ?_
  rw [assertUsableSubtitle_after]
  have accepts := acceptsPlayNow_of_checks env context room may usable other
    (granted_of_check room granted) space subtitle
  have fits : ∀ source ∈ room.currentSource, room.queue.length ≤ MAX_QUEUE_ITEMS ∨
      source.startAt = some (room.realPlaybackPosition env.now) := by
    intro source present
    by_contra unfit
    rw [not_or] at unfit
    unfold strandsCurrent at fits
    rw [accepts, Option.mem_def.mp present, decide_eq_true (Nat.lt_of_not_le unfit.1)] at fits
    simp [unfit.2] at fits
  cases queued : room.isVideoInQueue video.toVideoId with
  | true =>
      obtain ⟨index, item, passed, after, _, _, shorter⟩ :=
        takeRequested_queued env room ((isVideoInQueue_iff room other).mp queued)
      refine Keeps.bind ?_ fun taken _ => ?_
      · unfold Keeps
        rw [after]
        exact assignQueue_tracked _ _ _
      · rw [after]
        refine interrupt_tracked env _ _ ?_ fun room moved => startNow_tracked env room moved
        intro source present
        refine (fits source present).imp_left fun short => ?_
        change (room.queue.eraseIdx index).length + 1 ≤ MAX_QUEUE_ITEMS
        omega
  | false =>
      have space : room.queue.length < MAX_QUEUE_ITEMS := by
        rw [queued] at space
        simpa using space
      unfold takeRequested
      rw [if_neg Bool.false_ne_true]
      cases env.getVideoInfo video.toVideoId with
      | none => exact Keeps.throw _ _
      | some item =>
          exact interrupt_tracked env _ _ (fun _ _ => .inl space)
            fun room moved => startNow_tracked env room moved

theorem undo_tracked (echo : UndoEvent) : Tracks env (undo env echo context) room := by
  refine (tracked_writes env.now).undo env context room echo fun event _ _ => ?_
  refine (tracked_writes env.now).applyUndo env context room event
    (fun _ _ => seek_tracked env context room _) (fun _ _ _ => ?_) ?_
  · exact .onPlayback (Playback.takeSource_tracked _ _)
  · exact .onPlayback (Playback.assignCurrentSource_tracked none)

theorem settlePlayback_tracked : Tracked env.now room (room.settlePlayback env) := by
  refine ((tracked_upkeep env.now).evaluateBufferGate room).trans ?_
  exact Tracked.trans (.onPlayback ((Playback.tracked_methods _).updatePreparation _))
    (.onPlayback ((Playback.tracked_methods _).updateTemporarySpeed _))

/-- A tick moves on from an item or to one. -/
theorem updateSource_tracked : Tracked env.now room (room.updateSource env) := by
  unfold updateSource
  split
  · rename_i wanted
    refine dequeueNext_tracked env room ?_
    unfold wantsNext Playback.currentEnded at wanted
    cases present : room.currentSource with
    | some source => exact .inl rfl
    | none =>
        refine .inr fun empty => ?_
        simp [present, empty] at wanted
  · exact .refl room

theorem updateSegments_tracked : Tracked env.now room (room.updateSegments env) :=
  (tracked_ticks env.now).updateSegments env room fun _ _ _ =>
    Tracked.trans (.onPlayback (Playback.seekRaw_tracked _)) (.behind env.now rfl)

theorem update_tracked : Tracks env (update env) room := by
  unfold update moveOn
  refine Keeps.modify_bind (settlePlayback_tracked env room) (Keeps.modify_bind
    (updateSource_tracked env _) (Keeps.bind ((tracked_ticks env.now).keepAlive env _) fun _ _ => ?_))
  exact Keeps.modify_bind ((tracked_writes env.now).orderByVotes _) (keeps_modify _ (updateSegments_tracked env _))

theorem setGrants_tracked (grants : Grants) : Tracked env.now room (room.setGrants grants env.now) := by
  have granted : Tracked env.now room
      ({ room with grants := Grants.setAllGrants grants.masks }.markDirty .grants) := by
    refine setting_tracked env room .grants rfl fun field other => ?_
    rcases field with ⟨property⟩ | _ <;> try cases property
    all_goals first | rfl | exact absurd rfl other
  exact granted.trans ((tracked_upkeep env.now).evaluateBufferGate _)

theorem stopForUnload_tracked : Tracked env.now room (room.stopForUnload env.now) :=
  (tracked_writes env.now).stopForUnload room env.now
    (.onPlayback (Playback.clearPlaybackStartTimer_tracked.trans
      (Playback.endTemporaryPlaybackSpeed_tracked true)))
    fun _ => Tracked.trans (.onPlayback Playback.pausePlaybackClock_tracked) (markDirty_tracked _ _ _)

end Room

end OpenTogetherTube
