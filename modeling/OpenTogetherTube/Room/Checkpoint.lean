import OpenTogetherTube.Room.QueueCap
import OpenTogetherTube.Room.Syncable

/-!
# Checkpoints

What `syncDirty` publishes and what it hands to `storage.updateRoom`, where in a step a room
is checkpointed, and what a step marks before and after that point.
-/

namespace OpenTogetherTube

open Lib Lib.Handler

/-- The keys of `RoomStatePersistable` that are columns. -/
inductive PersistentSetting where
  | title
  | description
  | visibility
  | queueMode
  | autoSkipSegmentCategories
  | grants
  | userRoles
  | owner
  | prevQueue
  | restoreQueueBehavior
  | enableVoteSkip
  | bufferGateMode
  | danmakuSource
  | permissionsRevision
deriving DecidableEq

namespace PersistentSetting

/-- The type of a setting. -/
def Value : PersistentSetting → Type
  | .title | .description => String
  | .visibility => Visibility
  | .queueMode => QueueMode
  | .autoSkipSegmentCategories => List Category
  | .grants => Grants
  | .userRoles => OrderedMap Role (List Nat)
  | .owner => Option User
  | .prevQueue => Option (List QueueItem)
  | .restoreQueueBehavior => BehaviorOption
  | .enableVoteSkip => Bool
  | .bufferGateMode => BufferGateMode
  | .danmakuSource => Option RoomDanmakuSource
  | .permissionsRevision => Nat

/-- The dirty properties that make `syncDirty` hand over a setting. Role sets are looked up
under a name that is never dirty, and the revision is not looked up. -/
def triggers : PersistentSetting → List SyncProp
  | .title => [.title]
  | .description => [.description]
  | .visibility => [.visibility]
  | .queueMode => [.queueMode]
  | .autoSkipSegmentCategories => [.autoSkipSegmentCategories]
  | .grants => [.grants]
  | .userRoles | .permissionsRevision => []
  | .owner => [.hasOwner]
  | .prevQueue => [.queue, .currentSource, .isPlaying, .playbackPosition, .prevQueue]
  | .restoreQueueBehavior => [.restoreQueueBehavior]
  | .enableVoteSkip => [.enableVoteSkip]
  | .bufferGateMode => [.bufferGateMode]
  | .danmakuSource => [.danmakuSource]

/-- A setting that a persisted property triggers. -/
def ofProperty : SyncProp → PersistentSetting
  | .description => .description
  | .visibility => .visibility
  | .queueMode => .queueMode
  | .autoSkipSegmentCategories => .autoSkipSegmentCategories
  | .grants => .grants
  | .hasOwner => .owner
  | .restoreQueueBehavior => .restoreQueueBehavior
  | .enableVoteSkip => .enableVoteSkip
  | .bufferGateMode => .bufferGateMode
  | .danmakuSource => .danmakuSource
  | .queue | .currentSource | .isPlaying | .playbackPosition | .prevQueue => .prevQueue
  | _ => .title

/-- Some property that triggers the setting is among the dirty ones. -/
def handedOver (dirty : OrderedSet SyncProp) (setting : PersistentSetting) : Bool :=
  setting.triggers.any fun property => decide (property ∈ dirty)

end PersistentSetting

/-- `Partial<RoomStatePersistable>`: `none` is an absent key. -/
abbrev PersistableState := (setting : PersistentSetting) → Option setting.Value

/-- `roomToDbPartial`, written into a row: absent keys and an owner that is null leave their
columns alone. -/
def roomToDbPartial (state : PersistableState) (row : DbRoom) : DbRoom :=
  { row with
    title := (state .title).getD row.title
    description := (state .description).getD row.description
    visibility := (state .visibility).getD row.visibility
    queueMode := (state .queueMode).getD row.queueMode
    autoSkipSegmentCategories := (state .autoSkipSegmentCategories).getD row.autoSkipSegmentCategories
    restoreQueueBehavior := (state .restoreQueueBehavior).getD row.restoreQueueBehavior
    enableVoteSkip := (state .enableVoteSkip).getD row.enableVoteSkip
    bufferGateMode := (state .bufferGateMode).getD row.bufferGateMode
    danmakuSource := (state .danmakuSource).getD row.danmakuSource
    permissionsRevision := Option.or (state .permissionsRevision) row.permissionsRevision
    prevQueue := (state .prevQueue).getD row.prevQueue
    permissions := ((state .grants).map fun grants : Grants =>
      ((grants.deleteRole .administrator).deleteRole .owner).masks).getD row.permissions
    owner := Option.or ((state .owner).getD none) row.owner
    userRoles := (state .userRoles).getD row.userRoles }

namespace Room

variable (env : Env) (room : Room)

/-- `this[setting]`. -/
def setting : (setting : PersistentSetting) → setting.Value
  | .title => room.title
  | .description => room.description
  | .visibility => room.visibility
  | .queueMode => room.queueMode
  | .autoSkipSegmentCategories => room.autoSkipSegmentCategories
  | .grants => room.grants
  | .userRoles => room.userRoles
  | .owner => room.owner
  | .prevQueue => room.prevQueue
  | .restoreQueueBehavior => room.restoreQueueBehavior
  | .enableVoteSkip => room.enableVoteSkip
  | .bufferGateMode => room.bufferGateMode
  | .danmakuSource => room.danmakuSource
  | .permissionsRevision => room.permissionsRevision

/-- The room as `promoteUser` hands it to `updateRoom`. -/
def persistable : PersistableState := fun setting => some (room.setting setting)

/-- The settings `syncDirty` hands to `updateRoom`; the queue is saved as it would come back. -/
def syncedSettings (now : Int) : PersistableState := fun setting =>
  if setting.handedOver room.dirty then
    some (match setting with
      | .prevQueue => room.queueSnapshot now
      | setting => room.setting setting)
  else none

/-- Settings are handed over just when a dirty property is one of those that persist. -/
theorem handedOver_iff (dirty : OrderedSet SyncProp) :
    (∃ setting : PersistentSetting, setting.handedOver dirty = true) ↔
      dirty.any isPersisted = true := by
  unfold PersistentSetting.handedOver
  simp only [List.any_eq_true, decide_eq_true_eq]
  constructor
  · rintro ⟨setting, property, listed, held⟩
    refine ⟨property, held, ?_⟩
    cases setting <;> simp only [PersistentSetting.triggers, List.mem_cons, List.not_mem_nil,
      or_false] at listed
    all_goals first | (subst listed; rfl) | (rcases listed with rfl | rfl | rfl | rfl | rfl <;> rfl)
  · rintro ⟨property, held, persisted⟩
    refine ⟨.ofProperty property, property, ?_, held⟩
    cases property <;> first | decide | exact absurd persisted Bool.false_ne_true

/-- The database write of a checkpoint is due, and fails. -/
def syncFails : Bool := !room.isTemporary && room.dirty.any isPersisted && !env.updateRoomSucceeds

/-- A checkpoint with nothing to do, one that fails and one that succeeds. -/
theorem sync_cases :
    room.dirty = [] ∧ (sync env).after room = room ∧ (sync env).outcome room = .ok () ∨
      room.dirty ≠ [] ∧ room.syncFails env = true ∧
        (∃ error, (sync env).outcome room = .error error) ∧
        (sync env).after room = { room with
          dirty := OrderedSet.addAll [] room.dirty
          savePending := room.savePending || room.dirty.any isStorable
          published := .sync room.dirty :: room.published } ∨
      room.dirty ≠ [] ∧ room.syncFails env = false ∧ (sync env).outcome room = .ok () ∧
        (sync env).after room = { room with
          dirty := []
          savePending := room.savePending || room.dirty.any isStorable
          published := .sync room.dirty :: room.published } := by
  unfold sync
  rw [after_get_bind, outcome_get_bind]
  by_cases clean : room.dirty = []
  · rw [if_pos (List.isEmpty_iff.mpr clean)]
    exact .inl ⟨clean, rfl, rfl⟩
  · rw [if_neg (mt List.isEmpty_iff.mp clean), after_modify_bind, outcome_modify_bind]
    unfold syncFails
    by_cases fails : (!room.isTemporary && room.dirty.any isPersisted &&
        !env.updateRoomSucceeds) = true
    · rw [if_pos fails]
      exact .inr (.inl ⟨clean, fails, ⟨_, rfl⟩, rfl⟩)
    · rw [if_neg fails]
      exact .inr (.inr ⟨clean, Bool.eq_false_iff.mpr fails, rfl, rfl⟩)

/-- A checkpoint whose database write succeeds, or is not due, returns. -/
theorem sync_passes (succeeds : room.syncFails env = false) : (sync env).outcome room = .ok () := by
  rcases sync_cases env room with ⟨_, _, passed⟩ | ⟨_, fails, _⟩ | ⟨_, _, passed, _⟩
  · exact passed
  · rw [succeeds] at fails
    cases fails
  · exact passed

/-- The room as the last viewer leaves it, when it is checkpointed at once. -/
def leaveCheckpoint (context : RoomRequestContext) : Option Room :=
  match context.clientId with
  | none => none
  | some clientId =>
      let room := room.endOwnGesture clientId env.now
      match room.getUser clientId with
      | none => none
      | some user =>
          let room := room.forgetUser context user
          if room.realusers.isEmpty then
            some { room.onPlayback (Playback.emptyRoom room.toAudience env.now) with
              keepAlivePing := env.now }
          else none

/-- A step marks what it changes, up to its checkpoint and from there on. -/
def MarkedAround (now : Int) (before : Room) (checkpoint : Option Room) (after : Room) : Prop :=
  match checkpoint with
  | none => Tracked now before after
  | some synced => Tracked now before synced ∧ Tracked now ((sync env).after synced) after

/-- The debounced call of `sync` is no longer due. -/
theorem beginSync_tracked : Tracked env.now room { room with syncPending := false } := by
  refine .quiet rfl fun field => ?_
  rcases field with ⟨property⟩ | _ <;> try cases property
  all_goals rfl

/-- Whatever is tracked after a checkpoint follows it, unless it threw. -/
theorem sync_bind_tracked {next : RoomM PUnit}
    (tail : ∀ room : Room, next.Keeps (Tracked env.now) room) :
    Tracked env.now ((sync env).after room) ((do sync env; next).after room) := by
  rw [after_bind]
  split
  · exact tail _
  · exact .refl _

theorem leaveRoom_tracked (context : RoomRequestContext) :
    room.MarkedAround env env.now (room.leaveCheckpoint env context)
      ((leaveRoom env context).after room) := by
  unfold leaveRoom leaveCheckpoint
  cases context.clientId with
  | none => exact .refl room
  | some clientId =>
      have ended := endOwnGesture_tracked env room clientId
      rw [after_modify_bind, after_get_bind]
      dsimp only
      cases (room.endOwnGesture clientId env.now).getUser clientId with
      | none => exact ended
      | some user =>
          have forgotten := ended.trans (forgetUser_tracked env context _ user)
          dsimp only
          rw [after_modify_bind]
          generalize (room.endOwnGesture clientId env.now).forgetUser context user = left at forgotten
          have gated : ∀ room : Room, (modify (evaluateBufferGate env.now) : RoomM PUnit).Keeps
              (Tracked env.now) room := fun room => keeps_modify _ ((tracked_upkeep env.now).evaluateBufferGate room)
          unfold settleLeave
          rw [bind_assoc, after_get_bind]
          by_cases empty : left.realusers.isEmpty = true
          · rw [if_pos empty, if_pos empty, bind_assoc, after_modify_bind]
            simp only [bind_assoc]
            have emptied : Tracked env.now left
                { left.onPlayback (Playback.emptyRoom left.toAudience env.now) with
                  keepAlivePing := env.now } :=
              Tracked.trans (.onPlayback (Playback.emptyRoom_tracked _)) (.behind env.now rfl)
            exact ⟨forgotten.trans emptied, sync_bind_tracked env _ fun room =>
              Keeps.modify_bind ((tracked_upkeep env.now).flushSave env room) (gated _)⟩
          · rw [if_neg empty, if_neg empty]
            have rebuilt : Tracked env.now left (left.onPlayback
                (Playback.rebuildRound env.uuid clientId left.toAudience env.now)) :=
              .onPlayback (Playback.rebuildRound_tracked _ _ _)
            exact forgotten.trans (Keeps.modify_bind rebuilt (gated _))

end Room

/-- Where a step checkpoints the room. -/
def RoomAction.checkpoint (env : Env) (action : RoomAction) (room : Room) : Option Room :=
  match action with
  | .request .leave context => room.leaveCheckpoint env context
  | .throttledSync => some { room with syncPending := false }
  | .sync => some room
  | .onBeforeUnload => some { room.stopForUnload env.now with syncPending := false }
  | _ => none

/-- The two requests that can change a field without marking it do not. -/
def RoomAction.MarksChanges (env : Env) (action : RoomAction) (room : Room) : Prop :=
  match action with
  | .request (.applySettings settings) context =>
      (room.changedSettings settings).restoreQueueBehavior = none ∨
        room.acceptsSettings settings context.role = false
  | .request (.playNow video) context => room.strandsCurrent env context video = false
  | _ => True

namespace Room

variable (env : Env) (room : Room)

theorem processRequest_tracked (request : RoomRequest) (context : RoomRequestContext)
    (marks : (RoomAction.request request context).MarksChanges env room)
    (stays : request ≠ .leave) (assigns : ∀ target role, request ≠ .promote target role) :
    Tracks env (processRequest env request context) room := by
  unfold processRequest
  refine Keeps.bind (keeps_of_after room (checkSome_after room _ _)) fun _ passed => ?_
  rw [checkSome_after]
  cases request with
  | join info reconnect => exact joinRoom_tracked env context room info reconnect
  | leave => exact absurd rfl stays
  | playback state => exact playback_tracked env context room state
  | skip => exact skip_tracked env context room
  | seek value => exact seek_tracked env context room value
  | promote target role => exact absurd rfl (assigns target role)
  | updateUser info prepared => exact (tracked_upkeep env.now).updateUser env room info prepared
  | undo event => exact undo_tracked env context room event
  | applySettings settings => exact applySettings_tracked env context room settings marks
  | playNow video =>
      exact playNow_tracked env context room (granted_of_check room passed) video marks
  | playbackSpeed speed => exact setPlaybackSpeed_tracked env room speed
  | temporaryPlaybackSpeed action gestureId video =>
      exact setTemporaryPlaybackSpeed_tracked env context room action gestureId video
  | add | remove | order | vote | chat | shuffle | restoreQueue | kick | updateQueueItem
  | addNote | deleteNote => exact (tracked_writes env.now).handle env context room rfl

end Room

namespace RoomAction

variable (env : Env) (room : Room)

/-- Whatever a room reacts to, it marks what it changes, but for promotions and the two
requests that do not. -/
theorem apply_tracked (action : RoomAction) (marks : action.MarksChanges env room)
    (assigns : ∀ target role context, action ≠ .request (.promote target role) context) :
    room.MarkedAround env env.now (action.checkpoint env room) (action.apply env room) := by
  have asked : ∀ request context, action = .request request context → request ≠ .leave →
      Room.Tracked env.now room (action.apply env room) := by
    rintro request context rfl stays
    refine Room.processRequest_tracked env room request context marks stays ?_
    rintro target role rfl
    exact assigns target role context rfl
  cases action with
  | request request context =>
      cases request with
      | leave => exact Room.leaveRoom_tracked env room context
      | _ => exact asked _ _ rfl nofun
  | update => exact Room.update_tracked env room
  | playbackStartTimer =>
      have fired : Room.Tracked env.now room (room.onPlayback Playback.clearPlaybackStartTimer) :=
        .onPlayback Playback.clearPlaybackStartTimer_tracked
      exact fired.trans (.onPlayback Playback.startPreparedPlayback_tracked)
  | temporarySpeedTimer =>
      exact .onPlayback (Playback.endTemporaryPlaybackSpeed_tracked true)
  | leaveTimer token => exact (Room.tracked_writes env.now).fireLeaveTimer room token
  | throttledSync => exact ⟨Room.beginSync_tracked env room, .refl _⟩
  | sync => exact ⟨.refl room, .refl _⟩
  | save => exact (Room.tracked_upkeep env.now).saveStateToRedis env room
  | holdEmptyPlaybackForJoin reconnect =>
      exact .onPlayback (Playback.holdEmptyPlaybackForJoin_tracked _ reconnect)
  | setGrants grants => exact Room.setGrants_tracked env room grants
  | claim user => exact Room.assignOwner_tracked env.now room _
  | setPasswordHash hash => exact Room.setPasswordHash_tracked env.now room hash
  | reauthenticate clientId token info =>
      exact (Room.tracked_upkeep env.now).reauthenticate env room clientId token info
  | onBeforeUnload =>
      exact ⟨(Room.stopForUnload_tracked env room).trans (Room.beginSync_tracked env _),
        Room.sync_bind_tracked env _ fun room => Room.keeps_modify _ ((Room.tracked_upkeep env.now).flushSave env room)⟩

end RoomAction

end OpenTogetherTube
