import OpenTogetherTube.Room.Checkpoint
import OpenTogetherTube.Room.Identity
import OpenTogetherTube.Room.Permits

/-!
# Saves to Redis

A checkpoint schedules a save of the snapshot when one of the dirty properties is among
`storableProps`. The owner and the role sets are stored too, but are no synced properties: a
change of theirs is saved only together with another. So is a `restoreQueueBehavior` that was
changed through the settings, which do not mark it.
-/

namespace OpenTogetherTube

open Lib Lib.Handler

namespace Room

/-- `storableProps`, the clock pair apart. -/
def storableProps : List RoomField :=
  [.sync .name, .sync .title, .sync .description, .isTemporary, .sync .visibility, .sync .queueMode,
    .sync .currentSource, .sync .queue, .sync .isPlaying, .sync .playbackSpeed, .resumeOnNextJoin,
    .sync .grants, .userRoles, .owner, .sync .videoSegments, .sync .autoSkipSegmentCategories,
    .sync .prevQueue, .sync .restoreQueueBehavior, .sync .enableVoteSkip, .sync .bufferGateMode,
    .sync .danmakuSource, .permissionsRevision]

/-- A stored property is dirty, so that the next checkpoint that succeeds schedules a save. -/
def owesSave (room : Room) : Bool := room.dirty.any isStorable

/-- What is stored, all of it marked together. -/
def storable : Tracking Room { field : RoomField // field ∈ storableProps } where
  Value field := field.1.Value
  view field room := room.shown 0 field.1
  marked room _ := room.owesSave = true

/-- A step leaves a save owed if it was, and if it changes what is stored. -/
abbrev Stores : Room → Room → Prop := storable.Tracked

/-- A stored field differs. -/
def StoredChange (before after : Room) : Prop :=
  ∃ field, storable.view field after ≠ storable.view field before

variable {now : Int} {before after : Room}

/-- What is stored, the clock pair apart, does not depend on the time. -/
theorem shown_time (room : Room) (later : Int) {field : RoomField} (stored : field ∈ storableProps) :
    room.shown now field = room.shown later field := by
  rcases field with ⟨property⟩ | _ <;> try cases property
  all_goals first | rfl | exact absurd stored (by decide)

/-- A property that is marked for a stored field is stored, unless the field is the owner. -/
theorem isStorable_of_mark {field : RoomField} (stored : field ∈ storableProps)
    (other : field ≠ .owner) {property : SyncProp} (mark : field.mark = some property) :
    isStorable property = true := by
  rcases field with ⟨property⟩ | _ <;> try cases property
  all_goals cases mark
  all_goals first | rfl | exact absurd rfl other | exact absurd stored (by decide)

theorem owesSave_of_mem {room : Room} {property : SyncProp} (held : property ∈ room.dirty)
    (stored : isStorable property = true) : room.owesSave = true :=
  List.any_eq_true.mpr ⟨property, held, stored⟩

theorem owesSave_mono (grows : ∀ property ∈ before.dirty, property ∈ after.dirty)
    (owes : before.owesSave = true) : after.owesSave = true := by
  obtain ⟨property, held, stored⟩ := List.any_eq_true.mp owes
  exact owesSave_of_mem (grows property held) stored

/-- Where a save is owed, nothing is lost. -/
theorem Stores.of_owes (owes : after.owesSave = true) : Stores before after :=
  ⟨fun _ _ => owes, fun _ => .inr owes⟩

/-- A step that marks what it changes, and does not change the owner. -/
theorem Tracked.stores (tracked : Tracked now before after) (owner : after.owner = before.owner) :
    Stores before after := by
  refine ⟨fun _ => owesSave_mono fun _ => dirty_of_tracked tracked, fun ⟨field, stored⟩ => ?_⟩
  by_cases same : field = .owner
  · subst same
    exact .inl owner
  · rcases tracked.sameOrMarked field with shown | ⟨property, mark, held⟩
    · refine .inl ?_
      change after.shown 0 field = before.shown 0 field
      rw [shown_time after now stored, shown_time before now stored]
      exact shown
    · exact .inr (owesSave_of_mem held (isStorable_of_mark stored same mark))

/-- What a step stores is owed where it stores anything. -/
theorem Stores.changed (stores : Stores before after) (changed : StoredChange before after) :
    after.owesSave = true := by
  obtain ⟨field, changed⟩ := changed
  exact (stores.sameOrMarked field).resolve_left changed

/-- Some other setting than `restoreQueueBehavior` is given. -/
def givesOthers (settings : RoomSettings) : Bool :=
  settings.title.isSome || settings.description.isSome || settings.visibility.isSome ||
    settings.queueMode.isSome || settings.autoSkipSegmentCategories.isSome ||
    settings.enableVoteSkip.isSome || settings.bufferGateMode.isSome ||
    settings.danmakuSource.isSome || settings.grants.any fun grants => !grants.masks.isEmpty

section Settings

variable (env : Env) (context : RoomRequestContext) (room : Room)

theorem markDirty_owesSave {property : SyncProp} (stored : isStorable property = true) :
    (room.markDirty property).owesSave = true :=
  owesSave_of_mem (OrderedSet.mem_add.mpr (.inr rfl)) stored

/-- A setting that is marked with a stored property owes a save when it is given. -/
theorem applySetting_owesSave {Value : Type} (value : Option Value) (assign : Value → Room → Room)
    (marks : ∀ value room, (assign value room).owesSave = true) :
    (room.applySetting value assign).owesSave = (value.isSome || room.owesSave) := by
  cases value with
  | none => rfl
  | some value => exact marks value room

theorem writeGrants_owesSave (masks : OrderedMap Role Nat) :
    (masks.foldl writeGrant room).owesSave = (!masks.isEmpty || room.owesSave) := by
  induction masks generalizing room with
  | nil => rfl
  | cons entry rest ih =>
      have written : (room.writeGrant entry).owesSave = true := markDirty_owesSave _ rfl
      rw [List.foldl_cons, ih, written, Bool.or_true]
      rfl

theorem writeSettings_owesSave (settings : RoomSettings) :
    (room.writeSettings settings).owesSave = (givesOthers settings || room.owesSave) := by
  have categories : ∀ room : Room, (room.applyCategories settings).owesSave =
      (settings.autoSkipSegmentCategories.isSome || room.owesSave) := by
    intro room
    unfold applyCategories
    split
    · rename_i given
      rw [given]
      exact markDirty_owesSave _ rfl
    · rename_i absent
      rw [absent]
      rfl
  have grants : ∀ room : Room, (room.applySetting settings.grants fun grants room =>
      grants.masks.foldl writeGrant room).owesSave =
        ((settings.grants.any fun grants => !grants.masks.isEmpty) || room.owesSave) := by
    intro room
    cases settings.grants with
    | none => rfl
    | some grants => exact writeGrants_owesSave room grants.masks
  have fetched : ∀ (room : Room) (fetch : Bool),
      (if fetch then { room with wantSponsorBlock := true } else room).owesSave = room.owesSave := by
    rintro room (_ | _) <;> rfl
  unfold writeSettings
  dsimp only
  rw [fetched, grants, applySetting_owesSave _ settings.danmakuSource _ fun _ _ =>
      markDirty_owesSave _ rfl, applySetting_owesSave _ settings.bufferGateMode _ fun _ _ =>
      markDirty_owesSave _ rfl, applySetting_owesSave _ settings.enableVoteSkip _ fun _ _ =>
      markDirty_owesSave _ rfl]
  have kept : ∀ room : Room, (room.applySetting settings.restoreQueueBehavior
      fun value room => { room with restoreQueueBehavior := value }).owesSave = room.owesSave := by
    intro room
    cases settings.restoreQueueBehavior <;> rfl
  rw [kept, categories, applySetting_owesSave _ settings.queueMode _ fun _ _ =>
      markDirty_owesSave _ rfl, applySetting_owesSave _ settings.visibility _ fun _ _ =>
      markDirty_owesSave _ rfl, applySetting_owesSave _ settings.description _ fun _ _ =>
      markDirty_owesSave _ rfl, applySetting_owesSave _ settings.title _ fun _ _ =>
      markDirty_owesSave _ rfl]
  unfold givesOthers
  grind

theorem writeSettings_alone {settings : RoomSettings} (alone : givesOthers settings = false) :
    room.writeSettings settings = { room with
      restoreQueueBehavior := settings.restoreQueueBehavior.getD room.restoreQueueBehavior } := by
  obtain ⟨title, description, visibility, queueMode, grants, categories, behavior, voteSkip, gate,
    danmaku⟩ := settings
  simp only [givesOthers, Bool.or_eq_false_iff, Option.isSome_eq_false_iff,
    Option.isNone_iff_eq_none] at alone
  obtain ⟨⟨⟨⟨⟨⟨⟨⟨rfl, rfl⟩, rfl⟩, rfl⟩, rfl⟩, rfl⟩, rfl⟩, rfl⟩, granted⟩ := alone
  cases grants with
  | none => cases behavior <;> rfl
  | some grants =>
      obtain ⟨masks⟩ := grants
      cases masks with
      | nil => cases behavior <;> rfl
      | cons entry rest => cases granted

/-- A settings request owes a save unless it writes `restoreQueueBehavior` and nothing else. -/
theorem applySettings_stores (settings : RoomSettings)
    (saves : room.owesSave = true ∨ room.acceptsSettings settings context.role = false ∨
      (room.changedSettings settings).restoreQueueBehavior = none ∨
      givesOthers (room.changedSettings settings) = true ∨
      (room.evaluateBufferGate env.now).owesSave = true) :
    Stores room ((applySettings env settings context).after room) := by
  rcases applySettings_cases room env settings context with ⟨_, after⟩ | ⟨accepted, after⟩
  · rw [after]
    exact .refl room
  · have marked : ∀ written : Room, written.owesSave = true →
        (written.evaluateBufferGate env.now).owesSave = true := fun written =>
      owesSave_mono fun _ => dirty_of_tracked ((tracked_upkeep env.now).evaluateBufferGate written)
    rcases saves with owes | refused | plain | others | gated
    · rw [after]
      refine .of_owes (marked _ ?_)
      rw [writeSettings_owesSave, owes, Bool.or_true]
    · rw [accepted] at refused
      cases refused
    · exact (applySettings_tracked env context room settings (.inl plain)).stores
        (congrArg RoomIdentity.owner (applySettings_stays env context room settings).1)
    · rw [after]
      refine .of_owes (marked _ ?_)
      rw [writeSettings_owesSave, others, Bool.true_or]
    · rw [after]
      refine .of_owes ?_
      cases others : givesOthers (room.changedSettings settings) with
      | true => exact marked _ ((writeSettings_owesSave room _).trans (by rw [others, Bool.true_or]))
      | false =>
          rw [writeSettings_alone room others]
          exact gated

/-- A play-now request that strands the current item has marked the queue by then. -/
theorem playNow_stores (video : VideoAdd)
    (may : room.grants.granted context.role .queuePlayNow = true) :
    Stores room ((playNow env video context).after room) := by
  cases strands : room.strandsCurrent env context video with
  | false =>
      exact (playNow_tracked env context room may video strands).stores
        (congrArg RoomIdentity.owner (stays_core.playNow env context room video).1)
  | true =>
      unfold strandsCurrent at strands
      rw [Bool.and_eq_true, Bool.and_eq_true, decide_eq_true_eq] at strands
      obtain ⟨⟨_, retimed⟩, full⟩ := strands
      change (playNow env video context).Keeps Stores room
      unfold playNow
      refine keeps_bind_of_after room (assertUsableVideoId_after room _) fun _ => Keeps.get_bind ?_
      refine Keeps.ite (fun _ => Keeps.pure _ _) fun other => keeps_check room ?_
      refine Keeps.ite (fun _ => Keeps.throw _ _) fun space => ?_
      refine keeps_bind_of_after room (assertUsableSubtitle_after room env _) fun _ => ?_
      cases queued : room.isVideoInQueue video.toVideoId with
      | false =>
          rw [queued] at space
          simp only [Bool.not_false, Bool.true_and, decide_eq_true_eq] at space
          omega
      | true =>
          obtain ⟨index, item, passed, after, _, _, shorter⟩ :=
            takeRequested_queued env room ((isVideoInQueue_iff room other).mp queued)
          obtain ⟨source, present⟩ : ∃ source, room.currentSource = some source := by
            cases present : room.currentSource with
            | none => rw [present] at retimed; cases retimed
            | some source => exact ⟨source, rfl⟩
          unfold Keeps pushInterrupted
          rw [after_bind, passed, after]
          dsimp only
          rw [after_bind, outcome_get_bind, after_get_bind]
          have present : (room.assignQueue (room.queue.eraseIdx index)).currentSource = some source :=
            present
          rw [present]
          dsimp only
          simp only [outcome_modify_bind, after_modify_bind]
          rcases pushTop_cases ((room.assignQueue (room.queue.eraseIdx index)).retimeCurrent
            { source with startAt := some ((room.assignQueue
              (room.queue.eraseIdx index)).realPlaybackPosition env.now) })
            { source with startAt := some ((room.assignQueue
              (room.queue.eraseIdx index)).realPlaybackPosition env.now) } with
            ⟨⟨error, thrown⟩, left, _⟩ | ⟨_, fits, _⟩
          · rw [thrown, left]
            exact .of_owes (markDirty_owesSave { room with queue := room.queue.eraseIdx index } rfl)
          · have fits : (room.queue.eraseIdx index).length + 1 ≤ MAX_QUEUE_ITEMS := fits
            omega

/-- A step leaves a save owed for what it changes, up to its checkpoint and from there on. -/
def StoresAround (checkpoint : Option Room) (after : Room) : Prop :=
  match checkpoint with
  | none => Stores room after
  | some synced => Stores room synced ∧ Stores ((sync env).after synced) after

/-- A promotion stores the role sets, if it changes them. -/
theorem promoteUser_stores (targetClientId : ClientId) (role : Role)
    (saves : room.owesSave = true ∨ room.acceptsPromotion targetClientId role context = false ∨
      room.promotedRoles targetClientId role = room.userRoles) :
    Stores room ((promoteUser targetClientId role context).after room) := by
  rcases promoteUser_cases room targetClientId role context with
    ⟨_, _, after⟩ | ⟨accepted, _, published, after⟩
  · rw [after]
    exact .refl room
  · rw [after]
    rcases saves with owes | refused | same
    · exact .of_owes owes
    · rw [accepted] at refused
      cases refused
    · rw [same]
      refine .of_same (fun ⟨field, stored⟩ => ?_) fun _ => id
      rcases field with ⟨property⟩ | _ <;> try cases property
      all_goals rfl

end Settings

end Room

namespace RoomAction

/-- A save is owed already, or the step is none of the three whose change of a stored field is not
marked with a stored property: a claim, a promotion that moves an account, and settings that change
`restoreQueueBehavior` alone and leave the buffer gate as it is. -/
def SavesChanges (env : Env) (action : RoomAction) (room : Room) : Prop :=
  room.owesSave = true ∨
    match action with
    | .claim _ => False
    | .request (.promote target role) context =>
        room.acceptsPromotion target role context = false ∨
          room.promotedRoles target role = room.userRoles
    | .request (.applySettings settings) context =>
        room.acceptsSettings settings context.role = false ∨
          (room.changedSettings settings).restoreQueueBehavior = none ∨
          Room.givesOthers (room.changedSettings settings) = true ∨
          (room.evaluateBufferGate env.now).owesSave = true
    | _ => True

variable {env : Env} {room : Room} {action : RoomAction}

theorem checkpoint_owner {synced : Room} (checkpoint : action.checkpoint env room = some synced) :
    synced.owner = room.owner := by
  cases action with
  | request request context =>
      cases request with
      | leave =>
          change room.leaveCheckpoint env context = some synced at checkpoint
          unfold Room.leaveCheckpoint at checkpoint
          cases given : context.clientId with
          | none => rw [given] at checkpoint; cases checkpoint
          | some clientId =>
              rw [given] at checkpoint
              dsimp only at checkpoint
              have ended := congrArg RoomIdentity.owner (Room.keeps_endOwnGesture room clientId
                (Room.stays_core.onPlayback room (Playback.endTemporaryPlaybackSpeed true env.now))).1
              cases found : (room.endOwnGesture clientId env.now).getUser clientId with
              | none => rw [found] at checkpoint; cases checkpoint
              | some user =>
                  rw [found] at checkpoint
                  dsimp only at checkpoint
                  have forgotten := congrArg RoomIdentity.owner (Room.stays_core.forgetUser context
                    (room.endOwnGesture clientId env.now) user).1
                  split at checkpoint
                  · cases checkpoint
                    exact forgotten.trans ended
                  · cases checkpoint
      | _ => cases checkpoint
  | throttledSync => cases checkpoint; rfl
  | sync => cases checkpoint; rfl
  | onBeforeUnload =>
      cases checkpoint
      change (room.stopForUnload env.now).owner = room.owner
      unfold Room.stopForUnload
      dsimp only
      split <;> rfl
  | _ => cases checkpoint

/-- A step that marks what it changes, and is no claim. -/
theorem stores_of_marks (marks : action.MarksChanges env room)
    (assigns : ∀ target role context, action ≠ .request (.promote target role) context)
    (unclaimed : action.identityAfter room.identity = room.identity) :
    room.StoresAround env (action.checkpoint env room) (action.apply env room) := by
  have owner : (action.apply env room).owner = room.owner :=
    congrArg RoomIdentity.owner ((apply_identity env room action).1.trans unclaimed)
  have tracked := apply_tracked env room action marks assigns
  cases checkpoint : action.checkpoint env room with
  | none =>
      rw [checkpoint] at tracked
      exact Room.Tracked.stores tracked owner
  | some synced =>
      rw [checkpoint] at tracked
      have same := checkpoint_owner checkpoint
      have kept := congrArg RoomIdentity.owner (Room.stays_core.sync env synced).1
      exact ⟨tracked.1.stores same, tracked.2.stores (owner.trans (kept.trans same).symm)⟩

/-- A step that saves its changes leaves a save owed for what it changes. -/
theorem apply_stores (saves : action.SavesChanges env room) :
    room.StoresAround env (action.checkpoint env room) (action.apply env room) := by
  cases action with
  | request request context =>
      cases request with
      | promote target role => exact Room.promoteUser_stores context room target role saves
      | applySettings settings => exact Room.applySettings_stores env context room settings saves
      | playNow video =>
          change Room.Stores room ((Room.processRequest env (.playNow video) context).after room)
          unfold Room.processRequest
          rw [after_bind, Room.checkSome_after]
          split
          · rename_i passed
            exact Room.playNow_stores env context room video (Room.granted_of_check room passed)
          · exact .refl room
      | _ => exact stores_of_marks trivial (by rintro _ _ _ ⟨⟩) rfl
  | claim user =>
      rcases saves with owes | unsaved
      · exact Room.Stores.of_owes (Room.owesSave_mono (fun _ held =>
          OrderedSet.mem_add.mpr (.inl held)) owes)
      · exact absurd unsaved id
  | setPasswordHash hash =>
      exact Room.Tracked.stores (Room.setPasswordHash_tracked env.now room hash) rfl
  | _ => exact stores_of_marks trivial (by rintro _ _ _ ⟨⟩) rfl

end RoomAction

/-- A room, and whether the snapshot in Redis may be behind it. -/
structure SavedRoom where
  state : RoomState
  /-- History: a stored field has changed since the last checkpoint that succeeded and since the
  snapshot was last written. -/
  unsaved : Prop

namespace SavedRoom

/-- The room and its history after a step. -/
def next (label : RoomLabel) (stored : SavedRoom) : SavedRoom :=
  let before := stored.state.room
  let after := label.action.apply label.env before
  { state := stored.state.next label
    unsaved := match label.action.checkpoint label.env before with
      | some synced =>
          (Room.sync label.env).outcome synced ≠ .ok () ∧
              (stored.unsaved ∨ Room.StoredChange before synced) ∨
            Room.StoredChange synced after
      | none => ¬ (label.action = .save ∧ label.env.saveSucceeds = true) ∧
          (stored.unsaved ∨ Room.StoredChange before after) }

/-- The step saves what it changes. -/
def SavesChanges (stored : SavedRoom) (label : RoomLabel) : Prop :=
  label.action.SavesChanges label.env stored.state.room

/-- If the step checkpoints the room and the checkpoint succeeds, a save is scheduled by then for
whatever has changed. -/
def Schedules (stored : SavedRoom) (label : RoomLabel) : Prop :=
  ∀ synced, label.action.checkpoint label.env stored.state.room = some synced →
    (Room.sync label.env).outcome synced = .ok () →
    stored.unsaved ∨ Room.StoredChange stored.state.room synced →
      ((Room.sync label.env).after synced).savePending = true

end SavedRoom

/-- Every run of a room whose snapshot is watched. -/
def saveSystem : TransitionSystem SavedRoom RoomLabel where
  Initial stored := RoomState.Initial stored.state ∧ ¬ stored.unsaved
  Step before label after := roomSystem.Step before.state label after.state ∧ after = before.next label

namespace SavedRoom

variable {stored : SavedRoom} {label : RoomLabel}

/-- A change that is not saved yet is owed. -/
def Owed (stored : SavedRoom) : Prop := stored.unsaved → stored.state.room.owesSave = true

/-- A checkpoint that fails leaves a save owed. -/
theorem sync_owesSave {env : Env} {room : Room} (owes : room.owesSave = true)
    (failed : (Room.sync env).outcome room ≠ .ok ()) : ((Room.sync env).after room).owesSave = true := by
  rcases Room.sync_cases env room with ⟨_, _, passed⟩ | ⟨_, _, _, after⟩ | ⟨_, _, passed, _⟩
  · exact absurd passed failed
  · rw [after]
    exact Room.owesSave_mono (fun _ held => OrderedSet.mem_addAll.mpr (.inr held)) owes
  · exact absurd passed failed

/-- A checkpoint that succeeds schedules what is owed. -/
theorem sync_savePending {env : Env} {room : Room} (owes : room.owesSave = true)
    (passed : (Room.sync env).outcome room = .ok ()) :
    ((Room.sync env).after room).savePending = true := by
  rcases Room.sync_cases env room with ⟨clean, _, _⟩ | ⟨_, _, ⟨_, thrown⟩, _⟩ | ⟨_, _, _, after⟩
  · unfold Room.owesSave at owes
    rw [clean] at owes
    cases owes
  · rw [thrown] at passed
    cases passed
  · rw [after]
    exact Bool.or_eq_true_iff.mpr (.inr owes)

/-- A checkpoint changes nothing that is stored. -/
theorem sync_stored (env : Env) (room : Room) {after : Room}
    (changed : Room.StoredChange room after) : Room.StoredChange ((Room.sync env).after room) after := by
  have same : ∀ field, Room.storable.view field ((Room.sync env).after room) =
      Room.storable.view field room := by
    rintro ⟨field, stored⟩
    rcases Room.sync_cases env room with ⟨_, after, _⟩ | ⟨_, _, _, after⟩ | ⟨_, _, _, after⟩ <;>
      rw [after]
    all_goals
      rcases field with ⟨property⟩ | _ <;> try cases property
      all_goals rfl
  obtain ⟨field, changed⟩ := changed
  exact ⟨field, (same field).symm ▸ changed⟩

/-- A step that saves its changes leaves them owed, or has them scheduled. -/
theorem Owed.next (owed : stored.Owed) (saves : stored.SavesChanges label) :
    (stored.next label).Owed ∧ stored.Schedules label := by
  have stores := RoomAction.apply_stores saves
  unfold Owed Schedules SavedRoom.next
  dsimp only
  cases checkpoint : label.action.checkpoint label.env stored.state.room with
  | none =>
      rw [checkpoint] at stores
      dsimp only
      refine ⟨?_, ?_⟩
      · rintro ⟨_, unsaved | changed⟩
        · exact stores.grows ⟨.owner, by decide⟩ (owed unsaved)
        · exact Room.Stores.changed stores changed
      · rintro _ ⟨⟩
  | some synced =>
      rw [checkpoint] at stores
      obtain ⟨before, after⟩ := stores
      have owes : stored.unsaved ∨ Room.StoredChange stored.state.room synced →
          synced.owesSave = true := by
        rintro (unsaved | changed)
        · exact before.grows ⟨.owner, by decide⟩ (owed unsaved)
        · exact before.changed changed
      dsimp only
      refine ⟨?_, ?_⟩
      · rintro (⟨failed, behind⟩ | changed)
        · exact after.grows ⟨.owner, by decide⟩ (sync_owesSave (owes behind) failed)
        · exact after.changed (sync_stored label.env synced changed)
      · rintro _ ⟨⟩ passed behind
        exact sync_savePending (owes behind) passed

/-- In every run whose steps save what they change, what is not saved yet is owed. -/
theorem owed_inductive : TransitionSystem.Inductive (saveSystem.restrict SavesChanges) Owed := by
  refine ⟨fun stored initial unsaved => absurd unsaved initial.2, ?_⟩
  rintro before label _ owed ⟨saves, _, rfl⟩
  exact (owed.next saves).1

/-- In every run whose steps save what they change, a checkpoint that succeeds has scheduled a save
for whatever has changed, and a save that fires and is answered stores the state as it is. -/
theorem changes_saved {before after : SavedRoom} {label : RoomLabel}
    (reachable : (saveSystem.restrict SavesChanges).Reachable before)
    (step : (saveSystem.restrict SavesChanges).Step before label after) :
    before.Schedules label ∧ (label.action = .save → label.env.saveSucceeds = true →
      after.state.room.saved = some (after.state.room.serializeState label.env.now)) := by
  have owed := owed_inductive.of_reachable reachable
  obtain ⟨saves, _, rfl⟩ := step
  refine ⟨(owed.next saves).2, fun fires answered => ?_⟩
  have saved : (before.next label).state.room = before.state.room.saveStateToRedis label.env := by
    change label.action.apply label.env before.state.room = _
    rw [fires]
    rfl
  rw [saved]
  unfold Room.saveStateToRedis
  rw [if_pos answered]
  rfl

end SavedRoom

namespace Sample

/-- A new permanent room; only its owner is dirty, which is null. -/
def newStored : SavedRoom := ⟨⟨Room.new {} 0, 0⟩, False⟩

/-- Somebody claims the room. -/
def claims : RoomLabel := ⟨{ now := 1 }, .claim ⟨1, "ada"⟩⟩

/-- The owner gives the room a title. -/
def entitles : RoomLabel :=
  ⟨{ now := 1 }, .request (.applySettings { title := some "Films" }) { role := .owner }⟩

/-- The room is checkpointed, and its row is written. -/
def checkpoints : RoomLabel := ⟨{ now := 2 }, .sync⟩

theorem newStored_initial : saveSystem.Initial newStored := ⟨.created {} 0, id⟩

end Sample

namespace SavedRoom

open Sample

/-- A new title is saved. -/
theorem changes_saved_title :
    ((Room.sync checkpoints.env).after (newStored.next entitles).state.room).savePending = true := by
  have entitled : (saveSystem.restrict SavesChanges).Step newStored entitles
      (newStored.next entitles) :=
    ⟨.inr (.inr (.inl rfl)), ⟨trivial, by decide +kernel, rfl⟩, rfl⟩
  have saves : SavesChanges (newStored.next entitles) checkpoints := .inr trivial
  have checkpointed : (saveSystem.restrict SavesChanges).Step (newStored.next entitles) checkpoints
      ((newStored.next entitles).next checkpoints) :=
    ⟨saves, ⟨trivial, by decide +kernel, rfl⟩, rfl⟩
  have loaded : (saveSystem.restrict SavesChanges).Reachable newStored := .initial newStored_initial
  have titled : ∀ before after : Room, after.title ≠ before.title → Room.StoredChange before after :=
    fun _ _ changed => ⟨⟨.sync .title, by decide⟩, changed⟩
  exact (changes_saved (loaded.steps (.single entitled)) checkpointed).1 _ rfl
    (Room.sync_passes _ _ (Bool.and_false _)) (.inl ⟨nofun, .inr (titled _ _ (by decide +kernel))⟩)

/-- A room is claimed and checkpointed, and no save is scheduled. -/
theorem changes_saved_fails : ¬ ∀ before label after, saveSystem.Reachable before →
    saveSystem.Step before label after → before.Schedules label ∧
      (label.action = .save → label.env.saveSucceeds = true →
        after.state.room.saved = some (after.state.room.serializeState label.env.now)) := by
  intro claimed
  have step : saveSystem.Step newStored claims (newStored.next claims) :=
    ⟨⟨by decide +kernel, by decide +kernel, rfl⟩, rfl⟩
  have checkpointed : saveSystem.Step (newStored.next claims) checkpoints
      ((newStored.next claims).next checkpoints) :=
    ⟨⟨trivial, by decide +kernel, rfl⟩, rfl⟩
  have loaded : saveSystem.Reachable newStored := .initial newStored_initial
  have scheduled := (claimed _ _ _ (loaded.steps (.single step)) checkpointed).1 _ rfl
    (Room.sync_passes _ _ (Bool.and_false _)) (.inl ⟨nofun, .inr ⟨⟨.owner, by decide⟩, nofun⟩⟩)
  have none : ((Room.sync checkpoints.env).after (newStored.next claims).state.room).savePending =
      false := by decide +kernel
  rw [none] at scheduled
  cases scheduled

end SavedRoom

end OpenTogetherTube
