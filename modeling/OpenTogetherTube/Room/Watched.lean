import OpenTogetherTube.Room.Checkpoint

/-!
# Clients and storage keep up with a room

A client is given the whole state once and applies every sync message after that; storage is
handed settings. Where every step marks what it changes, the client shows the room as it is
whenever nothing is dirty, and storage has been handed every setting that changed.
`restoreQueueBehavior` is written without its mark, so it can stay behind for good.
-/

namespace OpenTogetherTube

open Lib Lib.Handler

namespace Room

/-- What clients are shown at any time; the position moves with the clock and is left out. -/
def clientView : Tracking Room { property : SyncProp // property ≠ .playbackPosition } where
  Value property := property.1.Value
  view property room := room.syncableState 0 property.1
  marked room property := property.1 ∈ room.dirty

theorem syncableState_time (room : Room) (now later : Int) {property : SyncProp}
    (still : property ≠ .playbackPosition) :
    room.syncableState now property = room.syncableState later property := by
  cases property <;> first | rfl | exact absurd rfl still

variable {now : Int} {before after : Room}

/-- A step that marks what it changes marks what clients are shown. -/
theorem Tracked.clientView (tracked : Tracked now before after) :
    Room.clientView.Tracked before after := by
  refine ⟨fun property => dirty_of_tracked tracked, fun property => ?_⟩
  rcases tracked.sameOrMarked (.sync property.1) with same | ⟨other, mark, held⟩
  · refine .inl ?_
    change after.syncableState 0 property.1 = before.syncableState 0 property.1
    rw [syncableState_time after 0 now property.2, syncableState_time before 0 now property.2]
    exact same
  · cases mark
    exact .inr held

end Room

/-- A setting keeps its value, and a saved queue what it is taken from. -/
def PersistentSetting.Kept (before after : Room) (setting : PersistentSetting) : Prop :=
  after.setting setting = before.setting setting ∧ (setting = .prevQueue →
    after.queue = before.queue ∧ after.currentSource = before.currentSource)

/-- A setting that a tracked step changes is handed over by the next checkpoint. -/
theorem Room.Tracked.handedOver {now : Int} {before after : Room}
    (tracked : Room.Tracked now before after) {setting : PersistentSetting}
    (changed : ¬ setting.Kept before after) : setting.handedOver after.dirty = true := by
  have held : ∀ property ∈ setting.triggers, property ∈ after.dirty →
      setting.handedOver after.dirty = true := fun property trigger held =>
    List.any_eq_true.mpr ⟨property, trigger, decide_eq_true held⟩
  have shown : ∀ field property, field.mark = some property → property ∈ setting.triggers →
      ¬ setting.handedOver after.dirty = true →
      after.shown now field = before.shown now field := by
    intro field property mark trigger missing
    refine (tracked.sameOrMarked field).resolve_right ?_
    rintro ⟨other, same, dirty⟩
    cases mark.symm.trans same
    exact missing (held property trigger dirty)
  by_contra missing
  refine changed ?_
  cases setting with
  | userRoles =>
      refine ⟨(tracked.sameOrMarked .userRoles).resolve_right ?_, nofun⟩
      rintro ⟨_, mark, _⟩
      cases mark
  | permissionsRevision =>
      refine ⟨(tracked.sameOrMarked .permissionsRevision).resolve_right ?_, nofun⟩
      rintro ⟨_, mark, _⟩
      cases mark
  | owner => exact ⟨shown .owner .hasOwner rfl (by decide) missing, nofun⟩
  | prevQueue =>
      exact ⟨shown (.sync .prevQueue) .prevQueue rfl (by decide) missing, fun _ =>
        ⟨shown (.sync .queue) .queue rfl (by decide) missing,
          shown (.sync .currentSource) .currentSource rfl (by decide) missing⟩⟩
  | title => exact ⟨shown (.sync .title) .title rfl (by decide) missing, nofun⟩
  | description => exact ⟨shown (.sync .description) .description rfl (by decide) missing, nofun⟩
  | visibility => exact ⟨shown (.sync .visibility) .visibility rfl (by decide) missing, nofun⟩
  | queueMode => exact ⟨shown (.sync .queueMode) .queueMode rfl (by decide) missing, nofun⟩
  | autoSkipSegmentCategories =>
      exact ⟨shown (.sync .autoSkipSegmentCategories) _ rfl (by decide) missing, nofun⟩
  | grants => exact ⟨shown (.sync .grants) .grants rfl (by decide) missing, nofun⟩
  | restoreQueueBehavior =>
      exact ⟨shown (.sync .restoreQueueBehavior) _ rfl (by decide) missing, nofun⟩
  | enableVoteSkip =>
      exact ⟨shown (.sync .enableVoteSkip) .enableVoteSkip rfl (by decide) missing, nofun⟩
  | bufferGateMode =>
      exact ⟨shown (.sync .bufferGateMode) .bufferGateMode rfl (by decide) missing, nofun⟩
  | danmakuSource =>
      exact ⟨shown (.sync .danmakuSource) .danmakuSource rfl (by decide) missing, nofun⟩

/-- What is handed over stays so while marks stay. -/
theorem PersistentSetting.handedOver_mono {setting : PersistentSetting}
    {dirty more : OrderedSet SyncProp} (grows : ∀ property ∈ dirty, property ∈ more)
    (handed : setting.handedOver dirty = true) : setting.handedOver more = true := by
  obtain ⟨property, trigger, held⟩ := List.any_eq_true.mp handed
  exact List.any_eq_true.mpr ⟨property, trigger, decide_eq_true (grows _ (of_decide_eq_true held))⟩

namespace Room

theorem Tracked.changed {now : Int} {before after : Room} (tracked : Tracked now before after)
    (property : SyncProp)
    (changed : after.syncableState now property ≠ before.syncableState now property) :
    property ∈ after.dirty := by
  obtain ⟨other, mark, held⟩ := (tracked.sameOrMarked (.sync property)).resolve_left changed
  cases mark
  exact held

/-- A tracked step does not change what kind a room is. -/
theorem Tracked.isTemporary {now : Int} {before after : Room} (tracked : Tracked now before after) :
    after.isTemporary = before.isTemporary := by
  refine (tracked.sameOrMarked .isTemporary).resolve_right ?_
  rintro ⟨_, mark, _⟩
  cases mark

/-- A checkpoint changes marks and messages only. A failed one keeps the marks. -/
theorem sync_after (env : Env) (room : Room) : ∃ dirty savePending published,
    (sync env).after room = { room with dirty, savePending, published } ∧
      (room.syncFails env = true → ∀ property ∈ room.dirty, property ∈ dirty) ∧
      ((sync env).outcome room = .ok () → dirty = []) := by
  rcases sync_cases env room with ⟨clean, after, passed⟩ | ⟨_, _, ⟨error, thrown⟩, after⟩ |
    ⟨_, succeeds, _, after⟩
  · exact ⟨room.dirty, room.savePending, room.published, after, fun _ _ held => held, fun _ => clean⟩
  · refine ⟨_, _, _, after, fun _ property held => OrderedSet.mem_addAll.mpr (.inr held), ?_⟩
    intro passed
    rw [thrown] at passed
    cases passed
  · refine ⟨_, _, _, after, ?_, fun _ => rfl⟩
    intro fails
    rw [succeeds] at fails
    cases fails

end Room

namespace RoomAction

variable (env : Env) (action : RoomAction) (room : Room)

/-- The room as a step publishes it, or else as the step finds it. -/
def publishedFrom : Room := (action.checkpoint env room).getD room

/-- The properties a step publishes. -/
def publishes : OrderedSet SyncProp :=
  ((action.checkpoint env room).map fun synced => synced.dirty).getD []

/-- The step is a promotion that returns in a permanent room; it hands over the whole room. -/
def handsOverAll : Prop :=
  ∃ target role context, action = .request (.promote target role) context ∧
    (Room.processRequest env (.promote target role) context).outcome room = .ok () ∧
    room.isTemporary = false

end RoomAction

/-- A room, what a client shows of it and what storage has not been handed. -/
structure WatchedRoom where
  state : RoomState
  /-- What the client shows that was given the whole state and every sync message since. -/
  replica : Room.clientView.Replica
  /-- History: since it was last published, the position has moved other than by the clock. -/
  moved : Prop
  /-- History: the settings that changed since they were last handed to `updateRoom`. -/
  unsent : PersistentSetting → Prop

/-- A step of the room, or a client that is given the whole state. -/
inductive WatchLabel where
  | act (label : RoomLabel)
  | serializeSyncableState

namespace WatchedRoom

/-- A client is given everything. -/
def whole (room : Room) : Room.clientView.Replica := fun property => Room.clientView.view property room

/-- What is watched after a step of the room. -/
def act (label : RoomLabel) (watched : WatchedRoom) : WatchedRoom :=
  let now := label.env.now
  let before := watched.state.room
  let published := label.action.publishedFrom label.env before
  let dirty := label.action.publishes label.env before
  let after := label.action.apply label.env before
  { state := watched.state.next label
    replica := Room.clientView.publish (fun property => property.1 ∈ dirty) published watched.replica
    moved := SyncProp.playbackPosition ∉ dirty ∧ (watched.moved ∨
        published.realPlaybackPosition now ≠ before.realPlaybackPosition now) ∨
      after.realPlaybackPosition now ≠ published.realPlaybackPosition now
    unsent := fun setting => ¬ label.action.handsOverAll label.env before ∧
      (¬ (setting.handedOver dirty = true ∧ label.env.updateRoomSucceeds = true) ∧
          (watched.unsent setting ∨ ¬ setting.Kept before published) ∨
        ¬ setting.Kept published after) }

/-- What is watched after a step. -/
def next (label : WatchLabel) (watched : WatchedRoom) : WatchedRoom :=
  match label with
  | .act label => watched.act label
  | .serializeSyncableState =>
      { watched with replica := whole watched.state.room, moved := False }

/-- Only steps of the room can be refused. -/
def Enabled (watched : WatchedRoom) : WatchLabel → Prop
  | .act label => label.action.Enabled watched.state.room ∧
      label.env.uuid ∉ watched.state.room.rounds
  | .serializeSyncableState => True

/-- A step of the room marks what it changes. -/
def Marks (watched : WatchedRoom) : WatchLabel → Prop
  | .act label => label.action.MarksChanges label.env watched.state.room
  | .serializeSyncableState => True

end WatchedRoom

/-- Every run of a room that is watched from when it was loaded. -/
def watchSystem : TransitionSystem WatchedRoom WatchLabel where
  Initial watched := RoomState.Initial watched.state ∧
    watched.replica = WatchedRoom.whole watched.state.room ∧ ¬ watched.moved ∧
    ∀ setting, ¬ watched.unsent setting
  Step before label after := before.Enabled label ∧ after = before.next label

namespace WatchedRoom

/-- The client, the position and storage are behind only where the room is dirty. -/
structure BehindMarks (watched : WatchedRoom) : Prop where
  replica : Room.clientView.Current watched.replica watched.state.room
  moved : watched.moved → SyncProp.playbackPosition ∈ watched.state.room.dirty
  unsent : watched.state.room.isTemporary = false → ∀ setting, watched.unsent setting →
    setting.handedOver watched.state.room.dirty = true

variable {watched : WatchedRoom} {label : RoomLabel}

/-- A step that marks what it changes and does not checkpoint. -/
theorem BehindMarks.unsynced (behind : watched.BehindMarks)
    (unsynced : label.action.checkpoint label.env watched.state.room = none)
    (tracked : Room.Tracked label.env.now watched.state.room
      (label.action.apply label.env watched.state.room)) : (watched.act label).BehindMarks := by
  have published : label.action.publishedFrom label.env watched.state.room = watched.state.room :=
    congrArg (fun checkpoint : Option Room => checkpoint.getD watched.state.room) unsynced
  have publishes : label.action.publishes label.env watched.state.room = [] :=
    congrArg (fun checkpoint : Option Room =>
      (checkpoint.map fun synced : Room => synced.dirty).getD []) unsynced
  refine ⟨fun property => ?_, ?_, ?_⟩
  · change (if property.1 ∈ label.action.publishes label.env watched.state.room then _ else
      watched.replica property) = _ ∨ _
    rw [publishes, if_neg List.not_mem_nil]
    exact behind.replica.step tracked.clientView property
  · rintro (⟨_, moved | moved⟩ | moved)
    · exact Room.dirty_of_tracked tracked (behind.moved moved)
    · rw [published] at moved
      exact absurd rfl moved
    · rw [published] at moved
      exact tracked.changed .playbackPosition moved
  · rintro permanent setting ⟨_, ⟨_, unsent | changed⟩ | changed⟩
    · refine PersistentSetting.handedOver_mono (fun _ => Room.dirty_of_tracked tracked) ?_
      exact behind.unsent (tracked.isTemporary.symm.trans permanent) setting unsent
    · rw [published] at changed
      exact absurd ⟨rfl, fun _ => ⟨rfl, rfl⟩⟩ changed
    · rw [published] at changed
      exact tracked.handedOver changed

/-- A step that checkpoints the room on its way, and marks what it changes before and after. -/
theorem BehindMarks.synced (behind : watched.BehindMarks) {synced : Room}
    (checkpoint : label.action.checkpoint label.env watched.state.room = some synced)
    (before : Room.Tracked label.env.now watched.state.room synced)
    (after : Room.Tracked label.env.now ((Room.sync label.env).after synced)
      (label.action.apply label.env watched.state.room)) : (watched.act label).BehindMarks := by
  have published : label.action.publishedFrom label.env watched.state.room = synced :=
    congrArg (fun checkpoint : Option Room => checkpoint.getD watched.state.room) checkpoint
  have publishes : label.action.publishes label.env watched.state.room = synced.dirty :=
    congrArg (fun checkpoint : Option Room =>
      (checkpoint.map fun synced : Room => synced.dirty).getD []) checkpoint
  obtain ⟨dirty, savePending, messages, left, retained, _⟩ := Room.sync_after label.env synced
  rw [left] at after
  refine ⟨?_, ?_, ?_⟩
  · have told : ∀ property, Room.clientView.publish
        (fun property => property.1 ∈ label.action.publishes label.env watched.state.room)
        (label.action.publishedFrom label.env watched.state.room) watched.replica property =
          Room.clientView.view property synced := by
      rw [publishes, published]
      exact (behind.replica.step before.clientView).publish _ fun _ held => held
    have current : Room.clientView.Current (watched.act label).replica
        { synced with dirty, savePending, published := messages } := by
      intro property
      refine .inl ((told property).trans ?_)
      obtain ⟨property, _⟩ := property
      cases property <;> rfl
    exact current.step after.clientView
  · rintro (⟨unpublished, moved | moved⟩ | moved)
    · rw [publishes] at unpublished
      exact absurd (Room.dirty_of_tracked before (behind.moved moved)) unpublished
    · rw [publishes] at unpublished
      rw [published] at moved
      exact absurd (before.changed .playbackPosition moved) unpublished
    · rw [published] at moved
      exact after.changed .playbackPosition moved
  · rintro permanent setting ⟨_, ⟨failed, unsent⟩ | changed⟩
    · rw [publishes] at failed
      rw [published] at unsent
      have permanent : synced.isTemporary = false := after.isTemporary.symm.trans permanent
      have handed : setting.handedOver synced.dirty = true := by
        rcases unsent with unsent | changed
        · refine PersistentSetting.handedOver_mono (fun _ => Room.dirty_of_tracked before) ?_
          exact behind.unsent (before.isTemporary.symm.trans permanent) setting unsent
        · exact before.handedOver changed
      have fails : synced.syncFails label.env = true := by
        unfold Room.syncFails
        rw [permanent, (Room.handedOver_iff synced.dirty).mp ⟨setting, handed⟩,
          Bool.eq_false_iff.mpr fun succeeds => failed ⟨handed, succeeds⟩]
        rfl
      refine PersistentSetting.handedOver_mono (fun property held => ?_) handed
      exact Room.dirty_of_tracked after (retained fails property held)
    · rw [published] at changed
      exact after.handedOver changed

/-- A promotion changes the role sets only, and hands over the whole permanent room. -/
theorem BehindMarks.promoted (behind : watched.BehindMarks) {target : ClientId} {role : Role}
    {context : RoomRequestContext} (promotes : label.action = .request (.promote target role) context) :
    (watched.act label).BehindMarks := by
  obtain ⟨env, action⟩ := label
  subst promotes
  have asked : (RoomAction.request (.promote target role) context).apply env watched.state.room =
      (Room.promoteUser target role context).after watched.state.room := rfl
  rcases Room.promoteUser_after context watched.state.room target role with
    after | ⟨passed, userRoles, published, after⟩
  · refine behind.unsynced rfl ?_
    change Room.Tracked env.now _ ((RoomAction.request _ context).apply env _)
    rw [asked, after]
    exact .refl _
  · rw [after] at asked
    have state : (watched.act ⟨env, .request (.promote target role) context⟩).state.room =
        { watched.state.room with userRoles, published } := asked
    refine ⟨?_, ?_, ?_⟩
    · rw [state]
      intro property
      refine (behind.replica property).imp (fun same => same.trans ?_) id
      obtain ⟨property, _⟩ := property
      cases property <;> rfl
    · rw [state]
      rintro (⟨_, moved | moved⟩ | moved)
      · exact behind.moved moved
      · exact absurd rfl moved
      · rw [asked] at moved
        exact absurd rfl moved
    · rw [state]
      rintro permanent setting ⟨kept, _⟩
      exact absurd ⟨target, role, context, rfl, passed, permanent⟩ kept

/-- What is behind is dirty, initially and after every step that marks what it changes. -/
theorem behindMarks_inductive :
    TransitionSystem.Inductive (watchSystem.restrict Marks) BehindMarks := by
  refine ⟨?_, ?_⟩
  · rintro watched ⟨_, replica, still, sent⟩
    refine ⟨?_, fun moved => absurd moved still, fun _ setting unsent =>
      absurd unsent (sent setting)⟩
    rw [replica]
    exact .all _
  · rintro before label _ behind ⟨marks, _, rfl⟩
    cases label with
    | serializeSyncableState => exact ⟨.all _, nofun, behind.unsent⟩
    | act label =>
        by_cases promotes : ∃ target role context,
            label.action = .request (.promote target role) context
        · obtain ⟨target, role, context, promotes⟩ := promotes
          exact behind.promoted promotes
        · have tracked := label.action.apply_tracked label.env before.state.room marks
            fun target role context same => promotes ⟨target, role, context, same⟩
          cases checkpoint : label.action.checkpoint label.env before.state.room with
          | none =>
              rw [checkpoint] at tracked
              exact behind.unsynced checkpoint tracked
          | some synced =>
              rw [checkpoint] at tracked
              exact behind.synced checkpoint tracked.1 tracked.2

/-- The step is a checkpoint, and it succeeds. -/
def Synced (watched : WatchedRoom) : WatchLabel → Prop
  | .act label => label.action ∈ [RoomAction.sync, .throttledSync] ∧
      ∀ synced, label.action.checkpoint label.env watched.state.room = some synced →
        (Room.sync label.env).outcome synced = .ok ()
  | .serializeSyncableState => False

/-- The client shows the room as it is, the clock's motion apart, and storage has been handed
every setting that changed. -/
structure UpToDate (watched : WatchedRoom) : Prop where
  replica : ∀ property, watched.replica property = Room.clientView.view property watched.state.room
  still : ¬ watched.moved
  sent : watched.state.room.isTemporary = false → ∀ setting, ¬ watched.unsent setting

theorem BehindMarks.upToDate (behind : watched.BehindMarks)
    (clean : watched.state.room.dirty = []) : watched.UpToDate := by
  have unmarked : ∀ property, property ∉ watched.state.room.dirty := by
    intro property
    rw [clean]
    exact List.not_mem_nil
  refine ⟨fun property => behind.replica.right (unmarked property.1),
    fun moved => unmarked _ (behind.moved moved), fun permanent setting unsent => ?_⟩
  obtain ⟨property, _, held⟩ := List.any_eq_true.mp (behind.unsent permanent setting unsent)
  exact unmarked property (of_decide_eq_true held)

/-- A step leaves dirty what it changes, or has published it. -/
def ShowsChanges (watched : WatchedRoom) : WatchLabel → Prop
  | .act label =>
      let before := watched.state.room
      let after := label.action.apply label.env before
      ∀ property, after.syncableState label.env.now property ≠
          before.syncableState label.env.now property →
        property ∈ after.dirty ∨ ∃ synced, label.action.checkpoint label.env before = some synced ∧
          property ∈ synced.dirty ∧ after.syncableState label.env.now property =
            synced.syncableState label.env.now property
  | .serializeSyncableState => True

theorem showsChanges_of_marks {watched : WatchedRoom} {label : WatchLabel}
    (marks : watched.Marks label) : watched.ShowsChanges label := by
  cases label with
  | serializeSyncableState => trivial
  | act label =>
      intro property changed
      by_cases promotes : ∃ target role context,
          label.action = .request (.promote target role) context
      · obtain ⟨env, action⟩ := label
        obtain ⟨target, role, context, rfl⟩ := promotes
        refine absurd ?_ changed
        change ((Room.promoteUser target role context).after watched.state.room).syncableState _ _ = _
        rcases Room.promoteUser_after context watched.state.room target role with
          after | ⟨_, userRoles, published, after⟩
        · rw [after]
        · rw [after]
          cases property <;> rfl
      · have tracked := label.action.apply_tracked label.env watched.state.room marks
          fun target role context same => promotes ⟨target, role, context, same⟩
        cases checkpoint : label.action.checkpoint label.env watched.state.room with
        | none =>
            rw [checkpoint] at tracked
            exact .inl (tracked.changed property changed)
        | some synced =>
            rw [checkpoint] at tracked
            obtain ⟨before, after⟩ := tracked
            obtain ⟨dirty, savePending, published, left, _⟩ := Room.sync_after label.env synced
            rw [left] at after
            have same : ({ synced with dirty, savePending, published } : Room).syncableState
                label.env.now property = synced.syncableState label.env.now property := by
              cases property <;> rfl
            by_cases settled : (label.action.apply label.env watched.state.room).syncableState
                label.env.now property = synced.syncableState label.env.now property
            · refine .inr ⟨synced, rfl, before.changed property ?_, settled⟩
              rw [← settled]
              exact changed
            · exact .inl (after.changed property (same ▸ settled))

/-- A checkpoint that succeeds leaves nothing dirty. -/
theorem clean_of_synced {watched : WatchedRoom} {label : WatchLabel}
    (synced : watched.Synced label) : (watched.next label).state.room.dirty = [] := by
  cases label with
  | serializeSyncableState => cases synced
  | act label =>
      obtain ⟨env, action⟩ := label
      obtain ⟨which, passed⟩ := synced
      have clean : ∀ room : Room, (Room.sync env).outcome room = .ok () →
          ((Room.sync env).after room).dirty = [] := by
        intro room passed
        obtain ⟨dirty, _, _, left, _, emptied⟩ := Room.sync_after env room
        rw [left]
        exact emptied passed
      rcases List.mem_pair.mp which with rfl | rfl
      · exact clean _ (passed _ rfl)
      · exact clean _ (passed _ rfl)

end WatchedRoom

namespace Sample

/-- A new permanent room, watched by a client that has just joined. -/
def newWatched : WatchedRoom :=
  ⟨⟨Room.new {} 0, 0⟩, WatchedRoom.whole (Room.new {} 0), False, fun _ => False⟩

/-- The owner applies settings. -/
def applyAsOwner (settings : RoomSettings) : WatchLabel :=
  .act ⟨{ now := 1 }, .request (.applySettings settings) { role := .owner }⟩

/-- A checkpoint whose database write succeeds. -/
def checkpointed : WatchLabel := .act ⟨{ now := 2 }, .sync⟩

theorem newWatched_initial : watchSystem.Initial newWatched :=
  ⟨.created {} 0, rfl, id, fun _ => id⟩

end Sample

namespace WatchedRoom

open Sample

end WatchedRoom

end OpenTogetherTube
