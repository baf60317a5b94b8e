import OpenTogetherTube.Room.Effects
import OpenTogetherTube.Room.Writes

/-!
# Every action of a room is a sequence of effects

One lemma a handler. The interesting part is which handlers may set playback going: the
four requests `commands` names, and `update` through the dequeue it makes at
`dequeueEntry`.
-/

namespace OpenTogetherTube

open Lib

/-- The scope of a step in an environment. -/
abbrev Env.scope (env : Env) (commanded frozen : Prop) (miscounts : Prop := True) : Scope :=
  ⟨env.now, env.uuid, commanded, frozen, miscounts⟩

namespace Playback

/-- What `releaseBufferGate` leaves: no gate, and everything else unless it played. -/
theorem releaseBufferGate_frame (p : Playback) (timedOut : Bool) (audience : Audience)
    (now : Int) :
    (p.releaseBufferGate timedOut audience now).bufferGate = none ∧
      (p.releaseBufferGate timedOut audience now).currentSource = p.currentSource ∧
      (p.releaseBufferGate timedOut audience now).rounds = p.rounds ∧
      (p.releaseBufferGate timedOut audience now).temporarySpeed = p.temporarySpeed ∧
      ((p.releaseBufferGate timedOut audience now).restoredFromStorage = true →
        p.restoredFromStorage = true ∧
          (p.releaseBufferGate timedOut audience now).isPlaying = p.isPlaying) := by
  unfold releaseBufferGate
  cases gate : p.bufferGate with
  | none => exact ⟨gate, rfl, rfl, rfl, fun restored => ⟨restored, rfl⟩⟩
  | some hold =>
      dsimp only
      split
      · simp [HeldStart.dropped]
      · simp [GateState.released]

/-- Without a gate there is nothing to release. -/
theorem releaseBufferGate_of_free (p : Playback) (timedOut : Bool) (audience : Audience)
    (now : Int) (free : p.bufferGate = none) : p.releaseBufferGate timedOut audience now = p := by
  simp [releaseBufferGate, free]

theorem startItem_temporarySpeed (p : Playback) (id : String) (audience : Audience) (now : Int)
    (plain : p.temporarySpeed = none) :
    (p.startItem id audience now).temporarySpeed = none := by
  have held : ((p.holdClock now).prepareEmptyRoomPlayback id audience now).temporarySpeed = none := by
    have stopped : (p.holdClock now).temporarySpeed = none := by simp [holdClock]
    unfold prepareEmptyRoomPlayback
    split
    · exact stopped
    · split
      · exact stopped
      · exact stopped
  unfold startItem
  split
  · exact plain
  · split
    · exact held
    · split
      · exact plain
      · simp [plain]

/-- A start leaves a clock that has not run since its anchor as still as it was. -/
theorem startItem_still (p : Playback) (id : String) (audience : Audience) (now : Int)
    (still : p.Still now) : (p.startItem id audience now).Still now := by
  unfold startItem
  split
  · nofun
  · split
    · unfold holdPlaybackForPreparation
      rcases prepareEmptyRoomPlayback_cases (p.holdClock now) now id audience with
        same | ⟨source, leader, others, _, _, _, _, _, _, _, same⟩
      · rw [same]
        simp [Still]
      · rw [same]
        nofun
    · split
      · exact still
      · rename_i paused
        simp [Still, RoomClock.start, paused]

end Playback

namespace Room

section Projections

variable (room : Room)

@[simp] theorem onPlayback_toPlayback (update : Playback → Playback) :
    (room.onPlayback update).toPlayback = update room.toPlayback := rfl

@[simp] theorem onPlayback_toAudience (update : Playback → Playback) :
    (room.onPlayback update).toAudience = room.toAudience := rfl

@[simp] theorem markDirty_toPlayback (property : SyncProp) :
    (room.markDirty property).toPlayback = room.toPlayback.markDirty property := rfl

@[simp] theorem assignQueue_toPlayback (items : List QueueItem) :
    (room.assignQueue items).toPlayback = room.toPlayback.markDirty .queue := rfl

theorem assignQueue_currentSource (items : List QueueItem) :
    (room.assignQueue items).currentSource = room.currentSource := rfl

@[simp] theorem assignVideoSegments_toPlayback (segments : List Segment) :
    (room.assignVideoSegments segments).toPlayback = room.toPlayback.markDirty .videoSegments := rfl

@[simp] theorem publish_toPlayback (message : ServerMessage) :
    (room.publish message).toPlayback = room.toPlayback := rfl

end Projections

/-- Pending work apart, the playback part is the same. -/
def SamePlayback (before after : Room) : Prop :=
  ∃ pending, after.toPlayback = { before.toPlayback with toPending := pending }

instance : IsPreorder Room SamePlayback where
  refl room := ⟨room.toPending, rfl⟩
  trans _ _ _ first second := by
    obtain ⟨_, same⟩ := first
    obtain ⟨pending, next⟩ := second
    rw [same] at next
    exact ⟨pending, next⟩

/-- The playback part went through a sequence of effects. -/
def Related (scope : Scope) (before after : Room) : Prop :=
  Effects scope before.toPlayback after.toPlayback

namespace Related

variable {scope : Scope}

instance : IsPreorder Room (Related scope) where
  refl room := Effects.refl room.toPlayback
  trans _ _ _ first second := Effects.trans first second

theorem refl (room : Room) : Related scope room room := Effects.refl room.toPlayback

theorem trans {first second third : Room} (head : Related scope first second)
    (tail : Related scope second third) : Related scope first third :=
  Effects.trans head tail

/-- A change outside the playback part. -/
theorem of_eq {before after : Room} (same : after.toPlayback = before.toPlayback) :
    Related scope before after := by
  unfold Related
  rw [same]
  exact .refl _

/-- A change of pending work only. -/
theorem of_pending {before after : Room} (pending : Pending)
    (same : after.toPlayback = { before.toPlayback with toPending := pending }) :
    Related scope before after := by
  unfold Related
  rw [same]
  exact .single (.pending _ pending)

/-- The same, for a change given as such. -/
theorem of_same {before after : Room} (same : SamePlayback before after) :
    Related scope before after := by
  obtain ⟨pending, equal⟩ := same
  exact of_pending pending equal

/-- A playback method that is a sequence of effects. -/
theorem onPlayback {room : Room} {update : Playback → Playback}
    (effects : Effects scope room.toPlayback (update room.toPlayback)) :
    Related scope room (room.onPlayback update) :=
  effects

theorem markDirty (property : SyncProp) (room : Room) :
    Related scope room (room.markDirty property) :=
  of_pending _ rfl

theorem assignQueue (items : List QueueItem) (room : Room) :
    Related scope room (room.assignQueue items) :=
  of_pending _ rfl

theorem assignVideoSegments (segments : List Segment) (room : Room) :
    Related scope room (room.assignVideoSegments segments) :=
  of_pending _ rfl

end Related

section Dequeue

variable {C F M : Prop} (env : Env) (room : Room)

/-- `dequeueNext` hands an item over rather than restarting or clearing the current one. -/
def handsOver (room : Room) : Bool :=
  match room.currentSource, room.queueMode with
  | some _, .dj => false
  | some _, .loop => true
  | _, _ => !room.queue.isEmpty

/-- Making the first item current: a plain speed, no gate, the rest as it was. -/
theorem takeNext_frame (item : QueueItem) (rest : List QueueItem) :
    (room.takeNext env.now item rest).isPlaying = room.isPlaying ∧
      (room.takeNext env.now item rest).temporarySpeed = none ∧
      (room.takeNext env.now item rest).rounds = room.rounds ∧
      (room.takeNext env.now item rest).bufferGate = none ∧
      (room.takeNext env.now item rest).restoredFromStorage = room.restoredFromStorage := by
  unfold takeNext
  dsimp only
  split
  · simp [HeldStart.dropped, GateState.sourceSet]
  · simp [HeldStart.dropped, GateState.sourceSet]

/-- Counting changes nothing but the count. -/
@[simp] theorem countSource_frame (now : Int) :
    (room.countSource now).queue = room.queue ∧
      (room.countSource now).queueMode = room.queueMode ∧
      (room.countSource now).toRoomClock = room.toRoomClock ∧
      (room.countSource now).toHeldStart = room.toHeldStart ∧
      (room.countSource now).toGateState = room.toGateState ∧
      (room.countSource now).currentSource = room.currentSource ∧
      (room.countSource now).restoredFromStorage = room.restoredFromStorage := by
  unfold countSource
  split <;> exact ⟨rfl, rfl, rfl, rfl, rfl, rfl, rfl⟩

theorem countSource_eq (now : Int) :
    ∃ watched, room.countSource now = { room with secondsWatched := watched } := by
  unfold countSource
  split <;> exact ⟨_, rfl⟩

/-- Leaving the current item, if there is one, counts what was played, and once. -/
def CountsSource (now : Int) (room : Room) : Prop :=
  room.currentSource.isSome = true → room.toPlayback.CountsOnce now

theorem takeNext_related (scope : Scope) (item : QueueItem) (rest : List QueueItem)
    (counts : room.CountsSource scope.now ∨ scope.miscounts) :
    Related scope room ((room.countSource scope.now).takeNext scope.now item rest) := by
  have taken : Related scope room (((room.countSource scope.now).assignQueue rest).onPlayback
      (Playback.takeSource item (item.startAt.getD 0) scope.now)) := by
    refine (Related.assignQueue rest room).trans ?_
    unfold countSource
    split
    · rename_i present
      have counts : ((room.assignQueue rest).toPlayback).CountsOnce scope.now ∨
          scope.miscounts := counts.imp_left fun counts => counts present
      exact Effects.single (.sourceLeft _ item (item.startAt.getD 0) counts)
    · exact .onPlayback (.single (.sourceTaken _ item (item.startAt.getD 0)))
  unfold takeNext
  dsimp only
  refine taken.trans ?_
  split
  · exact .of_pending _ rfl
  · exact (Related.assignVideoSegments [] _).trans (.of_pending _ rfl)

/-- The first item of the queue is made current and set going. -/
theorem playNext_related (item : QueueItem) (rest : List QueueItem)
    (fresh : env.uuid ∉ room.rounds) (commanded : room.restoredFromStorage = false → C)
    (frozen : room.restoredFromStorage = true → room.isPlaying = true → F)
    (counts : room.CountsSource env.now ∨ M) :
    Related (env.scope C F M) room ((room.countSource env.now).playNext env item rest) := by
  obtain ⟨playing, _, rounds, free, restored⟩ :=
    takeNext_frame env (room.countSource env.now) item rest
  simp only [countSource_frame] at playing rounds restored
  refine (takeNext_related room (env.scope C F M) item rest counts).trans (.onPlayback ?_)
  refine @Playback.startItem_effects (env.scope C F M) _ _ free ?_ ?_ ?_
  · rw [rounds]
    exact fresh
  · rw [restored]
    exact commanded
  · rw [restored, playing]
    exact frozen

theorem refreshSegments_toPlayback :
    ∃ pending, (room.refreshSegments env).toPlayback =
      { room.toPlayback with toPending := pending } := by
  unfold refreshSegments
  dsimp only
  split <;> split <;> exact ⟨_, rfl⟩

/-- The move to the next item. With nothing queued it clears the current item, which only
a command may do. -/
theorem replaceSource_related (fresh : env.uuid ∉ room.rounds)
    (commanded : C ∨ room.restoredFromStorage = true ∧ room.currentSource = none)
    (frozen : room.queue ≠ [] → room.restoredFromStorage = true → room.isPlaying = true → F)
    (counts : room.CountsSource env.now ∨ M) :
    Related (env.scope C F M) room ((room.countSource env.now).replaceSource env) := by
  unfold replaceSource
  simp only [countSource_frame]
  split
  · rename_i item rest queued
    refine playNext_related env room item rest fresh ?_ (frozen (by simp [queued])) counts
    intro created
    rcases commanded with cause | ⟨restored, _⟩
    · exact cause
    · rw [restored] at created
      cases created
  · split
    · rename_i present
      rcases commanded with cause | ⟨_, idle⟩
      · unfold countSource
        rw [if_pos present]
        have counts : room.toPlayback.CountsOnce env.now ∨ M :=
          counts.imp_left fun counts => counts present
        exact @Effects.single (env.scope C F M) _ _ (.sourceEnded _ cause counts)
      · rw [idle] at present
        cases present
    · rename_i idle
      unfold countSource
      rw [if_neg idle]
      exact .refl room

theorem clearSource_currentSource (p : Playback) (now : Int) :
    (p.clearSource now).currentSource = none := by
  unfold Playback.clearSource
  simp

theorem replaceSource_plain :
    (room.replaceSource env).temporarySpeed = none ∨
      (room.replaceSource env).currentSource = none := by
  unfold replaceSource
  split
  · rename_i item rest _
    exact Or.inl (Playback.startItem_temporarySpeed _ _ _ _
      (takeNext_frame env room item rest).2.1)
  · split
    · exact Or.inr (clearSource_currentSource _ _)
    · rename_i idle
      exact Or.inr (by simpa using idle)

/-- The move leaves a clock that has not run since its anchor. -/
theorem replaceSource_still (moves : room.currentSource.isSome = true ∨ room.queue ≠ []) :
    (room.replaceSource env).Still env.now := by
  unfold replaceSource
  split
  · rename_i item rest _
    refine Playback.startItem_still _ _ _ _ ?_
    unfold takeNext
    dsimp only
    split <;> simp [Playback.Still]
  · rename_i empty
    have present : room.currentSource.isSome = true := moves.resolve_right (by simp [empty])
    rw [if_pos present]
    change (Playback.clearSource env.now room.toPlayback).Still env.now
    unfold Playback.clearSource Playback.Still
    simp [RoomClock.restoreSpeed]
    split <;> simp

/-- The move to the next item, after which the speed is reset before the clock has run. -/
theorem advanceQueue_related (fresh : env.uuid ∉ room.rounds)
    (commanded : C ∨ room.restoredFromStorage = true ∧ room.currentSource = none)
    (frozen : room.queue ≠ [] → room.restoredFromStorage = true → room.isPlaying = true → F)
    (moves : room.currentSource.isSome = true ∨ room.queue ≠ [])
    (counts : room.CountsSource env.now ∨ M) :
    Related (env.scope C F M) room ((room.countSource env.now).advanceQueue env) := by
  obtain ⟨pending, same⟩ :=
    refreshSegments_toPlayback env ((room.countSource env.now).replaceSource env)
  have still := replaceSource_still env (room.countSource env.now) (by simpa using moves)
  refine (replaceSource_related env room fresh commanded frozen counts).trans
    ((Related.of_pending pending same).trans (.onPlayback (.single (.speedReset _ ?_ ?_))))
  · rw [same]
    exact replaceSource_plain env _
  · rw [same]
    exact Or.inl still

/-- What `dequeueNext` does before it counts keeps the queue, the source and the rounds; a
room that is still marked as restored kept playing or stayed paused. -/
theorem clearSkipVotes_frame (now : Int) :
    ((room.releaseBufferGate false now).clearSkipVotes).queue = room.queue ∧
      ((room.releaseBufferGate false now).clearSkipVotes).queueMode = room.queueMode ∧
      ((room.releaseBufferGate false now).clearSkipVotes).currentSource = room.currentSource ∧
      ((room.releaseBufferGate false now).clearSkipVotes).rounds = room.rounds ∧
      (((room.releaseBufferGate false now).clearSkipVotes).restoredFromStorage = true →
        room.restoredFromStorage = true ∧
          ((room.releaseBufferGate false now).clearSkipVotes).isPlaying = room.isPlaying) := by
  obtain ⟨_, source, rounds, _, restored⟩ :=
    Playback.releaseBufferGate_frame room.toPlayback false room.toAudience now
  unfold clearSkipVotes
  split
  · exact ⟨rfl, rfl, source, rounds, restored⟩
  · exact ⟨rfl, rfl, source, rounds, restored⟩

/-- Leaving the current item keeps the queue, the source and the rounds; a room that is
still marked as restored kept playing or stayed paused. -/
theorem leaveCurrent_frame (now : Int) :
    (room.leaveCurrent now).queue = room.queue ∧
      (room.leaveCurrent now).queueMode = room.queueMode ∧
      (room.leaveCurrent now).currentSource = room.currentSource ∧
      (room.leaveCurrent now).rounds = room.rounds ∧
      ((room.leaveCurrent now).restoredFromStorage = true →
        room.restoredFromStorage = true ∧ (room.leaveCurrent now).isPlaying = room.isPlaying) := by
  unfold leaveCurrent
  simp only [countSource_frame]
  exact clearSkipVotes_frame room now

/-- Without a gate the mark of a restored room survives. -/
theorem leaveCurrent_restored (now : Int) (free : room.bufferGate = none) :
    (room.leaveCurrent now).restoredFromStorage = room.restoredFromStorage := by
  have same := Playback.releaseBufferGate_of_free room.toPlayback false room.toAudience now free
  unfold leaveCurrent clearSkipVotes releaseBufferGate
  simp only [countSource_frame]
  split
  · simp [same]
  · simp [same]

theorem clearSkipVotes_related (scope : Scope) :
    Related scope room ((room.releaseBufferGate false scope.now).clearSkipVotes) := by
  have opened : Related scope room (room.releaseBufferGate false scope.now) :=
    .onPlayback (.single (.released _ false _ (by simp)))
  refine opened.trans ?_
  unfold clearSkipVotes
  split
  · exact .of_pending _ rfl
  · exact .refl _

theorem dequeueNext_related (fresh : env.uuid ∉ room.rounds)
    (commanded : C ∨ room.restoredFromStorage = true ∧ room.currentSource = none ∧
      room.bufferGate = none)
    (frozen : room.handsOver = true → room.restoredFromStorage = true →
      room.isPlaying = true → F)
    (moves : room.currentSource.isSome = true ∨ room.queue ≠ [])
    (counts : (room.releaseBufferGate false env.now).CountsSource env.now ∨ M) :
    Related (env.scope C F M) room (room.dequeueNext env) := by
  have opened := clearSkipVotes_related room (env.scope C F M)
  obtain ⟨queue, mode, source, rounds, restored⟩ := clearSkipVotes_frame room env.now
  have commanded : C ∨
      ((room.releaseBufferGate false env.now).clearSkipVotes).restoredFromStorage = true ∧
        ((room.releaseBufferGate false env.now).clearSkipVotes).currentSource = none := by
    rcases commanded with cause | ⟨marked, idle, free⟩
    · exact Or.inl cause
    · have kept := leaveCurrent_restored room env.now free
      simp only [leaveCurrent, countSource_frame] at kept
      rw [kept, source]
      exact Or.inr ⟨marked, idle⟩
  have frozen : room.handsOver = true →
      ((room.releaseBufferGate false env.now).clearSkipVotes).restoredFromStorage = true →
      ((room.releaseBufferGate false env.now).clearSkipVotes).isPlaying = true → F := by
    intro hands marked playing
    obtain ⟨before, same⟩ := restored marked
    rw [same] at playing
    exact frozen hands before playing
  have counts : ((room.releaseBufferGate false env.now).clearSkipVotes).CountsSource env.now ∨
      M := by
    refine counts.imp_left fun counts => ?_
    unfold clearSkipVotes
    split <;> exact counts
  unfold dequeueNext leaveCurrent
  generalize (room.releaseBufferGate false env.now).clearSkipVotes = entry at *
  simp only [countSource_frame]
  split
  · rename_i current present _
    rcases commanded with cause | ⟨_, idle⟩
    · have present : entry.currentSource.isSome = true := by rw [present]; rfl
      have counts : entry.toPlayback.CountsOnce env.now ∨ M :=
        counts.imp_left fun counts => counts present
      refine opened.trans ?_
      unfold countSource
      rw [if_pos present]
      exact @Playback.restartSource_effects (env.scope C F M) _ current cause counts
    · rw [idle] at present
      cases present
  · rename_i current present looping
    have requeued := opened.trans (Related.assignQueue
      (entry.queue ++ [current.clearQueueItemTrim]) entry)
    have advanced := requeued.trans (advanceQueue_related env _
      (by rw [← rounds] at fresh; exact fresh) commanded (fun _ => frozen ?_)
      (Or.inl (by rw [assignQueue_currentSource, present]; rfl)) counts)
    · have same : ((entry.assignQueue (entry.queue ++ [current.clearQueueItemTrim])).countSource
          env.now) = (entry.countSource env.now).assignQueue
            (entry.queue ++ [current.clearQueueItemTrim]) := by
        unfold countSource
        rw [assignQueue_currentSource]
        split <;> rfl
      rw [same] at advanced
      exact advanced
    · rw [source] at present
      rw [mode] at looping
      simp [handsOver, present, looping]
  · rename_i noRestart noLoop
    refine opened.trans (advanceQueue_related env entry ?_ commanded ?_ ?_ counts)
    · rw [rounds]
      exact fresh
    · intro queued
      refine frozen ?_
      rw [queue] at queued
      unfold handsOver
      split
      · rename_i current present dj
        exact absurd (mode.trans dj) (noRestart current (source.trans present))
      · rfl
      · simpa using queued
    · rw [source, queue]
      exact moves

end Dequeue

section Handlers

open Handler

variable (room : Room)

theorem publishRoomEvent_toPlayback (request : RoomRequest) (context : RoomRequestContext)
    (additional : RoomEventContext) (knownUser : Option RoomUserInfo) :
    (room.publishRoomEvent request context additional knownUser).toPlayback = room.toPlayback := by
  unfold publishRoomEvent
  split
  · rfl
  · split <;> rfl

theorem samePlayback_writes : KeepsWrites SamePlayback where
  assignQueue _ _ := ⟨_, rfl⟩
  publish _ _ := ⟨_, rfl⟩
  publishRoomEvent room _ _ _ _ := ⟨room.toPending, publishRoomEvent_toPlayback room _ _ _ _⟩
  assignPendingLeaveEvents _ _ := ⟨_, rfl⟩
  assignPrevQueue room _ := by
    unfold Room.assignPrevQueue
    split
    · exact refl room
    · exact ⟨_, rfl⟩
  assignVotes _ _ := ⟨_, rfl⟩
  assignVotesToSkip _ _ := ⟨_, rfl⟩
  forgetEvents _ _ _ := ⟨_, rfl⟩

theorem related_writes {scope : Scope} : KeepsWrites (Related scope) :=
  samePlayback_writes.mono .of_same

/-- `sync` writes pending work only. -/
theorem sync_keeps (env : Env) : (sync env).Keeps SamePlayback room :=
  keeps_sync room (fun _ _ => ⟨_, rfl⟩) fun _ _ _ => ⟨_, rfl⟩

theorem flushSave_same (env : Env) : SamePlayback room (room.flushSave env) := by
  unfold flushSave saveStateToRedis
  split
  · split <;> exact ⟨_, rfl⟩
  · exact ⟨_, rfl⟩

end Handlers

section Settings

variable {Part Value : Type} (project : Room → Part) (room : Room) (value : Option Value)
  (assign : Value → Room → Room)

/-- A setting that reaches a part of the room through a function of that part. -/
theorem applySetting_project (write : Value → Part → Part)
    (written : ∀ value room, project (assign value room) = write value (project room)) :
    project (room.applySetting value assign) =
      (value.map fun value => write value (project room)).getD (project room) := by
  cases value with
  | none => rfl
  | some value => exact written value room

/-- A setting outside a part of the room. -/
theorem applySetting_frame (frame : ∀ value room, project (assign value room) = project room) :
    project (room.applySetting value assign) = project room := by
  cases value with
  | none => rfl
  | some value => exact frame value room

/-- The grants of a settings request, outside a part of the room. -/
theorem writeGrants_frame (frame : ∀ room entry, project (writeGrant room entry) = project room)
    (masks : OrderedMap Role Nat) : project (masks.foldl writeGrant room) = project room := by
  induction masks generalizing room with
  | nil => rfl
  | cons entry rest ih =>
      exact (ih (writeGrant room entry)).trans (frame room entry)

/-- The saved queue, outside a part of the room. -/
theorem assignPrevQueue_frame (items : Option (List QueueItem))
    (frame : ∀ (room : Room) prevQueue toPending,
      project { room with prevQueue, toPending } = project room) :
    project (room.assignPrevQueue items) = project room := by
  unfold assignPrevQueue
  split
  · rfl
  · exact frame room items _

/-- A new room, outside what the saved queue and the grants reach. -/
theorem new_frame (options : RoomOptions) (now : Int)
    (frame : ∀ (room : Room) prevQueue toPending queue restoredFromStorage grants permissionsRevision,
      project { room with
        prevQueue, toPending, queue, restoredFromStorage, grants, permissionsRevision } =
          project room) :
    ∃ room : Room, project room = project
        { (({ keepAlivePing := now } : Room).assignOwner none).assignOptions options now with
          resumeOnNextJoin := options.resumeOnNextJoin } ∧
      Room.new options now = { room with
        userRoles := options.userRoles.getD room.userRoles
        playbackStart := options.playbackStart.or room.playbackStart } := by
  have saved : ∀ (room : Room) items, project (room.assignPrevQueue items) = project room :=
    fun room items => assignPrevQueue_frame project room items fun room prevQueue toPending =>
      frame room prevQueue toPending room.queue room.restoredFromStorage room.grants
        room.permissionsRevision
  have granted : ∀ room : Room, project (room.assignGrants options) = project room := by
    intro room
    unfold assignGrants
    dsimp only
    split <;> exact frame room room.prevQueue room.toPending room.queue room.restoredFromStorage _ _
  have reloaded : ∀ room : Room, project room.reloadPrevQueue = project room := by
    intro room
    unfold reloadPrevQueue
    split
    · split
      · exact (frame _ _ _ _ _ _ _).trans ((saved _ none).trans (frame room room.prevQueue _ _
          room.restoredFromStorage room.grants room.permissionsRevision))
      · rfl
    · rfl
  refine ⟨_, ((granted _).trans (reloaded _)).trans ?_, rfl⟩
  split
  · exact saved _ none
  · rfl

end Settings

end Room

end OpenTogetherTube
