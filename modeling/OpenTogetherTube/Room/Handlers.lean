import OpenTogetherTube.Room.Methods
import OpenTogetherTube.Room.Steps

/-!
# The handlers of a room, one lemma each

Every request handler, the tick and every timer relate the room before to the room after
by effects. `RoomAction.apply_related` collects them; it is all that the invariants of the
next modules know about the code.
-/

namespace OpenTogetherTube

open Lib Lib.Handler

namespace Room

variable {C F M : Prop} (env : Env) (context : RoomRequestContext) (room : Room)

theorem samePlayback_ticks : KeepsTicks SamePlayback where
  assignVideoSegments _ _ := ⟨_, rfl⟩
  wantSponsorBlock _ _ := ⟨_, rfl⟩
  assignPause _ _ := ⟨_, rfl⟩
  keepAlivePing _ _ := ⟨_, rfl⟩

theorem related_ticks {scope : Scope} : KeepsTicks (Related scope) where
  assignVideoSegments room _ := .of_same (samePlayback_ticks.assignVideoSegments room _)
  wantSponsorBlock room _ := .of_same (samePlayback_ticks.wantSponsorBlock room _)
  assignPause room _ := .of_same (samePlayback_ticks.assignPause room _)
  keepAlivePing room _ := .of_same (samePlayback_ticks.keepAlivePing room _)

theorem evaluateBufferGate_related :
    Related (env.scope C F M) room (room.evaluateBufferGate env.now) :=
  .onPlayback (@Playback.evaluateBufferGate_effects (env.scope C F M) _ _ _)

theorem related_upkeep : KeepsUpkeep env.now (Related (env.scope C F M)) where
  toKeepsMessages := related_writes.toKeepsMessages
  replaceUser _ _ _ := .of_eq rfl
  saves _ := .of_eq rfl
  unsaved _ := .of_eq rfl
  endTemporaryPlaybackSpeed _ := .onPlayback (.single (.speedEnded _))
  evaluateBufferGate := evaluateBufferGate_related env
  noteRecovery _ clientId := .onPlayback (.single (.recovered _ clientId))
  finishPlaybackPreparation _ _ _ _ :=
    .onPlayback (@Playback.finishPlaybackPreparation_effects (env.scope C F M) _ _ _ _ _)

theorem playback_keeps (state : Bool) (commanded : state = true → C) :
    (playback env state context).Keeps (Related (env.scope C F M)) room := by
  refine Keeps.modify_bind ?_ (keeps_modify _ (related_writes.publishRoomEvent _ _ _ _ _))
  cases state with
  | true => exact .onPlayback (.single (.played _ (Or.inl (commanded rfl))))
  | false => exact .onPlayback (.single (.paused _))

theorem skip_keeps (fresh : env.uuid ∉ room.rounds) (commanded : C)
    (frozen : room.currentSource.isSome = true → (room.voteToSkip context).shouldSkip = true →
      (room.voteToSkip context).handsOver = true →
      (room.voteToSkip context).restoredFromStorage = true →
      (room.voteToSkip context).isPlaying = true → F)
    (counts : room.currentSource.isSome = true → (room.voteToSkip context).shouldSkip = true →
      ((room.voteToSkip context).releaseBufferGate false env.now).CountsSource env.now ∨ M) :
    (skip env context).Keeps (Related (env.scope C F M)) room := by
  obtain ⟨pending, same⟩ := samePlayback_writes.voteToSkip context room
  unfold skip
  refine Keeps.get_bind ?_
  split
  · exact Keeps.pure _ _
  · rename_i current present
    refine Keeps.modify_bind (.of_pending pending same) (Keeps.get_bind (Keeps.ite (fun agreed => ?_)
      fun _ => Keeps.pure _ _))
    refine Keeps.modify_bind ?_ (Keeps.modify_bind (related_writes.publishRoomEvent _ _ _ _ _)
      (keeps_modify _ (Related.assignVideoSegments _ _)))
    have there : room.currentSource.isSome = true := by
      rw [present]
      rfl
    refine dequeueNext_related env _ ?_ (Or.inl commanded) (frozen there agreed) (Or.inl ?_)
      (counts there agreed)
    · rw [same]
      exact fresh
    · rw [same]
      exact there

/-- The positions `seek` accepts. -/
def acceptsSeek (value : Option Number) : Bool :=
  value.any fun target =>
    target.isFinite && !target.lt 0 && !Number.lt (.fin MAX_SEEK_SECONDS) target

theorem seek_keeps (value : Option Number)
    (counts : acceptsSeek value = true → room.CountsPlaying env.now ∨ M) :
    (seek env value context).Keeps (Related (env.scope C F M)) room := by
  refine related_ticks.seek env context room related_writes.toKeepsMessages value
    fun target given accepted => .onPlayback (.single (.sought _ target (counts ?_)))
  subst given
  simpa [acceptsSeek, and_assoc] using accepted

theorem holdEmptyPlaybackForJoin_related (reconnect : Bool) :
    Related (env.scope C F M) room (room.holdEmptyPlaybackForJoin reconnect env.now) :=
  .onPlayback (.single (.heldForJoin _ reconnect room.toAudience))

theorem holdEmptyPlaybackForJoin_rounds (reconnect : Bool) (now : Int) :
    (room.holdEmptyPlaybackForJoin reconnect now).rounds = room.rounds := by
  unfold holdEmptyPlaybackForJoin Playback.holdEmptyPlaybackForJoin
  simp only [onPlayback_toPlayback]
  split
  · rfl
  · simp

theorem joinRoom_keeps (info : ClientInfo) (reconnect : Bool) (fresh : env.uuid ∉ room.rounds) :
    (joinRoom env info reconnect context).Keeps (Related (env.scope C F M)) room := by
  refine related_writes.joinRoom env context room info reconnect
    (holdEmptyPlaybackForJoin_related env room reconnect) (fun _ _ _ => .of_eq rfl)
    fun _ _ => .onPlayback (@Playback.resumeForJoin_effects (env.scope C F M) _ _ _ _ ?_)
  rw [← holdEmptyPlaybackForJoin_rounds room reconnect env.now] at fresh
  exact fresh

theorem endOwnGesture_rounds (clientId : ClientId) (now : Int) :
    (room.endOwnGesture clientId now).rounds = room.rounds := by
  unfold endOwnGesture
  split
  · simp
  · rfl

theorem settleLeave_keeps (clientId : ClientId) (fresh : env.uuid ∉ room.rounds) :
    (settleLeave env clientId).Keeps (Related (env.scope C F M)) room := by
  refine keeps_settleLeave room clientId (fun nobody => ?_) (.onPlayback
      (@Playback.rebuildRound_effects (env.scope C F M) _ clientId _ fresh))
    (fun room => (sync_keeps room env).mono .of_same) ((related_upkeep env).flushSave env)
  exact .onPlayback (.single (.emptied _ room.toAudience (by simpa using nobody)))

theorem leaveRoom_keeps (fresh : env.uuid ∉ room.rounds) :
    (leaveRoom env context).Keeps (Related (env.scope C F M)) room := by
  refine keeps_leaveRoom room context
    (fun clientId => keeps_endOwnGesture room clientId (.onPlayback (.single (.speedEnded _))))
    (fun room user => related_writes.forgetUser context room user fun _ => .of_eq rfl)
    (fun clientId user => settleLeave_keeps env _ clientId ?_) (evaluateBufferGate_related env)
  obtain ⟨pending, same⟩ := samePlayback_writes.forgetUser context
    (room.endOwnGesture clientId env.now) user fun _ => ⟨_, rfl⟩
  rw [same]
  rw [← endOwnGesture_rounds room clientId env.now] at fresh
  exact fresh

theorem promoteUser_keeps {scope : Scope} (targetClientId : ClientId) (role : Role) :
    (promoteUser targetClientId role context).Keeps (Related scope) room :=
  keeps_promoteUser room context (fun _ _ => .of_eq rfl) fun _ _ => .of_eq rfl

/-- The speeds `setPlaybackSpeed` accepts. -/
def acceptsSpeed (speed : Number) : Bool :=
  match speed with
  | .fin value => decide (1 / 4 ≤ value) && decide (value ≤ 4)
  | _ => false

theorem setPlaybackSpeed_keeps (speed : Number)
    (counts : acceptsSpeed speed = true → room.CountsPlaying env.now ∨ M) :
    (setPlaybackSpeed env speed).Keeps (Related (env.scope C F M)) room := by
  unfold setPlaybackSpeed
  split
  · rename_i value
    refine Keeps.ite (fun _ => Keeps.throw _ _) fun accepted => ?_
    rw [not_or, not_lt, not_lt] at accepted
    have nonneg : (0 : ℚ) ≤ value := le_trans (by decide +kernel) accepted.1
    exact keeps_modify room (.onPlayback (.single (.speedChanged _ value nonneg
      (counts (by simpa [acceptsSpeed] using accepted)))))
  · exact Keeps.throw _ _

theorem setTemporaryPlaybackSpeed_keeps (action : GestureAction) (gestureId : String)
    (video : Option VideoId) :
    (setTemporaryPlaybackSpeed env action gestureId video context).Keeps
      (Related (env.scope C F M)) room := by
  refine keeps_setTemporaryPlaybackSpeed room context action gestureId video
    (.onPlayback (.single (.speedEnded _))) (.of_pending _ rfl)
    (.onPlayback (.single (.released _ false _ (by simp)))) fun clientId _ isOpened allowed playing => ?_
  obtain ⟨_, source, _, speed, _⟩ :=
    Playback.releaseBufferGate_frame room.toPlayback false room.toAudience env.now
  simp only [canSpeedUp, Bool.and_eq_true, Option.isNone_iff_eq_none] at allowed
  subst isOpened
  refine .onPlayback (.single (.spedUp _ clientId gestureId playing (speed.trans allowed.2) ?_))
  have present := allowed.1.1.2
  change (Playback.releaseBufferGate _ _ _ _).currentSource.isSome = true
  rw [source]
  exact Option.isSome_of_any present

theorem related_settings {scope : Scope} (settings : RoomSettings) :
    KeepsSettings settings (Related scope) where
  title _ _ := .of_pending _ rfl
  description _ _ := .of_pending _ rfl
  visibility _ _ := .of_pending _ rfl
  queueMode _ _ := .of_pending _ rfl
  autoSkipSegmentCategories _ _ := .of_pending _ rfl
  restoreQueueBehavior _ _ _ := .of_eq rfl
  enableVoteSkip _ _ := .of_pending _ rfl
  bufferGateMode _ _ := .of_pending _ rfl
  danmakuSource _ _ := .of_pending _ rfl
  writeGrant _ _ := .of_pending _ rfl
  wantSponsorBlock _ := .of_eq rfl

theorem applySettings_keeps (settings : RoomSettings) :
    (applySettings env settings context).Keeps (Related (env.scope C F M)) room := by
  unfold applySettings
  refine Keeps.get_bind ?_
  refine keeps_bind_of_after room (forM_after room (fun _ => check_after room _ _) _) fun _ => ?_
  refine Keeps.ite (fun _ => Keeps.throw _ _) fun _ => ?_
  exact Keeps.modify_bind ((related_settings _).writeSettings room)
    (keeps_modify _ (evaluateBufferGate_related env _))

theorem pushInterrupted_keeps {scope : Scope} :
    (pushInterrupted env).Keeps (Related scope) room := by
  unfold pushInterrupted
  refine Keeps.get_bind ?_
  split
  · exact Keeps.pure _ _
  · rename_i source present
    have retimed : Related scope room (room.retimeCurrent
        { source with startAt := some (room.realPlaybackPosition env.now) }) :=
      Effects.single (.sourceRetimed _ source _ present)
    exact Keeps.modify_bind retimed (related_writes.pushTop _ _)

/-- Pushing the interrupted item back creates no round. -/
theorem pushInterrupted_rounds : ((pushInterrupted env).after room).rounds = room.rounds := by
  unfold pushInterrupted
  rw [after_get_bind]
  split
  · rfl
  · rename_i source _
    dsimp only
    rw [after_modify_bind]
    obtain ⟨pending, same⟩ := samePlayback_writes.pushTop (room.retimeCurrent
      { source with startAt := some (room.realPlaybackPosition env.now) })
      { source with startAt := some (room.realPlaybackPosition env.now) }
    rw [same]
    rfl

theorem playNow_keeps (video : VideoAdd) (fresh : env.uuid ∉ room.rounds) (commanded : C) :
    (playNow env video context).Keeps (Related (env.scope C F M)) room := by
  unfold playNow
  refine keeps_bind_of_after room (assertUsableVideoId_after room _) fun _ => Keeps.get_bind ?_
  refine Keeps.ite (fun _ => Keeps.pure _ _) fun _ => keeps_check room ?_
  refine Keeps.ite (fun _ => Keeps.throw _ _) fun _ => ?_
  refine keeps_bind_of_after room (assertUsableSubtitle_after room env _) fun _ => ?_
  have evicted := samePlayback_writes.takeRequested env room video.toVideoId
    (room.isVideoInQueue video.toVideoId)
  refine Keeps.bind (evicted.mono .of_same) fun taken _ => ?_
  refine Keeps.bind (pushInterrupted_keeps env _) fun _ _ => ?_
  refine Keeps.modify_bind (.onPlayback (.single (.sourceTaken _ _ 0)))
    (Keeps.modify_bind (Related.markDirty _ _) (Keeps.modify_bind (Related.assignVideoSegments _ _)
      (Keeps.modify_bind (.onPlayback ?_) (keeps_modify _ (.of_eq ?_)))))
  · refine @Playback.startItemNow_effects (env.scope C F M) _ _ ?_ ?_ commanded
    · simp [GateState.sourceSet]
    · simp only [assignVideoSegments_toPlayback, markDirty_toPlayback, onPlayback_toPlayback,
        Playback.markDirty_frame, Playback.takeSource_frame, HeldStart.dropped]
      rw [pushInterrupted_rounds]
      obtain ⟨pending, same⟩ := evicted
      rw [same]
      exact fresh
  · split <;> rfl

theorem undo_keeps (echo : UndoEvent) (commanded : C)
    (counts : ∀ event, room.findRecentEvent echo = some event → validUndoEvent echo = true →
      room.grants.granted context.role .seek = true → event.request.type = .seek →
      acceptsSeek event.additional.prevPosition = true → room.CountsPlaying env.now ∨ M) :
    (undo env echo context).Keeps (Related (env.scope C F M)) room := by
  refine related_writes.undo env context room echo fun event found valid => ?_
  have counts := counts event found valid
  refine related_writes.applyUndo env context room event (fun kind granted => ?_) ?_ ?_
  · exact seek_keeps env context room _ (counts granted kind)
  · exact fun _ _ _ => .onPlayback (.single (.sourceTaken _ _ _))
  · exact .onPlayback (.single (.sourceDropped _ commanded))

end Room

/-- The requests that may set playback going. -/
def RoomRequest.commands : RoomRequest → Bool
  | .playback state => state
  | .skip => true
  | .playNow _ => true
  | .undo _ => true
  | _ => false

/-- The room as it is when an action calls `dequeueNext`, if it does. -/
def RoomAction.dequeueEntry (env : Env) (action : RoomAction) (room : Room) : Option Room :=
  match action with
  | .update =>
      let settled := room.settlePlayback env
      if settled.wantsNext env.now then some settled else none
  | .request .skip context =>
      let voted := room.voteToSkip context
      if room.grants.granted context.role .skip && room.currentSource.isSome && voted.shouldSkip
        then some voted else none
  | _ => none

/-- The request passes its checks and counts what has run since the anchor. -/
def RoomRequest.counts (context : RoomRequestContext) (room : Room) : RoomRequest → Bool
  | .seek value => room.grants.granted context.role .seek && Room.acceptsSeek value
  | .playbackSpeed speed => room.grants.granted context.role .speed && Room.acceptsSpeed speed
  | .undo echo =>
      Room.validUndoEvent echo && room.grants.granted context.role .seek &&
        (room.findRecentEvent echo).any fun event =>
          decide (event.request.type = .seek) && Room.acceptsSeek event.additional.prevPosition
  | _ => false

namespace Room

variable {C F M : Prop} (env : Env) (context : RoomRequestContext) (room : Room)

theorem handle_keeps (request : RoomRequest) (fresh : env.uuid ∉ room.rounds)
    (commanded : request.commands = true → C)
    (frozen : request = .skip → room.currentSource.isSome = true →
      (room.voteToSkip context).shouldSkip = true → (room.voteToSkip context).handsOver = true →
      (room.voteToSkip context).restoredFromStorage = true →
      (room.voteToSkip context).isPlaying = true → F)
    (permitted : ∀ permission, requestPermission request.type = some permission →
      room.grants.granted context.role permission = true)
    (counts : request.counts context room = true → room.CountsPlaying env.now ∨ M)
    (leaves : request = .skip → room.currentSource.isSome = true →
      (room.voteToSkip context).shouldSkip = true →
      ((room.voteToSkip context).releaseBufferGate false env.now).CountsSource env.now ∨ M) :
    (handle env request context).Keeps (Related (env.scope C F M)) room := by
  cases request with
  | join info reconnect => exact joinRoom_keeps env context room info reconnect fresh
  | leave => exact leaveRoom_keeps env context room fresh
  | playback state => exact playback_keeps env context room state commanded
  | skip => exact skip_keeps env context room fresh (commanded rfl) (frozen rfl) (leaves rfl)
  | seek value =>
      refine seek_keeps env context room value fun accepted => counts ?_
      simp [RoomRequest.counts, permitted .seek rfl, accepted]
  | promote target role => exact promoteUser_keeps context room target role
  | updateUser info prepared => exact (related_upkeep env).updateUser env room info prepared
  | undo echo =>
      refine undo_keeps env context room echo (commanded rfl) ?_
      intro event found valid granted kind accepted
      exact counts (by simp [RoomRequest.counts, found, valid, granted, kind, accepted])
  | applySettings settings => exact applySettings_keeps env context room settings
  | playNow video => exact playNow_keeps env context room video fresh (commanded rfl)
  | playbackSpeed speed =>
      refine setPlaybackSpeed_keeps env room speed fun accepted => counts ?_
      simp [RoomRequest.counts, permitted .speed rfl, accepted]
  | temporaryPlaybackSpeed action gestureId video =>
      exact setTemporaryPlaybackSpeed_keeps env context room action gestureId video
  | add | remove | order | vote | chat | shuffle | restoreQueue | kick | updateQueueItem
  | addNote | deleteNote => exact related_writes.handle env context room rfl

theorem processRequest_keeps (request : RoomRequest) (fresh : env.uuid ∉ room.rounds)
    (commanded : request.commands = true → C)
    (frozen : ∀ entry, (RoomAction.request request context).dequeueEntry env room = some entry →
      entry.handsOver = true → entry.restoredFromStorage = true → entry.isPlaying = true → F)
    (counts : request.counts context room = true → room.CountsPlaying env.now ∨ M)
    (leaves : ∀ entry, (RoomAction.request request context).dequeueEntry env room = some entry →
      (entry.releaseBufferGate false env.now).CountsSource env.now ∨ M) :
    (processRequest env request context).Keeps (Related (env.scope C F M)) room := by
  unfold processRequest
  refine Keeps.bind (keeps_of_after room (checkSome_after room _ _)) fun value passed => ?_
  rw [checkSome_after]
  have permitted : ∀ permission, requestPermission request.type = some permission →
      room.grants.granted context.role permission = true := by
    intro permission asked
    rw [asked] at passed
    exact granted_of_check room passed
  have entered : request = .skip → room.currentSource.isSome = true →
      (room.voteToSkip context).shouldSkip = true →
      (RoomAction.request request context).dequeueEntry env room =
        some (room.voteToSkip context) := by
    intro skips present agreed
    subst skips
    simp [RoomAction.dequeueEntry, permitted .skip rfl, present, agreed]
  refine handle_keeps env context room request fresh commanded ?_ permitted counts ?_
  · exact fun skips present agreed => frozen _ (entered skips present agreed)
  · exact fun skips present agreed => leaves _ (entered skips present agreed)

section Rounds

variable (p : Playback) (audience : Audience) (now : Int)

/-- The rounds that have been begun stay the same. -/
def SameRounds (before after : Playback) : Prop := after.rounds = before.rounds

instance : IsPreorder Playback SameRounds where
  refl _ := rfl
  trans _ _ _ first second := second.trans first

theorem startPreparedPlayback_rounds : (p.startPreparedPlayback now).rounds = p.rounds := by
  unfold Playback.startPreparedPlayback
  split
  · rfl
  · split
    · rfl
    · split
      · rfl
      · rfl

theorem rounds_methods : Playback.KeepsMethods audience now SameRounds where
  clearBufferGate _ _ _ := by simp [SameRounds]
  play _ := by simp [SameRounds, HeldStart.dropped]
  engageBufferGate _ _ := by simp [SameRounds, Playback.engageBufferGate, HeldStart.dropped]; rfl
  waited _ _ _ := rfl
  assignRound _ _ := rfl
  timed _ _ := rfl
  startPreparedPlayback p := startPreparedPlayback_rounds p now
  cancelPlaybackPreparation _ := by simp [SameRounds, HeldStart.dropped]
  endTemporaryPlaybackSpeed _ := by simp [SameRounds]

theorem settlePlayback_rounds : (room.settlePlayback env).rounds = room.rounds := by
  have keeps := rounds_methods room.toAudience env.now
  exact (keeps.updateTemporarySpeed _).trans ((keeps.updatePreparation _).trans
    (keeps.evaluateBufferGate _ _))

end Rounds

theorem settlePlayback_related (onTime : room.StartsOnTime env.now ∨ M) :
    Related (env.scope C F M) room (room.settlePlayback env) := by
  have evaluated : Related (env.scope C F M) room (room.evaluateBufferGate env.now) :=
    evaluateBufferGate_related env room
  have onTime : (room.evaluateBufferGate env.now).StartsOnTime env.now ∨ M :=
    onTime.imp_left (evaluated.preserves (Playback.StartsOnTime env.now) fun _ _ => .effect)
  refine evaluated.trans (Related.trans (.onPlayback
    (@Playback.updatePreparation_effects (env.scope C F M) _ room.toAudience onTime)) (.onPlayback
    (@Playback.updateTemporarySpeed_effects (env.scope C F M) _ room.toAudience)))

theorem updateSegments_related : Related (env.scope C F M) room (room.updateSegments env) :=
  related_ticks.updateSegments env room fun _ _ plays =>
    .onPlayback (.single (.sought _ _ (Or.inl (Or.inl plays))))

/-- The tick moves on only where there is something to leave or something to take. -/
theorem moves_of_wantsNext {now : Int} (wanted : room.wantsNext now = true) :
    room.currentSource.isSome = true ∨ room.queue ≠ [] := by
  unfold wantsNext at wanted
  rw [Bool.or_eq_true, Bool.and_eq_true] at wanted
  rcases wanted with ⟨_, queued⟩ | ended
  · exact Or.inr (by simpa using queued)
  · refine Or.inl ?_
    unfold Playback.currentEnded at ended
    cases present : room.currentSource with
    | none => simp [present] at ended
    | some source => rfl

theorem moveOn_keeps (fresh : env.uuid ∉ room.rounds)
    (commanded : room.wantsNext env.now = true →
      C ∨ room.restoredFromStorage = true ∧ room.currentSource = none ∧ room.bufferGate = none)
    (frozen : room.wantsNext env.now = true → room.handsOver = true →
      room.restoredFromStorage = true → room.isPlaying = true → F)
    (leaves : room.wantsNext env.now = true →
      (room.releaseBufferGate false env.now).CountsSource env.now ∨ M) :
    (moveOn env).Keeps (Related (env.scope C F M)) room := by
  unfold moveOn
  refine Keeps.modify_bind ?_ ?_
  · unfold updateSource
    split
    · rename_i wanted
      exact dequeueNext_related env room fresh (commanded wanted) (frozen wanted)
        (moves_of_wantsNext room wanted) (leaves wanted)
    · exact .refl _
  · refine Keeps.bind (related_ticks.keepAlive env _) fun _ _ => ?_
    exact Keeps.modify_bind (.of_same (samePlayback_writes.orderByVotes _))
      (keeps_modify _ (updateSegments_related env _))

theorem update_keeps (fresh : env.uuid ∉ room.rounds)
    (commanded : (room.settlePlayback env).wantsNext env.now = true →
      C ∨ (room.settlePlayback env).restoredFromStorage = true ∧
        (room.settlePlayback env).currentSource = none ∧
        (room.settlePlayback env).bufferGate = none)
    (frozen : ∀ entry, RoomAction.update.dequeueEntry env room = some entry →
      entry.handsOver = true → entry.restoredFromStorage = true → entry.isPlaying = true → F)
    (onTime : room.StartsOnTime env.now ∨ M)
    (leaves : ∀ entry, RoomAction.update.dequeueEntry env room = some entry →
      (entry.releaseBufferGate false env.now).CountsSource env.now ∨ M) :
    (update env).Keeps (Related (env.scope C F M)) room := by
  have entered : (room.settlePlayback env).wantsNext env.now = true →
      RoomAction.update.dequeueEntry env room = some (room.settlePlayback env) := by
    intro wanted
    simp [RoomAction.dequeueEntry, wanted]
  refine Keeps.modify_bind (settlePlayback_related env room onTime)
    (moveOn_keeps env _ ?_ commanded (fun wanted => frozen _ (entered wanted))
      fun wanted => leaves _ (entered wanted))
  rw [settlePlayback_rounds]
  exact fresh

end Room

namespace RoomAction

variable {C F M : Prop} (env : Env) (room : Room)

/-- The action may set playback going: a commanding request, or a tick that moves on to
the next item other than by handing it over paused. -/
def Commands (env : Env) (action : RoomAction) (room : Room) : Prop :=
  match action with
  | .request asked _ => asked.commands = true
  | .update =>
      (room.settlePlayback env).wantsNext env.now = true ∧
        ¬ ((room.settlePlayback env).restoredFromStorage = true ∧
          (room.settlePlayback env).currentSource = none ∧
          (room.settlePlayback env).bufferGate = none)
  | _ => False

/-- The action hands an item over, paused, in a room that is playing: `dequeueNext` meets
a room that is playing and still marked as restored from storage. -/
def Freezes (env : Env) (action : RoomAction) (room : Room) : Prop :=
  ∃ entry, action.dequeueEntry env room = some entry ∧ entry.handsOver = true ∧
    entry.restoredFromStorage = true ∧ entry.isPlaying = true

/-- The action is a request that counts what has run since the anchor. -/
def counts (room : Room) : RoomAction → Bool
  | .request asked context => asked.counts context room
  | _ => false

/-- The action sets a prepared round going once it is due. -/
def startsRound : RoomAction → Bool
  | .update => true
  | .playbackStartTimer => true
  | _ => false

/-- The action counts seconds that were not played, or counts them twice: a request counts
while the room is paused with an anchor, `dequeueNext` does, or counts before a temporary
speed ends, or a round is started after its start time. -/
def Miscounts (env : Env) (action : RoomAction) (room : Room) : Prop :=
  action.counts room = true ∧ ¬ room.CountsPlaying env.now ∨
  (∃ entry, action.dequeueEntry env room = some entry ∧
    ¬ (entry.releaseBufferGate false env.now).CountsSource env.now) ∨
  action.startsRound = true ∧ ¬ room.StartsOnTime env.now

theorem onBeforeUnload_keeps :
    (Room.onBeforeUnload env).Keeps (Room.Related (env.scope C F M)) room := by
  unfold Room.onBeforeUnload
  refine Handler.Keeps.modify_bind (Room.related_writes.stopForUnload room env.now
      (Effects.tail (Effects.single (.pending _ _)) (.speedEnded _))
      fun _ => (Room.Related.onPlayback (.single (.stopped _))).trans (Room.Related.markDirty _ _))
    (Handler.Keeps.modify_bind (.of_pending _ rfl) ?_)
  exact Handler.Keeps.bind ((Room.sync_keeps _ env).mono .of_same) fun _ _ =>
    Room.keeps_modify _ ((Room.related_upkeep env).flushSave env _)

/-- Every action of a room is a sequence of effects. It sets playback going only where
`Commands` says so, stops a playing clock only where `Freezes` does, and counts too much
only where `Miscounts` does. -/
theorem apply_related (action : RoomAction) (fresh : env.uuid ∉ room.rounds)
    (counts : ¬ action.Miscounts env room ∨ M) :
    Effects (env.scope (action.Commands env room) (action.Freezes env room) M) room.toPlayback
      (action.apply env room).toPlayback := by
  have leaves : ∀ entry, action.dequeueEntry env room = some entry →
      (entry.releaseBufferGate false env.now).CountsSource env.now ∨ M := by
    intro entry called
    refine counts.imp_left fun right => not_not.mp fun wrong => right ?_
    exact Or.inr (Or.inl ⟨entry, called, wrong⟩)
  have onTime : action.startsRound = true → room.StartsOnTime env.now ∨ M := by
    intro starts
    refine counts.imp_left fun right => not_not.mp fun wrong => right ?_
    exact Or.inr (Or.inr ⟨starts, wrong⟩)
  cases action with
  | request request context =>
      refine Room.processRequest_keeps env context room request fresh id
        (fun entry called hands restored playing => ⟨entry, called, hands, restored, playing⟩)
        ?_ leaves
      intro counted
      refine counts.imp_left fun right => not_not.mp fun wrong => right ?_
      exact Or.inl ⟨counted, wrong⟩
  | update =>
      refine Room.update_keeps env room fresh ?_
        (fun entry called hands restored playing => ⟨entry, called, hands, restored, playing⟩)
        (onTime rfl) leaves
      intro wanted
      by_cases paused : (room.settlePlayback env).restoredFromStorage = true ∧
          (room.settlePlayback env).currentSource = none ∧
          (room.settlePlayback env).bufferGate = none
      · exact Or.inr paused
      · exact Or.inl ⟨wanted, paused⟩
  | playbackStartTimer => exact .tail (.single (.pending _ _)) (.started _ (onTime rfl))
  | temporarySpeedTimer => exact .single (.speedEnded _)
  | leaveTimer token => exact Room.related_writes.fireLeaveTimer room token
  | throttledSync =>
      have idle : Room.SamePlayback room { room with syncPending := false } := ⟨_, rfl⟩
      exact (Room.Related.of_same idle).trans (.of_same (Room.sync_keeps _ env))
  | sync => exact Room.Related.of_same (Room.sync_keeps room env)
  | save => exact (Room.related_upkeep env).saveStateToRedis env room
  | holdEmptyPlaybackForJoin reconnect =>
      exact Room.holdEmptyPlaybackForJoin_related env room reconnect
  | setGrants grants =>
      have marked : Room.SamePlayback room
          ({ room with grants := Grants.setAllGrants grants.masks }.markDirty .grants) := ⟨_, rfl⟩
      exact (Room.Related.of_same marked).trans (Room.evaluateBufferGate_related env _)
  | claim user => exact .single (.pending _ _)
  | setPasswordHash hash => exact .single (.pending _ _)
  | reauthenticate clientId token info =>
      exact (Room.related_upkeep env).reauthenticate env room clientId token info
  | onBeforeUnload => exact onBeforeUnload_keeps env room

end RoomAction

end OpenTogetherTube
