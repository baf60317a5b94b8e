import OpenTogetherTube.Room.Rounds
import OpenTogetherTube.Room.Steady

/-!
# The temporary speed

A long press doubles the speed until it is let go. While it is in force the room plays a
source at twice the speed; however it ends, short of somebody setting another speed, the
room runs at the speed it had before; and nobody but its owner can hold or end it.
-/

namespace OpenTogetherTube

open Lib Lib.Handler

namespace Playback

/-- A temporary speed is in force only in a room that plays a source at that speed. -/
def SpeedSafe (p : Playback) : Prop :=
  p.temporarySpeed.isSome = true →
    p.isPlaying = true ∧ p.playbackSpeed = TEMPORARY_PLAYBACK_SPEED ∧ p.currentSource.isSome = true

variable {scope : Scope} {p q : Playback}

/-- Without a temporary speed there is nothing to show. -/
theorem SpeedSafe.of_plain (plain : q.temporarySpeed = none) : q.SpeedSafe := by
  intro present
  rw [plain] at present
  cases present

/-- A change that leaves the two speeds and the source, and does not stop the room. -/
theorem SpeedSafe.keep (safe : p.SpeedSafe) (temporary : q.temporarySpeed = p.temporarySpeed)
    (speed : q.playbackSpeed = p.playbackSpeed)
    (playing : p.isPlaying = true → q.isPlaying = true)
    (source : p.currentSource.isSome = true → q.currentSource.isSome = true) : q.SpeedSafe := by
  intro present
  rw [temporary] at present
  obtain ⟨plays, double, sourced⟩ := safe present
  exact ⟨playing plays, speed.trans double, source sourced⟩

theorem SpeedSafe.effect (effect : Effect scope p q) (safe : p.SpeedSafe) : q.SpeedSafe := by
  cases effect with
  | pending pending => exact safe.keep rfl rfl id id
  | speedEnded => exact .of_plain (by simp)
  | speedChanged speed nonneg counts => exact .of_plain (by simp)
  | spedUp clientId gestureId playing plain source =>
      intro _
      simp [playing, source]
  | speedReset plain still =>
      refine .of_plain ?_
      rcases plain with plain | idle
      · exact plain
      · cases speed : p.temporarySpeed with
        | none => exact speed
        | some gesture =>
            have sourced := (safe (by rw [speed]; rfl)).2.2
            rw [idle] at sourced
            cases sourced
  | played cause =>
      refine safe.keep (by simp) ?_ (by simp) (by simp)
      rw [(play_frame p scope.now).1]
      unfold RoomClock.start
      split <;> rfl
  | released timedOut audience due =>
      rcases releaseBufferGate_cases p scope.now timedOut audience with
        ⟨_, same⟩ | ⟨gate, _, same | ⟨_, _, _, same⟩⟩
      · rw [same]
        exact safe
      · rw [same]
        exact safe.keep (by simp) (by simp) (by simp) (by simp)
      · rw [same]
        refine safe.keep (by simp) ?_ (by simp) (by simp)
        rw [(play_frame _ scope.now).1]
        unfold RoomClock.start
        split <;> simp
  | waited gate waitingOn held armed => exact safe.keep rfl rfl id id
  | engaged waitingOn free playing plain noRound source settled cool armed =>
      exact .of_plain (by simp)
  | recovered clientId => exact safe.keep (by simp) (by simp) (by simp) (by simp)
  | paused => exact .of_plain (by simp)
  | stopped => exact .of_plain (by simp)
  | sourceTaken item position => exact .of_plain (by simp)
  | sourceLeft item position counts => exact .of_plain (by simp)
  | sourceEnded cause counts => exact .of_plain (by simp)
  | sourceDropped cause => exact .of_plain (by simp)
  | sourceRetimed source startAt current => exact safe.keep rfl rfl id fun _ => rfl
  | handedOver restored playing => exact safe.keep rfl rfl id id
  | clockHeld cause free => exact .of_plain (by simp)
  | prepared audience fresh =>
      rcases prepareEmptyRoomPlayback_cases p scope.now scope.uuid audience with
        same | ⟨source, leader, others, _, _, _, _, _, _, _, same⟩
      · rw [same]
        exact safe
      · rw [same]
        exact safe.keep rfl rfl id id
  | roundEdited before after present edit =>
      exact safe.keep (by simp) (by simp) (by simp) (by simp)
  | scheduled before fallback startAt present unscheduled later soon =>
      exact safe.keep (by simp) (by simp) (by simp) (by simp)
  | started onTime =>
      rcases startPreparedPlayback_cases p scope.now with
        same | ⟨_, _, _, _, _, clock, _, _, source, _⟩
      · rw [same]
        exact safe
      · refine safe.keep (by rw [clock]) (by rw [clock]) (fun _ => by rw [clock]) ?_
        rw [source]
        exact id
  | cancelled => exact safe.keep (by simp) (by simp) (by simp) (by simp)
  | sought value counts => exact safe.keep (by simp) (by simp) (by simp) (by simp)
  | emptied audience nobody =>
      obtain ⟨clock, _⟩ := emptyRoom_frame p scope.now audience nobody
      exact .of_plain (by rw [clock]; simp)
  | intentKept round => exact safe.keep (by simp) (by simp) (by simp) (by simp)
  | heldForJoin skipForReconnect audience =>
      rcases holdEmptyPlaybackForJoin_cases p scope.now skipForReconnect audience with
        same | ⟨_, clock, _⟩
      · rw [same]
        exact safe
      · exact .of_plain (by rw [clock]; simp)

end Playback

theorem RoomState.speedSafe {state : RoomState} (reachable : roomSystem.Reachable state) :
    state.room.SpeedSafe :=
  invariant_of_effects (fun _ fresh => .of_plain fresh.plain)
    (fun _ _ _ => Playback.SpeedSafe.effect) reachable

namespace Room

variable (env : Env) (context : RoomRequestContext) (room : Room)

/-- A change that leaves the clock alone. -/
theorem SpeedSettled.of_eq {before after : Room} (clock : after.toRoomClock = before.toRoomClock) :
    SpeedSettled before after := by
  unfold SpeedSettled
  rw [clock]
  exact .refl _

/-- A change of pending work only. -/
theorem SpeedSettled.of_same {before after : Room} (same : SamePlayback before after) :
    SpeedSettled before after := by
  obtain ⟨pending, equal⟩ := same
  exact .of_eq (by rw [equal])

theorem settled_writes : KeepsWrites SpeedSettled :=
  samePlayback_writes.mono .of_same

/-- A source set anew ends a temporary speed and gives back the one before. -/
theorem takeSource_settled (item : QueueItem) (position : Number) (now : Int) :
    SpeedSettled room (room.onPlayback (Playback.takeSource item position now)) := by
  unfold SpeedSettled
  change SpeedKept _ (Playback.takeSource item position now room.toPlayback).toRoomClock
  rw [(Playback.takeSource_frame room.toPlayback now item position).1]
  exact (SpeedKept.restoreSpeed _ now).trans (.of_eq rfl rfl)

theorem dropSource_settled (now : Int) :
    SpeedSettled room (room.onPlayback (Playback.assignCurrentSource none now)) := by
  unfold SpeedSettled
  change SpeedKept _ (Playback.assignCurrentSource none now room.toPlayback).toRoomClock
  rw [(Playback.assignCurrentSource_frame room.toPlayback now none).1]
  exact SpeedKept.restoreSpeed _ now

theorem joinRoom_settled (info : ClientInfo) (reconnect : Bool) :
    (joinRoom env info reconnect context).Keeps SpeedSettled room :=
  settled_writes.joinRoom env context room info reconnect
    (Playback.holdEmptyPlaybackForJoin_steady _ _ env.now reconnect).speed
    (fun _ _ _ => .of_eq rfl) fun _ _ => (Playback.resumeForJoin_steady _ _ env.now _ _ _).speed

theorem leaveRoom_settled : (leaveRoom env context).Keeps SpeedSettled room :=
  keeps_leaveRoom room context (fun clientId => (endOwnGesture_steady room clientId env.now).speed)
    (fun room user => settled_writes.forgetUser context room user fun _ => .of_eq rfl)
    (fun clientId _ => (settleLeave_steady env _ clientId).mono Steady.speed)
    fun room => (evaluateBufferGate_steady room env.now).speed

theorem settled_settings (settings : RoomSettings) : KeepsSettings settings SpeedSettled where
  title _ _ := .of_eq rfl
  description _ _ := .of_eq rfl
  visibility _ _ := .of_eq rfl
  queueMode _ _ := .of_eq rfl
  autoSkipSegmentCategories _ _ := .of_eq rfl
  restoreQueueBehavior _ _ _ := .of_eq rfl
  enableVoteSkip _ _ := .of_eq rfl
  bufferGateMode _ _ := .of_eq rfl
  danmakuSource _ _ := .of_eq rfl
  writeGrant _ _ := .of_eq rfl
  wantSponsorBlock _ := .of_eq rfl

theorem applySettings_settled (settings : RoomSettings) :
    (applySettings env settings context).Keeps SpeedSettled room := by
  unfold applySettings
  refine Keeps.get_bind ?_
  refine keeps_bind_of_after room (forM_after room (fun _ => check_after room _ _) _) fun _ => ?_
  exact Keeps.ite (fun _ => Keeps.throw _ _) fun _ => Keeps.modify_bind
    ((settled_settings _).writeSettings room)
    (keeps_modify _ (evaluateBufferGate_steady _ env.now).speed)

theorem playNow_settled (video : VideoAdd) : (playNow env video context).Keeps SpeedSettled room := by
  have pushed : ∀ other : Room, (pushInterrupted env).Keeps SpeedSettled other := by
    intro other
    unfold pushInterrupted
    refine Keeps.get_bind ?_
    split
    · exact Keeps.pure _ _
    · exact Keeps.modify_bind (.of_eq rfl) (settled_writes.pushTop _ _)
  have started : ∀ other : Room, SpeedSettled other
      (other.onPlayback (Playback.startItemNow env.uuid other.toAudience env.now)) :=
    fun _ => (Playback.startItemNow_steady _ _ env.now env.uuid).speed
  unfold playNow
  refine keeps_bind_of_after room (assertUsableVideoId_after room _) fun _ => Keeps.get_bind ?_
  refine Keeps.ite (fun _ => Keeps.pure _ _) fun _ => keeps_check room ?_
  refine Keeps.ite (fun _ => Keeps.throw _ _) fun _ => ?_
  refine keeps_bind_of_after room (assertUsableSubtitle_after room env _) fun _ => ?_
  refine Keeps.bind (settled_writes.takeRequested env room _ _) fun _ _ => Keeps.bind (pushed _) fun _ _ => ?_
  refine Keeps.modify_bind (takeSource_settled _ _ _ env.now) (Keeps.modify_bind (.of_eq rfl)
    (Keeps.modify_bind (.of_eq rfl) (Keeps.modify_bind (started _) (keeps_modify _ ?_))))
  split <;> exact .of_eq rfl

theorem undo_settled (echo : UndoEvent) : (undo env echo context).Keeps SpeedSettled room := by
  refine settled_writes.undo env context room echo fun event _ _ => ?_
  exact settled_writes.applyUndo env context room event
    (fun _ _ => (seek_steady env context room _).mono Steady.speed)
    (fun room video position => takeSource_settled room video position env.now)
    (dropSource_settled room env.now)

/-- `dequeueNext` starts the current item over rather than leaving it. -/
def restarts : Bool := room.currentSource.isSome && decide (room.queueMode = .dj)

theorem leaveCurrent_settled (now : Int) : SpeedSettled room (room.leaveCurrent now) := by
  refine IsTrans.trans _ _ _ (releaseBufferGate_steady room now false).speed ?_
  obtain ⟨watched, counted⟩ :=
    countSource_eq (room.releaseBufferGate false now).clearSkipVotes now
  unfold leaveCurrent
  rw [counted]
  unfold clearSkipVotes
  split <;> exact .of_eq rfl

/-- A restart is a source set anew. -/
theorem dequeueNext_restart (again : room.restarts = true) :
    SpeedSettled room (room.dequeueNext env) := by
  obtain ⟨_, mode, source, _, _⟩ := leaveCurrent_frame room env.now
  unfold restarts at again
  rw [Bool.and_eq_true, decide_eq_true_eq, Option.isSome_iff_exists] at again
  obtain ⟨⟨current, present⟩, dj⟩ := again
  have left := leaveCurrent_settled room env.now
  unfold dequeueNext
  dsimp only
  rw [source, present, mode, dj]
  dsimp only
  refine IsTrans.trans _ _ _ left (IsTrans.trans _ _ _
    (takeSource_settled _ current.clearQueueItemTrim 0 env.now) ?_)
  unfold SpeedSettled
  change SpeedKept _ (Playback.restartSource current env.now _).toRoomClock
  unfold Playback.restartSource
  dsimp only
  split
  · exact .refl _
  · exact (Playback.play_steady _ env.now).speed

theorem SpeedSettled.plain {before after : Room} (settled : SpeedSettled before after)
    (plain : before.temporarySpeed = none) : after.temporarySpeed = none := by
  rcases settled with ⟨same, _⟩ | ⟨_, _, none, _⟩
  · exact same.trans plain
  · exact none

theorem SpeedSettled.speed_eq {before after : Room} (settled : SpeedSettled before after)
    (plain : before.temporarySpeed = none) : after.playbackSpeed = before.playbackSpeed := by
  rcases settled with ⟨_, same⟩ | ⟨_, present, _, _⟩
  · exact same
  · rw [plain] at present
    cases present

/-- A move to another item, or to none, ends at the plain speed. -/
theorem dequeueNext_reset (moves : room.restarts = false)
    (safe : room.temporarySpeed = none ∨ room.currentSource.isSome = true) :
    (room.dequeueNext env).playbackSpeed = 1 ∧ (room.dequeueNext env).temporarySpeed = none := by
  have replaced : ∀ other : Room,
      other.temporarySpeed = none ∨ other.currentSource.isSome = true →
      (other.replaceSource env).temporarySpeed = none := by
    intro other safe
    unfold replaceSource
    split
    · exact Playback.startItem_temporarySpeed _ _ _ _ (takeNext_frame env other _ _).2.1
    · split
      · change (Playback.clearSource env.now other.toPlayback).temporarySpeed = none
        simp
      · rename_i idle
        rcases safe with plain | present
        · exact plain
        · exact absurd present idle
  have advanced : ∀ other : Room,
      other.temporarySpeed = none ∨ other.currentSource.isSome = true →
      (other.advanceQueue env).playbackSpeed = 1 ∧
        (other.advanceQueue env).temporarySpeed = none := by
    intro other safe
    have refreshed : SpeedSettled (other.replaceSource env)
        ((other.replaceSource env).refreshSegments env) :=
      (steady_ticks.refreshSegments env _).speed
    exact ⟨rfl, refreshed.plain (replaced other safe)⟩
  obtain ⟨_, mode, source, _, _⟩ := leaveCurrent_frame room env.now
  have left : (room.leaveCurrent env.now).temporarySpeed = none ∨
      (room.leaveCurrent env.now).currentSource.isSome = true := by
    rw [source]
    exact safe.imp_left (leaveCurrent_settled room env.now).plain
  unfold dequeueNext
  dsimp only
  split
  · rename_i current present dj
    unfold restarts at moves
    rw [← source, present, ← mode, dj] at moves
    cases moves
  · exact advanced _ left
  · exact advanced _ left

end Room

namespace RoomAction

/-- The action moves on to another item, or to none, and so resets the speed. -/
def resetsSpeed (env : Env) (action : RoomAction) (room : Room) : Bool :=
  (action.dequeueEntry env room).any fun entry => !entry.restarts

/-- The action is an explicit choice of speed. -/
def setsSpeed : RoomAction → Bool
  | .request (.playbackSpeed _) _ => true
  | _ => false

/-- What an action does to the two speeds. -/
inductive SpeedOutcome (env : Env) (action : RoomAction) (room after : Room) : Prop
  | reset (moves : action.resetsSpeed env room = true) (speed : after.playbackSpeed = 1)
      (plain : after.temporarySpeed = none)
  | settled (stays : action.resetsSpeed env room = false) (kept : Room.SpeedSettled room after)
  | chosen (sets : action.setsSpeed = true) (plain : after.temporarySpeed = none)
  | begun (plain : room.temporarySpeed = none) (gesture : TemporarySpeed)
      (present : after.temporarySpeed = some gesture)
      (remembered : gesture.previousSpeed = room.playbackSpeed)

variable (env : Env) (room : Room)

/-- The dequeue of an action, with what leads up to it and what follows. -/
theorem SpeedOutcome.dequeued {action : RoomAction} {room entry after : Room}
    (safe : room.SpeedSafe) (called : action.dequeueEntry env room = some entry)
    (settled : Room.SpeedSettled room entry)
    (source : entry.currentSource.isSome = room.currentSource.isSome)
    (finished : Room.SpeedSettled (entry.dequeueNext env) after) :
    SpeedOutcome env action room after := by
  have resets : action.resetsSpeed env room = !entry.restarts := by
    unfold resetsSpeed
    rw [called]
    rfl
  cases again : entry.restarts with
  | true =>
      refine .settled (by rw [resets, again]; rfl) ?_
      exact IsTrans.trans _ _ _ settled
        (IsTrans.trans _ _ _ (Room.dequeueNext_restart env entry again) finished)
  | false =>
      have safe : entry.temporarySpeed = none ∨ entry.currentSource.isSome = true := by
        cases speed : room.temporarySpeed with
        | none => exact Or.inl (settled.plain speed)
        | some gesture =>
            rw [source]
            exact Or.inr (safe (by rw [speed]; rfl)).2.2
      obtain ⟨speed, plain⟩ := Room.dequeueNext_reset env entry again safe
      exact .reset (by rw [resets, again]; rfl) ((finished.speed_eq plain).trans speed)
        (finished.plain plain)

/-- A request that neither dequeues nor chooses a speed. -/
theorem SpeedOutcome.of_handler {request : RoomRequest} {context : RoomRequestContext} {room : Room}
    (elsewhere : request ≠ .skip)
    (kept : (Room.handle env request context).Keeps Room.SpeedSettled room) :
    SpeedOutcome env (.request request context) room
      ((Room.processRequest env request context).after room) := by
  refine .settled ?_ (Room.keeps_bind_of_after room (Room.checkSome_after room _ _) fun _ => kept)
  cases request with
  | skip => exact absurd rfl elsewhere
  | _ => rfl

/-- `update` moves on, or leaves the speeds but for a temporary one that ends. -/
theorem update_speed (safe : room.SpeedSafe) :
    SpeedOutcome env .update room ((Room.update env).after room) := by
  have settled := Room.settlePlayback_steady env room
  have finished : ∀ other : Room, (do
      Room.keepAlive env
      modify fun room => if room.queueMode = .vote then room.orderByVotes else room
      modify (Room.updateSegments env) : RoomM Unit).Keeps Room.SpeedSettled other := by
    intro other
    exact Keeps.bind ((Room.steady_ticks.keepAlive env other).mono Room.Steady.speed) fun _ _ =>
      Keeps.modify_bind (Room.settled_writes.orderByVotes _)
        (Room.keeps_modify _ (Room.updateSegments_steady env _).speed)
  have source : (room.settlePlayback env).currentSource.isSome = room.currentSource.isSome := by
    have same : (room.settlePlayback env).currentSource.map QueueItem.toVideoId =
        room.currentSource.map QueueItem.toVideoId := congrArg Contents.source settled.contents
    rw [← Option.isSome_map (f := QueueItem.toVideoId), same, Option.isSome_map]
  have unfolded : (Room.update env).after room = (do
      Room.keepAlive env
      modify fun room => if room.queueMode = .vote then room.orderByVotes else room
      modify (Room.updateSegments env) : RoomM Unit).after
        ((room.settlePlayback env).updateSource env) := rfl
  rw [unfolded]
  unfold Room.updateSource
  by_cases due : (room.settlePlayback env).wantsNext env.now = true
  · rw [if_pos due]
    refine .dequeued env safe ?_ settled.speed source (finished _)
    unfold dequeueEntry
    dsimp only
    rw [if_pos due]
  · rw [if_neg due]
    refine .settled ?_ (IsTrans.trans _ _ _ settled.speed (finished _))
    unfold resetsSpeed dequeueEntry
    dsimp only
    rw [if_neg due]
    rfl

/-- `skip` moves on, or changes a vote. -/
theorem skip_speed (context : RoomRequestContext) (safe : room.SpeedSafe) :
    SpeedOutcome env (.request .skip context) room
      ((Room.processRequest env .skip context).after room) := by
  have checked : Room.processRequest env .skip context =
      (Room.check context.role .skip >>= fun _ => Room.skip env context) := rfl
  by_cases may : room.grants.granted context.role .skip = true
  · have entered : (Room.processRequest env .skip context).after room =
        (Room.skip env context).after room := by
      rw [checked]
      unfold Room.check
      rw [after_bind, outcome_get_bind, after_get_bind, if_pos may]
      rfl
    rw [entered]
    unfold Room.skip
    rw [after_get_bind]
    cases present : room.currentSource with
    | none =>
        refine .settled ?_ (.of_eq rfl)
        unfold resetsSpeed dequeueEntry
        rw [present]
        simp
    | some current =>
        have source : (room.voteToSkip context).currentSource.isSome =
            room.currentSource.isSome := by
          unfold Room.voteToSkip
          split
          · split <;> rfl
          · rfl
        have voted := Room.settled_writes.voteToSkip context room
        dsimp only
        rw [after_modify_bind, after_get_bind]
        by_cases enough : (room.voteToSkip context).shouldSkip = true
        · rw [if_pos enough]
          have called : (RoomAction.request .skip context).dequeueEntry env room =
              some (room.voteToSkip context) := by
            unfold dequeueEntry
            simp [may, present, enough]
          refine .dequeued env safe called voted source ?_
          have cleared : ∀ other : Room, Room.SpeedSettled other (other.assignVideoSegments []) :=
            fun _ => .of_eq rfl
          rw [after_modify_bind]
          exact Keeps.modify_bind (Room.settled_writes.publishRoomEvent _ _ _ _ _)
            (Room.keeps_modify _ (cleared _))
        · rw [if_neg enough]
          refine .settled ?_ voted
          unfold resetsSpeed dequeueEntry
          simp [enough]
  · have refused : (Room.processRequest env .skip context).after room = room := by
      rw [checked]
      unfold Room.check
      rw [after_bind, outcome_get_bind, after_get_bind, if_neg may]
      rfl
    rw [refused]
    refine .settled ?_ (.of_eq rfl)
    unfold resetsSpeed dequeueEntry
    simp [may]

/-- `setPlaybackSpeed` ends a temporary speed without giving back the one before. -/
theorem playbackSpeed_speed (speed : Number) (context : RoomRequestContext) :
    SpeedOutcome env (.request (.playbackSpeed speed) context) room
      ((Room.processRequest env (.playbackSpeed speed) context).after room) := by
  have chosen : (Room.setPlaybackSpeed env speed).after room = room ∨
      ((Room.setPlaybackSpeed env speed).after room).temporarySpeed = none := by
    unfold Room.setPlaybackSpeed
    split
    · rw [after_ite]
      split
      · exact Or.inl rfl
      · refine Or.inr ?_
        rw [after_modify]
        change (Playback.changeSpeed _ env.now room.toPlayback).temporarySpeed = none
        simp
    · exact Or.inl rfl
  have asked : (Room.processRequest env (.playbackSpeed speed) context).after room = room ∨
      ((Room.processRequest env (.playbackSpeed speed) context).after room).temporarySpeed =
        none := by
    have checked : Room.processRequest env (.playbackSpeed speed) context =
        (Room.check context.role .speed >>= fun _ => Room.setPlaybackSpeed env speed) := rfl
    rw [checked, after_bind, Room.check_after]
    split
    · exact chosen
    · exact Or.inl rfl
  rcases asked with same | plain
  · rw [same]
    exact .settled rfl (.of_eq rfl)
  · exact .chosen rfl plain

/-- `setTemporaryPlaybackSpeed` begins a gesture over the speed in force, or leaves the
speeds but for a temporary one that ends. -/
theorem temporaryPlaybackSpeed_speed (action : GestureAction) (gestureId : String)
    (video : Option VideoId) (context : RoomRequestContext) :
    SpeedOutcome env (.request (.temporaryPlaybackSpeed action gestureId video) context) room
      ((Room.setTemporaryPlaybackSpeed env action gestureId video context).after room) := by
  unfold Room.setTemporaryPlaybackSpeed
  rw [after_get_bind, after_ite]
  split
  · exact .settled rfl (.of_eq rfl)
  · split
    · exact .settled rfl (.of_eq rfl)
    · rename_i clientId _
      cases action with
      | stop =>
          rw [after_ite]
          split
          · exact .settled rfl (Playback.endTemporaryPlaybackSpeed_steady _ env.now).speed
          · exact .settled rfl (.of_eq rfl)
      | renew =>
          have renewed : Room.SpeedSettled room
              (room.onPlayback (Playback.renewTemporaryPlaybackSpeed env.now)) := .of_eq rfl
          refine .settled rfl ?_
          change Keeps Room.SpeedSettled (Room.check context.role .speed >>= fun _ =>
            if room.ownsGesture clientId gestureId then
              modify (Room.onPlayback (Playback.renewTemporaryPlaybackSpeed env.now))
            else pure ()) room
          exact Room.keeps_check room
            (Keeps.ite (fun _ => Room.keeps_modify room renewed) fun _ => Keeps.pure _ _)
      | start =>
          dsimp only
          rw [after_bind, Room.check_after]
          split
          · rw [after_ite]
            split
            · rename_i allowed
              have plain : room.temporarySpeed = none := by
                simp only [Room.canSpeedUp, Bool.and_eq_true, Option.isNone_iff_eq_none] at allowed
                exact allowed.2
              have opened := (Room.releaseBufferGate_steady room env.now false).speed
              rw [after_modify_bind, after_get_bind, after_ite]
              split
              · refine .begun plain ⟨clientId, gestureId, TEMPORARY_PLAYBACK_SPEED,
                  (room.releaseBufferGate false env.now).playbackSpeed⟩ rfl ?_
                exact Room.SpeedSettled.speed_eq opened plain
              · exact .settled rfl opened
            · exact .settled rfl (.of_eq rfl)
          · exact .settled rfl (.of_eq rfl)

/-- What every action does to the two speeds. -/
theorem apply_speed (action : RoomAction) (safe : room.SpeedSafe) :
    SpeedOutcome env action room (action.apply env room) := by
  by_cases background : action.isBackground = true
  · refine .settled ?_ (action.apply_steady env room background).speed
    cases action with
    | request request context => cases background
    | update => cases background
    | _ => rfl
  cases action with
  | update => exact update_speed env room safe
  | request request context =>
      have steady : request ≠ .skip → (Room.handle env request context).Keeps Room.Steady room →
          SpeedOutcome env (.request request context) room
            ((Room.processRequest env request context).after room) :=
        fun elsewhere kept => .of_handler env elsewhere (kept.mono Room.Steady.speed)
      cases request with
      | skip => exact skip_speed env room context safe
      | playbackSpeed speed => exact playbackSpeed_speed env room speed context
      | temporaryPlaybackSpeed action gestureId video =>
          exact temporaryPlaybackSpeed_speed env room action gestureId video context
      | join info reconnect =>
          exact .of_handler env nofun (Room.joinRoom_settled env context room info reconnect)
      | leave => exact .of_handler env nofun (Room.leaveRoom_settled env context room)
      | undo event => exact .of_handler env nofun (Room.undo_settled env context room event)
      | applySettings settings =>
          exact .of_handler env nofun (Room.applySettings_settled env context room settings)
      | playNow video => exact .of_handler env nofun (Room.playNow_settled env context room video)
      | playback state => exact steady nofun (Room.playback_steady env context room state)
      | seek value => exact steady nofun (Room.seek_steady env context room value)
      | promote targetClientId role =>
          exact steady nofun (Room.promoteUser_steady context room targetClientId role)
      | updateUser info prepared =>
          exact steady nofun ((Room.steady_upkeep env.now).updateUser env room info prepared)
      | add | remove | order | vote | chat | shuffle | restoreQueue | kick | updateQueueItem
      | addNote | deleteNote => exact .of_handler env nofun (Room.settled_writes.handle env context room rfl)
  | _ => exact absurd rfl background

end RoomAction

namespace Room

variable (env : Env) (context : RoomRequestContext) (room : Room)

/-- The speed to come back to: the one a gesture replaced, or else the one in force. -/
def plainSpeed : ℚ :=
  match room.temporarySpeed with
  | some gesture => gesture.previousSpeed
  | none => room.playbackSpeed

theorem SpeedSettled.plainSpeed_eq {before after : Room} (settled : SpeedSettled before after) :
    after.plainSpeed = before.plainSpeed := by
  unfold plainSpeed
  rcases settled with ⟨temporary, speed⟩ | ⟨gesture, present, ended, restored⟩
  · rw [temporary, speed]
  · rw [present, ended]
    exact restored

/-- A request about a gesture that is not the one in force does nothing. -/
theorem setTemporaryPlaybackSpeed_foreign {gesture : TemporarySpeed}
    (inForce : room.temporarySpeed = some gesture) (action : GestureAction) (gestureId : String)
    (video : Option VideoId)
    (foreign : context.clientId ≠ some gesture.clientId ∨ gestureId ≠ gesture.gestureId) :
    (setTemporaryPlaybackSpeed env action gestureId video context).after room = room := by
  unfold setTemporaryPlaybackSpeed
  rw [after_get_bind, after_ite]
  split
  · rfl
  · split
    · rfl
    · rename_i clientId found
      have self : context.clientId = some clientId := (Option.filter_eq_some_iff.mp found).1
      have disowned : room.ownsGesture clientId gestureId = false := by
        unfold ownsGesture
        rw [inForce]
        rcases foreign with other | other
        · have differs : gesture.clientId ≠ clientId := by
            rintro rfl
            exact other self
          simp [differs]
        · simp [other.symm]
      have refused : room.canSpeedUp video = false := by
        unfold canSpeedUp
        rw [inForce]
        simp
      cases action with
      | stop => simp [disowned]
      | renew =>
          dsimp only
          rw [after_bind, check_after, disowned]
          split <;> rfl
      | start =>
          dsimp only
          rw [after_bind, check_after, refused]
          split <;> rfl

end Room

namespace RoomState

/-- A step under which the gesture stays in force keeps the speed to come back to. -/
theorem step_plainSpeed {before after : RoomState} {label : RoomLabel}
    (reachable : roomSystem.Reachable before) (step : roomSystem.Step before label after)
    (inForce : after.room.temporarySpeed ≠ none) :
    after.room.plainSpeed = before.room.plainSpeed := by
  obtain ⟨_, _, rfl⟩ := step
  cases RoomAction.apply_speed label.env before.room label.action (speedSafe reachable) with
  | reset _ _ plain => exact absurd plain inForce
  | settled _ kept => exact kept.plainSpeed_eq
  | chosen _ plain => exact absurd plain inForce
  | begun plain gesture present remembered =>
      have now : (before.next label).room.plainSpeed = gesture.previousSpeed := by
        unfold Room.plainSpeed
        rw [show (before.next label).room.temporarySpeed = some gesture from present]
      rw [now, remembered, Room.plainSpeed, plain]

/-- A step after which no gesture is in force, short of a choice of speed, leaves the plain
speed, or resets it with the item. -/
theorem step_settles {before after : RoomState} {label : RoomLabel}
    (reachable : roomSystem.Reachable before) (step : roomSystem.Step before label after)
    (ended : after.room.temporarySpeed = none) (unset : label.action.setsSpeed = false) :
    after.room.playbackSpeed =
      if label.action.resetsSpeed label.env before.room then 1 else before.room.plainSpeed := by
  obtain ⟨_, _, rfl⟩ := step
  have plain : (before.next label).room.plainSpeed = (before.next label).room.playbackSpeed := by
    unfold Room.plainSpeed
    rw [ended]
  cases RoomAction.apply_speed label.env before.room label.action (speedSafe reachable) with
  | reset moves speed _ =>
      rw [if_pos moves]
      exact speed
  | settled stays kept =>
      rw [stays, ← plain]
      exact kept.plainSpeed_eq
  | chosen sets _ =>
      rw [unset] at sets
      cases sets
  | begun _ gesture present _ =>
      have still : (before.next label).room.temporarySpeed = some gesture := present
      rw [ended] at still
      cases still

/-- While a gesture is in force, the speed to come back to stays the same. -/
theorem steps_plainSpeed {begun held : RoomState} (reachable : roomSystem.Reachable begun)
    (run : (roomSystem.restrict fun state _ => state.room.temporarySpeed ≠ none).Steps begun held)
    (inForce : held.room.temporarySpeed ≠ none) :
    held.room.plainSpeed = begun.room.plainSpeed := by
  refine TransitionSystem.Steps.relates
    (fun state => state.room.temporarySpeed ≠ none → state.room.plainSpeed = begun.room.plainSpeed)
    (fun _ => rfl) ?_ run inForce
  intro before label after prior same step still
  exact (step_plainSpeed (reachable.steps prior.of_restrict) step.2 still).trans (same step.1)

/-- A temporary speed is in force only in a room that plays a source at twice the speed. A
gesture that ends, other than by a choice of speed, gives back the speed from before it
began, which the move to another item resets. And a request about a gesture that is not the
one in force changes nothing. -/
theorem temporary_speed_comes_back :
    (∀ state, roomSystem.Reachable state → state.room.temporarySpeed ≠ none →
      state.room.isPlaying = true ∧ state.room.playbackSpeed = 2 ∧
        state.room.currentSource ≠ none) ∧
    (∀ start first begun held last ended, roomSystem.Reachable start →
      start.room.temporarySpeed = none → roomSystem.Step start first begun →
      (roomSystem.restrict fun state _ => state.room.temporarySpeed ≠ none).Steps begun held →
      held.room.temporarySpeed ≠ none → roomSystem.Step held last ended →
      ended.room.temporarySpeed = none → last.action.setsSpeed = false →
      ended.room.playbackSpeed =
        if last.action.resetsSpeed last.env held.room then 1 else start.room.playbackSpeed) ∧
    (∀ (state : RoomState) (gesture : TemporarySpeed) (env : Env) (context : RoomRequestContext)
      (action : GestureAction) (gestureId : String) (video : Option VideoId),
      state.room.temporarySpeed = some gesture →
      context.clientId ≠ some gesture.clientId ∨ gestureId ≠ gesture.gestureId →
      (Room.processRequest env (.temporaryPlaybackSpeed action gestureId video) context).after
        state.room = state.room) := by
  refine ⟨?_, ?_, ?_⟩
  · intro state reachable inForce
    obtain ⟨playing, double, source⟩ :=
      speedSafe reachable (Option.isSome_iff_ne_none.mpr inForce)
    exact ⟨playing, double, Option.isSome_iff_ne_none.mp source⟩
  · intro start first begun held last ended reachable plain begins run inForce ends gone unset
    have begunReachable : roomSystem.Reachable begun := reachable.steps (.single begins)
    have heldReachable := begunReachable.steps run.of_restrict
    have begunInForce : begun.room.temporarySpeed ≠ none := by
      rcases Relation.ReflTransGen.cases_head run with same | ⟨_, ⟨_, step⟩, _⟩
      · rw [same]
        exact inForce
      · exact step.1
    have remembered : held.room.plainSpeed = start.room.playbackSpeed := by
      rw [steps_plainSpeed begunReachable run inForce,
        step_plainSpeed reachable begins begunInForce, Room.plainSpeed, plain]
    rw [step_settles heldReachable ends gone unset, remembered]
  · intro state gesture env context action gestureId video inForce foreign
    exact Room.setTemporaryPlaybackSpeed_foreign env context state.room inForce action gestureId
      video foreign

end RoomState

namespace Sample

/-- A viewer plays a video at one and a half times the speed. -/
def playFaster : List RoomLabel :=
  [⟨env 1 "first", .request (.join { id := "viewer", username := some "v" } false) viewer⟩,
    ⟨env 2 "first", .request (.playNow { service := .youtube, id := "video" }) viewer⟩,
    ⟨env 3 "first", .request (.playbackSpeed (.fin (3 / 2))) viewer⟩]

/-- A press on the video, or its end. -/
def press (now : Int) (action : GestureAction) : RoomLabel :=
  ⟨env now "first",
    .request (.temporaryPlaybackSpeed action "press" (some ⟨.youtube, "video"⟩)) viewer⟩

/-- The room before the press, under it and after it. -/
def faster : RoomState := RoomState.run playFaster ⟨Room.new {} 0, 0⟩

def pressed : RoomState := faster.next (press 4 .start)

def letGo : RoomState := pressed.next (press 5 .stop)

end Sample

/-- The press doubles the speed, and letting go gives back the one chosen before. -/
theorem RoomState.temporary_speed_comes_back_letGo :
    Sample.pressed.room.playbackSpeed = 2 ∧ Sample.letGo.room.playbackSpeed = 3 / 2 := by
  have possible : RoomState.runs (fun _ _ => True) Sample.playFaster ⟨Room.new {} 0, 0⟩ = true := by
    decide +kernel
  have reachable : roomSystem.Reachable Sample.faster :=
    ⟨_, .created {} 0, (RoomState.steps_run _ _ _ possible).of_restrict⟩
  have plain : Sample.faster.room.temporarySpeed = none := by decide +kernel
  have speed : Sample.faster.room.playbackSpeed = 3 / 2 := by decide +kernel
  have begins : roomSystem.Step Sample.faster (Sample.press 4 .start) Sample.pressed :=
    ⟨trivial, by decide +kernel, rfl⟩
  have inForce : Sample.pressed.room.temporarySpeed ≠ none := by decide +kernel
  have ends : roomSystem.Step Sample.pressed (Sample.press 5 .stop) Sample.letGo :=
    ⟨trivial, by decide +kernel, rfl⟩
  have ended : Sample.letGo.room.temporarySpeed = none := by decide +kernel
  obtain ⟨double, returns, _⟩ := RoomState.temporary_speed_comes_back
  have settled := returns _ _ _ _ _ _ reachable plain begins (.refl _) inForce ends ended rfl
  exact ⟨(double _ (reachable.steps (.single begins)) inForce).2.1, settled.trans speed⟩

end OpenTogetherTube
