import OpenTogetherTube.Room.Handlers

/-!
# What a room plays, who watches and what they voted for

`Contents` is the part of a room that viewers fill: who is there, what is current, what is
queued and the votes. Most methods leave it alone, and leave the speed alone too but for
ending a temporary one; `Steady` says so, one lemma a method. What the others do to the
contents is in `Turns`.
-/

namespace OpenTogetherTube

open Lib Lib.Handler

/-- Two clocks run at one speed, or the temporary one ended and gave back the speed it had
replaced. -/
def SpeedKept (before after : RoomClock) : Prop :=
  after.temporarySpeed = before.temporarySpeed ∧ after.playbackSpeed = before.playbackSpeed ∨
    ∃ gesture, before.temporarySpeed = some gesture ∧ after.temporarySpeed = none ∧
      after.playbackSpeed = gesture.previousSpeed

namespace SpeedKept

/-- Neither speed was touched. -/
theorem of_eq {before after : RoomClock} (temporary : after.temporarySpeed = before.temporarySpeed)
    (speed : after.playbackSpeed = before.playbackSpeed) : SpeedKept before after :=
  Or.inl ⟨temporary, speed⟩

instance : IsPreorder RoomClock SpeedKept where
  refl _ := .of_eq rfl rfl
  trans first second third earlier later := by
    rcases later with ⟨temporary, speed⟩ | ⟨gesture, present, ended, restored⟩
    · unfold SpeedKept
      rw [temporary, speed]
      exact earlier
    · rcases earlier with ⟨temporary, _⟩ | ⟨_, _, none, _⟩
      · exact Or.inr ⟨gesture, temporary.symm.trans present, ended, restored⟩
      · rw [none] at present
        cases present

theorem refl (clock : RoomClock) : SpeedKept clock clock := .of_eq rfl rfl

theorem trans {first second third : RoomClock} (earlier : SpeedKept first second)
    (later : SpeedKept second third) : SpeedKept first third :=
  IsTrans.trans _ _ _ earlier later

variable (clock : RoomClock) (now : Int)

theorem restoreSpeed : SpeedKept clock (clock.restoreSpeed now) := by
  unfold RoomClock.restoreSpeed
  split
  · exact refl clock
  · rename_i gesture present
    exact Or.inr ⟨gesture, present, rfl, rfl⟩

theorem start : SpeedKept clock (clock.start now) := by
  unfold RoomClock.start
  split <;> exact .of_eq rfl rfl

theorem stop : SpeedKept clock (clock.stop now) := by
  refine (restoreSpeed clock now).trans ?_
  unfold RoomClock.stop
  dsimp only
  split <;> exact .of_eq rfl rfl

end SpeedKept

/-- How often the current source has been set. -/
def GateState.sourceSets (gate : GateState) : Nat :=
  gate.gateTrace.countP fun event =>
    match event with
    | .sourceSet _ => true
    | _ => false

namespace Playback

/-- The source stays and so does the speed, but for a temporary one that ends. -/
structure Steady (before after : Playback) : Prop where
  source : after.currentSource.map QueueItem.toVideoId =
    before.currentSource.map QueueItem.toVideoId
  sets : after.toGateState.sourceSets = before.toGateState.sourceSets
  speed : SpeedKept before.toRoomClock after.toRoomClock

namespace Steady

instance : IsPreorder Playback Steady where
  refl _ := ⟨rfl, rfl, .refl _⟩
  trans _ _ _ first second := ⟨second.source.trans first.source, second.sets.trans first.sets,
    first.speed.trans second.speed⟩

theorem refl (p : Playback) : Steady p p := ⟨rfl, rfl, .refl _⟩

theorem trans {p q r : Playback} (first : Steady p q) (second : Steady q r) : Steady p r :=
  IsTrans.trans _ _ _ first second

/-- A change of other fields. -/
theorem of_eq {p q : Playback} (source : q.currentSource = p.currentSource)
    (trace : q.gateTrace = p.gateTrace) (clock : SpeedKept p.toRoomClock q.toRoomClock) :
    Steady p q := by
  refine ⟨by rw [source], ?_, clock⟩
  unfold GateState.sourceSets
  rw [trace]

end Steady

variable (p : Playback) (audience : Audience) (now : Int)

theorem endTemporaryPlaybackSpeed_steady : Steady p (p.endTemporaryPlaybackSpeed true now) :=
  .of_eq (by simp) (by simp) (by simpa using SpeedKept.restoreSpeed p.toRoomClock now)

theorem cancelPlaybackPreparation_steady : Steady p p.cancelPlaybackPreparation :=
  .of_eq (by simp) (by simp) (by simpa using SpeedKept.refl p.toRoomClock)

theorem play_steady : Steady p (p.play now) := by
  refine ⟨by simp, ?_, by simpa using SpeedKept.start p.toRoomClock now⟩
  simp only [play_frame, GateState.continued, GateState.sourceSets]
  split
  · simp
  · rfl

theorem pausePlaybackClock_steady : Steady p (p.pausePlaybackClock now) :=
  .of_eq (by simp) (by simp) (by simpa using SpeedKept.stop p.toRoomClock now)

theorem pause_steady (byBufferGate : Bool) : Steady p (p.pause byBufferGate now) := by
  refine ⟨by simp, ?_, by simpa using SpeedKept.stop p.toRoomClock now⟩
  cases byBufferGate with
  | true => simp [GateState.sourceSets]
  | false => simp [GateState.sourceSets, GateState.opened]

theorem seekRaw_steady (value : Number) : Steady p (p.seekRaw value now) :=
  .of_eq (by simp) (by simp) (.of_eq (by simp) (by simp))

theorem clearBufferGate_steady (gate : BufferGate) (timedOut : Bool) :
    Steady p (p.clearBufferGate gate timedOut audience now) := by
  refine ⟨by simp, ?_, .of_eq (by simp) (by simp)⟩
  simp [GateState.released, GateState.sourceSets]

theorem engageBufferGate_steady (waitingOn : List ClientId) :
    Steady p (p.engageBufferGate waitingOn now) := by
  refine ⟨by simp, ?_, by simpa using SpeedKept.stop p.toRoomClock now⟩
  simp [GateState.sourceSets]

theorem startPreparedPlayback_steady : Steady p (p.startPreparedPlayback now) := by
  rcases startPreparedPlayback_cases p now with
    same | ⟨_, _, _, _, _, clock, _, gate, source, _⟩
  · rw [same]
    exact .refl p
  · exact .of_eq source (by rw [gate]) (.of_eq (by rw [clock]) (by rw [clock]))

theorem assignRound_steady (round : PlaybackPreparation) : Steady p (p.assignRound round) :=
  .of_eq rfl rfl (.refl _)

theorem steady_methods : KeepsMethods audience now Steady where
  clearBufferGate p := clearBufferGate_steady p audience now
  play p := play_steady p now
  engageBufferGate p := engageBufferGate_steady p now
  waited _ _ _ := by
    refine ⟨rfl, ?_, .of_eq rfl rfl⟩
    simp [trace, GateState.sourceSets]
  assignRound := assignRound_steady
  timed _ _ := .of_eq rfl rfl (.refl _)
  startPreparedPlayback p := startPreparedPlayback_steady p now
  cancelPlaybackPreparation := cancelPlaybackPreparation_steady
  endTemporaryPlaybackSpeed p := endTemporaryPlaybackSpeed_steady p now

theorem prepareEmptyRoomPlayback_steady (id : String) :
    Steady p (p.prepareEmptyRoomPlayback id audience now) := by
  rcases prepareEmptyRoomPlayback_cases p now id audience with
    same | ⟨_, _, _, _, _, _, _, _, _, _, same⟩
  · rw [same]
    exact .refl p
  · rw [same]
    exact .of_eq rfl rfl (.of_eq rfl rfl)

theorem holdPlaybackForPreparation_steady (id : String) :
    Steady p (p.holdPlaybackForPreparation id audience now) := by
  have held : Steady p (p.holdClock now) := by
    refine .of_eq (by simp) (by simp) ?_
    rw [(holdClock_frame p now).1]
    exact (SpeedKept.restoreSpeed p.toRoomClock now).trans (.of_eq rfl rfl)
  exact held.trans (prepareEmptyRoomPlayback_steady _ audience now id)

theorem startItem_steady (id : String) : Steady p (p.startItem id audience now) := by
  unfold startItem
  split
  · exact .of_eq rfl rfl (.of_eq rfl rfl)
  · split
    · exact holdPlaybackForPreparation_steady p audience now id
    · split
      · exact .refl p
      · exact play_steady p now

theorem startItemNow_steady (id : String) : Steady p (p.startItemNow id audience now) := by
  unfold startItemNow
  split
  · exact holdPlaybackForPreparation_steady p audience now id
  · split
    · exact .refl p
    · exact play_steady p now

theorem holdEmptyPlaybackForJoin_steady (skipForReconnect : Bool) :
    Steady p (p.holdEmptyPlaybackForJoin skipForReconnect audience now) := by
  rcases holdEmptyPlaybackForJoin_cases p now skipForReconnect audience with
    same | ⟨_, clock, _, gate, source, _⟩
  · rw [same]
    exact .refl p
  · refine .of_eq source (by rw [gate]; rfl) ?_
    rw [clock]
    exact SpeedKept.stop p.toRoomClock now

theorem emptyRoom_steady (nobody : audience.realusers = []) :
    Steady p (p.emptyRoom audience now) := by
  obtain ⟨clock, _, gate, source, _⟩ := emptyRoom_frame p now audience nobody
  refine ⟨by rw [source], ?_, ?_⟩
  · rw [gate]
    split
    · simp [GateState.released, GateState.sourceSets]
    · rfl
  · rw [clock]
    exact SpeedKept.stop p.toRoomClock now

theorem rebuildRound_steady (id : String) (clientId : ClientId) :
    Steady p (p.rebuildRound id clientId audience now) := by
  unfold rebuildRound
  split
  · exact .refl p
  · split
    · refine (cancelPlaybackPreparation_steady p).trans (Steady.trans ?_
        (prepareEmptyRoomPlayback_steady _ audience now id))
      exact .of_eq rfl rfl (.refl _)
    · exact .refl p

theorem resumeForJoin_steady (reconnect mayPlay : Bool) (id : String) :
    Steady p (p.resumeForJoin reconnect mayPlay id audience now) := by
  unfold resumeForJoin
  split
  · have cleared : Steady p ({ p with resumeOnNextJoin := false }.markDirty .isPlaying) :=
      .of_eq rfl rfl (.refl _)
    exact (cleared.trans (play_steady _ now)).trans (.of_eq rfl rfl (.refl _))
  · exact prepareEmptyRoomPlayback_steady p audience now id

theorem noteRecovery_steady (clientId : ClientId) : Steady p (p.noteRecovery clientId) := by
  refine ⟨by simp, ?_, .of_eq (by simp) (by simp)⟩
  simp [GateState.sourceSets]

end Playback

/-- What viewers fill a room with. Videos are told apart by service and id. -/
structure Contents where
  viewers : List ClientId
  source : Option VideoId
  /-- How often the source has been set. -/
  sets : Nat
  queue : List VideoId
  prevQueue : Option (List VideoId)
  votes : OrderedMap String (OrderedSet ClientId)
  votesToSkip : OrderedSet ClientId
  queueMode : QueueMode
  enableVoteSkip : Bool
deriving DecidableEq

namespace Room

/-- The contents of a room. -/
def contents (room : Room) : Contents where
  viewers := room.realusers.map RoomUser.id
  source := room.currentSource.map QueueItem.toVideoId
  sets := room.toGateState.sourceSets
  queue := room.queue.map QueueItem.toVideoId
  prevQueue := room.prevQueue.map fun items => items.map QueueItem.toVideoId
  votes := room.votes
  votesToSkip := room.votesToSkip
  queueMode := room.queueMode
  enableVoteSkip := room.enableVoteSkip

/-- A playback method that keeps the source keeps the contents. -/
theorem onPlayback_contents {room : Room} {update : Playback → Playback}
    (source : (update room.toPlayback).currentSource.map QueueItem.toVideoId =
      room.currentSource.map QueueItem.toVideoId)
    (sets : (update room.toPlayback).toGateState.sourceSets = room.toGateState.sourceSets) :
    (room.onPlayback update).contents = room.contents := by
  unfold contents onPlayback
  dsimp only
  rw [source, sets]

/-- The contents stay, and so does the speed but for a temporary one that ends. -/
structure Steady (before after : Room) : Prop where
  contents : after.contents = before.contents
  speed : SpeedKept before.toRoomClock after.toRoomClock

/-- The speed stays but for a temporary one that ends. -/
def SpeedSettled (before after : Room) : Prop :=
  SpeedKept before.toRoomClock after.toRoomClock

instance : IsPreorder Room SpeedSettled where
  refl _ := .refl _
  trans _ _ _ := SpeedKept.trans

namespace Steady

instance : IsPreorder Room Steady where
  refl _ := ⟨rfl, .refl _⟩
  trans _ _ _ first second :=
    ⟨second.contents.trans first.contents, first.speed.trans second.speed⟩

theorem refl (room : Room) : Steady room room := ⟨rfl, .refl _⟩

theorem trans {first second third : Room} (earlier : Steady first second)
    (later : Steady second third) : Steady first third :=
  IsTrans.trans _ _ _ earlier later

/-- A change of other fields. -/
theorem of_eq {before after : Room} (contents : after.contents = before.contents)
    (clock : after.toRoomClock = before.toRoomClock) : Steady before after := by
  refine ⟨contents, ?_⟩
  rw [clock]
  exact .refl _

theorem onPlayback {room : Room} {update : Playback → Playback}
    (steady : Playback.Steady room.toPlayback (update room.toPlayback)) :
    Steady room (room.onPlayback update) :=
  ⟨onPlayback_contents steady.source steady.sets, steady.speed⟩

end Steady

variable (env : Env) (context : RoomRequestContext) (room : Room)

theorem steady_messages : KeepsMessages Steady where
  publish _ _ := .of_eq rfl rfl
  publishRoomEvent room _ _ _ _ := by
    unfold publishRoomEvent
    split
    · exact .refl room
    · split <;> exact .of_eq rfl rfl
  assignPendingLeaveEvents _ _ := .of_eq rfl rfl

theorem steady_ticks : KeepsTicks Steady where
  assignVideoSegments _ _ := .of_eq rfl rfl
  wantSponsorBlock _ _ := .of_eq rfl rfl
  assignPause _ _ := .of_eq rfl rfl
  keepAlivePing _ _ := .of_eq rfl rfl

theorem playback_steady (state : Bool) : (playback env state context).Keeps Steady room := by
  refine Keeps.modify_bind (.onPlayback ?_) (keeps_modify _ (steady_messages.publishRoomEvent _ _ _ _ _))
  cases state with
  | true => exact Playback.play_steady _ env.now
  | false => exact Playback.pause_steady _ env.now false

theorem seek_steady (value : Option Number) : (seek env value context).Keeps Steady room :=
  steady_ticks.seek env context room steady_messages value
    fun _ _ _ => .onPlayback (Playback.seekRaw_steady _ env.now _)

/-- A change of one item's subtitle keeps which videos are queued. -/
theorem updateItem_steady (video : VideoId) (subtitleUrl : Option (Option String)) :
    (updateItem video subtitleUrl).Keeps Steady room := by
  unfold updateItem
  refine Keeps.get_bind ?_
  split
  · exact Keeps.throw _ _
  · rename_i index _
    refine keeps_modify room (.of_eq ?_ rfl)
    have same : (room.queue.modify index fun item =>
        { item with subtitleUrl := subtitleUrl.getD item.subtitleUrl }).map QueueItem.toVideoId =
          room.queue.map QueueItem.toVideoId := by
      refine List.ext_getElem? ?_
      intro place
      simp only [List.getElem?_map, List.getElem?_modify]
      cases room.queue[place]? with
      | none => rfl
      | some item => split <;> rfl
    unfold contents
    congr 1

theorem updateQueueItem_steady (video : VideoId) (subtitleUrl : Option (Option String)) :
    (updateQueueItem env video subtitleUrl context).Keeps Steady room := by
  unfold updateQueueItem
  refine keeps_bind_of_after room (assertUsableSubtitle_after room env _) fun _ => ?_
  exact Keeps.bind (updateItem_steady room _ _) fun _ _ =>
    keeps_modify _ (steady_messages.publishRoomEvent _ _ _ _ _)

/-- A viewer is replaced by one with the same id. -/
theorem replaceUser_steady (user : RoomUser) : Steady room (room.replaceUser user) := by
  refine .of_eq ?_ rfl
  have same : (room.realusers.replaceF fun other =>
      if other.id = user.id then some user else none).map RoomUser.id =
        room.realusers.map RoomUser.id := by
    induction room.realusers with
    | nil => rfl
    | cons other rest ih =>
        rw [List.replaceF_cons]
        by_cases found : other.id = user.id
        · simp [found]
        · simp [found, ih]
  unfold contents replaceUser
  dsimp only
  rw [same]

theorem evaluateBufferGate_steady (now : Int) : Steady room (room.evaluateBufferGate now) :=
  .onPlayback ((Playback.steady_methods _ now).evaluateBufferGate _ _)

theorem releaseBufferGate_steady (now : Int) (timedOut : Bool) :
    Steady room (room.releaseBufferGate timedOut now) :=
  .onPlayback ((Playback.steady_methods _ now).releaseBufferGate _ timedOut)

theorem steady_upkeep (now : Int) : KeepsUpkeep now Steady where
  toKeepsMessages := steady_messages
  replaceUser room user _ := replaceUser_steady room user
  saves _ := .of_eq rfl rfl
  unsaved _ := .of_eq rfl rfl
  endTemporaryPlaybackSpeed _ := .onPlayback (Playback.endTemporaryPlaybackSpeed_steady _ now)
  evaluateBufferGate room := evaluateBufferGate_steady room now
  noteRecovery _ _ := .onPlayback (Playback.noteRecovery_steady _ _)
  finishPlaybackPreparation _ _ _ _ :=
    .onPlayback ((Playback.steady_methods _ now).finishPlaybackPreparation _ _ _ _)

theorem promoteUser_steady (targetClientId : ClientId) (role : Role) :
    (promoteUser targetClientId role context).Keeps Steady room :=
  keeps_promoteUser room context (fun _ _ => .of_eq rfl rfl) fun _ _ => .of_eq rfl rfl

theorem sync_steady : (sync env).Keeps Steady room :=
  keeps_sync room (fun _ _ => .of_eq rfl rfl) fun _ _ _ => .of_eq rfl rfl

theorem endOwnGesture_steady (clientId : ClientId) (now : Int) :
    Steady room (room.endOwnGesture clientId now) :=
  keeps_endOwnGesture room clientId ((steady_upkeep now).endTemporaryPlaybackSpeed room)

theorem settleLeave_steady (clientId : ClientId) : (settleLeave env clientId).Keeps Steady room := by
  refine keeps_settleLeave room clientId (fun nobody => ?_)
    (.onPlayback (Playback.rebuildRound_steady _ _ env.now env.uuid clientId))
    (sync_steady env) ((steady_upkeep env.now).flushSave env)
  have stopped : Steady room (room.onPlayback (Playback.emptyRoom room.toAudience env.now)) :=
    .onPlayback (Playback.emptyRoom_steady _ _ env.now (List.isEmpty_iff.mp nobody))
  exact stopped.trans (.of_eq rfl rfl)

theorem settlePlayback_steady : Steady room (room.settlePlayback env) :=
  (evaluateBufferGate_steady room env.now).trans
    (Steady.trans (.onPlayback ((Playback.steady_methods _ env.now).updatePreparation _))
      (.onPlayback ((Playback.steady_methods _ env.now).updateTemporarySpeed _)))

theorem updateSegments_steady : Steady room (room.updateSegments env) :=
  steady_ticks.updateSegments env room fun _ _ _ =>
    Steady.trans (.onPlayback (Playback.seekRaw_steady _ env.now _)) (.of_eq rfl rfl)

theorem stopForUnload_steady (now : Int) : Steady room (room.stopForUnload now) := by
  refine steady_messages.stopForUnload room now (.onPlayback (Playback.Steady.trans ?_
    (Playback.endTemporaryPlaybackSpeed_steady _ now))) fun room => ?_
  · exact .of_eq rfl rfl (.refl _)
  · have stopped : Steady room (room.onPlayback (Playback.pausePlaybackClock now)) :=
      .onPlayback (Playback.pausePlaybackClock_steady _ now)
    exact stopped.trans (.of_eq rfl rfl)

end Room

namespace RoomAction

/-- Everything but requests and the tick: timers, checkpoints and what the manager does. -/
def isBackground : RoomAction → Bool
  | .request _ _ | .update => false
  | _ => true

theorem apply_steady (env : Env) (room : Room) (action : RoomAction)
    (background : action.isBackground = true) : Room.Steady room (action.apply env room) := by
  cases action with
  | request request context => cases background
  | update => cases background
  | playbackStartTimer =>
      have cleared : Room.Steady room { room with playbackStartTimer := none } := .of_eq rfl rfl
      exact cleared.trans (.onPlayback (Playback.startPreparedPlayback_steady _ env.now))
  | temporarySpeedTimer => exact .onPlayback (Playback.endTemporaryPlaybackSpeed_steady _ env.now)
  | leaveTimer token => exact Room.steady_messages.fireLeaveTimer room token
  | throttledSync =>
      have begun : Room.Steady room { room with syncPending := false } := .of_eq rfl rfl
      exact begun.trans (Room.sync_steady env _)
  | sync => exact Room.sync_steady env room
  | save => exact (Room.steady_upkeep env.now).saveStateToRedis env room
  | holdEmptyPlaybackForJoin reconnect =>
      exact .onPlayback (Playback.holdEmptyPlaybackForJoin_steady _ _ env.now reconnect)
  | setGrants grants =>
      have granted : Room.Steady room
          ({ room with grants := Grants.setAllGrants grants.masks }.markDirty .grants) :=
        .of_eq rfl rfl
      exact granted.trans (Room.evaluateBufferGate_steady _ env.now)
  | claim user => exact .of_eq rfl rfl
  | setPasswordHash hash => exact .of_eq rfl rfl
  | reauthenticate clientId token info =>
      exact (Room.steady_upkeep env.now).reauthenticate env room clientId token info
  | onBeforeUnload =>
      exact Keeps.modify_bind (Room.stopForUnload_steady room env.now)
        (Keeps.modify_bind (.of_eq rfl rfl) (Keeps.bind (Room.sync_steady env _) fun _ _ =>
          Room.keeps_modify _ ((Room.steady_upkeep env.now).flushSave env _)))

end RoomAction

end OpenTogetherTube
