import OpenTogetherTube.Room.Steps

/-!
# What playing leaves alone

Who a room is, what its roles may do, who is there and what was saved of it: a request touches these
in few places. A relation that looks at nothing else and is kept in those places is kept by every
action.
-/

namespace OpenTogetherTube

open Lib Lib.Handler

/-- What tells one room from another. -/
structure RoomIdentity where
  name : String
  isTemporary : Bool
  passwordHash : Option String
  owner : Option User
deriving DecidableEq

namespace Room

/-- The identity of a room. -/
def identity (room : Room) : RoomIdentity :=
  ⟨room.name, room.isTemporary, room.passwordHash, room.owner⟩

/-- What a step that saves nothing and moves nobody leaves alone. -/
def kept (room : Room) : Option StoredState × Nat × OrderedMap Role (List Nat) × List RoomUser :=
  (room.saved, room.permissionsRevision, room.userRoles, room.realusers)

/-- What a room has told its viewers, and which of it may be undone. -/
def told (room : Room) : List ServerMessage × List RoomEvent := (room.published, room.recentEvents)

/-- A relation that looks at the core of a room only, and at what the room has told. -/
structure KeepsCore (relation : Room → Room → Prop) : Prop where
  frame : ∀ {before after : Room}, after.identity = before.identity → after.kept = before.kept →
    after.grants = before.grants → after.told = before.told → relation before after
  publish : ∀ (room : Room) message, relation room (room.publish message)
  publishRoomEvent : ∀ (room : Room) request context additional knownUser,
    relation room (room.publishRoomEvent request context additional knownUser)
  /-- Events are forgotten, never added. -/
  forgetEvents : ∀ (room : Room) recentEvents, recentEvents ⊆ room.recentEvents →
    relation room { room with recentEvents }
  /-- No viewer gets the account number zero. -/
  seats : ∀ (room : Room) realusers,
    ((∀ user ∈ room.realusers, user.userId ≠ some 0) → ∀ user ∈ realusers, user.userId ≠ some 0) →
      relation room { room with realusers }
  saves : ∀ (room : Room) now,
    relation room { room with savePending := false, saved := some (room.serializeState now) }
  assignRole : ∀ (room : Room) id role, relation room (room.assignRole id role)

/-- An announcement touches only what was told. -/
theorem publishRoomEvent_frame {Part : Type} (project : Room → Part)
    (frame : ∀ (room : Room) published recentEvents nextSerial,
      project { room with published, recentEvents, nextSerial } = project room)
    (room : Room) (request : RoomRequest) (context : RoomRequestContext)
    (additional : RoomEventContext) (knownUser : Option RoomUserInfo) :
    project (room.publishRoomEvent request context additional knownUser) = project room := by
  unfold publishRoomEvent
  split
  · rfl
  · split
    · rfl
    · exact frame room _ _ _

namespace KeepsCore

variable {relation : Room → Room → Prop} (env : Env) (context : RoomRequestContext) (room : Room)
  (keeps : KeepsCore relation)

include keeps

theorem onPlayback (update : Playback → Playback) : relation room (room.onPlayback update) :=
  keeps.frame rfl rfl rfl rfl

theorem writes : KeepsWrites relation where
  assignQueue _ _ := keeps.frame rfl rfl rfl rfl
  publish := keeps.publish
  publishRoomEvent := keeps.publishRoomEvent
  assignPendingLeaveEvents _ _ := keeps.frame rfl rfl rfl rfl
  assignPrevQueue room value := by
    unfold Room.assignPrevQueue
    split <;> exact keeps.frame rfl rfl rfl rfl
  assignVotes _ _ := keeps.frame rfl rfl rfl rfl
  assignVotesToSkip _ _ := keeps.frame rfl rfl rfl rfl
  forgetEvents := keeps.forgetEvents

theorem ticks : KeepsTicks relation where
  assignVideoSegments _ _ := keeps.frame rfl rfl rfl rfl
  wantSponsorBlock _ _ := keeps.frame rfl rfl rfl rfl
  assignPause _ _ := keeps.frame rfl rfl rfl rfl
  keepAlivePing _ _ := keeps.frame rfl rfl rfl rfl

/-- A viewer that is seen anew has no account number zero. -/
theorem replaceUser {user : RoomUser}
    (known : (∀ user ∈ room.realusers, user.userId ≠ some 0) → user.userId ≠ some 0) :
    relation room (room.replaceUser user) := by
  refine keeps.seats _ _ fun numbered other member => ?_
  have replaced : ∀ users : List RoomUser, other ∈ users.replaceF
      (fun other => if other.id = user.id then some user else none) → other ∈ users ∨ other = user := by
    intro users
    induction users with
    | nil => exact nofun
    | cons first rest ih =>
        intro member
        by_cases same : first.id = user.id
        · simp only [List.replaceF, if_pos same] at member
          rcases List.mem_cons.mp member with new | old
          · exact .inr new
          · exact .inl (List.mem_cons_of_mem first old)
        · simp only [List.replaceF, if_neg same] at member
          rcases List.mem_cons.mp member with old | later
          · exact .inl (old ▸ List.mem_cons_self)
          · exact (ih later).imp_left (List.mem_cons_of_mem first)
  rcases replaced room.realusers member with old | new
  · exact numbered other old
  · rw [new]
    exact known numbered

theorem upkeep : KeepsUpkeep env.now relation where
  toKeepsMessages := keeps.writes.toKeepsMessages
  replaceUser room _ := keeps.replaceUser room
  saves room := keeps.saves room env.now
  unsaved _ := keeps.frame rfl rfl rfl rfl
  endTemporaryPlaybackSpeed room := keeps.onPlayback room _
  evaluateBufferGate room := keeps.onPlayback room _
  noteRecovery room _ := keeps.onPlayback room _
  finishPlaybackPreparation room _ _ _ := keeps.onPlayback room _

/-- Of the core, settings write the grants only. -/
theorem settings (settings : RoomSettings)
    (granted : ∀ (room : Room) entry, relation room (room.writeGrant entry)) :
    KeepsSettings settings relation where
  title _ _ := keeps.frame rfl rfl rfl rfl
  description _ _ := keeps.frame rfl rfl rfl rfl
  visibility _ _ := keeps.frame rfl rfl rfl rfl
  queueMode _ _ := keeps.frame rfl rfl rfl rfl
  autoSkipSegmentCategories _ _ := keeps.frame rfl rfl rfl rfl
  restoreQueueBehavior _ _ _ := keeps.frame rfl rfl rfl rfl
  enableVoteSkip _ _ := keeps.frame rfl rfl rfl rfl
  bufferGateMode _ _ := keeps.frame rfl rfl rfl rfl
  danmakuSource _ _ := keeps.frame rfl rfl rfl rfl
  writeGrant := granted
  wantSponsorBlock _ := keeps.frame rfl rfl rfl rfl

variable [IsPreorder Room relation]

theorem replaceSource : relation room (room.replaceSource env) := by
  have taken : ∀ item rest, relation room (room.takeNext env.now item rest) := by
    intro item rest
    unfold Room.takeNext
    dsimp only
    split <;> exact keeps.frame rfl rfl rfl rfl
  unfold Room.replaceSource
  split
  · exact IsTrans.trans _ _ _ (taken _ _) (keeps.onPlayback _ _)
  · split
    · exact keeps.onPlayback room _
    · exact refl room

theorem advanceQueue : relation room (room.advanceQueue env) :=
  IsTrans.trans _ _ _ (IsTrans.trans _ _ _ (keeps.replaceSource env room)
    (keeps.ticks.refreshSegments env _)) (keeps.onPlayback _ _)

theorem dequeueNext : relation room (room.dequeueNext env) := by
  have left : relation room (room.leaveCurrent env.now) := by
    obtain ⟨watched, counted⟩ :=
      countSource_eq (room.releaseBufferGate false env.now).clearSkipVotes env.now
    unfold leaveCurrent
    rw [counted]
    exact IsTrans.trans _ _ _ (IsTrans.trans _ _ _ (keeps.onPlayback _ _)
      (keeps.writes.clearSkipVotes _)) (keeps.frame rfl rfl rfl rfl)
  refine IsTrans.trans _ _ _ left ?_
  unfold Room.dequeueNext
  dsimp only
  split
  · exact keeps.onPlayback _ _
  · refine IsTrans.trans _ _ _ ?_ (keeps.advanceQueue env _)
    exact keeps.frame rfl rfl rfl rfl
  · exact keeps.advanceQueue env _

theorem sync : (Room.sync env).Keeps relation room :=
  keeps_sync room keeps.publish fun _ _ _ => keeps.frame rfl rfl rfl rfl

theorem playback (state : Bool) : (Room.playback env state context).Keeps relation room :=
  Keeps.modify_bind (keeps.onPlayback _ _) (keeps_modify _ (keeps.publishRoomEvent _ _ _ _ _))

theorem skip : (Room.skip env context).Keeps relation room := by
  unfold Room.skip
  refine Keeps.get_bind ?_
  split
  · exact Keeps.pure _ _
  · refine Keeps.modify_bind (keeps.writes.voteToSkip context room) (Keeps.get_bind (Keeps.ite (fun _ => ?_) fun _ => Keeps.pure _ _))
    exact Keeps.modify_bind (keeps.dequeueNext env _) (Keeps.modify_bind
      (keeps.publishRoomEvent _ _ _ _ _) (keeps_modify _ (keeps.frame rfl rfl rfl rfl)))

theorem seek (value : Option Number) : (Room.seek env value context).Keeps relation room :=
  keeps.ticks.seek env context room keeps.writes.toKeepsMessages value
    fun _ _ _ => keeps.onPlayback room _

theorem joinRoom (info : ClientInfo) (reconnect : Bool) :
    (Room.joinRoom env info reconnect context).Keeps relation room := by
  refine keeps.writes.joinRoom env context room info reconnect (keeps.onPlayback _ _)
    (fun room user account => keeps.seats room _ fun numbered other member => ?_)
    fun _ _ => keeps.onPlayback _ _
  rcases List.mem_append.mp member with seated | joined
  · exact numbered other seated
  · rw [List.mem_singleton.mp joined]
    exact account

theorem forgetUser (user : RoomUser) : relation room (room.forgetUser context user) :=
  keeps.writes.forgetUser context room user fun room => keeps.seats room _
    fun numbered other member => numbered other (List.mem_of_mem_eraseP member)

theorem leaveRoom : (Room.leaveRoom env context).Keeps relation room :=
  keeps_leaveRoom room context (fun clientId => keeps_endOwnGesture room clientId (keeps.onPlayback _ _))
    (fun room user => keeps.forgetUser context room user)
    (fun clientId _ => keeps_settleLeave _ clientId (fun _ => keeps.frame rfl rfl rfl rfl)
      (keeps.onPlayback _ _) (keeps.sync env) ((keeps.upkeep env).flushSave env))
    fun _ => keeps.onPlayback _ _

theorem playNow (video : VideoAdd) : (Room.playNow env video context).Keeps relation room := by
  have pushed : ∀ other : Room, (pushInterrupted env).Keeps relation other := by
    intro other
    unfold pushInterrupted
    refine Keeps.get_bind ?_
    split
    · exact Keeps.pure _ _
    · exact Keeps.modify_bind (keeps.frame rfl rfl rfl rfl) (keeps.writes.pushTop _ _)
  unfold Room.playNow
  refine keeps_bind_of_after room (assertUsableVideoId_after room _) fun _ => Keeps.get_bind ?_
  refine Keeps.ite (fun _ => Keeps.pure _ _) fun _ => keeps_check room ?_
  refine Keeps.ite (fun _ => Keeps.throw _ _) fun _ => ?_
  refine keeps_bind_of_after room (assertUsableSubtitle_after room env _) fun _ => ?_
  refine Keeps.bind (keeps.writes.takeRequested env room _ _) fun _ _ => ?_
  refine Keeps.bind (pushed _) fun _ _ => ?_
  refine Keeps.modify_bind (keeps.onPlayback _ _) (Keeps.modify_bind (keeps.frame rfl rfl rfl rfl)
    (Keeps.modify_bind (keeps.frame rfl rfl rfl rfl) (Keeps.modify_bind (keeps.onPlayback _ _)
      (keeps_modify _ ?_))))
  split
  · exact refl _
  · exact keeps.frame rfl rfl rfl rfl

theorem applySettings (settings : RoomSettings)
    (granted : ∀ (room : Room) entry, relation room (room.writeGrant entry)) :
    (Room.applySettings env settings context).Keeps relation room := by
  unfold Room.applySettings
  refine Keeps.get_bind ?_
  refine keeps_bind_of_after room (forM_after room (fun _ => check_after room _ _) _) fun _ => ?_
  refine Keeps.ite (fun _ => Keeps.throw _ _) fun _ => ?_
  exact Keeps.modify_bind ((keeps.settings _ granted).writeSettings room) (keeps_modify _ (keeps.onPlayback _ _))

/-- Settings apart, which may write the grants, every request keeps the relation. -/
theorem handle (request : RoomRequest) (configured : ∀ settings, request = .applySettings settings →
      (Room.applySettings env settings context).Keeps relation room) :
    (Room.handle env request context).Keeps relation room := by
  cases request with
  | join info reconnect => exact keeps.joinRoom env context room info reconnect
  | leave => exact keeps.leaveRoom env context room
  | playback state => exact keeps.playback env context room state
  | skip => exact keeps.skip env context room
  | seek value => exact keeps.seek env context room value
  | promote target role =>
      exact keeps_promoteUser room context (fun room id => keeps.assignRole room id role) fun _ _ => keeps.publish _ _
  | updateUser info prepared => exact (keeps.upkeep env).updateUser env room info prepared
  | undo echo =>
      refine keeps.writes.undo env context room echo fun event _ _ => ?_
      exact keeps.writes.applyUndo env context room event (fun _ _ => keeps.seek env context room _)
        (fun room _ _ => keeps.onPlayback room _) (keeps.onPlayback room _)
  | applySettings settings => exact configured settings rfl
  | playNow video => exact keeps.playNow env context room video
  | playbackSpeed speed =>
      change (setPlaybackSpeed env speed).Keeps relation room
      unfold setPlaybackSpeed
      split
      · exact Keeps.ite (fun _ => Keeps.throw _ _) fun _ => keeps_modify room (keeps.onPlayback _ _)
      · exact Keeps.throw _ _
  | temporaryPlaybackSpeed action gestureId video =>
      exact keeps_setTemporaryPlaybackSpeed room context action gestureId video
        (keeps.onPlayback _ _) (keeps.onPlayback _ _) (keeps.onPlayback _ _)
        fun _ _ _ _ _ => keeps.onPlayback _ _
  | add | remove | order | vote | chat | shuffle | restoreQueue | kick | updateQueueItem
  | addNote | deleteNote => exact keeps.writes.handle env context room rfl

theorem update : (Room.update env).Keeps relation room := by
  have moved : ∀ room : Room, relation room (room.updateSource env) := by
    intro room
    unfold updateSource
    split
    · exact keeps.dequeueNext env room
    · exact refl room
  unfold Room.update moveOn
  refine Keeps.modify_bind (keeps.frame rfl rfl rfl rfl) (Keeps.modify_bind (moved _)
    (Keeps.bind (keeps.ticks.keepAlive env _) fun _ _ =>
      Keeps.modify_bind (keeps.writes.orderByVotes _) (keeps_modify _ ?_)))
  exact keeps.ticks.updateSegments env _ fun _ _ _ =>
    IsTrans.trans _ _ _ (keeps.onPlayback _ _) (keeps.publish _ _)

/-- A claim and a new password change who the room is, and settings and grants from the owner what
its roles may do. Every other action keeps the relation. -/
theorem apply (action : RoomAction) (claims : ∀ user, action ≠ .claim user)
    (hashes : ∀ hash, action ≠ .setPasswordHash hash)
    (configured : ∀ settings context, action = .request (.applySettings settings) context →
      (Room.applySettings env settings context).Keeps relation room)
    (granted : ∀ grants, action = .setGrants grants → relation room (room.setGrants grants env.now)) :
    relation room (action.apply env room) := by
  cases action with
  | request request context =>
      exact keeps_bind_of_after room (checkSome_after room _ _) fun _ =>
        keeps.handle env context room request fun settings same => configured settings context (same ▸ rfl)
  | update => exact keeps.update env room
  | playbackStartTimer => exact keeps.frame rfl rfl rfl rfl
  | temporarySpeedTimer => exact keeps.frame rfl rfl rfl rfl
  | leaveTimer token => exact keeps.writes.fireLeaveTimer room token
  | throttledSync =>
      refine IsTrans.trans _ _ _ ?_ (keeps.sync env { room with syncPending := false })
      exact keeps.frame rfl rfl rfl rfl
  | sync => exact keeps.sync env room
  | save => exact (keeps.upkeep env).saveStateToRedis env room
  | holdEmptyPlaybackForJoin reconnect => exact keeps.frame rfl rfl rfl rfl
  | setGrants grants => exact granted grants rfl
  | claim user => exact absurd rfl (claims user)
  | setPasswordHash hash => exact absurd rfl (hashes hash)
  | reauthenticate clientId token info =>
      exact (keeps.upkeep env).reauthenticate env room clientId token info
  | onBeforeUnload =>
      exact Keeps.modify_bind (keeps.writes.stopForUnload room env.now (keeps.onPlayback room _)
          fun _ => keeps.frame rfl rfl rfl rfl)
        (Keeps.modify_bind (keeps.frame rfl rfl rfl rfl) (Keeps.bind (keeps.sync env _) fun _ _ =>
          keeps_modify _ ((keeps.upkeep env).flushSave env _)))

end KeepsCore

end Room

end OpenTogetherTube
