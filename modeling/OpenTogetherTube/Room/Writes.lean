import OpenTogetherTube.Room.System

/-!
# Handlers that only write

A handler off playback keeps every relation that its writes keep. The relations of the modules that
follow say which writes they keep; what they say of such a handler is here, once for all of them.
-/

namespace OpenTogetherTube

open Lib

/-- The requests that write the queue, the votes, messages and events, and nothing else. -/
def RoomRequest.onlyWrites : RoomRequest → Bool
  | .add _ | .remove _ | .order _ _ | .vote _ _ | .chat _ | .shuffle | .restoreQueue _ | .kick _
  | .updateQueueItem _ _ | .addNote _ | .deleteNote _ => true
  | _ => false

namespace RoomUser

theorem updateUserId_numbered {user : RoomUser} (info : ClientInfo) (numbered : user.userId ≠ some 0) :
    (user.updateUserId info).userId ≠ some 0 := by
  unfold updateUserId
  split
  · rename_i present
    intro zero
    have zero : info.userId = some 0 := zero
    rw [zero] at present
    cases present
  · split
    · exact nofun
    · exact numbered

/-- The cached lookup leaves the account number alone. -/
theorem updateInfo_userId {getUserCachedById : Nat → Option User} {info : ClientInfo}
    {user updated : RoomUser} (looked : user.updateInfo getUserCachedById info = some updated) :
    updated.userId = (user.updateUserId info).userId := by
  unfold updateInfo at looked
  obtain ⟨found, lookup, rfl⟩ := Option.map_eq_some_iff.mp looked
  have same : found.userId = (user.updateUserId info).userId := by
    split at lookup
    · obtain ⟨account, _, rfl⟩ := Option.map_eq_some_iff.mp lookup
      rfl
    · rw [← Option.some.inj lookup]
  split
  · exact same
  · exact same

theorem updateInfo_numbered {getUserCachedById : Nat → Option User} {info : ClientInfo}
    {user updated : RoomUser} (looked : user.updateInfo getUserCachedById info = some updated)
    (numbered : user.userId ≠ some 0) : updated.userId ≠ some 0 := by
  rw [updateInfo_userId looked]
  exact updateUserId_numbered info numbered

end RoomUser

namespace Room

open Handler

section Rules

variable {relation : Room → Room → Prop} [IsPreorder Room relation] (room : Room)

@[simp] theorem check_after (role : Role) (permission : Permission) :
    (check role permission).after room = room := by
  unfold check
  rw [after_get_bind, after_ite]
  split <;> rfl

@[simp] theorem checkSome_after (role : Role) (permission : Option Permission) :
    (checkSome role permission).after room = room := by
  unfold checkSome
  split
  · exact check_after room role _
  · rfl

/-- A sequence that begins with a permission check. -/
theorem keeps_check {α : Type} {role : Role} {permission : Permission} {next : Unit → RoomM α}
    (tail : (next ()).Keeps relation room) :
    (check role permission >>= next).Keeps relation room := by
  refine Keeps.bind ?_ ?_
  · unfold Keeps
    rw [check_after]
    exact refl room
  · intro _ _
    rw [check_after]
    exact tail

/-- A handler that leaves the state alone keeps everything. -/
theorem keeps_of_after {α : Type} {handler : RoomM α} (same : handler.after room = room) :
    handler.Keeps relation room := by
  unfold Keeps
  rw [same]
  exact refl room

/-- A sequence that begins with a handler that leaves the state alone. -/
theorem keeps_bind_of_after {α β : Type} {first : RoomM α} {next : α → RoomM β}
    (same : first.after room = room) (tail : ∀ value, (next value).Keeps relation room) :
    (first >>= next).Keeps relation room := by
  refine Keeps.bind (keeps_of_after room same) ?_
  intro value _
  rw [same]
  exact tail value

omit [IsPreorder Room relation] in
/-- An update that is a sequence of effects. -/
theorem keeps_modify {update : Room → Room} (related : relation room (update room)) :
    (modify update : RoomM PUnit).Keeps relation room :=
  related

theorem assertUsableVideoId_after (video : VideoId) :
    (assertUsableVideoId video).after room = room := by
  unfold assertUsableVideoId
  rw [after_ite]
  split <;> rfl

theorem assertUsableSubtitle_after (env : Env) (subtitleUrl : Option String) :
    (assertUsableSubtitle env subtitleUrl).after room = room := by
  unfold assertUsableSubtitle
  split
  · rfl
  · rw [after_ite]
    split
    · rfl
    · split <;> rfl

/-- A loop of handlers that leave the state alone leaves it alone. -/
theorem forM_after {α : Type} {body : α → RoomM PUnit}
    (same : ∀ value, (body value).after room = room) (values : List α) :
    (values.forM body).after room = room := by
  induction values with
  | nil => rfl
  | cons value rest ih =>
      change (body value >>= fun _ => rest.forM body).after room = room
      rw [after_bind, same value]
      split
      · exact ih
      · rfl

theorem checkAddRequest_after (request : AddRequest) :
    (checkAddRequest request).after room = room := by
  unfold checkAddRequest
  rw [after_ite]
  split
  · rfl
  · have looped := @forM_after room VideoAdd (fun video => assertUsableVideoId video.toVideoId)
      (fun video => assertUsableVideoId_after room _)
      (request.video.toList ++ request.videos.getD [])
    rw [after_bind, looped]
    split
    · rw [after_get_bind, after_ite]
      split <;> rfl
    · rfl

theorem granted_of_check {role : Role} {permission : Permission} {value : Unit}
    (passed : (check role permission).outcome room = .ok value) :
    room.grants.granted role permission = true := by
  unfold check at passed
  rw [outcome_get_bind] at passed
  split at passed
  · assumption
  · cases passed

theorem checkPromotion_after (current role : Role) (context : RoomRequestContext) :
    (checkPromotion current role context).after room = room := by
  unfold checkPromotion
  rw [after_bind, checkSome_after]
  split
  · rw [after_ite]
    split
    · split
      · exact check_after room _ _
      · rfl
    · rfl
  · rfl

theorem keeps_promoteUser {targetClientId : ClientId} {role : Role} (context : RoomRequestContext)
    (assigned : ∀ (room : Room) id, relation room (room.assignRole id role))
    (synced : ∀ (room : Room) info, relation room (room.syncUser info)) :
    (promoteUser targetClientId role context).Keeps relation room := by
  unfold promoteUser
  refine Keeps.ite (fun _ => Keeps.throw _ _) fun _ => Keeps.get_bind ?_
  split
  · exact Keeps.throw _ _
  · rename_i target _
    refine keeps_bind_of_after room (checkPromotion_after room _ role context) fun _ => ?_
    refine Keeps.ite (fun _ => Keeps.throw _ _) fun _ => ?_
    cases target.userId with
    | some id =>
        refine Keeps.modify_bind (assigned room id) (keeps_modify _ ?_)
        dsimp only
        split
        · exact synced _ _
        · exact refl _
    | none =>
        refine Keeps.modify_bind (refl room) (keeps_modify _ ?_)
        dsimp only
        split
        · exact synced _ _
        · exact refl _

theorem keeps_setTemporaryPlaybackSpeed {env : Env} (context : RoomRequestContext)
    (action : GestureAction) (gestureId : String) (video : Option VideoId)
    (ended : relation room (room.onPlayback (Playback.endTemporaryPlaybackSpeed true env.now)))
    (renewed : relation room (room.onPlayback (Playback.renewTemporaryPlaybackSpeed env.now)))
    (opened : relation room (room.releaseBufferGate false env.now))
    (sped : ∀ clientId opened, opened = room.releaseBufferGate false env.now →
      room.canSpeedUp video = true → opened.isPlaying = true →
      relation opened (opened.onPlayback
        (Playback.startTemporarySpeed clientId gestureId env.now))) :
    (setTemporaryPlaybackSpeed env action gestureId video context).Keeps relation room := by
  unfold setTemporaryPlaybackSpeed
  refine Keeps.get_bind (Keeps.ite (fun _ => Keeps.throw _ _) fun _ => ?_)
  split
  · exact Keeps.throw _ _
  · split
    · exact Keeps.ite (fun _ => keeps_modify room ended) fun _ => Keeps.pure _ _
    · exact keeps_check room (Keeps.ite (fun _ => keeps_modify room renewed) fun _ => Keeps.pure _ _)
    · refine keeps_check room (Keeps.ite (fun allowed => ?_) fun _ => Keeps.pure _ _)
      exact Keeps.modify_bind opened (Keeps.get_bind (Keeps.ite
        (fun playing => keeps_modify _ (sped _ _ rfl allowed playing)) fun _ => Keeps.pure _ _))

theorem keeps_endOwnGesture {now : Int} (clientId : ClientId)
    (ended : relation room (room.onPlayback (Playback.endTemporaryPlaybackSpeed true now))) :
    relation room (room.endOwnGesture clientId now) := by
  unfold endOwnGesture
  split
  · exact ended
  · exact refl room

/-- A checkpoint writes pending work, and announces it. -/
theorem keeps_sync {env : Env} (published : ∀ (room : Room) message, relation room (room.publish message))
    (checked : ∀ (room : Room) dirty savePending, relation room { room with dirty, savePending }) :
    (sync env).Keeps relation room := by
  unfold sync
  refine Keeps.get_bind (Keeps.ite (fun _ => Keeps.pure _ _) fun _ => ?_)
  refine Keeps.modify_bind (IsTrans.trans _ _ _ (checked room _ _) (published _ _)) ?_
  refine Keeps.ite (fun _ => ?_) fun _ => Keeps.pure _ _
  exact Keeps.modify_bind (checked _ _ _) (Keeps.throw _ _)

theorem keeps_settleLeave {env : Env} (clientId : ClientId)
    (emptied : room.realusers.isEmpty = true → relation room
      { room.onPlayback (Playback.emptyRoom room.toAudience env.now) with keepAlivePing := env.now })
    (rebuilt : relation room (room.onPlayback
      (Playback.rebuildRound env.uuid clientId room.toAudience env.now)))
    (synced : ∀ room : Room, (sync env).Keeps relation room)
    (flushed : ∀ room : Room, relation room (room.flushSave env)) :
    (settleLeave env clientId).Keeps relation room := by
  unfold settleLeave
  refine Keeps.get_bind (Keeps.ite (fun nobody => ?_) fun _ => keeps_modify room rebuilt)
  exact Keeps.modify_bind (emptied nobody)
    (Keeps.bind (synced _) fun _ _ => keeps_modify _ (flushed _))

theorem keeps_leaveRoom {env : Env} (context : RoomRequestContext)
    (ended : ∀ clientId, relation room (room.endOwnGesture clientId env.now))
    (forgot : ∀ (room : Room) user, relation room (room.forgetUser context user))
    (settled : ∀ clientId user, (settleLeave env clientId).Keeps relation
      ((room.endOwnGesture clientId env.now).forgetUser context user))
    (gated : ∀ room : Room, relation room (room.evaluateBufferGate env.now)) :
    (leaveRoom env context).Keeps relation room := by
  unfold leaveRoom
  split
  · exact Keeps.throw _ _
  · rename_i clientId _
    refine Keeps.modify_bind (ended clientId) (Keeps.get_bind ?_)
    split
    · exact Keeps.throw _ _
    · exact Keeps.modify_bind (forgot _ _) (Keeps.bind (settled clientId _) fun _ _ =>
        keeps_modify _ (gated _))

end Rules

/-- A relation that the writes of the queue keep. -/
structure KeepsQueue (relation : Room → Room → Prop) : Prop where
  assignQueue : ∀ (room : Room) items, relation room (room.assignQueue items)

/-- A relation that messages to the viewers keep, and what waits to be announced. -/
structure KeepsMessages (relation : Room → Room → Prop) : Prop where
  publish : ∀ (room : Room) message, relation room (room.publish message)
  publishRoomEvent : ∀ (room : Room) request context additional knownUser,
    relation room (room.publishRoomEvent request context additional knownUser)
  assignPendingLeaveEvents : ∀ (room : Room) pendingLeaveEvents,
    relation room { room with pendingLeaveEvents }

/-- A relation that the writes of the queue, the votes, the messages and the events keep. -/
structure KeepsWrites (relation : Room → Room → Prop) : Prop
    extends KeepsQueue relation, KeepsMessages relation where
  assignPrevQueue : ∀ (room : Room) items, relation room (room.assignPrevQueue items)
  assignVotes : ∀ (room : Room) votes, relation room ({ room with votes }.markDirty .voteCounts)
  assignVotesToSkip : ∀ (room : Room) votesToSkip,
    relation room ({ room with votesToSkip }.markDirty .votesToSkip)
  /-- Events are forgotten, never added. -/
  forgetEvents : ∀ (room : Room) recentEvents, recentEvents ⊆ room.recentEvents →
    relation room { room with recentEvents }

/-- A relation that the upkeep of a room keeps: its seats, its saves, and the gate, the round and
the gesture that a viewer it hears from or loses may hold up. -/
structure KeepsUpkeep (now : Int) (relation : Room → Room → Prop) : Prop
    extends KeepsMessages relation where
  /-- No viewer gets the account number zero. -/
  replaceUser : ∀ (room : Room) user,
    ((∀ other ∈ room.realusers, other.userId ≠ some 0) → user.userId ≠ some 0) →
      relation room (room.replaceUser user)
  saves : ∀ room : Room,
    relation room { room with savePending := false, saved := some (room.serializeState now) }
  unsaved : ∀ room : Room, relation room { room with savePending := false }
  endTemporaryPlaybackSpeed : ∀ room : Room,
    relation room (room.onPlayback (Playback.endTemporaryPlaybackSpeed true now))
  evaluateBufferGate : ∀ room : Room, relation room (room.evaluateBufferGate now)
  noteRecovery : ∀ (room : Room) clientId,
    relation room (room.onPlayback (Playback.noteRecovery clientId))
  finishPlaybackPreparation : ∀ (room : Room) clientId status prepared, relation room
    (room.onPlayback
      (Playback.finishPlaybackPreparation clientId status prepared room.toAudience now))

/-- A relation that the writes of settings keep. A setting that is not written may be another. -/
structure KeepsSettings (settings : RoomSettings) (relation : Room → Room → Prop) : Prop where
  title : ∀ (room : Room) title, relation room ({ room with title }.markDirty .title)
  description : ∀ (room : Room) description,
    relation room ({ room with description }.markDirty .description)
  visibility : ∀ (room : Room) visibility,
    relation room ({ room with visibility }.markDirty .visibility)
  queueMode : ∀ (room : Room) queueMode, relation room ({ room with queueMode }.markDirty .queueMode)
  autoSkipSegmentCategories : ∀ (room : Room) autoSkipSegmentCategories, relation room
    ({ room with autoSkipSegmentCategories }.markDirty .autoSkipSegmentCategories)
  restoreQueueBehavior : ∀ restoreQueueBehavior ∈ settings.restoreQueueBehavior, ∀ room : Room,
    relation room { room with restoreQueueBehavior }
  enableVoteSkip : ∀ (room : Room) enableVoteSkip,
    relation room ({ room with enableVoteSkip }.markDirty .enableVoteSkip)
  bufferGateMode : ∀ (room : Room) bufferGateMode,
    relation room ({ room with bufferGateMode }.markDirty .bufferGateMode)
  danmakuSource : ∀ (room : Room) danmakuSource,
    relation room ({ room with danmakuSource }.markDirty .danmakuSource)
  writeGrant : ∀ (room : Room) entry, relation room (room.writeGrant entry)
  wantSponsorBlock : ∀ room : Room, relation room { room with wantSponsorBlock := true }

/-- A relation that the writes of a tick keep. -/
structure KeepsTicks (relation : Room → Room → Prop) : Prop where
  assignVideoSegments : ∀ (room : Room) segments, relation room (room.assignVideoSegments segments)
  wantSponsorBlock : ∀ (room : Room) wantSponsorBlock, relation room { room with wantSponsorBlock }
  assignPause : ∀ (room : Room) dontSkipSegmentsUntil, relation room { room with dontSkipSegmentsUntil }
  keepAlivePing : ∀ (room : Room) keepAlivePing, relation room { room with keepAlivePing }

variable {relation : Room → Room → Prop} [IsPreorder Room relation] (env : Env)
  (context : RoomRequestContext) (room : Room)

theorem KeepsSettings.writeSettings {settings : RoomSettings}
    (keeps : KeepsSettings settings relation) : relation room (room.writeSettings settings) := by
  have applied : ∀ {Value : Type} (first : Room) (value : Option Value) (assign : Value → Room → Room),
      relation room first → (∀ given ∈ value, ∀ other : Room, relation other (assign given other)) →
      relation room (first.applySetting value assign) := by
    intro Value first value assign earlier kept
    unfold applySetting
    cases value with
    | none => exact earlier
    | some given => exact IsTrans.trans _ _ _ earlier (kept given rfl first)
  have granted : ∀ (masks : OrderedMap Role Nat) (other : Room),
      relation other (masks.foldl Room.writeGrant other) := by
    intro masks
    induction masks with
    | nil => exact refl
    | cons entry rest ih =>
        exact fun other => IsTrans.trans _ _ _ (keeps.writeGrant other entry) (ih _)
  have categories : ∀ other : Room, relation room other →
      relation room (other.applyCategories settings) := by
    intro other earlier
    unfold applyCategories
    split
    · exact IsTrans.trans _ _ _ earlier (keeps.autoSkipSegmentCategories other _)
    · exact earlier
  unfold Room.writeSettings
  dsimp only
  have written := applied _ settings.grants _ (applied _ settings.danmakuSource _
    (applied _ settings.bufferGateMode _ (applied _ settings.enableVoteSkip _
      (applied _ settings.restoreQueueBehavior _ (categories _ (applied _ settings.queueMode _
        (applied _ settings.visibility _ (applied _ settings.description _
          (applied _ settings.title _ (refl room) fun given _ other => keeps.title other given)
          fun given _ other => keeps.description other given)
          fun given _ other => keeps.visibility other given)
        fun given _ other => keeps.queueMode other given)) keeps.restoreQueueBehavior)
      fun given _ other => keeps.enableVoteSkip other given)
      fun given _ other => keeps.bufferGateMode other given)
    fun given _ other => keeps.danmakuSource other given)
    fun grants _ other => granted grants.masks other
  split
  · exact IsTrans.trans _ _ _ written (keeps.wantSponsorBlock _)
  · exact written

namespace KeepsTicks

variable (keeps : KeepsTicks relation)

include keeps

theorem fetchSponsorBlockSegments : relation room (room.fetchSponsorBlockSegments env) := by
  unfold Room.fetchSponsorBlockSegments
  split
  · split
    · split
      · exact keeps.assignVideoSegments room _
      · exact refl room
    · split
      · exact refl room
      · exact keeps.assignVideoSegments room _
  · split
    · exact refl room
    · exact keeps.assignVideoSegments room _

theorem expireSegmentPause (now : Int) : relation room (room.expireSegmentPause now) := by
  unfold Room.expireSegmentPause
  split
  · split
    · exact keeps.assignPause room none
    · exact refl room
  · exact refl room

/-- The segments of a tick, where a segment that is skipped keeps the relation. -/
theorem updateSegments (skipped : ∀ (room : Room) (segment : Segment), room.isPlaying = true →
      relation room ((room.onPlayback (Playback.seekRaw segment.endTime env.now)).publish
        (.eventcustom ("Skipped " ++ segment.category.name)))) :
    relation room (room.updateSegments env) := by
  have skip : ∀ room : Room, relation room (room.skipSegment env.now) := by
    intro room
    unfold Room.skipSegment
    split
    · rename_i plays
      simp only [Bool.and_eq_true] at plays
      split
      · split
        · exact skipped room _ plays.1.1
        · exact refl room
      · exact refl room
    · exact refl room
  unfold Room.updateSegments
  split
  · refine IsTrans.trans _ _ _ ?_
      (IsTrans.trans _ _ _ (keeps.expireSegmentPause _ env.now) (skip _))
    split
    · exact IsTrans.trans _ _ _ (keeps.wantSponsorBlock room false)
        (keeps.fetchSponsorBlockSegments env _)
    · exact refl room
  · exact refl room

theorem refreshSegments : relation room (room.refreshSegments env) := by
  have dropped : ∀ room : Room, relation room
      (if room.currentSource.isNone && !room.videoSegments.isEmpty then room.assignVideoSegments []
        else room) := by
    intro room
    split
    · exact keeps.assignVideoSegments room _
    · exact refl room
  unfold Room.refreshSegments
  refine IsTrans.trans _ _ _ ?_ (dropped _)
  split
  · exact keeps.wantSponsorBlock room true
  · exact refl room

theorem keepAlive : (Room.keepAlive env).Keeps relation room := by
  unfold Room.keepAlive
  refine Keeps.get_bind (Keeps.ite (fun _ => ?_) fun _ => Keeps.pure _ _)
  exact Keeps.modify_bind (keeps.keepAlivePing room _)
    (Keeps.ite (fun _ => Keeps.pure _ _) fun _ => Keeps.throw _ _)

end KeepsTicks

/-- A seek, which pauses the skipping of segments. -/
theorem KeepsTicks.seek (ticks : KeepsTicks relation) (messages : KeepsMessages relation)
    (value : Option Number) (sought : ∀ target, value = some target →
      ¬ (!target.isFinite || target.lt 0 || Number.lt (.fin MAX_SEEK_SECONDS) target) = true →
        relation room (room.onPlayback (Playback.seekRaw target env.now))) :
    (Room.seek env value context).Keeps relation room := by
  unfold Room.seek
  split
  · exact Keeps.pure _ _
  · refine Keeps.ite (fun _ => Keeps.throw _ _) fun accepted => Keeps.get_bind ?_
    exact Keeps.modify_bind (sought _ rfl accepted) (Keeps.modify_bind
      (messages.publishRoomEvent _ _ _ _ _) (keeps_modify _ (ticks.assignPause _ _)))

namespace KeepsQueue

variable (keeps : KeepsQueue relation)

include keeps

theorem enqueue (videos : List QueueItem) : (Room.enqueue videos).Keeps relation room := by
  unfold Room.enqueue
  exact Keeps.get_bind (Keeps.ite (fun _ => Keeps.pure _ _) fun _ =>
    Keeps.ite (fun _ => Keeps.throw _ _) fun _ => keeps_modify room (keeps.assignQueue _ _))

theorem pushTop (video : QueueItem) : (Room.pushTop video).Keeps relation room := by
  unfold Room.pushTop
  exact Keeps.get_bind (Keeps.ite (fun _ => Keeps.throw _ _) fun _ =>
    keeps_modify room (keeps.assignQueue _ _))

theorem insertAt (video : QueueItem) (index : Number) :
    (Room.insertAt video index).Keeps relation room := by
  unfold Room.insertAt
  refine Keeps.get_bind ?_
  split
  · exact Keeps.throw _ _
  · exact Keeps.ite (fun _ => Keeps.throw _ _) fun _ => Keeps.ite (fun _ => Keeps.throw _ _)
      fun _ => keeps_modify room (keeps.assignQueue _ _)

theorem move (fromIdx toIdx : Nat) : (Room.move fromIdx toIdx).Keeps relation room := by
  unfold Room.move
  refine Keeps.get_bind (Keeps.ite (fun _ => Keeps.pure _ _) fun _ => ?_)
  split
  · exact Keeps.throw _ _
  · exact Keeps.ite (fun _ => Keeps.throw _ _) fun _ => keeps_modify room (keeps.assignQueue _ _)

theorem reorderQueue (fromIdx toIdx : Number) :
    (Room.reorderQueue fromIdx toIdx).Keeps relation room := by
  unfold Room.reorderQueue
  split
  · exact keeps.move room _ _
  · exact Keeps.throw _ _

theorem evict (video : VideoId) : (Room.evict video).Keeps relation room := by
  unfold Room.evict
  refine Keeps.get_bind ?_
  split
  · exact Keeps.throw _ _
  · split
    · exact Keeps.throw _ _
    · exact Keeps.modify_bind (keeps.assignQueue _ _) (Keeps.pure _ _)

theorem updateItem (video : VideoId) (subtitleUrl : Option (Option String)) :
    (Room.updateItem video subtitleUrl).Keeps relation room := by
  unfold Room.updateItem
  refine Keeps.get_bind ?_
  split
  · exact Keeps.throw _ _
  · exact keeps_modify room (keeps.assignQueue _ _)

theorem shuffle : (Room.shuffle env context).Keeps relation room := by
  unfold Room.shuffle
  exact keeps_check room (keeps_modify room (keeps.assignQueue _ _))

theorem orderByVotes :
    relation room (if room.queueMode = .vote then room.orderByVotes else room) := by
  split
  · unfold Room.orderByVotes
    dsimp only
    split
    · exact refl room
    · exact keeps.assignQueue room _
  · exact refl room

theorem takeRequested (video : VideoId) (alreadyInQueue : Bool) :
    (Room.takeRequested env video alreadyInQueue).Keeps relation room := by
  unfold Room.takeRequested
  refine Keeps.ite (fun _ => ?_) fun _ => ?_
  · exact Keeps.bind (keeps.evict room video) fun _ _ => Keeps.pure _ _
  · split
    · exact Keeps.pure _ _
    · exact Keeps.throw _ _

theorem requeueCurrent : Room.requeueCurrent.Keeps relation room := by
  unfold Room.requeueCurrent
  refine Keeps.get_bind ?_
  split
  · exact Keeps.ite (fun _ => Keeps.pure _ _) fun _ => keeps.pushTop room _
  · exact Keeps.pure _ _

end KeepsQueue

namespace KeepsMessages

variable (keeps : KeepsMessages relation)

include keeps

theorem chat (text : String) : (Room.chat text context).Keeps relation room := by
  unfold Room.chat
  split
  · exact Keeps.throw _ _
  · refine Keeps.ite (fun _ => Keeps.throw _ _) fun _ => Keeps.get_bind ?_
    split
    · exact Keeps.throw _ _
    · exact keeps_modify room (keeps.publish _ _)

theorem addNote (text : String) : (Room.addNote env text context).Keeps relation room := by
  unfold Room.addNote
  refine Keeps.get_bind (Keeps.ite (fun _ => Keeps.throw _ _) fun _ => ?_)
  split
  · exact Keeps.throw _ _
  · exact Keeps.ite (fun _ => Keeps.pure _ _) fun _ => Keeps.ite (fun _ => Keeps.throw _ _) fun _ =>
      Keeps.ite (fun _ => Keeps.throw _ _) fun _ => Keeps.ite (fun _ => Keeps.throw _ _) fun _ =>
        keeps_modify room (keeps.publish _ _)

theorem deleteNote (noteId : Number) : (Room.deleteNote env noteId).Keeps relation room := by
  unfold Room.deleteNote
  exact Keeps.get_bind (Keeps.ite (fun _ => Keeps.throw _ _) fun _ =>
    Keeps.ite (fun _ => Keeps.throw _ _) fun _ => Keeps.ite
      (fun _ => keeps_modify room (keeps.publish _ _)) fun _ => Keeps.throw _ _)

theorem kickUser (clientId : ClientId) : (Room.kickUser clientId context).Keeps relation room := by
  unfold Room.kickUser
  refine Keeps.get_bind ?_
  split
  · exact Keeps.throw _ _
  · exact Keeps.ite (fun _ => keeps_modify room (keeps.publish _ _)) fun _ => Keeps.pure _ _

theorem publishLeaveEvent (user : RoomUserInfo) (token : AuthToken) :
    relation room (room.publishLeaveEvent context user token) := by
  unfold Room.publishLeaveEvent
  split
  · exact keeps.publishRoomEvent _ _ _ _ _
  · split
    · exact refl room
    · exact keeps.assignPendingLeaveEvents _ _

theorem fireLeaveTimer (token : AuthToken) : relation room (room.fireLeaveTimer token) := by
  unfold Room.fireLeaveTimer
  split
  · exact refl room
  · dsimp only
    split
    · exact keeps.assignPendingLeaveEvents _ _
    · exact IsTrans.trans _ _ _ (keeps.assignPendingLeaveEvents _ _)
        (keeps.publishRoomEvent _ _ _ _ _)

theorem stopForUnload (now : Int)
    (ended : relation room (room.onPlayback fun p =>
      (p.clearPlaybackStartTimer).endTemporaryPlaybackSpeed true now))
    (paused : ∀ room : Room, relation room
      ((room.onPlayback (Playback.pausePlaybackClock now)).markDirty .currentSource)) :
    relation room (room.stopForUnload now) := by
  have forgotten := IsTrans.trans _ _ _ ended (keeps.assignPendingLeaveEvents _ [])
  unfold Room.stopForUnload
  dsimp only
  split
  · exact forgotten
  · exact IsTrans.trans _ _ _ forgotten (paused _)

end KeepsMessages

namespace KeepsUpkeep

variable (keeps : KeepsUpkeep env.now relation)

include keeps

omit [IsPreorder Room relation] in
theorem saveStateToRedis : relation room (room.saveStateToRedis env) := by
  unfold Room.saveStateToRedis
  split
  · exact keeps.saves room
  · exact keeps.unsaved room

theorem flushSave : relation room (room.flushSave env) := by
  unfold Room.flushSave
  split
  · exact keeps.saveStateToRedis env room
  · exact refl room

theorem updateUser (info : ClientInfo) (prepared : Option PlaybackPrepared) :
    (Room.updateUser env info prepared).Keeps relation room := by
  unfold Room.updateUser
  refine Keeps.get_bind ?_
  split
  · exact keeps_modify room (keeps.evaluateBufferGate room)
  · rename_i user found
    have there := List.mem_of_find?_eq_some found
    split
    · exact Keeps.modify_bind (keeps.replaceUser room _ fun numbered =>
        RoomUser.updateUserId_numbered info (numbered user there)) (Keeps.throw _ _)
    · rename_i updated looked
      refine Keeps.modify_bind (keeps.replaceUser room _ fun numbered =>
        RoomUser.updateInfo_numbered looked (numbered user there)) (Keeps.modify_bind ?_
          (Keeps.modify_bind (keeps.publish _ _) (Keeps.modify_bind
            (keeps.finishPlaybackPreparation _ _ _ _)
            (keeps_modify _ (keeps.evaluateBufferGate _)))))
      split
      · exact keeps.noteRecovery _ _
      · exact refl _

theorem reauthenticate (clientId : ClientId) (token : AuthToken) (info : ClientInfo) :
    relation room (room.reauthenticate clientId token info env) := by
  unfold Room.reauthenticate
  split
  · exact refl room
  · rename_i user found
    refine IsTrans.trans _ _ _ (keeps.replaceUser room _ fun numbered => ?_) (keeps.publish _ _)
    have numbered := numbered user (List.mem_of_find?_eq_some found)
    cases looked : RoomUser.updateInfo env.getUserCachedById info { user with token } with
    | none => exact RoomUser.updateUserId_numbered info numbered
    | some updated => exact RoomUser.updateInfo_numbered looked numbered

end KeepsUpkeep

omit [IsPreorder Room relation] in
/-- What keeps the writes for a relation keeps them for a weaker one. -/
theorem KeepsWrites.mono {weaker : Room → Room → Prop} (keeps : KeepsWrites relation)
    (weakens : ∀ {before after : Room}, relation before after → weaker before after) :
    KeepsWrites weaker where
  assignQueue room items := weakens (keeps.assignQueue room items)
  publish room message := weakens (keeps.publish room message)
  publishRoomEvent room _ _ _ _ := weakens (keeps.publishRoomEvent room _ _ _ _)
  assignPendingLeaveEvents room events := weakens (keeps.assignPendingLeaveEvents room events)
  assignPrevQueue room items := weakens (keeps.assignPrevQueue room items)
  assignVotes room votes := weakens (keeps.assignVotes room votes)
  assignVotesToSkip room votes := weakens (keeps.assignVotesToSkip room votes)
  forgetEvents room events fewer := weakens (keeps.forgetEvents room events fewer)

namespace KeepsWrites

variable (keeps : KeepsWrites relation)

include keeps

theorem addVideo (request : AddRequest) (video : VideoAdd) :
    (Room.addVideo env request video context).Keeps relation room := by
  unfold Room.addVideo
  refine Keeps.get_bind (Keeps.ite (fun _ => Keeps.throw _ _) fun _ => ?_)
  split
  · exact Keeps.throw _ _
  · refine keeps_bind_of_after room (assertUsableSubtitle_after room env _) fun _ => ?_
    refine Keeps.bind (keeps.enqueue room _) fun _ _ => ?_
    exact Keeps.modify_bind (keeps.assignPrevQueue _ _)
      (keeps_modify _ (keeps.publishRoomEvent _ _ _ _ _))

theorem addVideos (request : AddRequest) (videos : List VideoAdd) :
    (Room.addVideos env request videos context).Keeps relation room := by
  unfold Room.addVideos
  refine Keeps.get_bind ?_
  split
  · exact Keeps.throw _ _
  · split
    · exact Keeps.throw _ _
    · refine Keeps.ite (fun _ => Keeps.throw _ _) fun _ => ?_
      exact Keeps.bind (keeps.enqueue room _) fun _ _ =>
        keeps_modify _ (keeps.publishRoomEvent _ _ _ _ _)

theorem addToQueue (request : AddRequest) :
    (Room.addToQueue env request context).Keeps relation room := by
  unfold Room.addToQueue
  refine keeps_bind_of_after room (checkAddRequest_after room request) fun _ => ?_
  refine Keeps.ite (fun _ => ?_) fun _ => ?_
  · split
    · exact Keeps.throw _ _
    · exact keeps_bind_of_after room (assertUsableVideoId_after room _) fun _ =>
        keeps.addVideo env context room request _
  · split
    · exact keeps.addVideo env context room request _
    · exact keeps.addVideos env context room request _
    · exact Keeps.pure _ _

theorem updateQueueItem (video : VideoId) (subtitleUrl : Option (Option String)) :
    (Room.updateQueueItem env video subtitleUrl context).Keeps relation room := by
  unfold Room.updateQueueItem
  refine keeps_bind_of_after room (assertUsableSubtitle_after room env _) fun _ => ?_
  exact Keeps.bind (keeps.updateItem room _ _) fun _ _ =>
    keeps_modify _ (keeps.publishRoomEvent _ _ _ _ _)

theorem removeFromQueue (video : VideoId) :
    (Room.removeFromQueue video context).Keeps relation room := by
  unfold Room.removeFromQueue
  refine Keeps.get_bind (Keeps.ite (fun _ => ?_) fun _ => Keeps.throw _ _)
  refine Keeps.bind (keeps.evict room video) fun _ _ => ?_
  exact Keeps.modify_bind (keeps.assignVotes _ _)
    (keeps_modify _ (keeps.publishRoomEvent _ _ _ _ _))

theorem announceJoin (request : RoomRequest) (user : RoomUser) :
    relation room (room.announceJoin request context user) := by
  have announced : relation room (if room.sessionResumed user.token user.id then
      room.noteJoin user.token else room.publishRoomEvent request context {} none) := by
    split
    · exact keeps.assignPendingLeaveEvents _ _
    · exact keeps.publishRoomEvent _ _ _ _ _
  unfold Room.announceJoin
  dsimp only
  split
  · exact IsTrans.trans _ _ _ announced (keeps.publish _ _)
  · exact announced

/-- A join, where the viewer gets a seat, and no account number zero. -/
theorem joinRoom (info : ClientInfo) (reconnect : Bool)
    (held : relation room (room.holdEmptyPlaybackForJoin reconnect env.now))
    (seated : ∀ (room : Room) user, user.userId ≠ some 0 →
      relation room { room with realusers := room.realusers ++ [user] })
    (resumed : ∀ realusers mayPlay,
      let room := { room.holdEmptyPlaybackForJoin reconnect env.now with realusers }
      relation room (room.onPlayback
        (Playback.resumeForJoin reconnect mayPlay env.uuid room.toAudience env.now))) :
    (Room.joinRoom env info reconnect context).Keeps relation room := by
  unfold Room.joinRoom
  split
  · exact Keeps.throw _ _
  · refine Keeps.ite (fun _ => Keeps.throw _ _) fun _ => Keeps.modify_bind held ?_
    split
    · exact Keeps.throw _ _
    · rename_i looked
      exact Keeps.modify_bind (seated _ _ (RoomUser.updateInfo_numbered looked nofun))
        (Keeps.modify_bind (resumed _ _) (keeps_modify _ (keeps.announceJoin context _ _ _)))

theorem voteToSkip : relation room (room.voteToSkip context) := by
  unfold Room.voteToSkip
  split
  · split
    · exact refl room
    · exact keeps.assignVotesToSkip _ _
  · exact refl room

theorem clearSkipVotes : relation room room.clearSkipVotes := by
  unfold Room.clearSkipVotes
  split
  · exact keeps.assignVotesToSkip _ _
  · exact refl room

/-- The votes of a viewer who leaves are marked where they counted. -/
theorem dropVotes (clientId : ClientId) : relation room (room.dropVotes clientId) := by
  have unskipped : relation room (if room.enableVoteSkip then
      { room with votesToSkip := room.votesToSkip.remove clientId }.markDirty .votesToSkip
      else room) := by
    split
    · exact keeps.assignVotesToSkip _ _
    · exact refl room
  unfold Room.dropVotes
  dsimp only
  refine IsTrans.trans _ _ _ unskipped ?_
  generalize (if room.enableVoteSkip then
      { room with votesToSkip := room.votesToSkip.remove clientId }.markDirty .votesToSkip
      else room) = room
  split
  · split
    · exact keeps.assignVotes _ _
    · rename_i uncounted
      have absent : ∀ entry ∈ room.votes, clientId ∉ entry.2 := by
        simpa only [List.any_eq_true, decide_eq_true_eq, not_exists, not_and] using uncounted
      have same : (room.votes.map fun entry => (entry.1, OrderedSet.remove entry.2 clientId)) =
          room.votes := by
        refine (List.map_congr_left fun entry member => ?_).trans (List.map_id _)
        refine Prod.ext rfl (List.filter_eq_self.mpr fun other voted => decide_eq_true ?_)
        rintro rfl
        exact absent entry member voted
      rw [same]
      exact refl room
  · exact refl room

/-- A departure is announced, takes the votes along and frees the seat. -/
theorem forgetUser (user : RoomUser) (freed : ∀ room : Room, relation room (room.removeUser user.id)) :
    relation room (room.forgetUser context user) :=
  IsTrans.trans _ _ _ (IsTrans.trans _ _ _ (keeps.publishLeaveEvent context room _ _)
    (keeps.dropVotes _ _)) (freed _)

theorem vote (video : VideoId) (add : Bool) : (Room.vote video add context).Keeps relation room := by
  unfold Room.vote
  split
  · exact Keeps.throw _ _
  · refine Keeps.get_bind (Keeps.ite (fun _ => Keeps.throw _ _) fun _ => keeps_modify room ?_)
    split
    · exact keeps.assignVotes _ _
    · split
      · exact keeps.assignVotes _ _
      · exact keeps.assignVotes room room.votes

theorem restoreQueue (discard : Bool) : (Room.restoreQueue discard context).Keeps relation room := by
  unfold Room.restoreQueue
  refine keeps_check room (Keeps.get_bind ?_)
  split
  · exact Keeps.throw _ _
  · refine Keeps.ite (fun _ => keeps_modify room (keeps.assignPrevQueue _ _)) fun _ =>
      Keeps.ite (fun _ => Keeps.throw _ _) fun _ => ?_
    exact Keeps.bind (keeps.enqueue room _) fun _ _ => keeps_modify _ (keeps.assignPrevQueue _ _)

/-- What undoing does, where undoing a seek, the return of a skipped item and the removal of the
current one keep the relation. -/
theorem applyUndo (event : RoomEvent)
    (seek : event.request.type = .seek → room.grants.granted context.role .seek = true →
      (Room.seek env event.additional.prevPosition context).Keeps relation room)
    (take : ∀ (room : Room) video position,
      relation room (room.onPlayback (Playback.takeSource video position env.now)))
    (drop : relation room (room.onPlayback (Playback.assignCurrentSource none env.now))) :
    (Room.applyUndo env event context).Keeps relation room := by
  unfold Room.applyUndo
  split
  · rename_i kind
    split
    · rename_i position recorded
      refine Keeps.bind (keeps_of_after room (check_after room _ _)) fun _ passed => ?_
      rw [check_after, ← recorded]
      exact seek kind (granted_of_check room passed)
    · exact Keeps.pure _ _
  · unfold undoSkip
    refine keeps_check room (keeps_check room (keeps_check room (keeps_check room ?_)))
    refine Keeps.bind (keeps.requeueCurrent room) fun _ _ => ?_
    split
    · exact keeps_modify _ (take _ _ _)
    · exact Keeps.pure _ _
  · unfold undoAdd
    refine keeps_check room (Keeps.get_bind ?_)
    split
    · exact keeps_check room (keeps.removeFromQueue context room _)
    · exact keeps_check room (keeps_modify room drop)
  · refine keeps_check room (keeps_check room ?_)
    split
    · exact keeps.insertAt room _ _
    · exact Keeps.pure _ _
  · exact Keeps.pure _ _

theorem undo (echo : UndoEvent)
    (applied : ∀ event, room.findRecentEvent echo = some event → validUndoEvent echo = true →
      (Room.applyUndo env event context).Keeps relation room) :
    (Room.undo env echo context).Keeps relation room := by
  unfold Room.undo
  refine Keeps.ite (fun _ => Keeps.throw _ _) fun valid => Keeps.get_bind ?_
  split
  · exact Keeps.throw _ _
  · rename_i event found
    exact Keeps.bind (applied event found (by simpa using valid)) fun _ _ =>
      keeps_modify _ (keeps.forgetEvents _ _ (List.filter_subset_self _))

theorem handle {request : RoomRequest} (writes : request.onlyWrites = true) :
    (Room.handle env request context).Keeps relation room := by
  cases request with
  | add request => exact keeps.addToQueue env context room request
  | remove video => exact keeps.removeFromQueue context room video
  | order fromIdx toIdx => exact keeps.reorderQueue room fromIdx toIdx
  | vote video add => exact keeps.vote context room video add
  | chat text => exact keeps.chat context room text
  | shuffle => exact keeps.shuffle env context room
  | restoreQueue discard => exact keeps.restoreQueue context room discard
  | kick clientId => exact keeps.kickUser context room clientId
  | updateQueueItem video subtitleUrl => exact keeps.updateQueueItem env context room video subtitleUrl
  | addNote text => exact keeps.addNote env context room text
  | deleteNote noteId => exact keeps.deleteNote env room noteId
  | _ => cases writes

end KeepsWrites

end Room

end OpenTogetherTube
