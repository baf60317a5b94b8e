import OpenTogetherTube.Room.Queue

/-!
# Room requests

Embeds the request handlers of `Room` in `server/room.ts` and `processRequest`, which
checks the permission of a request before it runs the handler.
-/

namespace OpenTogetherTube

open Lib

namespace Room

/-- Check a permission if there is one to check. -/
def checkSome (role : Role) (permission : Option Permission) : RoomM Unit :=
  match permission with
  | some permission => check role permission
  | none => return ()

def playback (env : Env) (state : Bool) (context : RoomRequestContext) : RoomM Unit := do
  modify (onPlayback (if state then Playback.play env.now else Playback.pause false env.now))
  modify (publishRoomEvent (.playback state) context {} none)

/-- `voteSkipThreshold`: half of the voters, rounded up. -/
def voteSkipThreshold (users : Nat) : Nat := (users + 1) / 2

/-- `countEligibleVoters` over the present users. -/
def countEligibleVoters (room : Room) : Nat :=
  (room.realusers.filterMap fun user => room.getUserInfo user.id).countP fun info =>
    room.grants.granted info.role .skip

/-- Toggle the client's vote to skip. -/
def toggleSkipVote (clientId : ClientId) (room : Room) : Room :=
  { room with
    votesToSkip :=
      if clientId ∈ room.votesToSkip then room.votesToSkip.remove clientId
      else room.votesToSkip.add clientId }.markDirty .votesToSkip

/-- The voting part of `skip`. -/
def voteToSkip (context : RoomRequestContext) (room : Room) : Room :=
  match room.enableVoteSkip, context.clientId with
  | true, some clientId => if clientId = "" then room else room.toggleSkipVote clientId
  | _, _ => room

/-- `shouldSkip`, once the vote is in. -/
def shouldSkip (room : Room) : Bool :=
  !room.enableVoteSkip ||
    decide (voteSkipThreshold room.countEligibleVoters ≤ room.votesToSkip.length)

def skip (env : Env) (context : RoomRequestContext) : RoomM Unit := do
  let room ← get
  match room.currentSource with
  | none => return ()
  | some current =>
      modify (voteToSkip context)
      let room ← get
      if room.shouldSkip then
        let prevPosition := room.realPlaybackPosition env.now
        modify (dequeueNext env)
        modify (publishRoomEvent .skip context
          { video := some current, prevPosition := some prevPosition } none)
        modify (assignVideoSegments [])
      else return ()

def seek (env : Env) (value : Option Number) (context : RoomRequestContext) : RoomM Unit := do
  match value with
  | none => return ()
  | some target =>
      if !target.isFinite || target.lt 0 || Number.lt (.fin MAX_SEEK_SECONDS) target then
        throw (.badApiArgument "value" "Expected a finite seek position between 0 and 86400")
      else
        let room ← get
        let prev := room.realPlaybackPosition env.now
        modify (onPlayback (Playback.seekRaw target env.now))
        modify (publishRoomEvent (.seek value) context { prevPosition := some prev } none)
        modify fun room => { room with
          dontSkipSegmentsUntil := (room.getSegmentForTime room.playbackPosition).map
            Segment.endTime }

def assertUsableVideoId (video : VideoId) : RoomM Unit :=
  if utf16Length video.id = 0 ∨ utf16Length video.id > MAX_VIDEO_ID_LENGTH then
    throw (.badApiArgument "video" "Invalid video id")
  else return ()

/-- `assertUsableSubtitleUrl` on an optional text; an empty one is not checked. -/
def assertUsableSubtitle (env : Env) (subtitleUrl : Option String) : RoomM Unit :=
  match subtitleUrl with
  | none => return ()
  | some url =>
      if url = "" then return ()
      else
        match env.subtitleError url with
        | some error => throw error
        | none => return ()

/-- A requested subtitle replaces the item's own when it is not empty. -/
def withSubtitle (subtitleUrl : Option String) (item : QueueItem) : QueueItem :=
  if subtitleUrl.any (· ≠ "") then { item with subtitleUrl } else item

/-- `addToQueue` for one identified video. -/
def addVideo (env : Env) (request : AddRequest) (video : VideoAdd)
    (context : RoomRequestContext) : RoomM Unit := do
  let room ← get
  if room.isVideoInQueue video.toVideoId then throw .videoAlreadyQueued
  else
    match env.getVideoInfo video.toVideoId with
    | none => throw .external
    | some info =>
        assertUsableSubtitle env video.subtitleUrl
        let item := withSubtitle video.subtitleUrl info
        enqueue [item]
        modify (assignPrevQueue none)
        modify (publishRoomEvent (.add { request with video := some video }) context
          { video := some item } none)

/-- The loop of `addToQueue` over a batch: every subtitle is checked, items that are in
the queue already are dropped. -/
def usableVideos (env : Env) (room : Room) : List QueueItem → Except RoomError (List QueueItem)
  | [] => .ok []
  | item :: rest =>
      match item.subtitleUrl.bind fun url => if url = "" then none else env.subtitleError url with
      | some error => .error error
      | none =>
          (room.usableVideos env rest).map fun kept =>
            if room.isVideoInQueue item.toVideoId then kept else item :: kept

/-- `addToQueue` for a batch. -/
def addVideos (env : Env) (request : AddRequest) (videos : List VideoAdd)
    (context : RoomRequestContext) : RoomM Unit := do
  let room ← get
  match env.getManyVideoInfo videos with
  | none => throw .external
  | some items =>
      match room.usableVideos env items with
      | .error error => throw error
      | .ok kept =>
          if kept.isEmpty then throw .videoAlreadyQueued
          else
            enqueue kept
            modify (publishRoomEvent (.add request) context { videos := some kept } none)

def requestedItems (request : AddRequest) : Nat :=
  match request.videos with
  | some videos => videos.length
  | none => if request.video.isSome || request.url.any (· ≠ "") then 1 else 0

/-- The checks `addToQueue` makes before it looks anything up. -/
def checkAddRequest (request : AddRequest) : RoomM Unit := do
  if request.url.any fun url => decide (utf16Length url > MAX_VIDEO_ID_LENGTH) then
    throw (.badApiArgument "url" "Invalid video URL")
  else
    (request.video.toList ++ request.videos.getD []).forM fun video =>
      assertUsableVideoId video.toVideoId
    let room ← get
    if requestedItems request > 0 ∧ room.queue.length + requestedItems request > MAX_QUEUE_ITEMS then
      throw queueFull
    else return ()

def addToQueue (env : Env) (request : AddRequest) (context : RoomRequestContext) :
    RoomM Unit := do
  checkAddRequest request
  if request.url.any (· ≠ "") then
    match env.videoOfUrl (request.url.getD "") with
    | none => throw .external
    | some video =>
        assertUsableVideoId video
        addVideo env request video.asAdd context
  else
    match request.video, request.videos with
    | some video, _ => addVideo env request video context
    | none, some videos => addVideos env request videos context
    | none, none => return ()

/-- `updateQueueItem`; an empty or missing text clears the subtitle. -/
def updateQueueItem (env : Env) (video : VideoId) (subtitleUrl : Option (Option String))
    (context : RoomRequestContext) : RoomM Unit := do
  let patch := subtitleUrl.map fun text => text.filter (· ≠ "")
  assertUsableSubtitle env (patch.getD none)
  updateItem video patch
  modify (publishRoomEvent (.updateQueueItem video subtitleUrl) context {} none)

def removeFromQueue (video : VideoId) (context : RoomRequestContext) : RoomM Unit := do
  let room ← get
  if room.queueContains video then
    let (index, removed) ← evict video
    modify fun room => { room with votes := room.votes.delete video.voteKey }.markDirty .voteCounts
    modify (publishRoomEvent (.remove video) context
      { video := some removed, queueIdx := some (.fin index) } none)
  else throw .videoNotFound

def reorderQueue (fromIdx toIdx : Number) : RoomM Unit :=
  match fromIdx.asIndex, toIdx.asIndex with
  | some source, some target => move source target
  | _, _ => throw (.badApiArgument "indices" "Expected non-negative integer queue positions")

/-- `noteJoin`: forget a leave event that waits for this session. -/
def noteJoin (token : AuthToken) (room : Room) : Room :=
  { room with pendingLeaveEvents := room.pendingLeaveEvents.delete token }

/-- The answer of `noteJoin`: the session never left. -/
def sessionResumed (token : AuthToken) (clientId : ClientId) (room : Room) : Bool :=
  room.pendingLeaveEvents.has token || room.sessionInRoom token (some clientId)

/-- Announce a joined viewer unless the session never left, and sync them. -/
def announceJoin (request : RoomRequest) (context : RoomRequestContext) (user : RoomUser)
    (room : Room) : Room :=
  let announced :=
    if room.sessionResumed user.token user.id then room.noteJoin user.token
    else room.publishRoomEvent request context {} none
  match announced.getUserInfo user.id with
  | some info => announced.syncUser info
  | none => announced

def joinRoom (env : Env) (info : ClientInfo) (reconnect : Bool)
    (context : RoomRequestContext) : RoomM Unit :=
  match context.auth.map RoomRequestAuthorization.token with
  | none => throw (.error "No auth token")
  | some token => do
      if token = "" then throw (.error "No auth token")
      else
        modify (holdEmptyPlaybackForJoin reconnect env.now)
        match RoomUser.updateInfo env.getUserCachedById info ⟨info.id, token, none, "", none, .none⟩ with
        | none => throw .external
        | some user =>
            modify fun room => { room with realusers := room.realusers ++ [user] }
            modify fun room => room.onPlayback (Playback.resumeForJoin reconnect
              (room.grants.granted context.role .playPause) env.uuid room.toAudience env.now)
            modify (announceJoin (.join info reconnect) context user)

def publishLeaveEvent (context : RoomRequestContext) (user : RoomUserInfo) (token : AuthToken)
    (room : Room) : Room :=
  if token = "" then room.publishRoomEvent .leave context { user := some user } none
  else if room.sessionInRoom token context.clientId then room
  else
    { room with pendingLeaveEvents := room.pendingLeaveEvents.set token ⟨context, user⟩ }

/-- `leaveRoom` drops the votes of the leaving client where they count. -/
def dropVotes (clientId : ClientId) (room : Room) : Room :=
  let room :=
    if room.enableVoteSkip then
      { room with votesToSkip := room.votesToSkip.remove clientId }.markDirty .votesToSkip
    else room
  if room.queueMode = .vote then
    let counted := room.votes.any fun entry => decide (clientId ∈ entry.2)
    let room := { room with votes := room.votes.map fun entry => (entry.1, entry.2.remove clientId) }
    if counted then room.markDirty .voteCounts else room
  else room

/-- Remove the first viewer with the id. -/
def removeUser (clientId : ClientId) (room : Room) : Room :=
  { room with realusers := room.realusers.eraseP fun user => decide (user.id = clientId) }

/-- A viewer goes: the announcement waits, their votes and their seat are gone. -/
def forgetUser (context : RoomRequestContext) (user : RoomUser) (room : Room) : Room :=
  ((room.publishLeaveEvent context (room.userInfo user) user.token).dropVotes user.id).removeUser
    user.id

/-- The playback of a room that a viewer has just left. An empty room is checkpointed at
once, which can fail. -/
def settleLeave (env : Env) (clientId : ClientId) : RoomM Unit := do
  let room ← get
  if room.realusers.isEmpty then
    modify fun room => { room.onPlayback (Playback.emptyRoom room.toAudience env.now) with
      keepAlivePing := env.now }
    sync env
    modify (flushSave env)
  else
    modify fun room =>
      room.onPlayback (Playback.rebuildRound env.uuid clientId room.toAudience env.now)

/-- A gesture ends with the viewer who made it. -/
def endOwnGesture (clientId : ClientId) (now : Int) (room : Room) : Room :=
  if room.temporarySpeed.any fun speed => decide (speed.clientId = clientId) then
    room.onPlayback (Playback.endTemporaryPlaybackSpeed true now)
  else room

def leaveRoom (env : Env) (context : RoomRequestContext) : RoomM Unit :=
  match context.clientId with
  | none => throw (.error "context.clientId was undefined")
  | some clientId => do
      modify (endOwnGesture clientId env.now)
      let room ← get
      match room.getUser clientId with
      | none => throw (.error "Client not found")
      | some user =>
          modify (forgetUser context user)
          settleLeave env clientId
          modify (evaluateBufferGate env.now)

/-- Replace the first viewer with the user's id. -/
def replaceUser (user : RoomUser) (room : Room) : Room :=
  { room with
    realusers := room.realusers.replaceF fun other =>
      if other.id = user.id then some user else none }

def updateUser (env : Env) (info : ClientInfo) (prepared : Option PlaybackPrepared) :
    RoomM Unit := do
  let room ← get
  match room.getUser info.id with
  | none => modify (evaluateBufferGate env.now)
  | some user =>
      match user.updateInfo env.getUserCachedById info with
      | none =>
          modify (replaceUser (user.updateUserId info))
          throw .external
      | some updated =>
          modify (replaceUser updated)
          modify fun room =>
            if info.status.any fun status => decide (status ≠ .buffering) then
              room.onPlayback (Playback.noteRecovery info.id)
            else room
          modify fun room => room.syncUser (room.userInfo updated)
          modify fun room => room.onPlayback
            (Playback.finishPlaybackPreparation info.id info.status prepared room.toAudience env.now)
          modify (evaluateBufferGate env.now)

def chat (text : String) (context : RoomRequestContext) : RoomM Unit :=
  match context.clientId with
  | none => throw (.error "context.clientId was undefined")
  | some clientId => do
      if utf16Length text > MAX_CHAT_MESSAGE_LENGTH then
        throw (.badApiArgument "text" "Expected at most 300 characters")
      else
        let room ← get
        match room.getUserInfo clientId with
        | none => throw (.error "Client not found")
        | some info => modify (publish (.chat info text))

/-- `addNote`; the note itself goes to storage. -/
def addNote (env : Env) (text : String) (context : RoomRequestContext) : RoomM Unit := do
  let room ← get
  if room.isTemporary then
    throw (.featureDisabled "notes are only available in permanent rooms")
  else
    match context.clientId with
    | none => throw (.error "context.clientId was undefined")
    | some clientId =>
        let note := trim text
        if utf16Length note = 0 then return ()
        else if utf16Length note > MAX_NOTE_LENGTH then throw .noteTooLong
        else if env.countNotes ≥ MAX_NOTES_PER_ROOM then throw .tooManyNotes
        else if (room.getUserInfo clientId).isNone then throw (.error "Client not found")
        else modify (publish .notes)

def deleteNote (env : Env) (noteId : Number) : RoomM Unit := do
  let room ← get
  if room.isTemporary then
    throw (.featureDisabled "notes are only available in permanent rooms")
  else if !noteId.isInteger then
    throw (.badApiArgument "noteId" "Expected an integer note id")
  else if env.deleteNote noteId then modify (publish .notes)
  else throw .noteNotFound

def vote (video : VideoId) (add : Bool) (context : RoomRequestContext) : RoomM Unit :=
  match context.clientId.filter (· ≠ "") with
  | none => throw (.error "Can't vote if not connected to room.")
  | some clientId => do
      let room ← get
      if !room.queueContains video then throw .videoNotFound
      else
        let key := video.voteKey
        modify fun room =>
          (match room.votes.get key with
            | some voters => { room with
                votes := room.votes.set key
                  (if add then voters.add clientId else voters.remove clientId) }
            | none =>
                if add then { room with votes := room.votes.set key [clientId] } else room).markDirty
            .voteCounts

/-- The permission that promoting to a role needs. -/
def promotePermission : Role → Option Permission
  | .administrator => some .promoteAdmin
  | .moderator => some .promoteModerator
  | .trustedUser => some .promoteTrusted
  | _ => none

/-- The permission that lowering a role needs. -/
def demotePermission : Role → Option Permission
  | .administrator => some .demoteAdmin
  | .moderator => some .demoteModerator
  | .trustedUser => some .demoteTrusted
  | _ => none

/-- Move a user id into the set of a role, out of all others. -/
def assignRole (id : Nat) (role : Role) (room : Room) : Room :=
  { room with
    userRoles := room.userRoles.map fun entry =>
      if entry.1 ∈ [Role.administrator, .moderator, .trustedUser] then
        (entry.1, if entry.1 = role then OrderedSet.add (OrderedSet.remove entry.2 id) id
          else OrderedSet.remove entry.2 id)
      else entry }

/-- The permission checks of `promoteUser`, for a target of the given role. -/
def checkPromotion (current role : Role) (context : RoomRequestContext) : RoomM Unit := do
  checkSome context.role (promotePermission role)
  if role.rank < current.rank then
    match demotePermission current with
    | some permission => check context.role permission
    | none => throw .impossiblePromotion
  else return ()

def promoteUser (targetClientId : ClientId) (role : Role) (context : RoomRequestContext) :
    RoomM Unit := do
  if role = .unregisteredUser ∨ role = .owner then
    throw (.badApiArgument "role" "Expected an assignable registered-user role")
  else
    let room ← get
    match room.getUser targetClientId with
    | none => throw (.error "Client not found.")
    | some target =>
        let current := room.getRole target
        checkPromotion current role context
        if current = .unregisteredUser ∨ current = .owner then throw .impossiblePromotion
        else
          modify fun room =>
            match target.userId with
            | some id => room.assignRole id role
            | none => room
          modify fun room =>
            match room.getUserInfo target.id with
            | some info => room.syncUser info
            | none => room

/-- Drop what a settings request leaves as it is. Lists and objects are compared by
identity, so they count as changed. -/
def changedSettings (room : Room) (settings : RoomSettings) : RoomSettings :=
  { settings with
    title := settings.title.filter (· ≠ room.title)
    description := settings.description.filter (· ≠ room.description)
    visibility := settings.visibility.filter (· ≠ room.visibility)
    queueMode := settings.queueMode.filter (· ≠ room.queueMode)
    restoreQueueBehavior := settings.restoreQueueBehavior.filter (· ≠ room.restoreQueueBehavior)
    enableVoteSkip := settings.enableVoteSkip.filter (· ≠ room.enableVoteSkip)
    bufferGateMode := settings.bufferGateMode.filter (· ≠ room.bufferGateMode)
    danmakuSource := settings.danmakuSource.filter fun source =>
      source.isSome || room.danmakuSource.isSome
    grants := (settings.grants.map fun grants =>
        ⟨grants.masks.filter fun entry =>
          decide (entry.1 ∈ [Role.unregisteredUser, .registeredUser, .trustedUser, .moderator]) &&
            decide (entry.2 ≠ room.grants.getMask entry.1)⟩).filter fun grants => !grants.isEmpty }

/-- `roleToPerms`. -/
def rolePermission : Role → Option Permission
  | .unregisteredUser => some .setPermissionsUnregistered
  | .registeredUser => some .setPermissionsRegistered
  | .trustedUser => some .setPermissionsTrusted
  | .moderator => some .setPermissionsModerator
  | _ => none

/-- `propsToPerms` over the settings present, then `roleToPerms` over the grants. -/
def settingsPermissions (settings : RoomSettings) : List Permission :=
  [(settings.title.isSome, Permission.setTitle),
    (settings.description.isSome, .setDescription),
    (settings.visibility.isSome, .setVisibility),
    (settings.queueMode.isSome, .setQueueMode),
    (settings.autoSkipSegmentCategories.isSome, .configureOther),
    (settings.restoreQueueBehavior.isSome, .configureOther),
    (settings.enableVoteSkip.isSome, .configureOther),
    (settings.bufferGateMode.isSome, .configureOther),
    (settings.danmakuSource.isSome, .setDanmakuSource)].filterMap (fun entry =>
      if entry.1 then some entry.2 else none) ++
    (settings.grants.map fun grants => grants.getRoles.filterMap rolePermission).getD []

/-- The requested skip categories name another set than the room's. -/
def categoriesChanged (room : Room) (settings : RoomSettings) : Bool :=
  settings.autoSkipSegmentCategories.any fun categories =>
    ALL_SKIP_CATEGORIES.any fun category =>
      decide (category ∈ categories) != decide (category ∈ room.autoSkipSegmentCategories)

/-- The write of the skip categories, in the canonical order when the set changed. -/
def applyCategories (settings : RoomSettings) (room : Room) : Room :=
  match settings.autoSkipSegmentCategories with
  | some categories =>
      let value := if room.categoriesChanged settings then
          ALL_SKIP_CATEGORIES.filter fun category => decide (category ∈ categories)
        else categories
      { room with autoSkipSegmentCategories := value }.markDirty .autoSkipSegmentCategories
  | none => room

/-- Apply one setting if it is present. -/
def applySetting {Value : Type} (value : Option Value) (assign : Value → Room → Room)
    (room : Room) : Room :=
  match value with
  | some value => assign value room
  | none => room

/-- The write of one role's grants. -/
def writeGrant (room : Room) (entry : Role × Nat) : Room :=
  { room with grants := room.grants.setRoleGrants entry.1 entry.2 }.markDirty .grants

/-- `applySettings` after every check: the settings, the grants and the segment fetch. -/
def writeSettings (settings : RoomSettings) (room : Room) : Room :=
  let fetch := room.categoriesChanged settings
  let room := room.applySetting settings.title fun value room =>
    { room with title := value }.markDirty .title
  let room := room.applySetting settings.description fun value room =>
    { room with description := value }.markDirty .description
  let room := room.applySetting settings.visibility fun value room =>
    { room with visibility := value }.markDirty .visibility
  let room := room.applySetting settings.queueMode fun value room =>
    { room with queueMode := value }.markDirty .queueMode
  let room := room.applyCategories settings
  let room := room.applySetting settings.restoreQueueBehavior fun value room =>
    { room with restoreQueueBehavior := value }
  let room := room.applySetting settings.enableVoteSkip fun value room =>
    { room with enableVoteSkip := value }.markDirty .enableVoteSkip
  let room := room.applySetting settings.bufferGateMode fun value room =>
    { room with bufferGateMode := value }.markDirty .bufferGateMode
  let room := room.applySetting settings.danmakuSource fun value room =>
    { room with danmakuSource := value }.markDirty .danmakuSource
  let room := room.applySetting settings.grants fun grants room =>
    grants.masks.foldl writeGrant room
  if fetch && !room.autoSkipSegmentCategories.isEmpty && room.videoSegments.isEmpty &&
      room.currentSource.isSome then
    { room with wantSponsorBlock := true }
  else room

def applySettings (env : Env) (settings : RoomSettings) (context : RoomRequestContext) :
    RoomM Unit := do
  let room ← get
  let settings := room.changedSettings settings
  (settingsPermissions settings).forM (check context.role)
  if settings.visibility = some .locked ∧ !room.hasPassword then
    throw (.badApiArgument "visibility" "Private rooms require a password")
  else
    modify (writeSettings settings)
    modify (evaluateBufferGate env.now)

/-- The item `playNow` plays: out of the queue, or fresh. -/
def takeRequested (env : Env) (video : VideoId) (alreadyInQueue : Bool) : RoomM QueueItem := do
  if alreadyInQueue then
    let (_, item) ← evict video
    return item
  else
    match env.getVideoInfo video with
    | some item => return item
    | none => throw .external

/-- Note the position the current item is interrupted at. -/
def retimeCurrent (source : QueueItem) (room : Room) : Room :=
  { room with currentSource := some source }

/-- Push the interrupted item back to the top of the queue, with its position. -/
def pushInterrupted (env : Env) : RoomM Unit := do
  let room ← get
  match room.currentSource with
  | none => return ()
  | some source =>
      let resumed := { source with startAt := some (room.realPlaybackPosition env.now) }
      modify (retimeCurrent resumed)
      pushTop resumed

def playNow (env : Env) (video : VideoAdd) (context : RoomRequestContext) : RoomM Unit := do
  assertUsableVideoId video.toVideoId
  let room ← get
  if room.currentSource.map QueueItem.toVideoId = some video.toVideoId then return ()
  else
    let alreadyInQueue := room.isVideoInQueue video.toVideoId
    check context.role (if alreadyInQueue then .queueOrder else .queueAdd)
    if !alreadyInQueue && decide (room.queue.length ≥ MAX_QUEUE_ITEMS) then throw queueFull
    else
      assertUsableSubtitle env video.subtitleUrl
      let taken ← takeRequested env video.toVideoId alreadyInQueue
      pushInterrupted env
      modify (onPlayback (Playback.takeSource (withSubtitle video.subtitleUrl taken) 0 env.now))
      modify (markDirty .queue)
      modify (assignVideoSegments [])
      modify fun room =>
        room.onPlayback (Playback.startItemNow env.uuid room.toAudience env.now)
      modify fun room =>
        if room.autoSkipSegmentCategories.isEmpty then room else { room with wantSponsorBlock := true }

/-- `shuffle`, which checks its permission a second time. -/
def shuffle (env : Env) (context : RoomRequestContext) : RoomM Unit := do
  check context.role .queueOrder
  modify fun room => room.assignQueue (env.shuffle room.queue)

def setPlaybackSpeed (env : Env) (speed : Number) : RoomM Unit :=
  match speed with
  | .fin value =>
      if value < 1 / 4 ∨ value > 4 then
        throw (.badApiArgument "speed" "Expected a finite playback speed from 0.25 to 4")
      else modify (onPlayback (Playback.changeSpeed value env.now))
  | _ => throw (.badApiArgument "speed" "Expected a finite playback speed from 0.25 to 4")

/-- `TEMPORARY_PLAYBACK_GESTURE_ID_REGEX`. -/
def validGestureId (gestureId : String) : Bool :=
  decide (1 ≤ gestureId.length) && decide (gestureId.length ≤ 64) &&
    gestureId.toList.all fun char => char.isAlphanum || char == '_' || char == '-'

/-- The gesture in force is this client's. -/
def ownsGesture (clientId : ClientId) (gestureId : String) (room : Room) : Bool :=
  room.temporarySpeed.any fun speed =>
    decide (speed.clientId = clientId) && decide (speed.gestureId = gestureId)

/-- The room plays, or is only held, on the very item the gesture was made on. -/
def canSpeedUp (video : Option VideoId) (room : Room) : Bool :=
  (room.isPlaying || room.bufferingGateHeld) &&
    room.currentSource.any Playback.hasPositiveLength &&
    decide (room.currentSource.map QueueItem.toVideoId = video) && room.temporarySpeed.isNone

def setTemporaryPlaybackSpeed (env : Env) (action : GestureAction) (gestureId : String)
    (video : Option VideoId) (context : RoomRequestContext) : RoomM Unit := do
  let room ← get
  if !validGestureId gestureId then
    throw (.badApiArgument "gesture" "Invalid temporary playback speed request")
  else
    match context.clientId.filter fun id => id ≠ "" && (room.getUser id).isSome with
    | none => throw .clientNotFoundInRoom
    | some clientId =>
        match action with
        | .stop =>
            if room.ownsGesture clientId gestureId then
              modify (onPlayback (Playback.endTemporaryPlaybackSpeed true env.now))
            else return ()
        | .renew =>
            check context.role .speed
            if room.ownsGesture clientId gestureId then
              modify (onPlayback (Playback.renewTemporaryPlaybackSpeed env.now))
            else return ()
        | .start =>
            check context.role .speed
            if room.canSpeedUp video then
              modify (releaseBufferGate false env.now)
              let room ← get
              if room.isPlaying then
                modify (onPlayback (Playback.startTemporarySpeed clientId gestureId env.now))
              else return ()
            else return ()

def restoreQueue (discard : Bool) (context : RoomRequestContext) : RoomM Unit := do
  check context.role (if discard then .queueRemove else .queueAdd)
  let room ← get
  match room.prevQueue with
  | none => throw (.error "No previous queue to restore")
  | some items =>
      if discard then modify (assignPrevQueue none)
      else if room.queue.length + items.length > MAX_QUEUE_ITEMS then throw queueFull
      else
        enqueue items
        modify (assignPrevQueue none)

def canKickUser (yourRole targetRole : Role) : Bool :=
  decide (yourRole = .owner) ||
    (decide (targetRole.rank < yourRole.rank) && decide (targetRole ≠ .owner))

def kickUser (clientId : ClientId) (context : RoomRequestContext) : RoomM Unit := do
  let room ← get
  match room.getUser clientId with
  | none => throw .clientNotFoundInRoom
  | some user =>
      if canKickUser context.role (room.getRole user) then modify (publish (.kick clientId))
      else return ()

/-- `undoEventSchema`. -/
def validUndoEvent (event : UndoEvent) : Bool :=
  decide (event.type ∈ [RoomRequestType.seek, .skip, .add, .remove]) &&
    (event.requestVideo.all fun video =>
      decide (1 ≤ utf16Length video.id) && decide (utf16Length video.id ≤ 2048)) &&
    (event.video.all fun video =>
      decide (1 ≤ utf16Length video.id) && decide (utf16Length video.id ≤ 2048)) &&
    (event.prevPosition.all fun position => position.isFinite && !position.lt 0) &&
    event.queueIdx.all fun index => index.asIndex.isSome

def findRecentEvent (echo : UndoEvent) (room : Room) : Option RoomEvent :=
  room.recentEvents.find? fun candidate => decide (candidate.fields = echo)

/-- Put the current item back on top of the queue unless it is queued already. -/
def requeueCurrent : RoomM Unit := do
  let room ← get
  match room.currentSource with
  | some source => if room.queueContains source.toVideoId then return () else pushTop source
  | none => return ()

/-- Undo of a skip: the skipped item comes back at its position. -/
def undoSkip (env : Env) (event : RoomEvent) (context : RoomRequestContext) : RoomM Unit := do
  check context.role .skip
  check context.role .seek
  check context.role .queueAdd
  check context.role .queuePlayNow
  requeueCurrent
  match event.additional.video, event.additional.prevPosition with
  | some video, some prevPosition =>
      modify (onPlayback (Playback.takeSource video prevPosition env.now))
  | _, _ => return ()

/-- Undo of an add: the item is removed, or the current one cleared. -/
def undoAdd (env : Env) (event : RoomEvent) (context : RoomRequestContext) : RoomM Unit := do
  check context.role .queueRemove
  let room ← get
  match event.request.video, room.queue.isEmpty with
  | some video, false =>
      check context.role .queueRemove
      removeFromQueue video.toVideoId context
  | _, _ =>
      check context.role .skip
      modify (onPlayback (Playback.assignCurrentSource none env.now))

/-- What `undo` applies for a recorded event. -/
def applyUndo (env : Env) (event : RoomEvent) (context : RoomRequestContext) : RoomM Unit :=
  match event.request.type with
  | .seek =>
      match event.additional.prevPosition with
      | some position => do
          check context.role .seek
          seek env (some position) context
      | none => return ()
  | .skip => undoSkip env event context
  | .add => undoAdd env event context
  | .remove => do
      check context.role .queueAdd
      check context.role .queueOrder
      match event.additional.video, event.additional.queueIdx with
      | some video, some index => insertAt video index
      | _, _ => return ()
  | _ => return ()

def undo (env : Env) (echo : UndoEvent) (context : RoomRequestContext) : RoomM Unit := do
  if !validUndoEvent echo then throw (.badApiArgument "event" "Invalid undo event")
  else
    let room ← get
    match room.findRecentEvent echo with
    | none => throw .undoEventUnavailable
    | some event =>
        applyUndo env event context
        modify fun room => { room with
          recentEvents := room.recentEvents.filter fun other =>
            decide (other.serial ≠ event.serial) }

/-- The table of `processRequest`. -/
def requestPermission : RoomRequestType → Option Permission
  | .playback => some .playPause
  | .skip => some .skip
  | .seek => some .seek
  | .add => some .queueAdd
  | .updateQueueItem => some .queueEdit
  | .remove => some .queueRemove
  | .order => some .queueOrder
  | .vote => some .queueVote
  | .chat => some .chat
  | .playNow => some .queuePlayNow
  | .shuffle => some .queueOrder
  | .playbackSpeed => some .speed
  | .kick => some .kick
  | .addNote => some .setNotes
  | .deleteNote => some .setNotes
  | .join | .leave | .promote | .updateUser | .undo | .applySettings | .restoreQueue
  | .temporaryPlaybackSpeed => none

/-- The handler of a request. -/
def handle (env : Env) (request : RoomRequest) (context : RoomRequestContext) : RoomM Unit :=
  match request with
  | .join info reconnect => joinRoom env info reconnect context
  | .leave => leaveRoom env context
  | .playback state => playback env state context
  | .skip => skip env context
  | .seek value => seek env value context
  | .add request => addToQueue env request context
  | .remove video => removeFromQueue video context
  | .order fromIdx toIdx => reorderQueue fromIdx toIdx
  | .vote video add => vote video add context
  | .promote targetClientId role => promoteUser targetClientId role context
  | .updateUser info prepared => updateUser env info prepared
  | .chat text => chat text context
  | .undo event => undo env event context
  | .applySettings settings => applySettings env settings context
  | .playNow video => playNow env video context
  | .shuffle => shuffle env context
  | .playbackSpeed speed => setPlaybackSpeed env speed
  | .restoreQueue discard => restoreQueue discard context
  | .kick clientId => kickUser clientId context
  | .updateQueueItem video subtitleUrl => updateQueueItem env video subtitleUrl context
  | .temporaryPlaybackSpeed action gestureId video =>
      setTemporaryPlaybackSpeed env action gestureId video context
  | .addNote text => addNote env text context
  | .deleteNote noteId => deleteNote env noteId

def processRequest (env : Env) (request : RoomRequest) (context : RoomRequestContext) :
    RoomM Unit := do
  checkSome context.role (requestPermission request.type)
  handle env request context

end Room

end OpenTogetherTube
