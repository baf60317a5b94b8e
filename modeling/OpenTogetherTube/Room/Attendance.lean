import OpenTogetherTube.Lib.Tasks
import OpenTogetherTube.Room.System

/-!
# Who came and who left

`joinRoom` and `leaveRoom` cut at their awaits. A session may have several tabs; whether a join
or a leave is announced is decided by looking at the other members of the session, whose own
handlers may be under way. A member counts as settled while no handler of theirs is. As long as
nobody decides on the word of a member who is not settled, the announcements of a session
alternate, and an absent session has been announced as gone. `joinRoom_pieces` and `leaveRoom_pieces`
tie the pieces to the handlers of `Room.Requests`.
-/

namespace OpenTogetherTube

open Lib Lib.Handler

/-- A join event or a leave event. -/
inductive Announcement where
  | joined
  | left
deriving DecidableEq

/-- The announcement a message is, with the client it names. -/
def ServerMessage.announcement : ServerMessage → Option (ClientId × Announcement)
  | .event recorded =>
      match recorded.request.type with
      | .join => some (recorded.user.id, .joined)
      | .leave => some (recorded.user.id, .left)
      | _ => none
  | _ => none

/-- The announcement that is due after the given ones, newest first. -/
def Announcement.due : List Announcement → Announcement
  | .joined :: _ => .left
  | _ => .joined

/-- Join, leave, join, and so on, newest first. -/
def Announcement.alternate : List Announcement → Bool
  | [] => true
  | latest :: earlier => decide (latest = due earlier) && alternate earlier

namespace Room

/-- What the room has announced about a session, newest first. -/
def announcements (tokenOf : ClientId → AuthToken) (token : AuthToken) (room : Room) :
    List Announcement :=
  (room.published.filterMap ServerMessage.announcement).filterMap fun announced =>
    if tokenOf announced.1 = token then some announced.2 else none

/-- `joinRoom` goes through `play`, which it awaits. -/
def resumesAtOnce (reconnect : Bool) (role : Role) (room : Room) : Bool :=
  reconnect && room.resumeOnNextJoin && decide (room.realusers.length = 1) &&
    room.grants.granted role .playPause && room.canPreparePlayback

/-- `joinRoom` from `updateInfo` to `noteJoin`. -/
def takeSeat (env : Env) (reconnect : Bool) (role : Role) (user : RoomUser) (room : Room) : Room :=
  let room := { room with realusers := room.realusers ++ [user] }
  room.onPlayback (Playback.resumeForJoin reconnect (room.grants.granted role .playPause)
    env.uuid room.toAudience env.now)

/-- `leaveRoom` from `publishLeaveEvent` on. -/
def finishLeave (env : Env) (clientId : ClientId) : RoomM Unit := do
  modify fun room => (room.dropVotes clientId).removeUser clientId
  settleLeave env clientId
  modify (evaluateBufferGate env.now)

/-- The context `processRequestUnsafe` makes for a disconnect. -/
def leaveContext (user : RoomUser) (room : Room) : RoomRequestContext where
  username := user.username
  role := room.getRole user
  clientId := some user.id

end Room

/-- Where a handler waits. -/
inductive AttendancePoint where
  /-- `joinRoom`, at `updateInfo`. -/
  | lookingUp (info : ClientInfo) (reconnect : Bool) (context : RoomRequestContext) (token : AuthToken)
  /-- `joinRoom`, at `play`. -/
  | resuming (user : RoomUser) (request : RoomRequest) (context : RoomRequestContext)
  /-- `leaveRoom`, at `publishLeaveEvent`. -/
  | departing (clientId : ClientId)
deriving DecidableEq

namespace AttendancePoint

/-- The client whose handler it is. -/
def client : AttendancePoint → ClientId
  | .lookingUp info _ _ _ => info.id
  | .resuming user _ _ => user.id
  | .departing clientId => clientId

/-- What is awaited takes no time: the handler goes on before any timer fires. -/
def isImmediate : AttendancePoint → Bool
  | .lookingUp _ _ _ _ => false
  | .resuming _ _ _ => true
  | .departing _ => true

end AttendancePoint

/-- What begins. -/
inductive AttendanceCall where
  | join (info : ClientInfo) (reconnect : Bool) (context : RoomRequestContext)
  | leave (clientId : ClientId)
  | leaveTimer (token : AuthToken)
  /-- Anything else that happens to the playback of the room. -/
  | playback (update : Playback → Playback)

namespace Room

/-- A handler up to its first await. -/
def attend (call : AttendanceCall) (env : Env) (room : Room) : Room × Rest AttendancePoint Empty :=
  match call with
  | .join info reconnect context =>
      match context.auth.map RoomRequestAuthorization.token with
      | none => (room, .done)
      | some token =>
          if token = "" then (room, .done)
          else (room.holdEmptyPlaybackForJoin reconnect env.now,
            .point (.lookingUp info reconnect context token))
  | .leave clientId =>
      match room.getUser clientId with
      | none => (room, .done)
      | some user =>
          ((room.endOwnGesture clientId env.now).publishLeaveEvent (room.leaveContext user)
            (room.userInfo user) user.token, .point (.departing clientId))
  | .leaveTimer token => (room.fireLeaveTimer token, .done)
  | .playback update => (room.onPlayback update, .done)

/-- A handler from an await to the next. -/
def attendOn (point : AttendancePoint) (env : Env) (room : Room) :
    Room × Rest AttendancePoint Empty :=
  match point with
  | .lookingUp info reconnect context token =>
      match RoomUser.updateInfo env.getUserCachedById info ⟨info.id, token, none, "", none, .none⟩ with
      | none => (room, .done)
      | some user =>
          let seated := room.takeSeat env reconnect context.role user
          if { room with realusers := room.realusers ++ [user] }.resumesAtOnce reconnect context.role then
            (seated, .point (.resuming user (.join info reconnect) context))
          else (seated.announceJoin (.join info reconnect) context user, .done)
  | .resuming user request context => (room.announceJoin request context user, .done)
  | .departing clientId => ((finishLeave env clientId).after room, .done)

end Room

/-- The handlers as a program without a lock. -/
def attendanceProgram : Program Room AttendanceCall Env AttendancePoint Empty where
  call := Room.attend
  resume := Room.attendOn
  serve guarded := nomatch guarded

/-- The handlers of one room on their way. -/
abbrev Attendance := Tasks Room AttendancePoint Empty

namespace Attendance

/-- No handler of the client is under way. -/
def idle (clientId : ClientId) (tasks : Attendance) : Bool :=
  tasks.ready.all fun point => decide (point.client ≠ clientId)

/-- A client has one session token, joins once at a time under its own id and leaves when its join
is over. A timer fires when no handler can go on at once. -/
def proper (tokenOf : ClientId → AuthToken) (tasks : Attendance) :
    TaskLabel AttendanceCall Env → Bool
  | .call (.join info _ context) _ =>
      tasks.idle info.id && (tasks.shared.getUser info.id).isNone &&
        decide (context.clientId = some info.id) &&
        decide (context.auth.map RoomRequestAuthorization.token = some (tokenOf info.id))
  | .call (.leave clientId) _ => tasks.idle clientId
  | .call (.leaveTimer _) _ => tasks.ready.all fun point => !point.isImmediate
  | _ => true

/-- Another member of the session is in the room and not about to go. -/
def accompanied (user : RoomUser) (tasks : Attendance) : Bool :=
  tasks.shared.realusers.any fun other =>
    decide (other.token = user.token) && decide (other.id ≠ user.id) && tasks.idle other.id

/-- A leave that is not announced leaves a settled member behind, and a join that is not
announced is not the second of two that are under way. -/
def apart (tasks : Attendance) : TaskLabel AttendanceCall Env → Bool
  | .call (.leave clientId) _ =>
      (tasks.shared.getUser clientId).all fun user =>
        !tasks.shared.sessionInRoom user.token (some clientId) || tasks.accompanied user
  | .resume index _ =>
      tasks.ready[index]?.all fun point =>
        match point with
        | .lookingUp _ _ _ token =>
            tasks.shared.pendingLeaveEvents.has token || tasks.ready.all fun other =>
              match other with
              | .resuming user _ _ => decide (user.token ≠ token)
              | _ => true
        | _ => true
  | _ => true

end Attendance

/-- Every interleaving of the handlers in a room that begins empty. -/
def attendanceSystem (tokenOf : ClientId → AuthToken) :
    TransitionSystem Attendance (TaskLabel AttendanceCall Env) :=
  (attendanceProgram.system fun room =>
    room.realusers = [] ∧ room.pendingLeaveEvents = [] ∧ room.published = []).restrict
    fun tasks label => Attendance.proper tokenOf tasks label = true

namespace Room

/-- Nothing that decides about announcements changes, and nothing is announced. -/
structure Undisturbed (before after : Room) : Prop where
  realusers : after.realusers = before.realusers
  pendingLeaveEvents : after.pendingLeaveEvents = before.pendingLeaveEvents
  announced : after.published.filterMap ServerMessage.announcement =
    before.published.filterMap ServerMessage.announcement

instance : IsPreorder Room Undisturbed where
  refl _ := ⟨rfl, rfl, rfl⟩
  trans _ _ _ first second :=
    ⟨second.realusers.trans first.realusers,
      second.pendingLeaveEvents.trans first.pendingLeaveEvents,
      second.announced.trans first.announced⟩

variable (env : Env) (room : Room)

theorem sync_undisturbed : Keeps Undisturbed (sync env) room := by
  unfold sync
  refine Keeps.get_bind (Keeps.ite (fun _ => Keeps.pure _ _) fun _ => ?_)
  refine Keeps.modify_bind ⟨rfl, rfl, rfl⟩ (Keeps.ite (fun _ => ?_) fun _ => Keeps.pure _ _)
  exact Keeps.modify_bind ⟨rfl, rfl, rfl⟩ (Keeps.throw _ _)

theorem flushSave_undisturbed : Undisturbed room (room.flushSave env) := by
  unfold flushSave saveStateToRedis
  split
  · split <;> exact ⟨rfl, rfl, rfl⟩
  · exact refl room

theorem settleLeave_undisturbed (clientId : ClientId) :
    Keeps Undisturbed (settleLeave env clientId) room := by
  unfold settleLeave
  refine Keeps.get_bind (Keeps.ite (fun _ => ?_) fun _ => ⟨rfl, rfl, rfl⟩)
  refine Keeps.modify_bind ⟨rfl, rfl, rfl⟩ (Keeps.bind (sync_undisturbed env _) fun _ _ => ?_)
  exact flushSave_undisturbed env _

theorem dropVotes_undisturbed (clientId : ClientId) : Undisturbed room (room.dropVotes clientId) := by
  unfold dropVotes
  dsimp only
  split
  · split
    · split <;> exact ⟨rfl, rfl, rfl⟩
    · exact ⟨rfl, rfl, rfl⟩
  · split
    · split <;> exact ⟨rfl, rfl, rfl⟩
    · exact refl room

theorem endOwnGesture_undisturbed (clientId : ClientId) (now : Int) :
    Undisturbed room (room.endOwnGesture clientId now) := by
  unfold endOwnGesture
  split
  · exact ⟨rfl, rfl, rfl⟩
  · exact refl room

/-- A leave that goes on takes the member out of the room. -/
theorem finishLeave_undisturbed (clientId : ClientId) :
    Undisturbed (room.removeUser clientId) ((finishLeave env clientId).after room) := by
  have dropped := room.dropVotes_undisturbed clientId
  have removed : Undisturbed (room.removeUser clientId) ((room.dropVotes clientId).removeUser clientId) := by
    refine ⟨?_, dropped.pendingLeaveEvents, dropped.announced⟩
    unfold removeUser
    rw [dropped.realusers]
  unfold finishLeave
  rw [after_modify_bind]
  refine IsTrans.trans _ _ _ removed ?_
  exact Keeps.bind (settleLeave_undisturbed env _ clientId) fun _ _ => ⟨rfl, rfl, rfl⟩

/-- A handler that is not interrupted is `joinRoom`. -/
theorem joinRoom_pieces (info : ClientInfo) (reconnect : Bool) (context : RoomRequestContext)
    (token : AuthToken) (authorized : context.auth.map RoomRequestAuthorization.token = some token)
    (named : token ≠ "") :
    (joinRoom env info reconnect context).after room =
      match RoomUser.updateInfo env.getUserCachedById info ⟨info.id, token, none, "", none, .none⟩ with
      | none => room.holdEmptyPlaybackForJoin reconnect env.now
      | some user =>
          ((room.holdEmptyPlaybackForJoin reconnect env.now).takeSeat env reconnect context.role
            user).announceJoin (.join info reconnect) context user := by
  unfold joinRoom
  rw [authorized]
  dsimp only
  rw [if_neg named, after_modify_bind]
  cases RoomUser.updateInfo env.getUserCachedById info ⟨info.id, token, none, "", none, .none⟩ with
  | none => rfl
  | some user => rfl

/-- A handler that is not interrupted is `leaveRoom`. -/
theorem leaveRoom_pieces {clientId : ClientId} {user : RoomUser} (context : RoomRequestContext)
    (named : context.clientId = some clientId)
    (found : (room.endOwnGesture clientId env.now).getUser clientId = some user) :
    (leaveRoom env context).after room =
      (finishLeave env clientId).after ((room.endOwnGesture clientId env.now).publishLeaveEvent
        context ((room.endOwnGesture clientId env.now).userInfo user) user.token) := by
  have same : user.id = clientId := by
    have first := List.find?_some found
    exact of_decide_eq_true first
  subst same
  unfold leaveRoom finishLeave
  rw [named]
  dsimp only
  rw [after_modify_bind, after_get_bind, found]
  rfl

variable (tokenOf : ClientId → AuthToken) (token : AuthToken)

theorem announcements_undisturbed {before after : Room} (same : Undisturbed before after) :
    after.announcements tokenOf token = before.announcements tokenOf token := by
  unfold announcements
  rw [same.announced]

/-- What a published event adds to the announcements. -/
theorem announcements_publish (message : ServerMessage) :
    (room.publish message).announcements tokenOf token =
      match message.announcement with
      | some announced =>
          if tokenOf announced.1 = token then
            announced.2 :: room.announcements tokenOf token
          else room.announcements tokenOf token
      | none => room.announcements tokenOf token := by
  unfold announcements publish
  rw [List.filterMap_cons]
  cases message.announcement with
  | none => rfl
  | some announced =>
      dsimp only
      rw [List.filterMap_cons]
      by_cases ours : tokenOf announced.1 = token
      · rw [if_pos ours, if_pos ours]
      · rw [if_neg ours, if_neg ours]

theorem publishRoomEvent_known (request : RoomRequest) (additional : RoomEventContext)
    (knownUser : Option RoomUserInfo) {context : RoomRequestContext} {clientId : ClientId}
    {info : RoomUserInfo} (named : context.clientId = some clientId)
    (known : knownUser.or (room.getUserInfo clientId) = some info) :
    (room.publishRoomEvent request context additional knownUser).realusers = room.realusers ∧
      (room.publishRoomEvent request context additional knownUser).pendingLeaveEvents =
        room.pendingLeaveEvents ∧
      (room.publishRoomEvent request context additional knownUser).announcements tokenOf token =
        (room.publish (.event ⟨room.nextSerial, request, info, additional⟩)).announcements
          tokenOf token := by
  unfold publishRoomEvent
  rw [named]
  dsimp only
  rw [known]
  exact ⟨rfl, rfl, rfl⟩

theorem getUser_of_mem {user : RoomUser} (distinct : (room.realusers.map RoomUser.id).Nodup)
    (member : user ∈ room.realusers) : room.getUser user.id = some user := by
  unfold Audience.getUser
  generalize room.realusers = users at distinct member
  induction users with
  | nil => cases member
  | cons other rest ih =>
      rw [List.map_cons, List.nodup_cons] at distinct
      rcases List.mem_cons.mp member with rfl | later
      · exact List.find?_cons_of_pos (decide_eq_true rfl)
      · have different : other.id ≠ user.id := by
          intro same
          exact distinct.1 (same ▸ List.mem_map_of_mem later)
        rw [List.find?_cons_of_neg (by simpa using different)]
        exact ih distinct.2 later

theorem mem_of_getUser {user : RoomUser} {clientId : ClientId}
    (found : room.getUser clientId = some user) : user ∈ room.realusers ∧ user.id = clientId := by
  refine ⟨List.mem_of_find?_eq_some found, ?_⟩
  have first := List.find?_some found
  exact of_decide_eq_true first

/-- The end of `joinRoom`: a pending leave is called off, and the member is announced unless the
session never left. -/
theorem syncUser_undisturbed (clientId : ClientId) :
    Undisturbed room (match room.getUserInfo clientId with
      | some info => room.syncUser info
      | none => room) := by
  cases room.getUserInfo clientId with
  | some info => exact ⟨rfl, rfl, rfl⟩
  | none => exact refl room

theorem announceJoin_spec {user : RoomUser} {request : RoomRequest} {context : RoomRequestContext}
    (distinct : (room.realusers.map RoomUser.id).Nodup) (member : user ∈ room.realusers)
    (named : context.clientId = some user.id) (asks : request.type = .join) :
    (room.announceJoin request context user).realusers = room.realusers ∧
      (room.announceJoin request context user).pendingLeaveEvents =
        (if room.sessionResumed user.token user.id then
          room.pendingLeaveEvents.delete user.token
        else room.pendingLeaveEvents) ∧
      (room.announceJoin request context user).announcements tokenOf token =
        if room.sessionResumed user.token user.id = false ∧ tokenOf user.id = token then
          .joined :: room.announcements tokenOf token
        else room.announcements tokenOf token := by
  have found := room.getUser_of_mem distinct member
  unfold announceJoin
  dsimp only
  cases resumed : room.sessionResumed user.token user.id with
  | true =>
      have last := (room.noteJoin user.token).syncUser_undisturbed user.id
      refine ⟨last.realusers, last.pendingLeaveEvents, ?_⟩
      have unannounced := announcements_undisturbed tokenOf token last
      simp only [Bool.true_eq_false, false_and, if_false]
      exact unannounced
  | false =>
      have info : (none : Option RoomUserInfo).or (room.getUserInfo user.id) =
          some (room.userInfo user) := by
        rw [Option.none_or]
        unfold Audience.getUserInfo
        rw [found]
        rfl
      obtain ⟨users, pending, published⟩ :=
        room.publishRoomEvent_known tokenOf token request {} none named info
      have last := (room.publishRoomEvent request context {} none).syncUser_undisturbed user.id
      refine ⟨last.realusers.trans users, last.pendingLeaveEvents.trans pending, ?_⟩
      refine (announcements_undisturbed tokenOf token last).trans (published.trans ?_)
      rw [announcements_publish]
      unfold ServerMessage.announcement
      dsimp only
      rw [asks]
      dsimp only [Audience.userInfo]
      by_cases ours : tokenOf user.id = token
      · rw [if_pos ours, if_pos ⟨rfl, ours⟩]
      · rw [if_neg ours, if_neg fun both => ours both.2]

/-- The start of `leaveRoom`: the last member of a session leaves a timer behind. -/
theorem publishLeaveEvent_spec (context : RoomRequestContext) (info : RoomUserInfo)
    (named : token ≠ "") :
    (room.publishLeaveEvent context info token).realusers = room.realusers ∧
      (room.publishLeaveEvent context info token).pendingLeaveEvents =
        (if room.sessionInRoom token context.clientId then room.pendingLeaveEvents
        else room.pendingLeaveEvents.set token ⟨context, info⟩) ∧
      (room.publishLeaveEvent context info token).published = room.published := by
  unfold publishLeaveEvent
  rw [if_neg named]
  split
  · exact ⟨rfl, rfl, rfl⟩
  · exact ⟨rfl, rfl, rfl⟩

theorem fireLeaveTimer_spec {pending : PendingLeave} {clientId : ClientId}
    (waits : room.pendingLeaveEvents.get token = some pending)
    (named : pending.context.clientId = some clientId) (other : AuthToken) :
    (room.fireLeaveTimer token).realusers = room.realusers ∧
      (room.fireLeaveTimer token).pendingLeaveEvents = room.pendingLeaveEvents.delete token ∧
      (room.fireLeaveTimer token).announcements tokenOf other =
        if room.sessionInRoom token none = false ∧ tokenOf pending.user.id = other then
          .left :: room.announcements tokenOf other
        else room.announcements tokenOf other := by
  unfold fireLeaveTimer
  rw [waits]
  dsimp only
  cases there : room.sessionInRoom token none with
  | true => exact ⟨rfl, rfl, rfl⟩
  | false =>
      obtain ⟨users, timers, published⟩ := publishRoomEvent_known
        { room with pendingLeaveEvents := room.pendingLeaveEvents.delete token } tokenOf other
        .leave { user := some pending.user } (some pending.user) named rfl
      simp only [Bool.false_eq_true, if_false]
      refine ⟨users, timers, published.trans ?_⟩
      rw [announcements_publish]
      unfold ServerMessage.announcement RoomRequest.type
      dsimp only
      by_cases ours : tokenOf pending.user.id = other
      · rw [if_pos ours, if_pos ⟨trivial, ours⟩]
        rfl
      · rw [if_neg ours, if_neg fun both => ours both.2]
        rfl

end Room

/-- No handler of the client is among these. -/
def Idle (points : List AttendancePoint) (clientId : ClientId) : Prop :=
  ∀ point ∈ points, point.client ≠ clientId

/-- What holds of a handler while it waits. -/
def AttendancePoint.Placed (tokenOf : ClientId → AuthToken) (room : Room) : AttendancePoint → Prop
  | .lookingUp info _ context token =>
      info.id ∉ room.realusers.map RoomUser.id ∧ context.clientId = some info.id ∧
        token = tokenOf info.id ∧ token ≠ ""
  | .resuming user request context =>
      user ∈ room.realusers ∧ context.clientId = some user.id ∧ request.type = .join
  | .departing clientId => clientId ∈ room.realusers.map RoomUser.id

/-- The members of a room, with the handlers under way. -/
structure Seating (tokenOf : ClientId → AuthToken) (room : Room) (points : List AttendancePoint) :
    Prop where
  members : ∀ user ∈ room.realusers, user.token = tokenOf user.id ∧ user.token ≠ ""
  distinct : (room.realusers.map RoomUser.id).Nodup
  handlers : (points.map AttendancePoint.client).Nodup
  placed : ∀ point ∈ points, point.Placed tokenOf room
  timers : ∀ token pending, room.pendingLeaveEvents.get token = some pending →
    (∃ clientId, pending.context.clientId = some clientId) ∧ tokenOf pending.user.id = token

/-- A member of the session is in the room and no handler of theirs is under way. -/
def Settled (room : Room) (points : List AttendancePoint) (token : AuthToken) : Prop :=
  ∃ user ∈ room.realusers, user.token = token ∧ Idle points user.id

/-- A member of the session is about to go. -/
def Departing (tokenOf : ClientId → AuthToken) (points : List AttendancePoint) (token : AuthToken) :
    Prop :=
  ∃ clientId, .departing clientId ∈ points ∧ tokenOf clientId = token

/-- A session has been announced exactly when it has a settled member or a leave that waits. -/
structure Told (tokenOf : ClientId → AuthToken) (room : Room) (points : List AttendancePoint)
    (token : AuthToken) : Prop where
  known : (room.announcements tokenOf token).head? = some .joined ↔
    room.pendingLeaveEvents.has token = true ∨ Settled room points token
  departing : Departing tokenOf points token →
    room.pendingLeaveEvents.has token = true ∨ Settled room points token
  waiting : room.pendingLeaveEvents.has token = true → ¬ Settled room points token
  alternate : Announcement.alternate (room.announcements tokenOf token) = true

/-- The room and the handlers under way are in order, for every session. -/
structure Attended (tokenOf : ClientId → AuthToken) (room : Room) (points : List AttendancePoint) :
    Prop where
  seating : Seating tokenOf room points
  told : ∀ token, Told tokenOf room points token

namespace Announcement

/-- A leave is due after a join. -/
theorem due_of_joined {announced : List Announcement} (latest : announced.head? = some .joined) :
    due announced = .left := by
  cases announced with
  | nil => cases latest
  | cons first rest =>
      cases latest
      rfl

/-- Otherwise a join is. -/
theorem due_of_absent {announced : List Announcement} (latest : announced.head? ≠ some .joined) :
    due announced = .joined := by
  cases announced with
  | nil => rfl
  | cons first rest =>
      cases first with
      | joined => exact absurd rfl latest
      | left => rfl

end Announcement

section Pieces

variable {tokenOf : ClientId → AuthToken} {room after : Room} {points others : List AttendancePoint}
  {token : AuthToken}

/-- What is told of a session depends on its announcements, its timer and its members only. -/
theorem Told.of_same (told : Told tokenOf room points token)
    (announced : after.announcements tokenOf token = room.announcements tokenOf token)
    (timer : after.pendingLeaveEvents.has token = room.pendingLeaveEvents.has token)
    (settled : Settled after others token ↔ Settled room points token)
    (departing : Departing tokenOf others token → Departing tokenOf points token) :
    Told tokenOf after others token := by
  refine ⟨?_, ?_, ?_, ?_⟩
  · rw [announced, timer, settled]
    exact told.known
  · intro leaving
    rw [timer, settled]
    exact told.departing (departing leaving)
  · rw [timer, settled]
    exact told.waiting
  · rw [announced]
    exact told.alternate

theorem idle_cons {point : AttendancePoint} {clientId : ClientId} :
    Idle (point :: points) clientId ↔ point.client ≠ clientId ∧ Idle points clientId := by
  unfold Idle
  simp only [List.forall_mem_cons]

theorem settled_users (users : after.realusers = room.realusers) :
    Settled after points token ↔ Settled room points token := by
  unfold Settled
  rw [users]

/-- A handler of somebody who is no member of the session. -/
theorem settled_cons {point : AttendancePoint}
    (apart : ∀ user ∈ room.realusers, user.token = token → point.client ≠ user.id) :
    Settled room (point :: points) token ↔ Settled room points token := by
  refine exists_congr fun user => and_congr_right fun member => and_congr_right fun same => ?_
  rw [idle_cons]
  exact and_iff_right (apart user member same)

/-- The members keep their seats. -/
theorem Seating.of_users (seating : Seating tokenOf room points)
    (users : after.realusers = room.realusers)
    (handlers : (others.map AttendancePoint.client).Nodup)
    (placed : ∀ point ∈ others, point.Placed tokenOf room)
    (timers : ∀ token pending, after.pendingLeaveEvents.get token = some pending →
      (∃ clientId, pending.context.clientId = some clientId) ∧ tokenOf pending.user.id = token) :
    Seating tokenOf after others := by
  refine ⟨?_, ?_, handlers, ?_, timers⟩
  · rw [users]
    exact seating.members
  · rw [users]
    exact seating.distinct
  · intro point inside
    have there := placed point inside
    unfold AttendancePoint.Placed at there ⊢
    rw [users]
    exact there

/-- A member's handler is apart from the members of another session. -/
theorem Seating.apart (seating : Seating tokenOf room points) {user : RoomUser}
    (member : user ∈ room.realusers) (other : token ≠ user.token) {third : RoomUser}
    (inside : third ∈ room.realusers) (same : third.token = token) : user.id ≠ third.id := by
  intro equal
  have ours := (seating.members user member).1
  rw [equal, ← (seating.members third inside).1] at ours
  exact other (same.symm.trans ours.symm)

theorem Attended.perm (attended : Attended tokenOf room points) (same : points.Perm others) :
    Attended tokenOf room others := by
  have idle : ∀ clientId, Idle others clientId ↔ Idle points clientId := by
    intro clientId
    unfold Idle
    simp only [same.mem_iff]
  refine ⟨⟨attended.seating.members, attended.seating.distinct, ?_, ?_, attended.seating.timers⟩, ?_⟩
  · exact (same.map _).nodup_iff.mp attended.seating.handlers
  · intro point member
    exact attended.seating.placed point (same.mem_iff.mpr member)
  · intro token
    refine (attended.told token).of_same rfl rfl ?_ ?_
    · unfold Settled
      simp only [idle]
    · rintro ⟨clientId, member, ours⟩
      exact ⟨clientId, same.mem_iff.mpr member, ours⟩

/-- What does not disturb the room does not disturb its order. -/
theorem Attended.undisturbed (attended : Attended tokenOf room points)
    (same : Room.Undisturbed room after) : Attended tokenOf after points := by
  obtain ⟨seating, told⟩ := attended
  refine ⟨seating.of_users same.realusers seating.handlers seating.placed ?_, fun token => ?_⟩
  · rw [same.pendingLeaveEvents]
    exact seating.timers
  · refine (told token).of_same (Room.announcements_undisturbed tokenOf token same) ?_
      (settled_users same.realusers) id
    rw [same.pendingLeaveEvents]

/-- A member is settled, or a handler of theirs is under way. -/
theorem Seating.cases (seating : Seating tokenOf room points) {user : RoomUser}
    (member : user ∈ room.realusers) :
    Idle points user.id ∨ (∃ request context, .resuming user request context ∈ points) ∨
      .departing user.id ∈ points := by
  by_cases idle : Idle points user.id
  · exact Or.inl idle
  · refine Or.inr ?_
    unfold Idle at idle
    push Not at idle
    obtain ⟨point, inside, same⟩ := idle
    have placed := seating.placed point inside
    cases point with
    | lookingUp info reconnect context asked =>
        exact absurd (List.mem_map.mpr ⟨user, member, same.symm⟩) placed.1
    | resuming other request context =>
        have known := room.getUser_of_mem seating.distinct member
        have found := room.getUser_of_mem seating.distinct placed.1
        have equal : other.id = user.id := same
        rw [equal, known] at found
        cases found
        exact Or.inl ⟨request, context, inside⟩
    | departing clientId =>
        have equal : clientId = user.id := same
        subst equal
        exact Or.inr inside

theorem has_delete (map : OrderedMap AuthToken PendingLeave) (other : AuthToken) :
    (map.delete other).has token = (decide (token ≠ other) && map.has token) := by
  unfold OrderedMap.has
  rw [OrderedMap.get_delete]
  by_cases same : token = other
  · simp [same]
  · simp [same]

theorem has_set (map : OrderedMap AuthToken PendingLeave) (other : AuthToken) (leave : PendingLeave) :
    (map.set other leave).has token = (decide (token = other) || map.has token) := by
  unfold OrderedMap.has
  rw [OrderedMap.get_set]
  by_cases same : token = other
  · simp [same]
  · simp [same]

/-- A session is in the room besides one of its members exactly when another member is. -/
theorem sessionInRoom_iff (clientId : ClientId) :
    room.sessionInRoom token (some clientId) = true ↔
      ∃ other ∈ room.realusers, other.token = token ∧ other.id ≠ clientId := by
  unfold Audience.sessionInRoom
  simp only [List.any_eq_true, Bool.and_eq_true, decide_eq_true_eq, ne_eq, Option.some.injEq]

/-- A join that begins. -/
theorem Attended.look (attended : Attended tokenOf room points) {info : ClientInfo} {reconnect : Bool}
    {context : RoomRequestContext} (idle : Idle points info.id)
    (placed : (AttendancePoint.lookingUp info reconnect context token).Placed tokenOf room) :
    Attended tokenOf room (.lookingUp info reconnect context token :: points) := by
  obtain ⟨seating, told⟩ := attended
  refine ⟨⟨seating.members, seating.distinct, ?_, ?_, seating.timers⟩, ?_⟩
  · refine List.nodup_cons.mpr ⟨?_, seating.handlers⟩
    intro member
    obtain ⟨point, inside, same⟩ := List.mem_map.mp member
    exact idle point inside same
  · rintro point (_ | ⟨_, member⟩)
    · exact placed
    · exact seating.placed point member
  · intro session
    refine (told session).of_same rfl rfl ?_ ?_
    · exact settled_cons fun user member _ same =>
        placed.1 (List.mem_map.mpr ⟨user, member, same.symm⟩)
    · rintro ⟨clientId, _ | ⟨_, member⟩, ours⟩
      exact ⟨clientId, member, ours⟩

/-- A join that fails. -/
theorem Attended.unlook {info : ClientInfo} {reconnect : Bool} {context : RoomRequestContext}
    (attended : Attended tokenOf room (.lookingUp info reconnect context token :: points)) :
    Attended tokenOf room points := by
  obtain ⟨seating, told⟩ := attended
  have placed := seating.placed _ List.mem_cons_self
  refine ⟨⟨seating.members, seating.distinct, (List.nodup_cons.mp seating.handlers).2, ?_,
    seating.timers⟩, ?_⟩
  · intro point member
    exact seating.placed point (List.mem_cons_of_mem _ member)
  · intro session
    refine (told session).of_same rfl rfl ?_ ?_
    · refine Iff.symm (settled_cons ?_)
      exact fun user member _ same => placed.1 (List.mem_map.mpr ⟨user, member, same.symm⟩)
    · rintro ⟨clientId, member, ours⟩
      exact ⟨clientId, List.mem_cons_of_mem _ member, ours⟩

theorem Attended.seat {info : ClientInfo} {reconnect : Bool} {context : RoomRequestContext}
    {user : RoomUser} {request : RoomRequest}
    (attended : Attended tokenOf room (.lookingUp info reconnect context token :: points))
    (named : user.id = info.id) (own : user.token = token) (asks : request.type = .join)
    (users : after.realusers = room.realusers ++ [user])
    (timers : after.pendingLeaveEvents = room.pendingLeaveEvents)
    (published : after.published = room.published) :
    Attended tokenOf after (.resuming user request context :: points) := by
  obtain ⟨seating, told⟩ := attended
  obtain ⟨absent, client, ours, present⟩ := seating.placed _ List.mem_cons_self
  have handlers := seating.handlers
  rw [List.map_cons, List.nodup_cons] at handlers
  refine ⟨⟨?_, ?_, ?_, ?_, ?_⟩, ?_⟩
  · rw [users]
    intro other member
    rcases List.mem_append.mp member with old | new
    · exact seating.members other old
    · rw [List.mem_singleton.mp new, own, named]
      exact ⟨ours, present⟩
  · rw [users, List.map_append, List.map_singleton, List.nodup_append]
    refine ⟨seating.distinct, List.pairwise_singleton _ _, ?_⟩
    rintro id inside _ (_ | ⟨_, ⟨⟩⟩) rfl
    exact absent (named ▸ inside)
  · rw [List.map_cons, List.nodup_cons]
    refine ⟨?_, handlers.2⟩
    change user.id ∉ _
    rw [named]
    exact handlers.1
  · rintro point (_ | ⟨_, member⟩)
    · refine ⟨?_, ?_, asks⟩
      · rw [users]
        exact List.mem_append_right _ (List.mem_singleton.mpr rfl)
      · rw [named]
        exact client
    · have placed := seating.placed point (List.mem_cons_of_mem _ member)
      cases point with
      | lookingUp other again asked name =>
          refine ⟨?_, placed.2⟩
          rw [users, List.map_append, List.mem_append]
          rintro (old | new)
          · exact placed.1 old
          · refine handlers.1 (List.mem_map.mpr ⟨_, member, ?_⟩)
            exact (List.mem_singleton.mp new).trans named
      | resuming other asked authorized =>
          refine ⟨?_, placed.2⟩
          rw [users]
          exact List.mem_append_left _ placed.1
      | departing clientId =>
          change clientId ∈ _
          rw [users, List.map_append]
          exact List.mem_append_left _ placed
  · rw [timers]
    exact seating.timers
  · intro session
    refine (told session).of_same ?_ ?_ ?_ ?_
    · unfold Room.announcements
      rw [published]
    · rw [timers]
    · unfold Settled
      rw [users]
      constructor
      · rintro ⟨other, member, same, idle⟩
        rcases List.mem_append.mp member with old | new
        · obtain ⟨_, rest⟩ := idle_cons.mp idle
          refine ⟨other, old, same, idle_cons.mpr ⟨?_, rest⟩⟩
          intro equal
          exact absent (List.mem_map.mpr ⟨other, old, equal.symm⟩)
        · rw [List.mem_singleton.mp new] at idle
          exact absurd rfl (idle_cons.mp idle).1
      · rintro ⟨other, member, same, idle⟩
        obtain ⟨_, rest⟩ := idle_cons.mp idle
        refine ⟨other, List.mem_append_left _ member, same, idle_cons.mpr ⟨?_, rest⟩⟩
        intro equal
        change user.id = other.id at equal
        exact absent (named ▸ equal ▸ List.mem_map_of_mem member)
    · rintro ⟨clientId, _ | ⟨_, member⟩, mine⟩
      exact ⟨clientId, List.mem_cons_of_mem _ member, mine⟩

/-- What is told of the session of a member who leaves: another member speaks for it, or a
timer. -/
theorem Attended.told_depart (attended : Attended tokenOf room points) {user : RoomUser}
    {context : RoomRequestContext} {info : RoomUserInfo} (member : user ∈ room.realusers)
    (idle : Idle points user.id) (named : context.clientId = some user.id)
    (company : room.sessionInRoom user.token (some user.id) = true →
      ∃ other ∈ room.realusers, other.token = user.token ∧ other.id ≠ user.id ∧
        Idle points other.id) :
    Told tokenOf (room.publishLeaveEvent context info user.token)
      (.departing user.id :: points) user.token := by
  obtain ⟨seating, told⟩ := attended
  obtain ⟨users, timers, published⟩ :=
    room.publishLeaveEvent_spec user.token context info (seating.members user member).2
  rw [named] at timers
  have settled : Settled room points user.token := ⟨user, member, rfl, idle⟩
  have joined := (told user.token).known.mpr (Or.inr settled)
  have announced : (room.publishLeaveEvent context info user.token).announcements
      tokenOf user.token = room.announcements tokenOf user.token := by
    unfold Room.announcements
    rw [published]
  cases accompanied : room.sessionInRoom user.token (some user.id) with
  | true =>
      obtain ⟨other, inside, same, different, rest⟩ := company accompanied
      have after : Settled (room.publishLeaveEvent context info user.token)
          (.departing user.id :: points) user.token :=
        (settled_users users).mpr
          ⟨other, inside, same, idle_cons.mpr ⟨fun equal => different equal.symm, rest⟩⟩
      have untimed : ¬ room.pendingLeaveEvents.has user.token = true :=
        fun timed => (told user.token).waiting timed settled
      rw [accompanied, if_pos rfl] at timers
      refine ⟨?_, fun _ => Or.inr after, ?_, ?_⟩
      · rw [announced]
        exact iff_of_true joined (Or.inr after)
      · rw [timers]
        exact fun timed => absurd timed untimed
      · rw [announced]
        exact (told user.token).alternate
  | false =>
      rw [accompanied, if_neg Bool.false_ne_true] at timers
      have timed : (room.publishLeaveEvent context info
          user.token).pendingLeaveEvents.has user.token = true := by
        rw [timers, has_set]
        simp
      refine ⟨?_, fun _ => Or.inl timed, fun _ => ?_, ?_⟩
      · rw [announced]
        exact iff_of_true joined (Or.inl timed)
      · rintro ⟨other, inside, same, rest⟩
        rw [users] at inside
        rw [← Bool.not_eq_true, sessionInRoom_iff] at accompanied
        exact accompanied ⟨other, inside, same, fun equal => (idle_cons.mp rest).1 equal.symm⟩
      · rw [announced]
        exact (told user.token).alternate

/-- A member who leaves does not leave a session that nobody speaks for. -/
theorem Attended.depart (attended : Attended tokenOf room points) {user : RoomUser}
    {context : RoomRequestContext} {info : RoomUserInfo} (member : user ∈ room.realusers)
    (idle : Idle points user.id) (named : context.clientId = some user.id)
    (known : info.id = user.id)
    (company : room.sessionInRoom user.token (some user.id) = true →
      ∃ other ∈ room.realusers, other.token = user.token ∧ other.id ≠ user.id ∧
        Idle points other.id) :
    Attended tokenOf (room.publishLeaveEvent context info user.token)
      (.departing user.id :: points) := by
  obtain ⟨seating, told⟩ := attended
  obtain ⟨ours, present⟩ := seating.members user member
  obtain ⟨users, timers, published⟩ :=
    room.publishLeaveEvent_spec user.token context info present
  rw [named] at timers
  refine ⟨seating.of_users users ?_ ?_ ?_, ?_⟩
  · refine List.nodup_cons.mpr ⟨?_, seating.handlers⟩
    intro inside
    obtain ⟨point, under, same⟩ := List.mem_map.mp inside
    exact idle point under same
  · rintro point (_ | ⟨_, inside⟩)
    · exact List.mem_map_of_mem member
    · exact seating.placed point inside
  · rw [timers]
    intro token pending waits
    split at waits
    · exact seating.timers token pending waits
    · rw [OrderedMap.get_set] at waits
      split at waits
      · rename_i same
        cases waits
        refine ⟨⟨user.id, named⟩, ?_⟩
        dsimp only
        rw [known, same]
        exact ours.symm
      · exact seating.timers token pending waits
  · intro token
    have announced : (room.publishLeaveEvent context info user.token).announcements
        tokenOf token = room.announcements tokenOf token := by
      unfold Room.announcements
      rw [published]
    by_cases mine : token = user.token
    · subst mine
      exact Attended.told_depart ⟨seating, told⟩ member idle named company
    · refine (told token).of_same announced ?_ ?_ ?_
      · rw [timers]
        split
        · rfl
        · rw [has_set, decide_eq_false mine, Bool.false_or]
      · refine (settled_users users).trans (settled_cons ?_)
        exact fun other inside same => seating.apart member mine inside same
      · rintro ⟨clientId, _ | ⟨_, inside⟩, same⟩
        · exact absurd (same.symm.trans ours.symm) mine
        · exact ⟨clientId, inside, same⟩

/-- A member who has left. -/
theorem Attended.leave {clientId : ClientId}
    (attended : Attended tokenOf room (.departing clientId :: points)) :
    Attended tokenOf (room.removeUser clientId) points := by
  obtain ⟨seating, told⟩ := attended
  have handlers := seating.handlers
  rw [List.map_cons, List.nodup_cons] at handlers
  have gone : clientId ∉ (room.removeUser clientId).realusers.map RoomUser.id := by
    have split : ((room.removeUser clientId).realusers.map RoomUser.id) =
        (room.realusers.map RoomUser.id).erase clientId := by
      unfold Room.removeUser
      dsimp only
      generalize room.realusers = users
      induction users with
      | nil => rfl
      | cons user rest ih =>
          by_cases same : user.id = clientId
          · simp [same]
          · simp [same, ih]
    rw [split]
    exact seating.distinct.not_mem_erase
  have fewer : (room.removeUser clientId).realusers.Sublist room.realusers := List.eraseP_sublist
  have stays : ∀ user ∈ room.realusers, user.id ≠ clientId →
      user ∈ (room.removeUser clientId).realusers := by
    intro user member different
    exact (List.mem_eraseP_of_neg (by simpa using different)).mpr member
  refine ⟨⟨fun user member => seating.members user (fewer.subset member),
    seating.distinct.sublist (fewer.map _), handlers.2, ?_, seating.timers⟩, ?_⟩
  · intro point member
    have placed := seating.placed point (List.mem_cons_of_mem _ member)
    have different : point.client ≠ clientId := by
      intro same
      exact handlers.1 (List.mem_map.mpr ⟨point, member, same⟩)
    cases point with
    | lookingUp info reconnect context token =>
        exact ⟨fun inside => placed.1 ((fewer.map _).subset inside), placed.2⟩
    | resuming user request context => exact ⟨stays user placed.1 different, placed.2⟩
    | departing other =>
        obtain ⟨user, inside, same⟩ := List.mem_map.mp placed
        exact List.mem_map.mpr ⟨user, stays user inside (same ▸ different), same⟩
  · intro token
    refine (told token).of_same rfl rfl ?_ ?_
    · constructor
      · rintro ⟨user, member, same, idle⟩
        refine ⟨user, fewer.subset member, same, idle_cons.mpr ⟨?_, idle⟩⟩
        intro equal
        exact gone (List.mem_map.mpr ⟨user, member, equal.symm⟩)
      · rintro ⟨user, member, same, idle⟩
        obtain ⟨different, rest⟩ := idle_cons.mp idle
        exact ⟨user, stays user member (Ne.symm different), same, rest⟩
    · rintro ⟨other, member, ours⟩
      exact ⟨other, List.mem_cons_of_mem _ member, ours⟩

/-- A leave timer that fires while no handler could go on at once. -/
theorem Attended.timer (attended : Attended tokenOf room points)
    (calm : ∀ point ∈ points, point.isImmediate = false) :
    Attended tokenOf (room.fireLeaveTimer token) points := by
  obtain ⟨seating, told⟩ := attended
  cases waits : room.pendingLeaveEvents.get token with
  | none =>
      have idle : room.fireLeaveTimer token = room := by
        unfold Room.fireLeaveTimer
        rw [waits]
      rw [idle]
      exact ⟨seating, told⟩
  | some pending =>
      obtain ⟨⟨clientId, named⟩, ours⟩ := seating.timers token pending waits
      have timed : room.pendingLeaveEvents.has token = true := by
        unfold OrderedMap.has
        rw [waits]
        rfl
      have settled : ∀ user ∈ room.realusers, Idle points user.id := by
        intro user member
        rcases seating.cases member with idle | ⟨request, context, under⟩ | under
        · exact idle
        · exact absurd (calm _ under) Bool.true_eq_false.mp
        · exact absurd (calm _ under) Bool.true_eq_false.mp
      have absent : room.sessionInRoom token none = false := by
        rw [← Bool.not_eq_true]
        intro there
        unfold Audience.sessionInRoom at there
        obtain ⟨user, member, same⟩ := List.any_eq_true.mp there
        rw [Bool.and_eq_true, decide_eq_true_eq] at same
        exact (told token).waiting timed ⟨user, member, same.1, settled user member⟩
      have fired := fun other => room.fireLeaveTimer_spec tokenOf token waits named other
      obtain ⟨users, timers, _⟩ := fired token
      refine ⟨seating.of_users users seating.handlers seating.placed ?_, ?_⟩
      · rw [timers]
        intro other leave left
        rw [OrderedMap.get_delete] at left
        split at left
        · cases left
        · exact seating.timers other leave left
      · intro other
        obtain ⟨_, _, announced⟩ := fired other
        have same : Settled (room.fireLeaveTimer token) points other ↔ Settled room points other :=
          settled_users users
        by_cases mine : other = token
        · subst mine
          rw [if_pos ⟨absent, ours⟩] at announced
          have unsettled := (told other).waiting timed
          have nobody : ¬ Departing tokenOf points other := by
            rintro ⟨leaving, under, _⟩
            exact absurd (calm _ under) Bool.true_eq_false.mp
          have unset : (room.fireLeaveTimer other).pendingLeaveEvents.has other = false := by
            rw [timers, has_delete]
            simp
          refine ⟨?_, fun leaving => absurd leaving nobody, ?_, ?_⟩
          · rw [announced, same, unset]
            refine iff_of_false ?_ ?_
            · rintro ⟨⟩
            · rintro (never | there)
              · exact Bool.false_ne_true never
              · exact unsettled there
          · rw [unset]
            exact fun never => absurd never Bool.false_ne_true
          · rw [announced, Announcement.alternate, (told other).alternate, Bool.and_true,
              decide_eq_true_eq]
            exact (Announcement.due_of_joined ((told other).known.mpr (Or.inl timed))).symm
        · rw [if_neg fun both => mine (both.2.symm.trans ours)] at announced
          refine (told other).of_same announced ?_ same id
          rw [timers, has_delete, decide_eq_true mine, Bool.true_and]

/-- What is told of the session of a seated member whose join ends. No other join of the session
is at the same point, unless a leave waits. -/
theorem Attended.told_announce {user : RoomUser} {request : RoomRequest}
    {context : RoomRequestContext}
    (attended : Attended tokenOf room (.resuming user request context :: points))
    (alone : room.pendingLeaveEvents.has user.token = true ∨
      ∀ other asked authorized, .resuming other asked authorized ∈ points →
        other.token ≠ user.token) :
    Told tokenOf (room.announceJoin request context user) points user.token := by
  obtain ⟨seating, told⟩ := attended
  obtain ⟨member, named, asks⟩ := seating.placed _ List.mem_cons_self
  have ours := (seating.members user member).1
  have handlers := seating.handlers
  rw [List.map_cons, List.nodup_cons] at handlers
  have free : Idle points user.id := fun point inside same =>
    handlers.1 (List.mem_map.mpr ⟨point, inside, same⟩)
  obtain ⟨users, timers, announced⟩ :=
    room.announceJoin_spec tokenOf user.token seating.distinct member named asks
  have settled : Settled (room.announceJoin request context user) points user.token :=
    (settled_users users).mpr ⟨user, member, rfl, free⟩
  have untimed :
      (room.announceJoin request context user).pendingLeaveEvents.has user.token = false := by
    rw [timers]
    split
    · rw [has_delete]
      simp
    · rename_i fresh
      unfold Room.sessionResumed at fresh
      rw [Bool.not_eq_true, Bool.or_eq_false_iff] at fresh
      exact fresh.1
  have finish : ∀ latest : ((room.announceJoin request context user).announcements tokenOf
        user.token).head? = some .joined,
      Announcement.alternate ((room.announceJoin request context user).announcements tokenOf
        user.token) = true →
      Told tokenOf (room.announceJoin request context user) points user.token := by
    intro latest alternate
    refine ⟨iff_of_true latest (Or.inr settled), fun _ => Or.inr settled, ?_, alternate⟩
    rw [untimed]
    exact fun never => absurd never Bool.false_ne_true
  cases resumed : room.sessionResumed user.token user.id with
  | true =>
      rw [resumed, if_neg fun both => Bool.true_eq_false.mp both.1] at announced
      -- Whoever made the session count as present has been announced.
      have known : room.pendingLeaveEvents.has user.token = true ∨
          Settled room (.resuming user request context :: points) user.token := by
        unfold Room.sessionResumed at resumed
        rw [Bool.or_eq_true, sessionInRoom_iff] at resumed
        rcases resumed with timed | ⟨other, inside, same, different⟩
        · exact Or.inl timed
        · rcases seating.cases inside with idle | ⟨asked, authorized, under⟩ | under
          · exact Or.inr ⟨other, inside, same, idle⟩
          · rcases List.mem_cons.mp under with equal | under
            · cases equal
              exact absurd rfl different
            · rcases alone with timed | alone
              · exact Or.inl timed
              · exact absurd same (alone other asked authorized under)
          · refine (told user.token).departing ⟨other.id, under, ?_⟩
            exact (seating.members other inside).1.symm.trans same
      refine finish ?_ ?_
      · rw [announced]
        exact (told user.token).known.mpr known
      · rw [announced]
        exact (told user.token).alternate
  | false =>
      rw [resumed, if_pos ⟨rfl, ours.symm⟩] at announced
      have unknown : (room.announcements tokenOf user.token).head? ≠ some .joined := by
        intro latest
        unfold Room.sessionResumed at resumed
        rw [Bool.or_eq_false_iff, ← Bool.not_eq_true, ← Bool.not_eq_true,
          sessionInRoom_iff] at resumed
        rcases (told user.token).known.mp latest with timed | ⟨other, inside, same, idle⟩
        · exact resumed.1 timed
        · exact resumed.2 ⟨other, inside, same, fun equal => (idle_cons.mp idle).1 equal.symm⟩
      refine finish ?_ ?_
      · rw [announced]
        rfl
      · rw [announced, Announcement.alternate, (told user.token).alternate, Bool.and_true,
          decide_eq_true_eq]
        exact (Announcement.due_of_absent unknown).symm

/-- A seated member whose join ends. -/
theorem Attended.announce {user : RoomUser} {request : RoomRequest} {context : RoomRequestContext}
    (attended : Attended tokenOf room (.resuming user request context :: points))
    (alone : room.pendingLeaveEvents.has user.token = true ∨
      ∀ other asked authorized, .resuming other asked authorized ∈ points →
        other.token ≠ user.token) :
    Attended tokenOf (room.announceJoin request context user) points := by
  have own := attended.told_announce alone
  obtain ⟨seating, told⟩ := attended
  obtain ⟨member, named, asks⟩ := seating.placed _ List.mem_cons_self
  have ours := (seating.members user member).1
  have spec := fun token => room.announceJoin_spec tokenOf token seating.distinct member named asks
  obtain ⟨users, timers, _⟩ := spec user.token
  refine ⟨seating.of_users users (List.nodup_cons.mp seating.handlers).2 ?_ ?_, ?_⟩
  · intro point inside
    exact seating.placed point (List.mem_cons_of_mem _ inside)
  · rw [timers]
    intro token pending waits
    split at waits
    · rw [OrderedMap.get_delete] at waits
      split at waits
      · cases waits
      · exact seating.timers token pending waits
    · exact seating.timers token pending waits
  · intro token
    by_cases mine : token = user.token
    · rw [mine]
      exact own
    · obtain ⟨_, _, announced⟩ := spec token
      rw [if_neg fun both => mine (both.2.symm.trans ours.symm)] at announced
      refine (told token).of_same announced ?_ ?_ ?_
      · rw [timers]
        split
        · rw [has_delete, decide_eq_true mine, Bool.true_and]
        · rfl
      · refine (settled_users users).trans (Iff.symm (settled_cons ?_))
        exact fun other inside same => seating.apart member mine inside same
      · rintro ⟨clientId, inside, same⟩
        exact ⟨clientId, List.mem_cons_of_mem _ inside, same⟩

end Pieces

/-- Of two joins that wait for `play` both are the same. -/
def Alone (points : List AttendancePoint) : Prop :=
  ∀ user request context other asked authorized, .resuming user request context ∈ points →
    .resuming other asked authorized ∈ points → user.id = other.id

namespace Attendance

variable {tokenOf : ClientId → AuthToken} {tasks : Attendance}

theorem idle_iff (clientId : ClientId) :
    tasks.idle clientId = true ↔ Idle tasks.ready clientId := by
  unfold idle Idle
  simp only [List.all_eq_true, decide_eq_true_eq]

theorem updateInfo_same {lookup : Nat → Option User} {info : ClientInfo} {user updated : RoomUser}
    (answered : user.updateInfo lookup info = some updated) :
    updated.id = user.id ∧ updated.token = user.token := by
  have named : (user.updateUserId info).id = user.id ∧
      (user.updateUserId info).token = user.token := by
    unfold RoomUser.updateUserId
    split
    · exact ⟨rfl, rfl⟩
    · split <;> exact ⟨rfl, rfl⟩
  unfold RoomUser.updateInfo at answered
  dsimp only at answered
  obtain ⟨looked, found, rfl⟩ := Option.map_eq_some_iff.mp answered
  have same : looked.id = user.id ∧ looked.token = user.token := by
    split at found
    · obtain ⟨account, _, rfl⟩ := Option.map_eq_some_iff.mp found
      exact named
    · cases found
      exact named
  split
  · exact same
  · exact same

/-- What begins keeps the room in order. -/
theorem call_attended (attended : Attended tokenOf tasks.shared tasks.ready)
    (alone : Alone tasks.ready) (call : AttendanceCall) (env : Env)
    (proper : tasks.proper tokenOf (.call call env) = true)
    (apart : tasks.apart (.call call env) = true) :
    Attended tokenOf (tasks.shared.attend call env).1
        (tasks.ready ++ (tasks.shared.attend call env).2.points) ∧
      Alone (tasks.ready ++ (tasks.shared.attend call env).2.points) := by
  have unchanged : Attended tokenOf tasks.shared (tasks.ready ++ []) ∧ Alone (tasks.ready ++ []) := by
    rw [List.append_nil]
    exact ⟨attended, alone⟩
  have joined : ∀ point : AttendancePoint, (∀ user request context, point ≠ .resuming user request context) →
      Alone (tasks.ready ++ [point]) := by
    intro point different user request context other asked authorized first second
    have old : ∀ {user request context},
        AttendancePoint.resuming user request context ∈ tasks.ready ++ [point] →
        AttendancePoint.resuming user request context ∈ tasks.ready := by
      intro user request context member
      rcases List.mem_append.mp member with inside | new
      · exact inside
      · exact absurd (List.mem_singleton.mp new).symm (different user request context)
    exact alone user request context other asked authorized (old first) (old second)
  cases call with
  | join info reconnect context =>
      unfold Room.attend
      dsimp only
      cases authorized : context.auth.map RoomRequestAuthorization.token with
      | none => exact unchanged
      | some token =>
          dsimp only
          by_cases named : token = ""
          · rw [if_pos named]
            exact unchanged
          · rw [if_neg named]
            simp only [Attendance.proper, authorized, Bool.and_eq_true, decide_eq_true_eq,
              Option.isNone_iff_eq_none, Option.some.injEq, idle_iff] at proper
            obtain ⟨⟨⟨idle, absent⟩, client⟩, ours⟩ := proper
            have held : Room.Undisturbed tasks.shared
                (tasks.shared.holdEmptyPlaybackForJoin reconnect env.now) := ⟨rfl, rfl, rfl⟩
            have away : info.id ∉ tasks.shared.realusers.map RoomUser.id := by
              intro member
              obtain ⟨user, inside, same⟩ := List.mem_map.mp member
              have missing := List.find?_eq_none.mp absent user inside
              exact missing (decide_eq_true same)
            have placed : (AttendancePoint.lookingUp info reconnect context token).Placed tokenOf
                (tasks.shared.holdEmptyPlaybackForJoin reconnect env.now) :=
              ⟨away, client, ours, named⟩
            have looks := (attended.undisturbed held).look idle placed
            refine ⟨looks.perm (List.perm_append_singleton _ _).symm, joined _ ?_⟩
            rintro user request authorization ⟨⟩
  | leave clientId =>
      unfold Room.attend
      dsimp only
      cases found : tasks.shared.getUser clientId with
      | none => exact unchanged
      | some user =>
          obtain ⟨member, rfl⟩ := tasks.shared.mem_of_getUser found
          simp only [Attendance.apart, found, Option.all_some, Bool.or_eq_true,
            Bool.not_eq_true'] at apart
          have idle := (idle_iff user.id).mp proper
          have ended := tasks.shared.endOwnGesture_undisturbed user.id env.now
          have company : (tasks.shared.endOwnGesture user.id env.now).sessionInRoom user.token
                (some user.id) = true →
              ∃ other ∈ (tasks.shared.endOwnGesture user.id env.now).realusers,
                other.token = user.token ∧ other.id ≠ user.id ∧ Idle tasks.ready other.id := by
            unfold Audience.sessionInRoom
            rw [ended.realusers]
            intro accompanied
            rcases apart with never | settled
            · exact absurd (never.symm.trans accompanied) Bool.false_ne_true
            · unfold Attendance.accompanied at settled
              obtain ⟨other, inside, same⟩ := List.any_eq_true.mp settled
              simp only [Bool.and_eq_true, decide_eq_true_eq, idle_iff] at same
              exact ⟨other, inside, same.1.1, same.1.2, same.2⟩
          have seated : user ∈ (tasks.shared.endOwnGesture user.id env.now).realusers := by
            rw [ended.realusers]
            exact member
          have leaves : Attended tokenOf
              ((tasks.shared.endOwnGesture user.id env.now).publishLeaveEvent
                (tasks.shared.leaveContext user) (tasks.shared.userInfo user) user.token)
              (.departing user.id :: tasks.ready) :=
            (attended.undisturbed ended).depart seated idle rfl rfl company
          refine ⟨leaves.perm (List.perm_append_singleton _ _).symm, joined _ ?_⟩
          rintro other request authorization ⟨⟩
  | leaveTimer token =>
      have calm : ∀ point ∈ tasks.ready, point.isImmediate = false := by
        intro point member
        have later := List.all_eq_true.mp proper point member
        rwa [Bool.not_eq_true'] at later
      refine ⟨?_, unchanged.2⟩
      change Attended tokenOf (tasks.shared.fireLeaveTimer token) (tasks.ready ++ [])
      rw [List.append_nil]
      exact attended.timer calm
  | playback update =>
      refine ⟨?_, unchanged.2⟩
      change Attended tokenOf (tasks.shared.onPlayback update) (tasks.ready ++ [])
      rw [List.append_nil]
      exact attended.undisturbed ⟨rfl, rfl, rfl⟩

/-- What goes on keeps the room in order. -/
theorem resume_attended {point : AttendancePoint} {others : List AttendancePoint} {room : Room}
    (attended : Attended tokenOf room (point :: others)) (alone : Alone (point :: others)) (env : Env)
    (apart : ∀ info reconnect context token, point = .lookingUp info reconnect context token →
      room.pendingLeaveEvents.has token = true ∨ ∀ user request context,
        .resuming user request context ∈ others → user.token ≠ token) :
    Attended tokenOf (room.attendOn point env).1 (others ++ (room.attendOn point env).2.points) ∧
      Alone (others ++ (room.attendOn point env).2.points) := by
  have fewer : Alone others := by
    intro user request context other asked authorized first second
    exact alone user request context other asked authorized (List.mem_cons_of_mem _ first)
      (List.mem_cons_of_mem _ second)
  cases point with
  | lookingUp info reconnect context token =>
      unfold Room.attendOn
      dsimp only
      cases answered : RoomUser.updateInfo env.getUserCachedById info
          ⟨info.id, token, none, "", none, .none⟩ with
      | none =>
          dsimp only [Rest.points]
          rw [List.append_nil]
          exact ⟨attended.unlook, fewer⟩
      | some user =>
          obtain ⟨named, own⟩ := updateInfo_same answered
          have seats : Attended tokenOf (room.takeSeat env reconnect context.role user)
              (.resuming user (.join info reconnect) context :: others) :=
            attended.seat named own rfl rfl rfl rfl
          dsimp only
          split
          · rename_i resumes
            refine ⟨seats.perm (List.perm_append_singleton _ _).symm, ?_⟩
            -- Nobody else is in the room, so nobody else is at this point.
            have empty : room.realusers = [] := by
              unfold Room.resumesAtOnce at resumes
              simp only [Bool.and_eq_true, decide_eq_true_eq, List.length_append,
                List.length_singleton] at resumes
              exact List.length_eq_zero_iff.mp (by omega)
            have nobody : ∀ other asked authorized, .resuming other asked authorized ∉ others := by
              intro other asked authorized under
              have placed := (attended.seating.placed _ (List.mem_cons_of_mem _ under)).1
              rw [empty] at placed
              cases placed
            intro first request asked second answer authorized one two
            have only : ∀ {other asked authorized}, .resuming other asked authorized ∈
                others ++ [AttendancePoint.resuming user (.join info reconnect) context] →
                other = user := by
              intro other asked authorized member
              rcases List.mem_append.mp member with old | new
              · exact absurd old (nobody other asked authorized)
              · cases List.mem_singleton.mp new
                rfl
            rw [only one, only two]
          · dsimp only [Rest.points]
            rw [List.append_nil]
            refine ⟨seats.announce ?_, fewer⟩
            have own' : user.token = token := own
            rw [own']
            exact apart info reconnect context token rfl
  | resuming user request context =>
      unfold Room.attendOn
      dsimp only [Rest.points]
      rw [List.append_nil]
      refine ⟨attended.announce (Or.inr ?_), fewer⟩
      intro other asked authorized under _
      have same := alone user request context other asked authorized List.mem_cons_self
        (List.mem_cons_of_mem _ under)
      have handlers := attended.seating.handlers
      rw [List.map_cons, List.nodup_cons] at handlers
      exact handlers.1 (List.mem_map.mpr ⟨_, under, same.symm⟩)
  | departing clientId =>
      unfold Room.attendOn
      dsimp only [Rest.points]
      rw [List.append_nil]
      exact ⟨attended.leave.undisturbed (Room.finishLeave_undisturbed env room clientId), fewer⟩

/-- A room that begins empty is in order. -/
theorem attended_empty {room : Room} (nobody : room.realusers = [])
    (untimed : room.pendingLeaveEvents = []) (silent : room.published = []) :
    Attended tokenOf room [] := by
  have unannounced : ∀ token, room.announcements tokenOf token = [] := by
    intro token
    unfold Room.announcements
    rw [silent]
    rfl
  have unsettled : ∀ token, ¬ Settled room [] token := by
    rintro token ⟨user, member, _⟩
    rw [nobody] at member
    cases member
  refine ⟨⟨?_, ?_, List.nodup_nil, ?_, ?_⟩, fun token => ⟨?_, ?_, ?_, ?_⟩⟩
  · intro user member
    rw [nobody] at member
    cases member
  · rw [nobody]
    exact List.nodup_nil
  · intro point member
    cases member
  · intro token pending waits
    rw [untimed] at waits
    cases waits
  · rw [unannounced, untimed]
    refine iff_of_false (by rintro ⟨⟩) ?_
    rintro (never | there)
    · cases never
    · exact unsettled token there
  · rintro ⟨clientId, under, _⟩
    cases under
  · exact fun _ => unsettled token
  · rw [unannounced]
    rfl

/-- The order is kept as long as nobody decides on the word of a member who is not settled. -/
theorem attended_inductive (tokenOf : ClientId → AuthToken) :
    ((attendanceSystem tokenOf).restrict fun tasks label => tasks.apart label = true).Inductive
      fun tasks => Attended tokenOf tasks.shared tasks.ready ∧ Alone tasks.ready := by
  constructor
  · rintro _ ⟨room, ⟨nobody, untimed, silent⟩, rfl⟩
    refine ⟨attended_empty nobody untimed silent, ?_⟩
    intro user request context other asked authorized first
    cases first
  · rintro before label after ⟨attended, alone⟩ ⟨apart, proper, possible, rfl⟩
    rcases attendanceProgram.next_cases possible with
      ⟨call, env, rfl, next⟩ | ⟨earlier, point, later, env, rfl, split, next⟩ |
      ⟨guarded, _⟩
    · rw [next, Tasks.park_shared, Tasks.park_ready]
      exact call_attended attended alone call env proper apart
    · rw [next, Tasks.park_shared, Tasks.park_ready]
      have order : before.ready.Perm (point :: (earlier ++ later)) := by
        rw [split]
        exact List.perm_middle
      have onePoint : Alone (point :: (earlier ++ later)) := by
        intro user request context other asked authorized first second
        exact alone user request context other asked authorized (order.mem_iff.mpr first)
          (order.mem_iff.mpr second)
      refine resume_attended (attended.perm order) onePoint env ?_
      rintro info reconnect context token rfl
      have found : before.ready[earlier.length]? = some (.lookingUp info reconnect context token) := by
        rw [split, List.getElem?_append_right (Nat.le_refl _), Nat.sub_self]
        rfl
      simp only [Attendance.apart, found, Option.all_some, Bool.or_eq_true] at apart
      rcases apart with timed | others
      · exact Or.inl timed
      · refine Or.inr fun user request authorization under => ?_
        have member : .resuming user request authorization ∈ before.ready :=
          order.mem_iff.mpr (List.mem_cons_of_mem _ under)
        exact of_decide_eq_true (List.all_eq_true.mp others _ member)
    · exact guarded.elim

section Sample

/-- Two tabs of one session. -/
def oneSession : ClientId → AuthToken := fun _ => "session"

/-- A tab joins, as far as its first await. -/
def tabJoins (id : ClientId) : TaskLabel AttendanceCall Env :=
  .call (.join { id, username := some id } false
    { role := .unregisteredUser, clientId := some id, auth := some { token := "session" } })
    { now := 0, uuid := id }

/-- The handler at the index goes on. -/
def tabGoesOn (index : Nat) : TaskLabel AttendanceCall Env := .resume index { now := 0, uuid := "round" }

/-- A tab's connection is gone. -/
def tabLeaves (id : ClientId) : TaskLabel AttendanceCall Env :=
  .call (.leave id) { now := 0, uuid := "round" }

/-- A room with nobody in it. -/
def lobby : Attendance := { shared := { name := "lobby", isTemporary := true } }

/-- A tab comes and goes, and its leave is announced. -/
def oneTab : List (TaskLabel AttendanceCall Env) :=
  [tabJoins "first", tabGoesOn 0, tabLeaves "first", tabGoesOn 0,
    .call (.leaveTimer "session") { now := 5000, uuid := "round" }]

/-- Two tabs come; then both connections end at once, and each leave sees the other tab. -/
def lockstep : List (TaskLabel AttendanceCall Env) :=
  [tabJoins "first", tabGoesOn 0, tabJoins "second", tabGoesOn 0, tabLeaves "first",
    tabLeaves "second", tabGoesOn 0, tabGoesOn 0]

end Sample

/-- In every run in which an unannounced leave leaves a settled member of the session behind, and
an unannounced join follows one that has been announced, the announcements of each session
alternate; when nobody of the session is in the room and no leave waits, the last one is a
leave. -/
theorem announcements_alternate {tokenOf : ClientId → AuthToken} {tasks : Attendance}
    (reachable : ((attendanceSystem tokenOf).restrict fun tasks label =>
      tasks.apart label = true).Reachable tasks) (token : AuthToken) :
    Announcement.alternate (tasks.shared.announcements tokenOf token) = true ∧
      ((∀ user ∈ tasks.shared.realusers, user.token ≠ token) →
        tasks.shared.pendingLeaveEvents.has token = false →
        ∀ last ∈ (tasks.shared.announcements tokenOf token).head?, last = .left) := by
  obtain ⟨attended, _⟩ := (attended_inductive tokenOf).of_reachable reachable
  have told := attended.told token
  refine ⟨told.alternate, ?_⟩
  intro nobody untimed last latest
  cases last with
  | left => rfl
  | joined =>
      rcases told.known.mp latest with timed | ⟨user, member, same, _⟩
      · exact absurd (untimed.symm.trans timed) Bool.false_ne_true
      · exact absurd same (nobody user member)

/-- A tab that comes and goes. -/
theorem announcements_alternate_one_tab :
    ((attendanceSystem oneSession).restrict fun tasks label => tasks.apart label = true).Reachable
        (TransitionSystem.run attendanceProgram.next oneTab lobby) ∧
      (TransitionSystem.run attendanceProgram.next oneTab lobby).shared.announcements oneSession
        "session" = [.left, .joined] ∧
      Announcement.alternate ((TransitionSystem.run attendanceProgram.next oneTab
        lobby).shared.announcements oneSession "session") = true := by
  have reachable : ((attendanceSystem oneSession).restrict fun tasks label =>
      tasks.apart label = true).Reachable
        (TransitionSystem.run attendanceProgram.next oneTab lobby) := by
    have step : ∀ (tasks : Attendance) label, Program.Enabled tasks label ∧
        (tasks.proper oneSession label && tasks.apart label) = true →
        ((attendanceSystem oneSession).restrict fun tasks label => tasks.apart label = true).Step
          tasks label (attendanceProgram.next label tasks) := by
      rintro tasks label ⟨possible, met⟩
      rw [Bool.and_eq_true] at met
      exact ⟨met.2, met.1, possible, rfl⟩
    refine ⟨lobby, ⟨_, ⟨rfl, rfl, rfl⟩, rfl⟩, ?_⟩
    refine TransitionSystem.steps_run step oneTab lobby ?_
    decide +kernel
  exact ⟨reachable, by decide +kernel, (announcements_alternate reachable "session").1⟩

/-- Two tabs whose connections end at once: each leave sees the other tab, and none is ever
announced. -/
theorem lockstep_unannounced :
    (attendanceSystem oneSession).Reachable
        (TransitionSystem.run attendanceProgram.next lockstep lobby) ∧
      (TransitionSystem.run attendanceProgram.next lockstep lobby).shared.realusers = [] ∧
      (TransitionSystem.run attendanceProgram.next lockstep lobby).shared.pendingLeaveEvents = [] ∧
      (TransitionSystem.run attendanceProgram.next lockstep lobby).ready = [] ∧
      (TransitionSystem.run attendanceProgram.next lockstep lobby).shared.announcements oneSession
        "session" = [.joined] := by
  refine ⟨?_, by decide +kernel, by decide +kernel, by decide +kernel, by decide +kernel⟩
  have step : ∀ (tasks : Attendance) label, Program.Enabled tasks label ∧ tasks.proper oneSession label = true →
      (attendanceSystem oneSession).Step tasks label (attendanceProgram.next label tasks) := by
    rintro tasks label ⟨possible, met⟩
    exact ⟨met, possible, rfl⟩
  refine ⟨lobby, ⟨_, ⟨rfl, rfl, rfl⟩, rfl⟩, ?_⟩
  refine TransitionSystem.steps_run step lockstep lobby ?_
  decide +kernel

end Attendance

end OpenTogetherTube
