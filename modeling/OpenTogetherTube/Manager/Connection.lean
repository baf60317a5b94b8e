import OpenTogetherTube.Lib.Tasks
import OpenTogetherTube.Manager.Access
import OpenTogetherTube.Room.System

/-!
# One connection

Embeds what a client of `server/client.ts` does to a room through the handlers of
`server/clientmanager.ts`: `auth`, `joinAuthenticatedClient`, `onClientMessage` with
`makeRoomRequest` and `setVoicePresence`, `onClientReauth` and `onClientDisconnect`, cut at their
awaits. Rooms and voice sets are objects with numbers, so that a handler that holds on to one
across an await goes on with that object. What is sent back to the client is left out, and a
request runs in the room in one piece.
-/

namespace OpenTogetherTube

open Lib

/-- `OttWebsocketError`, as far as a client of a room is closed with it. -/
inductive OttWebsocketError where
  | away
  | unknown
  | roomNotFound
  | roomUnloaded
  | missingToken
  | kicked
  | roomPasswordRequired
deriving DecidableEq

inductive ClientJoinStatus where
  | waitingForAuth
  | joined
deriving DecidableEq

structure Client where
  id : ClientId
  room : String
  /-- A `DirectClient`, and not a `BalancerClient`. -/
  direct : Bool := true
  token : Option AuthToken := none
  session : Option SessionInfo := none
  joinStatus : ClientJoinStatus := .waitingForAuth
  isReconnect : Bool := false
deriving DecidableEq

def Client.getClientInfo (client : Client) : ClientInfo :=
  match client.session with
  | none => { id := client.id }
  | some (.account userId) => { id := client.id, userId := some userId }
  | some (.guest username) => { id := client.id, username := some username }

/-- `ClientMessage` without `auth` and `reauthenticate`. A request is `none` when it is none of
the known ones. -/
inductive ClientMessage where
  | ping
  | kickme (reason : Option OttWebsocketError)
  | status (status : PlayerStatus) (playbackPrepared : Option PlaybackPrepared)
  | diagnostics
  | req (request : Option RoomRequest)
  | voice (joined : Bool)
  | signal (recipient : ClientId)
  | notify
deriving DecidableEq

def CLIENT_ROOM_REQUEST_TYPES : List RoomRequestType :=
  [.playback, .skip, .seek, .add, .remove, .order, .vote, .promote, .chat, .undo, .applySettings,
    .playNow, .shuffle, .playbackSpeed, .restoreQueue, .kick, .updateQueueItem,
    .temporaryPlaybackSpeed, .addNote, .deleteNote]

/-- `voiceParticipants` and `roomRelayChannels`, with the sets as objects. -/
structure VoiceState where
  sets : List (OrderedSet ClientId) := []
  participants : OrderedMap String Nat := []
  relays : OrderedMap String String := []
deriving DecidableEq

namespace VoiceState

/-- The members of a set. -/
def members (object : Nat) (voice : VoiceState) : OrderedSet ClientId :=
  (voice.sets[object]?).getD []

/-- Write a set. -/
def write (object : Nat) (members : OrderedSet ClientId) (voice : VoiceState) : VoiceState :=
  { voice with sets := voice.sets.set object members }

/-- The set of a room, made if there is none. -/
def enter (roomName : String) (voice : VoiceState) : Nat × VoiceState :=
  match voice.participants.get roomName with
  | some object => (object, voice)
  | none => (voice.sets.length, { voice with
      sets := voice.sets ++ [[]]
      participants := voice.participants.set roomName voice.sets.length })

/-- `voiceParticipants.delete(roomName)` and `roomRelayChannels.delete(roomName)`, for a set that
has become empty. -/
def closeEmpty (object : Nat) (roomName : String) (voice : VoiceState) : VoiceState :=
  if (voice.members object).isEmpty then
    { voice with
      participants := voice.participants.delete roomName
      relays := voice.relays.delete roomName }
  else voice

end VoiceState

/-- One client and what its handlers reach. -/
structure Connection where
  client : Client
  /-- `connections` has the client. -/
  connected : Bool := true
  /-- `pendingRoomJoins` has the client. -/
  joining : Bool := false
  /-- The objects of the client's room: it is another one each time the room is loaded. -/
  objects : List Room := []
  voice : VoiceState := {}
  /-- History: the codes the client was kicked with, latest first. -/
  kicks : List OttWebsocketError := []
  /-- History: what `hasRoomAccess` resolved to for this client and its room. -/
  access : Option Bool := none
deriving DecidableEq

/-- Who asked for a request: a message, or the join. -/
inductive Asker where
  | message
  | join
deriving DecidableEq

/-- A request on its way through `makeRoomRequest`. -/
structure Asked where
  request : RoomRequest
  asker : Asker
deriving DecidableEq

/-- The events of a connection, and what others do to the room. -/
inductive ConnectionCall where
  | auth (token : AuthToken)
  | reauthenticate (token : AuthToken)
  | message (message : ClientMessage)
  | kick (code : OttWebsocketError)
  | disconnect
  | outside

/-- The awaits of the handlers. -/
inductive ConnectionPoint where
  /-- `auth`, at `getSessionInfo`. -/
  | authenticating (token : AuthToken)
  /-- `joinAuthenticatedClient`, at `getRoom`. -/
  | joining (token : AuthToken) (session : SessionInfo)
  /-- `joinAuthenticatedClient`, at `hasRoomAccess`, which goes to resolve to this. -/
  | checking (room : Nat) (verdict : Bool)
  /-- `joinAuthenticatedClient`, at what follows the request. -/
  | greeting
  /-- `makeRoomRequest`, at `getRoom`. -/
  | finding (asked : Asked)
  /-- `deriveRequestContext`, at `getSessionInfo`. -/
  | identifying (asked : Asked) (room : Nat) (auth : RoomRequestAuthorization)
  /-- `deriveRequestContext`, at `getUser`. -/
  | naming (asked : Asked) (room : Nat) (auth : RoomRequestAuthorization) (userId : Nat)
  /-- `processUnauthorizedRequest`, at `deriveRequestContext`. -/
  | processing (asked : Asked) (room : Nat) (context : RoomRequestContext)
  /-- `setVoicePresence`, at `decideVoiceJoin`. -/
  | deciding (participants : Nat)
  /-- `setVoicePresence`, at `getRoomRelayChannel`. -/
  | selecting (roomName : String)
  /-- `onUserModified`, at `getSessionInfo`. -/
  | renewing
  /-- `reauthenticate`, at `getSessionInfo`. -/
  | reauthenticating (token : AuthToken)
  /-- `onClientReauth`, at `getRoom`. -/
  | reseating (token : AuthToken)
  /-- `removeFromVoice`, at `getRoomRelayChannel`. -/
  | unselecting (roomName : String)
  /-- `onClientDisconnect`, at the pending join. -/
  | awaitingJoin
  /-- `onClientDisconnect`, at `getRoom`. -/
  | leaving
deriving DecidableEq

/-- What a piece asks of outside. -/
structure ConnectionAnswer where
  env : Env := { now := 0 }
  /-- The awaited call rejects. -/
  rejects : Bool := false
  /-- `getSessionInfo`; `none` when it throws. -/
  session : Option SessionInfo := none
  /-- `getRoom`: one of the objects of the room, or none. -/
  getRoom : Option Nat := none
  /-- What `hasRoomAccess` asks Redis. -/
  store : AccessStore := ⟨id, fun _ => false⟩
  /-- The username of `usermanager.getUser`; `none` when it throws. -/
  username : Option String := none
  /-- `consumeMessageBudget` is used up. -/
  overBudget : Bool := false
  /-- `RoomSettingsSchema` accepts the settings of the request. -/
  settingsValid : Bool := true
  /-- `isVoiceEnabled`. -/
  voiceEnabled : Bool := true
  /-- `decideVoiceJoin`. -/
  allowed : Bool := true
  /-- `selectRelayChannel`. -/
  relay : Option String := none
  /-- What others make of the room's objects and of the voice state. -/
  objects : List Room := []
  voice : VoiceState := {}

namespace Connection

/-- Where a piece goes on from. -/
abbrev Result := Connection × Rest ConnectionPoint Empty

def kick (code : OttWebsocketError) (connection : Connection) : Connection :=
  { connection with kicks := code :: connection.kicks }

/-- `auth` up to its await. -/
def auth (token : AuthToken) (connection : Connection) : Result :=
  if token = "" ∨ utf16Length token > 1024 ∨ connection.client.token ≠ none then
    (connection.kick .missingToken, .done)
  else
    ({ connection with client := { connection.client with token := some token } },
      .point (.authenticating token))

/-- The rest of `auth`, with `onClientAuth` up to the first await of the join. -/
def acceptSession (token : AuthToken) (session : Option SessionInfo) (connection : Connection) :
    Result :=
  match session with
  | none => (connection.kick .missingToken, .done)
  | some session =>
      ({ connection with
          client := { connection.client with session := some session, joinStatus := .joined }
          joining := true },
        .point (.joining token session))

/-- `onClientAuth` when the join throws. -/
def failJoin (connection : Connection) : Result :=
  let connection := if connection.connected then connection.kick .unknown else connection
  ({ connection with joining := false }, .done)

/-- `joinAuthenticatedClient` once it has the room. -/
def checkAccess (token : AuthToken) (session : SessionInfo) (answer : ConnectionAnswer)
    (connection : Connection) : Result :=
  if !connection.connected then ({ connection with joining := false }, .done)
  else
    match answer.getRoom.bind fun object => connection.objects[object]? with
    | none => ({ connection.kick .roomNotFound with joining := false }, .done)
    | some room =>
        (connection, .point (.checking (answer.getRoom.getD 0)
          (room.hasRoomAccess answer.store (some token) (some session))))

/-- `makeRoomRequest` is over; a join goes on if its client is still there. -/
def settle (asked : Asked) (connection : Connection) : Result :=
  match asked.asker with
  | .message => (connection, .done)
  | .join =>
      if connection.connected then (connection, .point .greeting)
      else ({ connection with joining := false }, .done)

/-- `makeRoomRequest` up to its first await. -/
def makeRoomRequest (asked : Asked) (connection : Connection) : Result :=
  if connection.client.token.isSome then (connection, .point (.finding asked))
  else
    match asked.asker with
    | .message => (connection.kick .missingToken, .done)
    | .join => connection.settle asked

/-- Change a room's object in place. -/
def onRoom (object : Nat) (update : Room → Room) (connection : Connection) : Connection :=
  { connection with objects := connection.objects.modify object update }

/-- `joinAuthenticatedClient` with the verdict. -/
def join (object : Nat) (verdict : Bool) (now : Int) (connection : Connection) : Result :=
  let connection := { connection with access := some verdict }
  if !verdict then ({ connection.kick .roomPasswordRequired with joining := false }, .done)
  else
    let client := { connection.client with
      room := (connection.objects[object]?.map Room.name).getD connection.client.room }
    let connection := { connection with client }.onRoom object fun room =>
      room.holdEmptyPlaybackForJoin client.isReconnect now
    connection.makeRoomRequest ⟨.join client.getClientInfo client.isReconnect, .join⟩

/-- `makeRoomRequest` once it has the room, with `deriveRequestContext` up to its first await. -/
def derive (asked : Asked) (getRoom : Option Nat) (connection : Connection) : Result :=
  let client := connection.client
  match getRoom, getRoom.bind fun object => connection.objects[object]? with
  | some object, some room =>
      let auth : RoomRequestAuthorization := ⟨client.token.getD "", some client.id⟩
      match room.getUser client.id with
      | some user =>
          (connection, .point (.processing asked object
            ⟨user.username, room.getRole user, some client.id, some auth⟩))
      | none => (connection, .point (.identifying asked object auth))
  | _, _ => connection.settle asked

/-- The context of a session. -/
def deriveFromSession (asked : Asked) (object : Nat) (auth : RoomRequestAuthorization)
    (username : String) (userId : Option Nat) (connection : Connection) : Result :=
  match connection.objects[object]? with
  | some room =>
      (connection, .point (.processing asked object
        ⟨username, room.getRoleFromSession userId, auth.clientId, some auth⟩))
  | none => connection.settle asked

/-- `processRequest`, and what follows it. -/
def process (env : Env) (asked : Asked) (object : Nat) (context : RoomRequestContext)
    (connection : Connection) : Result :=
  (connection.onRoom object (Room.processRequest env asked.request context).after).settle asked

/-- `setVoicePresence` once the set is written, or `removeFromVoice`. -/
def settleVoice (object : Nat) (select : String → ConnectionPoint) (rest : Rest ConnectionPoint Empty)
    (connection : Connection) : Result :=
  let room := connection.client.room
  let voice := connection.voice.closeEmpty object room
  ({ connection with voice },
    if !(voice.members object).isEmpty && !voice.relays.has room then .point (select room) else rest)

/-- `setVoicePresence` up to its first await. -/
def setVoicePresence (joined : Bool) (enabled : Bool) (connection : Connection) : Result :=
  if !enabled || decide (connection.client.joinStatus ≠ .joined) then (connection, .done)
  else
    let (object, voice) := connection.voice.enter connection.client.room
    if joined && decide (connection.client.id ∉ voice.members object) then
      ({ connection with voice }, .point (.deciding object))
    else
      let voice := if joined then voice
        else voice.write object (OrderedSet.remove (voice.members object) connection.client.id)
      { connection with voice }.settleVoice object .selecting .done

/-- `setVoicePresence` with the verdict on a join. -/
def decideVoice (object : Nat) (allowed : Bool) (connection : Connection) : Result :=
  let voice := connection.voice
  if !allowed then
    ({ connection with voice := voice.closeEmpty object connection.client.room }, .done)
  else
    { connection with
      voice := voice.write object (OrderedSet.add (voice.members object) connection.client.id)
      }.settleVoice object .selecting .done

/-- `getRoomRelayChannel` once the channel is selected. -/
def selectRelay (roomName : String) (relay : Option String) (connection : Connection) : Connection :=
  match relay with
  | some channel =>
      { connection with
        voice := { connection.voice with relays := connection.voice.relays.set roomName channel } }
  | none => connection

/-- The checks that a request of a message passes before it goes to the room. -/
def acceptsRequest (request : RoomRequest) (settingsValid : Bool) : Bool :=
  match request with
  | .applySettings _ => settingsValid
  | .chat text => decide (utf16Length text ≠ 0 ∧ utf16Length text ≤ MAX_CHAT_MESSAGE_LENGTH)
  | _ => true

/-- `onClientMessage` up to its first await. -/
def onClientMessage (message : ClientMessage) (answer : ConnectionAnswer) (connection : Connection) :
    Result :=
  let id := connection.client.id
  if answer.overBudget then (connection, .done)
  else
    match message with
    | .ping => (connection, .done)
    | .kickme reason => (connection.kick (reason.getD .unknown), .done)
    | .status status prepared =>
        connection.makeRoomRequest ⟨.updateUser { id, status := some status } prepared, .message⟩
    | .diagnostics => connection.makeRoomRequest ⟨.updateUser { id } none, .message⟩
    | .req none => (connection.kick .unknown, .done)
    | .req (some request) =>
        if request.type ∉ CLIENT_ROOM_REQUEST_TYPES then (connection.kick .unknown, .done)
        else if !acceptsRequest request answer.settingsValid then (connection, .done)
        else connection.makeRoomRequest ⟨request, .message⟩
    | .voice joined => connection.setVoicePresence joined answer.voiceEnabled
    | .signal _ => (connection, .done)
    | .notify => (connection, .point .renewing)

/-- The client's messages go to `onClientMessage`; a direct one is closed if it has not joined. -/
def listens (connection : Connection) : Bool :=
  !connection.client.direct || decide (connection.client.joinStatus = .joined)

/-- `onData`, or `receiveMessage`. -/
def onData (message : ClientMessage) (answer : ConnectionAnswer) (connection : Connection) : Result :=
  if connection.listens then connection.onClientMessage message answer
  else (connection.kick .missingToken, .done)

/-- `onUserModified` for this client, once it has the session. -/
def renewUser (session : Option SessionInfo) (connection : Connection) : Result :=
  match session with
  | none => (connection, .done)
  | some session =>
      let client := { connection.client with session := some session }
      { connection with client }.makeRoomRequest ⟨.updateUser client.getClientInfo none, .message⟩

/-- `reauthenticate` up to its await. -/
def reauthenticate (token : AuthToken) (connection : Connection) : Result :=
  if !connection.client.direct || decide (token = "" ∨ utf16Length token > 1024) then
    (connection, .done)
  else (connection, .point (.reauthenticating token))

/-- The rest of `reauthenticate`. -/
def acceptReauth (token : AuthToken) (session : Option SessionInfo) (connection : Connection) :
    Result :=
  match session with
  | none => (connection, .done)
  | some session =>
      ({ connection with
          client := { connection.client with token := some token, session := some session } },
        .point (.reseating token))

/-- `onClientReauth` once it has the room. -/
def reseat (token : AuthToken) (answer : ConnectionAnswer) (connection : Connection) : Connection :=
  match answer.getRoom with
  | some object => connection.onRoom object
      (Room.reauthenticate connection.client.id token connection.client.getClientInfo answer.env)
  | none => connection

/-- `onClientDisconnect` up to its first await. -/
def onClientDisconnect (connection : Connection) : Result :=
  let connection := { connection with connected := false }
  match connection.voice.participants.get connection.client.room with
  | some object =>
      let members := connection.voice.members object
      if connection.client.id ∈ members then
        { connection with
          voice := connection.voice.write object (OrderedSet.remove members connection.client.id)
          }.settleVoice object .unselecting (.point .awaitingJoin)
      else (connection, .point .awaitingJoin)
  | none => (connection, .point .awaitingJoin)

/-- `onClientDisconnect` while the join is pending, and after it. -/
def awaitJoin (connection : Connection) : Result :=
  if connection.joining then (connection, .point .awaitingJoin)
  else if connection.client.joinStatus ≠ .joined then (connection, .done)
  else (connection, .point .leaving)

/-- The leave of `onClientDisconnect`, once it has the room. -/
def leave (answer : ConnectionAnswer) (connection : Connection) : Connection :=
  match answer.getRoom with
  | some object => connection.onRoom object fun room =>
      match room.getUserInfo connection.client.id with
      | some info => (Room.processRequest answer.env .leave
          ⟨info.name, info.role, some connection.client.id, none⟩).after room
      | none => room
  | none => connection

/-- The first piece of each event. -/
def call (asked : ConnectionCall) (answer : ConnectionAnswer) (connection : Connection) : Result :=
  match asked with
  | .auth token => connection.auth token
  | .reauthenticate token => connection.reauthenticate token
  | .message message => connection.onData message answer
  | .kick code => (connection.kick code, .done)
  | .disconnect => connection.onClientDisconnect
  | .outside => ({ connection with objects := answer.objects, voice := answer.voice }, .done)

/-- What a handler does from an await on. -/
def resume (point : ConnectionPoint) (answer : ConnectionAnswer) (connection : Connection) : Result :=
  match point with
  | .authenticating token => connection.acceptSession token answer.session
  | .joining token session =>
      if answer.rejects then connection.failJoin else connection.checkAccess token session answer
  | .checking object verdict =>
      if answer.rejects then connection.failJoin else connection.join object verdict answer.env.now
  | .greeting =>
      if answer.rejects then connection.failJoin else ({ connection with joining := false }, .done)
  | .finding asked =>
      if answer.rejects then connection.settle asked else connection.derive asked answer.getRoom
  | .identifying asked object auth =>
      match answer.session with
      | none => connection.settle asked
      | some (.guest username) => connection.deriveFromSession asked object auth username none
      | some (.account userId) => (connection, .point (.naming asked object auth userId))
  | .naming asked object auth userId =>
      match answer.username with
      | none => connection.settle asked
      | some username => connection.deriveFromSession asked object auth username (some userId)
  | .processing asked object context => connection.process answer.env asked object context
  | .deciding object => connection.decideVoice object answer.allowed
  | .selecting roomName => (connection.selectRelay roomName answer.relay, .done)
  | .renewing => connection.renewUser answer.session
  | .reauthenticating token => connection.acceptReauth token answer.session
  | .reseating token => (connection.reseat token answer, .done)
  | .unselecting roomName => (connection.selectRelay roomName answer.relay, .point .awaitingJoin)
  | .awaitingJoin => connection.awaitJoin
  | .leaving => (connection.leave answer, .done)

/-- The handlers of one connection as tasks. -/
def program : Program Connection ConnectionCall ConnectionAnswer ConnectionPoint Empty where
  call := call
  resume := resume
  serve guarded _ _ := guarded.elim

/-- A connection that has just been made, to a room and a voice state as they are. -/
structure Fresh (connection : Connection) : Prop where
  connected : connection.connected = true
  joining : connection.joining = false
  token : connection.client.token = none
  session : connection.client.session = none
  joinStatus : connection.client.joinStatus = .waitingForAuth
  access : connection.access = none

/-- Every interleaving of a connection's events and awaits with what others do. -/
def system : TransitionSystem (Tasks Connection ConnectionPoint Empty)
    (TaskLabel ConnectionCall ConnectionAnswer) :=
  program.system Fresh

end Connection

end OpenTogetherTube
