import OpenTogetherTube.Lib.LiveLoop
import OpenTogetherTube.Lib.Table
import OpenTogetherTube.Manager.Connection

/-!
# Who is in voice

`voiceParticipants` of `server/clientmanager.ts` maps a room to a set object. A handler keeps
the object over its awaits, while other handlers drop it from the map or replace it, so sets
have an identity here. Rooms go by the name that `client.room` has.

The kick of a client behind a balancer runs `onClientDisconnect` at once, which takes the client out of
the array that the loop of `onRoomUnload` runs over, so that loop reads the array anew in each round.
-/

namespace OpenTogetherTube

open Lib

inductive VoiceDeniedReason where
  | disabled
  | roomFull
  | tooManyRooms
  | budget
deriving DecidableEq

/-- What of the configuration decides about voice; `0` turns a limit off. -/
structure VoiceConfig where
  enabled : Bool := true
  maxParticipantsPerRoom : Nat := 6
  maxConcurrentRooms : Nat := 0
  /-- `hasRelayConfigured`. -/
  relayConfigured : Bool := false
deriving DecidableEq

structure VoiceJoinDecision where
  allowed : Bool
  reason : Option VoiceDeniedReason := none
  includeRelay : Bool
deriving DecidableEq

def decideVoiceJoin (config : VoiceConfig) (roomParticipants : Nat) (roomAlreadyInVoice : Bool)
    (voiceRoomCount : Nat) : VoiceJoinDecision :=
  if config.maxParticipantsPerRoom > 0 ∧ roomParticipants ≥ config.maxParticipantsPerRoom then
    { allowed := false, reason := some .roomFull, includeRelay := false }
  else if config.maxConcurrentRooms > 0 ∧ roomAlreadyInVoice = false ∧
      voiceRoomCount ≥ config.maxConcurrentRooms then
    { allowed := false, reason := some .tooManyRooms, includeRelay := false }
  else { allowed := true, includeRelay := config.relayConfigured }

/-- What voice reads of a client, with the last of its voice messages that was accepted. -/
structure VoiceClient where
  room : String
  /-- A `DirectClient`, and not a `BalancerClient`. -/
  direct : Bool := true
  joinStatus : ClientJoinStatus := .waitingForAuth
  /-- `joinAuthenticatedClient` has not let it into its room yet. -/
  joining : Bool := false
  /-- `connections` has it. -/
  connected : Bool := true
  /-- Its socket is being closed because the room was unloaded. -/
  kicked : Bool := false
  /-- History: the number of the message, and whether it was a join. -/
  last : Option (Nat × Bool) := none
deriving DecidableEq

/-- The awaits of `setVoicePresence` and of `removeFromVoice`. -/
inductive VoiceTask where
  /-- At `decideVoiceJoin`, for the message of this number, with the set it read. -/
  | deciding (client : ClientId) (message : Nat) (object : Nat) (decision : VoiceJoinDecision)
  /-- At `selectRelayChannel` in `getRoomRelayChannel`. -/
  | selecting (roomName : String)
  /-- At an await that only messages follow. -/
  | informing
deriving DecidableEq

/-- The set that a pending join has read. -/
def VoiceTask.object : VoiceTask → Option Nat
  | .deciding _ _ object _ => some object
  | .selecting _ | .informing => none

/-- What `selectRelayChannel` answers. -/
structure RelayAnswer where
  rejects : Bool := false
  selection : Option String := none
deriving DecidableEq

/-- What happens to voice. -/
inductive VoiceLabel where
  | connect (id : ClientId) (roomName : String) (direct : Bool)
  /-- `auth` has the session. -/
  | authenticate (id : ClientId)
  /-- `joinAuthenticatedClient` lets the client into the room of this name. -/
  | letIn (id : ClientId) (roomName : String)
  | message (id : ClientId) (joined : Bool)
  | resume (index : Nat) (answer : RelayAnswer)
  | disconnect (id : ClientId)
  | unload (roomName : String)
deriving DecidableEq

/-- The clients, what they share and the pending handlers. -/
structure VoicePresence where
  clients : Table ClientId VoiceClient := ∅
  roomJoins : OrderedMap String (List ClientId) := []
  voice : VoiceState := {}
  tasks : List VoiceTask := []
  /-- History: how many voice messages there were. -/
  messages : Nat := 0
deriving DecidableEq

namespace VoiceClient

/-- A message that had no await is accepted. -/
def accept (message : Nat) (joined : Bool) (client : VoiceClient) : VoiceClient :=
  { client with last := some (message, joined) }

/-- A join is accepted after its await; a later message may have been accepted meanwhile. -/
def acceptLate (message : Nat) (client : VoiceClient) : VoiceClient :=
  match client.last with
  | none => client.accept message true
  | some (latest, _) => if message < latest then client else client.accept message true

/-- The client is connected and its last accepted voice message was a join. -/
def wants (client : VoiceClient) : Bool :=
  client.connected && client.last.any Prod.snd

end VoiceClient

namespace VoiceState

/-- The members of `voiceParticipants.get(roomName)`. -/
def participantsOf (roomName : String) (voice : VoiceState) : OrderedSet ClientId :=
  match voice.participants.get roomName with
  | some object => voice.members object
  | none => []

/-- How many rooms other than the one of this set are in voice. -/
def otherVoiceRooms (object : Nat) (voice : VoiceState) : Nat :=
  voice.participants.countP fun entry =>
    decide (entry.2 ≠ object) && !(voice.members entry.2).isEmpty

/-- The two `delete`s. -/
def close (roomName : String) (voice : VoiceState) : VoiceState :=
  { voice with
    participants := voice.participants.delete roomName
    relays := voice.relays.delete roomName }

/-- The await that the rest of `setVoicePresence` or `removeFromVoice` stops at first. -/
def announcing (roomName : String) (object : Nat) (voice : VoiceState) : VoiceTask :=
  if !(voice.members object).isEmpty && !voice.relays.has roomName then .selecting roomName
  else .informing

end VoiceState

namespace VoicePresence

/-- Write a client. -/
def write (id : ClientId) (client : VoiceClient) (presence : VoicePresence) : VoicePresence :=
  { presence with clients := presence.clients.insert id client }

/-- Start a handler that has an await. -/
def start (task : VoiceTask) (presence : VoicePresence) : VoicePresence :=
  { presence with tasks := presence.tasks ++ [task] }

/-- `setVoicePresence` up to its first await, for the next message of a client. -/
def setVoicePresence (config : VoiceConfig) (id : ClientId) (client : VoiceClient)
    (joinedVoice : Bool) (presence : VoicePresence) : VoicePresence :=
  if !config.enabled || decide (client.joinStatus ≠ .joined) then
    if joinedVoice then presence.start .informing else presence
  else
    let (object, voice) := presence.voice.enter client.room
    let members := voice.members object
    if joinedVoice ∧ id ∉ members then
      { presence with voice }.start (.deciding id presence.messages object (decideVoiceJoin config
        members.length (!members.isEmpty) (voice.otherVoiceRooms object)))
    else
      let voice := if joinedVoice then voice else voice.write object (members.remove id)
      let voice := voice.closeEmpty object client.room
      ({ presence with voice }.write id (client.accept presence.messages joinedVoice)).start
        (voice.announcing client.room object)

/-- `setVoicePresence` with the decision, up to its next await. -/
def decided (index : Nat) (id : ClientId) (client : VoiceClient) (message object : Nat)
    (decision : VoiceJoinDecision) (presence : VoicePresence) : VoicePresence :=
  if decision.allowed then
    let voice := presence.voice.write object ((presence.voice.members object).add id)
    let voice := voice.closeEmpty object client.room
    { presence with voice, tasks := presence.tasks.set index (voice.announcing client.room object) }
      |>.write id (client.acceptLate message)
  else
    { presence with
      voice := presence.voice.closeEmpty object client.room
      tasks := presence.tasks.set index .informing }

/-- `getRoomRelayChannel` once the channel is selected, up to the next await. -/
def select (index : Nat) (roomName : String) (answer : RelayAnswer) (presence : VoicePresence) :
    VoicePresence :=
  if answer.rejects then { presence with tasks := presence.tasks.eraseIdx index }
  else
    let voice :=
      match answer.selection with
      | some selection =>
          { presence.voice with relays := presence.voice.relays.set roomName selection }
      | none => presence.voice
    { presence with voice, tasks := presence.tasks.set index .informing }

/-- What a handler does from an await on. -/
def resume (index : Nat) (answer : RelayAnswer) (presence : VoicePresence) : VoicePresence :=
  match presence.tasks[index]? with
  | none => presence
  | some (.deciding id message object decision) =>
      match presence.clients.lookup id with
      | some client => presence.decided index id client message object decision
      | none => presence
  | some (.selecting roomName) => presence.select index roomName answer
  | some .informing => { presence with tasks := presence.tasks.eraseIdx index }

/-- `roomJoins.get(roomName)`. -/
def joinsOf (roomName : String) (presence : VoicePresence) : List ClientId :=
  (presence.roomJoins.get roomName).getD []

/-- Write `roomJoins.get(roomName)`. -/
def writeJoins (roomName : String) (joins : List ClientId) (presence : VoicePresence) :
    VoicePresence :=
  { presence with roomJoins := presence.roomJoins.set roomName joins }

/-- The end of `joinAuthenticatedClient` that `roomJoins` sees. -/
def letIn (roomName : String) (id : ClientId) (client : VoiceClient) (presence : VoicePresence) :
    VoicePresence :=
  if client.joining then
    (presence.write id { client with room := roomName, joining := false }).writeJoins roomName
      (presence.joinsOf roomName ++ [id])
  else presence

/-- `removeFromVoice` up to its first await. -/
def removeFromVoice (id : ClientId) (client : VoiceClient) (presence : VoicePresence) :
    VoicePresence :=
  match presence.voice.participants.get client.room with
  | none => presence
  | some object =>
      let members := presence.voice.members object
      if id ∉ members then presence
      else
        let voice := (presence.voice.write object (members.remove id)).closeEmpty object client.room
        { presence with voice }.start (voice.announcing client.room object)

/-- `onClientDisconnect` up to its first await. -/
def disconnect (id : ClientId) (client : VoiceClient) (presence : VoicePresence) : VoicePresence :=
  let presence :=
    if client.connected then
      presence.writeJoins client.room ((presence.joinsOf client.room).erase id)
    else presence
  (presence.write id { client with connected := false }).removeFromVoice id client

/-- `client.kick` of an unload: a socket closes later, and a client of a balancer leaves at once. -/
def kick (id : ClientId) (presence : VoicePresence) : VoicePresence :=
  match presence.clients.lookup id with
  | none => presence
  | some client =>
      if client.direct then presence.write id { client with kicked := true }
      else presence.disconnect id client

/-- `onRoomUnload`. The array never grows in the loop. -/
def onRoomUnload (roomName : String) (presence : VoicePresence) : VoicePresence :=
  let presence := forOf (joinsOf roomName) kick (presence.joinsOf roomName).length 0 presence
  { presence with
    roomJoins := presence.roomJoins.delete roomName
    voice := presence.voice.close roomName }

/-- What happens to a client, if there is one of the id. -/
def onClient (id : ClientId) (handler : VoiceClient → VoicePresence → VoicePresence)
    (presence : VoicePresence) : VoicePresence :=
  match presence.clients.lookup id with
  | some client => handler client presence
  | none => presence

/-- The state after an event. A closed socket sends nothing. -/
def next (config : VoiceConfig) (label : VoiceLabel) (presence : VoicePresence) : VoicePresence :=
  match label with
  | .connect id roomName direct =>
      if id ∈ presence.clients then presence else presence.write id { room := roomName, direct }
  | .authenticate id =>
      presence.onClient id fun client presence =>
        if client.joinStatus = .waitingForAuth then
          presence.write id { client with joinStatus := .joined, joining := true }
        else presence
  | .letIn id roomName => presence.onClient id (letIn roomName id)
  | .message id joined =>
      presence.onClient id fun client presence =>
        if client.connected then
          { presence.setVoicePresence config id client joined with
            messages := presence.messages + 1 }
        else presence
  | .resume index answer => presence.resume index answer
  | .disconnect id => presence.onClient id (disconnect id)
  | .unload roomName => presence.onRoomUnload roomName

/-- No handler is pending, and no socket is being closed. -/
def quiet (presence : VoicePresence) : Bool :=
  presence.tasks.isEmpty &&
    presence.clients.entries.all fun entry => !(entry.2.connected && entry.2.kicked)

/-- The client is a connected one of the room whose last accepted voice message was a join. -/
def inVoice (id : ClientId) (roomName : String) (presence : VoicePresence) : Bool :=
  (presence.clients.lookup id).any fun client => client.wants && decide (client.room = roomName)

end VoicePresence

/-- Every interleaving of the voice handlers. -/
def voiceSystem (config : VoiceConfig) : TransitionSystem VoicePresence VoiceLabel where
  Initial presence := presence = {}
  Step before label after := after = before.next config label

namespace VoicePresence

/-- An allowed join goes through where it does what its decision was made for: its set is that of
its client's room, which has space, and the client still wants it; or its set is no room's any
more, and the client does not want it or is in the set that is. -/
def joinInOrder (config : VoiceConfig) (id : ClientId) (client : VoiceClient) (message object : Nat)
    (presence : VoicePresence) : Bool :=
  let accepted := client.acceptLate message
  let voice := presence.voice
  (voice.participants.all fun entry =>
    decide (entry.2 = object → entry.1 = client.room ∧ accepted.wants = true ∧
      (id ∈ voice.members object ∨ config.maxParticipantsPerRoom = 0 ∨
        (voice.members object).length < config.maxParticipantsPerRoom))) &&
  (decide (voice.participants.get client.room = some object) || !accepted.wants ||
    client.kicked || decide (id ∈ voice.participantsOf client.room))

/-- The kick of this client takes it out of `roomJoins` at once. -/
def leavesAtOnce (presence : VoicePresence) (id : ClientId) : Bool :=
  (presence.clients.lookup id).any fun client => !client.direct && client.connected

/-- Every pending join still fits where it resumes; a relay is stored for a room in voice; the
room of a client in voice keeps its name; and the loop of an unload reaches those in voice. -/
def orderly (config : VoiceConfig) (presence : VoicePresence) : VoiceLabel → Bool
  | .resume index answer =>
      match presence.tasks[index]? with
      | some (.deciding id message object decision) =>
          (presence.clients.lookup id).all fun client =>
            if decision.allowed then presence.joinInOrder config id client message object
            else decide (presence.voice.members object = [] →
              presence.voice.participantsOf client.room = [])
      | some (.selecting roomName) =>
          answer.rejects || answer.selection.isNone || presence.voice.participants.has roomName
      | _ => true
  | .letIn id roomName =>
      (presence.clients.lookup id).all fun client => !client.wants || decide (client.room = roomName)
  | .unload roomName =>
      presence.clients.entries.all fun entry =>
        !entry.2.wants || decide (entry.2.room ≠ roomName) || entry.2.kicked ||
          decide (entry.1 ∈ reached presence.leavesAtOnce false (presence.joinsOf roomName))
  | _ => true

end VoicePresence

end OpenTogetherTube
