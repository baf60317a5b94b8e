import OpenTogetherTube.Lib.Table
import OpenTogetherTube.Manager.Connection
import OpenTogetherTube.Room.Turns

/-!
# Who is in which room

`Manager.Connection` follows one client. Here are all of them, with what they share: the
`connections`, the `roomJoins` of `server/clientmanager.ts` and the viewers of each room. The
handlers of a client are cut at their awaits as there, and `joinRoom` and `leaveRoom` at theirs.
Of a room only its name and its viewers matter. Names match `ROOM_NAME_REGEX`, where `toLower` is
`toLowerCase`.
-/

namespace OpenTogetherTube

open Lib

/-- The awaits of `auth` and of the join that follows it. A client has one of them at most,
because `auth` is refused once there is a token. -/
inductive JoinPhase where
  | idle
  /-- `auth`, at `getSessionInfo`. -/
  | authenticating
  /-- `joinAuthenticatedClient`, at `getRoom`. -/
  | locating
  /-- `joinAuthenticatedClient`, at `hasRoomAccess`. -/
  | checking (room : Nat)
  /-- `makeRoomRequest`, from `getRoom` to the context of the request. -/
  | identifying (room : Nat)
  /-- `joinRoom`, at `updateInfo`. -/
  | seating (room : Nat)
  /-- `joinRoom`, from `publishRoomEvent` to its end. -/
  | announcing
  /-- `joinAuthenticatedClient`, at what follows the request. -/
  | greeting
  | ended
deriving DecidableEq

/-- `pendingRoomJoins` has the client. -/
def JoinPhase.pending : JoinPhase → Bool
  | .idle | .authenticating | .ended => false
  | .locating | .checking _ | .identifying _ | .seating _ | .announcing | .greeting => true

/-- The client has not been let into a room yet. -/
def JoinPhase.early : JoinPhase → Bool
  | .idle | .authenticating | .locating | .checking _ => true
  | .identifying _ | .seating _ | .announcing | .greeting | .ended => false

/-- The room that the client is going to be added to. -/
def JoinPhase.destination : JoinPhase → Option Nat
  | .identifying room | .seating room => some room
  | _ => none

/-- The awaits of `onClientDisconnect`. -/
inductive LeavePhase where
  /-- At `removeFromVoice`. -/
  | unvoicing
  /-- At the pending join, if there was one. -/
  | awaitingJoin (pending : Bool)
  /-- At `getRoom`. -/
  | leaving (room : Nat)
  /-- `leaveRoom`, at `publishLeaveEvent`. -/
  | departing (room : Nat)
deriving DecidableEq

/-- The disconnect goes on to remove the client from this room. -/
def LeavePhase.removes (room : Nat) : LeavePhase → Bool
  | .unvoicing | .awaitingJoin _ => true
  | .leaving found | .departing found => decide (found = room)

/-- A client with its handlers. -/
structure JoiningClient extends Client where
  join : JoinPhase := .idle
  leaves : List LeavePhase := []
  /-- History: the room that `hasRoomAccess` let the client into. -/
  admitted : Option String := none
  /-- History: `joinRoom` has added the client. -/
  seated : Bool := false
deriving DecidableEq

/-- A loaded room: its name and the ids of its `realusers`. -/
structure SeatedRoom where
  name : String
  realusers : List ClientId := []
deriving DecidableEq

/-- What the clients share. -/
structure Registry where
  /-- The clients there have ever been. -/
  clients : Table ClientId JoiningClient := ∅
  connections : List ClientId := []
  roomJoins : Table String (List ClientId) := ∅
  rooms : List SeatedRoom := []
deriving DecidableEq

/-- What an awaited call answers to the join of a client. -/
structure JoinAnswer where
  /-- It rejects. -/
  rejects : Bool := false
  /-- `getRoom`. -/
  room : Option Nat := none
  /-- `hasRoomAccess`. -/
  allowed : Bool := true
deriving DecidableEq

/-- What happens to the registry. A client that is kicked closes its socket, and its disconnect is
an event of its own. -/
inductive RegistryLabel where
  | load (roomName : String)
  | connect (id : ClientId) (roomName : String)
  | auth (id : ClientId) (token : AuthToken)
  | resume (id : ClientId) (answer : JoinAnswer)
  | kick (id : ClientId) (code : OttWebsocketError)
  | disconnect (id : ClientId)
  | leave (id : ClientId) (index : Nat)
deriving DecidableEq

namespace Registry

/-- `roomJoins.get(roomName)`. -/
def joins (roomName : String) (registry : Registry) : List ClientId :=
  (registry.roomJoins.lookup roomName).getD []

/-- `getRoom` with `mustAlreadyBeLoaded`. -/
def findRoom (roomName : String) (registry : Registry) : Option Nat :=
  registry.rooms.findIdx? fun room => decide (room.name.toLower = roomName.toLower)

/-- The viewers of a room's object. -/
def realusers (room : Nat) (registry : Registry) : List ClientId :=
  (registry.rooms[room]?.map SeatedRoom.realusers).getD []

/-- Write the client. -/
def write (client : JoiningClient) (registry : Registry) : Registry :=
  { registry with clients := registry.clients.insert client.id client }

/-- Write the viewers of a room's object. -/
def onRoom (room : Nat) (update : List ClientId → List ClientId) (registry : Registry) : Registry :=
  { registry with
    rooms := registry.rooms.modify room fun room =>
      { room with realusers := update room.realusers } }

/-- `auth` up to its await. -/
def auth (client : JoiningClient) (token : AuthToken) (registry : Registry) : Registry :=
  if token = "" ∨ utf16Length token > 1024 ∨ client.token ≠ none then registry
  else registry.write { client with token := some token, join := .authenticating }

/-- The rest of `auth`, with `onClientAuth` up to the first await of the join. -/
def acceptSession (client : JoiningClient) (answer : JoinAnswer) (registry : Registry) : Registry :=
  if answer.rejects then registry.write { client with join := .ended }
  else registry.write { client with joinStatus := .joined, join := .locating }

/-- `joinAuthenticatedClient` once it has the room; without one the client is kicked. -/
def checkAccess (client : JoiningClient) (answer : JoinAnswer) (registry : Registry) : Registry :=
  if answer.rejects ∨ client.id ∉ registry.connections then
    registry.write { client with join := .ended }
  else
    match answer.room with
    | some room =>
        if registry.rooms[room]?.any fun room => decide (room.name.toLower = client.room.toLower) then
          registry.write { client with join := .checking room }
        else registry.write { client with join := .ended }
    | none => registry.write { client with join := .ended }

/-- The join request is over; the join goes on if its client is still there. -/
def settle (client : JoiningClient) (registry : Registry) : Registry :=
  registry.write { client with
    join := if client.id ∈ registry.connections then .greeting else .ended }

/-- `joinAuthenticatedClient` with the verdict. -/
def letIn (client : JoiningClient) (room : Nat) (answer : JoinAnswer) (registry : Registry) :
    Registry :=
  if answer.rejects || !answer.allowed then registry.write { client with join := .ended }
  else
    match registry.rooms[room]? with
    | none => registry.write { client with join := .ended }
    | some found =>
        let client := { client with room := found.name, admitted := some found.name }
        let registry := { registry with
          roomJoins := registry.roomJoins.insert found.name
            (registry.joins found.name ++ [client.id]) }
        match registry.findRoom found.name with
        | some object => registry.write { client with join := .identifying object }
        | none => registry.settle client

/-- `joinRoom` once it has the account. -/
def seat (client : JoiningClient) (room : Nat) (answer : JoinAnswer) (registry : Registry) :
    Registry :=
  if answer.rejects then registry.settle client
  else (registry.onRoom room (· ++ [client.id])).write
    { client with seated := true, join := .announcing }

/-- What the join of a client does from an await on. -/
def resume (client : JoiningClient) (answer : JoinAnswer) (registry : Registry) : Registry :=
  match client.join with
  | .idle | .ended => registry
  | .authenticating => registry.acceptSession client answer
  | .locating => registry.checkAccess client answer
  | .checking room => registry.letIn client room answer
  | .identifying room =>
      if answer.rejects then registry.settle client
      else registry.write { client with join := .seating room }
  | .seating room => registry.seat client room answer
  | .announcing => registry.settle client
  | .greeting => registry.write { client with join := .ended }

/-- `onClientDisconnect` up to its first await. -/
def disconnect (client : JoiningClient) (registry : Registry) : Registry :=
  let client := { client with leaves := client.leaves ++ [.unvoicing] }
  if client.id ∈ registry.connections then
    { registry with
      connections := registry.connections.erase client.id
      roomJoins :=
        match registry.roomJoins.lookup client.room with
        | some joins => registry.roomJoins.insert client.room (joins.erase client.id)
        | none => registry.roomJoins }.write client
  else registry.write client

/-- What the disconnect of a client does from an await on. -/
def leave (client : JoiningClient) (index : Nat) (registry : Registry) : Registry :=
  let next := fun phase => { client with leaves := client.leaves.set index phase }
  let done := { client with leaves := client.leaves.eraseIdx index }
  match client.leaves[index]? with
  | none => registry
  | some .unvoicing => registry.write (next (.awaitingJoin client.join.pending))
  | some (.awaitingJoin pending) =>
      if pending && client.join.pending then registry
      else if client.joinStatus ≠ .joined then registry.write done
      else
        match registry.findRoom client.room with
        | some room => registry.write (next (.leaving room))
        | none => registry.write done
  | some (.leaving room) =>
      if client.id ∈ registry.realusers room then registry.write (next (.departing room))
      else registry.write done
  | some (.departing room) =>
      (registry.onRoom room fun users => users.erase client.id).write done

/-- The registry after an event. Ids are fresh, so a second client of one id is none. -/
def next (label : RegistryLabel) (registry : Registry) : Registry :=
  let onClient := fun (id : ClientId) (handler : JoiningClient → Registry → Registry) =>
    match registry.clients.lookup id with
    | some client => handler client registry
    | none => registry
  match label with
  | .load roomName => { registry with rooms := registry.rooms ++ [⟨roomName, []⟩] }
  | .connect id roomName =>
      if id ∈ registry.clients then registry
      else { registry with connections := registry.connections ++ [id] }.write
        { id, room := roomName }
  | .auth id token => onClient id fun client => auth client token
  | .resume id answer => onClient id fun client => resume client answer
  | .kick _ _ => registry
  | .disconnect id => onClient id disconnect
  | .leave id index => onClient id fun client => leave client index

/-- No handler is pending. -/
def quiet (registry : Registry) : Bool :=
  registry.clients.entries.all fun entry =>
    decide (entry.2.join ∈ [JoinPhase.idle, .ended]) && entry.2.leaves.isEmpty

end Registry

/-- Every interleaving of the handlers of any number of clients. -/
def registrySystem : TransitionSystem Registry RegistryLabel where
  Initial registry := registry = {}
  Step before label after := after = before.next label

namespace Room

variable (env : Env) (context : RoomRequestContext) (room : Room)

end Room

namespace Registry

/-- The client was let into the room and joined it. -/
def hasJoined (id : ClientId) (roomName : String) (registry : Registry) : Bool :=
  (registry.clients.lookup id).any fun client =>
    decide (client.admitted = some roomName) && client.seated

/-- `roomJoins` has exactly the connected clients that joined the room, each once, and these are
its viewers. -/
structure Exact (registry : Registry) (room : SeatedRoom) : Prop where
  joinsNodup : (registry.joins room.name).Nodup
  mem_joins : ∀ id, id ∈ registry.joins room.name ↔
    id ∈ registry.connections ∧ registry.hasJoined id room.name = true
  realusersNodup : room.realusers.Nodup
  mem_realusers : ∀ id, id ∈ room.realusers ↔ id ∈ registry.joins room.name

/-- A room is loaded once; a client that is let in is still connected; and a join request fails
only when its client is gone. -/
def orderly (registry : Registry) : RegistryLabel → Bool
  | .load roomName => registry.rooms.all fun room => decide (room.name.toLower ≠ roomName.toLower)
  | .resume id answer =>
      (registry.clients.lookup id).all fun client =>
        match client.join with
        | .checking _ => answer.rejects || !answer.allowed || decide (id ∈ registry.connections)
        | .identifying _ | .seating _ => !answer.rejects || decide (id ∉ registry.connections)
        | _ => true
  | _ => true

/-- What holds of one client: how often it is in the connections, in the joins of each room name
and among the viewers of each room object. -/
structure Sound (names : List String) (client : JoiningClient) (connected : Nat)
    (joins : String → Nat) (seats : Nat → Nat) : Prop where
  once : connected ≤ 1
  silent : client.token = none → client.join = .idle
  accepted : client.join.pending = true → client.joinStatus = .joined
  early : client.join.early = true → client.admitted = none ∧ client.seated = false
  known : ∀ name, client.admitted = some name → name ∈ names
  welcomed : client.admitted.isSome = true → client.joinStatus = .joined
  home : ∀ name, client.admitted = some name → client.room = name
  expected : ∀ room, client.join.destination = some room → client.seated = false ∧
    ∃ name, client.admitted = some name ∧ names[room]? = some name
  coming : connected = 1 → client.admitted.isSome = true → client.seated = false →
    client.join.destination.isSome = true
  listed : ∀ name, joins name = if client.admitted = some name then connected else 0
  seatedOnce : ∀ room, seats room ≤ 1
  seatOf : ∀ room, seats room = 1 → client.seated = true ∧
    ∃ name, client.admitted = some name ∧ names[room]? = some name
  present : connected = 1 → client.seated = true → ∀ room name, client.admitted = some name →
    names[room]? = some name → seats room = 1
  gone : client.leaves ≠ [] → connected = 0
  removed : connected = 0 → ∀ room, seats room = 1 →
    ∃ phase ∈ client.leaves, phase.removes room = true
  waits : connected = 0 → client.join.destination.isSome = true →
    LeavePhase.unvoicing ∈ client.leaves ∨ LeavePhase.awaitingJoin true ∈ client.leaves

/-- What holds of a client in this registry. -/
def Places (registry : Registry) (client : JoiningClient) : Prop :=
  Sound (registry.rooms.map SeatedRoom.name) client (registry.connections.count client.id)
    (fun name => (registry.joins name).count client.id)
    fun room => (registry.realusers room).count client.id

/-- What holds of every client, and that rooms of one name are not loaded twice. -/
structure Kept (registry : Registry) : Prop where
  distinct : (registry.rooms.map fun room => room.name.toLower).Nodup
  keyed : ∀ id client, registry.clients.lookup id = some client → client.id = id
  sound : ∀ id client, registry.clients.lookup id = some client → registry.Places client
  absent : ∀ id, registry.clients.lookup id = none → registry.connections.count id = 0 ∧
    (∀ name, (registry.joins name).count id = 0) ∧ ∀ room, (registry.realusers room).count id = 0

/-- Whoever else it is, nothing changed for them. -/
structure Elsewhere (id : ClientId) (before after : Registry) : Prop where
  connections : ∀ other, other ≠ id → after.connections.count other = before.connections.count other
  joins : ∀ other, other ≠ id → ∀ name,
    (after.joins name).count other = (before.joins name).count other
  realusers : ∀ other, other ≠ id → ∀ room,
    (after.realusers room).count other = (before.realusers room).count other

/-- A step of one client keeps what holds if it does so for this client. -/
theorem Kept.of_local {before after : Registry} (kept : before.Kept) (client : JoiningClient)
    (written : after.clients = before.clients.insert client.id client)
    (names : after.rooms.map SeatedRoom.name = before.rooms.map SeatedRoom.name)
    (elsewhere : Elsewhere client.id before after)
    (sound : after.Places client) : after.Kept := by
  constructor
  · have lower : ∀ registry : Registry, (registry.rooms.map fun room => room.name.toLower) =
        (registry.rooms.map SeatedRoom.name).map String.toLower := by
      intro registry
      rw [List.map_map]
      rfl
    rw [lower, names, ← lower]
    exact kept.distinct
  · intro id found read
    rw [written] at read
    rcases Table.lookup_insert_cases read with ⟨rfl, rfl⟩ | ⟨_, earlier⟩
    · rfl
    · exact kept.keyed id found earlier
  · intro id found read
    rw [written] at read
    rcases Table.lookup_insert_cases read with ⟨rfl, rfl⟩ | ⟨different, earlier⟩
    · exact sound
    · have elsewhere' : found.id ≠ client.id := (kept.keyed id found earlier).symm ▸ different
      unfold Places
      rw [names, elsewhere.connections _ elsewhere']
      simp only [elsewhere.joins _ elsewhere', elsewhere.realusers _ elsewhere']
      exact kept.sound id found earlier
  · intro id missing
    rw [written] at missing
    have different : id ≠ client.id := by
      rintro rfl
      rw [AList.lookup_insert] at missing
      cases missing
    rw [AList.lookup_insert_ne different] at missing
    obtain ⟨connections, joins, realusers⟩ := kept.absent id missing
    refine ⟨(elsewhere.connections id different).trans connections, fun name => ?_, fun room => ?_⟩
    · exact (elsewhere.joins id different name).trans (joins name)
    · exact (elsewhere.realusers id different room).trans (realusers room)

/-- A step that only writes a client. -/
theorem Kept.write {registry : Registry} (kept : registry.Kept) (client : JoiningClient)
    (sound : registry.Places client) : (registry.write client).Kept :=
  kept.of_local client rfl rfl ⟨fun _ _ => rfl, fun _ _ _ => rfl, fun _ _ _ => rfl⟩ sound

namespace Sound

variable {names : List String} {client : JoiningClient} {connected : Nat} {joins : String → Nat}
  {seats : Nat → Nat}

theorem rejoin (sound : Sound names client connected joins seats) (join : JoinPhase)
    (token : client.token ≠ none)
    (accepted : join.pending = true → client.joinStatus = .joined)
    (early : join.early = true → client.join.early = true)
    (destination : ∀ room, join.destination = some room → client.join.destination = some room)
    (stays : connected = 1 → join.destination = client.join.destination) :
    Sound names { client with join } connected joins seats where
  once := sound.once
  silent none := absurd none token
  accepted := accepted
  early now := sound.early (early now)
  known := sound.known
  welcomed := sound.welcomed
  home := sound.home
  expected room ahead := sound.expected room (destination room ahead)
  coming here admitted standing := by
    change join.destination.isSome = true
    rw [stays here]
    exact sound.coming here admitted standing
  listed := sound.listed
  seatedOnce := sound.seatedOnce
  seatOf := sound.seatOf
  present := sound.present
  gone := sound.gone
  removed := sound.removed
  waits away ahead := by
    obtain ⟨room, bound⟩ := Option.isSome_iff_exists.mp ahead
    exact sound.waits away (Option.isSome_of_eq_some (destination room bound))

/-- The disconnects of a client that is gone go on. -/
theorem releave (sound : Sound names client connected joins seats) (leaves : List LeavePhase)
    (away : connected = 0)
    (removed : ∀ room, seats room = 1 → ∃ phase ∈ leaves, phase.removes room = true)
    (waits : client.join.destination.isSome = true →
      LeavePhase.unvoicing ∈ leaves ∨ LeavePhase.awaitingJoin true ∈ leaves) :
    Sound names { client with leaves } connected joins seats where
  once := sound.once
  silent := sound.silent
  accepted := sound.accepted
  early := sound.early
  known := sound.known
  welcomed := sound.welcomed
  home := sound.home
  expected := sound.expected
  coming := sound.coming
  listed := sound.listed
  seatedOnce := sound.seatedOnce
  seatOf := sound.seatOf
  present := sound.present
  gone _ := away
  removed _ := removed
  waits _ := waits

end Sound

theorem Kept.room_unique {registry : Registry} (kept : registry.Kept) {first second : Nat}
    {one other : SeatedRoom} (left : registry.rooms[first]? = some one)
    (right : registry.rooms[second]? = some other) (same : one.name.toLower = other.name.toLower) :
    first = second := by
  have inFirst := (List.getElem?_eq_some_iff.mp left).1
  refine (List.getElem?_inj (by simpa using inFirst) kept.distinct).mp ?_
  rw [List.getElem?_map, List.getElem?_map, left, right, Option.map_some, Option.map_some, same]

theorem Kept.findRoom {registry : Registry} (kept : registry.Kept) {room : Nat} {found : SeatedRoom}
    (loaded : registry.rooms[room]? = some found) : registry.findRoom found.name = some room := by
  obtain ⟨inside, here⟩ := List.getElem?_eq_some_iff.mp loaded
  unfold Registry.findRoom
  rw [List.findIdx?_eq_some_iff_getElem]
  refine ⟨inside, by simp [here], fun earlier before same => ?_⟩
  rw [decide_eq_true_eq] at same
  have := kept.room_unique (List.getElem?_eq_getElem _) loaded same
  omega

/-- The viewers of a room's object, read. -/
theorem realusers_of_loaded {registry : Registry} {room : Nat} {found : SeatedRoom}
    (loaded : registry.rooms[room]? = some found) : registry.realusers room = found.realusers := by
  simp [Registry.realusers, loaded]

/-- Writing the viewers of one object leaves the others. -/
theorem realusers_onRoom (registry : Registry) (room other : Nat)
    (update : List ClientId → List ClientId)
    (loaded : room < registry.rooms.length ∨ update [] = []) :
    (registry.onRoom room update).realusers other =
      if other = room then update (registry.realusers room) else registry.realusers other := by
  unfold Registry.realusers Registry.onRoom
  rw [List.getElem?_modify]
  by_cases same : other = room
  · subst same
    cases read : registry.rooms[other]? with
    | none =>
        have missing := List.getElem?_eq_none_iff.mp read
        simpa using (loaded.resolve_left (by omega)).symm
    | some found => simp
  · simp [same, Ne.symm same]

/-- Writing the viewers keeps the names. -/
theorem names_onRoom (registry : Registry) (room : Nat) (update : List ClientId → List ClientId) :
    (registry.onRoom room update).rooms.map SeatedRoom.name = registry.rooms.map SeatedRoom.name := by
  unfold Registry.onRoom
  apply List.ext_getElem?
  intro index
  simp only [List.getElem?_map, List.getElem?_modify]
  cases registry.rooms[index]? with
  | none => rfl
  | some found =>
      by_cases same : room = index
      · simp [same]
      · simp [same]

section Handlers

variable {registry : Registry} {client : JoiningClient}

/-- A phase in which nothing is left to do but to end is one that any phase can go to. -/
theorem Kept.finish (kept : registry.Kept) (sound : registry.Places client)
    (token : client.token ≠ none) (landed : registry.connections.count client.id = 1 →
      client.join.destination = none) :
    (registry.write { client with join := .ended }).Kept := by
  refine kept.write _ (sound.rejoin .ended token nofun nofun nofun ?_)
  intro here
  exact (landed here).symm

/-- A join that is awaiting something has a token. -/
theorem Places.token (sound : registry.Places client) (busy : client.join ≠ .idle) :
    client.token ≠ none :=
  fun none => busy (sound.silent none)

theorem Places.mem_connections (sound : registry.Places client) :
    client.id ∈ registry.connections ↔ registry.connections.count client.id = 1 := by
  rw [← List.count_pos_iff]
  have := sound.once
  omega

theorem Kept.auth (kept : registry.Kept) (sound : registry.Places client) (token : AuthToken) :
    (registry.auth client token).Kept := by
  unfold Registry.auth
  split
  · exact kept
  · rename_i accepted
    push Not at accepted
    have idle := sound.silent accepted.2.2
    have early := sound.early (by rw [idle]; rfl)
    refine kept.write _ { sound with
      silent := nofun, accepted := nofun, early := fun _ => early, expected := nofun,
      coming := ?_, waits := nofun }
    intro _ admitted
    rw [early.1] at admitted
    cases admitted

theorem Kept.acceptSession (kept : registry.Kept) (sound : registry.Places client)
    (answer : JoinAnswer) (phase : client.join = .authenticating) :
    (registry.acceptSession client answer).Kept := by
  have token := sound.token (by rw [phase]; nofun)
  unfold Registry.acceptSession
  split
  · exact kept.finish sound token fun _ => by rw [phase]; rfl
  · have early := sound.early (by rw [phase]; rfl)
    refine kept.write _ { sound with
      silent := fun none => absurd none token, accepted := fun _ => rfl, early := fun _ => early,
      welcomed := fun _ => rfl, expected := nofun, coming := ?_, waits := nofun }
    intro _ admitted
    rw [early.1] at admitted
    cases admitted

theorem Kept.checkAccess (kept : registry.Kept) (sound : registry.Places client)
    (answer : JoinAnswer) (phase : client.join = .locating) :
    (registry.checkAccess client answer).Kept := by
  have token := sound.token (by rw [phase]; nofun)
  have ended : (registry.write { client with join := .ended }).Kept :=
    kept.finish sound token fun _ => by rw [phase]; rfl
  unfold Registry.checkAccess
  split
  · exact ended
  · split
    · split
      · refine kept.write _ (sound.rejoin _ token ?_ ?_ nofun ?_)
        · exact fun _ => sound.accepted (by rw [phase]; rfl)
        · exact fun _ => by rw [phase]; rfl
        · exact fun _ => by rw [phase]; rfl
      · exact ended
    · exact ended

/-- The join request ends once the client is seated, or when the client is gone. -/
theorem Kept.settle (kept : registry.Kept) (sound : registry.Places client)
    (pending : client.join.pending = true)
    (landed : client.id ∈ registry.connections → client.join.destination = none) :
    (registry.settle client).Kept := by
  have token : client.token ≠ none := sound.token fun idle => by
    rw [idle] at pending
    cases pending
  unfold Registry.settle
  split
  · rename_i here
    refine kept.write _ (sound.rejoin _ token (fun _ => sound.accepted pending) nofun nofun ?_)
    exact fun _ => (landed here).symm
  · exact kept.finish sound token fun here => landed (sound.mem_connections.mpr here)

theorem joins_insert (registry : Registry) (roomName other : String) (ids : List ClientId) :
    ({ registry with roomJoins := registry.roomJoins.insert roomName ids } : Registry).joins other =
      if other = roomName then ids else registry.joins other := by
  unfold Registry.joins
  by_cases same : other = roomName
  · subst same
    simp
  · simp [same, AList.lookup_insert_ne]

theorem Places.letIn (sound : registry.Places client) {room : Nat} {found : SeatedRoom}
    (phase : client.join = .checking room) (loaded : registry.rooms[room]? = some found)
    (here : client.id ∈ registry.connections) :
    Places
      { registry with roomJoins :=
          registry.roomJoins.insert found.name (registry.joins found.name ++ [client.id]) }
      { client with
        room := found.name, admitted := some found.name, join := .identifying room } := by
  have early := sound.early (by rw [phase]; rfl)
  have unlisted : ∀ name, (registry.joins name).count client.id = 0 := by
    intro name
    have listed := sound.listed name
    rw [early.1, if_neg nofun] at listed
    exact listed
  have connected := sound.mem_connections.mp here
  refine { sound with
    silent := fun none => absurd none (sound.token (by rw [phase]; nofun))
    accepted := fun _ => sound.accepted (by rw [phase]; rfl)
    early := nofun, known := ?_, welcomed := fun _ => sound.accepted (by rw [phase]; rfl)
    home := ?_, expected := ?_, coming := fun _ _ _ => rfl, listed := ?_, seatOf := ?_
    present := ?_, waits := ?_ }
  · rintro _ ⟨⟩
    exact List.mem_map_of_mem (List.mem_of_getElem? loaded)
  · rintro _ ⟨⟩
    rfl
  · rintro _ ⟨⟩
    refine ⟨early.2, found.name, rfl, ?_⟩
    rw [List.getElem?_map, loaded]
    rfl
  · intro name
    rw [joins_insert]
    by_cases same : name = found.name
    · subst same
      simp [unlisted, connected]
    · have other : found.name ≠ name := Ne.symm same
      simp [same, other, unlisted]
  · intro seat taken
    obtain ⟨seated, _⟩ := sound.seatOf seat taken
    rw [early.2] at seated
    cases seated
  · intro _ seated
    rw [show client.seated = true from seated] at early
    cases early.2
  · intro gone
    rw [show registry.connections.count client.id = 0 from gone] at connected
    cases connected

theorem Kept.letIn (kept : registry.Kept) (sound : registry.Places client) (room : Nat)
    (answer : JoinAnswer) (phase : client.join = .checking room)
    (welcome : (answer.rejects || !answer.allowed || decide (client.id ∈ registry.connections)) =
      true) : (registry.letIn client room answer).Kept := by
  have ended : (registry.write { client with join := .ended }).Kept :=
    kept.finish sound (sound.token (by rw [phase]; nofun)) fun _ => by rw [phase]; rfl
  unfold Registry.letIn
  by_cases refused : (answer.rejects || !answer.allowed) = true
  · rw [if_pos refused]
    exact ended
  rw [if_neg refused]
  have here : client.id ∈ registry.connections := by simpa [refused] using welcome
  cases loaded : registry.rooms[room]? with
  | none => exact ended
  | some found =>
      have placed := sound.letIn phase loaded here
      have object : Registry.findRoom found.name { registry with
          roomJoins := registry.roomJoins.insert found.name
            (registry.joins found.name ++ [client.id]) } = some room := kept.findRoom loaded
      simp only [object]
      refine kept.of_local _ rfl rfl ⟨fun _ _ => rfl, ?_, fun _ _ _ => rfl⟩ placed
      intro other different name
      refine (congrArg _ (joins_insert registry found.name name _)).trans ?_
      by_cases same : name = found.name
      · subst same
        simp [Ne.symm different]
      · rw [if_neg same]

/-- Writing the viewers of one object does nothing for a client that the write leaves alone. -/
theorem count_onRoom {registry : Registry} {room : Nat} {id : ClientId}
    {update : List ClientId → List ClientId}
    (loaded : room < registry.rooms.length ∨ update [] = [])
    (same : ∀ users, (update users).count id = users.count id) (other : Nat) :
    ((registry.onRoom room update).realusers other).count id =
      (registry.realusers other).count id := by
  rw [realusers_onRoom registry room other update loaded]
  split
  · rename_i here
    rw [same, here]
  · rfl

theorem Places.sit (sound : registry.Places client) (kept : registry.Kept) {room : Nat}
    (phase : client.join = .seating room) :
    (registry.onRoom room (· ++ [client.id])).Places
      { client with seated := true, join := .announcing } := by
  obtain ⟨standing, name, admitted, named⟩ := sound.expected room (by rw [phase]; rfl)
  obtain ⟨found, loaded, rfl⟩ : ∃ found, registry.rooms[room]? = some found ∧ found.name = name := by
    simpa using named
  have seats : ∀ other, ((registry.onRoom room (· ++ [client.id])).realusers other).count client.id =
      if other = room then 1 else 0 := by
    intro other
    have empty : ∀ other, (registry.realusers other).count client.id = 0 := by
      intro other
      have once := sound.seatedOnce other
      by_contra some
      obtain ⟨seated, _⟩ := sound.seatOf other (by omega)
      rw [standing] at seated
      cases seated
    rw [realusers_onRoom registry room other _ (.inl (List.getElem?_eq_some_iff.mp loaded).1)]
    split
    · simp [empty]
    · exact empty other
  have waits := fun gone => sound.waits gone (by rw [phase]; rfl)
  unfold Places
  rw [names_onRoom]
  refine { sound with
    silent := fun none => absurd none (sound.token (by rw [phase]; nofun))
    accepted := fun _ => sound.accepted (by rw [phase]; rfl)
    early := nofun, expected := nofun, coming := nofun, seatedOnce := ?_, seatOf := ?_
    present := ?_, removed := ?_, waits := nofun }
  · intro other
    refine (seats other).trans_le ?_
    split <;> omega
  · intro other taken
    have here : other = room := by
      by_contra elsewhere
      have none := (seats other).symm.trans taken
      rw [if_neg elsewhere] at none
      cases none
    exact ⟨rfl, found.name, admitted, here ▸ named⟩
  · intro _ _ other name letIn atOther
    have same : found.name = name := Option.some.inj (admitted.symm.trans letIn)
    subst same
    rw [List.getElem?_map, Option.map_eq_some_iff] at atOther
    obtain ⟨second, secondLoaded, secondNamed⟩ := atOther
    have here := kept.room_unique secondLoaded loaded (by rw [secondNamed])
    exact (seats other).trans (if_pos here)
  · intro gone other taken
    rcases waits gone with unvoicing | awaiting
    · exact ⟨_, unvoicing, rfl⟩
    · exact ⟨_, awaiting, rfl⟩

/-- A join request that fails leaves its client behind only if that client is gone. -/
theorem Kept.seat (kept : registry.Kept) (sound : registry.Places client) (room : Nat)
    (answer : JoinAnswer) (phase : client.join = .seating room)
    (succeeds : (!answer.rejects || decide (client.id ∉ registry.connections)) = true) :
    (registry.seat client room answer).Kept := by
  unfold Registry.seat
  split
  · rename_i rejects
    have gone : client.id ∉ registry.connections := by simpa [rejects] using succeeds
    exact kept.settle sound (by rw [phase]; rfl) fun here => absurd here gone
  · obtain ⟨_, name, _, named⟩ := sound.expected room (by rw [phase]; rfl)
    have loaded : room < registry.rooms.length := by
      simpa using (List.getElem?_eq_some_iff.mp named).1
    refine kept.of_local _ rfl (names_onRoom registry room (· ++ [client.id]))
      ⟨fun _ _ => rfl, fun _ _ _ => rfl, ?_⟩ (sound.sit kept phase)
    intro other different
    have untouched : ∀ users, (users ++ [client.id]).count other = users.count other := by
      simp [Ne.symm different]
    exact count_onRoom (.inl loaded) untouched

/-- The joins of a room name once a client is taken off one list. -/
theorem joins_erase (registry : Registry) (roomName other : String) (id : ClientId) :
    ({ registry with
      roomJoins :=
        match registry.roomJoins.lookup roomName with
        | some joins => registry.roomJoins.insert roomName (joins.erase id)
        | none => registry.roomJoins } : Registry).joins other =
      if other = roomName then (registry.joins other).erase id else registry.joins other := by
  cases read : registry.roomJoins.lookup roomName with
  | none =>
      by_cases same : other = roomName
      · subst same
        simp [Registry.joins, read]
      · rw [if_neg same]
  | some joins =>
      refine (joins_insert registry roomName other (joins.erase id)).trans ?_
      split
      · rename_i same
        subst same
        simp [Registry.joins, read]
      · rfl

theorem Kept.disconnect (kept : registry.Kept) (sound : registry.Places client) :
    (registry.disconnect client).Kept := by
  have leaving : LeavePhase.unvoicing ∈ client.leaves ++ [.unvoicing] :=
    List.mem_append_right _ List.mem_cons_self
  unfold Registry.disconnect
  by_cases here : client.id ∈ registry.connections
  · have connected := sound.mem_connections.mp here
    have gone : (registry.connections.erase client.id).count client.id = 0 := by
      rw [List.count_erase_self, connected]
    simp only [if_pos here]
    refine kept.of_local _ rfl rfl ⟨?_, ?_, fun _ _ _ => rfl⟩ ?_
    · exact fun other different => List.count_erase_of_ne different
    · intro other different name
      refine (congrArg _ (joins_erase registry client.room name client.id)).trans ?_
      split
      · exact List.count_erase_of_ne different
      · rfl
    · refine { sound with
        once := gone.trans_le (Nat.zero_le 1), coming := ?_, listed := ?_, present := ?_
        gone := fun _ => gone, removed := fun _ _ _ => ⟨_, leaving, rfl⟩
        waits := fun _ _ => .inl leaving }
      · exact fun here => absurd (gone.symm.trans here) nofun
      · intro name
        have listed : (registry.joins name).count client.id = _ := sound.listed name
        refine (congrArg _ (joins_erase registry client.room name client.id)).trans ?_
        have none : (if client.admitted = some name then
            (registry.connections.erase client.id).count client.id else 0) = 0 := by
          rw [gone, ite_self]
        refine Eq.trans ?_ none.symm
        by_cases same : name = client.room
        · rw [if_pos same, List.count_erase_self]
          change (registry.joins name).count client.id - 1 = 0
          have once := sound.once
          split at listed <;> omega
        · rw [if_neg same]
          refine listed.trans (if_neg ?_)
          exact fun admitted => same (sound.home name admitted).symm
      · exact fun here => absurd (gone.symm.trans here) nofun
  · have gone : registry.connections.count client.id = 0 := List.count_eq_zero.mpr here
    simp only [if_neg here]
    exact kept.write _ (sound.releave _ gone (fun _ _ => ⟨_, leaving, rfl⟩) fun _ => .inl leaving)

/-- The other disconnects of a client stay when one goes on or ends. -/
theorem mem_leaves_others {leaves : List LeavePhase} {index : Nat} {phase other : LeavePhase}
    (atIndex : leaves[index]? = some phase) (held : other ∈ leaves) (different : other ≠ phase) :
    (∀ next, other ∈ leaves.set index next) ∧ other ∈ leaves.eraseIdx index := by
  obtain ⟨position, found⟩ := List.mem_iff_getElem?.mp held
  have elsewhere : position ≠ index := by
    rintro rfl
    exact different (Option.some.inj (found.symm.trans atIndex))
  refine ⟨fun next => ?_, List.mem_eraseIdx_iff_getElem?.mpr ⟨_, elsewhere, found⟩⟩
  rw [← List.getElem?_set_ne elsewhere.symm] at found
  exact List.mem_of_getElem? found

/-- One disconnect goes on; what it no longer does for its client has to be done or not needed. -/
theorem Places.step (sound : registry.Places client) {index : Nat} {phase : LeavePhase}
    (atIndex : client.leaves[index]? = some phase) {leaves : List LeavePhase}
    (others : ∀ other ∈ client.leaves, other ≠ phase → other ∈ leaves)
    (removed : ∀ room, client.id ∈ registry.realusers room → phase.removes room = true →
      ∃ next ∈ leaves, next.removes room = true)
    (waits : client.join.destination.isSome = true → phase = .unvoicing ∨ phase = .awaitingJoin true →
      LeavePhase.unvoicing ∈ leaves ∨ LeavePhase.awaitingJoin true ∈ leaves) :
    registry.Places { client with leaves } := by
  have gone := sound.gone (List.ne_nil_of_mem (List.mem_of_getElem? atIndex))
  refine sound.releave leaves gone ?_ ?_
  · intro room taken
    obtain ⟨earlier, held, removes⟩ := sound.removed gone room taken
    by_cases same : earlier = phase
    · subst same
      exact removed room (List.count_pos_iff.mp (taken.symm ▸ Nat.one_pos)) removes
    · exact ⟨earlier, others earlier held same, removes⟩
  · intro ahead
    rcases sound.waits gone ahead with held | held
    · by_cases same : LeavePhase.unvoicing = phase
      · exact waits ahead (.inl same.symm)
      · exact .inl (others _ held same)
    · by_cases same : LeavePhase.awaitingJoin true = phase
      · exact waits ahead (.inr same.symm)
      · exact .inr (others _ held same)

/-- The last step of a disconnect takes the client out of one room's object. -/
theorem Places.depart (sound : registry.Places client) {index room : Nat}
    (atIndex : client.leaves[index]? = some (.departing room)) :
    (registry.onRoom room fun users => users.erase client.id).Places
      { client with leaves := client.leaves.eraseIdx index } := by
  have gone := sound.gone (List.ne_nil_of_mem (List.mem_of_getElem? atIndex))
  have seats : ∀ other,
      ((registry.onRoom room fun users => users.erase client.id).realusers other).count client.id =
        if other = room then 0 else (registry.realusers other).count client.id := by
    intro other
    rw [realusers_onRoom registry room other _ (.inr rfl)]
    split
    · have once := sound.seatedOnce room
      rw [List.count_erase_self]
      omega
    · rfl
  have stays : ∀ other,
      ((registry.onRoom room fun users => users.erase client.id).realusers other).count client.id =
        1 → other ≠ room ∧ (registry.realusers other).count client.id = 1 := by
    intro other taken
    rw [seats] at taken
    split at taken
    · cases taken
    · exact ⟨‹_›, taken⟩
  unfold Places
  rw [names_onRoom]
  refine { sound with
    seatedOnce := ?_, seatOf := fun other taken => sound.seatOf other (stays other taken).2
    present := fun here => absurd (gone.symm.trans here) nofun, gone := fun _ => gone
    removed := ?_, waits := ?_ }
  · intro other
    refine (seats other).trans_le ?_
    split
    · exact Nat.zero_le 1
    · exact sound.seatedOnce other
  · intro _ other taken
    obtain ⟨elsewhere, earlier⟩ := stays other taken
    obtain ⟨phase, held, removes⟩ := sound.removed gone other earlier
    refine ⟨phase, (mem_leaves_others atIndex held ?_).2, removes⟩
    rintro rfl
    exact elsewhere (of_decide_eq_true removes).symm
  · intro _ ahead
    rcases sound.waits gone ahead with held | held
    · exact .inl (mem_leaves_others atIndex held nofun).2
    · exact .inr (mem_leaves_others atIndex held nofun).2

/-- A client that is on its way to a room has a pending join. -/
theorem pending_of_destination {phase : JoinPhase} (ahead : phase.destination.isSome = true) :
    phase.pending = true := by
  cases phase <;> first | rfl | cases ahead

/-- A viewer is found through its room name. -/
theorem Places.found (sound : registry.Places client) (kept : registry.Kept) {room : Nat}
    (inside : client.id ∈ registry.realusers room) :
    client.joinStatus = .joined ∧ registry.findRoom client.room = some room := by
  have positive := List.count_pos_iff.mpr inside
  have once := sound.seatedOnce room
  obtain ⟨_, name, admitted, named⟩ := sound.seatOf room (by omega)
  rw [List.getElem?_map, Option.map_eq_some_iff] at named
  obtain ⟨found, loaded, rfl⟩ := named
  rw [sound.home _ admitted]
  exact ⟨sound.welcomed (Option.isSome_of_eq_some admitted), kept.findRoom loaded⟩

theorem Kept.leave (kept : registry.Kept) (sound : registry.Places client) (index : Nat) :
    (registry.leave client index).Kept := by
  unfold Registry.leave
  cases atIndex : client.leaves[index]? with
  | none => exact kept
  | some phase =>
      have others := fun other (held : other ∈ client.leaves) (different : other ≠ phase) =>
        mem_leaves_others atIndex held different
      have placed : ∀ next, next ∈ client.leaves.set index next :=
        fun next => List.mem_set (List.getElem?_eq_some_iff.mp atIndex).1 next
      cases phase with
      | unvoicing =>
          refine kept.write _ (sound.step atIndex (fun _ held other => (others _ held other).1 _)
            (fun _ _ _ => ⟨_, placed _, rfl⟩) fun ahead _ => .inr ?_)
          rw [pending_of_destination ahead]
          exact placed _
      | awaitingJoin pending =>
          dsimp only
          by_cases waiting : (pending && client.join.pending) = true
          · rw [if_pos waiting]
            exact kept
          rw [if_neg waiting]
          have late : client.join.destination.isSome = true →
              LeavePhase.awaitingJoin pending = .unvoicing ∨
                LeavePhase.awaitingJoin pending = .awaitingJoin true → False := by
            rintro ahead (impossible | same)
            · cases impossible
            · cases same
              exact waiting (by rw [pending_of_destination ahead]; rfl)
          have done (unseated : ∀ room, client.id ∉ registry.realusers room) :
              (registry.write { client with leaves := client.leaves.eraseIdx index }).Kept :=
            kept.write _ (sound.step atIndex (fun _ held other => (others _ held other).2)
              (fun room inside _ => absurd inside (unseated room))
              fun ahead same => (late ahead same).elim)
          split
          · rename_i unjoined
            exact done fun room inside => unjoined (sound.found kept inside).1
          · cases found : registry.findRoom client.room with
            | none =>
                refine done fun room inside => ?_
                rw [(sound.found kept inside).2] at found
                cases found
            | some object =>
                refine kept.write _ (sound.step atIndex
                  (fun _ held other => (others _ held other).1 _) ?_
                  fun ahead same => (late ahead same).elim)
                intro room inside _
                rw [(sound.found kept inside).2] at found
                exact ⟨_, placed _, decide_eq_true (Option.some.inj found).symm⟩
      | leaving room =>
          dsimp only
          split
          · refine kept.write _ (sound.step atIndex (fun _ held other => (others _ held other).1 _)
              (fun _ _ removes => ⟨_, placed _, removes⟩) fun _ late => ?_)
            rcases late with impossible | impossible <;> cases impossible
          · rename_i absent
            refine kept.write _ (sound.step atIndex (fun _ held other => (others _ held other).2)
              ?_ fun _ late => ?_)
            · intro other inside removes
              exact absurd (of_decide_eq_true removes ▸ inside) absent
            · rcases late with impossible | impossible <;> cases impossible
      | departing room =>
          dsimp only
          refine kept.of_local _ rfl (names_onRoom registry room fun users => users.erase client.id)
            ⟨fun _ _ => rfl, fun _ _ _ => rfl, ?_⟩ (sound.depart atIndex)
          intro other different
          have untouched : ∀ users : List ClientId, (users.erase client.id).count other = users.count other :=
            fun users => List.count_erase_of_ne different
          exact count_onRoom (.inr rfl) untouched

theorem Kept.resume (kept : registry.Kept) {answer : JoinAnswer}
    (read : registry.clients.lookup client.id = some client)
    (inOrder : registry.orderly (.resume client.id answer) = true) :
    (registry.resume client answer).Kept := by
  have sound := kept.sound _ _ read
  unfold Registry.resume
  simp only [orderly, read, Option.all_some] at inOrder
  cases phase : client.join with
  | idle => exact kept
  | ended => exact kept
  | authenticating => exact kept.acceptSession sound answer phase
  | locating => exact kept.checkAccess sound answer phase
  | checking room =>
      rw [phase] at inOrder
      exact kept.letIn sound room answer phase inOrder
  | identifying room =>
      rw [phase] at inOrder
      have pending : client.join.pending = true := by rw [phase]; rfl
      dsimp only
      split
      · rename_i rejects
        have gone : client.id ∉ registry.connections := by simpa [rejects] using inOrder
        exact kept.settle sound pending fun here => absurd here gone
      · refine kept.write _ (sound.rejoin _ (sound.token (by rw [phase]; nofun))
          (fun _ => sound.accepted pending) nofun ?_ ?_)
        · exact fun other ahead => by rw [phase]; exact ahead
        · exact fun _ => by rw [phase]; rfl
  | seating room =>
      rw [phase] at inOrder
      exact kept.seat sound room answer phase inOrder
  | announcing => exact kept.settle sound (by rw [phase]; rfl) fun _ => by rw [phase]; rfl
  | greeting =>
      exact kept.finish sound (sound.token (by rw [phase]; nofun)) fun _ => by rw [phase]; rfl

end Handlers

/-- A new object of another name has nobody in it. -/
theorem realusers_load (registry : Registry) (roomName : String) (room : Nat) :
    ({ registry with rooms := registry.rooms ++ [⟨roomName, []⟩] } : Registry).realusers room =
      registry.realusers room := by
  unfold realusers
  rw [List.getElem?_append]
  split
  · rfl
  · rename_i outside
    have missing : registry.rooms[room]? = none := List.getElem?_eq_none_iff.mpr (by omega)
    rw [missing]
    cases room - registry.rooms.length <;> rfl

theorem Kept.load {registry : Registry} (kept : registry.Kept) (roomName : String)
    (inOrder : registry.orderly (.load roomName) = true) :
    ({ registry with rooms := registry.rooms ++ [⟨roomName, []⟩] } : Registry).Kept := by
  have fresh : ∀ room ∈ registry.rooms, room.name.toLower ≠ roomName.toLower := by
    simpa [orderly] using inOrder
  constructor
  · rw [List.map_append, List.nodup_append]
    refine ⟨kept.distinct, List.nodup_singleton _, ?_⟩
    rintro _ earlier _ new rfl
    obtain ⟨room, loaded, named⟩ := List.mem_map.mp earlier
    exact fresh room loaded (named.trans (List.mem_singleton.mp new))
  · exact kept.keyed
  · intro id client read
    have sound := kept.sound id client read
    unfold Places
    simp only [realusers_load, List.map_append]
    have grown : ∀ {room : Nat} {name : String},
        (registry.rooms.map SeatedRoom.name)[room]? = some name →
        (registry.rooms.map SeatedRoom.name ++ [roomName])[room]? = some name := by
      intro room name named
      rw [List.getElem?_append_left (List.getElem?_eq_some_iff.mp named).1, named]
    refine { sound with
      known := fun name admitted => List.mem_append_left _ (sound.known name admitted)
      expected := ?_, seatOf := ?_, present := ?_ }
    · intro room ahead
      obtain ⟨standing, name, admitted, named⟩ := sound.expected room ahead
      exact ⟨standing, name, admitted, grown named⟩
    · intro room taken
      obtain ⟨seated, name, admitted, named⟩ := sound.seatOf room taken
      exact ⟨seated, name, admitted, grown named⟩
    · intro here seated room name admitted named
      rw [List.map_singleton, List.getElem?_append] at named
      split at named
      · exact sound.present here seated room name admitted named
      · obtain ⟨other, loaded, same⟩ := List.mem_map.mp (sound.known name admitted)
        have new := List.mem_singleton.mp (List.mem_of_getElem? named)
        exact absurd (by rw [same, new]) (fresh other loaded)
  · intro id missing
    obtain ⟨connections, joins, realusers⟩ := kept.absent id missing
    exact ⟨connections, joins, fun room => (congrArg _ (realusers_load _ _ _)).trans (realusers room)⟩

theorem Kept.connect {registry : Registry} (kept : registry.Kept) (id : ClientId) (roomName : String)
    (fresh : registry.clients.lookup id = none) :
    ({ registry with connections := registry.connections ++ [id] }.write
      { id, room := roomName } : Registry).Kept := by
  obtain ⟨connections, joins, realusers⟩ := kept.absent id fresh
  refine kept.of_local { id, room := roomName } rfl rfl
    ⟨?_, fun _ _ _ => rfl, fun _ _ _ => rfl⟩ ?_
  · intro other different
    change (registry.connections ++ [id]).count other = _
    simp [Ne.symm different]
  · have connected : (registry.connections ++ [id]).count id = 1 := by simp [connections]
    have empty : ∀ room, (registry.realusers room).count id = 1 → False := fun room taken =>
      absurd ((realusers room).symm.trans taken) nofun
    exact {
      once := connected.le, silent := fun _ => rfl, accepted := nofun, early := fun _ => ⟨rfl, rfl⟩
      known := nofun, welcomed := nofun, home := nofun, expected := nofun, coming := nofun
      listed := fun name => (joins name).trans (if_neg nofun).symm
      seatedOnce := fun room => (realusers room).trans_le (Nat.zero_le 1)
      seatOf := fun room taken => (empty room taken).elim, present := nofun
      gone := fun leaving => absurd rfl leaving
      removed := fun _ room taken => (empty room taken).elim, waits := nofun }

/-- Every event keeps what holds of every client. -/
theorem Kept.next {registry : Registry} (kept : registry.Kept) (label : RegistryLabel)
    (inOrder : registry.orderly label = true) : (registry.next label).Kept := by
  have onClient : ∀ (id : ClientId) (handler : JoiningClient → Registry → Registry),
      (∀ client, client.id = id → registry.clients.lookup client.id = some client →
        (handler client registry).Kept) →
      (match registry.clients.lookup id with
        | some client => handler client registry
        | none => registry).Kept := by
    intro id handler each
    cases read : registry.clients.lookup id with
    | none => exact kept
    | some client =>
        have keyed := kept.keyed id client read
        exact each client keyed (keyed.symm ▸ read)
  cases label with
  | load roomName => exact kept.load roomName inOrder
  | connect id roomName =>
      dsimp only [Registry.next]
      split
      · exact kept
      · rename_i fresh
        exact kept.connect id roomName (AList.lookup_eq_none.mpr fresh)
  | auth id token =>
      exact onClient id _ fun client _ read => kept.auth (kept.sound _ _ read) token
  | resume id answer =>
      refine onClient id _ fun client keyed read => ?_
      subst keyed
      exact kept.resume read inOrder
  | kick id code => exact kept
  | disconnect id =>
      exact onClient id _ fun client _ read => kept.disconnect (kept.sound _ _ read)
  | leave id index =>
      exact onClient id _ fun client _ read => kept.leave (kept.sound _ _ read) index

theorem kept_of_reachable {registry : Registry}
    (reachable : (registrySystem.restrict fun registry label =>
      registry.orderly label = true).Reachable registry) : registry.Kept := by
  suffices invariant : TransitionSystem.Inductive (registrySystem.restrict fun registry label =>
      registry.orderly label = true) Kept from invariant.of_reachable reachable
  constructor
  · rintro _ rfl
    refine ⟨List.nodup_nil, ?_, ?_, fun _ _ => ⟨rfl, fun _ => rfl, fun room => ?_⟩⟩
    · exact fun _ _ read => absurd (read.symm.trans (AList.lookup_empty _)) nofun
    · exact fun _ _ read => absurd (read.symm.trans (AList.lookup_empty _)) nofun
    · simp [realusers]
  · rintro before label _ kept ⟨inOrder, rfl⟩
    exact kept.next label inOrder

/-- Once nothing is pending, a client is in the joins of a room name if it is connected and joined
that room, and otherwise it is not. -/
theorem Places.count_joins {registry : Registry} {client : JoiningClient}
    (sound : registry.Places client) (idle : client.join ∈ [JoinPhase.idle, .ended])
    (roomName : String) :
    (registry.joins roomName).count client.id =
      if client.admitted = some roomName ∧ client.seated = true then
        registry.connections.count client.id else 0 := by
  have listed : (registry.joins roomName).count client.id = _ := sound.listed roomName
  rw [listed]
  by_cases admitted : client.admitted = some roomName
  · by_cases seated : client.seated = true
    · rw [if_pos admitted, if_pos ⟨admitted, seated⟩]
    · rw [if_pos admitted, if_neg fun both => seated both.2]
      have once := sound.once
      by_contra connected
      have ahead := sound.coming (by omega) (Option.isSome_of_eq_some admitted)
        (Bool.eq_false_iff.mpr seated)
      rcases List.mem_pair.mp idle with phase | phase <;> rw [phase] at ahead <;> cases ahead
  · rw [if_neg admitted, if_neg fun both => admitted both.1]

/-- Once nothing is pending, the viewers of a room are its joins. -/
theorem Places.count_realusers {registry : Registry} {client : JoiningClient}
    (sound : registry.Places client) (idle : client.join ∈ [JoinPhase.idle, .ended])
    (left : client.leaves = []) {room : Nat} {found : SeatedRoom}
    (loaded : registry.rooms[room]? = some found) :
    (registry.realusers room).count client.id = (registry.joins found.name).count client.id := by
  have named : (registry.rooms.map SeatedRoom.name)[room]? = some found.name := by
    rw [List.getElem?_map, loaded]
    rfl
  have seatedOnce := sound.seatedOnce room
  have once := sound.once
  rw [sound.count_joins idle]
  by_cases taken : (registry.realusers room).count client.id = 1
  · obtain ⟨seated, name, admitted, atRoom⟩ := sound.seatOf room taken
    have same : name = found.name := Option.some.inj (atRoom.symm.trans named)
    rw [taken, if_pos ⟨same ▸ admitted, seated⟩]
    by_contra connected
    obtain ⟨phase, held, _⟩ := sound.removed (by omega) room taken
    rw [left] at held
    cases held
  · split
    · rename_i both
      by_contra connected
      exact taken (sound.present (by omega) both.2 room found.name both.1 named)
    · omega

/-- In every run in which rooms are loaded once, a client that is let in is still connected and a
join request fails only when its client is gone, the joins and the viewers are exact whenever
nothing is pending. -/
theorem exact_of_quiet {registry : Registry}
    (reachable : (registrySystem.restrict fun registry label =>
      registry.orderly label = true).Reachable registry)
    (quiet : registry.quiet = true) : ∀ room ∈ registry.rooms, registry.Exact room := by
  intro found among
  obtain ⟨room, loaded⟩ := List.mem_iff_getElem?.mp among
  have kept := kept_of_reachable reachable
  have idle : ∀ id client, registry.clients.lookup id = some client →
      client.join ∈ [JoinPhase.idle, .ended] ∧ client.leaves = [] := by
    intro id client read
    have settled := List.all_eq_true.mp quiet ⟨id, client⟩ (AList.mem_lookup_iff.mp read)
    rw [Bool.and_eq_true, decide_eq_true_eq, List.isEmpty_iff] at settled
    exact settled
  have viewers : registry.realusers room = found.realusers := realusers_of_loaded loaded
  have joined : ∀ id, (registry.joins found.name).count id =
      if registry.hasJoined id found.name = true then registry.connections.count id else 0 := by
    intro id
    unfold hasJoined
    cases read : registry.clients.lookup id with
    | none => simpa using (kept.absent id read).2.1 found.name
    | some client =>
        have keyed := kept.keyed id client read
        subst keyed
        simpa using (kept.sound _ client read).count_joins (idle _ client read).1 found.name
  have seats : ∀ id, found.realusers.count id = (registry.joins found.name).count id := by
    intro id
    rw [← viewers]
    cases read : registry.clients.lookup id with
    | none =>
        obtain ⟨_, joins, realusers⟩ := kept.absent id read
        rw [joins, realusers]
    | some client =>
        have keyed := kept.keyed id client read
        subst keyed
        obtain ⟨ended, left⟩ := idle _ client read
        exact (kept.sound _ client read).count_realusers ended left loaded
  have once : ∀ id, registry.connections.count id ≤ 1 := by
    intro id
    cases read : registry.clients.lookup id with
    | none => exact (kept.absent id read).1.trans_le (Nat.zero_le 1)
    | some client =>
        have keyed := kept.keyed id client read
        subst keyed
        exact (kept.sound _ client read).once
  have atMost : ∀ id, (registry.joins found.name).count id ≤ 1 := by
    intro id
    rw [joined]
    split
    · exact once id
    · exact Nat.zero_le 1
  refine ⟨List.nodup_iff_count_le_one.mpr atMost, fun id => ?_,
    List.nodup_iff_count_le_one.mpr fun id => (seats id).trans_le (atMost id), fun id => ?_⟩
  · rw [← List.count_pos_iff, ← List.count_pos_iff, joined]
    split
    · rename_i both
      exact ⟨fun connected => ⟨connected, both⟩, And.left⟩
    · rename_i unjoined
      exact ⟨fun impossible => absurd impossible (Nat.lt_irrefl 0), fun both => absurd both.2 unjoined⟩
  · rw [← List.count_pos_iff, ← List.count_pos_iff, seats]

end Registry

namespace Sample

/-- Two clients join a room one after the other, and the first one leaves. -/
def joinsAndLeave : List RegistryLabel :=
  [.load "cinema", .connect "first" "cinema", .auth "first" "token", .resume "first" {},
    .resume "first" { room := some 0 }, .connect "second" "Cinema", .resume "first" {},
    .auth "second" "other", .resume "second" {}, .resume "first" {}, .resume "first" {},
    .resume "second" { room := some 0 }, .resume "second" {}, .disconnect "first",
    .leave "first" 0, .resume "second" {}, .resume "first" {}, .leave "first" 0,
    .resume "second" {}, .leave "first" 0, .resume "second" {}, .leave "first" 0,
    .resume "second" {}]

/-- A client disconnects while its access to the room is being checked. -/
def leavesWhileChecked : List RegistryLabel :=
  [.load "cinema", .connect "first" "cinema", .auth "first" "token", .resume "first" {},
    .resume "first" { room := some 0 }, .disconnect "first", .leave "first" 0, .resume "first" {},
    .resume "first" {}, .resume "first" {}, .resume "first" {}, .leave "first" 0,
    .leave "first" 0, .leave "first" 0]

end Sample

namespace Registry

/-- Only the second client is left. -/
theorem exact_of_joinsAndLeave :
    (TransitionSystem.run next Sample.joinsAndLeave {}).joins "cinema" = ["second"] ∧
    ∀ room ∈ (TransitionSystem.run next Sample.joinsAndLeave {}).rooms,
      (TransitionSystem.run next Sample.joinsAndLeave {}).Exact room := by
  have run : (registrySystem.restrict fun registry label => registry.orderly label = true).Steps
      {} (TransitionSystem.run next Sample.joinsAndLeave {}) := by
    have step : ∀ registry label, registry.orderly label = true →
        (registrySystem.restrict fun registry label => registry.orderly label = true).Step
          registry label (next label registry) :=
      fun _ _ inOrder => ⟨inOrder, rfl⟩
    exact TransitionSystem.steps_run step Sample.joinsAndLeave {} (by decide +kernel)
  exact ⟨by decide +kernel, exact_of_quiet ⟨{}, rfl, run⟩ (by decide +kernel)⟩

/-- The client that was let in after it had disconnected stays in the joins of the room. -/
theorem exact_of_quiet_fails :
    ¬ ∀ registry, registrySystem.Reachable registry → registry.quiet = true →
      ∀ room ∈ registry.rooms, registry.Exact room := by
  intro exact
  have reachable : registrySystem.Reachable
      (TransitionSystem.run next Sample.leavesWhileChecked {}) := by
    have step : ∀ registry label, True → registrySystem.Step registry label (next label registry) :=
      fun _ _ _ => rfl
    exact ⟨{}, rfl, TransitionSystem.steps_run step Sample.leavesWhileChecked {} (by decide +kernel)⟩
  have wrong := (exact _ reachable (by decide +kernel) ⟨"cinema", []⟩ (by decide +kernel)).mem_joins
    "first"
  have listed : "first" ∈ (TransitionSystem.run next Sample.leavesWhileChecked {}).joins "cinema" := by
    decide +kernel
  have gone : "first" ∉ (TransitionSystem.run next Sample.leavesWhileChecked {}).connections := by
    decide +kernel
  exact gone (wrong.mp listed).1

end Registry

end OpenTogetherTube
