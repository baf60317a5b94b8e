import OpenTogetherTube.Lib.Handler
import OpenTogetherTube.Lib.Table

/-!
# The state of the load balancer

Embeds `BalancerContext` of `ott-balancer/src/balancer.rs` with the parts of
`monolith.rs`, `room.rs` and `client.rs` it consists of: which monoliths are connected,
which rooms each of them holds, and the table that locates a room. Channels, HTTP clients
and counters are left out. A method that fails keeps what it wrote before.
-/

namespace OpenTogetherTube.Balancer

open Lib

/-- `RoomName`, whose equality and hash fold ASCII case: a name here stands for all its spellings. -/
abbrev RoomName := String

/-- `MonolithId`, a UUID the monolith chose. -/
abbrev MonolithId := String

abbrev ClientId := String

abbrev Region := String

/-- `RoomMetadata`; the fields the balancer only passes on are one text. -/
structure RoomMetadata where
  name : RoomName
  details : String := ""
deriving DecidableEq

structure Room where
  name : RoomName
  clients : List ClientId := []
  metadata : Option RoomMetadata := none
deriving DecidableEq

/-- `NewClient`, and what is left of a `BalancerClient` without its channel. -/
structure NewClient where
  id : ClientId
  room : RoomName
  edgeRegion : Region := ""
  token : String := ""
deriving DecidableEq

structure NewMonolith where
  id : MonolithId
  region : Region := ""
deriving DecidableEq

structure BalancerMonolith where
  id : MonolithId
  region : Region
  rooms : Table RoomName Room := ∅
deriving DecidableEq

structure RoomLocator where
  monolithId : MonolithId
  loadEpoch : UInt32
deriving DecidableEq

/-- The ways a step of the balancer fails. `panic` is an `unwrap` of nothing. -/
inductive BalancerError where
  | panic
  | monolithNotFound
  | monolithHasRoom (room : RoomName)
  | noMonoliths
  | clientNotFound
  | roomAlreadyLoaded
  | receiverClosed
  | sendFailed
deriving DecidableEq

structure BalancerContext where
  clients : Table ClientId NewClient := ∅
  monoliths : Table MonolithId BalancerMonolith := ∅
  roomsToMonoliths : Table RoomName RoomLocator := ∅
  monolithsByRegion : Table Region (List MonolithId) := ∅
deriving DecidableEq

/-- A critical section of the balancer, under its write lock. -/
abbrev BalancerM := Handler BalancerError BalancerContext

namespace BalancerMonolith

/-- `BalancerMonolith::add_room`. -/
def addRoom (room : RoomName) (monolith : BalancerMonolith) :
    Except BalancerError BalancerMonolith :=
  if room ∈ monolith.rooms then .error (.monolithHasRoom room)
  else .ok { monolith with rooms := monolith.rooms.insert room { name := room } }

/-- `BalancerMonolith::remove_room`. -/
def removeRoom (room : RoomName) (monolith : BalancerMonolith) : BalancerMonolith :=
  { monolith with rooms := monolith.rooms.erase room }

/-- `BalancerMonolith::add_client`. -/
def addClient (room : RoomName) (client : ClientId) (monolith : BalancerMonolith) :
    BalancerMonolith :=
  let entry := (monolith.rooms.lookup room).getD { name := room }
  { monolith with
    rooms := monolith.rooms.insert room { entry with clients := entry.clients ++ [client] } }

/-- `BalancerMonolith::remove_client`. -/
def removeClient (client : ClientId) (monolith : BalancerMonolith) : BalancerMonolith :=
  { monolith with
    rooms := monolith.rooms.mapValues fun room =>
      { room with clients := room.clients.filter fun other => decide (other ≠ client) } }

/-- `BalancerMonolith::add_or_sync_room`, which adds only a room it does not have. -/
def addOrSyncRoom (metadata : RoomMetadata) (monolith : BalancerMonolith) : BalancerMonolith :=
  let room := (monolith.rooms.lookup metadata.name).getD { name := metadata.name }
  { monolith with rooms := monolith.rooms.insert metadata.name { room with metadata := some metadata } }

end BalancerMonolith

namespace BalancerContext

/-- `add_monolith`: an entry under the same id is replaced. -/
def addMonolith (monolith : BalancerMonolith) (ctx : BalancerContext) : BalancerContext :=
  { ctx with
    monoliths := ctx.monoliths.insert monolith.id monolith
    monolithsByRegion := ctx.monolithsByRegion.insert monolith.region
      ((ctx.monolithsByRegion.lookup monolith.region).getD [] ++ [monolith.id]) }

def removeMonolith (id : MonolithId) (ctx : BalancerContext) : BalancerContext :=
  let byRegion :=
    match ctx.monoliths.lookup id with
    | some monolith =>
        match ctx.monolithsByRegion.lookup monolith.region with
        | some ids =>
            ctx.monolithsByRegion.insert monolith.region
              (ids.filter fun other => decide (other ≠ id))
        | none => ctx.monolithsByRegion
    | none => ctx.monolithsByRegion
  let located := ctx.roomsToMonoliths.retain fun locator => decide (locator.monolithId ≠ id)
  { ctx with
    monoliths := ctx.monoliths.erase id
    monolithsByRegion := byRegion
    roomsToMonoliths := located
    clients := ctx.clients.retain fun client => decide (client.room ∈ located) }

/-- Write an entry of the monolith table. -/
def setMonolith (id : MonolithId) (monolith : BalancerMonolith) (ctx : BalancerContext) :
    BalancerContext :=
  { ctx with monoliths := ctx.monoliths.insert id monolith }

/-- Write an entry of the locator table. -/
def locate (room : RoomName) (locator : RoomLocator) (ctx : BalancerContext) : BalancerContext :=
  { ctx with roomsToMonoliths := ctx.roomsToMonoliths.insert room locator }

def addRoom (room : RoomName) (locator : RoomLocator) : BalancerM Unit := do
  let ctx ← get
  match ctx.monoliths.lookup locator.monolithId with
  | none => throw .monolithNotFound
  | some monolith =>
      modify (locate room locator)
      match monolith.addRoom room with
      | .error error => throw error
      | .ok monolith => modify (setMonolith locator.monolithId monolith)

/-- Forget where a room is, if it is on the given monolith. -/
def unlocate (room : RoomName) (id : MonolithId) (ctx : BalancerContext) : BalancerContext :=
  match ctx.roomsToMonoliths.lookup room with
  | some locator =>
      if locator.monolithId = id then
        { ctx with roomsToMonoliths := ctx.roomsToMonoliths.erase room }
      else ctx
  | none => ctx

def removeRoom (room : RoomName) (id : MonolithId) : BalancerM Unit := do
  let ctx ← get
  match ctx.monoliths.lookup id with
  | none => throw .monolithNotFound
  | some monolith =>
      modify (unlocate room id)
      modify (setMonolith id (monolith.removeRoom room))

/-- `filter_monoliths`: those of the configured region, if it has a list. -/
def filterMonoliths (region : Region) (ctx : BalancerContext) : List BalancerMonolith :=
  match ctx.monolithsByRegion.lookup region with
  | some ids => ids.filterMap fun id => ctx.monoliths.lookup id
  | none => ctx.monoliths.values

end BalancerContext

/-- The result of a send to a monolith. -/
inductive SendResult where
  | ok
  | timeout
  | otherError
deriving DecidableEq

/-- What joining a client depends on: the configured region and the selection strategy. -/
structure Selection where
  region : Region := ""
  selectMonolith : RoomName → List BalancerMonolith → Option BalancerMonolith :=
    fun _ monoliths => monoliths.head?

end OpenTogetherTube.Balancer
