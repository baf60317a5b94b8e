import OpenTogetherTube.Balancer.Context
import OpenTogetherTube.Lib.Transition

/-!
# The steps of the load balancer

Embeds `join_client`, `leave_client`, `join_monolith`, `leave_monolith`,
`add_or_sync_room_ctx` and the messages of `dispatch_monolith_message` that touch the
tables. Each of them holds the write lock for one section at a time and awaits a send in
between, so an operation is a section followed by a task; tasks run in any order, after
any other section, and a send may succeed, time out or fail.
-/

namespace OpenTogetherTube.Balancer

open Lib

/-- `GossipRoom`, and the payload of `Loaded`. -/
structure GossipRoom where
  room : RoomMetadata
  loadEpoch : UInt32
deriving DecidableEq

/-- One section of a gossip in progress. -/
inductive GossipWork where
  | sync (room : GossipRoom)
  | remove (room : RoomName)
deriving DecidableEq

/-- What an operation still has to do when it awaits. -/
inductive BalancerTask where
  /-- `B2MJoin` is being sent. -/
  | join (client : NewClient) (monolith : MonolithId) (shouldCreateRoom : Bool)
  /-- `B2MLeave` is being sent. -/
  | leave (monolith : MonolithId)
  /-- The rooms of a gossip that are left, and the rooms it did not mention. -/
  | gossip (monolith : MonolithId) (work : List GossipWork)
deriving DecidableEq

/-- The first section of `join_client`: find or create the room. -/
def joinClient (selection : Selection) (client : NewClient) : BalancerM BalancerTask := do
  let ctx ← get
  match ctx.roomsToMonoliths.lookup client.room with
  | some locator =>
      match ctx.monoliths.lookup locator.monolithId with
      | none => throw .panic
      | some monolith =>
          match monolith.rooms.lookup client.room with
          | none => throw .panic
          | some _ => return .join client locator.monolithId false
  | none =>
      match selection.selectMonolith client.room (ctx.filterMonoliths selection.region) with
      | none => throw .noMonoliths
      | some selected =>
          BalancerContext.addRoom client.room ⟨selected.id, 0xffffffff⟩
          let ctx ← get
          match ctx.monoliths.lookup selected.id with
          | none => throw .panic
          | some _ => return .join client selected.id true

/-- The second section of `join_client`, after the send. -/
def finishJoin (client : NewClient) (id : MonolithId) (shouldCreateRoom : Bool)
    (result : SendResult) : BalancerM Unit := do
  match result with
  | .ok =>
      let ctx ← get
      match ctx.monoliths.lookup id with
      | none => throw .monolithNotFound
      | some monolith =>
          modify (BalancerContext.setMonolith id (monolith.addClient client.room client.id))
          modify fun ctx => { ctx with clients := ctx.clients.insert client.id client }
  | .timeout =>
      if shouldCreateRoom then tryCatch (BalancerContext.removeRoom client.room id) fun _ => pure ()
      modify (BalancerContext.removeMonolith id)
      throw .sendFailed
  | .otherError =>
      if shouldCreateRoom then tryCatch (BalancerContext.removeRoom client.room id) fun _ => pure ()
      throw .sendFailed

/-- The first section of `leave_client`: the monolith to tell, if any. -/
def leaveClient (id : ClientId) : BalancerM (Option BalancerTask) := do
  let ctx ← get
  match ctx.clients.lookup id with
  | none => throw .clientNotFound
  | some removed =>
      modify fun ctx => { ctx with clients := ctx.clients.erase id }
      match ctx.roomsToMonoliths.lookup removed.room with
      | none => return none
      | some locator =>
          match ctx.monoliths.lookup locator.monolithId with
          | none => return none
          | some monolith =>
              modify (BalancerContext.setMonolith locator.monolithId (monolith.removeClient id))
              return some (.leave locator.monolithId)

/-- The second section of `leave_client`, after the send. -/
def finishLeave (id : MonolithId) (result : SendResult) : BalancerM Unit := do
  match result with
  | .ok => return ()
  | .timeout =>
      modify (BalancerContext.removeMonolith id)
      throw .sendFailed
  | .otherError => throw .sendFailed

/-- `join_monolith`; the connection may have gone before it is answered. -/
def joinMonolith (monolith : NewMonolith) (receiverOpen : Bool) : BalancerM Unit := do
  if receiverOpen then
    modify (BalancerContext.addMonolith { id := monolith.id, region := monolith.region })
  else throw .receiverClosed

def leaveMonolith (id : MonolithId) : BalancerM Unit := modify (BalancerContext.removeMonolith id)

/-- The write of a room a monolith reports: first the locator, then the monolith's entry. -/
def recordRoom (report : GossipRoom) (id : MonolithId) : BalancerM Unit := do
  modify (BalancerContext.locate report.room.name ⟨id, report.loadEpoch⟩)
  let ctx ← get
  match ctx.monoliths.lookup id with
  | none => throw .monolithNotFound
  | some monolith => modify (BalancerContext.setMonolith id (monolith.addOrSyncRoom report.room))

/-- The section of `add_or_sync_room_ctx`. The sends that follow it touch nothing; the one
to the reporting monolith makes the operation fail. -/
def addOrSyncRoomCtx (report : GossipRoom) (id : MonolithId) : BalancerM Unit := do
  let ctx ← get
  match ctx.roomsToMonoliths.lookup report.room.name with
  | some locator =>
      if locator.monolithId ≠ id then
        match compare locator.loadEpoch report.loadEpoch with
        | .lt =>
            if id ∈ ctx.monoliths then throw .roomAlreadyLoaded else throw .monolithNotFound
        | .gt =>
            if locator.monolithId ∈ ctx.monoliths then
              BalancerContext.removeRoom report.room.name locator.monolithId
              recordRoom report id
            else throw .monolithNotFound
        | .eq => throw .roomAlreadyLoaded
      else recordRoom report id
  | none => recordRoom report id

/-- The first section of a gossip, under the read lock: the rooms to go through. A gossip of
an unknown monolith is ignored. -/
def gossip (id : MonolithId) (rooms : List GossipRoom) (ctx : BalancerContext) :
    Option BalancerTask :=
  match ctx.monoliths.lookup id with
  | none => none
  | some monolith =>
      let toRemove := monolith.rooms.keys.filter fun room =>
        !rooms.any fun report => decide (report.room.name = room)
      some (.gossip id (rooms.map .sync ++ toRemove.map .remove))

/-- The tables and the operations in progress. -/
structure BalancerState where
  ctx : BalancerContext := {}
  tasks : List BalancerTask := []
deriving DecidableEq

/-- What the balancer can do next. -/
inductive BalancerLabel where
  | joinClient (selection : Selection) (client : NewClient)
  | leaveClient (id : ClientId)
  | joinMonolith (monolith : NewMonolith) (receiverOpen : Bool)
  | leaveMonolith (id : MonolithId)
  | loaded (monolith : MonolithId) (report : GossipRoom)
  | unloaded (monolith : MonolithId) (room : RoomName)
  | gossip (monolith : MonolithId) (rooms : List GossipRoom)
  | resume (index : Nat) (result : SendResult)

namespace BalancerState

/-- Run a section that leaves at most one task. -/
def spawn (state : BalancerState) (section' : BalancerM (Option BalancerTask)) : BalancerState :=
  let ctx := section'.after state.ctx
  match section'.outcome state.ctx with
  | .ok (some task) => ⟨ctx, task :: state.tasks⟩
  | _ => ⟨ctx, state.tasks⟩

/-- Run the next section of a task, which leaves the rest of it. -/
def runTask (task : BalancerTask) (result : SendResult) : BalancerM (Option BalancerTask) :=
  match task with
  | .join client monolith created => do
      finishJoin client monolith created result
      return none
  | .leave monolith => do
      finishLeave monolith result
      return none
  | .gossip monolith (.sync report :: rest) =>
      tryCatch (do
          addOrSyncRoomCtx report monolith
          return some (.gossip monolith rest))
        fun _ => return some (.gossip monolith (.remove report.room.name :: rest))
  | .gossip monolith (.remove room :: rest) =>
      tryCatch (do
          BalancerContext.removeRoom room monolith
          return some (.gossip monolith rest))
        fun _ => return some (.gossip monolith rest)
  | .gossip _ [] => return none

/-- The state after a step. -/
def next (label : BalancerLabel) (state : BalancerState) : BalancerState :=
  match label with
  | .joinClient selection client => state.spawn (some <$> Balancer.joinClient selection client)
  | .leaveClient id => state.spawn (Balancer.leaveClient id)
  | .joinMonolith monolith receiverOpen =>
      ⟨(Balancer.joinMonolith monolith receiverOpen).after state.ctx, state.tasks⟩
  | .leaveMonolith id => ⟨(Balancer.leaveMonolith id).after state.ctx, state.tasks⟩
  | .loaded monolith report => ⟨(addOrSyncRoomCtx report monolith).after state.ctx, state.tasks⟩
  | .unloaded monolith room =>
      ⟨(BalancerContext.removeRoom room monolith).after state.ctx, state.tasks⟩
  | .gossip monolith rooms =>
      ⟨state.ctx, (Balancer.gossip monolith rooms state.ctx).toList ++ state.tasks⟩
  | .resume index result =>
      match state.tasks[index]? with
      | none => state
      | some task => { state with tasks := state.tasks.eraseIdx index }.spawn (runTask task result)

end BalancerState

/-- Every run of a balancer that starts without monoliths. -/
def balancerSystem : TransitionSystem BalancerState BalancerLabel where
  Initial state := state = {}
  Step before label after := after = before.next label

end OpenTogetherTube.Balancer
