import OpenTogetherTube.Balancer.StaleGossip

/-!
# The oldest load of a room wins

Monoliths announce that they have loaded a room, each with the epoch of its load, by `Loaded` or
in a gossip. `add_or_sync_room_ctx` compares the epochs of two monoliths that both have the room,
locates it on the older load and sends `B2MUnload` to the other one, after it has released the
lock. Whatever the order of the announcements, of the sections of the gossips and of the sends,
the room ends on the oldest load and every other monolith is told to unload it. `findConflict` is
the section with what it leaves to send; `addOrSyncRoomCtx_eq` ties it to `addOrSyncRoomCtx`.
-/

namespace OpenTogetherTube.Balancer

open Lib Lib.Handler Lib.TransitionSystem

/-- `ConflictAction`: who is sent `B2MUnload` after the section. -/
inductive ConflictAction where
  | reject (handle : MonolithId)
  | replace (handle : MonolithId)
deriving DecidableEq

/-- The monolith the action sends to. -/
def ConflictAction.handle : ConflictAction → MonolithId
  | .reject handle => handle
  | .replace handle => handle

/-- The section of `add_or_sync_room_ctx` with the conflict it finds. -/
def findConflict (report : GossipRoom) (id : MonolithId) : BalancerM (Option ConflictAction) := do
  let ctx ← get
  match ctx.roomsToMonoliths.lookup report.room.name with
  | some locator =>
      if locator.monolithId ≠ id then
        match compare locator.loadEpoch report.loadEpoch with
        | .lt =>
            if id ∈ ctx.monoliths then return some (.reject id) else throw .monolithNotFound
        | .gt =>
            if locator.monolithId ∈ ctx.monoliths then
              BalancerContext.removeRoom report.room.name locator.monolithId
              recordRoom report id
              return some (.replace locator.monolithId)
            else throw .monolithNotFound
        | .eq => throw .roomAlreadyLoaded
      else
        recordRoom report id
        return none
  | none =>
      recordRoom report id
      return none

/-- What follows the section once its send has succeeded: a report that is rejected is an error. -/
def settleConflict (conflict : Option ConflictAction) : BalancerM Unit :=
  match conflict with
  | some (.reject _) => throw .roomAlreadyLoaded
  | some (.replace _) => return ()
  | none => return ()

/-- The section is the one the balancer takes. -/
theorem addOrSyncRoomCtx_eq (report : GossipRoom) (id : MonolithId) :
    addOrSyncRoomCtx report id = findConflict report id >>= settleConflict := by
  have recorded : ∀ conflict, settleConflict conflict = pure () →
      (recordRoom report id >>= fun _ => pure conflict >>= settleConflict) =
        recordRoom report id := by
    intro conflict settled
    simp only [pure_bind, settled]
    exact bind_pure_unit
  unfold addOrSyncRoomCtx findConflict
  rw [bind_assoc]
  congr 1
  funext ctx
  cases ctx.roomsToMonoliths.lookup report.room.name with
  | none =>
      dsimp only
      rw [bind_assoc, recorded none rfl]
  | some locator =>
      dsimp only
      split
      · cases compare locator.loadEpoch report.loadEpoch with
        | lt =>
            dsimp only
            split <;> rfl
        | gt =>
            dsimp only
            split
            · rw [bind_assoc]
              congr 1
              funext _
              rw [bind_assoc, recorded (some (.replace locator.monolithId)) rfl]
            · rfl
        | eq => rfl
      · rw [bind_assoc, recorded none rfl]

/-- A placeholder of the room is on a connected monolith. -/
def Served (room : RoomName) (ctx : BalancerContext) : Prop :=
  ∀ found ∈ ctx.roomsToMonoliths.lookup room, found.loadEpoch = 0xffffffff →
    found.monolithId ∈ ctx.monoliths

instance (room : RoomName) (ctx : BalancerContext) : Decidable (Served room ctx) :=
  inferInstanceAs (Decidable (∀ found ∈ ctx.roomsToMonoliths.lookup room, _))

/-- The monoliths that announce a room, with the epochs of their loads. No load has the epoch of a
placeholder, and no two have the same. -/
structure Announcers where
  nodes : List MonolithId
  epochOf : MonolithId → UInt32
  below : ∀ id ∈ nodes, epochOf id < 0xffffffff
  distinct : ∀ id ∈ nodes, ∀ other ∈ nodes, epochOf id = epochOf other → id = other

/-- What concerns the room. -/
inductive LoadEvent where
  /-- A `Loaded` for the room or a gossip that lists it has arrived. -/
  | announced (monolith : MonolithId)
  /-- A `B2MUnload` for the room has been sent. -/
  | unloadSent (monolith : MonolithId)
deriving DecidableEq

/-- The balancer, the monoliths a `B2MUnload` for the room is being sent to, and what happened,
newest first. -/
structure LoadHistory where
  state : BalancerState := {}
  sending : List MonolithId := []
  log : List LoadEvent := []
deriving DecidableEq

/-- A message or a section of the balancer, or the end of a send. -/
inductive LoadLabel where
  | dispatch (label : BalancerLabel)
  | sent (index : Nat)

namespace LoadHistory

/-- The `B2MUnload` for the room that a report leads to. -/
def unloads (room : RoomName) (report : GossipRoom) (id : MonolithId) (ctx : BalancerContext) :
    List MonolithId :=
  if report.room.name = room then
    match (findConflict report id).outcome ctx with
    | .ok (some action) => [action.handle]
    | _ => []
  else []

/-- The `B2MUnload` for the room that a step begins to send. -/
def unloadsOf (room : RoomName) (state : BalancerState) : BalancerLabel → List MonolithId
  | .loaded id report => unloads room report id state.ctx
  | .resume index _ =>
      match state.tasks[index]? with
      | some (.gossip id (.sync report :: _)) => unloads room report id state.ctx
      | _ => []
  | _ => []

/-- The announcement that a message is. -/
def announcement : BalancerLabel → List LoadEvent
  | .loaded id _ => [.announced id]
  | .gossip id _ => [.announced id]
  | _ => []

/-- The state after a step. -/
def next (room : RoomName) (label : LoadLabel) (history : LoadHistory) : LoadHistory :=
  match label with
  | .dispatch label =>
      { state := history.state.next label
        sending := unloadsOf room history.state label ++ history.sending
        log := announcement label ++ history.log }
  | .sent index =>
      match history.sending[index]? with
      | none => history
      | some id =>
          { history with
            sending := history.sending.eraseIdx index
            log := .unloadSent id :: history.log }

/-- The messages are announcements of the room by the monoliths, which are connected, and what
the balancer sends is sent. -/
def Announces (announcers : Announcers) (room : RoomName) (history : LoadHistory) :
    LoadLabel → Prop
  | .dispatch (.loaded id report) =>
      id ∈ announcers.nodes ∧ id ∈ history.state.ctx.monoliths ∧
        report.room.name = room ∧ report.loadEpoch = announcers.epochOf id
  | .dispatch (.gossip id rooms) =>
      id ∈ announcers.nodes ∧ id ∈ history.state.ctx.monoliths ∧
        (∃ report ∈ rooms, report.room.name = room) ∧
        ∀ report ∈ rooms, report.room.name = room → report.loadEpoch = announcers.epochOf id
  | .dispatch (.resume _ result) => result = .ok
  | .dispatch _ => False
  | .sent _ => True

instance (announcers : Announcers) (room : RoomName) (history : LoadHistory) :
    ∀ label, Decidable (history.Announces announcers room label)
  | .dispatch (.loaded _ _) => inferInstanceAs (Decidable (_ ∧ _))
  | .dispatch (.gossip _ _) => inferInstanceAs (Decidable (_ ∧ _))
  | .dispatch (.resume _ _) => inferInstanceAs (Decidable (_ = _))
  | .dispatch (.joinClient _ _) => .isFalse id
  | .dispatch (.leaveClient _) => .isFalse id
  | .dispatch (.joinMonolith _ _) => .isFalse id
  | .dispatch (.leaveMonolith _) => .isFalse id
  | .dispatch (.unloaded _ _) => .isFalse id
  | .sent _ => .isTrue trivial

/-- Before any announcement: no gossip is in progress, and the room is located nowhere or has the
placeholder of a join. -/
def Unannounced (room : RoomName) (history : LoadHistory) : Prop :=
  history.sending = [] ∧ history.log = [] ∧
    (∀ id work, .gossip id work ∉ history.state.tasks) ∧
    (∀ found ∈ history.state.ctx.roomsToMonoliths.lookup room, found.loadEpoch = 0xffffffff) ∧
    Served room history.state.ctx

/-- Every announcement has been dealt with and everything has been sent. -/
def Quiet (history : LoadHistory) : Prop :=
  history.sending = [] ∧ ∀ id work, .gossip id work ∉ history.state.tasks

/-- The monolith was sent `B2MUnload`, and has announced nothing after that. -/
def ToldSince (id : MonolithId) (log : List LoadEvent) : Prop :=
  ∃ later earlier, log = later ++ .unloadSent id :: earlier ∧ .announced id ∉ later

end LoadHistory

/-- Every run of a balancer that hears about the room. -/
def loadSystem (announcers : Announcers) (room : RoomName) :
    TransitionSystem LoadHistory LoadLabel where
  Initial history := history.Unannounced room
  Step before label after := before.Announces announcers room label ∧ after = before.next room label

/-- A section that disconnects no monolith. -/
def KeepsConnected (before after : BalancerContext) : Prop :=
  ∀ id, id ∈ before.monoliths → id ∈ after.monoliths

instance : IsPreorder BalancerContext KeepsConnected where
  refl _ _ there := there
  trans _ _ _ first second id there := second id (first id there)

section Sections

variable (ctx : BalancerContext) {room : RoomName} {id : MonolithId} {report : GossipRoom}

theorem removeRoom_connected (other : RoomName) (sender : MonolithId) :
    Keeps KeepsConnected (BalancerContext.removeRoom other sender) ctx := by
  cases found : ctx.monoliths.lookup sender with
  | none =>
      unfold BalancerContext.removeRoom Keeps
      rw [after_get_bind, found]
      exact refl ctx
  | some monolith =>
      have known : sender ∈ ctx.monoliths := AList.lookup_isSome.mp (found ▸ rfl)
      exact fun id => ((removeRoom_of_known ctx known other).2 id).mpr

theorem recordRoom_connected (report : GossipRoom) (sender : MonolithId) :
    Keeps KeepsConnected (recordRoom report sender) ctx := by
  unfold recordRoom
  refine Keeps.modify_bind (fun _ there => there) (Keeps.get_bind ?_)
  split
  · exact Keeps.throw _ _
  · exact fun _ there => (AList.mem_insert _).mpr (Or.inr there)

theorem addOrSyncRoomCtx_connected (report : GossipRoom) (sender : MonolithId) :
    Keeps KeepsConnected (addOrSyncRoomCtx report sender) ctx := by
  unfold addOrSyncRoomCtx
  refine Keeps.get_bind ?_
  split
  · refine Keeps.ite (fun _ => ?_) fun _ => recordRoom_connected ctx report sender
    split
    · exact Keeps.ite (fun _ => Keeps.throw _ _) fun _ => Keeps.throw _ _
    · refine Keeps.ite (fun _ => ?_) fun _ => Keeps.throw _ _
      exact Keeps.bind (removeRoom_connected ctx _ _) fun _ _ => recordRoom_connected _ report sender
    · exact Keeps.throw _ _
  · exact recordRoom_connected ctx report sender

/-- A report of a room that is nowhere else is taken in and unloads nothing. -/
theorem report_here
    (here : ∀ locator ∈ ctx.roomsToMonoliths.lookup report.room.name, locator.monolithId = id) :
    (addOrSyncRoomCtx report id).after ctx = (recordRoom report id).after ctx ∧
      LoadHistory.unloads room report id ctx = [] := by
  have nothing : ∀ recorded : BalancerM Unit,
      (match (do recorded; return none : BalancerM (Option ConflictAction)).outcome ctx with
        | .ok (some action) => [action.handle]
        | _ => []) = ([] : List MonolithId) := by
    intro recorded
    rw [outcome_bind]
    cases recorded.outcome ctx <;> rfl
  unfold LoadHistory.unloads addOrSyncRoomCtx findConflict
  rw [after_get_bind, outcome_get_bind]
  cases read : ctx.roomsToMonoliths.lookup report.room.name with
  | none => exact ⟨rfl, by split; exacts [nothing _, rfl]⟩
  | some locator =>
      dsimp only
      rw [if_neg (not_not.mpr (here locator read)), if_neg (not_not.mpr (here locator read))]
      exact ⟨rfl, by split; exacts [nothing _, rfl]⟩

/-- A report of an older load displaces the room, which is unloaded where it was. -/
theorem report_older {locator : RoomLocator}
    (read : ctx.roomsToMonoliths.lookup report.room.name = some locator)
    (elsewhere : locator.monolithId ≠ id) (older : report.loadEpoch < locator.loadEpoch)
    (there : locator.monolithId ∈ ctx.monoliths) (known : id ∈ ctx.monoliths) :
    (addOrSyncRoomCtx report id).after ctx = (recordRoom report id).after
        ((BalancerContext.removeRoom report.room.name locator.monolithId).after ctx) ∧
      LoadHistory.unloads report.room.name report id ctx = [locator.monolithId] := by
  have order : compare locator.loadEpoch report.loadEpoch = .gt := Std.compare_eq_gt.mpr older
  obtain ⟨removed, entries⟩ := removeRoom_of_known ctx there report.room.name
  have recorded := recordRoom_ok _ report ((entries id).mpr known)
  unfold LoadHistory.unloads addOrSyncRoomCtx findConflict
  rw [after_get_bind, outcome_get_bind, read]
  dsimp only
  rw [if_pos elsewhere, if_pos elsewhere, order]
  dsimp only
  rw [if_pos there, if_pos there, after_bind, removed, outcome_bind, removed]
  dsimp only
  rw [outcome_bind, recorded, if_pos rfl]
  exact ⟨rfl, rfl⟩

theorem report_newer {locator : RoomLocator}
    (read : ctx.roomsToMonoliths.lookup report.room.name = some locator)
    (elsewhere : locator.monolithId ≠ id) (newer : locator.loadEpoch < report.loadEpoch)
    (known : id ∈ ctx.monoliths) :
    (addOrSyncRoomCtx report id).after ctx = ctx ∧
      LoadHistory.unloads report.room.name report id ctx = [id] := by
  have order : compare locator.loadEpoch report.loadEpoch = .lt := Std.compare_eq_lt.mpr newer
  unfold LoadHistory.unloads addOrSyncRoomCtx findConflict
  rw [after_get_bind, outcome_get_bind, read]
  dsimp only
  rw [if_pos elsewhere, if_pos elsewhere, order]
  dsimp only
  rw [if_pos known, if_pos known, if_pos rfl]
  exact ⟨rfl, rfl⟩

theorem removeRoom_elsewhere
    (elsewhere : ∀ locator ∈ ctx.roomsToMonoliths.lookup room, locator.monolithId ≠ id) :
    ((BalancerContext.removeRoom room id).after ctx).roomsToMonoliths = ctx.roomsToMonoliths := by
  unfold BalancerContext.removeRoom
  rw [after_get_bind]
  cases ctx.monoliths.lookup id with
  | none => rfl
  | some monolith =>
      change (ctx.unlocate room id).roomsToMonoliths = _
      unfold BalancerContext.unlocate
      split
      · rename_i locator read
        rw [if_neg (elsewhere locator read)]
      · rfl

end Sections

/-- A section that keeps the placeholder of the room served. -/
def KeepsServed (room : RoomName) (before after : BalancerContext) : Prop :=
  Served room before → Served room after

instance (room : RoomName) : IsPreorder BalancerContext (KeepsServed room) where
  refl _ served := served
  trans _ _ _ first second served := second (first served)

section Served

variable (ctx : BalancerContext) (room : RoomName)

/-- A table of monoliths that grows. -/
theorem setMonolith_served (id : MonolithId) (monolith : BalancerMonolith) :
    KeepsServed room ctx (ctx.setMonolith id monolith) :=
  fun served found read placeholder =>
    (AList.mem_insert _).mpr (Or.inr (served found read placeholder))

theorem unlocate_served (other : RoomName) (id : MonolithId) :
    KeepsServed room ctx (ctx.unlocate other id) := by
  unfold BalancerContext.unlocate
  split
  · split
    · intro served found read placeholder
      exact served found (Table.lookup_erase_cases read).2 placeholder
    · exact refl ctx
  · exact refl ctx

theorem removeRoom_served (other : RoomName) (id : MonolithId) :
    Keeps (KeepsServed room) (BalancerContext.removeRoom other id) ctx := by
  unfold BalancerContext.removeRoom
  refine Keeps.get_bind ?_
  split
  · exact Keeps.throw _ _
  · refine Keeps.modify_bind (unlocate_served ctx room other id) ?_
    exact setMonolith_served _ room id _

theorem removeMonolith_served (id : MonolithId) : KeepsServed room ctx (ctx.removeMonolith id) := by
  intro served found read placeholder
  obtain ⟨before, elsewhere⟩ := Table.lookup_retain.mp read
  exact AList.mem_erase.mpr ⟨of_decide_eq_true elsewhere, served found before placeholder⟩

/-- A report that is no placeholder. -/
theorem recordRoom_served {report : GossipRoom} (id : MonolithId)
    (real : report.room.name = room → report.loadEpoch ≠ 0xffffffff) :
    Keeps (KeepsServed room) (recordRoom report id) ctx := by
  have located : KeepsServed room ctx
      (ctx.locate report.room.name ⟨id, report.loadEpoch⟩) := by
    intro served found read placeholder
    rcases Table.lookup_insert_cases read with ⟨rfl, rfl⟩ | ⟨_, before⟩
    · exact absurd placeholder (real rfl)
    · exact served found before placeholder
  unfold recordRoom
  refine Keeps.modify_bind located (Keeps.get_bind ?_)
  split
  · exact Keeps.throw _ _
  · exact setMonolith_served _ room id _

theorem addOrSyncRoomCtx_served {report : GossipRoom} (id : MonolithId)
    (real : report.room.name = room → report.loadEpoch ≠ 0xffffffff) :
    Keeps (KeepsServed room) (addOrSyncRoomCtx report id) ctx := by
  unfold addOrSyncRoomCtx
  refine Keeps.get_bind ?_
  split
  · refine Keeps.ite (fun _ => ?_) fun _ => recordRoom_served ctx room id real
    split
    · exact Keeps.ite (fun _ => Keeps.throw _ _) fun _ => Keeps.throw _ _
    · refine Keeps.ite (fun _ => ?_) fun _ => Keeps.throw _ _
      exact Keeps.bind (removeRoom_served ctx room _ _) fun _ _ => recordRoom_served _ room id real
    · exact Keeps.throw _ _
  · exact recordRoom_served ctx room id real

/-- A placeholder is written for a monolith that is there. -/
theorem addRoom_served (other : RoomName) (locator : RoomLocator) :
    Keeps (KeepsServed room) (BalancerContext.addRoom other locator) ctx := by
  unfold BalancerContext.addRoom
  refine Keeps.get_bind ?_
  split
  · exact Keeps.throw _ _
  · rename_i monolith known
    have there : locator.monolithId ∈ ctx.monoliths := AList.lookup_isSome.mp (known ▸ rfl)
    have located : KeepsServed room ctx (ctx.locate other locator) := by
      intro served found read placeholder
      rcases Table.lookup_insert_cases read with ⟨_, rfl⟩ | ⟨_, before⟩
      · exact there
      · exact served found before placeholder
    refine Keeps.modify_bind located ?_
    split
    · exact Keeps.throw _ _
    · exact setMonolith_served _ room _ _

theorem joinClient_served (selection : Selection) (client : NewClient) :
    Keeps (KeepsServed room) (joinClient selection client) ctx := by
  unfold joinClient
  refine Keeps.get_bind ?_
  split
  · split
    · exact Keeps.throw _ _
    · split
      · exact Keeps.throw _ _
      · exact Keeps.pure _ _
  · split
    · exact Keeps.throw _ _
    · refine Keeps.bind (addRoom_served ctx room _ _) fun _ _ => Keeps.get_bind ?_
      split
      · exact Keeps.throw _ _
      · exact Keeps.pure _ _

theorem finishJoin_served (client : NewClient) (id : MonolithId) (created : Bool)
    (result : SendResult) : Keeps (KeepsServed room) (finishJoin client id created result) ctx := by
  have undone : ∀ ctx : BalancerContext, Keeps (KeepsServed room)
      (tryCatch (BalancerContext.removeRoom client.room id) fun _ => pure ()) ctx := fun ctx =>
    Keeps.tryCatch (removeRoom_served ctx room _ _) fun _ _ => Keeps.pure _ _
  unfold finishJoin
  cases result with
  | ok =>
      refine Keeps.get_bind ?_
      split
      · exact Keeps.throw _ _
      · exact Keeps.modify_bind (setMonolith_served ctx room id _) fun served => served
  | timeout =>
      cases created with
      | false => exact removeMonolith_served ctx room id
      | true => exact Keeps.bind (undone ctx) fun _ _ => removeMonolith_served _ room id
  | otherError =>
      cases created with
      | false => exact Keeps.throw _ _
      | true => exact Keeps.bind (undone ctx) fun _ _ => Keeps.throw _ _

theorem leaveClient_served (id : ClientId) :
    Keeps (KeepsServed room) (leaveClient id) ctx := by
  unfold leaveClient
  refine Keeps.get_bind ?_
  split
  · exact Keeps.throw _ _
  · refine Keeps.modify_bind (fun served => served) ?_
    split
    · exact Keeps.pure _ _
    · split
      · exact Keeps.pure _ _
      · exact setMonolith_served _ room _ _

end Served

/-- The rest of a gossip reports the room with the epoch of a load. -/
def BalancerTask.Real (room : RoomName) : BalancerTask → Prop
  | .gossip _ work => ∀ report, .sync report ∈ work → report.room.name = room →
      report.loadEpoch ≠ 0xffffffff
  | _ => True

namespace BalancerState

variable {room : RoomName} {state : BalancerState}

/-- A monolith that reports the room does so with the epoch of a load. -/
def Real (room : RoomName) (_ : BalancerState) : BalancerLabel → Prop
  | .loaded _ report => report.room.name = room → report.loadEpoch ≠ 0xffffffff
  | .gossip _ rooms => ∀ report ∈ rooms, report.room.name = room → report.loadEpoch ≠ 0xffffffff
  | _ => True

/-- A section keeps the placeholder served and leaves a task with real reports. -/
theorem spawn_served (served : Served room state.ctx)
    (real : ∀ task ∈ state.tasks, task.Real room) {section' : BalancerM (Option BalancerTask)}
    (kept : Keeps (KeepsServed room) section' state.ctx)
    (left : ∀ task, section'.outcome state.ctx = .ok (some task) → task.Real room) :
    Served room (state.spawn section').ctx ∧
      ∀ task ∈ (state.spawn section').tasks, task.Real room := by
  refine ⟨spawn_ctx state section' ▸ kept served, ?_⟩
  unfold spawn
  dsimp only
  split
  · rename_i task returned
    rintro other (_ | ⟨_, member⟩)
    · exact left task returned
    · exact real other member
  · exact real

/-- A task that goes on keeps the placeholder served, and what is left of it is real. -/
theorem runTask_served {ctx : BalancerContext} {task : BalancerTask} (real : task.Real room)
    (result : SendResult) :
    Keeps (KeepsServed room) (runTask task result) ctx ∧
      ∀ rest, (runTask task result).outcome ctx = .ok (some rest) → rest.Real room := by
  cases task with
  | join client id created =>
      refine ⟨Keeps.bind (finishJoin_served ctx room client id created result)
        fun _ _ => Keeps.pure _ _, fun rest returned => ?_⟩
      unfold runTask at returned
      rw [outcome_bind] at returned
      cases ended : (finishJoin client id created result).outcome ctx with
      | ok _ => rw [ended] at returned; cases returned
      | error _ => rw [ended] at returned; cases returned
  | leave id =>
      cases result with
      | ok => exact ⟨refl _, fun rest => by rintro ⟨⟩⟩
      | timeout => exact ⟨removeMonolith_served ctx room id, fun rest => by rintro ⟨⟩⟩
      | otherError => exact ⟨refl _, fun rest => by rintro ⟨⟩⟩
  | gossip id work =>
      cases work with
      | nil => exact ⟨refl _, fun rest => by rintro ⟨⟩⟩
      | cons item work =>
          have later : BalancerTask.Real room (.gossip id work) :=
            fun report member => real report (List.mem_cons_of_mem _ member)
          cases item with
          | sync report =>
              obtain ⟨after, outcome⟩ := runTask_sync report id work result ctx
              have kept := addOrSyncRoomCtx_served ctx room id (real report List.mem_cons_self)
              refine ⟨?_, fun rest returned => ?_⟩
              · unfold Keeps
                rw [after]
                exact kept
              · rw [outcome] at returned
                cases ended : (addOrSyncRoomCtx report id).outcome ctx with
                | ok _ =>
                    rw [ended] at returned
                    cases returned
                    exact later
                | error _ =>
                    rw [ended] at returned
                    cases returned
                    rintro other (_ | ⟨_, member⟩)
                    exact later other member
          | remove other =>
              obtain ⟨after, outcome⟩ := runTask_remove other id work result ctx
              refine ⟨?_, fun rest returned => ?_⟩
              · unfold Keeps
                rw [after]
                exact removeRoom_served ctx room other id
              · rw [outcome] at returned
                cases returned
                exact later

/-- In every run in which no load of the room has the epoch of a placeholder, the placeholder of
the room is on a connected monolith. -/
theorem placeholder_connected
    (reached : (balancerSystem.restrict (Real room)).Reachable state) :
    Served room state.ctx := by
  have invariant : TransitionSystem.Inductive (balancerSystem.restrict (Real room))
      fun state => Served room state.ctx ∧ ∀ task ∈ state.tasks, task.Real room := by
    refine ⟨?_, ?_⟩
    · rintro _ rfl
      exact ⟨by rintro _ ⟨⟩, fun _ member => absurd member List.not_mem_nil⟩
    · rintro before label _ ⟨served, tasks⟩ ⟨real, rfl⟩
      cases label with
      | joinClient selection client =>
          refine spawn_served served tasks ?_ fun task returned => ?_
          · rw [map_eq_pure_bind]
            exact Keeps.bind (joinClient_served _ room selection client) fun _ _ => Keeps.pure _ _
          · rw [map_eq_pure_bind, outcome_bind] at returned
            cases joined : (Balancer.joinClient selection client).outcome before.ctx with
            | error _ => rw [joined] at returned; cases returned
            | ok begun =>
                rw [joined] at returned
                cases returned
                obtain ⟨_, _, rfl⟩ := joinClient_task joined
                trivial
      | leaveClient client =>
          refine spawn_served served tasks (leaveClient_served _ room client) fun task returned => ?_
          obtain ⟨_, rfl⟩ := leaveClient_task returned
          trivial
      | joinMonolith monolith receiverOpen =>
          cases receiverOpen with
          | true => exact ⟨setMonolith_served _ room _ _ served, tasks⟩
          | false => exact ⟨served, tasks⟩
      | leaveMonolith id => exact ⟨removeMonolith_served _ room id served, tasks⟩
      | loaded id report => exact ⟨addOrSyncRoomCtx_served _ room id real served, tasks⟩
      | unloaded id other => exact ⟨removeRoom_served _ room other id served, tasks⟩
      | gossip id rooms =>
          refine ⟨served, fun task member => ?_⟩
          rcases List.mem_append.mp member with begun | member
          · obtain ⟨_, work, _, rfl, syncs, _⟩ := gossip_work (Option.mem_toList.mp begun)
            exact fun report listed => real report ((syncs report).mp listed)
          · exact tasks task member
      | resume index result =>
          cases found : before.tasks[index]? with
          | none =>
              rw [next_resume_none found]
              exact ⟨served, tasks⟩
          | some task =>
              have going := tasks task (List.mem_of_getElem? found)
              obtain ⟨kept, left⟩ := @runTask_served room before.ctx task going result
              rw [next_resume found]
              exact @spawn_served room { before with tasks := before.tasks.eraseIdx index }
                served (fun other member => tasks other (List.mem_of_mem_eraseIdx member)) _ kept left
  exact (invariant.of_reachable reached).1

end BalancerState

namespace LoadHistory

variable {announcers : Announcers} {room : RoomName} {id : MonolithId}

/-- Where the room is, if anywhere. -/
def locator (room : RoomName) (ctx : BalancerContext) : Option RoomLocator :=
  ctx.roomsToMonoliths.lookup room

/-- The monolith was told to unload the room, or is being told. -/
def Told (id : MonolithId) (sending : List MonolithId) (log : List LoadEvent) : Prop :=
  id ∈ sending ∨ ToldSince id log

/-- The last announcement of the monolith has been dealt with: the room is on it, or on an older
load and the monolith is told. -/
def Settled (announcers : Announcers) (room : RoomName) (id : MonolithId) (ctx : BalancerContext)
    (sending : List MonolithId) (log : List LoadEvent) : Prop :=
  locator room ctx = some ⟨id, announcers.epochOf id⟩ ∨
    ∃ found ∈ locator room ctx, found.loadEpoch < announcers.epochOf id ∧ Told id sending log

/-- An announcement of the monolith is still to be dealt with. -/
def Pending (room : RoomName) (id : MonolithId) (tasks : List BalancerTask) : Prop :=
  ∃ work, .gossip id work ∈ tasks ∧ ∃ report, .sync report ∈ work ∧ report.room.name = room

/-- The room is nowhere, or has a placeholder on a connected monolith, or is on a load that was
announced. -/
def Placed (announcers : Announcers) (room : RoomName) (ctx : BalancerContext)
    (log : List LoadEvent) : Prop :=
  ∀ found ∈ locator room ctx, found.monolithId ∈ ctx.monoliths ∧
    (found.loadEpoch = 0xffffffff ∨
      found.loadEpoch = announcers.epochOf found.monolithId ∧ .announced found.monolithId ∈ log)

/-- What holds while the announcements of the room are being dealt with. -/
structure Racing (announcers : Announcers) (room : RoomName) (history : LoadHistory) : Prop where
  announcer : ∀ id, .announced id ∈ history.log →
    id ∈ announcers.nodes ∧ id ∈ history.state.ctx.monoliths
  placed : Placed announcers room history.state.ctx history.log
  syncs : ∀ id work, .gossip id work ∈ history.state.tasks →
    .announced id ∈ history.log ∧ ∀ report, .sync report ∈ work → report.room.name = room →
      report.loadEpoch = announcers.epochOf id
  removes : ∀ id work, .gossip id work ∈ history.state.tasks → .remove room ∈ work →
    ∃ found ∈ locator room history.state.ctx, found.loadEpoch < announcers.epochOf id
  settled : ∀ id, .announced id ∈ history.log →
    Pending room id history.state.tasks ∨
      Settled announcers room id history.state.ctx history.sending history.log

theorem placeholder_not_lt (epoch : UInt32) : ¬ (0xffffffff : UInt32) < epoch := by
  intro less
  have bound := epoch.toNat_lt
  rw [UInt32.lt_iff_toNat_lt] at less
  change 4294967295 < epoch.toNat at less
  omega

section Report

variable {ctx : BalancerContext} {log : List LoadEvent} {report : GossipRoom}

/-- What a report does to the room: it is taken in, it displaces a newer load or a placeholder, or
it is turned away for an older one. -/
inductive Dealt (announcers : Announcers) (room : RoomName) (id : MonolithId)
    (before after : BalancerContext) : List MonolithId → Prop where
  | here (nowhere : ∀ found ∈ locator room before, found.monolithId = id)
      (placed : locator room after = some ⟨id, announcers.epochOf id⟩) :
      Dealt announcers room id before after []
  | older {found : RoomLocator} (read : locator room before = some found)
      (less : announcers.epochOf id < found.loadEpoch)
      (placed : locator room after = some ⟨id, announcers.epochOf id⟩) :
      Dealt announcers room id before after [found.monolithId]
  | newer {found : RoomLocator} (read : locator room before = some found)
      (less : found.loadEpoch < announcers.epochOf id) (same : after = before) :
      Dealt announcers room id before after [id]

theorem dealt (placed : Placed announcers room ctx log)
    (nodes : ∀ other, .announced other ∈ log → other ∈ announcers.nodes)
    (node : id ∈ announcers.nodes) (known : id ∈ ctx.monoliths) (about : report.room.name = room)
    (epoch : report.loadEpoch = announcers.epochOf id) :
    Dealt announcers room id ctx ((addOrSyncRoomCtx report id).after ctx)
      (unloads room report id ctx) := by
  subst about
  by_cases here : ∀ found ∈ locator report.room.name ctx, found.monolithId = id
  · obtain ⟨after, nothing⟩ := @report_here ctx report.room.name id report here
    rw [nothing]
    refine .here here ?_
    unfold locator
    rw [after, recordRoom_lookup, if_pos rfl, epoch]
  · push Not at here
    obtain ⟨found, read, elsewhere⟩ := here
    obtain ⟨there, loaded⟩ := placed found read
    have different : found.loadEpoch ≠ announcers.epochOf id := by
      intro same
      rcases loaded with placeholder | ⟨own, announced⟩
      · have below := announcers.below id node
        rw [← same, placeholder] at below
        exact UInt32.lt_irrefl _ below
      · exact elsewhere (announcers.distinct _ (nodes _ announced) id node (own.symm.trans same))
    rcases UInt32.lt_or_lt_of_ne different with newer | older
    · obtain ⟨after, told⟩ := report_newer ctx read elsewhere (epoch ▸ newer) known
      rw [told]
      exact .newer read newer after
    · obtain ⟨after, told⟩ := report_older ctx read elsewhere (epoch ▸ older) there known
      rw [told]
      refine .older read older ?_
      unfold locator
      rw [after, recordRoom_lookup, if_pos rfl, epoch]

variable {after : BalancerContext} {told sending : List MonolithId}

variable (step : Dealt announcers room id ctx after told)

include step

theorem Dealt.descends
    (placed : Placed announcers room ctx log) {bound : UInt32}
    (less : ∃ found ∈ locator room ctx, found.loadEpoch < bound) :
    ∃ found ∈ locator room after, found.loadEpoch < bound := by
  obtain ⟨found, read, lower⟩ := less
  cases step with
  | here nowhere written =>
      refine ⟨_, written, ?_⟩
      rcases (placed found read).2 with placeholder | ⟨own, _⟩
      · exact absurd (placeholder ▸ lower) (placeholder_not_lt bound)
      · rw [nowhere found read] at own
        exact own ▸ lower
  | older same less written =>
      cases same.symm.trans read
      exact ⟨_, written, UInt32.lt_trans less lower⟩
  | newer _ _ same => exact ⟨found, same ▸ read, lower⟩

theorem Dealt.placed
    (placed : Placed announcers room ctx log) (announced : .announced id ∈ log)
    (known : id ∈ after.monoliths) : Placed announcers room after log := by
  have written : locator room after = some ⟨id, announcers.epochOf id⟩ →
      Placed announcers room after log := by
    intro written found read
    cases written.symm.trans read
    exact ⟨known, Or.inr ⟨rfl, announced⟩⟩
  cases step with
  | here _ now => exact written now
  | older _ _ now => exact written now
  | newer _ _ same => exact same ▸ placed

/-- The report settles the monolith it is of. -/
theorem Dealt.settles :
    Settled announcers room id after (told ++ sending) log := by
  cases step with
  | here _ written => exact Or.inl written
  | older _ _ written => exact Or.inl written
  | newer read less same =>
      exact Or.inr ⟨_, same ▸ read, less, Or.inl (List.mem_append_left _ List.mem_cons_self)⟩

/-- A report is turned away only for an older load. -/
theorem Dealt.refused
    (placed : Placed announcers room ctx log) (known : id ∈ ctx.monoliths)
    (about : report.room.name = room) (epoch : report.loadEpoch = announcers.epochOf id)
    (failed : (addOrSyncRoomCtx report id).outcome ctx ≠ .ok ()) :
    ∃ found ∈ locator room after, found.loadEpoch < announcers.epochOf id := by
  subst about
  cases step with
  | here nowhere _ =>
      exact absurd (addOrSyncRoomCtx_ok ctx ⟨known, fun found read => Or.inl (nowhere found read)⟩)
        failed
  | older read less _ =>
      refine absurd (addOrSyncRoomCtx_ok ctx ⟨known, fun found same => Or.inr ?_⟩) failed
      cases read.symm.trans same
      exact ⟨epoch ▸ less, (placed _ read).1⟩
  | newer read less same => exact ⟨_, same ▸ read, less⟩

/-- A monolith that is settled stays so when the report of another one is dealt with. -/
theorem Dealt.keeps
    (placed : Placed announcers room ctx log) {other : MonolithId}
    (settled : Settled announcers room other ctx sending log) :
    Settled announcers room other after (told ++ sending) log := by
  have more : ∀ {id}, Told id sending log → Told id (told ++ sending) log :=
    fun known => known.imp_left (List.mem_append_right _)
  rcases settled with home | ⟨found, read, lower, known⟩
  · cases step with
    | here nowhere written =>
        have same := nowhere _ home
        dsimp only at same
        exact Or.inl (same ▸ written)
    | older same less written =>
        cases same.symm.trans home
        refine Or.inr ⟨_, written, less, Or.inl ?_⟩
        exact List.mem_append_left _ List.mem_cons_self
    | newer _ _ same => exact Or.inl (same ▸ home)
  · obtain ⟨now, there, less⟩ := step.descends placed ⟨found, read, lower⟩
    exact Or.inr ⟨now, there, less, more known⟩

end Report

section Log

variable {log : List LoadEvent} {sending : List MonolithId} {other : MonolithId}

theorem ToldSince.cons (told : ToldSince id log) {event : LoadEvent}
    (unrelated : event ≠ .announced id) : ToldSince id (event :: log) := by
  obtain ⟨later, earlier, rfl, quiet⟩ := told
  refine ⟨event :: later, earlier, rfl, ?_⟩
  rintro (_ | ⟨_, member⟩)
  · exact unrelated rfl
  · exact quiet member

theorem Told.cons (told : Told id sending log) {event : LoadEvent}
    (unrelated : event ≠ .announced id) : Told id sending (event :: log) :=
  told.imp_right fun since => since.cons unrelated

theorem Settled.mono {ctx after : BalancerContext} {sends : List MonolithId}
    {events : List LoadEvent} (settled : Settled announcers room id ctx sending log)
    (same : locator room after = locator room ctx)
    (more : Told id sending log → Told id sends events) :
    Settled announcers room id after sends events := by
  unfold Settled
  rw [same]
  exact settled.imp_right fun ⟨found, read, less, told⟩ => ⟨found, read, less, more told⟩

end Log

namespace Racing

variable {history : LoadHistory} {ctx : BalancerContext} {tasks : List BalancerTask}

variable (racing : Racing announcers room history)

include racing

/-- A send that ends. -/
theorem sent (index : Nat) :
    Racing announcers room (history.next room (.sent index)) := by
  unfold next
  dsimp only
  split
  · exact racing
  · rename_i told found
    have announced : ∀ {id}, .announced id ∈ .unloadSent told :: history.log →
        .announced id ∈ history.log := by
      rintro id (_ | ⟨_, member⟩)
      exact member
    refine ⟨fun id member => racing.announcer id (announced member), ?_, ?_, racing.removes, ?_⟩
    · intro locator read
      obtain ⟨there, loaded⟩ := racing.placed locator read
      exact ⟨there, loaded.imp_right fun ⟨own, member⟩ => ⟨own, List.mem_cons_of_mem _ member⟩⟩
    · intro id work member
      obtain ⟨begun, epochs⟩ := racing.syncs id work member
      exact ⟨List.mem_cons_of_mem _ begun, epochs⟩
    · intro id member
      refine (racing.settled id (announced member)).imp_right fun settled => ?_
      refine settled.mono rfl fun known => ?_
      rcases known with sending | since
      · rcases mem_or_eraseIdx found sending with rfl | still
        · exact Or.inr ⟨[], history.log, rfl, List.not_mem_nil⟩
        · exact Or.inl still
      · exact Or.inr (since.cons (by rintro ⟨⟩))

/-- A section that leaves the room where it is and begins nothing about it. -/
theorem quiet
    (connected : KeepsConnected history.state.ctx ctx)
    (same : locator room ctx = locator room history.state.ctx)
    (fewer : ∀ id work, .gossip id work ∈ tasks → ∃ whole, .gossip id whole ∈ history.state.tasks ∧
      (∀ report, .sync report ∈ work → .sync report ∈ whole) ∧
      (.remove room ∈ work → .remove room ∈ whole))
    (pending : ∀ id, Pending room id history.state.tasks → Pending room id tasks) :
    Racing announcers room { history with state := ⟨ctx, tasks⟩ } where
  announcer id member := by
    obtain ⟨node, there⟩ := racing.announcer id member
    exact ⟨node, connected id there⟩
  placed found read := by
    obtain ⟨there, loaded⟩ := racing.placed found (same ▸ read)
    exact ⟨connected _ there, loaded⟩
  syncs id work member := by
    obtain ⟨whole, begun, syncs, _⟩ := fewer id work member
    obtain ⟨announced, epochs⟩ := racing.syncs id whole begun
    exact ⟨announced, fun report inside about => epochs report (syncs report inside) about⟩
  removes id work member drops := by
    obtain ⟨whole, begun, _, removes⟩ := fewer id work member
    change ∃ found ∈ locator room ctx, _
    rw [same]
    exact racing.removes id whole begun (removes drops)
  settled id member :=
    (racing.settled id member).imp (pending id) fun settled => settled.mono same fun told => told

/-- The monolith announces the room in a message that is dealt with at once. -/
theorem loaded {report : GossipRoom}
    (node : id ∈ announcers.nodes) (known : id ∈ history.state.ctx.monoliths)
    (about : report.room.name = room) (epoch : report.loadEpoch = announcers.epochOf id) :
    Racing announcers room (history.next room (.dispatch (.loaded id report))) := by
  have step := dealt racing.placed (fun other member => (racing.announcer other member).1) node
    known about epoch
  have connected := addOrSyncRoomCtx_connected history.state.ctx report id
  have placed : Placed announcers room history.state.ctx (.announced id :: history.log) :=
    fun found read => (racing.placed found read).imp_right fun loaded =>
      loaded.imp_right fun ⟨own, member⟩ => ⟨own, List.mem_cons_of_mem _ member⟩
  refine ⟨?_, step.placed placed List.mem_cons_self (connected id known), ?_, ?_, ?_⟩
  · rintro other (_ | ⟨_, member⟩)
    · exact ⟨node, connected id known⟩
    · obtain ⟨listed, there⟩ := racing.announcer other member
      exact ⟨listed, connected other there⟩
  · intro other work member
    obtain ⟨begun, epochs⟩ := racing.syncs other work member
    exact ⟨List.mem_cons_of_mem _ begun, epochs⟩
  · intro other work member drops
    exact step.descends placed (racing.removes other work member drops)
  · intro other member
    by_cases self : other = id
    · subst self
      exact Or.inr step.settles
    · have before : .announced other ∈ history.log := by
        rcases member with _ | ⟨_, member⟩
        · exact absurd rfl self
        · exact member
      refine (racing.settled other before).imp_right fun settled => ?_
      refine step.keeps placed (settled.mono rfl fun told => told.cons ?_)
      rintro ⟨⟩
      exact self rfl

theorem gossip {rooms : List GossipRoom}
    (node : id ∈ announcers.nodes) (known : id ∈ history.state.ctx.monoliths)
    (lists : ∃ report ∈ rooms, report.room.name = room)
    (epochs : ∀ report ∈ rooms, report.room.name = room →
      report.loadEpoch = announcers.epochOf id) :
    Racing announcers room (history.next room (.dispatch (.gossip id rooms))) := by
  obtain ⟨monolith, found⟩ := Option.isSome_iff_exists.mp (AList.lookup_isSome.mpr known)
  obtain ⟨task, begun⟩ : ∃ task, Balancer.gossip id rooms history.state.ctx = some task := by
    unfold Balancer.gossip
    rw [found]
    exact ⟨_, rfl⟩
  obtain ⟨_, work, _, rfl, syncs, removes⟩ := BalancerState.gossip_work begun
  have tasks : (history.next room (.dispatch (.gossip id rooms))).state.tasks =
      .gossip id work :: history.state.tasks := by
    change (Balancer.gossip id rooms history.state.ctx).toList ++ _ = _
    rw [begun]
    rfl
  refine ⟨?_, ?_, ?_, ?_, ?_⟩
  · rintro other (_ | ⟨_, member⟩)
    · exact ⟨node, known⟩
    · exact racing.announcer other member
  · exact fun found read => (racing.placed found read).imp_right fun loaded =>
      loaded.imp_right fun ⟨own, member⟩ => ⟨own, List.mem_cons_of_mem _ member⟩
  · intro other work member
    rw [tasks] at member
    rcases List.mem_cons.mp member with same | member
    · cases same
      exact ⟨List.mem_cons_self, fun report inside => epochs report ((syncs report).mp inside)⟩
    · obtain ⟨announced, right⟩ := racing.syncs other work member
      exact ⟨List.mem_cons_of_mem _ announced, right⟩
  · intro other work member drops
    rw [tasks] at member
    rcases List.mem_cons.mp member with same | member
    · cases same
      obtain ⟨report, listed, about⟩ := lists
      exact absurd about (((removes room).mp drops).2 report listed)
    · exact racing.removes other work member drops
  · intro other member
    rw [tasks]
    by_cases self : other = id
    · subst self
      obtain ⟨report, listed, about⟩ := lists
      exact Or.inl ⟨_, List.mem_cons_self, report, (syncs report).mpr listed, about⟩
    · have before : .announced other ∈ history.log := by
        rcases member with _ | ⟨_, member⟩
        · exact absurd rfl self
        · exact member
      rcases racing.settled other before with ⟨work, pending, rest⟩ | settled
      · exact Or.inl ⟨work, List.mem_cons_of_mem _ pending, rest⟩
      · refine Or.inr (settled.mono rfl fun told => told.cons ?_)
        rintro ⟨⟩
        exact self rfl

theorem report {index : Nat} {report : GossipRoom}
    {rest : List GossipWork} {result : SendResult}
    (found : history.state.tasks[index]? = some (.gossip id (.sync report :: rest)))
    (about : report.room.name = room) :
    Racing announcers room (history.next room (.dispatch (.resume index result))) := by
  have inside := List.mem_of_getElem? found
  obtain ⟨announced, epochs⟩ := racing.syncs id _ inside
  obtain ⟨node, known⟩ := racing.announcer id announced
  have step := dealt racing.placed (fun other member => (racing.announcer other member).1) node
    known about (epochs report List.mem_cons_self about)
  have connected := addOrSyncRoomCtx_connected history.state.ctx report id
  obtain ⟨after, outcome⟩ := BalancerState.runTask_sync report id rest result history.state.ctx
  have next : ∃ work, history.next room (.dispatch (.resume index result)) =
      { state := ⟨(addOrSyncRoomCtx report id).after history.state.ctx,
          .gossip id work :: history.state.tasks.eraseIdx index⟩
        sending := unloads room report id history.state.ctx ++ history.sending
        log := history.log } ∧
      (work = rest ∨ work = .remove report.room.name :: rest ∧
        (addOrSyncRoomCtx report id).outcome history.state.ctx ≠ .ok ()) := by
    unfold LoadHistory.next unloadsOf
    dsimp only
    rw [BalancerState.next_resume found, found]
    unfold BalancerState.spawn
    dsimp only
    rw [after, outcome]
    cases (addOrSyncRoomCtx report id).outcome history.state.ctx with
    | ok _ => exact ⟨rest, rfl, Or.inl rfl⟩
    | error _ => exact ⟨_, rfl, Or.inr ⟨rfl, by rintro ⟨⟩⟩⟩
  obtain ⟨work, next, left⟩ := next
  rw [next]
  refine ⟨?_, step.placed racing.placed announced (connected id known), ?_, ?_, ?_⟩
  · intro other member
    obtain ⟨listed, there⟩ := racing.announcer other member
    exact ⟨listed, connected other there⟩
  · intro other items member
    rcases List.mem_cons.mp member with same | member
    · cases same
      refine ⟨announced, fun again member => epochs again ?_⟩
      rcases left with rfl | ⟨rfl, _⟩
      · exact List.mem_cons_of_mem _ member
      · rcases List.mem_cons.mp member with same | member
        · cases same
        · exact List.mem_cons_of_mem _ member
    · exact racing.syncs other items (List.mem_of_mem_eraseIdx member)
  · intro other items member drops
    rcases List.mem_cons.mp member with same | member
    · cases same
      rcases left with rfl | ⟨rfl, failed⟩
      · exact step.descends racing.placed
          (racing.removes id _ inside (List.mem_cons_of_mem _ drops))
      · exact step.refused racing.placed known about (epochs report List.mem_cons_self about) failed
    · exact step.descends racing.placed
        (racing.removes other items (List.mem_of_mem_eraseIdx member) drops)
  · intro other member
    by_cases self : other = id
    · subst self
      exact Or.inr step.settles
    · rcases racing.settled other member with ⟨items, pending, reports⟩ | settled
      · refine Or.inl ⟨items, List.mem_cons_of_mem _ ?_, reports⟩
        rcases mem_or_eraseIdx found pending with same | still
        · cases same
          exact absurd rfl self
        · exact still
      · exact Or.inr (step.keeps racing.placed settled)

theorem ends {index : Nat} {task : BalancerTask}
    (found : history.state.tasks[index]? = some task)
    (connected : KeepsConnected history.state.ctx ctx)
    (same : locator room ctx = locator room history.state.ctx)
    (nothing : ∀ id work, task = .gossip id work → work = []) :
    Racing announcers room { history with
      state := ⟨ctx, history.state.tasks.eraseIdx index⟩ } := by
  refine racing.quiet connected same (fun id work member => ?_) fun id pending => ?_
  · exact ⟨work, List.mem_of_mem_eraseIdx member, fun _ inside => inside, fun inside => inside⟩
  · obtain ⟨work, member, report, inside, about⟩ := pending
    rcases mem_or_eraseIdx found member with same | still
    · rw [nothing id work same.symm] at inside
      cases inside
    · exact ⟨work, still, report, inside, about⟩

theorem goesOn {index : Nat}
    {work rest : List GossipWork}
    (found : history.state.tasks[index]? = some (.gossip id work))
    (connected : KeepsConnected history.state.ctx ctx)
    (same : locator room ctx = locator room history.state.ctx)
    (syncs : ∀ report, .sync report ∈ rest → .sync report ∈ work)
    (ours : ∀ report, report.room.name = room → .sync report ∈ work → .sync report ∈ rest)
    (removes : .remove room ∈ rest → .remove room ∈ work) :
    Racing announcers room { history with
      state := ⟨ctx, .gossip id rest :: history.state.tasks.eraseIdx index⟩ } := by
  refine racing.quiet connected same (fun other items member => ?_) fun other pending => ?_
  · rcases List.mem_cons.mp member with self | member
    · cases self
      exact ⟨work, List.mem_of_getElem? found, syncs, removes⟩
    · exact ⟨items, List.mem_of_mem_eraseIdx member, fun _ inside => inside, fun inside => inside⟩
  · obtain ⟨items, member, report, inside, about⟩ := pending
    rcases mem_or_eraseIdx found member with self | still
    · cases self
      exact ⟨rest, List.mem_cons_self, report, ours report about inside, about⟩
    · exact ⟨items, List.mem_cons_of_mem _ still, report, inside, about⟩

theorem elsewhere {work : List GossipWork}
    (inside : .gossip id work ∈ history.state.tasks) (drops : .remove room ∈ work) :
    ∀ found ∈ locator room history.state.ctx, found.monolithId ≠ id := by
  intro found read here
  obtain ⟨other, again, less⟩ := racing.removes id work inside drops
  cases again.symm.trans read
  rcases (racing.placed found read).2 with placeholder | ⟨own, _⟩
  · exact placeholder_not_lt _ (placeholder ▸ less)
  · rw [here] at own
    rw [own] at less
    exact UInt32.lt_irrefl _ less

omit racing in
/-- A task goes on, and does not take in a report of the room. -/
theorem next_resume {index : Nat} {task : BalancerTask}
    (found : history.state.tasks[index]? = some task)
    (foreign : ∀ id report rest, task = .gossip id (.sync report :: rest) →
      report.room.name ≠ room) :
    history.next room (.dispatch (.resume index .ok)) =
      { history with
        state := BalancerState.spawn ⟨history.state.ctx, history.state.tasks.eraseIdx index⟩
          (BalancerState.runTask task .ok) } := by
  have nothing : unloadsOf room history.state (.resume index .ok) = [] := by
    unfold unloadsOf
    dsimp only
    rw [found]
    split
    · rename_i same
      cases same
      exact if_neg (foreign _ _ _ rfl)
    · rfl
  unfold LoadHistory.next
  dsimp only
  rw [BalancerState.next_resume found, nothing]
  rfl

theorem foreign {index : Nat} {report : GossipRoom}
    {rest : List GossipWork}
    (found : history.state.tasks[index]? = some (.gossip id (.sync report :: rest)))
    (about : report.room.name ≠ room) :
    Racing announcers room (history.next room (.dispatch (.resume index .ok))) := by
  obtain ⟨after, outcome⟩ := BalancerState.runTask_sync report id rest .ok history.state.ctx
  have same := @addOrSyncRoomCtx_lookup history.state.ctx room report
    (fun same => about same.symm) id
  have connected := addOrSyncRoomCtx_connected history.state.ctx report id
  have ours : ∀ other : GossipRoom, other.room.name = room →
      .sync other ∈ GossipWork.sync report :: rest → .sync other ∈ rest := by
    rintro other ours (_ | ⟨_, member⟩)
    · exact absurd ours about
    · exact member
  rw [next_resume found fun _ _ _ same => by cases same; exact about]
  unfold BalancerState.spawn
  dsimp only
  rw [after, outcome]
  cases (addOrSyncRoomCtx report id).outcome history.state.ctx with
  | ok _ =>
      exact racing.goesOn found connected same (fun _ member => List.mem_cons_of_mem _ member) ours
        fun member => List.mem_cons_of_mem _ member
  | error _ =>
      refine racing.goesOn found connected same ?_ ?_ ?_
      · rintro other (_ | ⟨_, member⟩)
        exact List.mem_cons_of_mem _ member
      · exact fun other about member => List.mem_cons_of_mem _ (ours other about member)
      · rintro (_ | ⟨_, member⟩)
        · exact absurd rfl about
        · exact List.mem_cons_of_mem _ member

/-- A gossip in progress drops what it does not report. -/
theorem remove {index : Nat} {other : RoomName}
    {rest : List GossipWork}
    (found : history.state.tasks[index]? = some (.gossip id (.remove other :: rest))) :
    Racing announcers room (history.next room (.dispatch (.resume index .ok))) := by
  obtain ⟨after, outcome⟩ := BalancerState.runTask_remove other id rest .ok history.state.ctx
  have same : locator room ((BalancerContext.removeRoom other id).after history.state.ctx) =
      locator room history.state.ctx := by
    unfold locator
    by_cases ours : room = other
    · subst ours
      rw [removeRoom_elsewhere history.state.ctx (racing.elsewhere
        (List.mem_of_getElem? found) List.mem_cons_self)]
    · exact removeRoom_lookup history.state.ctx ours id
  rw [next_resume found fun _ _ _ => by rintro ⟨⟩]
  unfold BalancerState.spawn
  dsimp only
  rw [after, outcome]
  refine racing.goesOn found (removeRoom_connected _ other id) same
    (fun _ member => List.mem_cons_of_mem _ member) ?_
    fun member => List.mem_cons_of_mem _ member
  rintro report _ (_ | ⟨_, member⟩)
  exact member

/-- A task goes on after its send. -/
theorem resume (index : Nat) :
    Racing announcers room (history.next room (.dispatch (.resume index .ok))) := by
  cases found : history.state.tasks[index]? with
  | none =>
      have next : history.next room (.dispatch (.resume index .ok)) = history := by
        unfold LoadHistory.next unloadsOf
        dsimp only
        rw [BalancerState.next_resume_none found, found]
        rfl
      rw [next]
      exact racing
  | some task =>
      cases task with
      | join client id created =>
          rw [next_resume found fun _ _ _ => by rintro ⟨⟩, BalancerState.spawn_join]
          unfold finishJoin
          dsimp only
          rw [after_get_bind]
          cases known : history.state.ctx.monoliths.lookup id with
          | none => exact racing.ends found (refl _) rfl fun _ _ => by rintro ⟨⟩
          | some monolith =>
              exact racing.ends found
                (fun _ there => (AList.mem_insert _).mpr (Or.inr there)) rfl
                fun _ _ => by rintro ⟨⟩
      | leave id =>
          rw [next_resume found fun _ _ _ => by rintro ⟨⟩]
          exact racing.ends found (refl _) rfl fun _ _ => by rintro ⟨⟩
      | gossip id work =>
          cases work with
          | nil =>
              rw [next_resume found fun _ _ _ => by rintro ⟨⟩]
              exact racing.ends found (refl _) rfl fun _ _ same => by cases same; rfl
          | cons item rest =>
              cases item with
              | sync report =>
                  by_cases about : report.room.name = room
                  · exact racing.report found about
                  · exact racing.foreign found about
              | remove other => exact racing.remove found

end Racing

/-- The race is kept by every step. -/
theorem racing_inductive :
    TransitionSystem.Inductive (loadSystem announcers room) (Racing announcers room) where
  initial := by
    rintro history ⟨sending, log, idle, placeholder, served⟩
    have nothing : ∀ event, event ∉ history.log := by
      rw [log]
      exact fun _ => List.not_mem_nil
    refine ⟨fun id member => absurd member (nothing _), fun found read => ?_,
      fun id work member => absurd member (idle id work),
      fun id work member => absurd member (idle id work),
      fun id member => absurd member (nothing _)⟩
    have epoch := placeholder found read
    exact ⟨served found read epoch, Or.inl epoch⟩
  preserved := by
    rintro before label _ racing ⟨announces, rfl⟩
    cases label with
    | sent index => exact racing.sent index
    | dispatch label =>
        cases label with
        | loaded id report =>
            obtain ⟨node, known, about, epoch⟩ := announces
            exact racing.loaded node known about epoch
        | gossip id rooms =>
            obtain ⟨node, known, lists, epochs⟩ := announces
            exact racing.gossip node known lists epochs
        | resume index result =>
            cases announces
            exact racing.resume index
        | joinClient selection client => exact announces.elim
        | leaveClient client => exact announces.elim
        | joinMonolith monolith receiverOpen => exact announces.elim
        | leaveMonolith id => exact announces.elim
        | unloaded id other => exact announces.elim

section Sample

/-- The second monolith has the older load. -/
def twoLoads : Announcers where
  nodes := ["first", "second"]
  epochOf id := if id = "first" then 7 else 3
  below := by decide +kernel
  distinct := by decide +kernel

/-- A join has left a placeholder of the room on the first monolith, and is being sent. -/
def awaited : LoadHistory where
  state := TransitionSystem.run BalancerState.next
    [.joinMonolith { id := "first" } true, .joinMonolith { id := "second" } true,
      .joinClient {} { id := "c", room := "theatre" }] {}

/-- The first monolith loads the room, the second one gossips about its own load, and the first one
announces the room again before it is told to unload it. -/
def loadedTwice : List LoadLabel :=
  [.dispatch (.loaded "first" ⟨{ name := "theatre" }, 7⟩),
    .dispatch (.gossip "second" [⟨{ name := "theatre" }, 3⟩]),
    .dispatch (.resume 0 .ok), .dispatch (.loaded "first" ⟨{ name := "theatre" }, 7⟩),
    .dispatch (.resume 0 .ok), .dispatch (.resume 0 .ok), .sent 0, .sent 0]

end Sample

/-- When all announcements have been dealt with, the room is on the monolith that announced the
oldest load, and every other one that announced the room was told to unload it since. -/
theorem oldest_load_wins {start finish : LoadHistory} (unannounced : start.Unannounced room)
    (run : (loadSystem announcers room).Steps start finish) (quiet : finish.Quiet)
    (some' : ∃ id, .announced id ∈ finish.log) :
    ∃ winner, .announced winner ∈ finish.log ∧
      finish.state.ctx.roomsToMonoliths.lookup room =
        some ⟨winner, announcers.epochOf winner⟩ ∧
      (∀ id, .announced id ∈ finish.log → announcers.epochOf winner ≤ announcers.epochOf id) ∧
      ∀ id, .announced id ∈ finish.log → id ≠ winner → ToldSince id finish.log := by
  have racing := racing_inductive.of_steps (racing_inductive.initial start unannounced) run
  obtain ⟨idleSends, idleTasks⟩ := quiet
  have settled : ∀ id, .announced id ∈ finish.log →
      Settled announcers room id finish.state.ctx finish.sending finish.log := by
    intro id member
    rcases racing.settled id member with ⟨work, pending, _⟩ | settled
    · exact absurd pending (idleTasks id work)
    · exact settled
  have home : ∃ winner, .announced winner ∈ finish.log ∧
      locator room finish.state.ctx = some ⟨winner, announcers.epochOf winner⟩ := by
    obtain ⟨id, member⟩ := some'
    rcases settled id member with here | ⟨found, read, less, _⟩
    · exact ⟨id, member, here⟩
    · rcases (racing.placed found read).2 with placeholder | ⟨own, announced⟩
      · exact absurd (placeholder ▸ less) (placeholder_not_lt _)
      · exact ⟨found.monolithId, announced, own ▸ read⟩
  obtain ⟨winner, announced, here⟩ := home
  refine ⟨winner, announced, here, fun id member => ?_, fun id member different => ?_⟩
  · rcases settled id member with own | ⟨found, read, less, _⟩
    · cases here.symm.trans own
      exact UInt32.le_refl _
    · cases here.symm.trans read
      exact UInt32.le_of_lt less
  · rcases settled id member with own | ⟨found, read, less, told⟩
    · cases here.symm.trans own
      exact absurd rfl different
    · rcases told with sending | since
      · rw [idleSends] at sending
        cases sending
      · exact since

/-- Two monoliths have loaded a room that a client asked for. -/
theorem oldest_load_wins_twice :
    (run (next "theatre") loadedTwice awaited).state.ctx.roomsToMonoliths.lookup "theatre" =
        some ⟨"second", 3⟩ ∧
      ToldSince "first" (run (next "theatre") loadedTwice awaited).log := by
  have step : ∀ (history : LoadHistory) label, history.Announces twoLoads "theatre" label →
      (loadSystem twoLoads "theatre").Step history label (history.next "theatre" label) :=
    fun _ _ possible => ⟨possible, rfl⟩
  have taken : runs (next "theatre")
      (fun history label => history.Announces twoLoads "theatre" label) loadedTwice awaited =
        true := by
    decide +kernel
  have idle : ∀ id work, BalancerTask.gossip id work ∉ awaited.state.tasks := by
    have tasks : awaited.state.tasks =
        [.join { id := "c", room := "theatre" } "first" true] := by
      decide +kernel
    rw [tasks]
    rintro id work (_ | ⟨_, ⟨⟩⟩)
  have done : (run (next "theatre") loadedTwice awaited).state.tasks = [] := by
    decide +kernel
  obtain ⟨winner, announced, placed, least, told⟩ := @oldest_load_wins twoLoads "theatre" awaited _
    ⟨by decide +kernel, by decide +kernel, idle, by decide +kernel, by decide +kernel⟩
    (steps_run step loadedTwice awaited taken)
    ⟨by decide +kernel, fun id work member => by rw [done] at member; cases member⟩
    ⟨"first", by decide +kernel⟩
  have home : (run (next "theatre") loadedTwice awaited).state.ctx.roomsToMonoliths.lookup
      "theatre" = some ⟨"second", 3⟩ := by
    decide +kernel
  cases placed.symm.trans home
  exact ⟨home, told "first" (by decide +kernel) (by decide +kernel)⟩

end LoadHistory

end OpenTogetherTube.Balancer
