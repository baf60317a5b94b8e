import OpenTogetherTube.Balancer.StaleGossip

/-!
# Where the balancer's clients are

A client is in the balancer's table and in the list of its room on a monolith. `join_client`
writes both when its `B2MJoin` is sent, on the monolith it picked before; `leave_client` goes by
where the room is located now. The lists go away with the room's entry, the table does not. As
long as no entry that lists a client goes away and a join finds its room where it picked it, the
tables agree and a leave is sent where the join was.
-/

namespace OpenTogetherTube.Balancer

open Lib Lib.Handler

/-- The entry of the room on the monolith lists the client. -/
def Lists (ctx : BalancerContext) (id : MonolithId) (room : RoomName) (client : ClientId) : Prop :=
  ∃ monolith ∈ ctx.monoliths.lookup id, ∃ entry ∈ monolith.rooms.lookup room,
    client ∈ entry.clients

instance (ctx : BalancerContext) (id : MonolithId) (room : RoomName) (client : ClientId) :
    Decidable (Lists ctx id room client) :=
  inferInstanceAs (Decidable (∃ monolith ∈ ctx.monoliths.lookup id, _))

/-- Every client is listed by the entry of its room on the monolith the room is located on, and
by no other one, and every client that is listed is in the table. -/
structure ClientsAgree (ctx : BalancerContext) : Prop where
  listed : ∀ id client, ctx.clients.lookup id = some client →
    ∃ home, RoutedTo client.room home ctx ∧
      ∀ monolith room, Lists ctx monolith room id ↔ monolith = home ∧ room = client.room
  known : ∀ monolith room id, Lists ctx monolith room id → id ∈ ctx.clients

/-- The entry of the room on the monolith, if there is one, lists nobody. -/
def Vacant (ctx : BalancerContext) (id : MonolithId) (room : RoomName) : Prop :=
  ∀ monolith ∈ ctx.monoliths.lookup id, ∀ entry ∈ monolith.rooms.lookup room, entry.clients = []

instance (ctx : BalancerContext) (id : MonolithId) (room : RoomName) :
    Decidable (Vacant ctx id room) :=
  inferInstanceAs (Decidable (∀ monolith ∈ ctx.monoliths.lookup id, _))

/-- A report that displaces the room from another monolith finds it vacant there. -/
def Displaces (ctx : BalancerContext) (id : MonolithId) (report : GossipRoom) : Prop :=
  ∀ locator ∈ ctx.roomsToMonoliths.lookup report.room.name, locator.monolithId ≠ id →
    report.loadEpoch < locator.loadEpoch → Vacant ctx locator.monolithId report.room.name

instance (ctx : BalancerContext) (id : MonolithId) (report : GossipRoom) :
    Decidable (Displaces ctx id report) :=
  inferInstanceAs (Decidable (∀ locator ∈ ctx.roomsToMonoliths.lookup report.room.name, _))

/-- The next section of a task drops no entry that lists a client, and a join that is sent finds
its room on the monolith it was sent to, if that is still connected. -/
def BalancerTask.Tidy (ctx : BalancerContext) (result : SendResult) : BalancerTask → Prop
  | .join client id created =>
      match result with
      | .ok => id ∈ ctx.monoliths → RoutedTo client.room id ctx
      | .timeout => True
      | .otherError => created = true → Vacant ctx id client.room
  | .gossip id (.sync report :: _) => Displaces ctx id report
  | .gossip id (.remove room :: _) => Vacant ctx id room
  | _ => True

instance (ctx : BalancerContext) (result : SendResult) :
    ∀ task : BalancerTask, Decidable (task.Tidy ctx result)
  | .join client id created =>
      match result with
      | .ok => inferInstanceAs (Decidable (id ∈ ctx.monoliths → RoutedTo client.room id ctx))
      | .timeout => .isTrue trivial
      | .otherError => inferInstanceAs (Decidable (created = true → Vacant ctx id client.room))
  | .gossip id (.sync report :: _) => inferInstanceAs (Decidable (Displaces ctx id report))
  | .gossip id (.remove room :: _) => inferInstanceAs (Decidable (Vacant ctx id room))
  | .gossip _ [] => .isTrue trivial
  | .leave _ => .isTrue trivial

namespace BalancerState

/-- A step that drops no entry that lists a client. -/
def Tidy (state : BalancerState) : BalancerLabel → Prop
  | .joinMonolith monolith receiverOpen =>
      receiverOpen = true → ∀ old ∈ state.ctx.monoliths.lookup monolith.id,
        ∀ entry ∈ old.rooms.values, entry.clients = []
  | .loaded id report => Displaces state.ctx id report
  | .unloaded id room => Vacant state.ctx id room
  | .resume index result => ∀ task ∈ state.tasks[index]?, task.Tidy state.ctx result
  | _ => True

instance (state : BalancerState) : ∀ label, Decidable (state.Tidy label)
  | .joinMonolith monolith _ =>
      inferInstanceAs (Decidable (_ → ∀ old ∈ state.ctx.monoliths.lookup monolith.id, _))
  | .loaded id report => inferInstanceAs (Decidable (Displaces state.ctx id report))
  | .unloaded id room => inferInstanceAs (Decidable (Vacant state.ctx id room))
  | .resume index result =>
      inferInstanceAs (Decidable (∀ task ∈ state.tasks[index]?, task.Tidy state.ctx result))
  | .joinClient _ _ => .isTrue trivial
  | .leaveClient _ => .isTrue trivial
  | .leaveMonolith _ => .isTrue trivial
  | .gossip _ _ => .isTrue trivial

end BalancerState

/-- A balancer with the history of what it sent about clients: where each `B2MJoin` and each
`B2MLeave` went, newest first. -/
structure ClientHistory where
  state : BalancerState := {}
  joins : List (ClientId × MonolithId) := []
  leaves : List (ClientId × MonolithId) := []
deriving DecidableEq

namespace ClientHistory

/-- The `B2MJoin` a step begins to send. -/
def joinSent (state : BalancerState) : BalancerLabel → List (ClientId × MonolithId)
  | .joinClient selection client =>
      match (joinClient selection client).outcome state.ctx with
      | .ok (.join client id _) => [(client.id, id)]
      | _ => []
  | _ => []

/-- The `B2MLeave` a step begins to send. -/
def leaveSent (state : BalancerState) : BalancerLabel → List (ClientId × MonolithId)
  | .leaveClient client =>
      match (leaveClient client).outcome state.ctx with
      | .ok (some (.leave id)) => [(client, id)]
      | _ => []
  | _ => []

/-- The balancer after a step, with what it sent. -/
def next (label : BalancerLabel) (history : ClientHistory) : ClientHistory where
  state := history.state.next label
  joins := joinSent history.state label ++ history.joins
  leaves := leaveSent history.state label ++ history.leaves

/-- The id of a client that joins is a new one. -/
def fresh (history : ClientHistory) : BalancerLabel → Bool
  | .joinClient _ client => decide (client.id ∉ history.joins.map Prod.fst)
  | _ => true

end ClientHistory

/-- Every run of a balancer whose clients have ids of their own. -/
def clientSystem : TransitionSystem ClientHistory BalancerLabel where
  Initial history := history = {}
  Step before label after := before.fresh label = true ∧ after = before.next label

/-- The clients agree, and each of them is on the monolith that its join was sent to. -/
structure Homed (joins : List (ClientId × MonolithId)) (ctx : BalancerContext) : Prop where
  listed : ∀ id client, ctx.clients.lookup id = some client →
    ∃ home, (id, home) ∈ joins ∧ RoutedTo client.room home ctx ∧
      ∀ monolith room, Lists ctx monolith room id ↔ monolith = home ∧ room = client.room
  known : ∀ monolith room id, Lists ctx monolith room id → id ∈ ctx.clients

theorem Homed.agree {joins : List (ClientId × MonolithId)} {ctx : BalancerContext}
    (homed : Homed joins ctx) : ClientsAgree ctx := by
  refine ⟨fun id client found => ?_, homed.known⟩
  obtain ⟨home, _, routed, lists⟩ := homed.listed id client found
  exact ⟨home, routed, lists⟩

section Tables

variable {joins : List (ClientId × MonolithId)} {ctx after : BalancerContext} {room : RoomName}
  {id : MonolithId} {monolith : BalancerMonolith}

theorem Homed.more {sent : List (ClientId × MonolithId)} (homed : Homed joins ctx)
    (more : joins ⊆ sent) : Homed sent ctx := by
  refine ⟨fun id client found => ?_, homed.known⟩
  obtain ⟨home, joined, rest⟩ := homed.listed id client found
  exact ⟨home, more joined, rest⟩

/-- Entries of other monoliths do not matter. -/
theorem lists_setMonolith {other : MonolithId} {place : RoomName} {client : ClientId} :
    Lists (ctx.setMonolith id monolith) other place client ↔
      if other = id then ∃ entry ∈ monolith.rooms.lookup place, client ∈ entry.clients
      else Lists ctx other place client := by
  unfold Lists BalancerContext.setMonolith
  dsimp only
  rw [Table.lookup_insert_ite]
  split
  · simp only [Option.mem_def, Option.some.injEq, exists_eq_left']
  · rfl

theorem lists_replace
    (same : ∀ place client, (∃ entry ∈ monolith.rooms.lookup place, client ∈ entry.clients) ↔
      Lists ctx id place client) (other : MonolithId) (place : RoomName) (client : ClientId) :
    Lists (ctx.setMonolith id monolith) other place client ↔ Lists ctx other place client := by
  rw [lists_setMonolith]
  split
  · rename_i here
    subst here
    exact same place client
  · exact Iff.rfl

theorem lists_of_known (known : ctx.monoliths.lookup id = some monolith) (place : RoomName)
    (client : ClientId) :
    Lists ctx id place client ↔ ∃ entry ∈ monolith.rooms.lookup place, client ∈ entry.clients := by
  unfold Lists
  rw [known]
  simp only [Option.mem_def, Option.some.injEq, exists_eq_left']

/-- A vacant entry lists nobody. -/
theorem Vacant.unlisted (vacant : Vacant ctx id room) (client : ClientId) :
    ¬ Lists ctx id room client := by
  rintro ⟨monolith, known, entry, found, member⟩
  rw [vacant monolith known entry found] at member
  cases member

/-- A room that is dropped takes its list along. -/
theorem lists_removeRoom (other : MonolithId) (place : RoomName) (client : ClientId) :
    Lists ((BalancerContext.removeRoom room id).after ctx) other place client ↔
      Lists ctx other place client ∧ ¬ (other = id ∧ place = room) := by
  unfold BalancerContext.removeRoom
  rw [after_get_bind]
  cases known : ctx.monoliths.lookup id with
  | none =>
      change Lists ctx other place client ↔ _
      refine (and_iff_left_of_imp ?_).symm
      rintro ⟨monolith, found, _⟩ ⟨rfl, _⟩
      rw [known] at found
      cases found
  | some monolith =>
      have same : Lists (ctx.unlocate room id) other place client ↔ Lists ctx other place client := by
        unfold Lists BalancerContext.unlocate
        split
        · split <;> rfl
        · rfl
      change Lists ((ctx.unlocate room id).setMonolith id (monolith.removeRoom room)) other place
        client ↔ _
      rw [lists_setMonolith, same]
      split
      · rename_i here
        subst here
        rw [lists_of_known known]
        change (∃ entry ∈ (monolith.rooms.erase room).lookup place, _) ↔ _
        rw [Table.lookup_erase_ite]
        split
        · rename_i dropped
          refine iff_of_false (by rintro ⟨_, ⟨⟩, _⟩) ?_
          rintro ⟨_, kept⟩
          exact kept ⟨rfl, dropped⟩
        · rename_i different
          exact (and_iff_left fun both => different both.2).symm
      · rename_i elsewhere
        exact (and_iff_left fun both => elsewhere both.1).symm

/-- The locators left after one is forgotten. -/
theorem unlocate_routed {other : RoomName} {home : MonolithId} (routed : RoutedTo other home ctx)
    (elsewhere : other = room → home ≠ id) : RoutedTo other home (ctx.unlocate room id) := by
  unfold BalancerContext.unlocate
  split
  · rename_i locator read
    split
    · rename_i here
      unfold RoutedTo
      change Option.map _ ((ctx.roomsToMonoliths.erase room).lookup other) = _
      rw [Table.lookup_erase_ite, if_neg]
      · exact routed
      · intro same
        obtain ⟨found, located, there⟩ := Option.map_eq_some_iff.mp routed
        rw [same, read] at located
        cases located
        exact elsewhere same (there.symm.trans here)
    · exact routed
  · exact routed

/-- A room that is dropped leaves the other locators as they are. -/
theorem removeRoom_routed {other : RoomName} {home : MonolithId} (routed : RoutedTo other home ctx)
    (elsewhere : other = room → home ≠ id) :
    RoutedTo other home ((BalancerContext.removeRoom room id).after ctx) := by
  unfold BalancerContext.removeRoom
  rw [after_get_bind]
  cases ctx.monoliths.lookup id with
  | none => exact routed
  | some monolith => exact unlocate_routed routed elsewhere

theorem removeRoom_clients :
    ((BalancerContext.removeRoom room id).after ctx).clients = ctx.clients := by
  unfold BalancerContext.removeRoom
  rw [after_get_bind]
  cases ctx.monoliths.lookup id with
  | none => rfl
  | some monolith =>
      change (ctx.unlocate room id).clients = _
      unfold BalancerContext.unlocate
      split
      · split <;> rfl
      · rfl

theorem lists_addOrSync (known : ctx.monoliths.lookup id = some monolith) (metadata : RoomMetadata)
    (place : RoomName) (client : ClientId) :
    (∃ entry ∈ (monolith.addOrSyncRoom metadata).rooms.lookup place, client ∈ entry.clients) ↔
      Lists ctx id place client := by
  rw [lists_of_known known]
  unfold BalancerMonolith.addOrSyncRoom
  dsimp only
  rw [Table.lookup_insert_ite]
  split
  · rename_i same
    subst same
    cases monolith.rooms.lookup metadata.name with
    | none => simp
    | some entry => simp
  · rfl

variable (homed : Homed joins ctx)

include homed

/-- The same clients with the same lists, and the rooms that have clients where they were. -/
theorem Homed.of_same (clients : after.clients = ctx.clients)
    (lists : ∀ monolith room id, Lists after monolith room id ↔ Lists ctx monolith room id)
    (routes : ∀ room home client, Lists ctx home room client → RoutedTo room home ctx →
      RoutedTo room home after) : Homed joins after := by
  refine ⟨fun id client found => ?_, fun monolith room id listed => ?_⟩
  · rw [clients] at found
    obtain ⟨home, sent, routed, only⟩ := homed.listed id client found
    refine ⟨home, sent, ?_, fun monolith room => (lists monolith room id).trans (only monolith room)⟩
    exact routes client.room home id ((only home client.room).mpr ⟨rfl, rfl⟩) routed
  · rw [clients]
    exact homed.known monolith room id ((lists monolith room id).mp listed)

theorem Homed.routed_of_lists {client : ClientId}
    (listed : Lists ctx id room client) : RoutedTo room id ctx := by
  obtain ⟨entry, found⟩ := Option.isSome_iff_exists.mp
    (AList.lookup_isSome.mpr (homed.known id room client listed))
  obtain ⟨home, _, routed, only⟩ := homed.listed client entry found
  obtain ⟨rfl, rfl⟩ := (only id room).mp listed
  exact routed

/-- A room may be dropped where nobody is listed. -/
theorem Homed.removeRoom (vacant : Vacant ctx id room) :
    Homed joins ((BalancerContext.removeRoom room id).after ctx) := by
  refine homed.of_same removeRoom_clients ?_ ?_
  · intro other place client
    rw [lists_removeRoom]
    refine and_iff_left_of_imp ?_
    rintro listed ⟨rfl, rfl⟩
    exact vacant.unlisted client listed
  · intro other home client listed routed
    refine removeRoom_routed routed ?_
    rintro rfl rfl
    exact vacant.unlisted client listed

/-- A room may be recorded on a monolith, unless somebody is listed for it on another. -/
theorem Homed.recordRoom {report : GossipRoom}
    (elsewhere : ∀ home client, Lists ctx home report.room.name client → home = id) :
    Homed joins ((Balancer.recordRoom report id).after ctx) := by
  have located : Homed joins (ctx.locate report.room.name ⟨id, report.loadEpoch⟩) := by
    refine homed.of_same rfl (fun _ _ _ => Iff.rfl) ?_
    intro room home client listed routed
    unfold RoutedTo BalancerContext.locate
    dsimp only
    rw [Table.lookup_insert_ite]
    split
    · rename_i same
      subst same
      rw [elsewhere home client listed]
      rfl
    · exact routed
  unfold Balancer.recordRoom
  rw [after_modify_bind, after_get_bind]
  cases known : (ctx.locate report.room.name ⟨id, report.loadEpoch⟩).monoliths.lookup id with
  | none => exact located
  | some monolith =>
      refine located.of_same rfl ?_ fun _ _ _ _ routed => routed
      exact lists_replace (lists_addOrSync known report.room)

theorem Homed.addOrSyncRoomCtx {report : GossipRoom}
    (displaces : Displaces ctx id report) :
    Homed joins ((Balancer.addOrSyncRoomCtx report id).after ctx) := by
  unfold Balancer.addOrSyncRoomCtx
  rw [after_get_bind]
  cases read : ctx.roomsToMonoliths.lookup report.room.name with
  | none =>
      refine homed.recordRoom fun home client listed => ?_
      have routed := homed.routed_of_lists listed
      unfold RoutedTo at routed
      rw [read] at routed
      cases routed
  | some locator =>
      have there : ∀ home client, Lists ctx home report.room.name client →
          home = locator.monolithId := by
        intro home client listed
        have routed := homed.routed_of_lists listed
        unfold RoutedTo at routed
        rw [read] at routed
        exact (Option.some.inj routed).symm
      dsimp only
      by_cases here : locator.monolithId = id
      · rw [if_neg (not_not.mpr here)]
        exact homed.recordRoom fun home client listed => (there home client listed).trans here
      · rw [if_pos here]
        cases order : compare locator.loadEpoch report.loadEpoch with
        | lt =>
            dsimp only
            rw [after_ite]
            split <;> exact homed
        | eq => exact homed
        | gt =>
            dsimp only
            rw [after_ite]
            split
            · have vacant := displaces locator read here (Std.compare_eq_gt.mp order)
              have removed := homed.removeRoom vacant
              rw [after_bind]
              cases (BalancerContext.removeRoom report.room.name locator.monolithId).outcome ctx with
              | error _ => exact removed
              | ok _ =>
                  refine removed.recordRoom fun home client listed => ?_
                  rw [lists_removeRoom] at listed
                  exact absurd ⟨there home client listed.1, rfl⟩ listed.2
            · exact homed

/-- The clients agree on every monolith but one, which is about to go. -/
structure HomedApart (id : MonolithId) (joins : List (ClientId × MonolithId)) (ctx : BalancerContext) :
    Prop where
  listed : ∀ client entry, ctx.clients.lookup client = some entry → ∃ home, (client, home) ∈ joins ∧
    (∀ monolith room, monolith ≠ id →
      (Lists ctx monolith room client ↔ monolith = home ∧ room = entry.room)) ∧
    ∀ other, other ≠ id → (RoutedTo entry.room other ctx ↔ other = home)
  known : ∀ monolith room client, monolith ≠ id → Lists ctx monolith room client →
    client ∈ ctx.clients

omit homed in
theorem RoutedTo.unique {home other : MonolithId} (first : RoutedTo room home ctx)
    (second : RoutedTo room other ctx) : other = home :=
  Option.some.inj (second.symm.trans first)

theorem Homed.apart (id : MonolithId) : HomedApart id joins ctx := by
  refine ⟨fun client entry found => ?_, fun monolith room client _ => homed.known monolith room client⟩
  obtain ⟨home, sent, routed, only⟩ := homed.listed client entry found
  refine ⟨home, sent, fun monolith room _ => only monolith room, fun other _ => ?_⟩
  exact ⟨fun there => routed.unique there, fun same => same ▸ routed⟩

omit homed in
/-- The monolith that is about to go may drop a room first. -/
theorem HomedApart.removeRoom (homed : HomedApart id joins ctx) :
    HomedApart id joins ((BalancerContext.removeRoom room id).after ctx) := by
  refine ⟨fun client entry found => ?_, fun monolith place client elsewhere listed => ?_⟩
  · rw [removeRoom_clients] at found
    obtain ⟨home, sent, lists, routes⟩ := homed.listed client entry found
    refine ⟨home, sent, fun monolith place elsewhere => ?_, fun other elsewhere => ?_⟩
    · rw [lists_removeRoom, ← lists monolith place elsewhere]
      exact and_iff_left fun both => elsewhere both.1
    · rw [← routes other elsewhere]
      refine ⟨fun routed => ?_, fun routed => removeRoom_routed routed fun _ => elsewhere⟩
      by_cases same : entry.room = room
      · unfold BalancerContext.removeRoom at routed
        rw [after_get_bind] at routed
        cases known : ctx.monoliths.lookup id with
        | none =>
            rw [known] at routed
            exact routed
        | some monolith =>
            rw [known] at routed
            change RoutedTo entry.room other (ctx.unlocate room id) at routed
            unfold BalancerContext.unlocate at routed
            split at routed
            · split at routed
              · rw [same] at routed
                unfold RoutedTo at routed
                change Option.map _ ((ctx.roomsToMonoliths.erase room).lookup room) = _ at routed
                rw [AList.lookup_erase] at routed
                cases routed
              · exact routed
            · exact routed
      · unfold RoutedTo at routed ⊢
        rw [removeRoom_lookup ctx same] at routed
        exact routed
  · rw [removeRoom_clients]
    rw [lists_removeRoom] at listed
    exact homed.known monolith place client elsewhere listed.1

omit homed in
/-- A monolith that goes takes its clients along. -/
theorem HomedApart.removeMonolith (homed : HomedApart id joins ctx) :
    Homed joins (ctx.removeMonolith id) := by
  have lists : ∀ other place client, Lists (ctx.removeMonolith id) other place client ↔
      other ≠ id ∧ Lists ctx other place client := by
    intro other place client
    unfold Lists BalancerContext.removeMonolith
    dsimp only
    rw [Table.lookup_erase_ite]
    split
    · rename_i gone
      refine iff_of_false (by rintro ⟨_, ⟨⟩, _⟩) ?_
      rintro ⟨never, _⟩
      exact never gone
    · rename_i stays
      exact (and_iff_right stays).symm
  have routes : ∀ place other, RoutedTo place other (ctx.removeMonolith id) ↔
      other ≠ id ∧ RoutedTo place other ctx := by
    intro place other
    unfold RoutedTo
    rw [Option.map_eq_some_iff, Option.map_eq_some_iff]
    constructor
    · rintro ⟨locator, read, rfl⟩
      obtain ⟨before, elsewhere⟩ := Table.lookup_retain.mp read
      exact ⟨of_decide_eq_true elsewhere, locator, before, rfl⟩
    · rintro ⟨elsewhere, locator, read, rfl⟩
      exact ⟨locator, Table.lookup_retain.mpr ⟨read, decide_eq_true elsewhere⟩, rfl⟩
  have retained : ∀ client entry, (ctx.removeMonolith id).clients.lookup client = some entry ↔
      ctx.clients.lookup client = some entry ∧
        entry.room ∈ (ctx.removeMonolith id).roomsToMonoliths := by
    intro client entry
    refine Table.lookup_retain.trans ?_
    rw [decide_eq_true_eq]
    rfl
  refine ⟨fun client entry found => ?_, fun other place client listed => ?_⟩
  · obtain ⟨before, located⟩ := (retained client entry).mp found
    obtain ⟨home, sent, only, there⟩ := homed.listed client entry before
    obtain ⟨locator, read⟩ := Option.isSome_iff_exists.mp (AList.lookup_isSome.mpr located)
    have routed : RoutedTo entry.room locator.monolithId (ctx.removeMonolith id) := by
      unfold RoutedTo
      rw [read]
      rfl
    obtain ⟨elsewhere, earlier⟩ := (routes _ _).mp routed
    have same := (there locator.monolithId elsewhere).mp earlier
    refine ⟨home, sent, same ▸ routed, fun monolith room => ?_⟩
    rw [lists]
    constructor
    · rintro ⟨different, listed⟩
      exact (only monolith room different).mp listed
    · rintro ⟨rfl, rfl⟩
      have different : monolith ≠ id := same ▸ elsewhere
      exact ⟨different, (only monolith entry.room different).mpr ⟨rfl, rfl⟩⟩
  · obtain ⟨elsewhere, before⟩ := (lists other place client).mp listed
    obtain ⟨entry, found⟩ := Option.isSome_iff_exists.mp
      (AList.lookup_isSome.mpr (homed.known other place client elsewhere before))
    obtain ⟨home, _, only, there⟩ := homed.listed client entry found
    obtain ⟨rfl, rfl⟩ := (only other place elsewhere).mp before
    have routed := (routes entry.room other).mpr ⟨elsewhere, (there other elsewhere).mpr rfl⟩
    obtain ⟨locator, read, _⟩ := Option.map_eq_some_iff.mp routed
    have located : entry.room ∈ (ctx.removeMonolith id).roomsToMonoliths :=
      AList.lookup_isSome.mp (read ▸ rfl)
    exact AList.lookup_isSome.mp (((retained client entry).mpr ⟨found, located⟩) ▸ rfl)

theorem Homed.removeMonolith (id : MonolithId) :
    Homed joins (ctx.removeMonolith id) :=
  (homed.apart id).removeMonolith

/-- A monolith may join under an id whose entry lists nobody. -/
theorem Homed.addMonolith {joined : BalancerMonolith}
    (empty : joined.rooms = ∅)
    (unlisted : ∀ old ∈ ctx.monoliths.lookup joined.id, ∀ entry ∈ old.rooms.values,
      entry.clients = []) : Homed joins (ctx.addMonolith joined) := by
  refine homed.of_same rfl ?_ fun _ _ _ _ routed => routed
  change ∀ other place client, Lists (ctx.setMonolith joined.id joined) other place client ↔
    Lists ctx other place client
  refine lists_replace fun place client => ?_
  rw [empty]
  refine iff_of_false (by rintro ⟨_, ⟨⟩, _⟩) ?_
  rintro ⟨old, known, entry, found, member⟩
  rw [unlisted old known entry (Table.mem_values_of_lookup found)] at member
  cases member

theorem Homed.addRoom {locator : RoomLocator}
    (unlocated : ctx.roomsToMonoliths.lookup room = none) :
    Homed joins ((BalancerContext.addRoom room locator).after ctx) := by
  have nobody : ∀ home client, ¬ Lists ctx home room client := by
    intro home client listed
    have routed := homed.routed_of_lists listed
    unfold RoutedTo at routed
    rw [unlocated] at routed
    cases routed
  have located : Homed joins (ctx.locate room locator) := by
    refine homed.of_same rfl (fun _ _ _ => Iff.rfl) ?_
    intro place home client listed routed
    unfold RoutedTo BalancerContext.locate
    dsimp only
    rw [Table.lookup_insert_ite, if_neg]
    · exact routed
    · rintro rfl
      exact nobody home client listed
  unfold BalancerContext.addRoom
  rw [after_get_bind]
  cases known : ctx.monoliths.lookup locator.monolithId with
  | none => exact homed
  | some monolith =>
      dsimp only
      rw [after_modify_bind]
      unfold BalancerMonolith.addRoom
      split
      · rename_i refused
        exact located
      · rename_i grown added
        split at added
        · cases added
        · cases added
          refine located.of_same rfl ?_ fun _ _ _ _ routed => routed
          refine lists_replace fun place client => ?_
          have there : (ctx.locate room locator).monoliths.lookup locator.monolithId =
              some monolith := known
          rw [lists_of_known there]
          dsimp only
          rw [Table.lookup_insert_ite]
          split
          · rename_i same
            subst same
            refine iff_of_false (by rintro ⟨_, ⟨⟩, ⟨⟩⟩) ?_
            rw [← lists_of_known there]
            exact nobody locator.monolithId client
          · rfl

/-- The first section of a join. -/
theorem Homed.joinClient (selection : Selection) (client : NewClient) :
    Homed joins ((Balancer.joinClient selection client).after ctx) := by
  unfold Balancer.joinClient
  rw [after_get_bind]
  cases read : ctx.roomsToMonoliths.lookup client.room with
  | some locator =>
      dsimp only
      split
      · exact homed
      · split <;> exact homed
  | none =>
      dsimp only
      split
      · exact homed
      · rename_i selected _
        have added : Homed joins
            ((BalancerContext.addRoom client.room ⟨selected.id, 0xffffffff⟩).after ctx) :=
          homed.addRoom read
        rw [after_bind]
        split
        · rw [after_get_bind]
          split <;> exact added
        · exact added

theorem Homed.addClient {client : NewClient}
    (sent : (client.id, id) ∈ joins) (new : client.id ∉ ctx.clients)
    (known : ctx.monoliths.lookup id = some monolith) (routed : RoutedTo client.room id ctx) :
    Homed joins { ctx.setMonolith id (monolith.addClient client.room client.id) with
      clients := ctx.clients.insert client.id client } := by
  have lists : ∀ other place listed, Lists { ctx.setMonolith id (monolith.addClient client.room
      client.id) with clients := ctx.clients.insert client.id client } other place listed ↔
      Lists ctx other place listed ∨ other = id ∧ place = client.room ∧ listed = client.id := by
    intro other place listed
    change Lists (ctx.setMonolith id (monolith.addClient client.room client.id)) other place listed ↔ _
    rw [lists_setMonolith]
    split
    · rename_i here
      subst here
      rw [lists_of_known known]
      unfold BalancerMonolith.addClient
      dsimp only
      rw [Table.lookup_insert_ite]
      split
      · rename_i same
        subst same
        cases monolith.rooms.lookup client.room with
        | none => simp
        | some entry => simp
      · rename_i different
        exact (or_iff_left fun both => different both.2.1).symm
    · rename_i elsewhere
      exact (or_iff_left fun both => elsewhere both.1).symm
  have absent : ∀ other place, ¬ Lists ctx other place client.id :=
    fun other place listed => new (homed.known other place client.id listed)
  refine ⟨fun listed entry found => ?_, fun other place listed member => ?_⟩
  · rcases Table.lookup_insert_cases found with ⟨rfl, rfl⟩ | ⟨different, before⟩
    · refine ⟨id, sent, routed, fun other place => ?_⟩
      rw [lists, or_iff_right (absent other place)]
      exact and_congr_right fun _ => and_iff_left rfl
    · obtain ⟨home, joined, there, only⟩ := homed.listed listed entry before
      refine ⟨home, joined, there, fun other place => ?_⟩
      rw [lists, or_iff_left fun both => different both.2.2]
      exact only other place
  · change listed ∈ ctx.clients.insert client.id client
    rw [AList.mem_insert]
    rcases (lists other place listed).mp member with before | ⟨_, _, same⟩
    · exact Or.inr (homed.known other place listed before)
    · exact Or.inl same

/-- The first section of a leave; it is sent where the join was. -/
theorem Homed.leaveClient (client : ClientId) :
    Homed joins ((Balancer.leaveClient client).after ctx) ∧
      ∀ id, (Balancer.leaveClient client).outcome ctx = .ok (some (.leave id)) →
        (client, id) ∈ joins := by
  unfold Balancer.leaveClient
  rw [after_get_bind, outcome_get_bind]
  cases found : ctx.clients.lookup client with
  | none =>
      refine ⟨homed, ?_⟩
      rintro id ⟨⟩
  | some removed =>
      obtain ⟨home, sent, routed, only⟩ := homed.listed client removed found
      obtain ⟨locator, read, rfl⟩ := Option.map_eq_some_iff.mp routed
      obtain ⟨monolith, known, entry, held, member⟩ :=
        (only locator.monolithId removed.room).mpr ⟨rfl, rfl⟩
      rw [Option.mem_def] at known
      dsimp only
      rw [after_modify_bind, outcome_modify_bind, read]
      dsimp only
      rw [known]
      dsimp only
      refine ⟨?_, ?_⟩
      · change Homed joins { ctx.setMonolith locator.monolithId (monolith.removeClient client) with
          clients := ctx.clients.erase client }
        have lists : ∀ other place listed, Lists { ctx.setMonolith locator.monolithId
            (monolith.removeClient client) with clients := ctx.clients.erase client } other place
              listed ↔ Lists ctx other place listed ∧ listed ≠ client := by
          intro other place listed
          change Lists (ctx.setMonolith locator.monolithId (monolith.removeClient client)) other place
            listed ↔ _
          rw [lists_setMonolith]
          split
          · rename_i here
            subst here
            rw [lists_of_known known]
            unfold BalancerMonolith.removeClient
            dsimp only
            rw [Table.lookup_mapValues]
            cases monolith.rooms.lookup place with
            | none => simp
            | some entry => simp
          · rename_i elsewhere
            refine (and_iff_left_of_imp ?_).symm
            rintro before rfl
            exact elsewhere ((only other place).mp before).1
        refine ⟨fun listed entry kept => ?_, fun other place listed kept => ?_⟩
        · obtain ⟨different, before⟩ := Table.lookup_erase_cases kept
          obtain ⟨home, joined, there, alone⟩ := homed.listed listed entry before
          refine ⟨home, joined, there, fun other place => ?_⟩
          rw [lists, and_iff_left different]
          exact alone other place
        · obtain ⟨before, different⟩ := (lists other place listed).mp kept
          exact AList.mem_erase.mpr ⟨different, homed.known other place listed before⟩
      · rintro id ⟨⟩
        exact sent

end Tables

/-- A section that adds no client. -/
def NoClientAdded (before after : BalancerContext) : Prop :=
  ∀ client, client ∈ after.clients → client ∈ before.clients

instance : IsPreorder BalancerContext NoClientAdded where
  refl _ _ member := member
  trans _ _ _ first second client member := first client (second client member)

section Sections

variable (ctx : BalancerContext)

theorem removeRoom_noClient (room : RoomName) (id : MonolithId) :
    Keeps NoClientAdded (BalancerContext.removeRoom room id) ctx := by
  unfold Keeps NoClientAdded
  rw [removeRoom_clients]
  exact fun _ member => member

theorem removeMonolith_noClient (id : MonolithId) : NoClientAdded ctx (ctx.removeMonolith id) := by
  intro client member
  obtain ⟨entry, found⟩ := Option.isSome_iff_exists.mp (AList.lookup_isSome.mpr member)
  obtain ⟨before, _⟩ := Table.lookup_retain.mp found
  exact AList.lookup_isSome.mp (before ▸ rfl)

theorem recordRoom_noClient (report : GossipRoom) (id : MonolithId) :
    Keeps NoClientAdded (recordRoom report id) ctx := by
  unfold recordRoom
  refine Keeps.modify_bind (fun _ member => member) (Keeps.get_bind ?_)
  split
  · exact Keeps.throw _ _
  · exact fun _ member => member

theorem addOrSyncRoomCtx_noClient (report : GossipRoom) (id : MonolithId) :
    Keeps NoClientAdded (addOrSyncRoomCtx report id) ctx := by
  unfold addOrSyncRoomCtx
  refine Keeps.get_bind ?_
  split
  · refine Keeps.ite (fun _ => ?_) fun _ => recordRoom_noClient ctx report id
    split
    · exact Keeps.ite (fun _ => Keeps.throw _ _) fun _ => Keeps.throw _ _
    · refine Keeps.ite (fun _ => ?_) fun _ => Keeps.throw _ _
      exact Keeps.bind (removeRoom_noClient ctx _ _) fun _ _ => recordRoom_noClient _ report id
    · exact Keeps.throw _ _
  · exact recordRoom_noClient ctx report id

theorem joinClient_noClient (selection : Selection) (client : NewClient) :
    Keeps NoClientAdded (joinClient selection client) ctx := by
  have added : ∀ room locator, Keeps NoClientAdded (BalancerContext.addRoom room locator) ctx := by
    intro room locator
    unfold BalancerContext.addRoom
    refine Keeps.get_bind ?_
    split
    · exact Keeps.throw _ _
    · refine Keeps.modify_bind (fun _ member => member) ?_
      split
      · exact Keeps.throw _ _
      · exact fun _ member => member
  unfold joinClient
  refine Keeps.get_bind ?_
  split
  · split
    · exact Keeps.throw _ _
    · split
      · exact Keeps.throw _ _
      · exact Keeps.pure _ _
  · split
    · exact Keeps.throw _ _
    · refine Keeps.bind (added _ _) fun _ _ => Keeps.get_bind ?_
      split
      · exact Keeps.throw _ _
      · exact Keeps.pure _ _

theorem leaveClient_noClient (client : ClientId) :
    Keeps NoClientAdded (leaveClient client) ctx := by
  have erased : NoClientAdded ctx { ctx with clients := ctx.clients.erase client } :=
    fun other member => (AList.mem_erase.mp member).2
  unfold leaveClient
  refine Keeps.get_bind ?_
  split
  · exact Keeps.throw _ _
  · refine Keeps.modify_bind erased ?_
    split
    · exact Keeps.pure _ _
    · split
      · exact Keeps.pure _ _
      · exact fun _ member => member

end Sections

/-- The client whose join a task sends. -/
def BalancerTask.joining : BalancerTask → Option ClientId
  | .join client _ _ => some client.id
  | _ => none

/-- The tables agree, the joins on their way are of new clients, and what was sent fits. -/
structure Agreed (history : ClientHistory) : Prop where
  homed : Homed history.joins history.state.ctx
  pending : ∀ client id created, .join client id created ∈ history.state.tasks →
    (client.id, id) ∈ history.joins ∧ client.id ∉ history.state.ctx.clients
  apart : (history.state.tasks.filterMap BalancerTask.joining).Nodup
  once : (history.joins.map Prod.fst).Nodup
  sent : history.leaves ⊆ history.joins

namespace Agreed

variable {history : ClientHistory} {ctx : BalancerContext} {tasks : List BalancerTask}

variable (agreed : Agreed history)

include agreed

/-- A step that sends nothing, adds no client and begins no join. -/
theorem quiet (homed : Homed history.joins ctx)
    (shrinks : NoClientAdded history.state.ctx ctx)
    (fewer : (tasks.filter fun task => task.joining.isSome).Sublist
      (history.state.tasks.filter fun task => task.joining.isSome)) :
    Agreed { history with state := ⟨ctx, tasks⟩ } := by
  have joins : ∀ all : List BalancerTask, all.filterMap BalancerTask.joining =
      (all.filter fun task => task.joining.isSome).filterMap BalancerTask.joining := by
    intro all
    rw [List.filterMap_filter]
    refine List.filterMap_congr fun task _ => ?_
    cases task.joining <;> rfl
  refine ⟨homed, ?_, ?_, agreed.once, agreed.sent⟩
  · intro client id created member
    have begun : .join client id created ∈ history.state.tasks := by
      refine (List.mem_filter.mp (fewer.subset (List.mem_filter.mpr ⟨member, rfl⟩))).1
    obtain ⟨sent, new⟩ := agreed.pending client id created begun
    exact ⟨sent, fun there => new (shrinks client.id there)⟩
  · rw [joins]
    exact (joins history.state.tasks ▸ agreed.apart).sublist (fewer.filterMap _)

omit agreed in
/-- The joins among the tasks when one is taken out. -/
theorem joins_eraseIdx (index : Nat) (tasks : List BalancerTask) :
    ((tasks.eraseIdx index).filter fun task => task.joining.isSome).Sublist
      (tasks.filter fun task => task.joining.isSome) :=
  (tasks.eraseIdx_sublist index).filter _

theorem spawn {tasks : List BalancerTask}
    (fewer : (tasks.filter fun task => task.joining.isSome).Sublist
      (history.state.tasks.filter fun task => task.joining.isSome))
    (section' : BalancerM (Option BalancerTask))
    (homed : Homed history.joins (section'.after history.state.ctx))
    (shrinks : NoClientAdded history.state.ctx (section'.after history.state.ctx))
    (left : ∀ task, section'.outcome history.state.ctx = .ok (some task) → task.joining = none) :
    Agreed { history with state := { history.state with tasks }.spawn section' } := by
  unfold BalancerState.spawn
  dsimp only
  split
  · rename_i task returned
    refine agreed.quiet homed shrinks ?_
    rw [List.filter_cons_of_neg]
    · exact fewer
    · rw [left task returned]
      exact Bool.false_ne_true
  · exact agreed.quiet homed shrinks fewer

theorem pending_other {index : Nat} {client : NewClient}
    {id : MonolithId} {created : Bool}
    (found : history.state.tasks[index]? = some (.join client id created)) {other : NewClient}
    {monolith : MonolithId} {again : Bool}
    (member : .join other monolith again ∈ history.state.tasks.eraseIdx index) :
    other.id ≠ client.id := by
  have distinct := ((eraseIdx_perm found).filterMap BalancerTask.joining).nodup_iff.mpr agreed.apart
  change (client.id :: (history.state.tasks.eraseIdx index).filterMap
    BalancerTask.joining).Nodup at distinct
  rw [List.nodup_cons] at distinct
  rintro same
  exact distinct.1 (List.mem_filterMap.mpr ⟨_, member, congrArg some same⟩)

/-- A join is entered where it was sent. -/
theorem entered {index : Nat} {client : NewClient} {id : MonolithId}
    {created : Bool} {monolith : BalancerMonolith}
    (found : history.state.tasks[index]? = some (.join client id created))
    (known : history.state.ctx.monoliths.lookup id = some monolith)
    (routed : RoutedTo client.room id history.state.ctx) :
    Agreed { history with state :=
      ⟨{ history.state.ctx.setMonolith id (monolith.addClient client.room client.id) with
          clients := history.state.ctx.clients.insert client.id client },
        history.state.tasks.eraseIdx index⟩ } := by
  obtain ⟨sent, new⟩ := agreed.pending client id created (List.mem_of_getElem? found)
  refine ⟨agreed.homed.addClient sent new known routed, ?_, ?_, agreed.once, agreed.sent⟩
  · intro other joined again member
    obtain ⟨joining, absent⟩ := agreed.pending other joined again (List.mem_of_mem_eraseIdx member)
    refine ⟨joining, fun there => ?_⟩
    rcases (AList.mem_insert _).mp there with same | before
    · exact agreed.pending_other found member same
    · exact absent before
  · exact agreed.apart.sublist ((List.eraseIdx_sublist _ _).filterMap _)

/-- What a failed join leaves of the tables. -/
theorem undone (room : RoomName) (id : MonolithId) :
    HomedApart id history.joins ((tryCatch (BalancerContext.removeRoom room id) fun _ => pure () :
      BalancerM Unit).after history.state.ctx) := by
  rw [after_tryCatch]
  cases (BalancerContext.removeRoom room id).outcome history.state.ctx with
  | ok _ => exact (agreed.homed.apart id).removeRoom
  | error _ => exact (agreed.homed.apart id).removeRoom

/-- The end of a join. -/
theorem finishJoin {index : Nat} {client : NewClient} {id : MonolithId}
    {created : Bool} {result : SendResult}
    (found : history.state.tasks[index]? = some (.join client id created))
    (tidy : (BalancerTask.join client id created).Tidy history.state.ctx result) :
    Agreed { history with state := ⟨(Balancer.finishJoin client id created result).after
      history.state.ctx, history.state.tasks.eraseIdx index⟩ } := by
  have fewer := joins_eraseIdx index history.state.tasks
  have shrinks : Keeps NoClientAdded (tryCatch (BalancerContext.removeRoom client.room id)
      fun _ => pure () : BalancerM Unit) history.state.ctx :=
    Keeps.tryCatch (removeRoom_noClient _ _ _) fun _ _ => Keeps.pure _ _
  unfold Balancer.finishJoin
  cases result with
  | ok =>
      dsimp only
      rw [after_get_bind]
      cases known : history.state.ctx.monoliths.lookup id with
      | none => exact agreed.quiet agreed.homed (refl _) fewer
      | some monolith =>
          have connected : id ∈ history.state.ctx.monoliths := AList.lookup_isSome.mp (known ▸ rfl)
          exact agreed.entered found known (tidy connected)
  | timeout =>
      dsimp only
      cases created with
      | true =>
          rw [if_pos rfl, after_bind]
          have caught : (tryCatch (BalancerContext.removeRoom client.room id) fun _ => pure () :
              BalancerM Unit).outcome history.state.ctx = .ok () := by
            rw [outcome_tryCatch]
            cases (BalancerContext.removeRoom client.room id).outcome history.state.ctx <;> rfl
          rw [caught]
          refine agreed.quiet (agreed.undone client.room id).removeMonolith ?_ fewer
          exact IsTrans.trans _ _ _ shrinks (removeMonolith_noClient _ id)
      | false =>
          exact agreed.quiet (agreed.homed.removeMonolith id)
            (removeMonolith_noClient history.state.ctx id) fewer
  | otherError =>
      dsimp only
      cases created with
      | true =>
          have homed := agreed.homed.removeRoom (tidy rfl)
          have same : (tryCatch (BalancerContext.removeRoom client.room id) fun _ => pure () :
              BalancerM Unit).after history.state.ctx =
                (BalancerContext.removeRoom client.room id).after history.state.ctx := by
            rw [after_tryCatch]
            cases (BalancerContext.removeRoom client.room id).outcome history.state.ctx <;> rfl
          rw [if_pos rfl, after_bind]
          refine agreed.quiet ?_ ?_ fewer
          · split <;> exact same ▸ homed
          · split <;> exact shrinks
      | false => exact agreed.quiet agreed.homed (refl _) fewer

/-- A task that goes on keeps the agreement if it is tidy. -/
theorem resume {index : Nat} {task : BalancerTask} {result : SendResult}
    (found : history.state.tasks[index]? = some task)
    (tidy : task.Tidy history.state.ctx result) :
    Agreed { history with state := { history.state with
      tasks := history.state.tasks.eraseIdx index }.spawn (BalancerState.runTask task result) } := by
  have fewer := joins_eraseIdx index history.state.tasks
  cases task with
  | join client id created =>
      rw [BalancerState.spawn_join]
      exact agreed.finishJoin found tidy
  | leave id =>
      refine agreed.spawn fewer _ ?_ ?_ ?_
      · unfold BalancerState.runTask Balancer.finishLeave
        cases result with
        | ok => exact agreed.homed
        | timeout => exact agreed.homed.removeMonolith id
        | otherError => exact agreed.homed
      · unfold BalancerState.runTask Balancer.finishLeave
        cases result with
        | ok => exact refl _
        | timeout => exact removeMonolith_noClient _ id
        | otherError => exact refl _
      · intro task returned
        unfold BalancerState.runTask Balancer.finishLeave at returned
        cases result <;> cases returned
  | gossip id work =>
      cases work with
      | nil =>
          refine agreed.spawn fewer _ agreed.homed (refl _) ?_
          rintro task ⟨⟩
      | cons item rest =>
          cases item with
          | sync report =>
              obtain ⟨after, outcome⟩ :=
                BalancerState.runTask_sync report id rest result history.state.ctx
              refine agreed.spawn fewer _ ?_ ?_ ?_
              · rw [after]
                exact agreed.homed.addOrSyncRoomCtx tidy
              · rw [after]
                exact addOrSyncRoomCtx_noClient _ report id
              · intro task returned
                rw [outcome] at returned
                cases ended : (addOrSyncRoomCtx report id).outcome history.state.ctx with
                | ok _ =>
                    rw [ended] at returned
                    cases returned
                    rfl
                | error _ =>
                    rw [ended] at returned
                    cases returned
                    rfl
          | remove room =>
              obtain ⟨after, outcome⟩ :=
                BalancerState.runTask_remove room id rest result history.state.ctx
              refine agreed.spawn fewer _ ?_ ?_ ?_
              · rw [after]
                exact agreed.homed.removeRoom tidy
              · rw [after]
                exact removeRoom_noClient _ room id
              · intro task returned
                rw [outcome] at returned
                cases returned
                rfl

theorem begin {selection : Selection} {client : NewClient}
    (fresh : client.id ∉ history.joins.map Prod.fst) (id : MonolithId) (created : Bool) :
    Agreed { state := ⟨(Balancer.joinClient selection client).after history.state.ctx,
               .join client id created :: history.state.tasks⟩,
             joins := (client.id, id) :: history.joins, leaves := history.leaves } := by
  have shrinks := joinClient_noClient history.state.ctx selection client
  have absent : client.id ∉ history.state.ctx.clients := by
    intro there
    obtain ⟨entry, found⟩ := Option.isSome_iff_exists.mp (AList.lookup_isSome.mpr there)
    obtain ⟨home, sent, _⟩ := agreed.homed.listed client.id entry found
    exact fresh (List.mem_map.mpr ⟨_, sent, rfl⟩)
  refine ⟨(agreed.homed.joinClient selection client).more (List.subset_cons_self _ _), ?_, ?_, ?_, ?_⟩
  · intro other joined again member
    cases member with
    | head => exact ⟨List.mem_cons_self, fun there => absent (shrinks _ there)⟩
    | tail _ member =>
        obtain ⟨sent, new⟩ := agreed.pending other joined again member
        exact ⟨List.mem_cons_of_mem _ sent, fun there => new (shrinks _ there)⟩
  · change (client.id :: history.state.tasks.filterMap BalancerTask.joining).Nodup
    refine List.nodup_cons.mpr ⟨fun pending => ?_, agreed.apart⟩
    obtain ⟨task, member, joins⟩ := List.mem_filterMap.mp pending
    cases task with
    | join other joined again =>
        obtain ⟨sent, _⟩ := agreed.pending other joined again member
        have same : other.id = client.id := Option.some.inj joins
        exact fresh (same ▸ List.mem_map.mpr ⟨_, sent, rfl⟩)
    | leave _ => cases joins
    | gossip _ _ => cases joins
  · exact List.nodup_cons.mpr ⟨fresh, agreed.once⟩
  · exact fun leave left => List.mem_cons_of_mem _ (agreed.sent left)

/-- A leave is sent where the join was. -/
theorem leave (client : ClientId) :
    Agreed (history.next (.leaveClient client)) := by
  obtain ⟨homed, told⟩ := agreed.homed.leaveClient client
  have quiet := agreed.spawn (List.Sublist.refl _) (Balancer.leaveClient client) homed
    (leaveClient_noClient _ client) fun task left => by
      obtain ⟨monolith, rfl⟩ := BalancerState.leaveClient_task left
      rfl
  refine ⟨quiet.homed, quiet.pending, quiet.apart, quiet.once, ?_⟩
  refine List.append_subset.mpr ⟨?_, agreed.sent⟩
  unfold ClientHistory.leaveSent
  dsimp only
  split
  · rename_i id left
    exact List.cons_subset.mpr ⟨told id left, List.nil_subset _⟩
  · exact List.nil_subset _

omit agreed

/-- What a tidy step preserves. -/
theorem next {label : BalancerLabel} (agreed : Agreed history)
    (tidy : history.state.Tidy label) (fresh : history.fresh label = true) :
    Agreed (history.next label) := by
  cases label with
  | joinClient selection client =>
      unfold ClientHistory.fresh at fresh
      unfold ClientHistory.next ClientHistory.joinSent ClientHistory.leaveSent BalancerState.next
        BalancerState.spawn
      dsimp only
      rw [map_eq_pure_bind, outcome_bind, after_bind]
      cases picked : (Balancer.joinClient selection client).outcome history.state.ctx with
      | ok task =>
          obtain ⟨id, created, rfl⟩ := BalancerState.joinClient_task picked
          exact agreed.begin (of_decide_eq_true fresh) id created
      | error _ =>
          exact agreed.quiet (agreed.homed.joinClient selection client)
            (joinClient_noClient _ selection client) (List.Sublist.refl _)
  | leaveClient client => exact agreed.leave client
  | joinMonolith monolith receiverOpen =>
      cases receiverOpen with
      | true =>
          exact agreed.quiet (agreed.homed.addMonolith rfl (tidy rfl)) (fun _ member => member)
            (List.Sublist.refl _)
      | false => exact agreed.quiet agreed.homed (refl _) (List.Sublist.refl _)
  | leaveMonolith id =>
      exact agreed.quiet (agreed.homed.removeMonolith id) (removeMonolith_noClient _ id)
        (List.Sublist.refl _)
  | loaded id report =>
      exact agreed.quiet (agreed.homed.addOrSyncRoomCtx tidy) (addOrSyncRoomCtx_noClient _ report id)
        (List.Sublist.refl _)
  | unloaded id room =>
      exact agreed.quiet (agreed.homed.removeRoom tidy) (removeRoom_noClient _ room id)
        (List.Sublist.refl _)
  | gossip id rooms =>
      refine agreed.quiet agreed.homed (refl _) ?_
      unfold Balancer.gossip
      cases history.state.ctx.monoliths.lookup id with
      | none => exact List.Sublist.refl _
      | some monolith => exact List.Sublist.refl _
  | resume index result =>
      change Agreed { history with state := history.state.next (.resume index result) }
      cases found : history.state.tasks[index]? with
      | none =>
          rw [BalancerState.next_resume_none found]
          exact agreed
      | some task =>
          rw [BalancerState.next_resume found]
          exact agreed.resume found (tidy task found)

end Agreed

/-- The agreement is an invariant of the runs whose steps are tidy. -/
theorem agreed_inductive : TransitionSystem.Inductive
    (clientSystem.restrict fun history label => history.state.Tidy label) Agreed where
  initial := by
    rintro _ rfl
    exact ⟨⟨fun id client => nofun, by rintro _ _ _ ⟨_, ⟨⟩, _⟩⟩, fun _ _ _ => nofun, List.nodup_nil,
      List.nodup_nil, List.nil_subset _⟩
  preserved := by
    rintro before label _ agreed ⟨tidy, fresh, rfl⟩
    exact agreed.next tidy fresh

namespace BalancerState

section Sample

/-- A client joins a room the monolith has loaded, and leaves it. -/
def comeAndGo : List BalancerLabel :=
  [.joinMonolith { id := "first" } true, .loaded "first" theatre,
    .joinClient {} { id := "c", room := "theatre" }, .resume 0 .ok, .leaveClient "c",
    .resume 0 .ok]

/-- A client joins a room that is new; the other monolith reports an older load of it before the
join is answered. -/
def movedWhileJoining : List BalancerLabel :=
  [.joinMonolith { id := "first" } true, .joinMonolith { id := "second" } true,
    .joinClient {} { id := "c", room := "theatre" }, .loaded "second" theatre, .resume 0 .ok]

end Sample

/-- As long as no step drops an entry that lists a client, and a join that is sent finds its room
where it was sent, every client is listed where its room is located and nowhere else, every client
that is listed is in the table, and every leave was sent to the one monolith the join was. -/
theorem clients_agree {history : ClientHistory}
    (reached : (clientSystem.restrict fun history label => history.state.Tidy label).Reachable
      history) :
    ClientsAgree history.state.ctx ∧
      ∀ client monolith, (client, monolith) ∈ history.leaves →
        (client, monolith) ∈ history.joins ∧
          ∀ other, (client, other) ∈ history.joins → other = monolith := by
  have agreed := agreed_inductive.of_reachable reached
  refine ⟨agreed.homed.agree, fun client monolith left => ⟨agreed.sent left, ?_⟩⟩
  intro other joined
  exact congrArg Prod.snd (List.inj_on_of_nodup_map agreed.once joined (agreed.sent left) rfl)

/-- One client comes and goes. -/
theorem clients_agree_come_and_go :
    ClientsAgree (TransitionSystem.run ClientHistory.next comeAndGo {}).state.ctx ∧
      ∀ client monolith,
        (client, monolith) ∈ (TransitionSystem.run ClientHistory.next comeAndGo {}).leaves →
          (client, monolith) ∈ (TransitionSystem.run ClientHistory.next comeAndGo {}).joins ∧
            ∀ other, (client, other) ∈
              (TransitionSystem.run ClientHistory.next comeAndGo {}).joins → other = monolith := by
  have step : ∀ (history : ClientHistory) label,
      history.state.Tidy label ∧ history.fresh label = true →
        (clientSystem.restrict fun history label => history.state.Tidy label).Step history label
          (history.next label) := fun _ _ possible => ⟨possible.1, possible.2, rfl⟩
  have taken : TransitionSystem.runs ClientHistory.next
      (fun history label => history.state.Tidy label ∧ history.fresh label = true)
      comeAndGo {} = true := by
    decide +kernel
  exact clients_agree ⟨{}, rfl, TransitionSystem.steps_run step _ _ taken⟩

/-- The room moves while the join is being sent. The client is then in the table and in the list of
the first monolith, its room is on the second, the leave is sent there, and the first monolith
lists the client from then on. -/
theorem moved_room_strands_client :
    clientSystem.Reachable (TransitionSystem.run ClientHistory.next movedWhileJoining {}) ∧
      (TransitionSystem.run ClientHistory.next movedWhileJoining {}).state.tasks = [] ∧
      ¬ ClientsAgree (TransitionSystem.run ClientHistory.next movedWhileJoining {}).state.ctx ∧
      clientSystem.Reachable (TransitionSystem.run ClientHistory.next
        (movedWhileJoining ++ [.leaveClient "c", .resume 0 .ok]) {}) ∧
      (TransitionSystem.run ClientHistory.next
        (movedWhileJoining ++ [.leaveClient "c", .resume 0 .ok]) {}).state.tasks = [] ∧
      (TransitionSystem.run ClientHistory.next
        (movedWhileJoining ++ [.leaveClient "c", .resume 0 .ok]) {}).joins = [("c", "first")] ∧
      (TransitionSystem.run ClientHistory.next
        (movedWhileJoining ++ [.leaveClient "c", .resume 0 .ok]) {}).leaves = [("c", "second")] ∧
      Lists (TransitionSystem.run ClientHistory.next
        (movedWhileJoining ++ [.leaveClient "c", .resume 0 .ok]) {}).state.ctx "first" "theatre" "c" ∧
      "c" ∉ (TransitionSystem.run ClientHistory.next
        (movedWhileJoining ++ [.leaveClient "c", .resume 0 .ok]) {}).state.ctx.clients := by
  have step : ∀ (history : ClientHistory) label, history.fresh label = true →
      clientSystem.Step history label (history.next label) := fun _ _ possible => ⟨possible, rfl⟩
  have moved : TransitionSystem.runs ClientHistory.next
      (fun history label => history.fresh label = true) movedWhileJoining {} = true := by
    decide +kernel
  have left : TransitionSystem.runs ClientHistory.next
      (fun history label => history.fresh label = true)
      (movedWhileJoining ++ [.leaveClient "c", .resume 0 .ok]) {} = true := by
    decide +kernel
  refine ⟨⟨{}, rfl, TransitionSystem.steps_run step _ _ moved⟩, by decide +kernel, ?_,
    ⟨{}, rfl, TransitionSystem.steps_run step _ _ left⟩, by decide +kernel, by decide +kernel,
    by decide +kernel, by decide +kernel, by decide +kernel⟩
  intro agree
  have found : (TransitionSystem.run ClientHistory.next movedWhileJoining {}).state.ctx.clients.lookup
      "c" = some { id := "c", room := "theatre" } := by
    decide +kernel
  have listed : Lists (TransitionSystem.run ClientHistory.next movedWhileJoining {}).state.ctx
      "first" "theatre" "c" := by
    decide +kernel
  have elsewhere : ¬ RoutedTo "theatre" "first"
      (TransitionSystem.run ClientHistory.next movedWhileJoining {}).state.ctx := by
    decide +kernel
  obtain ⟨home, routed, only⟩ := agree.listed "c" _ found
  obtain ⟨rfl, _⟩ := (only "first" "theatre").mp listed
  exact elsewhere routed

end BalancerState

end OpenTogetherTube.Balancer
