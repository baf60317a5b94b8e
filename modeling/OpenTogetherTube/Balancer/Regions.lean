import Mathlib.Data.List.MinMax
import OpenTogetherTube.Balancer.StaleGossip
import OpenTogetherTube.Lib.Exact

/-!
# Selecting a monolith

Embeds `selection.rs` with `select_monolith` and `random_monolith` of `balancer.rs`. Monoliths of the
balancer's own region go first, by a table of regions kept beside the monoliths. A region that every
monolith has left keeps its entry there, an empty one, and nothing is selected from it although
another region may be up.
-/

namespace OpenTogetherTube.Balancer

open Lib Lib.Handler

structure RingNode where
  monolith : BalancerMonolith
  idx : Nat
deriving DecidableEq

structure HashRingSelectorConfig where
  weight : Nat := 5
deriving DecidableEq

inductive MonolithSelectionStrategy where
  | minRooms
  | hashRing (config : HashRingSelectorConfig)
  | random
deriving DecidableEq

/-- What a selection takes from outside: the draw of the random generator, and the hash ring. -/
structure SelectionWorld where
  choose : List BalancerMonolith → Option BalancerMonolith
  ringGet : List RingNode → RoomName → Option RingNode

/-- The generator and the ring give one of what they are given, and nothing only for nothing. -/
structure SelectionWorld.Lawful (world : SelectionWorld) : Prop where
  choose_mem : ∀ {monoliths chosen}, world.choose monoliths = some chosen → chosen ∈ monoliths
  choose_none : ∀ {monoliths}, world.choose monoliths = none ↔ monoliths = []
  ringGet_mem : ∀ {nodes room node}, world.ringGet nodes room = some node → node ∈ nodes
  ringGet_none : ∀ {nodes room}, world.ringGet nodes room = none ↔ nodes = []

section Strategies

variable (world : SelectionWorld)

/-- `MonolithSelection::random_monolith`. -/
def randomMonolith (monoliths : List BalancerMonolith) : Except String BalancerMonolith :=
  match world.choose monoliths with
  | some selected => .ok selected
  | none => .error "no monoliths available"

/-- The nodes of the ring, so many for each monolith. -/
def ringNodes (weight : Nat) (monoliths : List BalancerMonolith) : List RingNode :=
  monoliths.flatMap fun monolith => (List.range weight).map (RingNode.mk monolith)

/-- `MonolithSelection::select_monolith`. -/
def MonolithSelectionStrategy.selectMonolith (room : RoomName) (monoliths : List BalancerMonolith) :
    MonolithSelectionStrategy → Except String BalancerMonolith
  | .minRooms =>
      match monoliths.argmin fun monolith => monolith.rooms.keys.length with
      | some selected => .ok selected
      | none => .error "no monoliths available"
  | .hashRing config =>
      match world.ringGet (ringNodes (max config.weight 1) monoliths) room with
      | some node => .ok node.monolith
      | none => .error "ring hash empty"
  | .random => randomMonolith world monoliths

namespace BalancerContext

/-- `select_monolith`, for a configured region and strategy. -/
def selectMonolith (region : Region) (strategy : MonolithSelectionStrategy) (room : RoomName)
    (ctx : BalancerContext) : Except String BalancerMonolith :=
  strategy.selectMonolith world room (ctx.filterMonoliths region)

def randomMonolith (region : Region) (ctx : BalancerContext) : Except String BalancerMonolith :=
  Balancer.randomMonolith world (ctx.filterMonoliths region)

/-- Whatever the strategy and the room, a connected monolith is selected. -/
structure Selects (region : Region) (ctx : BalancerContext) : Prop where
  select : ∀ strategy room, ∃ monolith,
    ctx.selectMonolith world region strategy room = .ok monolith ∧
      monolith ∈ ctx.monoliths.values
  random : ∃ monolith, ctx.randomMonolith world region = .ok monolith ∧
    monolith ∈ ctx.monoliths.values

end BalancerContext

variable {world} (lawful : world.Lawful)

include lawful

/-- A draw from some monoliths is one of them. -/
theorem randomMonolith_ok {monoliths : List BalancerMonolith} (some_ : monoliths ≠ []) :
    ∃ monolith ∈ monoliths, randomMonolith world monoliths = .ok monolith := by
  unfold randomMonolith
  cases drawn : world.choose monoliths with
  | none => exact absurd (lawful.choose_none.mp drawn) some_
  | some selected => exact ⟨selected, lawful.choose_mem drawn, rfl⟩

theorem MonolithSelectionStrategy.selectMonolith_ok {monoliths : List BalancerMonolith}
    (some_ : monoliths ≠ []) (strategy : MonolithSelectionStrategy) (room : RoomName) :
    ∃ monolith ∈ monoliths, strategy.selectMonolith world room monoliths = .ok monolith := by
  unfold selectMonolith
  cases strategy with
  | minRooms =>
      dsimp only
      cases least : monoliths.argmin fun monolith => monolith.rooms.keys.length with
      | none => exact absurd (List.argmin_eq_none.mp least) some_
      | some selected => exact ⟨selected, List.argmin_mem least, rfl⟩
  | hashRing config =>
      dsimp only
      cases got : world.ringGet (ringNodes (max config.weight 1) monoliths) room with
      | none =>
          -- each monolith is on the ring at least once
          have empty := lawful.ringGet_none.mp got
          obtain ⟨monolith, member⟩ := List.exists_mem_of_ne_nil monoliths some_
          have inside : ⟨monolith, 0⟩ ∈ ringNodes (max config.weight 1) monoliths :=
            List.mem_flatMap.mpr ⟨monolith, member, List.mem_map_of_mem (List.mem_range.mpr (by omega))⟩
          rw [empty] at inside
          cases inside
      | some node =>
          obtain ⟨monolith, member, inside⟩ := List.mem_flatMap.mp (lawful.ringGet_mem got)
          obtain ⟨idx, -, rfl⟩ := List.mem_map.mp inside
          exact ⟨monolith, member, rfl⟩
  | random => exact randomMonolith_ok lawful some_

end Strategies

namespace BalancerContext

/-- The region has no list, or a connected monolith on it. -/
def Represented (region : Region) (ctx : BalancerContext) : Prop :=
  ∀ ids ∈ ctx.monolithsByRegion.lookup region, ∃ id ∈ ids, id ∈ ctx.monoliths

instance (region : Region) (ctx : BalancerContext) : Decidable (ctx.Represented region) :=
  inferInstanceAs (Decidable (∀ ids ∈ ctx.monolithsByRegion.lookup region, _))

variable {region : Region} {ctx : BalancerContext}

theorem mem_values_of_mem_filterMonoliths {monolith : BalancerMonolith}
    (member : monolith ∈ ctx.filterMonoliths region) : monolith ∈ ctx.monoliths.values := by
  unfold filterMonoliths at member
  split at member
  · obtain ⟨id, -, read⟩ := List.mem_filterMap.mp member
    exact Table.mem_values_of_lookup read
  · exact member

/-- Where something is connected, some monolith passes the filter just when the region is
represented. -/
theorem filterMonoliths_ne_nil (connected : ∃ id, id ∈ ctx.monoliths) :
    ctx.filterMonoliths region ≠ [] ↔ ctx.Represented region := by
  unfold filterMonoliths Represented
  cases listed : ctx.monolithsByRegion.lookup region with
  | none =>
      refine iff_of_true ?_ nofun
      obtain ⟨id, there⟩ := connected
      obtain ⟨monolith, read⟩ := Option.isSome_iff_exists.mp (AList.lookup_isSome.mpr there)
      exact List.ne_nil_of_mem (Table.mem_values_of_lookup read)
  | some ids =>
      constructor
      · rintro some_ _ ⟨⟩
        obtain ⟨monolith, member⟩ := List.exists_mem_of_ne_nil _ some_
        obtain ⟨id, inside, read⟩ := List.mem_filterMap.mp member
        exact ⟨id, inside, AList.lookup_isSome.mp (read ▸ rfl)⟩
      · intro represented
        obtain ⟨id, inside, there⟩ := represented ids rfl
        obtain ⟨monolith, read⟩ := Option.isSome_iff_exists.mp (AList.lookup_isSome.mpr there)
        exact List.ne_nil_of_mem (List.mem_filterMap.mpr ⟨id, inside, read⟩)

/-- Where something is connected, something is selected just when the region is represented. -/
theorem selects_iff {world : SelectionWorld} (lawful : world.Lawful)
    (connected : ∃ id, id ∈ ctx.monoliths) : ctx.Selects world region ↔ ctx.Represented region := by
  rw [← filterMonoliths_ne_nil connected]
  constructor
  · rintro ⟨-, monolith, selected, -⟩ empty
    unfold randomMonolith Balancer.randomMonolith at selected
    rw [empty, lawful.choose_none.mpr rfl] at selected
    cases selected
  · intro some_
    refine ⟨fun strategy room => ?_, ?_⟩
    · obtain ⟨monolith, member, selected⟩ := strategy.selectMonolith_ok lawful some_ room
      exact ⟨monolith, selected, mem_values_of_mem_filterMonoliths member⟩
    · obtain ⟨monolith, member, selected⟩ := randomMonolith_ok lawful some_
      exact ⟨monolith, selected, mem_values_of_mem_filterMonoliths member⟩

/-- The same monoliths are connected and listed. -/
structure SameMonoliths (before after : BalancerContext) : Prop where
  connected : ∀ id, id ∈ after.monoliths ↔ id ∈ before.monoliths
  byRegion : after.monolithsByRegion = before.monolithsByRegion

instance : IsPreorder BalancerContext SameMonoliths where
  refl _ := ⟨fun _ => Iff.rfl, rfl⟩
  trans _ _ _ first second :=
    ⟨fun id => (second.connected id).trans (first.connected id),
      second.byRegion.trans first.byRegion⟩

end BalancerContext

section Sections

variable {ctx : BalancerContext}

open BalancerContext

/-- Writing the entry of a known monolith. -/
theorem setMonolith_sameMonoliths (ctx : BalancerContext) {id : MonolithId} {known : BalancerMonolith}
    (found : ctx.monoliths.lookup id = some known) (monolith : BalancerMonolith) :
    SameMonoliths ctx (ctx.setMonolith id monolith) where
  connected other := by
    refine (AList.mem_insert _).trans ⟨?_, Or.inr⟩
    rintro (rfl | there)
    · exact AList.lookup_isSome.mp (found ▸ rfl)
    · exact there
  byRegion := rfl

theorem unlocate_sameMonoliths (room : RoomName) (id : MonolithId) :
    SameMonoliths ctx (ctx.unlocate room id) := by
  unfold unlocate
  split
  · split <;> exact ⟨fun _ => Iff.rfl, rfl⟩
  · exact refl ctx

theorem removeRoom_sameMonoliths (room : RoomName) (id : MonolithId) :
    Keeps SameMonoliths (BalancerContext.removeRoom room id) ctx := by
  unfold BalancerContext.removeRoom
  refine Keeps.get_bind ?_
  split
  · exact Keeps.throw _ _
  · rename_i monolith found
    refine Keeps.modify_bind (unlocate_sameMonoliths room id) ?_
    exact setMonolith_sameMonoliths _ ((unlocate_monoliths ctx room id).symm ▸ found) _

theorem recordRoom_sameMonoliths (report : GossipRoom) (id : MonolithId) :
    Keeps SameMonoliths (recordRoom report id) ctx := by
  unfold recordRoom
  refine Keeps.modify_bind ⟨fun _ => Iff.rfl, rfl⟩ (Keeps.get_bind ?_)
  split
  · exact Keeps.throw _ _
  · rename_i monolith found
    exact setMonolith_sameMonoliths _ found _

theorem addOrSyncRoomCtx_sameMonoliths (report : GossipRoom) (id : MonolithId) :
    Keeps SameMonoliths (addOrSyncRoomCtx report id) ctx := by
  unfold addOrSyncRoomCtx
  refine Keeps.get_bind ?_
  split
  · refine Keeps.ite (fun _ => ?_) fun _ => recordRoom_sameMonoliths report id
    split
    · exact Keeps.ite (fun _ => Keeps.throw _ _) fun _ => Keeps.throw _ _
    · refine Keeps.ite (fun _ => ?_) fun _ => Keeps.throw _ _
      exact Keeps.bind (removeRoom_sameMonoliths _ _) fun _ _ => recordRoom_sameMonoliths report id
    · exact Keeps.throw _ _
  · exact recordRoom_sameMonoliths report id

theorem joinClient_sameMonoliths (selection : Selection) (client : NewClient) :
    Keeps SameMonoliths (joinClient selection client) ctx := by
  have added : ∀ locator, Keeps SameMonoliths (BalancerContext.addRoom client.room locator) ctx := by
    intro locator
    unfold BalancerContext.addRoom
    refine Keeps.get_bind ?_
    split
    · exact Keeps.throw _ _
    · rename_i monolith found
      refine Keeps.modify_bind ⟨fun _ => Iff.rfl, rfl⟩ ?_
      split
      · exact Keeps.throw _ _
      · exact setMonolith_sameMonoliths (locate client.room locator ctx) found _
  unfold joinClient
  refine Keeps.get_bind ?_
  split
  · split
    · exact Keeps.throw _ _
    · split
      · exact Keeps.throw _ _
      · exact Keeps.pure _ _
  · split
    · exact Keeps.throw _ _
    · refine Keeps.bind (added _) fun _ _ => Keeps.get_bind ?_
      split
      · exact Keeps.throw _ _
      · exact Keeps.pure _ _

theorem leaveClient_sameMonoliths (client : ClientId) :
    Keeps SameMonoliths (leaveClient client) ctx := by
  unfold leaveClient
  refine Keeps.get_bind ?_
  split
  · exact Keeps.throw _ _
  · refine Keeps.modify_bind ⟨fun _ => Iff.rfl, rfl⟩ ?_
    split
    · exact Keeps.pure _ _
    · split
      · exact Keeps.pure _ _
      · rename_i monolith found
        have written := setMonolith_sameMonoliths { ctx with clients := ctx.clients.erase client } found
        exact Keeps.modify_bind (written _) (Keeps.pure _ _)

end Sections

/-! ## Monoliths that come and go -/

/-- A change of which monoliths are connected. -/
inductive Churn where
  | joined (monolith : BalancerMonolith)
  | left (id : MonolithId)

/-- A send that times out takes its monolith for bad. -/
def BalancerTask.disconnects (result : SendResult) : BalancerTask → Option MonolithId
  | .join _ monolith _ | .leave monolith => if result = .timeout then some monolith else none
  | .gossip _ _ => none

/-- The change that a step makes. -/
def BalancerState.churn (state : BalancerState) : BalancerLabel → Option Churn
  | .joinMonolith monolith receiverOpen =>
      if receiverOpen then some (.joined { id := monolith.id, region := monolith.region }) else none
  | .leaveMonolith id => some (.left id)
  | .resume index result =>
      match state.tasks[index]? with
      | none => none
      | some task => (task.disconnects result).map .left
  | _ => none

namespace Churn

/-- A joining monolith is of the region, or the region has no list, or one of its list is connected
then. A leaving one is the last of all, or the region has no list, or another one of its list
stays. -/
def Keeps (region : Region) (ctx : BalancerContext) : Churn → Prop
  | .joined monolith => monolith.region = region ∨
      ∀ ids ∈ ctx.monolithsByRegion.lookup region, ∃ id ∈ ids, id = monolith.id ∨ id ∈ ctx.monoliths
  | .left gone => (∀ id ∈ ctx.monoliths.keys, id = gone) ∨
      ∀ ids ∈ ctx.monolithsByRegion.lookup region, ∃ id ∈ ids, id ≠ gone ∧ id ∈ ctx.monoliths

instance (region : Region) (ctx : BalancerContext) : DecidablePred (Keeps region ctx)
  | .joined _ => inferInstanceAs (Decidable (_ ∨ ∀ ids ∈ ctx.monolithsByRegion.lookup region, _))
  | .left _ => inferInstanceAs (Decidable (_ ∨ ∀ ids ∈ ctx.monolithsByRegion.lookup region, _))

end Churn

namespace BalancerContext

/-- Where something is connected, the region is represented. -/
def Selectable (region : Region) (ctx : BalancerContext) : Prop :=
  (∃ id, id ∈ ctx.monoliths) → ctx.Represented region

variable {region : Region} {ctx after : BalancerContext}

theorem SameMonoliths.selectable_iff (same : SameMonoliths ctx after) :
    after.Selectable region ↔ ctx.Selectable region := by
  unfold Selectable Represented
  simp only [same.connected, same.byRegion]

theorem SameMonoliths.left_iff (same : SameMonoliths ctx after) (id : MonolithId) :
    (Churn.left id).Keeps region after ↔ (Churn.left id).Keeps region ctx := by
  unfold Churn.Keeps
  simp only [← AList.mem_keys, same.connected, same.byRegion]

theorem selectable_addMonolith (monolith : BalancerMonolith) :
    (ctx.addMonolith monolith).Selectable region ↔ (Churn.joined monolith).Keeps region ctx := by
  have joined : ∀ id, id ∈ (ctx.addMonolith monolith).monoliths ↔
      id = monolith.id ∨ id ∈ ctx.monoliths := fun id => AList.mem_insert _
  have listed : (ctx.addMonolith monolith).monolithsByRegion.lookup region =
      if region = monolith.region then
        some ((ctx.monolithsByRegion.lookup monolith.region).getD [] ++ [monolith.id])
      else ctx.monolithsByRegion.lookup region := Table.lookup_insert_ite _ _ _ _
  have selectable : (ctx.addMonolith monolith).Selectable region ↔
      (ctx.addMonolith monolith).Represented region :=
    ⟨fun selectable => selectable ⟨monolith.id, (joined _).mpr (.inl rfl)⟩, fun all _ => all⟩
  rw [selectable]
  unfold Represented Churn.Keeps
  simp only [joined, listed]
  by_cases here : region = monolith.region
  · refine iff_of_true (fun ids is => ?_) (.inl here.symm)
    rw [if_pos here] at is
    obtain rfl := Option.some.inj is
    exact ⟨monolith.id, List.mem_append_right _ (List.mem_singleton.mpr rfl), .inl rfl⟩
  · rw [if_neg here, or_iff_right (Ne.symm here)]

theorem mem_removeMonolith {id other : MonolithId} :
    other ∈ (ctx.removeMonolith id).monoliths ↔ other ≠ id ∧ other ∈ ctx.monoliths :=
  AList.mem_erase

/-- Apart from the monolith that leaves, a region lists what it did. -/
theorem listed_removeMonolith (region : Region) (ctx : BalancerContext) (id : MonolithId) :
    ∃ update : List MonolithId → List MonolithId,
      (ctx.removeMonolith id).monolithsByRegion.lookup region =
          (ctx.monolithsByRegion.lookup region).map update ∧
        ∀ ids other, other ≠ id → (other ∈ update ids ↔ other ∈ ids) := by
  have same : ∀ ids other, other ≠ id → (other ∈ (fun ids : List MonolithId => ids) ids ↔ other ∈ ids) :=
    fun _ _ _ => Iff.rfl
  unfold removeMonolith
  cases ctx.monoliths.lookup id with
  | none => exact ⟨fun ids => ids, by simp, same⟩
  | some monolith =>
      cases listed : ctx.monolithsByRegion.lookup monolith.region with
      | none => exact ⟨fun ids => ids, by simp [listed], same⟩
      | some ids =>
          by_cases here : region = monolith.region
          · subst here
            refine ⟨List.filter fun other => decide (other ≠ id), ?_, fun ids other apart => ?_⟩
            · simp [listed]
            · simp [apart]
          · exact ⟨fun ids => ids, by simp [listed, AList.lookup_insert_ne here], same⟩

theorem selectable_removeMonolith (id : MonolithId) :
    (ctx.removeMonolith id).Selectable region ↔ (Churn.left id).Keeps region ctx := by
  obtain ⟨update, listed, others⟩ := listed_removeMonolith region ctx id
  have represented : (ctx.removeMonolith id).Represented region ↔
      ∀ ids ∈ ctx.monolithsByRegion.lookup region, ∃ other ∈ ids,
        other ≠ id ∧ other ∈ ctx.monoliths := by
    unfold Represented
    rw [listed]
    constructor
    · intro all ids is
      obtain ⟨other, inside, there⟩ := all (update ids) (Option.mem_map_of_mem update is)
      have left := mem_removeMonolith.mp there
      exact ⟨other, (others ids other left.1).mp inside, left⟩
    · intro all _ updated
      obtain ⟨ids, is, rfl⟩ := Option.mem_map.mp updated
      obtain ⟨other, inside, left⟩ := all ids is
      exact ⟨other, (others ids other left.1).mpr inside, mem_removeMonolith.mpr left⟩
  unfold Selectable Churn.Keeps
  rw [represented, imp_iff_not_or]
  refine or_congr_left ?_
  simp only [mem_removeMonolith, not_exists, not_and, ← AList.mem_keys]
  exact forall_congr' fun other => ⟨fun gone there => not_imp_not.mp (fun apart => gone apart) there,
    fun last apart there => apart (last there)⟩

end BalancerContext

namespace BalancerState

/-- A step may be taken: a monolith that comes or goes keeps the region selectable. -/
def MaySelect (region : Region) (state : BalancerState) (label : BalancerLabel) : Prop :=
  ∀ churn ∈ state.churn label, churn.Keeps region state.ctx

instance (region : Region) (state : BalancerState) (label : BalancerLabel) :
    Decidable (state.MaySelect region label) :=
  inferInstanceAs (Decidable (∀ churn ∈ state.churn label, _))

open BalancerContext

variable {region : Region} {state : BalancerState}

/-- A section that leaves the monoliths alone. -/
theorem spawn_sameMonoliths {section' : BalancerM (Option BalancerTask)}
    (kept : Keeps SameMonoliths section' state.ctx) :
    SameMonoliths state.ctx (state.spawn section').ctx := by
  rw [spawn_ctx]
  exact kept

/-- The rest of a task leaves the monoliths alone, or takes one of them for bad. -/
theorem runTask_monoliths (ctx : BalancerContext) (task : BalancerTask) (result : SendResult) :
    match task.disconnects result with
    | none => Keeps SameMonoliths (runTask task result) ctx
    | some id => ∃ middle, SameMonoliths ctx middle ∧
        (runTask task result).after ctx = middle.removeMonolith id := by
  have undone : ∀ (client : NewClient) (id : MonolithId), Keeps SameMonoliths
      (tryCatch (BalancerContext.removeRoom client.room id) fun _ => pure ()) ctx := fun client id =>
    Keeps.tryCatch (removeRoom_sameMonoliths _ _) fun _ _ => Keeps.pure _ _
  cases task with
  | join client id created =>
      cases result with
      | ok =>
          refine Keeps.bind ?_ fun _ _ => Keeps.pure _ _
          unfold finishJoin
          refine Keeps.get_bind ?_
          split
          · exact Keeps.throw _ _
          · rename_i monolith found
            exact Keeps.modify_bind (setMonolith_sameMonoliths ctx found _) ⟨fun _ => Iff.rfl, rfl⟩
      | timeout =>
          cases created with
          | false => exact ⟨ctx, refl ctx, rfl⟩
          | true =>
              refine ⟨_, undone client id, ?_⟩
              unfold runTask finishJoin
              simp only [if_true, after_bind, outcome_bind, after_tryCatch, outcome_tryCatch]
              cases (BalancerContext.removeRoom client.room id).outcome ctx <;> rfl
      | otherError =>
          refine Keeps.bind ?_ fun _ _ => Keeps.pure _ _
          cases created with
          | false => exact Keeps.throw _ _
          | true => exact Keeps.bind (undone client id) fun _ _ => Keeps.throw _ _
  | leave id =>
      cases result with
      | ok => exact Keeps.pure _ _
      | timeout => exact ⟨ctx, refl ctx, rfl⟩
      | otherError => exact Keeps.throw _ _
  | gossip id work =>
      match work with
      | [] => exact Keeps.pure _ _
      | .sync report :: rest =>
          have kept : SameMonoliths ctx _ := addOrSyncRoomCtx_sameMonoliths report id
          rw [← (runTask_sync report id rest result ctx).1] at kept
          exact kept
      | .remove room :: rest =>
          have kept : SameMonoliths ctx _ := removeRoom_sameMonoliths room id
          rw [← (runTask_remove room id rest result ctx).1] at kept
          exact kept

/-- A step that keeps what is selectable is one that may be taken. -/
theorem selectable_next (label : BalancerLabel) (selectable : state.ctx.Selectable region) :
    (state.next label).ctx.Selectable region ↔ state.MaySelect region label := by
  have quiet : ∀ {after : BalancerContext}, SameMonoliths state.ctx after →
      state.churn label = none → (after.Selectable region ↔ state.MaySelect region label) := by
    intro after same none_
    refine iff_of_true (same.selectable_iff.mpr selectable) ?_
    rw [MaySelect, none_]
    exact nofun
  have changed : ∀ {after : BalancerContext} {churn : Churn}, state.churn label = some churn →
      (after.Selectable region ↔ churn.Keeps region state.ctx) →
      (after.Selectable region ↔ state.MaySelect region label) := by
    intro after churn some_ kept
    rw [kept, MaySelect, some_]
    exact ⟨fun keeps _ is => Option.some.inj is ▸ keeps, fun all => all churn rfl⟩
  cases label with
  | joinClient selection client =>
      refine quiet (spawn_sameMonoliths ?_) rfl
      exact Keeps.bind (joinClient_sameMonoliths selection client) fun _ _ => Keeps.pure _ _
  | leaveClient id => exact quiet (spawn_sameMonoliths (leaveClient_sameMonoliths id)) rfl
  | joinMonolith monolith receiverOpen =>
      cases receiverOpen with
      | false => exact quiet (refl state.ctx) rfl
      | true => exact changed rfl (selectable_addMonolith _)
  | leaveMonolith id => exact changed rfl (selectable_removeMonolith id)
  | loaded monolith report => exact quiet (addOrSyncRoomCtx_sameMonoliths report monolith) rfl
  | unloaded monolith room => exact quiet (removeRoom_sameMonoliths room monolith) rfl
  | gossip monolith rooms => exact quiet (refl state.ctx) rfl
  | resume index result =>
      cases found : state.tasks[index]? with
      | none =>
          rw [next_resume_none found]
          exact quiet (refl state.ctx) (by simp only [churn, found])
      | some task =>
          have churned : state.churn (.resume index result) = (task.disconnects result).map .left := by
            simp only [churn, found]
          rw [next_resume found, spawn_ctx]
          have ran := runTask_monoliths state.ctx task result
          cases dropped : task.disconnects result with
          | none =>
              rw [dropped] at churned ran
              exact quiet ran churned
          | some id =>
              rw [dropped] at churned ran
              obtain ⟨middle, same, after⟩ := ran
              rw [after]
              exact changed churned ((selectable_removeMonolith id).trans (same.left_iff id))

end BalancerState

/-- Some monolith is connected, or there is none. -/
theorem monoliths_ne_empty {ctx : BalancerContext} :
    ctx.monoliths ≠ ∅ ↔ ∃ id, id ∈ ctx.monoliths := by
  constructor
  · intro some_
    by_contra none_
    refine some_ (AList.ext (List.eq_nil_iff_forall_not_mem.mpr fun entry member => none_ ?_))
    exact ⟨entry.1, AList.mem_keys.mpr (List.mem_map_of_mem member)⟩
  · rintro ⟨id, there⟩ none_
    rw [none_] at there
    cases there

/-- In every run of the balancer, whatever is connected something is selected throughout, just when
every monolith that comes or goes leaves the balancer's region represented. -/
theorem connected_monolith_selected {world : SelectionWorld} (lawful : world.Lawful)
    (region : Region) (labels : List BalancerLabel) :
    TransitionSystem.throughout BalancerState.next
        (fun state => state.ctx.monoliths ≠ ∅ → state.ctx.Selects world region) labels {} ↔
      TransitionSystem.runs BalancerState.next (BalancerState.MaySelect region) labels {} = true := by
  have selects : ∀ state : BalancerState,
      (state.ctx.monoliths ≠ ∅ → state.ctx.Selects world region) ↔ state.ctx.Selectable region := by
    intro state
    rw [monoliths_ne_empty, BalancerContext.Selectable]
    exact forall_congr' (BalancerContext.selects_iff lawful)
  refine TransitionSystem.throughout_iff (fun state label holds => ?_) labels ?_
  · rw [selects]
    exact BalancerState.selectable_next label ((selects state).mp holds)
  · exact fun some_ => absurd rfl some_

/-- The first of everything. -/
def firstOfAll : SelectionWorld where
  choose monoliths := monoliths.head?
  ringGet nodes _ := nodes.head?

theorem firstOfAll_lawful : firstOfAll.Lawful where
  choose_mem chosen := List.mem_of_mem_head? chosen
  choose_none := List.head?_eq_none_iff
  ringGet_mem got := List.mem_of_mem_head? got
  ringGet_none := List.head?_eq_none_iff

/-- A monolith elsewhere comes first, and goes when there is one in the region. -/
theorem connected_monolith_selected_local :
    TransitionSystem.throughout BalancerState.next
      (fun state => state.ctx.monoliths ≠ ∅ → state.ctx.Selects firstOfAll "us")
      [.joinMonolith ⟨"m1", "eu"⟩ true, .joinMonolith ⟨"m2", "us"⟩ true, .leaveMonolith "m1"] {} :=
  (connected_monolith_selected firstOfAll_lawful "us" _).mpr (by decide +kernel)

/-- When the only monolith of the region goes, the one elsewhere is no longer selected. -/
theorem connected_monolith_unselected : ¬ ∀ labels : List BalancerLabel,
    TransitionSystem.throughout BalancerState.next
      (fun state => state.ctx.monoliths ≠ ∅ → state.ctx.Selects firstOfAll "us") labels {} := by
  intro always
  have last := TransitionSystem.throughout_run (always
    [.joinMonolith ⟨"m1", "us"⟩ true, .joinMonolith ⟨"m2", "eu"⟩ true, .leaveMonolith "m1"])
  have connected : "m2" ∈ (TransitionSystem.run BalancerState.next [.joinMonolith ⟨"m1", "us"⟩ true,
      .joinMonolith ⟨"m2", "eu"⟩ true, .leaveMonolith "m1"] {}).ctx.monoliths := by decide +kernel
  have selects := last (monoliths_ne_empty.mpr ⟨"m2", connected⟩)
  exact absurd ((BalancerContext.selects_iff firstOfAll_lawful ⟨"m2", connected⟩).mp selects)
    (by decide +kernel)

end OpenTogetherTube.Balancer
