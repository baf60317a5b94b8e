import OpenTogetherTube.Balancer.Dispatch

/-!
# Where the balancer locates a room

A client that joins a located room unwraps the located monolith and its entry for the room.
Both are there as long as the two tables agree. `add_or_sync_room_ctx` writes the locator
before it looks for the monolith, so a report that arrives after its monolith was removed
leaves a locator to nothing; `join_monolith` under an id in use empties the entry that
locators point to. Every other section keeps the tables in agreement, on every error path.
-/

namespace OpenTogetherTube.Balancer

open Lib Handler

/-- Every located room is on a monolith that is there and has the room. -/
def Located (ctx : BalancerContext) : Prop :=
  ∀ room locator, ctx.roomsToMonoliths.lookup room = some locator →
    ∃ monolith, ctx.monoliths.lookup locator.monolithId = some monolith ∧ room ∈ monolith.rooms

/-- Forgetting where a room is leaves the monoliths as they are. -/
theorem unlocate_monoliths (ctx : BalancerContext) (room : RoomName) (id : MonolithId) :
    (ctx.unlocate room id).monoliths = ctx.monoliths := by
  unfold BalancerContext.unlocate
  split
  · split <;> rfl
  · rfl

/-- What is still located was located before, and is not the room on that monolith. -/
theorem lookup_unlocate {ctx : BalancerContext} {room other : RoomName} {id : MonolithId}
    {locator : RoomLocator}
    (read : (ctx.unlocate room id).roomsToMonoliths.lookup other = some locator) :
    ctx.roomsToMonoliths.lookup other = some locator ∧
      (locator.monolithId = id → other ≠ room) := by
  unfold BalancerContext.unlocate at read
  split at read
  · rename_i found known
    split at read
    · obtain ⟨different, before⟩ := Table.lookup_erase_cases read
      exact ⟨before, fun _ => different⟩
    · rename_i elsewhere
      refine ⟨read, ?_⟩
      rintro here rfl
      rw [read] at known
      cases known
      exact elsewhere here
  · rename_i unknown
    refine ⟨read, ?_⟩
    rintro _ rfl
    rw [read] at unknown
    cases unknown

namespace Located

variable {ctx after : BalancerContext} {room : RoomName} {locator : RoomLocator}
  {id : MonolithId} {monolith : BalancerMonolith}

variable (located : Located ctx)

include located

theorem forget (same : after.monoliths = ctx.monoliths)
    (fewer : ∀ room locator, after.roomsToMonoliths.lookup room = some locator →
      ctx.roomsToMonoliths.lookup room = some locator) : Located after := by
  intro room locator read
  rw [same]
  exact located room locator (fewer room locator read)

/-- An entry may be replaced by one that has every room located there. -/
theorem setMonolith
    (covers : ∀ room locator, ctx.roomsToMonoliths.lookup room = some locator →
      locator.monolithId = id → room ∈ monolith.rooms) :
    Located (ctx.setMonolith id monolith) := by
  intro room locator read
  by_cases here : locator.monolithId = id
  · refine ⟨monolith, ?_, covers room locator read here⟩
    rw [here]
    exact AList.lookup_insert _
  · obtain ⟨other, found, has⟩ := located room locator read
    refine ⟨other, ?_, has⟩
    rw [← found]
    exact AList.lookup_insert_ne here

theorem locate
    (known : ctx.monoliths.lookup locator.monolithId = some monolith)
    (has : room ∈ monolith.rooms) : Located (ctx.locate room locator) := by
  intro other found read
  rcases Table.lookup_insert_cases read with ⟨rfl, rfl⟩ | ⟨_, before⟩
  · exact ⟨monolith, known, has⟩
  · exact located other found before

omit located in
/-- An entry may grow. -/
theorem grow {old : BalancerMonolith} (located : Located ctx)
    (known : ctx.monoliths.lookup id = some old)
    (more : ∀ room, room ∈ old.rooms → room ∈ monolith.rooms) :
    Located (ctx.setMonolith id monolith) := by
  refine located.setMonolith fun room locator read here => ?_
  obtain ⟨holder, found, has⟩ := located room locator read
  rw [here, known] at found
  cases found
  exact more room has

theorem removeMonolith (id : MonolithId) :
    Located (ctx.removeMonolith id) := by
  intro room locator read
  obtain ⟨before, elsewhere⟩ := Table.lookup_retain.mp read
  obtain ⟨monolith, found, has⟩ := located room locator before
  refine ⟨monolith, ?_, has⟩
  rw [← found]
  exact AList.lookup_erase_ne (of_decide_eq_true elsewhere)

/-- A monolith nothing points to may join. -/
theorem addMonolith
    (unused : ∀ room locator, ctx.roomsToMonoliths.lookup room = some locator →
      locator.monolithId ≠ monolith.id) : Located (ctx.addMonolith monolith) := by
  intro room locator read
  obtain ⟨holder, found, has⟩ := located room locator read
  refine ⟨holder, ?_, has⟩
  rw [← found]
  exact AList.lookup_insert_ne (unused room locator read)

/-- A room may be forgotten by the monolith it was located on, and by no other one. -/
theorem removeRoom (known : ctx.monoliths.lookup id = some monolith) :
    Located ((ctx.unlocate room id).setMonolith id (monolith.removeRoom room)) := by
  have forgotten : Located (ctx.unlocate room id) :=
    located.forget (unlocate_monoliths ctx room id) fun _ _ read => (lookup_unlocate read).1
  refine forgotten.setMonolith fun other locator read here => ?_
  obtain ⟨before, different⟩ := lookup_unlocate read
  obtain ⟨holder, found, has⟩ := located other locator before
  rw [here, known] at found
  cases found
  exact AList.mem_erase.mpr ⟨different here, has⟩

end Located

/-- A section that keeps the tables in agreement. -/
def KeepsLocated (before after : BalancerContext) : Prop :=
  Located before → Located after

instance : IsPreorder BalancerContext KeepsLocated where
  refl _ located := located
  trans _ _ _ first second located := second (first located)

section Sections

variable (ctx : BalancerContext)

theorem removeRoom_keeps (room : RoomName) (id : MonolithId) :
    Keeps KeepsLocated (BalancerContext.removeRoom room id) ctx := by
  unfold BalancerContext.removeRoom
  refine Keeps.get_bind ?_
  split
  · exact Keeps.throw _ _
  · rename_i monolith known
    intro located
    exact located.removeRoom known

/-- The locator is written before the room, but only when the monolith is there; a monolith
that refuses the room has it. -/
theorem addRoom_keeps (room : RoomName) (locator : RoomLocator) :
    Keeps KeepsLocated (BalancerContext.addRoom room locator) ctx := by
  unfold BalancerContext.addRoom
  refine Keeps.get_bind ?_
  split
  · exact Keeps.throw _ _
  · rename_i monolith known
    unfold BalancerMonolith.addRoom
    split
    · rename_i refused
      split at refused
      · rename_i has
        intro located
        exact located.locate known has
      · cases refused
    · rename_i extended added
      split at added
      · cases added
      · cases added
        intro located
        have grown : Located (ctx.setMonolith locator.monolithId
            { monolith with rooms := monolith.rooms.insert room { name := room } }) :=
          located.grow known fun other has => (AList.mem_insert _).mpr (Or.inr has)
        exact grown.locate (AList.lookup_insert _) ((AList.mem_insert _).mpr (Or.inl rfl))

theorem joinClient_keeps (selection : Selection) (client : NewClient) :
    Keeps KeepsLocated (joinClient selection client) ctx := by
  unfold joinClient
  refine Keeps.get_bind ?_
  split
  · split
    · exact Keeps.throw _ _
    · split
      · exact Keeps.throw _ _
      · exact Keeps.pure _ _
  · split
    · exact Keeps.throw _ _
    · refine Keeps.bind (addRoom_keeps ctx _ _) fun _ _ => Keeps.get_bind ?_
      split
      · exact Keeps.throw _ _
      · exact Keeps.pure _ _

theorem removeMonolith_keeps (id : MonolithId) :
    KeepsLocated ctx (ctx.removeMonolith id) :=
  fun located => located.removeMonolith id

theorem finishJoin_keeps (client : NewClient) (id : MonolithId) (created : Bool)
    (result : SendResult) : Keeps KeepsLocated (finishJoin client id created result) ctx := by
  have undone : ∀ ctx : BalancerContext,
      Keeps KeepsLocated
        (tryCatch (BalancerContext.removeRoom client.room id) fun _ => pure ()) ctx := fun ctx =>
    Keeps.tryCatch (removeRoom_keeps ctx _ _) fun _ _ => Keeps.pure _ _
  unfold finishJoin
  cases result with
  | ok =>
      refine Keeps.get_bind ?_
      split
      · exact Keeps.throw _ _
      · rename_i monolith known
        intro located
        have grown : Located (ctx.setMonolith id (monolith.addClient client.room client.id)) :=
          located.grow known fun other has => (AList.mem_insert _).mpr (Or.inr has)
        exact grown
  | timeout =>
      cases created with
      | false => exact removeMonolith_keeps ctx id
      | true =>
          refine Keeps.bind (undone ctx) fun _ _ => ?_
          exact removeMonolith_keeps _ id
  | otherError =>
      cases created with
      | false => exact Keeps.throw _ _
      | true => exact Keeps.bind (undone ctx) fun _ _ => Keeps.throw _ _

theorem leaveClient_keeps (id : ClientId) : Keeps KeepsLocated (leaveClient id) ctx := by
  unfold leaveClient
  refine Keeps.get_bind ?_
  split
  · exact Keeps.throw _ _
  · split
    · exact fun located => located
    · rename_i locator _
      split
      · exact fun located => located
      · rename_i monolith known
        intro located
        have grown : Located (ctx.setMonolith locator.monolithId (monolith.removeClient id)) :=
          located.grow known fun other has => Table.mem_mapValues.mpr has
        exact grown

theorem finishLeave_keeps (id : MonolithId) (result : SendResult) :
    Keeps KeepsLocated (finishLeave id result) ctx := by
  cases result with
  | ok => exact Keeps.pure _ _
  | timeout => exact removeMonolith_keeps ctx id
  | otherError => exact Keeps.throw _ _

/-- A report locates the room on a monolith that is there, and leaves a locator to nothing
when the monolith is not. -/
theorem recordRoom_located (located : Located ctx) (report : GossipRoom) (id : MonolithId) :
    Located ((recordRoom report id).after ctx) ↔ id ∈ ctx.monoliths := by
  unfold recordRoom
  rw [after_modify_bind, after_get_bind]
  cases found : ctx.monoliths.lookup id with
  | none =>
      have entry : (ctx.locate report.room.name ⟨id, report.loadEpoch⟩).monoliths.lookup id =
          none := found
      rw [entry]
      refine ⟨fun agreed => ?_, fun known => absurd known (AList.lookup_eq_none.mp found)⟩
      obtain ⟨monolith, there, _⟩ :=
        agreed report.room.name ⟨id, report.loadEpoch⟩ (AList.lookup_insert _)
      cases entry.symm.trans there
  | some monolith =>
      have entry : (ctx.locate report.room.name ⟨id, report.loadEpoch⟩).monoliths.lookup id =
          some monolith := found
      rw [entry]
      have grown : Located (ctx.setMonolith id (monolith.addOrSyncRoom report.room)) :=
        located.grow found fun other has => (AList.mem_insert _).mpr (Or.inr has)
      have recorded : Located ((ctx.setMonolith id (monolith.addOrSyncRoom report.room)).locate
          report.room.name ⟨id, report.loadEpoch⟩) :=
        grown.locate (AList.lookup_insert _) ((AList.mem_insert _).mpr (Or.inl rfl))
      exact ⟨fun _ => AList.lookup_isSome.mp (found ▸ rfl), fun _ => recorded⟩

/-- A room taken off one monolith leaves the others as they are. -/
theorem removeRoom_of_known {id : MonolithId} (known : id ∈ ctx.monoliths) (room : RoomName) :
    (BalancerContext.removeRoom room id).outcome ctx = .ok () ∧
      ∀ other, other ∈ ((BalancerContext.removeRoom room id).after ctx).monoliths ↔
        other ∈ ctx.monoliths := by
  obtain ⟨monolith, found⟩ := Option.isSome_iff_exists.mp (AList.lookup_isSome.mpr known)
  unfold BalancerContext.removeRoom
  rw [outcome_get_bind, after_get_bind, found]
  refine ⟨rfl, fun other => ?_⟩
  have entries : other ∈ ((ctx.unlocate room id).setMonolith id (monolith.removeRoom room)).monoliths
      ↔ other = id ∨ other ∈ (ctx.unlocate room id).monoliths := AList.mem_insert _
  rw [unlocate_monoliths] at entries
  refine entries.trans ⟨?_, Or.inr⟩
  rintro (rfl | there)
  · exact known
  · exact there

end Sections

/-- The monolith of a report is there, or the report is turned away before anything is
written. -/
def Announced (ctx : BalancerContext) (id : MonolithId) (report : GossipRoom) : Prop :=
  id ∈ ctx.monoliths ∨
    ∃ locator ∈ ctx.roomsToMonoliths.lookup report.room.name,
      locator.monolithId ≠ id ∧ locator.loadEpoch ≤ report.loadEpoch

instance (ctx : BalancerContext) (id : MonolithId) (report : GossipRoom) :
    Decidable (Announced ctx id report) :=
  inferInstanceAs (Decidable (_ ∨ _))

/-- The tables agree after a report exactly when it was announced. -/
theorem addOrSyncRoomCtx_located {ctx : BalancerContext} (located : Located ctx)
    (report : GossipRoom) (id : MonolithId) :
    Located ((addOrSyncRoomCtx report id).after ctx) ↔ Announced ctx id report := by
  unfold addOrSyncRoomCtx Announced
  rw [after_get_bind]
  cases read : ctx.roomsToMonoliths.lookup report.room.name with
  | none =>
      refine (recordRoom_located ctx located report id).trans ⟨Or.inl, ?_⟩
      rintro (known | ⟨_, found, _⟩)
      · exact known
      · cases found
  | some locator =>
      by_cases here : locator.monolithId = id
      · simp only [here, ne_eq, not_true_eq_false, if_false]
        refine (recordRoom_located ctx located report id).trans ⟨Or.inl, ?_⟩
        rintro (known | ⟨_, found, elsewhere, _⟩)
        · exact known
        · cases found
          exact absurd here elsewhere
      · obtain ⟨holder, found, _⟩ := located _ locator read
        have held : locator.monolithId ∈ ctx.monoliths := AList.lookup_isSome.mp (found ▸ rfl)
        simp only [ne_eq, here, not_false_eq_true, if_true]
        cases order : compare locator.loadEpoch report.loadEpoch with
        | lt =>
            have earlier : locator.loadEpoch ≤ report.loadEpoch := by
              rw [← Std.isLE_compare, order]
              rfl
            have unchanged : Located (after (if id ∈ ctx.monoliths
                then throw .roomAlreadyLoaded else throw .monolithNotFound : BalancerM Unit) ctx) := by
              split <;> exact located
            exact ⟨fun _ => Or.inr ⟨locator, rfl, here, earlier⟩, fun _ => unchanged⟩
        | eq =>
            have equal : locator.loadEpoch ≤ report.loadEpoch := by
              rw [← Std.isLE_compare, order]
              rfl
            exact ⟨fun _ => Or.inr ⟨locator, rfl, here, equal⟩, fun _ => located⟩
        | gt =>
            have later : ¬ locator.loadEpoch ≤ report.loadEpoch := by
              rw [← Std.isLE_compare, order]
              exact Bool.false_ne_true
            obtain ⟨removed, entries⟩ := removeRoom_of_known ctx held report.room.name
            have kept := removeRoom_keeps ctx report.room.name locator.monolithId located
            simp only [held, if_true]
            rw [after_bind, removed]
            refine (recordRoom_located _ kept report id).trans ((entries id).trans ⟨Or.inl, ?_⟩)
            rintro (known | ⟨_, same, _, earlier⟩)
            · exact known
            · cases same
              exact absurd earlier later

/-- The next section of a task is no report, or an announced one. -/
def BalancerTask.Orderly (ctx : BalancerContext) : BalancerTask → Prop
  | .gossip id (.sync report :: _) => Announced ctx id report
  | _ => True

instance (ctx : BalancerContext) : ∀ task : BalancerTask, Decidable (task.Orderly ctx)
  | .gossip id (.sync report :: _) => inferInstanceAs (Decidable (Announced ctx id report))
  | .gossip _ [] => .isTrue trivial
  | .gossip _ (.remove _ :: _) => .isTrue trivial
  | .join _ _ _ => .isTrue trivial
  | .leave _ => .isTrue trivial

namespace BalancerState

/-- A step whose report is announced and whose new monolith has an id no locator uses. -/
def Orderly (state : BalancerState) : BalancerLabel → Prop
  | .loaded id report => Announced state.ctx id report
  | .resume index _ => ∀ task ∈ state.tasks[index]?, task.Orderly state.ctx
  | .joinMonolith monolith receiverOpen =>
      receiverOpen = true → ∀ locator ∈ state.ctx.roomsToMonoliths.values,
        locator.monolithId ≠ monolith.id
  | _ => True

instance (state : BalancerState) : ∀ label, Decidable (state.Orderly label)
  | .loaded id report => inferInstanceAs (Decidable (Announced state.ctx id report))
  | .resume index _ =>
      inferInstanceAs (Decidable (∀ task ∈ state.tasks[index]?, task.Orderly state.ctx))
  | .joinMonolith _ receiverOpen => inferInstanceAs (Decidable (receiverOpen = true → _))
  | .joinClient _ _ => .isTrue trivial
  | .leaveClient _ => .isTrue trivial
  | .leaveMonolith _ => .isTrue trivial
  | .unloaded _ _ => .isTrue trivial
  | .gossip _ _ => .isTrue trivial

/-- The tables after a section do not depend on the task it leaves. -/
theorem spawn_ctx (state : BalancerState) (section' : BalancerM (Option BalancerTask)) :
    (state.spawn section').ctx = section'.after state.ctx := by
  unfold spawn
  dsimp only
  split <;> rfl

/-- A monolith that joins empties the entry under its id. -/
theorem joinMonolith_located {ctx : BalancerContext} (located : Located ctx)
    (monolith : NewMonolith) (receiverOpen : Bool) :
    Located ((Balancer.joinMonolith monolith receiverOpen).after ctx) ↔
      (receiverOpen = true → ∀ locator ∈ ctx.roomsToMonoliths.values,
        locator.monolithId ≠ monolith.id) := by
  cases receiverOpen with
  | false =>
      refine ⟨fun _ opened => ?_, fun _ => located⟩
      cases opened
  | true =>
      refine ⟨fun agreed _ locator used same => ?_, fun unused => ?_⟩
      · obtain ⟨room, read⟩ := Table.exists_lookup_of_mem_values used
        obtain ⟨entry, found, has⟩ := agreed room locator read
        have fresh : ((Balancer.joinMonolith monolith true).after ctx).monoliths.lookup
            locator.monolithId = some { id := monolith.id, region := monolith.region } := by
          rw [same]
          exact AList.lookup_insert _
        cases fresh.symm.trans found
        exact AList.notMem_empty room has
      · exact located.addMonolith fun _ locator read =>
          unused rfl locator (Table.mem_values_of_lookup read)

/-- The next section of a task keeps the tables in agreement unless it is a report that was
not announced. -/
theorem runTask_located {ctx : BalancerContext} (located : Located ctx) (task : BalancerTask)
    (result : SendResult) :
    Located ((runTask task result).after ctx) ↔ task.Orderly ctx := by
  cases task with
  | join client id created =>
      refine iff_of_true (Keeps.bind (finishJoin_keeps ctx client id created result) ?_ located) trivial
      exact fun _ _ => Keeps.pure _ _
  | leave id =>
      refine iff_of_true (Keeps.bind (finishLeave_keeps ctx id result) ?_ located) trivial
      exact fun _ _ => Keeps.pure _ _
  | gossip id work =>
      cases work with
      | nil => exact iff_of_true located trivial
      | cons item rest =>
          cases item with
          | sync report =>
              have ctxAfter : (runTask (.gossip id (.sync report :: rest)) result).after ctx =
                  (addOrSyncRoomCtx report id).after ctx := by
                unfold runTask
                rw [after_tryCatch, outcome_bind, after_bind]
                cases (addOrSyncRoomCtx report id).outcome ctx <;> rfl
              rw [ctxAfter]
              exact addOrSyncRoomCtx_located located report id
          | remove room =>
              have kept : Keeps KeepsLocated (runTask (.gossip id (.remove room :: rest)) result)
                  ctx := by
                refine Keeps.tryCatch ?_ fun _ _ => Keeps.pure _ _
                exact Keeps.bind (removeRoom_keeps ctx room id) fun _ _ => Keeps.pure _ _
              exact iff_of_true (kept located) trivial

/-- From tables in agreement, a step keeps them so exactly when it is orderly. -/
theorem next_located {state : BalancerState} (located : Located state.ctx)
    (label : BalancerLabel) : Located (state.next label).ctx ↔ state.Orderly label := by
  cases label with
  | joinClient selection client =>
      refine iff_of_true ?_ trivial
      have kept : Located ((some <$> Balancer.joinClient selection client).after state.ctx) := by
        rw [map_eq_pure_bind]
        exact Keeps.bind (joinClient_keeps state.ctx selection client)
          (fun _ _ => Keeps.pure _ _) located
      exact (spawn_ctx state _).symm ▸ kept
  | leaveClient id =>
      exact iff_of_true ((spawn_ctx state _).symm ▸ leaveClient_keeps state.ctx id located) trivial
  | joinMonolith monolith receiverOpen => exact joinMonolith_located located monolith receiverOpen
  | leaveMonolith id => exact iff_of_true (located.removeMonolith id) trivial
  | loaded id report => exact addOrSyncRoomCtx_located located report id
  | unloaded id room => exact iff_of_true (removeRoom_keeps state.ctx room id located) trivial
  | gossip id rooms => exact iff_of_true located trivial
  | resume index result =>
      cases found : state.tasks[index]? with
      | none =>
          simp only [next, Orderly, found]
          exact iff_of_true located nofun
      | some task =>
          simp only [next, Orderly, found, spawn_ctx]
          refine (runTask_located located task result).trans ⟨?_, fun orderly => orderly task rfl⟩
          rintro orderly _ ⟨⟩
          exact orderly

/-- A room is refused with a reason, or its monolith is there. -/
theorem addRoom_cases (ctx : BalancerContext) (room : RoomName) (locator : RoomLocator) :
    (∃ error, (BalancerContext.addRoom room locator).outcome ctx = .error error ∧
        error ≠ .panic) ∨
      (BalancerContext.addRoom room locator).outcome ctx = .ok () ∧
        ∃ monolith, ((BalancerContext.addRoom room locator).after ctx).monoliths.lookup
          locator.monolithId = some monolith := by
  unfold BalancerContext.addRoom
  rw [outcome_get_bind, after_get_bind]
  cases ctx.monoliths.lookup locator.monolithId with
  | none => exact Or.inl ⟨_, rfl, nofun⟩
  | some monolith =>
      simp only [outcome_modify_bind, after_modify_bind]
      unfold BalancerMonolith.addRoom
      by_cases has : room ∈ monolith.rooms
      · simp only [has, if_true]
        exact Or.inl ⟨_, rfl, nofun⟩
      · simp only [has, if_false]
        exact Or.inr ⟨rfl, _, AList.lookup_insert _⟩

/-- A client that joins finds what it unwraps when the tables agree. -/
theorem joinClient_never_panics {ctx : BalancerContext} (located : Located ctx)
    (selection : Selection) (client : NewClient) :
    (Balancer.joinClient selection client).outcome ctx ≠ .error .panic := by
  unfold Balancer.joinClient
  rw [outcome_get_bind]
  cases read : ctx.roomsToMonoliths.lookup client.room with
  | some locator =>
      obtain ⟨monolith, found, has⟩ := located client.room locator read
      obtain ⟨room, entry⟩ := Option.isSome_iff_exists.mp (AList.lookup_isSome.mpr has)
      simp only [found, entry, outcome_pure]
      exact nofun
  | none =>
      dsimp only
      cases chosen : selection.selectMonolith client.room (ctx.filterMonoliths selection.region) with
      | none => exact nofun
      | some selected =>
          dsimp only
          rw [outcome_bind]
          rcases addRoom_cases ctx client.room ⟨selected.id, 0xffffffff⟩ with
            ⟨error, refused, reason⟩ | ⟨added, monolith, found⟩
          · rw [refused]
            intro panicked
            cases panicked
            exact reason rfl
          · rw [added]
            dsimp only
            rw [outcome_get_bind, found]
            exact nofun

/-- The state after a sequence of labels. -/
def run (labels : List BalancerLabel) : BalancerState :=
  TransitionSystem.run next labels {}

section Sample

/-- What monolith `m` says about the room. -/
def cinema : GossipRoom := ⟨{ name := "cinema" }, 7⟩

/-- A monolith that is dropped on a send timeout while its socket still delivers a report. -/
def staleReport : List BalancerLabel :=
  [.joinMonolith { id := "m" } true, .joinClient {} { id := "c", room := "cinema" },
    .resume 0 .timeout, .loaded "m" cinema]

/-- A client that creates a room on a monolith, which then reports it. -/
def servedRoom : List BalancerLabel :=
  [.joinMonolith { id := "m" } true, .joinClient {} { id := "c", room := "cinema" },
    .resume 0 .ok, .loaded "m" cinema]

end Sample

/-- In every run of orderly steps the tables agree and no join panics; the first step that is
not orderly breaks the agreement. -/
theorem locators_agree {state : BalancerState}
    (reachable : (balancerSystem.restrict Orderly).Reachable state) :
    Located state.ctx ∧
      (∀ selection client, (Balancer.joinClient selection client).outcome state.ctx ≠
        .error .panic) ∧
      ∀ label, Located (state.next label).ctx ↔ state.Orderly label := by
  have invariant : (balancerSystem.restrict Orderly).Inductive fun state => Located state.ctx := by
    constructor
    · rintro _ rfl room locator read
      cases read
    · rintro before label _ located ⟨orderly, rfl⟩
      exact (next_located located label).mpr orderly
  have located := invariant.of_reachable reachable
  exact ⟨located, joinClient_never_panics located, next_located located⟩

/-- A client creates a room and the monolith reports it. -/
theorem locators_agree_served :
    (balancerSystem.restrict Orderly).Reachable (run servedRoom) ∧
      Located (run servedRoom).ctx ∧
        "cinema" ∈ (run servedRoom).ctx.roomsToMonoliths := by
  have reachable : (balancerSystem.restrict Orderly).Reachable (run servedRoom) := by
    have taken : TransitionSystem.runs next Orderly servedRoom {} = true := by
      decide +kernel
    have step : ∀ state label, Orderly state label →
        (balancerSystem.restrict Orderly).Step state label (state.next label) :=
      fun _ _ orderly => ⟨orderly, rfl⟩
    exact ⟨{}, rfl, TransitionSystem.steps_run step _ _ taken⟩
  exact ⟨reachable, (locators_agree reachable).1, by decide +kernel⟩

/-- A room reported by a monolith that was removed is located on nothing, and the next client
that joins it panics. -/
theorem stale_report_dangles :
    balancerSystem.Reachable (run staleReport) ∧ ¬ Located (run staleReport).ctx ∧
      (Balancer.joinClient {} { id := "c", room := "cinema" }).outcome (run staleReport).ctx =
        .error .panic := by
  have reachable : balancerSystem.Reachable (run staleReport) :=
    have taken : TransitionSystem.runs next (fun _ _ => True) staleReport {} = true := rfl
    ⟨{}, rfl, TransitionSystem.steps_run (fun _ _ _ => rfl) _ _ taken⟩
  have panicked : (Balancer.joinClient {} { id := "c", room := "cinema" }).outcome
      (run staleReport).ctx = .error .panic := by
    decide +kernel
  exact ⟨reachable, fun located => joinClient_never_panics located _ _ panicked, panicked⟩

end BalancerState

end OpenTogetherTube.Balancer
