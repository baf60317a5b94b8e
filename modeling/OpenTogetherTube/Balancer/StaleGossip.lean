import Mathlib.Data.List.Perm.Basic
import OpenTogetherTube.Balancer.Locator

/-!
# A gossip that is older than a join

While `join_client` sends its `B2MJoin` the room is located on the monolith it chose, which may
not have heard of the room yet. A gossip the monolith built before then does not list the room,
and the gossip handler drops what a gossip does not list. A gossip that lists the room and whose
report is taken in leaves it where it is.
-/

namespace OpenTogetherTube.Balancer

open Lib Lib.Handler

/-- The room is located on the monolith. -/
def RoutedTo (room : RoomName) (id : MonolithId) (ctx : BalancerContext) : Prop :=
  (ctx.roomsToMonoliths.lookup room).map RoomLocator.monolithId = some id

instance (room : RoomName) (id : MonolithId) (ctx : BalancerContext) :
    Decidable (RoutedTo room id ctx) :=
  inferInstanceAs (Decidable (_ = _))

/-- A report that is taken in: its monolith is connected, and the room is nowhere else, or on a
connected monolith that loaded it later. -/
def Accepts (id : MonolithId) (report : GossipRoom) (ctx : BalancerContext) : Prop :=
  id ∈ ctx.monoliths ∧ ∀ locator ∈ ctx.roomsToMonoliths.lookup report.room.name,
    locator.monolithId = id ∨
      report.loadEpoch < locator.loadEpoch ∧ locator.monolithId ∈ ctx.monoliths

instance (id : MonolithId) (report : GossipRoom) (ctx : BalancerContext) :
    Decidable (Accepts id report ctx) :=
  inferInstanceAs (Decidable (_ ∧ _))

/-- The monolith has the room, as far as the balancer knows, and the rooms do not include it. -/
def Omits (id : MonolithId) (room : RoomName) (rooms : List GossipRoom) (ctx : BalancerContext) :
    Prop :=
  (∃ monolith ∈ ctx.monoliths.lookup id, room ∈ monolith.rooms) ∧
    ∀ report ∈ rooms, report.room.name ≠ room

instance (id : MonolithId) (room : RoomName) (rooms : List GossipRoom) (ctx : BalancerContext) :
    Decidable (Omits id room rooms ctx) :=
  inferInstanceAs (Decidable (_ ∧ _))

/-- A gossip of the monolith in progress is going to drop the room. -/
def BalancerTask.drops (id : MonolithId) (room : RoomName) : BalancerTask → Bool
  | .gossip sender work => decide (sender = id) && decide (.remove room ∈ work)
  | _ => false

/-- The next section of a task does not turn away the monolith's report of the room. -/
def BalancerTask.Mindful (id : MonolithId) (room : RoomName) (ctx : BalancerContext) :
    BalancerTask → Prop
  | .gossip sender (.sync report :: _) =>
      sender = id → report.room.name = room → Accepts id report ctx
  | _ => True

instance (id : MonolithId) (room : RoomName) (ctx : BalancerContext) :
    ∀ task : BalancerTask, Decidable (task.Mindful id room ctx)
  | .gossip _ (.sync _ :: _) => inferInstanceAs (Decidable (_ → _ → Accepts _ _ _))
  | .gossip _ [] => .isTrue trivial
  | .gossip _ (.remove _ :: _) => .isTrue trivial
  | .join _ _ _ => .isTrue trivial
  | .leave _ => .isTrue trivial

namespace BalancerState

/-- A gossip of the monolith lists the room when it is expected to have it, and its report of the
room is taken in. -/
def Mindful (id : MonolithId) (room : RoomName) (state : BalancerState) : BalancerLabel → Prop
  | .gossip sender rooms => sender = id → ¬ Omits id room rooms state.ctx
  | .resume index _ => ∀ task ∈ state.tasks[index]?, task.Mindful id room state.ctx
  | _ => True

instance (id : MonolithId) (room : RoomName) (state : BalancerState) :
    ∀ label, Decidable (state.Mindful id room label)
  | .gossip _ _ => inferInstanceAs (Decidable (_ → ¬ _))
  | .resume index _ =>
      inferInstanceAs (Decidable (∀ task ∈ state.tasks[index]?, task.Mindful id room state.ctx))
  | .joinClient _ _ => .isTrue trivial
  | .leaveClient _ => .isTrue trivial
  | .joinMonolith _ _ => .isTrue trivial
  | .leaveMonolith _ => .isTrue trivial
  | .loaded _ _ => .isTrue trivial
  | .unloaded _ _ => .isTrue trivial

/-- A section of a gossip of the monolith. -/
def gossips (id : MonolithId) (state : BalancerState) : BalancerLabel → Bool
  | .gossip sender _ => decide (sender = id)
  | .resume index _ => state.tasks[index]?.any fun task =>
      match task with
      | .gossip sender _ => decide (sender = id)
      | _ => false
  | _ => false

end BalancerState

section Sections

variable (ctx : BalancerContext) {room : RoomName} {id : MonolithId}

theorem removeRoom_lookup {other : RoomName} (different : room ≠ other) (sender : MonolithId) :
    ((BalancerContext.removeRoom other sender).after ctx).roomsToMonoliths.lookup room =
      ctx.roomsToMonoliths.lookup room := by
  unfold BalancerContext.removeRoom
  rw [after_get_bind]
  cases ctx.monoliths.lookup sender with
  | none => rfl
  | some monolith =>
      change (ctx.unlocate other sender).roomsToMonoliths.lookup room = _
      unfold BalancerContext.unlocate
      split
      · split
        · exact AList.lookup_erase_ne different
        · rfl
      · rfl

/-- A report locates the room it is about. -/
theorem recordRoom_lookup (report : GossipRoom) (sender : MonolithId) :
    ((recordRoom report sender).after ctx).roomsToMonoliths.lookup room =
      if room = report.room.name then some ⟨sender, report.loadEpoch⟩
      else ctx.roomsToMonoliths.lookup room := by
  unfold recordRoom
  rw [after_modify_bind, after_get_bind]
  have located := Table.lookup_insert_ite ctx.roomsToMonoliths report.room.name room
    ⟨sender, report.loadEpoch⟩
  cases (ctx.locate report.room.name ⟨sender, report.loadEpoch⟩).monoliths.lookup sender with
  | none => exact located
  | some monolith => exact located

/-- A report leaves the other rooms where they are. -/
theorem addOrSyncRoomCtx_lookup {report : GossipRoom} (different : room ≠ report.room.name)
    (sender : MonolithId) :
    ((addOrSyncRoomCtx report sender).after ctx).roomsToMonoliths.lookup room =
      ctx.roomsToMonoliths.lookup room := by
  have recorded : ∀ ctx : BalancerContext,
      ((recordRoom report sender).after ctx).roomsToMonoliths.lookup room =
        ctx.roomsToMonoliths.lookup room := by
    intro ctx
    rw [recordRoom_lookup, if_neg different]
  unfold addOrSyncRoomCtx
  rw [after_get_bind]
  cases ctx.roomsToMonoliths.lookup report.room.name with
  | none => exact recorded ctx
  | some locator =>
      dsimp only
      split
      · split
        · rw [after_ite]
          split <;> rfl
        · rw [after_ite]
          split
          · rw [after_bind]
            have removed := removeRoom_lookup ctx different locator.monolithId
            cases (BalancerContext.removeRoom report.room.name locator.monolithId).outcome ctx with
            | ok _ => exact (recorded _).trans removed
            | error _ => exact removed
          · rfl
        · rfl
      · exact recorded ctx

/-- The write of a report is complete when its monolith is connected. -/
theorem recordRoom_ok (report : GossipRoom) (known : id ∈ ctx.monoliths) :
    (recordRoom report id).outcome ctx = .ok () := by
  obtain ⟨monolith, found⟩ := Option.isSome_iff_exists.mp (AList.lookup_isSome.mpr known)
  have entry : (ctx.locate report.room.name ⟨id, report.loadEpoch⟩).monoliths.lookup id =
      some monolith := found
  unfold recordRoom
  rw [outcome_modify_bind, outcome_get_bind, entry]
  rfl

/-- A report that is taken in does not fail. -/
theorem addOrSyncRoomCtx_ok {report : GossipRoom} (accepted : Accepts id report ctx) :
    (addOrSyncRoomCtx report id).outcome ctx = .ok () := by
  obtain ⟨known, elsewhere⟩ := accepted
  unfold addOrSyncRoomCtx
  rw [outcome_get_bind]
  cases read : ctx.roomsToMonoliths.lookup report.room.name with
  | none => exact recordRoom_ok ctx report known
  | some locator =>
      dsimp only
      by_cases here : locator.monolithId = id
      · rw [if_neg (not_not.mpr here)]
        exact recordRoom_ok ctx report known
      · rw [if_pos here]
        rcases elsewhere locator read with same | ⟨earlier, there⟩
        · exact absurd same here
        · have order : compare locator.loadEpoch report.loadEpoch = .gt :=
            Std.compare_eq_gt.mpr earlier
          obtain ⟨removed, entries⟩ := removeRoom_of_known ctx there report.room.name
          rw [order]
          dsimp only
          rw [if_pos there, outcome_bind, removed]
          exact recordRoom_ok _ report ((entries id).mpr known)

/-- A monolith's report of a room that is on it leaves it there. -/
theorem addOrSyncRoomCtx_routed (report : GossipRoom) (routed : RoutedTo room id ctx) :
    RoutedTo room id ((addOrSyncRoomCtx report id).after ctx) := by
  by_cases ours : room = report.room.name
  · obtain ⟨locator, read, here⟩ := Option.map_eq_some_iff.mp routed
    have recorded : (addOrSyncRoomCtx report id).after ctx = (recordRoom report id).after ctx := by
      unfold addOrSyncRoomCtx
      rw [after_get_bind, ← ours, read]
      dsimp only
      rw [if_neg (not_not.mpr here)]
    unfold RoutedTo
    rw [recorded, recordRoom_lookup, if_pos ours]
    rfl
  · unfold RoutedTo
    rw [addOrSyncRoomCtx_lookup ctx ours]
    exact routed

end Sections

section Pending

variable {α : Type} {pending : List α} {index : Nat} {value member : α}

/-- What is taken out at an index and what stays. -/
theorem eraseIdx_perm (found : pending[index]? = some value) :
    (value :: pending.eraseIdx index).Perm pending := by
  obtain ⟨inside, rfl⟩ := List.getElem?_eq_some_iff.mp found
  exact List.getElem_cons_eraseIdx_perm inside

theorem mem_or_eraseIdx (found : pending[index]? = some value) (inside : member ∈ pending) :
    member = value ∨ member ∈ pending.eraseIdx index :=
  List.mem_cons.mp ((eraseIdx_perm found).mem_iff.mpr inside)

end Pending

namespace BalancerState

variable {id : MonolithId} {room : RoomName} {state : BalancerState}

/-- No gossip of the monolith in progress is going to drop the room. -/
def Keeping (id : MonolithId) (room : RoomName) (state : BalancerState) : Prop :=
  ∀ task ∈ state.tasks, task.drops id room = false

instance (id : MonolithId) (room : RoomName) (state : BalancerState) :
    Decidable (state.Keeping id room) :=
  inferInstanceAs (Decidable (∀ task ∈ state.tasks, _))

/-- A join leaves the task of sending it. -/
theorem joinClient_task {selection : Selection} {client : NewClient} {ctx : BalancerContext}
    {task : BalancerTask} (joined : (Balancer.joinClient selection client).outcome ctx = .ok task) :
    ∃ monolith created, task = .join client monolith created := by
  unfold Balancer.joinClient at joined
  rw [outcome_get_bind] at joined
  cases read : ctx.roomsToMonoliths.lookup client.room with
  | some locator =>
      rw [read] at joined
      dsimp only at joined
      cases found : ctx.monoliths.lookup locator.monolithId with
      | none =>
          rw [found] at joined
          cases joined
      | some monolith =>
          rw [found] at joined
          dsimp only at joined
          cases entry : monolith.rooms.lookup client.room with
          | none =>
              rw [entry] at joined
              cases joined
          | some room =>
              rw [entry] at joined
              cases joined
              exact ⟨_, _, rfl⟩
  | none =>
      rw [read] at joined
      dsimp only at joined
      cases chosen : selection.selectMonolith client.room (ctx.filterMonoliths selection.region) with
      | none =>
          rw [chosen] at joined
          cases joined
      | some selected =>
          rw [chosen] at joined
          dsimp only at joined
          rw [outcome_bind] at joined
          cases added : (BalancerContext.addRoom client.room ⟨selected.id, 0xffffffff⟩).outcome ctx with
          | error _ =>
              rw [added] at joined
              cases joined
          | ok _ =>
              rw [added] at joined
              dsimp only at joined
              rw [outcome_get_bind] at joined
              split at joined
              · cases joined
              · cases joined
                exact ⟨_, _, rfl⟩

/-- A leave leaves the task of sending it, or none. -/
theorem leaveClient_task {client : ClientId} {ctx : BalancerContext} {task : BalancerTask}
    (left : (Balancer.leaveClient client).outcome ctx = .ok (some task)) :
    ∃ monolith, task = .leave monolith := by
  unfold Balancer.leaveClient at left
  rw [outcome_get_bind] at left
  cases known : ctx.clients.lookup client with
  | none =>
      rw [known] at left
      cases left
  | some removed =>
      rw [known] at left
      dsimp only at left
      rw [outcome_modify_bind] at left
      cases read : ctx.roomsToMonoliths.lookup removed.room with
      | none =>
          rw [read] at left
          cases left
      | some locator =>
          rw [read] at left
          dsimp only at left
          cases found : ctx.monoliths.lookup locator.monolithId with
          | none =>
              rw [found] at left
              cases left
          | some monolith =>
              rw [found] at left
              cases left
              exact ⟨_, rfl⟩

/-- A section adds what it leaves to the tasks. -/
theorem spawn_keeping (keeping : state.Keeping id room)
    (section' : BalancerM (Option BalancerTask))
    (left : ∀ task, section'.outcome state.ctx = .ok (some task) → task.drops id room = false) :
    (state.spawn section').Keeping id room := by
  unfold spawn
  dsimp only
  split
  · rename_i task returned
    rintro other (_ | ⟨_, member⟩)
    · exact left task returned
    · exact keeping other member
  · exact keeping

/-- A gossip takes in a report, and is going to drop the room if that fails. -/
theorem runTask_sync (report : GossipRoom) (sender : MonolithId) (rest : List GossipWork)
    (result : SendResult) (ctx : BalancerContext) :
    (runTask (.gossip sender (.sync report :: rest)) result).after ctx =
        (addOrSyncRoomCtx report sender).after ctx ∧
      (runTask (.gossip sender (.sync report :: rest)) result).outcome ctx =
        match (addOrSyncRoomCtx report sender).outcome ctx with
        | .ok _ => .ok (some (.gossip sender rest))
        | .error _ => .ok (some (.gossip sender (.remove report.room.name :: rest))) := by
  unfold runTask
  rw [after_tryCatch, outcome_tryCatch, outcome_bind, after_bind]
  cases (addOrSyncRoomCtx report sender).outcome ctx <;> exact ⟨rfl, rfl⟩

theorem runTask_remove (other : RoomName) (sender : MonolithId) (rest : List GossipWork)
    (result : SendResult) (ctx : BalancerContext) :
    (runTask (.gossip sender (.remove other :: rest)) result).after ctx =
        (BalancerContext.removeRoom other sender).after ctx ∧
      (runTask (.gossip sender (.remove other :: rest)) result).outcome ctx =
        .ok (some (.gossip sender rest)) := by
  unfold runTask
  rw [after_tryCatch, outcome_tryCatch, outcome_bind, after_bind]
  cases (BalancerContext.removeRoom other sender).outcome ctx <;> exact ⟨rfl, rfl⟩

/-- What is left of a gossip drops the room only if its report was turned away. -/
theorem runTask_drops {ctx : BalancerContext} {task rest : BalancerTask} (result : SendResult)
    (keeps : task.drops id room = false) (mindful : task.Mindful id room ctx)
    (returned : (runTask task result).outcome ctx = .ok (some rest)) :
    rest.drops id room = false := by
  have shorter : ∀ {sender item work}, BalancerTask.drops id room (.gossip sender (item :: work)) = false →
      BalancerTask.drops id room (.gossip sender work) = false := by
    intro sender item work whole
    unfold BalancerTask.drops at whole ⊢
    rw [Bool.and_eq_false_iff, decide_eq_false_iff_not, decide_eq_false_iff_not] at whole ⊢
    exact whole.imp_right fun absent member => absent (List.mem_cons_of_mem _ member)
  cases task with
  | join client monolith created =>
      unfold runTask at returned
      rw [outcome_bind] at returned
      cases ended : (finishJoin client monolith created result).outcome ctx with
      | ok _ =>
          rw [ended] at returned
          cases returned
      | error _ =>
          rw [ended] at returned
          cases returned
  | leave monolith =>
      unfold runTask at returned
      rw [outcome_bind] at returned
      cases ended : (finishLeave monolith result).outcome ctx with
      | ok _ =>
          rw [ended] at returned
          cases returned
      | error _ =>
          rw [ended] at returned
          cases returned
  | gossip sender work =>
      cases work with
      | nil => cases returned
      | cons item work =>
          have later := shorter keeps
          cases item with
          | sync report =>
              have failed : rest = .gossip sender work ∨
                  rest = .gossip sender (.remove report.room.name :: work) ∧
                    (addOrSyncRoomCtx report sender).outcome ctx ≠ .ok () := by
                rw [(runTask_sync report sender work result ctx).2] at returned
                cases ended : (addOrSyncRoomCtx report sender).outcome ctx with
                | ok _ =>
                    rw [ended] at returned
                    cases returned
                    exact Or.inl rfl
                | error _ =>
                    rw [ended] at returned
                    cases returned
                    exact Or.inr ⟨rfl, by rintro ⟨⟩⟩
              rcases failed with rfl | ⟨rfl, refused⟩
              · exact later
              · unfold BalancerTask.drops at later ⊢
                rw [Bool.and_eq_false_iff, decide_eq_false_iff_not, decide_eq_false_iff_not]
                  at later ⊢
                by_cases ours : sender = id
                · subst ours
                  refine Or.inr ?_
                  rintro (_ | ⟨_, member⟩)
                  · exact refused (addOrSyncRoomCtx_ok ctx (mindful rfl rfl))
                  · exact later.elim (fun never => never rfl) fun absent => absent member
                · exact Or.inl ours
          | remove other =>
              rw [(runTask_remove other sender work result ctx).2] at returned
              cases returned
              exact later

/-- The second section of a join leaves no task. -/
theorem spawn_join (state : BalancerState) (client : NewClient) (monolith : MonolithId)
    (created : Bool) (result : SendResult) :
    state.spawn (runTask (.join client monolith created) result) =
      ⟨(finishJoin client monolith created result).after state.ctx, state.tasks⟩ := by
  unfold spawn runTask
  dsimp only
  rw [outcome_bind, after_bind]
  cases (finishJoin client monolith created result).outcome state.ctx <;> rfl

/-- A task that goes on. -/
theorem next_resume {index : Nat} {task : BalancerTask} {result : SendResult}
    (found : state.tasks[index]? = some task) :
    state.next (.resume index result) =
      { state with tasks := state.tasks.eraseIdx index }.spawn (runTask task result) := by
  simp only [next, found]

/-- There is no such task. -/
theorem next_resume_none {index : Nat} {result : SendResult} (missing : state.tasks[index]? = none) :
    state.next (.resume index result) = state := by
  simp only [next, missing]

/-- A gossip that begins goes through what it reports, and through what the monolith has and it
does not report. -/
theorem gossip_work {ctx : BalancerContext} {sender : MonolithId} {rooms : List GossipRoom}
    {task : BalancerTask} (begun : Balancer.gossip sender rooms ctx = some task) :
    ∃ monolith work, ctx.monoliths.lookup sender = some monolith ∧ task = .gossip sender work ∧
      (∀ report, .sync report ∈ work ↔ report ∈ rooms) ∧
      ∀ other, .remove other ∈ work ↔
        other ∈ monolith.rooms ∧ ∀ report ∈ rooms, report.room.name ≠ other := by
  unfold Balancer.gossip at begun
  cases known : ctx.monoliths.lookup sender with
  | none =>
      rw [known] at begun
      cases begun
  | some monolith =>
      rw [known] at begun
      cases begun
      refine ⟨monolith, _, rfl, rfl, fun report => ?_, fun other => ?_⟩
      · simp
      · simp [AList.mem_keys]

theorem gossip_drops {ctx : BalancerContext} {sender : MonolithId} {rooms : List GossipRoom}
    {task : BalancerTask} (begun : Balancer.gossip sender rooms ctx = some task)
    (lists : sender = id → ¬ Omits id room rooms ctx) : task.drops id room = false := by
  obtain ⟨monolith, work, known, rfl, _, removes⟩ := gossip_work begun
  unfold BalancerTask.drops
  rw [Bool.and_eq_false_iff, decide_eq_false_iff_not, decide_eq_false_iff_not]
  by_cases ours : sender = id
  · subst ours
    refine Or.inr fun member => ?_
    obtain ⟨held, unlisted⟩ := (removes room).mp member
    exact lists rfl ⟨⟨monolith, known, held⟩, unlisted⟩
  · exact Or.inl ours

/-- A step that is mindful of the room leaves no gossip that is going to drop it. -/
theorem next_keeping (keeping : state.Keeping id room) {label : BalancerLabel}
    (mindful : state.Mindful id room label) : (state.next label).Keeping id room := by
  cases label with
  | joinClient selection client =>
      refine spawn_keeping keeping _ fun task returned => ?_
      rw [map_eq_pure_bind, outcome_bind] at returned
      cases joined : (Balancer.joinClient selection client).outcome state.ctx with
      | error _ =>
          rw [joined] at returned
          cases returned
      | ok begun =>
          rw [joined] at returned
          cases returned
          have shape := joinClient_task joined
          obtain ⟨monolith, created, rfl⟩ := shape
          rfl
  | leaveClient client =>
      refine spawn_keeping keeping _ fun task returned => ?_
      obtain ⟨monolith, rfl⟩ := leaveClient_task returned
      rfl
  | joinMonolith monolith receiverOpen => exact keeping
  | leaveMonolith monolith => exact keeping
  | loaded monolith report => exact keeping
  | unloaded monolith other => exact keeping
  | gossip sender rooms =>
      intro task member
      rcases List.mem_append.mp member with new | old
      · exact gossip_drops (Option.mem_toList.mp new) mindful
      · exact keeping task old
  | resume index result =>
      cases found : state.tasks[index]? with
      | none =>
          rw [next_resume_none found]
          exact keeping
      | some task =>
          rw [next_resume found]
          have others : Keeping id room { state with tasks := state.tasks.eraseIdx index } :=
            fun other member => keeping other (List.mem_of_mem_eraseIdx member)
          refine spawn_keeping others _ fun rest returned => ?_
          exact runTask_drops result (keeping task (List.mem_of_getElem? found))
            (mindful task found) returned

/-- A section of a gossip of the monolith leaves the room where it is, unless it drops it. -/
theorem gossip_routed (keeping : state.Keeping id room) (routed : RoutedTo room id state.ctx)
    {label : BalancerLabel} (section' : state.gossips id label = true) :
    RoutedTo room id (state.next label).ctx := by
  cases label with
  | gossip sender rooms => exact routed
  | resume index result =>
      unfold gossips at section'
      dsimp only at section'
      cases found : state.tasks[index]? with
      | none =>
          rw [next_resume_none found]
          exact routed
      | some task =>
          have kept := keeping task (List.mem_of_getElem? found)
          rw [found] at section'
          rw [next_resume found, spawn_ctx]
          cases task with
          | join client monolith created => cases section'
          | leave monolith => cases section'
          | gossip sender work =>
              have ours : sender = id := of_decide_eq_true section'
              subst ours
              cases work with
              | nil => exact routed
              | cons item work =>
                  cases item with
                  | sync report =>
                      dsimp only
                      rw [(runTask_sync report sender work result state.ctx).1]
                      exact addOrSyncRoomCtx_routed state.ctx report routed
                  | remove other =>
                      have different : room ≠ other := by
                        rintro rfl
                        unfold BalancerTask.drops at kept
                        simp at kept
                      dsimp only
                      unfold RoutedTo
                      rw [(runTask_remove other sender work result state.ctx).1,
                        removeRoom_lookup state.ctx different sender]
                      exact routed
  | joinClient selection client => cases section'
  | leaveClient client => cases section'
  | joinMonolith monolith receiverOpen => cases section'
  | leaveMonolith monolith => cases section'
  | loaded monolith report => cases section'
  | unloaded monolith other => cases section'

theorem addRoom_routed {ctx : BalancerContext} {locator : RoomLocator}
    (added : (BalancerContext.addRoom room locator).outcome ctx = .ok ()) :
    RoutedTo room locator.monolithId ((BalancerContext.addRoom room locator).after ctx) := by
  unfold BalancerContext.addRoom at added ⊢
  rw [outcome_get_bind] at added
  rw [after_get_bind]
  cases found : ctx.monoliths.lookup locator.monolithId with
  | none =>
      rw [found] at added
      cases added
  | some monolith =>
      rw [found] at added
      dsimp only at added ⊢
      rw [outcome_modify_bind] at added
      rw [after_modify_bind]
      cases extended : monolith.addRoom room with
      | error _ =>
          rw [extended] at added
          cases added
      | ok grown =>
          have located : (ctx.roomsToMonoliths.insert room locator).lookup room = some locator :=
            AList.lookup_insert _
          change Option.map _ ((ctx.roomsToMonoliths.insert room locator).lookup room) = _
          rw [located]
          rfl

theorem joinClient_routes {ctx : BalancerContext} {selection : Selection} {client : NewClient}
    {created : Bool}
    (picked : (Balancer.joinClient selection client).outcome ctx = .ok (.join client id created)) :
    RoutedTo client.room id ((Balancer.joinClient selection client).after ctx) := by
  unfold Balancer.joinClient at picked ⊢
  rw [outcome_get_bind] at picked
  rw [after_get_bind]
  cases read : ctx.roomsToMonoliths.lookup client.room with
  | some locator =>
      rw [read] at picked
      dsimp only at picked ⊢
      cases found : ctx.monoliths.lookup locator.monolithId with
      | none =>
          rw [found] at picked
          cases picked
      | some monolith =>
          rw [found] at picked
          dsimp only at picked ⊢
          cases entry : monolith.rooms.lookup client.room with
          | none =>
              rw [entry] at picked
              cases picked
          | some held =>
              rw [entry] at picked
              cases picked
              change Option.map _ (ctx.roomsToMonoliths.lookup client.room) = _
              rw [read]
              rfl
  | none =>
      rw [read] at picked
      dsimp only at picked ⊢
      cases chosen : selection.selectMonolith client.room (ctx.filterMonoliths selection.region) with
      | none =>
          rw [chosen] at picked
          cases picked
      | some selected =>
          rw [chosen] at picked
          dsimp only at picked ⊢
          rw [outcome_bind] at picked
          rw [after_bind]
          cases added : (BalancerContext.addRoom client.room ⟨selected.id, 0xffffffff⟩).outcome ctx with
          | error _ =>
              rw [added] at picked
              cases picked
          | ok _ =>
              have routed := addRoom_routed added
              rw [added] at picked
              dsimp only at picked ⊢
              rw [outcome_get_bind] at picked
              rw [after_get_bind]
              split at picked
              · cases picked
              · cases picked
                exact routed

theorem joinClient_routed {ctx : BalancerContext} (routed : RoutedTo room id ctx)
    {selection : Selection} {client : NewClient} (asks : client.room = room) {task : BalancerTask}
    (joined : (Balancer.joinClient selection client).outcome ctx = .ok task) :
    task = .join client id false := by
  obtain ⟨locator, read, here⟩ := Option.map_eq_some_iff.mp routed
  unfold Balancer.joinClient at joined
  rw [outcome_get_bind, asks, read] at joined
  dsimp only at joined
  rw [here] at joined
  cases found : ctx.monoliths.lookup id with
  | none =>
      rw [found] at joined
      cases joined
  | some monolith =>
      rw [found] at joined
      dsimp only at joined
      cases entry : monolith.rooms.lookup room with
      | none =>
          rw [entry] at joined
          cases joined
      | some held =>
          rw [entry] at joined
          cases joined
          rfl

section Sample

/-- A room the monolith has loaded. -/
def theatre : GossipRoom := ⟨{ name := "theatre" }, 7⟩

/-- Two monoliths; the first reports the room and a client joins it there. -/
def joinLoaded : List BalancerLabel :=
  [.joinMonolith { id := "first" } true, .joinMonolith { id := "second" } true,
    .loaded "first" theatre]

/-- The same, before any monolith has the room. -/
def joinNew : List BalancerLabel :=
  [.joinMonolith { id := "first" } true, .joinMonolith { id := "second" } true]

/-- Choose the monolith that connected last. -/
def lastConnected : Selection := { selectMonolith := fun _ monoliths => monoliths.getLast? }

end Sample

/-- From the moment a join picks a monolith, in every run in which the gossips of that monolith
list the room and their reports of it are taken in, no section of such a gossip takes the room
off the monolith, and the next client that joins it is sent there. -/
theorem gossip_keeps_join {start : BalancerState} {selection : Selection} {client : NewClient}
    {created : Bool}
    (picked : (Balancer.joinClient selection client).outcome start.ctx = .ok (.join client id created))
    (keeping : start.Keeping id client.room) :
    RoutedTo client.room id (start.next (.joinClient selection client)).ctx ∧
      ∀ state, (balancerSystem.restrict (Mindful id client.room)).Steps
        (start.next (.joinClient selection client)) state →
        RoutedTo client.room id state.ctx → ∀ label, state.gossips id label = true →
          RoutedTo client.room id (state.next label).ctx ∧
            ∀ selection second task, second.room = client.room →
              (Balancer.joinClient selection second).outcome (state.next label).ctx = .ok task →
                task = .join second id false := by
  constructor
  · have after : (some <$> Balancer.joinClient selection client).after start.ctx =
        (Balancer.joinClient selection client).after start.ctx := by
      rw [map_eq_pure_bind, after_bind]
      cases (Balancer.joinClient selection client).outcome start.ctx <;> rfl
    have tables := spawn_ctx start (some <$> Balancer.joinClient selection client)
    change RoutedTo client.room id (start.spawn (some <$> Balancer.joinClient selection client)).ctx
    rw [tables, after]
    exact joinClient_routes picked
  · intro state window routed label section'
    have begun : (start.next (.joinClient selection client)).Keeping id client.room :=
      next_keeping keeping trivial
    have kept : state.Keeping id client.room := by
      refine TransitionSystem.Steps.relates (Keeping id client.room) begun ?_ window
      rintro before label _ _ kept ⟨mindful, rfl⟩
      exact next_keeping kept mindful
    have still := gossip_routed kept routed section'
    exact ⟨still, fun _ _ _ asks joined => joinClient_routed still asks joined⟩

/-- A client joins a room the monolith has loaded; the gossip of before lists it. -/
theorem gossip_keeps_join_loaded :
    RoutedTo "theatre" "first" (next (.resume 0 .ok) (TransitionSystem.run next
      [.joinClient {} { id := "c", room := "theatre" }, .gossip "first" [theatre]]
      (TransitionSystem.run next joinLoaded {}))).ctx := by
  have picked : (Balancer.joinClient {} { id := "c", room := "theatre" }).outcome
      (TransitionSystem.run next joinLoaded {}).ctx =
        .ok (.join { id := "c", room := "theatre" } "first" false) := by
    decide +kernel
  have keeping : (TransitionSystem.run next joinLoaded {}).Keeping "first" "theatre" := by
    decide +kernel
  have window : (balancerSystem.restrict (Mindful "first" "theatre")).Steps
      ((TransitionSystem.run next joinLoaded {}).next
        (.joinClient {} { id := "c", room := "theatre" }))
      (TransitionSystem.run next [.joinClient {} { id := "c", room := "theatre" },
        .gossip "first" [theatre]] (TransitionSystem.run next joinLoaded {})) := by
    refine Relation.ReflTransGen.single ⟨.gossip "first" [theatre], ?_, rfl⟩
    decide +kernel
  exact ((gossip_keeps_join picked keeping).2 _ window (by decide +kernel) (.resume 0 .ok)
    (by decide +kernel)).1

/-- A client joins a new room; a gossip of before does not list it and unroutes it while the join
is being sent, and the next client that joins the room is sent to the other monolith. -/
theorem stale_gossip_unroutes :
    balancerSystem.Reachable (TransitionSystem.run next
        (joinNew ++ [.joinClient {} { id := "c", room := "theatre" }, .gossip "first" [],
          .resume 0 .ok]) {}) ∧
      RoutedTo "theatre" "first" (TransitionSystem.run next
        (joinNew ++ [.joinClient {} { id := "c", room := "theatre" }]) {}).ctx ∧
      (.join { id := "c", room := "theatre" } "first" true) ∈ (TransitionSystem.run next
        (joinNew ++ [.joinClient {} { id := "c", room := "theatre" }, .gossip "first" [],
          .resume 0 .ok]) {}).tasks ∧
      "theatre" ∉ (TransitionSystem.run next
        (joinNew ++ [.joinClient {} { id := "c", room := "theatre" }, .gossip "first" [],
          .resume 0 .ok]) {}).ctx.roomsToMonoliths ∧
      (Balancer.joinClient lastConnected { id := "d", room := "theatre" }).outcome
        (TransitionSystem.run next (joinNew ++ [.joinClient {} { id := "c", room := "theatre" },
          .gossip "first" [], .resume 0 .ok]) {}).ctx =
        .ok (.join { id := "d", room := "theatre" } "second" true) := by
  refine ⟨?_, by decide +kernel, by decide +kernel, by decide +kernel, by decide +kernel⟩
  have taken : TransitionSystem.runs next (fun _ _ => True)
      (joinNew ++ [.joinClient {} { id := "c", room := "theatre" }, .gossip "first" [],
        .resume 0 .ok]) {} = true := rfl
  exact ⟨{}, rfl, TransitionSystem.steps_run (fun _ _ _ => rfl) _ _ taken⟩

end BalancerState

end OpenTogetherTube.Balancer
