import OpenTogetherTube.Manager.RoomManager
import OpenTogetherTube.Room.Permits
import OpenTogetherTube.Room.Rounds

/-!
# The queue cap and the saved queue

The cap is on the queue; a saved queue has the current item on top of it. So a room with a
full queue and a current item saves one item more than can ever be restored. Every run in
which the current item counts towards the cap keeps within it, over reloads too.
-/

namespace OpenTogetherTube

open Lib Lib.Handler

namespace Contents

/-- How many videos there are, the current one included. -/
def occupancy (contents : Contents) : Nat := contents.queue.length + contents.source.toList.length

variable (contents : Contents)

theorem takeNext_occupancy : contents.takeNext.occupancy = contents.queue.length := by
  unfold takeNext occupancy
  cases queue : contents.queue with
  | nil =>
      dsimp only
      split
      · simp [setSource, queue]
      · rename_i idle
        simpa [queue] using idle
  | cons video rest => simp [setSource]

theorem advance_occupancy : contents.advance.occupancy ≤ contents.occupancy := by
  have cleared : contents.clearSkipVotes.queue = contents.queue ∧
      contents.clearSkipVotes.source = contents.source := by
    unfold clearSkipVotes
    split <;> exact ⟨rfl, rfl⟩
  have same : contents.clearSkipVotes.occupancy = contents.occupancy := by
    unfold occupancy
    rw [cleared.1, cleared.2]
  rw [← same]
  unfold advance
  dsimp only
  split
  · rename_i source present _
    simp [setSource, occupancy, present]
  · rename_i source present _
    rw [takeNext_occupancy]
    simp [occupancy, present]
  · rw [takeNext_occupancy]
    exact Nat.le_add_right _ _

/-- Votes are no videos. -/
theorem voteToSkip_occupancy (clientId : Option ClientId) :
    (contents.voteToSkip clientId).occupancy = contents.occupancy ∧
      (contents.voteToSkip clientId).prevQueue = contents.prevQueue := by
  unfold voteToSkip
  split
  · split <;> exact ⟨rfl, rfl⟩
  · exact ⟨rfl, rfl⟩

theorem vote_occupancy (video : VideoId) (add : Bool) (clientId : ClientId) :
    (contents.vote video add clientId).occupancy = contents.occupancy ∧
      (contents.vote video add clientId).prevQueue = contents.prevQueue := by
  unfold vote
  split
  · exact ⟨rfl, rfl⟩
  · split <;> exact ⟨rfl, rfl⟩

theorem advance_prevQueue : contents.advance.prevQueue = contents.prevQueue := by
  have next : ∀ other : Contents, other.takeNext.prevQueue = other.prevQueue := by
    intro other
    unfold takeNext
    split
    · rfl
    · split <;> rfl
  have cleared : contents.clearSkipVotes.prevQueue = contents.prevQueue := by
    unfold clearSkipVotes
    split <;> rfl
  unfold advance
  dsimp only
  split
  · exact cleared
  · exact (next _).trans cleared
  · exact (next _).trans cleared

theorem pushCurrent_length : contents.pushCurrent.queue.length = contents.occupancy := by
  unfold pushCurrent occupancy
  split
  · rename_i source present
    simp [present]
  · rename_i absent
    simp [absent]

theorem pushCurrent_rest : contents.pushCurrent.source = contents.source ∧
    contents.pushCurrent.prevQueue = contents.prevQueue := by
  unfold pushCurrent
  split <;> exact ⟨rfl, rfl⟩

/-- The current video counts once more when it is queued anew. -/
theorem requeueCurrent_cases : (contents.requeueCurrent.source = contents.source ∧
    contents.requeueCurrent.prevQueue = contents.prevQueue) ∧
    (contents.requeueCurrent.queue.length = contents.occupancy ∧
        (∀ source ∈ contents.source, source ∉ contents.queue) ∨
      ∃ source, contents.source = some source ∧ source ∈ contents.queue ∧
        contents.requeueCurrent = contents) := by
  unfold requeueCurrent
  split
  · rename_i source present
    split
    · rename_i queued
      exact ⟨⟨rfl, rfl⟩, Or.inr ⟨source, present, queued, rfl⟩⟩
    · rename_i free
      refine ⟨pushCurrent_rest contents, Or.inl ⟨pushCurrent_length contents, ?_⟩⟩
      intro other same
      rw [present] at same
      cases same
      exact free
  · rename_i absent
    refine ⟨⟨rfl, rfl⟩, Or.inl ⟨by simp [occupancy, absent], ?_⟩⟩
    intro other same
    rw [absent] at same
    cases same

/-- No more videos are queued, and the same one plays. -/
theorem occupancy_le {after : Contents} (source : after.source = contents.source)
    (shorter : after.queue.length ≤ contents.queue.length) :
    after.occupancy ≤ contents.occupancy := by
  unfold occupancy
  rw [source]
  exact Nat.add_le_add_right shorter _

theorem setSource_some_occupancy (video : VideoId) :
    (contents.setSource (some video)).occupancy = contents.queue.length + 1 :=
  rfl

end Contents

namespace Room

variable (env : Env) (room : Room)

def queueSnapshot (now : Int) : Option (List QueueItem) :=
  let items := (room.currentSource.map fun item =>
    { item with startAt := some (room.realPlaybackPosition now) }).toList ++ room.queue
  if items.isEmpty then room.prevQueue else some items

/-- How many videos an action adds to those of the room, or none where they do not fit. -/
def grows (action : RoomAction) : Nat :=
  match action with
  | .request (.add request) _ =>
      let added := room.additions env request
      if room.queue.length + added ≤ MAX_QUEUE_ITEMS then added else 0
  | .request (.restoreQueue false) _ =>
      let saved := (room.prevQueue.getD []).length
      if room.queue.length + saved ≤ MAX_QUEUE_ITEMS then saved else 0
  | .request (.playNow video) context =>
      if room.playsNow env context video && decide (video.toVideoId ∉ room.contents.queue) then 1
      else 0
  | .request (.undo echo) _ =>
      match room.undoes echo with
      | some .skip =>
          if room.canRequeue && !room.currentSource.any fun item => room.queueContains item.toVideoId
          then 1 else 0
      | some .remove => if room.queue.length + 1 ≤ MAX_QUEUE_ITEMS then 1 else 0
      | _ => 0
  | _ => 0

/-- The action is no request, or one whose sender may do what it asks for. -/
def permits (action : RoomAction) : Bool :=
  match action with
  | .request request context =>
      (room.requiredPermissions request).all (room.grants.granted context.role)
  | _ => true

/-- What the action adds, if it is let through, fits in, the current item counted. -/
def hasSpaceFor (action : RoomAction) : Prop :=
  room.permits action = true → room.contents.occupancy + room.grows env action ≤ MAX_QUEUE_ITEMS

instance (action : RoomAction) : Decidable (room.hasSpaceFor env action) :=
  inferInstanceAs (Decidable (_ → _))

/-- The room holds no more videos than a queue can, and neither does its saved queue. -/
structure Capped (room : Room) : Prop where
  occupancy : room.contents.occupancy ≤ MAX_QUEUE_ITEMS
  saved : ∀ items ∈ room.prevQueue, items.length ≤ MAX_QUEUE_ITEMS

variable {env room}

/-- The undo of a skip adds the current video to the queue, unless it is queued. -/
theorem grows_undoSkip {echo : UndoEvent} (context : RoomRequestContext)
    (kind : room.undoes echo = some .skip) (fits : room.canRequeue = true)
    (free : ∀ source ∈ room.contents.source, source ∉ room.contents.queue) :
    room.grows env (.request (.undo echo) context) = 1 := by
  have unqueued : (room.currentSource.any fun item => room.queueContains item.toVideoId) = false := by
    cases present : room.currentSource with
    | none => rfl
    | some item =>
        have source : room.contents.source = some item.toVideoId := by
          change room.currentSource.map _ = _
          rw [present]
          rfl
        rw [Option.any_some, Bool.eq_false_iff, Ne, queueContains_iff]
        exact free _ source
  unfold grows
  dsimp only
  rw [kind]
  dsimp only
  rw [fits, unqueued]
  rfl

theorem grows_playNow {video : VideoAdd} {context : RoomRequestContext}
    (plays : room.playsNow env context video = true)
    (fresh : video.toVideoId ∉ room.contents.queue) :
    room.grows env (.request (.playNow video) context) = 1 := by
  unfold grows
  dsimp only
  rw [plays, decide_eq_true fresh]
  rfl

theorem grows_restoreQueue (context : RoomRequestContext) {videos : List VideoId}
    (saved : room.contents.prevQueue = some videos)
    (fits : room.contents.queue.length + videos.length ≤ MAX_QUEUE_ITEMS) :
    room.grows env (.request (.restoreQueue false) context) = videos.length := by
  change room.prevQueue.map _ = some videos at saved
  obtain ⟨items, present, rfl⟩ := Option.map_eq_some_iff.mp saved
  change (room.queue.map QueueItem.toVideoId).length + _ ≤ MAX_QUEUE_ITEMS at fits
  rw [List.length_map, List.length_map] at fits
  unfold grows
  dsimp only
  rw [present, Option.getD_some, if_pos fits, List.length_map]

/-- A turn adds as many videos as its action says, and never to the saved queue. -/
theorem turn_occupancy {action : RoomAction} {contents : Contents}
    (turn : Turn env room action contents) :
    contents.occupancy ≤ room.contents.occupancy + room.grows env action ∧
      (contents.prevQueue = none ∨ contents.prevQueue = room.contents.prevQueue) := by
  have length : room.contents.queue.length = room.queue.length := List.length_map _
  have fewer : ∀ {after : Contents} (added : Nat), after.source = room.contents.source →
      after.queue.length ≤ room.contents.queue.length →
      after.occupancy ≤ room.contents.occupancy + added := by
    intro after added source shorter
    exact (room.contents.occupancy_le source shorter).trans (Nat.le_add_right _ _)
  cases turn with
  | stayed => exact ⟨Nat.le_add_right _ _, Or.inr rfl⟩
  | reordered _ queue perm => exact ⟨fewer _ rfl perm.length_eq.le, Or.inr rfl⟩
  | joined info reconnect context => exact ⟨Nat.le_add_right _ _, Or.inr rfl⟩
  | left context clientId named present => exact ⟨Nat.le_add_right _ _, Or.inr rfl⟩
  | votedToSkip context playing may short =>
      obtain ⟨same, saved⟩ := Contents.voteToSkip_occupancy room.contents context.clientId
      exact ⟨same.le.trans (Nat.le_add_right _ _), Or.inr saved⟩
  | skipped context playing may enough =>
      obtain ⟨same, saved⟩ := Contents.voteToSkip_occupancy room.contents context.clientId
      refine ⟨?_, Or.inr ((Contents.advance_prevQueue _).trans saved)⟩
      exact (Contents.advance_occupancy _).trans (same.le.trans (Nat.le_add_right _ _))
  | advanced queue perm due =>
      have reordered : Contents.occupancy { room.contents.advance with queue } ≤
          room.contents.advance.occupancy :=
        room.contents.advance.occupancy_le rfl perm.length_eq.le
      refine ⟨?_, Or.inr (Contents.advance_prevQueue _)⟩
      exact (reordered.trans (Contents.advance_occupancy _)).trans (Nat.le_add_right _ _)
  | added request context videos prevQueue saved fits counted =>
      refine ⟨?_, saved⟩
      unfold Contents.occupancy grows
      dsimp only
      rw [← counted, if_pos (by omega), List.length_append]
      omega
  | removed video context => exact ⟨fewer _ rfl List.length_erase_le, Or.inr rfl⟩
  | voted video add context clientId named queued may =>
      obtain ⟨same, saved⟩ := Contents.vote_occupancy room.contents video add clientId
      exact ⟨same.le.trans (Nat.le_add_right _ _), Or.inr saved⟩
  | configured settings context queueMode enableVoteSkip => exact ⟨Nat.le_add_right _ _, Or.inr rfl⟩
  | playedNow video context played plays fits fresh =>
      refine ⟨?_, Or.inr (Contents.pushCurrent_rest _).2⟩
      rw [Contents.setSource_some_occupancy, Contents.pushCurrent_length,
        grows_playNow plays fresh]
  | playedQueued video context plays queued =>
      refine ⟨?_, Or.inr (Contents.pushCurrent_rest _).2⟩
      have shorter := List.length_erase_of_mem queued
      have some : 0 < room.contents.queue.length := List.length_pos_of_mem queued
      rw [Contents.setSource_some_occupancy, Contents.pushCurrent_length]
      unfold Contents.occupancy
      dsimp only
      omega
  | evicted video context accepts queued => exact ⟨fewer _ rfl List.length_erase_le, Or.inr rfl⟩
  | undidSkip echo context video sets kind fits =>
      obtain ⟨⟨_, saved⟩, requeued⟩ := Contents.requeueCurrent_cases room.contents
      refine ⟨?_, Or.inr saved⟩
      rw [Contents.setSource_some_occupancy]
      rcases requeued with ⟨length, free⟩ | ⟨source, present, queued, same⟩
      · rw [length, grows_undoSkip context kind fits free]
      · rw [same]
        simp [Contents.occupancy, present]
  | requeued echo context kind fits =>
      obtain ⟨⟨source, saved⟩, requeued⟩ := Contents.requeueCurrent_cases room.contents
      refine ⟨?_, Or.inr saved⟩
      rcases requeued with ⟨length, free⟩ | ⟨_, _, _, same⟩
      · have one : room.contents.source.toList.length ≤ 1 := Option.length_toList_le
        rw [grows_undoSkip context kind fits free]
        unfold Contents.occupancy at length ⊢
        rw [source, length]
        omega
      · rw [same]
        exact Nat.le_add_right _ _
  | undidAdd echo context video => exact ⟨fewer _ rfl List.length_erase_le, Or.inr rfl⟩
  | undidFirst echo context sets =>
      refine ⟨?_, Or.inr rfl⟩
      simp [Contents.occupancy, Contents.setSource]
      omega
  | undidRemove echo context index video kind fits =>
      refine ⟨?_, Or.inr rfl⟩
      have longer := List.length_insertIdx_le_succ (l := room.contents.queue) (x := video) (i := index)
      unfold Contents.occupancy grows
      dsimp only
      rw [kind]
      dsimp only
      rw [if_pos (by omega)]
      omega
  | restored context videos saved fits =>
      refine ⟨?_, Or.inl rfl⟩
      rw [grows_restoreQueue context saved fits]
      unfold Contents.occupancy
      dsimp only
      rw [List.length_append]
      omega
  | discarded context => exact ⟨Nat.le_add_right _ _, Or.inl rfl⟩

/-- A request whose sender lacks a permission leaves the room as it is. -/
theorem apply_of_not_permits {action : RoomAction} (refused : ¬ room.permits action = true) :
    action.apply env room = room := by
  cases action with
  | request request context =>
      obtain ⟨permission, needed, lacks⟩ :=
        List.all_eq_false.mp (Bool.eq_false_iff.mpr refused)
      exact (processRequest_refuses room env context request needed
        (Bool.eq_false_iff.mpr lacks)).2
  | _ => exact absurd rfl refused

theorem Capped.step {action : RoomAction} (capped : room.Capped)
    (space : room.hasSpaceFor env action) : (action.apply env room).Capped := by
  by_cases permitted : room.permits action = true
  swap
  · rw [apply_of_not_permits permitted]
    exact capped
  have space := space permitted
  obtain ⟨occupancy, saved⟩ := turn_occupancy (RoomAction.apply_turn env room action)
  refine ⟨occupancy.trans space, ?_⟩
  intro items stored
  have after : (action.apply env room).contents.prevQueue =
      some (items.map QueueItem.toVideoId) := by
    change Option.map _ (action.apply env room).prevQueue = _
    rw [stored]
    rfl
  rcases saved with none | same
  · rw [none] at after
    cases after
  · rw [same] at after
    obtain ⟨earlier, present, shape⟩ := Option.map_eq_some_iff.mp after
    have length := congrArg List.length shape
    rw [List.length_map, List.length_map] at length
    rw [← length]
    exact capped.saved earlier present

/-- What a room plays, has queued and has saved. -/
def stock (room : Room) : Option QueueItem × List QueueItem × Option (List QueueItem) :=
  (room.currentSource, room.queue, room.prevQueue)

theorem assignPrevQueue_stock (room : Room) (items : Option (List QueueItem)) :
    (room.assignPrevQueue items).stock = (room.currentSource, room.queue, items) := by
  unfold assignPrevQueue
  split
  · rename_i nothing
    rw [Bool.and_eq_true, Option.isNone_iff_eq_none, Option.isNone_iff_eq_none] at nothing
    unfold stock
    rw [nothing.1, nothing.2]
  · rfl

theorem assignIsPlaying_stock (room : Room) (value : Bool) (now : Int) :
    (room.onPlayback (Playback.assignIsPlaying value now)).stock = room.stock := by
  change (Playback.currentSource (Playback.assignIsPlaying value now room.toPlayback), room.queue,
    room.prevQueue) = room.stock
  rw [(Playback.assignIsPlaying_frame room.toPlayback now value).2.2.1]
  rfl

theorem assignOptions_stock (room : Room) (options : RoomOptions) (now : Int)
    (idle : room.stock = (none, [], none)) :
    (room.assignOptions options now).stock =
      (options.currentSource.getD none, options.queue.getD [], options.prevQueue.getD none) := by
  unfold assignOptions
  dsimp only
  iterate 5 rw [applySetting_frame stock]
  rw [applySetting_project stock _ options.prevQueue _
    (fun value stock => (stock.1, stock.2.1, value)) fun value room => assignPrevQueue_stock room value]
  iterate 4 rw [applySetting_frame stock]
  rw [applySetting_project stock _ options.queue _
    (fun value stock => (stock.1, value, stock.2.2)) fun _ _ => rfl]
  rw [applySetting_project stock _ options.currentSource _
    (fun value stock => (value, stock.2)) fun _ _ => rfl]
  iterate 7 rw [applySetting_frame stock]
  · rw [idle]
    cases options.currentSource <;> cases options.queue <;> cases options.prevQueue <;> rfl
  all_goals intro value room
  all_goals first | rfl | exact assignIsPlaying_stock room value now

/-- An idle room whose queue is to come back takes the saved queue for its own. -/
theorem reloadPrevQueue_stock (room : Room) : room.reloadPrevQueue.stock = room.stock ∨
    ∃ items, room.stock = (none, [], some items) ∧
      room.reloadPrevQueue.stock = (none, items, none) := by
  unfold reloadPrevQueue
  split
  · rename_i items saved
    split
    · rename_i idle
      rw [Bool.and_eq_true, Bool.and_eq_true, Option.isNone_iff_eq_none, List.isEmpty_iff] at idle
      obtain ⟨⟨source, empty⟩, _⟩ := idle
      refine Or.inr ⟨items, ?_, ?_⟩
      · unfold stock
        rw [source, empty, saved]
      · change (assignPrevQueue none _).stock = _
        rw [assignPrevQueue_stock]
        change (room.currentSource, room.queue ++ items, none) = (none, items, none)
        rw [source, empty, List.nil_append]
    · exact Or.inl rfl
  · exact Or.inl rfl

/-- The constructor takes over what it is given. -/
theorem new_stock (options : RoomOptions) (now : Int) :
    (∃ saved, (saved = none ∨ saved = options.prevQueue.getD none) ∧ (Room.new options now).stock =
        (options.currentSource.getD none, options.queue.getD [], saved)) ∨
      ∃ items, options.prevQueue.getD none = some items ∧
        (Room.new options now).stock = (none, items, none) := by
  have granted : ∀ other : Room, (other.assignGrants options).stock = other.stock := by
    intro other
    unfold assignGrants
    dsimp only
    split <;> rfl
  have assigned := assignOptions_stock (({ keepAlivePing := now } : Room).assignOwner none) options
    now rfl
  have forgotten : ∀ other : Room, other.stock =
        (options.currentSource.getD none, options.queue.getD [], options.prevQueue.getD none) →
      ∃ saved, (saved = none ∨ saved = options.prevQueue.getD none) ∧
        (if other.restoreQueueBehavior = .never then other.assignPrevQueue none else other).stock =
          (options.currentSource.getD none, options.queue.getD [], saved) := by
    intro other same
    split
    · refine ⟨none, Or.inl rfl, ?_⟩
      rw [assignPrevQueue_stock]
      exact congrArg (fun stock => (stock.1, stock.2.1, none)) same
    · exact ⟨_, Or.inr rfl, same⟩
  obtain ⟨saved, kept, stocked⟩ := forgotten
    { Room.assignOptions options now (({ keepAlivePing := now } : Room).assignOwner none) with
      resumeOnNextJoin := options.resumeOnNextJoin } assigned
  rcases reloadPrevQueue_stock _ with same | ⟨items, idle, reloaded⟩
  · refine Or.inl ⟨saved, kept, ?_⟩
    exact (granted _).trans (same.trans stocked)
  · rw [stocked] at idle
    refine Or.inr ⟨items, ?_, (granted _).trans reloaded⟩
    have stored : saved = some items := congrArg (fun stock => stock.2.2) idle
    rcases kept with none | same
    · rw [stored] at none
      cases none
    · exact same.symm.trans stored

theorem contents_occupancy (room : Room) :
    room.contents.occupancy = room.stock.2.1.length + room.stock.1.toList.length := by
  change (room.queue.map QueueItem.toVideoId).length +
    (room.currentSource.map QueueItem.toVideoId).toList.length =
      room.queue.length + room.currentSource.toList.length
  rw [List.length_map]
  cases room.currentSource <;> rfl

theorem Capped.new {options : RoomOptions} {now : Int}
    (fits : (options.queue.getD []).length + (options.currentSource.getD none).toList.length ≤
      MAX_QUEUE_ITEMS)
    (saved : ∀ items ∈ options.prevQueue.getD none, items.length ≤ MAX_QUEUE_ITEMS) :
    (Room.new options now).Capped := by
  rcases new_stock options now with ⟨kept, which, stocked⟩ | ⟨items, given, stocked⟩
  · refine ⟨?_, ?_⟩
    · rw [contents_occupancy, stocked]
      exact fits
    · intro items stored
      have same : kept = some items := (congrArg (fun stock => stock.2.2) stocked).symm.trans stored
      rcases which with none | given
      · rw [same] at none
        cases none
      · exact saved items (given.symm.trans same)
  · refine ⟨?_, ?_⟩
    · rw [contents_occupancy, stocked]
      exact saved items given
    · intro other stored
      have same : none = some other := (congrArg (fun stock => stock.2.2) stocked).symm.trans stored
      cases same

theorem Capped.queueSnapshot (capped : room.Capped) {now : Int} {items : List QueueItem}
    (taken : room.queueSnapshot now = some items) : items.length ≤ MAX_QUEUE_ITEMS := by
  have occupancy := capped.occupancy
  rw [contents_occupancy] at occupancy
  unfold Room.queueSnapshot at taken
  dsimp only at taken
  split at taken
  · exact capped.saved items taken
  · cases taken
    rw [List.length_append]
    cases present : room.currentSource with
    | none =>
        change room.queue.length + room.currentSource.toList.length ≤ _ at occupancy
        rw [present] at occupancy
        simpa using occupancy
    | some item =>
        change room.queue.length + room.currentSource.toList.length ≤ _ at occupancy
        rw [present] at occupancy
        simp only [Option.map_some, Option.toList_some, List.length_singleton] at occupancy ⊢
        omega

theorem restoreQueue_refused (room : Room) (context : RoomRequestContext)
    (may : room.grants.granted context.role .queueAdd = true) {items : List QueueItem}
    (saved : room.prevQueue = some items)
    (tooMany : MAX_QUEUE_ITEMS < room.queue.length + items.length) :
    (restoreQueue false context).outcome room = .error queueFull := by
  have checked : (check context.role .queueAdd).outcome room = .ok () := by
    unfold check
    rw [outcome_get_bind, if_pos may]
    rfl
  unfold restoreQueue
  simp only [Bool.false_eq_true, if_false]
  rw [outcome_bind, checked, check_after]
  dsimp only
  rw [outcome_get_bind, saved]
  dsimp only
  rw [if_pos tooMany]
  rfl

end Room

/-- A saved queue comes back in full: a new room holds it and stays within the cap, or a
request puts it back into an empty queue. -/
def Restorable (items : List QueueItem) : Prop :=
  (∀ now, (Room.new { prevQueue := some (some items), restoreQueueBehavior := some .always }
      now).queue = items ∧ items.length ≤ MAX_QUEUE_ITEMS) ∨
    ∀ (room : Room) (context : RoomRequestContext), room.queue = [] → room.prevQueue = some items →
      room.grants.granted context.role .queueAdd = true →
      (Room.restoreQueue false context).outcome room = .ok () ∧
        ((Room.restoreQueue false context).after room).queue = items

/-- What comes back in full is what fits. -/
theorem restorable_iff (items : List QueueItem) :
    Restorable items ↔ items.length ≤ MAX_QUEUE_ITEMS := by
  constructor
  · rintro (built | asked)
    · exact (built 0).2
    · by_contra tooMany
      have may : ({} : Room).grants.granted .owner .queueAdd = true := by decide +kernel
      have refused := Room.restoreQueue_refused { prevQueue := some items } { role := .owner } may rfl
        (by simpa using tooMany)
      have passed := (asked { prevQueue := some items } { role := .owner } rfl rfl may).1
      rw [refused] at passed
      cases passed
  · intro fits
    exact Or.inl fun _ => ⟨rfl, fits⟩

/-- A room over its reloads. -/
structure RoomLife where
  state : RoomState
  /-- History: the room as it was before each step, before a reload too. -/
  past : List Room

/-- A room acts, or is built anew from what it saved at some time. -/
inductive LifeLabel where
  | act (label : RoomLabel)
  | loadSnapshot (saver : Room) (savedAt : Int) (hash : Option (Option String)) (now : Int)
  | loadRow (saver : Room) (savedAt : Int) (row : DbRoom) (now : Int)

namespace RoomLife

/-- The room as it is and as it was. -/
def rooms (life : RoomLife) : List Room := life.state.room :: life.past

/-- The life after a step. -/
def next (label : LifeLabel) (life : RoomLife) : RoomLife :=
  match label with
  | .act label => ⟨life.state.next label, life.rooms⟩
  | .loadSnapshot saver savedAt hash now =>
      ⟨⟨Room.new { redisStateToState (saver.serializeState savedAt) with passwordHash := hash } now,
        now⟩, life.rooms⟩
  | .loadRow _ _ row now => ⟨⟨(Room.new (dbToRoomArgs row) now).restoreFromStorage, now⟩, life.rooms⟩

/-- A snapshot is one of this room, and so is the queue of a row, if the row has one. -/
def Enabled (life : RoomLife) : LifeLabel → Prop
  | .act label => label.action.Enabled life.state.room ∧ label.env.uuid ∉ life.state.room.rounds
  | .loadSnapshot saver _ _ _ => saver ∈ life.rooms
  | .loadRow saver savedAt row _ =>
      saver ∈ life.rooms ∧ (row.prevQueue = none ∨ row.prevQueue = saver.queueSnapshot savedAt)

/-- A step finds space for what it adds. -/
def HasSpace (life : RoomLife) : LifeLabel → Prop
  | .act label => life.state.room.hasSpaceFor label.env label.action
  | _ => True

end RoomLife

/-- Every life of a room that is created without videos. -/
def lifeSystem : TransitionSystem RoomLife LifeLabel where
  Initial life := ∃ (options : RoomOptions) (now : Int), options.currentSource = none ∧
    options.queue = none ∧ options.prevQueue = none ∧ life = ⟨⟨Room.new options now, now⟩, []⟩
  Step before label after := before.Enabled label ∧ after = before.next label

namespace RoomLife

/-- The room is capped, and so it was at every time. -/
def Capped (life : RoomLife) : Prop := ∀ room ∈ life.rooms, room.Capped

theorem Capped.next {before : RoomLife} {label : LifeLabel} (capped : before.Capped)
    (possible : before.Enabled label) (space : before.HasSpace label) :
    (before.next label).Capped := by
  have built : (before.next label).state.room.Capped := by
    cases label with
    | act label => exact (capped _ (List.mem_cons_self ..)).step space
    | loadSnapshot saver savedAt hash now =>
        have saverCapped := capped saver possible
        have occupancy := saverCapped.occupancy
        rw [Room.contents_occupancy] at occupancy
        exact .new occupancy saverCapped.saved
    | loadRow saver savedAt row now =>
        have saverCapped := capped saver possible.1
        have capped : (Room.new (dbToRoomArgs row) now).Capped := by
          refine .new (Nat.zero_le _) ?_
          intro items stored
          change row.prevQueue = some items at stored
          rcases possible.2 with none | taken
          · rw [none] at stored
            cases stored
          · exact saverCapped.queueSnapshot (taken.symm.trans stored)
        exact ⟨capped.occupancy, capped.saved⟩
  intro room member
  have earlier : (before.next label).past = before.rooms := by
    cases label <;> rfl
  rcases List.mem_cons.mp member with rfl | old
  · exact built
  · rw [earlier] at old
    exact capped room old

/-- In every life in which each step finds space for what it adds, the current item counted,
the queue keeps within its cap and every queue that is saved can come back in full. -/
theorem queue_within_cap {life : RoomLife}
    (reachable : (lifeSystem.restrict HasSpace).Reachable life) :
    life.state.room.queue.length ≤ MAX_QUEUE_ITEMS ∧
      ∀ now items, life.state.room.queueSnapshot now = some items → Restorable items := by
  have invariant : TransitionSystem.Inductive (lifeSystem.restrict HasSpace) Capped := by
    refine ⟨?_, ?_⟩
    · rintro start ⟨options, now, source, queue, saved, rfl⟩ room member
      rw [List.mem_singleton.mp member]
      refine .new ?_ ?_
      · rw [source, queue]
        exact Nat.zero_le _
      · rw [saved]
        exact fun _ => nofun
    · rintro before label after capped ⟨space, possible, rfl⟩
      exact capped.next possible space
  have capped : life.state.room.Capped :=
    invariant.of_reachable reachable _ (List.mem_cons_self ..)
  refine ⟨?_, ?_⟩
  · have occupancy := capped.occupancy
    rw [Room.contents_occupancy] at occupancy
    exact (Nat.le_add_right _ _).trans occupancy
  · intro now items taken
    exact (restorable_iff items).mpr (capped.queueSnapshot taken)

end RoomLife

namespace RoomLife

instance (life : RoomLife) : ∀ label, Decidable (life.Enabled label)
  | .act _ => inferInstanceAs (Decidable (_ ∧ _))
  | .loadSnapshot _ _ _ _ => inferInstanceAs (Decidable (_ ∈ _))
  | .loadRow _ _ _ _ => inferInstanceAs (Decidable (_ ∧ (_ ∨ _)))

instance (life : RoomLife) : ∀ label, Decidable (life.HasSpace label)
  | .act label => inferInstanceAs (Decidable (life.state.room.hasSpaceFor label.env label.action))
  | .loadSnapshot _ _ _ _ => .isTrue trivial
  | .loadRow _ _ _ _ => .isTrue trivial

theorem steps_run (condition : RoomLife → LifeLabel → Prop)
    [∀ life label, Decidable (condition life label)] (labels : List LifeLabel) (life : RoomLife)
    (possible : TransitionSystem.runs next (fun life label =>
      life.Enabled label ∧ condition life label) labels life = true) :
    (lifeSystem.restrict condition).Steps life (TransitionSystem.run next labels life) := by
  refine TransitionSystem.steps_run ?_ labels life possible
  rintro life label ⟨enabled, met⟩
  exact ⟨met, enabled, rfl⟩

end RoomLife

namespace Sample

/-- A new room. -/
def newLife : RoomLife := ⟨⟨Room.new {} 0, 0⟩, []⟩

/-- A video plays and another request fills the queue. -/
def playAndFill (videos : Nat) : List LifeLabel :=
  [.act ⟨env 1 "first", .request (.playNow { service := .youtube, id := "current" }) viewer⟩,
    .act ⟨{ env 2 "first" with
        getManyVideoInfo := fun videos => some (videos.map fun video => { video.toVideoId with }) },
      .request (.add { videos := some ((List.range videos).map fun index =>
        { service := .youtube, id := toString index }) }) viewer⟩]

/-- The room with that many queued videos and a current one. -/
def filled (videos : Nat) : RoomLife :=
  TransitionSystem.run RoomLife.next (playAndFill videos) newLife

theorem newLife_initial : lifeSystem.Initial newLife := ⟨{}, 0, rfl, rfl, rfl, rfl⟩

end Sample

namespace RoomLife

/-- A full queue under a current item is saved with one item too many to come back. -/
theorem full_queue_unrestorable : lifeSystem.Reachable (Sample.filled 200) ∧
    ¬ ((Sample.filled 200).state.room.queue.length ≤ MAX_QUEUE_ITEMS ∧
      ∀ now items, (Sample.filled 200).state.room.queueSnapshot now = some items →
        Restorable items) := by
  have run : (lifeSystem.restrict fun _ _ => True).Steps Sample.newLife (Sample.filled 200) :=
    steps_run _ _ _ (by decide +kernel)
  refine ⟨⟨_, Sample.newLife_initial, run.of_restrict⟩, ?_⟩
  rintro ⟨_, restorable⟩
  have length : ((Sample.filled 200).state.room.queueSnapshot 3).map List.length = some 201 := by
    decide +kernel
  obtain ⟨items, taken, long⟩ := Option.map_eq_some_iff.mp length
  have fits := (restorable_iff items).mp (restorable 3 items taken)
  rw [long] at fits
  exact absurd fits (by decide)

/-- One item less comes back. -/
theorem queue_within_cap_filled : (Sample.filled 199).state.room.queue.length = 199 ∧
    ∀ now items, (Sample.filled 199).state.room.queueSnapshot now = some items →
      Restorable items := by
  have run : (lifeSystem.restrict HasSpace).Steps Sample.newLife (Sample.filled 199) :=
    steps_run _ _ _ (by decide +kernel)
  have length : (Sample.filled 199).state.room.queue.length = 199 := by decide +kernel
  exact ⟨length, (queue_within_cap ⟨_, Sample.newLife_initial, run⟩).2⟩

end RoomLife

end OpenTogetherTube
