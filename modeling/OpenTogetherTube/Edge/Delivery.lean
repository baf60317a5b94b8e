import OpenTogetherTube.Edge.Committed

/-!
# Edge rooms: what a commit delivers

Everything a commit drains reaches every member socket that remains, and whatever a departure pushes is
drained by a later round. A later round comes only if the departures of a round change the text of the
snapshot; this module says exactly when they leave something behind.
-/

namespace OpenTogetherTube.Edge

open Lib

namespace LiveRoom

/-- Everything a commit drained reached every member socket that remains. The socket a round greets is
sent the whole state instead. -/
structure Served (drains : List (Option ClientId × List Payload)) (object : LiveRoom) : Prop where
  sent : ∀ drain ∈ drains, ∀ attachment ∈ object.openSockets, attachment.session ≠ none →
    object.room.members.has attachment.id = true → drain.1 ≠ some attachment.id →
    ∀ payload ∈ drain.2, (attachment.id, payload) ∈ object.sent
  greeted : ∀ drain ∈ drains, ∀ attachment ∈ object.openSockets, drain.1 = some attachment.id →
    ∃ full, (attachment.id, .fullSync full) ∈ object.sent

/-- The message waits in the room or has been drained. -/
def Announced (message : ServerMessage) (object : LiveRoom) : Prop :=
  message ∈ object.room.messages ∨ ∃ drain ∈ object.drains, .message message ∈ drain.2

/-- The key was drained for a sync. -/
def Synced (key : SyncKey) (object : LiveRoom) : Prop :=
  ∃ drain ∈ object.drains, ∃ keys full, .sync keys full ∈ drain.2 ∧ key ∈ keys

/-- What waited at the start of a commit, and each departure since, has not got lost. -/
structure Accounted (start object : LiveRoom) : Prop where
  changed : ∀ key ∈ start.room.dirty, key ∈ object.room.dirty ∨ object.Synced key
  pending : ∀ message ∈ start.room.messages, object.Announced message
  departed : ∀ id, start.room.members.has id = true → object.room.members.has id = false →
    object.Announced (.userRemove id)

/-- When a commit returns, everything has been delivered. -/
structure Delivered (start object : LiveRoom) : Prop where
  messages : object.room.messages = []
  dirty : object.room.dirty = []
  kicks : object.room.kicks = []
  served : object.Served object.drains
  changed : ∀ key ∈ start.room.dirty, object.Synced key
  pending : ∀ message ∈ start.room.messages, ∃ drain ∈ object.drains, .message message ∈ drain.2
  departed : ∀ id, start.room.members.has id = true → object.room.members.has id = false →
    ∃ drain ∈ object.drains, .message (.userRemove id) ∈ drain.2
  users : object.indexed.map IndexValues.users = some object.room.members.length ∨
    object.indexRetryAt ≠ none

section Serving

variable {runtime : Runtime} {ids : List ClientId} {before after : LiveRoom}
  {drains : List (Option ClientId × List Payload)}

variable (closes : Closes runtime ids before after)

include closes

theorem Closes.openSockets_subset {attachment : Attachment}
    (listed : attachment ∈ after.openSockets) :
    attachment ∈ before.openSockets ∧ attachment.id ∉ ids := by
  rw [closes.openSockets, List.mem_filter, decide_eq_true_eq] at listed
  exact listed

theorem Closes.has {id : ClientId}
    (present : after.room.members.has id = true) : before.room.members.has id = true := by
  rw [closes.room, RoomState.leaveAll_has] at present
  exact present.2

theorem Closes.served (served : before.Served drains) :
    after.Served drains where
  sent drain drained attachment listed session present apart payload carried :=
    closes.sent (served.sent drain drained attachment (closes.openSockets_subset listed).1 session
      (closes.has present) apart payload carried)
  greeted drain drained attachment listed same := by
    obtain ⟨full, told⟩ :=
      served.greeted drain drained attachment (closes.openSockets_subset listed).1 same
    exact ⟨full, closes.sent told⟩

theorem Closes.announced {message : ServerMessage}
    (announced : before.Announced message) : after.Announced message := by
  rcases announced with waiting | ⟨drain, drained, carried⟩
  · left
    rw [closes.room]
    exact RoomState.leaveAll_keeps waiting
  · exact .inr ⟨drain, closes.drains ▸ drained, carried⟩

theorem Closes.accounted {start : LiveRoom}
    (accounted : start.Accounted before) : start.Accounted after where
  changed key marked := by
    unfold Synced
    rw [closes.drains, closes.room]
    exact (accounted.changed key marked).imp_left RoomState.leaveAll_marked
  pending message waiting := closes.announced (accounted.pending message waiting)
  departed id was gone := by
    by_cases present : before.room.members.has id = true
    · left
      rw [closes.room] at gone ⊢
      have leaves : id ∈ ids := by
        by_contra stays
        rw [RoomState.leaveAll_has.mpr ⟨stays, present⟩] at gone
        cases gone
      exact RoomState.leaveAll_announces leaves present
    · exact closes.announced (accounted.departed id was (by simpa using present))

end Serving

section Reaching

variable (joined : Option ClientId) (runtime : Runtime) (payloads : List Payload)
  (kicks : List ClientId) (object : LiveRoom)

theorem deliverTo_closes_self (attachment : Attachment) :
    ∃ ids, Closes runtime ids object (object.deliverTo joined runtime payloads kicks attachment) :=
  ⟨_, deliverTo_closes joined runtime payloads kicks (Closes.refl object) attachment⟩

/-- A member socket that is still open after its turn, and was not greeted, has got the messages. -/
theorem deliverTo_sent {attachment : Attachment}
    (listed : attachment ∈ (object.deliverTo joined runtime payloads kicks attachment).openSockets)
    (session : attachment.session ≠ none)
    (present : (object.deliverTo joined runtime payloads kicks attachment).room.members.has
      attachment.id = true)
    (apart : joined ≠ some attachment.id) {payload : Payload} (carried : payload ∈ payloads) :
    (attachment.id, payload) ∈ (object.deliverTo joined runtime payloads kicks attachment).sent := by
  obtain ⟨ids, closes⟩ := object.deliverTo_closes_self joined runtime payloads kicks attachment
  have before := closes.has present
  unfold deliverTo at listed ⊢
  by_cases kicked : attachment.id ∈ kicks
  · rw [if_pos kicked] at listed
    have closed := ((object.close_closes runtime attachment.id).openSockets_subset listed).2
    exact absurd List.mem_cons_self closed
  · have told : ¬ (joined = some attachment.id ∨ attachment.session = none ∨
        object.room.members.has attachment.id = false) := by
      simp [apart, session, before]
    rw [if_neg kicked, if_neg told] at listed ⊢
    have sends := object.sendAll_closes runtime attachment.id 0 payloads
    cases fails : runtime.failsFrom attachment.id 0 payloads.length with
    | false => exact object.sendAll_sent runtime fails carried
    | true =>
        rw [fails] at sends
        exact absurd List.mem_cons_self (sends.openSockets_subset listed).2

/-- Every listed member socket that is still open at the end of a delivery, and was not greeted, has
got the messages. -/
theorem foldl_deliverTo_sent {listed : List Attachment} {attachment : Attachment}
    (turn : attachment ∈ listed) (session : attachment.session ≠ none)
    (apart : joined ≠ some attachment.id) {payload : Payload} (carried : payload ∈ payloads)
    (stays : attachment ∈ (listed.foldl (deliverTo joined runtime payloads kicks) object).openSockets)
    (present : (listed.foldl (deliverTo joined runtime payloads kicks) object).room.members.has
      attachment.id = true) :
    (attachment.id, payload) ∈ (listed.foldl (deliverTo joined runtime payloads kicks) object).sent := by
  induction listed generalizing object with
  | nil => cases turn
  | cons first rest ih =>
      have further := foldl_deliverTo_closes joined runtime payloads kicks
        (Closes.refl (object.deliverTo joined runtime payloads kicks first)) rest
      rcases List.mem_cons.mp turn with rfl | later
      · apply further.sent
        exact object.deliverTo_sent joined runtime payloads kicks (further.openSockets_subset stays).1
          session (further.has present) apart carried
      · exact ih _ later stays present

variable {runtime} in
/-- A socket whose greeting succeeds has got the whole state. -/
theorem greet_sent {id : ClientId} (greets : runtime.failsFrom id 0 3 = false) :
    ∃ full, (id, .fullSync full) ∈ (object.greet runtime id).sent := by
  have last : runtime.sendFails id 2 = false := by
    rw [Runtime.failsFrom, List.any_eq_false] at greets
    simpa using greets 2 (by simp)
  exact ⟨_, send_sent _ _ _ last⟩

end Reaching

/-- A stretch of a commit that only writes: storage, the index and the anchor of the clock. -/
structure Writes (before after : LiveRoom) : Prop where
  members : after.room.members = before.room.members
  messages : after.room.messages = before.room.messages
  dirty : after.room.dirty = before.room.dirty
  kicks : after.room.kicks = before.room.kicks
  sockets : after.sockets = before.sockets
  drains : after.drains = before.drains
  sent : after.sent = before.sent

namespace Writes

variable {a b c start : LiveRoom} {drains : List (Option ClientId × List Payload)}

theorem trans (first : Writes a b) (second : Writes b c) : Writes a c :=
  ⟨second.members.trans first.members, second.messages.trans first.messages,
    second.dirty.trans first.dirty, second.kicks.trans first.kicks,
    second.sockets.trans first.sockets, second.drains.trans first.drains,
    second.sent.trans first.sent⟩

theorem openSockets (writes : Writes a b) : b.openSockets = a.openSockets := by
  unfold LiveRoom.openSockets
  rw [writes.sockets]

theorem served (writes : Writes a b) (served : a.Served drains) : b.Served drains where
  sent drain drained attachment listed session present := by
    rw [writes.openSockets] at listed
    rw [writes.members] at present
    rw [writes.sent]
    exact served.sent drain drained attachment listed session present
  greeted drain drained attachment listed := by
    rw [writes.openSockets] at listed
    rw [writes.sent]
    exact served.greeted drain drained attachment listed

theorem announced (writes : Writes a b) {message : ServerMessage} (announced : a.Announced message) :
    b.Announced message := by
  unfold Announced
  rw [writes.messages, writes.drains]
  exact announced

theorem accounted (writes : Writes a b) (accounted : start.Accounted a) : start.Accounted b where
  changed key marked := by
    unfold Synced
    rw [writes.drains, writes.dirty]
    exact accounted.changed key marked
  pending message waiting := writes.announced (accounted.pending message waiting)
  departed id was gone := writes.announced (accounted.departed id was (writes.members ▸ gone))

end Writes

section Exchanging

variable (timing : Timing) (checkpoint : Bool) (joined : Option ClientId) (runtime : Runtime)
  (object start : LiveRoom)

theorem persist_writes : Writes object (object.persist checkpoint runtime) := by
  unfold persist
  split
  · exact ⟨rfl, rfl, rfl, rfl, rfl, rfl, rfl⟩
  · exact ⟨rfl, rfl, rfl, rfl, rfl, rfl, rfl⟩

theorem index_writes : Writes object (object.index timing runtime) := by
  unfold index
  split
  · exact ⟨rfl, rfl, rfl, rfl, rfl, rfl, rfl⟩
  · split
    · exact ⟨rfl, rfl, rfl, rfl, rfl, rfl, rfl⟩
    · exact ⟨rfl, rfl, rfl, rfl, rfl, rfl, rfl⟩

theorem drain_announced {message : ServerMessage} (announced : object.Announced message) :
    (object.drain joined runtime).Announced message := by
  right
  rcases announced with waiting | ⟨drain, drained, carried⟩
  · have carried : Payload.message message ∈ object.room.outbox runtime.now :=
      List.mem_append_left _ (List.mem_map_of_mem waiting)
    exact ⟨_, List.mem_append_right _ List.mem_cons_self, carried⟩
  · exact ⟨drain, List.mem_append_left _ drained, carried⟩

theorem drain_synced {key : SyncKey} (waits : key ∈ object.room.dirty ∨ object.Synced key) :
    (object.drain joined runtime).Synced key := by
  rcases waits with marked | ⟨drain, drained, keys, full, carried, synced⟩
  · have carried : Payload.sync object.room.dirty (object.room.fullSync runtime.now) ∈
        object.room.outbox runtime.now := by
      unfold RoomState.outbox
      rw [if_neg (by simpa using List.ne_nil_of_mem marked)]
      exact List.mem_append_right _ (List.mem_singleton_self _)
    exact ⟨_, List.mem_append_right _ List.mem_cons_self, _, _, carried, marked⟩
  · exact ⟨drain, List.mem_append_left _ drained, keys, full, carried, synced⟩

variable {start object}

/-- A round loses no message and no change. -/
theorem exchange_accounted (accounted : start.Accounted object) :
    start.Accounted (object.exchange timing checkpoint joined runtime) := by
  have written := (object.persist_writes checkpoint runtime).trans (index_writes timing runtime _)
  have greeted := (object.greeted_closes timing checkpoint joined runtime).accounted
    (written.accounted accounted)
  have drained : start.Accounted
      ((object.greeted timing checkpoint joined runtime).drain joined runtime) :=
    ⟨fun key marked => .inr (drain_synced _ _ _ (greeted.changed key marked)),
      fun message waiting => drain_announced _ _ _ (greeted.pending message waiting),
      fun id was gone => drain_announced _ _ _ (greeted.departed id was gone)⟩
  exact (object.exchange_closes timing checkpoint joined runtime).accounted drained

/-- A greeted socket that is still open at the end of its round has got the whole state. -/
theorem exchange_greeted {attachment : Attachment}
    (listed : attachment ∈ (object.exchange timing checkpoint joined runtime).openSockets)
    (same : joined = some attachment.id) :
    ∃ full, (attachment.id, .fullSync full) ∈ (object.exchange timing checkpoint joined runtime).sent := by
  subst same
  have delivers := object.exchange_closes timing checkpoint (some attachment.id) runtime
  have welcomes := object.greeted_closes timing checkpoint (some attachment.id) runtime
  have stays := (welcomes.openSockets_subset (delivers.openSockets_subset listed).1).2
  cases fails : runtime.failsFrom attachment.id 0 3 with
  | true => exact absurd (by simp [ungreeted, fails]) stays
  | false =>
      obtain ⟨full, told⟩ := greet_sent ((object.persist checkpoint runtime).index timing runtime) fails
      exact ⟨full, delivers.sent told⟩

/-- A round reaches every member socket that remains with what it drains. -/
theorem exchange_served (served : object.Served object.drains) :
    (object.exchange timing checkpoint joined runtime).Served
      (object.exchange timing checkpoint joined runtime).drains := by
  have written := (object.persist_writes checkpoint runtime).trans (index_writes timing runtime _)
  have welcomes := object.greeted_closes timing checkpoint joined runtime
  have delivers := object.exchange_closes timing checkpoint joined runtime
  have greeted := welcomes.served (written.served served)
  have known : (object.greeted timing checkpoint joined runtime).drains = object.drains :=
    welcomes.drains.trans written.drains
  have before : ((object.greeted timing checkpoint joined runtime).drain joined runtime).Served
      object.drains := ⟨greeted.sent, greeted.greeted⟩
  have old := delivers.served before
  have listed : (object.exchange timing checkpoint joined runtime).drains = object.drains ++
      [(joined, (object.greeted timing checkpoint joined runtime).room.outbox runtime.now)] := by
    rw [delivers.drains, ← known]
    rfl
  rw [listed]
  constructor
  · intro drain drained attachment stays session present apart payload carried
    rcases List.mem_append.mp drained with earlier | last
    · exact old.sent drain earlier attachment stays session present apart payload carried
    · obtain rfl := List.mem_singleton.mp last
      have turn := (delivers.openSockets_subset stays).1
      exact foldl_deliverTo_sent joined runtime _ _ _ turn session apart carried stays present
  · intro drain drained attachment stays same
    rcases List.mem_append.mp drained with earlier | last
    · exact old.greeted drain earlier attachment stays same
    · obtain rfl := List.mem_singleton.mp last
      exact exchange_greeted timing checkpoint joined runtime stays same

end Exchanging

/-! ### What a round leaves behind -/

section Missing

variable (timing : Timing) (checkpoint : Bool) (joined : Option ClientId) (runtime : Runtime)
  (object : LiveRoom)

/-- The greeting fails, and the client that joined is a member: it leaves. -/
def greetingLeaves : Bool :=
  (ungreeted joined runtime).any fun id => object.room.members.has id

/-- How many messages a round drains: those that wait, two more about a client that was not greeted, and
one for what is dirty, as the votes of that client are. -/
def outboxSize : Nat :=
  object.room.messages.length + (if object.greetingLeaves joined runtime then 2 else 0) +
    if object.greetingLeaves joined runtime || !object.room.dirty.isEmpty then 1 else 0

/-- The sockets that are lost while a round delivers: they are kicked, or one of their sends throws. -/
def lost : List ClientId :=
  (object.openSockets.filter fun attachment =>
    decide (attachment.id ∉ ungreeted joined runtime) &&
      (decide (attachment.id ∈ object.room.kicks) ||
        (decide (joined ≠ some attachment.id) && attachment.session.isSome &&
          object.room.members.has attachment.id &&
          runtime.failsFrom attachment.id 0 (object.outboxSize joined runtime)))).map Attachment.id

/-- The index is to be tried again: its update fails now, or none is due and one failed before. -/
def Retries : Prop :=
  if some (object.values timing) = object.indexed then object.indexRetryAt ≠ none
  else runtime.indexFails = true

/-- A round whose departures do not show in the text of the snapshot, so that no other round follows,
though a departure is still to be announced or counted. -/
structure Misses : Prop where
  text : (((object.persist checkpoint runtime).room.leaveAll runtime
      (ungreeted joined runtime)).drained.leaveAll runtime
        (object.lost joined runtime)).snapshot.json =
    (object.persist checkpoint runtime).room.snapshot.json
  someone : (∃ id ∈ object.lost joined runtime, object.room.members.has id = true) ∨
    (∃ id ∈ ungreeted joined runtime, object.room.members.has id = true) ∧
      ¬ object.Retries timing runtime

/-- The room when a round drains it, by whether the client that joined has left. -/
theorem greeted_room_cases :
    object.greetingLeaves joined runtime = false ∧
      (object.greeted timing checkpoint joined runtime).room =
        (object.persist checkpoint runtime).room ∨
    object.greetingLeaves joined runtime = true ∧ ∃ id,
      (object.persist checkpoint runtime).room.members.has id = true ∧
      (object.greeted timing checkpoint joined runtime).room =
        (object.persist checkpoint runtime).room.leave id (runtime.host id) := by
  rw [greeted_room]
  unfold greetingLeaves
  rw [← object.persist_members checkpoint runtime]
  cases joined with
  | none => exact .inl ⟨rfl, rfl⟩
  | some id =>
      cases fails : runtime.failsFrom id 0 3 with
      | false => simp [ungreeted, fails, RoomState.leaveAll]
      | true =>
          cases present : (object.persist checkpoint runtime).room.members.has id with
          | false =>
              left
              refine ⟨by simp [ungreeted, fails, present], RoomState.leaveAll_eq_self ?_⟩
              intro other inside
              have same : other = id := by simpa [ungreeted, fails] using inside
              rw [same, present]
          | true => exact .inr ⟨by simp [ungreeted, fails, present], id, present, by
              simp [ungreeted, fails, RoomState.leaveAll]⟩

theorem outbox_length (now : Int) (room : RoomState) :
    (room.outbox now).length = room.messages.length + if room.dirty.isEmpty then 0 else 1 := by
  unfold RoomState.outbox
  split
  · simp
  · simp

/-- A round drains as many messages as announced. -/
theorem greeted_outbox : ((object.greeted timing checkpoint joined runtime).room.outbox
    runtime.now).length = object.outboxSize joined runtime := by
  have writes := object.persist_writes checkpoint runtime
  rw [outbox_length]
  unfold outboxSize
  rcases object.greeted_room_cases timing checkpoint joined runtime with
    ⟨stays, same⟩ | ⟨leaves, id, present, same⟩
  · rw [same, stays, writes.messages, writes.dirty]
    cases object.room.dirty.isEmpty <;> simp
  · obtain ⟨member, found⟩ := Option.isSome_iff_exists.mp present
    have marked := List.ne_nil_of_mem (RoomState.leave_dirty (runtime.host id) present)
    rw [← List.isEmpty_eq_false_iff] at marked
    rw [same, leaves, marked, RoomState.leave_messages _ found, writes.messages]
    simp

/-- The sockets a delivery closes can be told before the round. -/
theorem departing_eq : (object.greeted timing checkpoint joined runtime).departing joined runtime =
    object.lost joined runtime := by
  have writes := (object.persist_writes checkpoint runtime).trans (index_writes timing runtime _)
  have welcomes := object.greeted_closes timing checkpoint joined runtime
  have kicks : (object.greeted timing checkpoint joined runtime).room.kicks = object.room.kicks := by
    rw [welcomes.room, RoomState.leaveAll_kicks, writes.kicks]
  unfold departing lost
  rw [welcomes.openSockets, writes.openSockets, List.filter_filter]
  congr 1
  apply List.filter_congr
  intro attachment _
  unfold departs
  rw [kicks, greeted_outbox, Bool.and_comm]
  by_cases apart : attachment.id ∈ ungreeted joined runtime
  · simp [apart]
  · have present : (object.greeted timing checkpoint joined runtime).room.members.has attachment.id =
        object.room.members.has attachment.id := by
      rw [Bool.eq_iff_iff, welcomes.room, RoomState.leaveAll_has, writes.members]
      exact and_iff_right apart
    rw [present]

/-- What the index is asked for does not depend on the clock. -/
theorem persist_values : (object.persist checkpoint runtime).values timing = object.values timing := by
  unfold persist
  split
  · rfl
  · rfl

/-- After the update of the index its number of users is right, unless it is to be tried again. -/
theorem index_users : object.Retries timing runtime ∧
      (object.index timing runtime).indexRetryAt ≠ none ∨
    ¬ object.Retries timing runtime ∧ (object.index timing runtime).indexRetryAt = none ∧
      (object.index timing runtime).indexed.map IndexValues.users =
        some object.room.members.length := by
  unfold index Retries
  split
  · rename_i same
    by_cases waits : object.indexRetryAt = none
    · exact .inr ⟨by simpa using waits, waits, by rw [← same]; rfl⟩
    · exact .inl ⟨waits, waits⟩
  · split
    · rename_i fails
      exact .inl ⟨fails, by simp⟩
    · rename_i goes
      exact .inr ⟨goes, rfl, rfl⟩

theorem persist_retries : (object.persist checkpoint runtime).Retries timing runtime ↔
    object.Retries timing runtime := by
  have frame : (object.persist checkpoint runtime).indexed = object.indexed ∧
      (object.persist checkpoint runtime).indexRetryAt = object.indexRetryAt := by
    unfold persist
    split
    · exact ⟨rfl, rfl⟩
    · exact ⟨rfl, rfl⟩
  unfold Retries
  rw [persist_values, frame.1, frame.2]

/-- What is empty and right after a round that is the last one. -/
structure Tidy : Prop where
  messages : object.room.messages = []
  dirty : object.room.dirty = []
  kicks : object.room.kicks = []
  users : object.indexed.map IndexValues.users = some object.room.members.length ∨
    object.indexRetryAt ≠ none

/-- Without a loss in the delivery, the room a round leaves is the drained one. -/
theorem exchange_room_of_kept
    (kept : ¬ ∃ id ∈ object.lost joined runtime, object.room.members.has id = true) :
    (object.exchange timing checkpoint joined runtime).room =
      (object.greeted timing checkpoint joined runtime).room.drained := by
  have writes := (object.persist_writes checkpoint runtime).trans (index_writes timing runtime _)
  have delivers := object.exchange_closes timing checkpoint joined runtime
  rw [delivers.room, departing_eq]
  apply RoomState.leaveAll_eq_self
  intro id leaves
  by_contra present
  have was := (object.greeted_closes timing checkpoint joined runtime).has
    (Bool.not_eq_false _ |>.mp present)
  exact kept ⟨id, leaves, writes.members ▸ was⟩

/-- A loss in the delivery is left to be announced. -/
theorem exchange_messages_of_lost {id : ClientId} (leaves : id ∈ object.lost joined runtime)
    (present : object.room.members.has id = true) :
    (object.exchange timing checkpoint joined runtime).room.messages ≠ [] := by
  have writes := (object.persist_writes checkpoint runtime).trans (index_writes timing runtime _)
  have welcomes := object.greeted_closes timing checkpoint joined runtime
  have delivers := object.exchange_closes timing checkpoint joined runtime
  have apart : id ∉ ungreeted joined runtime := by
    unfold lost at leaves
    obtain ⟨attachment, listed, rfl⟩ := List.mem_map.mp leaves
    have met := (List.mem_filter.mp listed).2
    exact of_decide_eq_true (Bool.and_eq_true_iff.mp met).1
  have there : (object.greeted timing checkpoint joined runtime).room.members.has id = true := by
    rw [welcomes.room, RoomState.leaveAll_has, writes.members]
    exact ⟨apart, present⟩
  rw [delivers.room, departing_eq]
  exact List.ne_nil_of_mem (RoomState.leaveAll_announces leaves there)

/-- After a last round everything is tidy just when the round missed nothing. -/
theorem exchange_tidy_iff
    (last : (object.exchange timing checkpoint joined runtime).unsaved = false) :
    (object.exchange timing checkpoint joined runtime).Tidy ↔
      ¬ object.Misses timing checkpoint joined runtime := by
  have delivers := object.exchange_closes timing checkpoint joined runtime
  have welcomes := object.greeted_closes timing checkpoint joined runtime
  have text := not_not.mp (of_decide_eq_false last)
  rw [exchange_saved, exchange_room, departing_eq, Option.some_inj] at text
  by_cases drops : ∃ id ∈ object.lost joined runtime, object.room.members.has id = true
  · obtain ⟨id, leaves, present⟩ := drops
    have waits := object.exchange_messages_of_lost timing checkpoint joined runtime leaves present
    constructor
    · intro tidy
      exact absurd tidy.messages waits
    · intro nothing
      exact absurd ⟨text, .inl ⟨id, leaves, present⟩⟩ nothing
  · have room := object.exchange_room_of_kept timing checkpoint joined runtime drops
    have indexed : (object.exchange timing checkpoint joined runtime).indexed =
        ((object.persist checkpoint runtime).index timing runtime).indexed :=
      delivers.indexed.trans welcomes.indexed
    have retry : (object.exchange timing checkpoint joined runtime).indexRetryAt =
        ((object.persist checkpoint runtime).index timing runtime).indexRetryAt :=
      delivers.indexRetryAt.trans welcomes.indexRetryAt
    have counted := index_users timing runtime (object.persist checkpoint runtime)
    rw [persist_retries, ← indexed, ← retry] at counted
    have tidy : (object.exchange timing checkpoint joined runtime).Tidy ↔
        ((object.exchange timing checkpoint joined runtime).indexed.map IndexValues.users =
            some (object.exchange timing checkpoint joined runtime).room.members.length ∨
          (object.exchange timing checkpoint joined runtime).indexRetryAt ≠ none) :=
      ⟨Tidy.users, fun users => ⟨by rw [room]; rfl, by rw [room]; rfl, by rw [room]; rfl, users⟩⟩
    have missing : object.Misses timing checkpoint joined runtime ↔
        (∃ id ∈ ungreeted joined runtime, object.room.members.has id = true) ∧
          ¬ object.Retries timing runtime :=
      ⟨fun misses => misses.someone.resolve_left drops, fun joinedLeft => ⟨text, .inr joinedLeft⟩⟩
    rw [tidy, missing, not_and_not_right]
    rcases counted with ⟨retries, waits⟩ | ⟨settled, none_, users⟩
    · exact iff_of_true (.inr waits) fun _ => retries
    · have remain : (object.exchange timing checkpoint joined runtime).room.members =
          (object.greeted timing checkpoint joined runtime).room.members := by
        rw [room]
        rfl
      rw [users, none_, remain, greeted_room]
      constructor
      · rintro (same | different) ⟨id, leaves, present⟩
        · have fewer : ((object.persist checkpoint runtime).room.leaveAll runtime
              (ungreeted joined runtime)).members.length <
                (object.persist checkpoint runtime).room.members.length :=
            RoomState.leaveAll_length_lt leaves
              ((object.persist_members checkpoint runtime).symm ▸ present)
          rw [Option.some_inj] at same
          omega
        · exact absurd rfl different
      · intro nobody
        left
        rw [RoomState.leaveAll_eq_self]
        intro id leaves
        by_contra present
        apply settled
        apply nobody
        exact ⟨id, leaves, object.persist_members checkpoint runtime ▸
          (Bool.not_eq_false _ |>.mp present)⟩

end Missing

section Rounds

variable (timing : Timing) (checkpoint : Bool) (joined : Option ClientId)
  (runtime : Nat → Runtime) (object start : LiveRoom)

/-- The round with this number misses something: the first one is `commit(checkpoint, joined)`, the
others are `commit()`. -/
def MissesAt (index : Nat) : Prop :=
  object.Misses timing (checkpoint && index == 0) (if index = 0 then joined else none) (runtime index)

variable {start object}

theorem rounds_served (index : Nat) (served : object.Served object.drains) :
    ((rounds timing checkpoint joined runtime).round index object).Served
      ((rounds timing checkpoint joined runtime).round index object).drains := by
  have exchanged := exchange_served timing (checkpoint && index == 0)
    (if index = 0 then joined else none) (runtime index) served
  obtain ⟨alarm, same⟩ := object.round_eq timing (checkpoint && index == 0)
    (if index = 0 then joined else none) (runtime index)
  change (object.round ..).Served (object.round ..).drains
  rw [same]
  exact ⟨exchanged.sent, exchanged.greeted⟩

theorem rounds_accounted (index : Nat) (accounted : start.Accounted object) :
    start.Accounted ((rounds timing checkpoint joined runtime).round index object) := by
  have exchanged := exchange_accounted timing (checkpoint && index == 0)
    (if index = 0 then joined else none) (runtime index) accounted
  obtain ⟨alarm, same⟩ := object.round_eq timing (checkpoint && index == 0)
    (if index = 0 then joined else none) (runtime index)
  change start.Accounted (object.round ..)
  rw [same]
  exact ⟨exchanged.changed, exchanged.pending, exchanged.departed⟩

/-- A round that is the last one leaves everything tidy just when it missed nothing. -/
theorem rounds_tidy_iff (index : Nat) (object : LiveRoom)
    (last : (rounds timing checkpoint joined runtime).again
      ((rounds timing checkpoint joined runtime).round index object) = false) :
    ((rounds timing checkpoint joined runtime).round index object).Tidy ↔
      ¬ object.MissesAt timing checkpoint joined runtime index := by
  obtain ⟨alarm, same⟩ := object.round_eq timing (checkpoint && index == 0)
    (if index = 0 then joined else none) (runtime index)
  change unsaved (object.round ..) = false at last
  change (object.round ..).Tidy ↔ _
  rw [same] at last ⊢
  unfold MissesAt
  rw [← object.exchange_tidy_iff timing _ _ _ last]
  exact ⟨fun tidy => ⟨tidy.messages, tidy.dirty, tidy.kicks, tidy.users⟩,
    fun tidy => ⟨tidy.messages, tidy.dirty, tidy.kicks, tidy.users⟩⟩

/-- A round that another one follows missed nothing: the text changed. -/
theorem rounds_miss_nothing (index : Nat) (object : LiveRoom)
    (goes : (rounds timing checkpoint joined runtime).again
      ((rounds timing checkpoint joined runtime).round index object) = true) :
    ¬ object.MissesAt timing checkpoint joined runtime index := by
  intro misses
  obtain ⟨alarm, same⟩ := object.round_eq timing (checkpoint && index == 0)
    (if index = 0 then joined else none) (runtime index)
  change unsaved (object.round ..) = true at goes
  rw [same] at goes
  have changed := of_decide_eq_true goes
  change some (object.exchange ..).room.snapshot.json ≠ (object.exchange ..).storage.saved at changed
  rw [exchange_saved, exchange_room, departing_eq] at changed
  exact changed (congrArg some misses.text)

variable (object) in
/-- A commit returns, and everything has then been delivered just when none of its rounds missed
anything. -/
theorem commit_delivers : ∃ begun final,
    (rounds timing checkpoint joined runtime).Ends 0 object.begin begun final ∧
    (∀ fuel > object.room.members.length,
      object.commit timing checkpoint joined runtime fuel = some final) ∧
    (object.Delivered final ↔
      ∀ visit ∈ begun, ¬ visit.2.MissesAt timing checkpoint joined runtime visit.1) := by
  obtain ⟨begun, final, ends, returns⟩ := object.rounds_end timing checkpoint joined runtime
  refine ⟨begun, final, ends, returns, ?_⟩
  rw [← ends.decided (rounds_tidy_iff timing checkpoint joined runtime)
    (rounds_miss_nothing timing checkpoint joined runtime)]
  have served : final.Served final.drains := by
    refine @Rounds.Ends.keeps _ _ _ _ _ _ (fun object => object.Served object.drains) ?_ ends
      ⟨nofun, nofun⟩
    exact fun index _ => rounds_served timing checkpoint joined runtime index
  have fresh : object.Accounted object.begin :=
    ⟨fun key marked => .inl marked, fun message waiting => .inl waiting,
      fun id was gone => absurd (was.symm.trans gone) (by simp)⟩
  have accounted := ends.keeps
    (fun index _ => rounds_accounted timing checkpoint joined runtime index) fresh
  constructor
  · intro delivered
    exact ⟨delivered.messages, delivered.dirty, delivered.kicks, delivered.users⟩
  · intro tidy
    have drained {message : ServerMessage} (announced : final.Announced message) :
        ∃ drain ∈ final.drains, .message message ∈ drain.2 := by
      rcases announced with waiting | drained
      · rw [tidy.messages] at waiting
        cases waiting
      · exact drained
    exact {
      messages := tidy.messages
      dirty := tidy.dirty
      kicks := tidy.kicks
      served
      changed := fun key marked => by
        rcases accounted.changed key marked with waits | synced
        · rw [tidy.dirty] at waits
          cases waits
        · exact synced
      pending := fun message waiting => drained (accounted.pending message waiting)
      departed := fun id was gone => drained (accounted.departed id was gone)
      users := tidy.users }

end Rounds

/-! ### A viewer whose socket fails while another stays -/

/-- The default timing. -/
def usualTiming : Timing where
  idleSeconds := .fin 300
  checkpointSeconds := .fin 30

/-- All writes and sends succeed. -/
def soundRuntime : Runtime where
  persistAt := 1000
  indexAt := 1000
  now := 1000

/-- Bob's socket fails. -/
def bobFails : Runtime :=
  { soundRuntime with sendFails := fun id _ => id == bob.id }

/-- Ann and Bob have come in. -/
def twoViewers : LiveRoom where
  room := (({ snapshot := createSnapshot smallOptions annSession 0 } : RoomState).join ann
    { now := 0 }).join bob { now := 0 }
  storage := .erased
  sockets := [⟨ann.id, some annSession, 10000, false⟩, ⟨bob.id, some bobSession, 10000, false⟩]

/-- Their arrival has been committed, and Ann says something. -/
def annSpeaks : Option LiveRoom :=
  (twoViewers.commit usualTiming false none (fun _ => soundRuntime) 3).map fun object =>
    { object with room := (RoomState.chat "hi" ann).after object.room }

/-- Bob's departure waits for a later commit: Ann is not told, and the index counts him. -/
theorem commit_leaves_departure : ¬ ∀ (timing : Timing) (checkpoint : Bool)
    (joined : Option ClientId) (runtime : Nat → Runtime) (object final : LiveRoom) (fuel : Nat),
    object.commit timing checkpoint joined runtime fuel = some final → object.Delivered final := by
  intro claimed
  have lost : (annSpeaks.bind fun object =>
      (object.commit usualTiming false none (fun _ => bobFails) 3).map fun final =>
        (final.room.messages.length, final.room.members.length,
          final.indexed.map IndexValues.users)) = some (2, 1, some 2) := by decide +kernel
  obtain ⟨object, _, ended⟩ := Option.bind_eq_some_iff.mp lost
  obtain ⟨final, returned, counts⟩ := Option.map_eq_some_iff.mp ended
  have delivered := claimed _ _ _ _ _ _ _ returned
  rw [delivered.messages] at counts
  cases counts

end LiveRoom

end OpenTogetherTube.Edge
