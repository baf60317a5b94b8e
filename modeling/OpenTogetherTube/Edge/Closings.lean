import OpenTogetherTube.Edge.Commit
import OpenTogetherTube.Edge.Departures

/-!
# Edge rooms: what a commit closes

A socket whose send fails is closed and its client leaves. `Closes` says what a stretch of a commit
does when it closes the listed sockets: the clients have left one after the other and nothing else
happened to the room. The sends, the greeting and the deliveries are of this kind, so a round is.
-/

namespace OpenTogetherTube.Edge

open Lib

namespace RoomState

/-- The clients leave one after the other. -/
def leaveAll (runtime : Runtime) (ids : List ClientId) (room : RoomState) : RoomState :=
  ids.foldl (fun room id => room.leave id (runtime.host id)) room

section Leaving

variable (room : RoomState) (id : ClientId) (host : Host)

/-- Preparing a viewer concerns neither the members nor what is to be sent. -/
theorem prepare_frame (exclude : Option ClientId) :
    (room.prepare exclude host).members = room.members ∧
      (room.prepare exclude host).messages = room.messages ∧
      (room.prepare exclude host).kicks = room.kicks := by
  unfold prepare
  dsimp only
  split
  · exact ⟨rfl, rfl, rfl⟩
  · exact ⟨rfl, rfl, rfl⟩

theorem settleAfterLeave_frame :
    (room.settleAfterLeave host).members = room.members ∧
      (room.settleAfterLeave host).messages = room.messages ∧
      (room.settleAfterLeave host).kicks = room.kicks := by
  unfold settleAfterLeave
  split
  · exact ⟨rfl, rfl, rfl⟩
  · exact room.prepare_frame host none

theorem mark_dirty {key : SyncKey} (keys : List SyncKey) (marked : key ∈ room.dirty) :
    key ∈ (room.mark keys).dirty :=
  OrderedSet.mem_addAll.mpr (.inl marked)

theorem settleAfterLeave_dirty {key : SyncKey} (marked : key ∈ room.dirty) :
    key ∈ (room.settleAfterLeave host).dirty := by
  unfold settleAfterLeave prepare
  dsimp only
  split
  · exact mark_dirty _ _ marked
  · split
    · exact mark_dirty _ _ marked
    · exact marked

theorem orderVotes_dirty {key : SyncKey} (marked : key ∈ room.dirty) : key ∈ room.orderVotes.dirty := by
  unfold orderVotes
  split
  · exact mark_dirty _ _ marked
  · exact marked

theorem endGestureOf_dirty {key : SyncKey} (now : Int) (marked : key ∈ room.dirty) :
    key ∈ (room.endGestureOf id now).dirty := by
  unfold endGestureOf clearTemporarySpeed
  split
  · split
    · exact mark_dirty _ _ marked
    · exact marked
  · exact marked

theorem dropPreparationOf_dirty {key : SyncKey} (marked : key ∈ room.dirty) :
    key ∈ (room.dropPreparationOf id).dirty := by
  unfold dropPreparationOf clearPreparation
  split
  · split
    · exact mark_dirty _ _ marked
    · exact marked
  · exact marked

theorem orderVotes_messages : room.orderVotes.messages = room.messages := by
  unfold orderVotes
  split <;> rfl

theorem endGestureOf_messages (now : Int) : (room.endGestureOf id now).messages = room.messages := by
  unfold endGestureOf clearTemporarySpeed
  split
  · split <;> rfl
  · rfl

theorem dropPreparationOf_messages : (room.dropPreparationOf id).messages = room.messages := by
  unfold dropPreparationOf clearPreparation
  split
  · split <;> rfl
  · rfl

variable {room id}

theorem get_eq_none (missing : room.members.has id = false) : room.members.get id = none :=
  Option.isNone_iff_eq_none.mp (by simpa [Members.has] using missing)

/-- Leaving takes the client out of the members, if it was one. -/
theorem leave_members : (room.leave id host).members = room.members.delete id := by
  cases found : room.members.get id with
  | none =>
      rw [room.leave_missing host found]
      symm
      apply List.filter_eq_self.mpr
      intro member inside
      rw [decide_eq_true_eq]
      rintro rfl
      have present := Members.has_iff.mpr ⟨member, inside, rfl⟩
      rw [Members.has, found] at present
      cases present
  | some member =>
      rw [(room.leave_quiet host found).members, (settleAfterLeave_frame ..).1]
      rfl

theorem leave_kicks : (room.leave id host).kicks = room.kicks := by
  cases found : room.members.get id with
  | none => rw [room.leave_missing host found]
  | some member =>
      rw [(room.leave_quiet host found).kicks, (settleAfterLeave_frame ..).2.2]
      rfl

/-- A client that leaves is announced twice: as an event and as one user less. -/
theorem leave_messages {member : Member} (found : room.members.get id = some member) :
    (room.leave id host).messages = room.messages ++
      [.event .leave member.session.username (.user (room.info member)), .userRemove id] := by
  unfold leave
  rw [found]
  dsimp only
  rw [(settleAfterLeave_frame ..).2.1, dropPreparationOf_messages, endGestureOf_messages,
    orderVotes_messages]
  exact List.append_assoc ..

theorem dirty_of_dropped {member : Member} (found : room.members.get id = some member) {key : SyncKey}
    (marked : key ∈ (room.dropVotes id).dirty) : key ∈ (room.leave id host).dirty := by
  unfold leave
  rw [found]
  apply settleAfterLeave_dirty
  apply dropPreparationOf_dirty
  apply endGestureOf_dirty
  exact orderVotes_dirty _ marked

/-- A client that leaves takes its votes back, so the votes are to be sent again. -/
theorem leave_dirty (present : room.members.has id = true) :
    SyncKey.voteCounts ∈ (room.leave id host).dirty := by
  obtain ⟨member, found⟩ := Option.isSome_iff_exists.mp present
  exact dirty_of_dropped host found (by simp [dropVotes, mark])

theorem leave_marked {key : SyncKey} (marked : key ∈ room.dirty) : key ∈ (room.leave id host).dirty := by
  cases found : room.members.get id with
  | none =>
      rw [room.leave_missing host found]
      exact marked
  | some member => exact dirty_of_dropped host found (mark_dirty _ _ marked)

theorem leave_keeps {message : ServerMessage} (waiting : message ∈ room.messages) :
    message ∈ (room.leave id host).messages := by
  cases found : room.members.get id with
  | none =>
      rw [room.leave_missing host found]
      exact waiting
  | some member =>
      rw [leave_messages host found]
      exact List.mem_append_left _ waiting

theorem leave_announces (present : room.members.has id = true) :
    .userRemove id ∈ (room.leave id host).messages := by
  obtain ⟨member, found⟩ := Option.isSome_iff_exists.mp present
  rw [leave_messages host found]
  simp

end Leaving

section LeavingAll

variable {runtime : Runtime} {ids more : List ClientId} {room : RoomState}

theorem leaveAll_append :
    room.leaveAll runtime (ids ++ more) = (room.leaveAll runtime ids).leaveAll runtime more :=
  List.foldl_append

theorem leaveAll_has {id : ClientId} : (room.leaveAll runtime ids).members.has id = true ↔
    id ∉ ids ∧ room.members.has id = true := by
  induction ids generalizing room with
  | nil => simp [leaveAll]
  | cons first rest ih =>
      change ((room.leave first _).leaveAll runtime rest).members.has id = true ↔ _
      rw [ih, leave_members, Members.has_delete, List.mem_cons, not_or]
      constructor
      · rintro ⟨later, here, present⟩
        exact ⟨⟨here, later⟩, present⟩
      · rintro ⟨⟨here, later⟩, present⟩
        exact ⟨later, here, present⟩

theorem leaveAll_absent {id : ClientId} (leaves : id ∈ ids) :
    (room.leaveAll runtime ids).members.has id = false := by
  rw [← Bool.not_eq_true, leaveAll_has]
  rintro ⟨stays, _⟩
  exact stays leaves

/-- When no client that leaves was in, nothing changes. -/
theorem leaveAll_eq_self (absent : ∀ id ∈ ids, room.members.has id = false) :
    room.leaveAll runtime ids = room := by
  induction ids with
  | nil => rfl
  | cons first rest ih =>
      rw [List.forall_mem_cons] at absent
      change (room.leave first _).leaveAll runtime rest = room
      rw [room.leave_missing _ (get_eq_none absent.1)]
      exact ih absent.2

theorem leaveAll_kicks : (room.leaveAll runtime ids).kicks = room.kicks := by
  induction ids generalizing room with
  | nil => rfl
  | cons first rest ih => exact ih.trans (leave_kicks _)

theorem leaveAll_length_le : (room.leaveAll runtime ids).members.length ≤ room.members.length := by
  induction ids generalizing room with
  | nil => exact Nat.le_refl _
  | cons first rest ih =>
      apply Nat.le_trans ih
      rw [leave_members]
      exact List.length_filter_le ..

/-- When a client that leaves was in, fewer are left. -/
theorem leaveAll_length_lt {id : ClientId} (leaves : id ∈ ids) (present : room.members.has id = true) :
    (room.leaveAll runtime ids).members.length < room.members.length := by
  induction ids generalizing room with
  | nil => cases leaves
  | cons first rest ih =>
      by_cases here : room.members.has first = true
      · obtain ⟨member, inside, rfl⟩ := Members.has_iff.mp here
        have fewer : ((room.leave member.id (runtime.host member.id)).leaveAll runtime
            rest).members.length ≤ (room.leave member.id (runtime.host member.id)).members.length :=
          leaveAll_length_le
        apply Nat.lt_of_le_of_lt fewer
        rw [leave_members]
        apply List.length_filter_lt_length_iff_exists.mpr
        exact ⟨member, inside, by simp⟩
      · change ((room.leave first _).leaveAll runtime rest).members.length < _
        rw [room.leave_missing _ (get_eq_none (by simpa using here))]
        rcases List.mem_cons.mp leaves with rfl | later
        · exact absurd present here
        · exact ih later present

/-- What waits to be sent still waits when clients have left. -/
theorem leaveAll_keeps {message : ServerMessage} (waiting : message ∈ room.messages) :
    message ∈ (room.leaveAll runtime ids).messages := by
  induction ids generalizing room with
  | nil => exact waiting
  | cons first rest ih => exact ih (leave_keeps _ waiting)

theorem leaveAll_marked {key : SyncKey} (marked : key ∈ room.dirty) :
    key ∈ (room.leaveAll runtime ids).dirty := by
  induction ids generalizing room with
  | nil => exact marked
  | cons first rest ih => exact ih (leave_marked _ marked)

theorem leaveAll_announces {id : ClientId} (leaves : id ∈ ids) (present : room.members.has id = true) :
    .userRemove id ∈ (room.leaveAll runtime ids).messages := by
  induction ids generalizing room with
  | nil => cases leaves
  | cons first rest ih =>
      by_cases same : id = first
      · subst same
        change _ ∈ ((room.leave id (runtime.host id)).leaveAll runtime rest).messages
        exact leaveAll_keeps (leave_announces _ present)
      · have later : id ∈ rest := (List.mem_cons.mp leaves).resolve_left same
        apply ih later
        rw [leave_members, Members.has_delete]
        exact ⟨same, present⟩

end LeavingAll

end RoomState

/-- One of the socket's sends with the numbers from `index` on, `count` of them, throws. -/
def Runtime.failsFrom (runtime : Runtime) (id : ClientId) (index count : Nat) : Bool :=
  (List.range' index count).any (runtime.sendFails id)

namespace LiveRoom

/-- The listed sockets are closed and their clients leave; what was sent stays sent. -/
structure Closes (runtime : Runtime) (ids : List ClientId) (before after : LiveRoom) : Prop where
  room : after.room = before.room.leaveAll runtime ids
  openSockets : after.openSockets =
    before.openSockets.filter fun attachment => decide (attachment.id ∉ ids)
  storage : after.storage = before.storage
  indexed : after.indexed = before.indexed
  indexRetryAt : after.indexRetryAt = before.indexRetryAt
  drains : after.drains = before.drains
  sent : before.sent ⊆ after.sent

namespace Closes

variable {runtime : Runtime} {ids more : List ClientId} {a b c : LiveRoom}

theorem refl (object : LiveRoom) : Closes runtime [] object object where
  room := rfl
  openSockets := by simp
  storage := rfl
  indexed := rfl
  indexRetryAt := rfl
  drains := rfl
  sent := List.Subset.refl _

theorem trans (first : Closes runtime ids a b) (second : Closes runtime more b c) :
    Closes runtime (ids ++ more) a c where
  room := by rw [second.room, first.room, RoomState.leaveAll_append]
  openSockets := by
    rw [second.openSockets, first.openSockets, List.filter_filter]
    apply List.filter_congr
    intro attachment _
    simp [Bool.and_comm]
  storage := second.storage.trans first.storage
  indexed := second.indexed.trans first.indexed
  indexRetryAt := second.indexRetryAt.trans first.indexRetryAt
  drains := second.drains.trans first.drains
  sent := List.Subset.trans first.sent second.sent

/-- Closing a socket a second time does nothing. -/
theorem again {id : ClientId} (closes : Closes runtime ids a b) (closed : id ∈ ids) :
    Closes runtime (ids ++ [id]) a b where
  room := by
    rw [RoomState.leaveAll_append, ← closes.room, RoomState.leaveAll_eq_self]
    intro other inside
    obtain rfl := List.mem_singleton.mp inside
    rw [closes.room]
    exact RoomState.leaveAll_absent closed
  openSockets := by
    rw [closes.openSockets]
    apply List.filter_congr
    intro attachment _
    rw [decide_eq_decide]
    constructor
    · intro apart inside
      rcases List.mem_append.mp inside with inside | same
      · exact apart inside
      · exact apart (List.mem_singleton.mp same ▸ closed)
    · intro apart inside
      exact apart (List.mem_append_left _ inside)
  storage := closes.storage
  indexed := closes.indexed
  indexRetryAt := closes.indexRetryAt
  drains := closes.drains
  sent := closes.sent

/-- Two stretches that close at most one and the same socket. -/
theorem join {id : ClientId} {p q : Bool} (first : Closes runtime (if p then [id] else []) a b)
    (second : Closes runtime (if q then [id] else []) b c) :
    Closes runtime (if p || q then [id] else []) a c := by
  cases p with
  | false => exact first.trans second
  | true =>
      cases q with
      | false => exact first.trans second
      | true =>
          have both : Closes runtime ([id] ++ [id]) a c := first.trans second
          have absent : ∀ other ∈ [id], (a.room.leaveAll runtime [id]).members.has other = false :=
            fun _ inside => RoomState.leaveAll_absent inside
          exact {
            both with
            room := by rw [both.room, RoomState.leaveAll_append, RoomState.leaveAll_eq_self absent]; rfl
            openSockets := by rw [both.openSockets]; simp }

end Closes

section Sending

variable (runtime : Runtime) (id : ClientId) (object : LiveRoom)

theorem markClosed_openSockets : (object.markClosed id).openSockets =
    object.openSockets.filter fun attachment => decide (attachment.id ∉ [id]) := by
  unfold openSockets markClosed
  dsimp only
  rw [List.filter_map, List.filter_filter]
  induction object.sockets with
  | nil => rfl
  | cons first rest ih =>
      by_cases same : first.id = id
      · simpa [same] using ih
      · by_cases closed : first.closed = true
        · simpa [same, closed] using ih
        · simpa [same, closed] using ih

theorem close_closes : Closes runtime [id] object (object.close runtime id) where
  room := rfl
  openSockets := object.markClosed_openSockets id
  storage := rfl
  indexed := rfl
  indexRetryAt := rfl
  drains := rfl
  sent := List.Subset.refl _

theorem send_closes (index : Nat) (payload : Payload) :
    Closes runtime (if runtime.sendFails id index then [id] else []) object
      (object.send runtime id index payload) := by
  unfold send
  split
  · exact object.close_closes runtime id
  · exact { Closes.refl object with sent := List.subset_append_left .. }

variable {id} in
theorem send_sent {index : Nat} (payload : Payload) (goes : runtime.sendFails id index = false) :
    (id, payload) ∈ (object.send runtime id index payload).sent := by
  unfold send
  simp [goes]

theorem sendAll_closes (index : Nat) (payloads : List Payload) :
    Closes runtime (if runtime.failsFrom id index payloads.length then [id] else []) object
      (object.sendAll runtime id index payloads) := by
  induction payloads generalizing index object with
  | nil => exact Closes.refl object
  | cons payload rest ih =>
      exact (object.send_closes runtime id index payload).join (ih _ (index + 1))

variable {id} in
/-- A socket none of whose sends fails gets all of the messages. -/
theorem sendAll_sent {index : Nat} {payloads : List Payload}
    (goes : runtime.failsFrom id index payloads.length = false) {payload : Payload}
    (listed : payload ∈ payloads) : (id, payload) ∈ (object.sendAll runtime id index payloads).sent := by
  induction payloads generalizing index object with
  | nil => cases listed
  | cons first rest ih =>
      have apart : runtime.sendFails id index = false ∧
          runtime.failsFrom id (index + 1) rest.length = false := Bool.or_eq_false_iff.mp goes
      rcases List.mem_cons.mp listed with rfl | later
      · apply (sendAll_closes runtime id _ (index + 1) rest).sent
        exact object.send_sent runtime payload apart.1
      · exact ih _ apart.2 later

theorem greet_closes : Closes runtime (if runtime.failsFrom id 0 3 then [id] else []) object
    (object.greet runtime id) := by
  have sends : runtime.failsFrom id 0 3 =
      (runtime.sendFails id 0 || runtime.sendFails id 1 || runtime.sendFails id 2) := by
    simp [Runtime.failsFrom, Bool.or_assoc, List.range']
  rw [sends]
  exact ((send_closes ..).join (send_closes ..)).join (send_closes ..)

end Sending

section Delivering

variable (joined : Option ClientId) (runtime : Runtime) (payloads : List Payload)
  (kicks : List ClientId)

/-- The delivery closes this socket: it is kicked, or it is sent the messages and a send throws. -/
def departs (room : RoomState) (attachment : Attachment) : Bool :=
  decide (attachment.id ∈ kicks) ||
    (decide (joined ≠ some attachment.id) && attachment.session.isSome &&
      room.members.has attachment.id && runtime.failsFrom attachment.id 0 payloads.length)

variable {start object : LiveRoom} {done : List ClientId}

theorem deliverTo_closes (sofar : Closes runtime done start object) (attachment : Attachment) :
    Closes runtime
      (done ++ if departs joined runtime payloads kicks start.room attachment then [attachment.id]
        else []) start (object.deliverTo joined runtime payloads kicks attachment) := by
  unfold deliverTo departs
  by_cases kicked : attachment.id ∈ kicks
  · simp only [kicked, decide_true, Bool.true_or, if_true]
    exact sofar.trans (object.close_closes runtime attachment.id)
  · by_cases skipped : joined = some attachment.id ∨ attachment.session = none
    · have quiet : (decide (joined ≠ some attachment.id) && attachment.session.isSome) = false := by
        rcases skipped with same | guest
        · simp [same]
        · simp [guest]
      simp only [kicked, quiet, skipped, ← or_assoc, decide_false, Bool.false_or, Bool.false_and,
        true_or, Bool.false_eq_true, if_true, if_false, List.append_nil]
      exact sofar
    · have told : (decide (joined ≠ some attachment.id) && attachment.session.isSome) = true := by
        rw [not_or] at skipped
        simpa [Option.isSome_iff_ne_none] using skipped
      simp only [kicked, told, skipped, ← or_assoc, decide_false, Bool.false_or, Bool.true_and,
        false_or, if_false]
      by_cases present : object.room.members.has attachment.id = true
      · have before := present
        rw [sofar.room, RoomState.leaveAll_has] at before
        simp only [present, before.2, Bool.true_and, Bool.true_eq_false, if_false]
        exact sofar.trans (object.sendAll_closes runtime attachment.id 0 payloads)
      · simp only [Bool.not_eq_true] at present
        simp only [present, if_true]
        split
        · rename_i was
          -- it was a member at the start, so an earlier socket of its id has been closed
          have closed : attachment.id ∈ done := by
            by_contra stays
            have still : (start.room.leaveAll runtime done).members.has attachment.id = true :=
              RoomState.leaveAll_has.mpr ⟨stays, (Bool.and_eq_true_iff.mp was).1⟩
            rw [← sofar.room, present] at still
            cases still
          exact sofar.again closed
        · rw [List.append_nil]
          exact sofar

theorem foldl_deliverTo_closes (sofar : Closes runtime done start object) (listed : List Attachment) :
    Closes runtime
      (done ++ (listed.filter (departs joined runtime payloads kicks start.room)).map Attachment.id)
      start (listed.foldl (deliverTo joined runtime payloads kicks) object) := by
  induction listed generalizing done object with
  | nil => simpa using sofar
  | cons attachment rest ih =>
      have further := ih
        (deliverTo_closes joined runtime payloads kicks sofar attachment)
      rw [List.filter_cons]
      split
      · rename_i departing
        simpa [departing] using further
      · rename_i staying
        simpa [staying] using further

end Delivering

section Stretches

variable (joined : Option ClientId) (runtime : Runtime) (object : LiveRoom)

/-- The socket that joined, if one of the sends that greet it throws. -/
def ungreeted : List ClientId := joined.toList.filter fun id => runtime.failsFrom id 0 3

/-- The sockets the delivery closes. -/
def departing : List ClientId :=
  (object.openSockets.filter
    (departs joined runtime (object.room.outbox runtime.now) object.room.kicks object.room)).map
      Attachment.id

theorem welcome_closes : Closes runtime (ungreeted joined runtime) object
    (object.welcome joined runtime) := by
  cases joined with
  | none => exact Closes.refl object
  | some id =>
      have greets := greet_closes runtime id object
      unfold ungreeted
      cases fails : runtime.failsFrom id 0 3 with
      | false => simpa [fails, welcome] using greets
      | true => simpa [fails, welcome] using greets

theorem deliver_closes : Closes runtime (object.departing joined runtime)
    (object.drain joined runtime) (object.deliver joined runtime) :=
  foldl_deliverTo_closes joined runtime (object.room.outbox runtime.now) object.room.kicks
    (Closes.refl (object.drain joined runtime)) object.openSockets

end Stretches

end LiveRoom

end OpenTogetherTube.Edge
