import OpenTogetherTube.Edge.Attended
import OpenTogetherTube.Edge.Committed

/-!
# Edge rooms: live rooms as a transition system

A live room with its sockets, its record and its clock, which never goes back. Handlers work on the room,
sockets come and go, a commit runs its rounds, and a restart finds the record again. What every operation
keeps holds of every reachable room, and the record is always of a room that was anchored in time.
-/

namespace OpenTogetherTube.Edge

open Lib

/-- The room after a handler's operation. -/
def RoomState.handled (jsonBytes : QueueItem → Nat) (step : Step) (room : RoomState) : RoomState :=
  (RoomObject.next jsonBytes step { room, stored := room.snapshot, committed := [] }).room

/-- Whether a handler may do this: sockets speak for members, and commands have passed the schema. -/
structure RoomState.Handles (room : RoomState) (step : Step) : Prop where
  possible : RoomObject.Possible { room, stored := room.snapshot, committed := [] } step
  bounds : ∀ member command, step.event.actor room = some (member, command) → command.inBounds = true
  commits : ∀ checkpoint, step.event ≠ .commit checkpoint
  restarts : ∀ kept, step.event ≠ .restart kept

/-- The clock readings of a commit's rounds come in order, from `clock` on. -/
structure Timely (clock : Int) (runtime : Nat → Runtime) : Prop where
  start : clock ≤ (runtime 0).persistAt
  index : ∀ round, (runtime round).persistAt ≤ (runtime round).indexAt
  now : ∀ round, (runtime round).indexAt ≤ (runtime round).now
  next : ∀ round, (runtime round).now ≤ (runtime (round + 1)).persistAt

/-- A live room, and how far its clock has come. -/
structure LiveState where
  object : LiveRoom
  clock : Int

/-- What happens to a live room. -/
inductive LiveEvent where
  | handle (step : Step)
  /-- Sockets are accepted, authenticated, closed or dropped. -/
  | sockets (sockets : List Attachment)
  | commit (timing : Timing) (checkpoint : Bool) (joined : Option ClientId) (runtime : Nat → Runtime)
  | restart (members : Members) (host : Host)

namespace LiveRoom

/-- The clock when a round with this number begins, in a commit that begins at `clock`. -/
def clockAt (clock : Int) (runtime : Nat → Runtime) : Nat → Int
  | 0 => clock
  | round + 1 => (runtime round).now

/-- What a commit may lead to. -/
def Commits (timing : Timing) (checkpoint : Bool) (joined : Option ClientId) (runtime : Nat → Runtime)
    (before : LiveState) (after : LiveState) : Prop :=
  ∃ begun, (rounds timing checkpoint joined runtime).Ends 0 before.object.begin begun after.object ∧
    after.clock = clockAt before.clock runtime begun.length

/-- Live rooms from their creation on. -/
def system (jsonBytes : QueueItem → Nat) : TransitionSystem LiveState LiveEvent where
  Initial state := ∃ options owner,
    state.object = { room := { snapshot := createSnapshot options owner state.clock }, storage := .erased }
  Step before event after :=
    match event with
    | .handle step => before.object.room.Handles step ∧ before.clock ≤ step.host.now ∧
        after = ⟨{ before.object with room := before.object.room.handled jsonBytes step }, step.host.now⟩
    | .sockets sockets => after = { before with object := { before.object with sockets } }
    | .commit timing checkpoint joined runtime =>
        Timely before.clock runtime ∧ Commits timing checkpoint joined runtime before after
    | .restart members host => before.clock ≤ host.now ∧
        ∃ snapshot, before.object.storage.stored = some snapshot ∧
          after = ⟨{
            room := ({ snapshot, members } : RoomState).recover host
            storage := .found (some snapshot)
            sockets := before.object.sockets
            alarm := before.object.alarm }, host.now⟩

/-- The room has the property, and so had the room whose snapshot is in storage. -/
structure Holds (holds : RoomState → Prop) (object : LiveRoom) : Prop where
  room : holds object.room
  stored : ∀ snapshot, object.storage.stored = some snapshot →
    ∃ room, holds room ∧ room.snapshot = snapshot

/-- The snapshot in storage was anchored no later than at `clock`. -/
def AnchoredBy (clock : Int) (object : LiveRoom) : Prop :=
  ∀ snapshot, object.storage.stored = some snapshot →
    0 ≤ snapshot.position ∧ snapshot.anchorAt ≤ clock

section Keeping

variable {holds : RoomState → Prop} (kept : LiveInvariant holds)

include kept

theorem handled_keeps {jsonBytes : QueueItem → Nat} {room : RoomState} {step : Step}
    (handles : room.Handles step) (before : holds room) : holds (room.handled jsonBytes step) := by
  obtain ⟨host, event⟩ := step
  unfold RoomState.handled RoomObject.next
  cases event with
  | join member => exact kept.joined member host before
  | leave id => exact kept.left id host before
  | request id command resolved =>
      obtain ⟨member, found, inhabited⟩ := RoomObject.get_of_has handles.possible
      have bounds : command.inBounds = true :=
        handles.bounds member command (Option.map_eq_some_iff.mpr ⟨member, found, rfl⟩)
      simp only [found]
      exact kept.applied before (.inl inhabited) bounds (RoomState.apply_applied command resolved)
  | http session command resolved =>
      have bounds : command.inBounds = true := handles.bounds _ command rfl
      exact kept.applied before (.inr handles.possible.1) bounds
        (RoomState.apply_applied command resolved)
  | status id status prepared =>
      obtain ⟨member, found, _⟩ := RoomObject.get_of_has handles.possible
      simp only [found]
      exact kept.reported status prepared host.now before found
  | tick => exact kept.ticked host before
  | commit checkpoint => exact absurd rfl (handles.commits checkpoint)
  | restart survivors => exact absurd rfl (handles.restarts survivors)

theorem leaveAll_keeps (runtime : Runtime) (ids : List ClientId) {room : RoomState}
    (before : holds room) : holds (room.leaveAll runtime ids) := by
  induction ids generalizing room with
  | nil => exact before
  | cons first rest ih =>
      exact ih (kept.left first (runtime.host first) before)

theorem persist_holds (checkpoint : Bool) (runtime : Runtime) {object : LiveRoom}
    (before : object.Holds holds) : (object.persist checkpoint runtime).Holds holds := by
  unfold persist
  split
  · have written := kept.persisted runtime.persistAt before.room
    constructor
    · exact written
    · rintro _ ⟨⟩
      exact ⟨_, written, rfl⟩
  · exact before

/-- What operations keep, a round keeps, of the room and of the record. -/
theorem exchange_holds (timing : Timing) (checkpoint : Bool) (joined : Option ClientId)
    (runtime : Runtime) {object : LiveRoom} (before : object.Holds holds) :
    (object.exchange timing checkpoint joined runtime).Holds holds := by
  have written := persist_holds kept checkpoint runtime before
  constructor
  · rw [exchange_room]
    exact leaveAll_keeps kept runtime _
      (kept.drained (leaveAll_keeps kept runtime _ written.room))
  · rw [exchange_storage]
    exact written.stored

theorem ends_hold {timing : Timing} {checkpoint : Bool} {joined : Option ClientId}
    {runtime : Nat → Runtime} {object final : LiveRoom} {begun : List (Nat × LiveRoom)}
    (ends : (rounds timing checkpoint joined runtime).Ends 0 object begun final)
    (before : object.Holds holds) : final.Holds holds := by
  apply ends.keeps _ before
  intro index object before
  have exchanged := exchange_holds kept timing (checkpoint && index == 0)
    (if index = 0 then joined else none) (runtime index) before
  obtain ⟨alarm, same⟩ := object.round_eq timing (checkpoint && index == 0)
    (if index = 0 then joined else none) (runtime index)
  change (object.round ..).Holds holds
  rw [same]
  exact ⟨exchanged.room, exchanged.stored⟩

end Keeping

section Anchoring

variable {timing : Timing} {checkpoint : Bool} {joined : Option ClientId}

theorem AnchoredBy.later {earlier later : Int} {object : LiveRoom} (anchored : object.AnchoredBy earlier)
    (inOrder : earlier ≤ later) : object.AnchoredBy later := by
  intro snapshot stored
  have before := anchored snapshot stored
  exact ⟨before.1, le_trans before.2 inOrder⟩

/-- A round's write anchors the snapshot where playback is. -/
theorem exchange_anchored {runtime : Runtime} {clock : Int} {object : LiveRoom}
    (anchored : object.AnchoredBy clock) (inOrder : runtime.persistAt ≤ clock) :
    (object.exchange timing checkpoint joined runtime).AnchoredBy clock := by
  unfold AnchoredBy
  rw [exchange_storage]
  unfold persist
  split
  · rintro _ ⟨⟩
    exact ⟨le_max_left 0 _, inOrder⟩
  · exact anchored

theorem clockAt_le {clock : Int} {runtime : Nat → Runtime} (timely : Timely clock runtime)
    (round : Nat) : clockAt clock runtime round ≤ (runtime round).persistAt := by
  cases round with
  | zero => exact timely.start
  | succ round => exact timely.next round

/-- When a commit returns, the record was anchored no later than at the last clock reading. -/
theorem ends_anchored {clock : Int} {runtime : Nat → Runtime} (timely : Timely clock runtime)
    {object final : LiveRoom} {begun : List (Nat × LiveRoom)}
    (ends : (rounds timing checkpoint joined runtime).Ends 0 object begun final)
    (anchored : object.AnchoredBy clock) : final.AnchoredBy (clockAt clock runtime begun.length) := by
  have round_anchored : ∀ index object, object.AnchoredBy (clockAt clock runtime index) →
      ((rounds timing checkpoint joined runtime).round index object).AnchoredBy
        (clockAt clock runtime (index + 1)) := by
    intro index object before
    have write : (runtime index).persistAt ≤ (runtime index).now :=
      le_trans (timely.index index) (timely.now index)
    have later := before.later (le_trans (clockAt_le timely index) write)
    obtain ⟨alarm, same⟩ := object.round_eq timing (checkpoint && index == 0)
      (if index = 0 then joined else none) (runtime index)
    change (object.round ..).AnchoredBy (runtime index).now
    rw [same]
    exact exchange_anchored later write
  have carried := ends.keepsAt round_anchored anchored
  rwa [Nat.zero_add] at carried

end Anchoring

/-- What every operation keeps, with the record anchored in time, is an invariant of live rooms. -/
theorem live_invariant {jsonBytes : QueueItem → Nat} {holds : RoomState → Prop}
    (kept : LiveInvariant holds) :
    TransitionSystem.Inductive (system jsonBytes) fun state =>
      state.object.Holds holds ∧ state.object.AnchoredBy state.clock where
  initial := by
    rintro ⟨object, clock⟩ ⟨options, owner, made⟩
    have nothing : object.storage.stored = none := congrArg (fun object => object.storage.stored) made
    refine ⟨⟨?_, fun snapshot stored => absurd (nothing.symm.trans stored) nofun⟩,
      fun snapshot stored => absurd (nothing.symm.trans stored) nofun⟩
    rw [congrArg LiveRoom.room made]
    exact kept.created options owner clock
  preserved := by
    rintro ⟨object, clock⟩ event ⟨after, later⟩ ⟨held, anchored⟩ step
    cases event with
    | handle operation =>
        obtain ⟨handles, inOrder, made⟩ := step
        cases made
        exact ⟨⟨handled_keeps kept handles held.room, held.stored⟩, anchored.later inOrder⟩
    | sockets sockets =>
        cases step
        exact ⟨⟨held.room, held.stored⟩, anchored⟩
    | commit timing checkpoint joined runtime =>
        obtain ⟨timely, begun, ends, ended⟩ := step
        have begins : object.begin.Holds holds := ⟨held.room, held.stored⟩
        refine ⟨ends_hold kept ends begins, ?_⟩
        change later = clockAt clock runtime begun.length at ended
        rw [ended]
        exact ends_anchored timely ends anchored
    | restart members host =>
        obtain ⟨inOrder, snapshot, stored, made⟩ := step
        obtain ⟨room, before, rfl⟩ := held.stored snapshot stored
        cases made
        constructor
        · refine ⟨kept.restored members host before, ?_⟩
          rintro _ ⟨⟩
          exact ⟨room, before, rfl⟩
        · rintro _ ⟨⟩
          exact anchored.later inOrder _ stored

end LiveRoom

end OpenTogetherTube.Edge
