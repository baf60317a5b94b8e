import OpenTogetherTube.Room.Checkpoint
import OpenTogetherTube.Room.Permits

/-!
# The row of a permanent room

`storage.updateRoom` is called from three places: a checkpoint hands over the settings that are
dirty, the saved queue as a snapshot of the live one; a promotion and the REST handler hand over
the room itself, and with it a saved queue that is what a restore would bring back.
-/

namespace OpenTogetherTube

open Lib Lib.Handler

/-- A call of `storage.updateRoom`: the room and the time it is made at, and whether it hands over
the room or the dirty settings only. -/
structure UpdateRoomCall where
  room : Room
  now : Int
  whole : Bool

namespace UpdateRoomCall

variable (call : UpdateRoomCall)

/-- The argument of the call. -/
def argument : PersistableState :=
  if call.whole then call.room.persistable else call.room.syncedSettings call.now

/-- The row the call writes. -/
def write (row : DbRoom) : DbRoom := roomToDbPartial call.argument row

end UpdateRoomCall

/-- The call a step makes, at its checkpoint or at the end of a promotion. -/
def RoomAction.updateRoomCall (env : Env) (action : RoomAction) (room : Room) :
    Option UpdateRoomCall :=
  match action.checkpoint env room with
  | some synced =>
      if !synced.isTemporary && synced.dirty.any Room.isPersisted then
        some ⟨synced, env.now, false⟩
      else none
  | none =>
      match action with
      | .request (.promote target role) context =>
          if room.acceptsPromotion target role context && !room.isTemporary then
            some ⟨action.apply env room, env.now, true⟩
          else none
      | _ => none

/-- A room and its row. -/
structure RowRun where
  state : RoomState
  row : DbRoom

/-- A step of the room, or the REST handler as it gets to `updateRoom`. -/
inductive RowLabel where
  | act (label : RoomLabel)
  | patchRoom (env : Env)

namespace RowLabel

/-- What the label takes from outside. -/
def env : RowLabel → Env
  | .act label => label.env
  | .patchRoom env => env

/-- The call that is made under a label. -/
def call (room : Room) : RowLabel → Option UpdateRoomCall
  | .act label => label.action.updateRoomCall label.env room
  | .patchRoom env => if room.isTemporary then none else some ⟨room, env.now, true⟩

end RowLabel

namespace RowRun

/-- The room and its row after a step. -/
def next (label : RowLabel) (run : RowRun) : RowRun where
  state :=
    match label with
    | .act label => run.state.next label
    | .patchRoom _ => run.state
  row :=
    if label.env.updateRoomSucceeds then
      ((label.call run.state.room).map fun call => call.write run.row).getD run.row
    else run.row

/-- Only steps of the room can be refused. -/
def Enabled (run : RowRun) : RowLabel → Prop
  | .act label => label.action.Enabled run.state.room ∧ label.env.uuid ∉ run.state.room.rounds
  | .patchRoom _ => True

end RowRun

/-- Every run of a permanent room, whatever its row says at first. -/
def rowSystem : TransitionSystem RowRun RowLabel where
  Initial run := RoomState.Initial run.state
  Step before label after := before.Enabled label ∧ after = before.next label

namespace UpdateRoomCall

variable {call : UpdateRoomCall}

/-- The room has something to play. -/
def Occupied (call : UpdateRoomCall) : Prop :=
  call.room.currentSource.isSome = true ∨ call.room.queue ≠ []

/-- The saved queue of the row is untouched, or it is a snapshot of the queue. -/
def KeepsQueue (call : UpdateRoomCall) (before after : DbRoom) : Prop :=
  after.prevQueue = before.prevQueue ∨
    ∃ items, call.room.queueSnapshot call.now = some items ∧ after.prevQueue = some items

/-- What there is to play is in the snapshot. -/
theorem Occupied.queueSnapshot (occupied : call.Occupied) :
    ∃ items, call.room.queueSnapshot call.now = some items := by
  unfold Room.queueSnapshot
  dsimp only
  split
  · rename_i empty
    rw [List.isEmpty_iff, List.append_eq_nil_iff] at empty
    rcases occupied with playing | queued
    · obtain ⟨item, present⟩ := Option.isSome_iff_exists.mp playing
      rw [present] at empty
      cases empty.1
    · exact absurd empty.2 queued
  · exact ⟨_, rfl⟩

/-- A checkpoint leaves the saved queue alone, or saves a snapshot. -/
theorem write_synced (partly : call.whole = false) (row : DbRoom) :
    (call.write row).prevQueue = row.prevQueue ∨
      (call.write row).prevQueue = call.room.queueSnapshot call.now := by
  change (call.argument .prevQueue).getD row.prevQueue = _ ∨
    (call.argument .prevQueue).getD row.prevQueue = _
  unfold argument
  rw [partly, if_neg Bool.false_ne_true]
  unfold Room.syncedSettings
  split
  · exact .inr rfl
  · exact .inl rfl

theorem write_whole (whole : call.whole = true) (row : DbRoom) :
    (call.write row).prevQueue = call.room.prevQueue := by
  change (call.argument .prevQueue).getD row.prevQueue = _
  unfold argument
  rw [whole]
  rfl

/-- A call keeps the saved queue of an occupied room just when it is a checkpoint's, or the room's
own saved queue is the snapshot or what the row says already. -/
theorem keepsQueue_iff (occupied : call.Occupied) (row : DbRoom) :
    call.KeepsQueue row (call.write row) ↔ call.whole = false ∨
      call.room.prevQueue = call.room.queueSnapshot call.now ∨ call.room.prevQueue = row.prevQueue := by
  obtain ⟨items, snapshot⟩ := occupied.queueSnapshot
  unfold KeepsQueue
  cases whole : call.whole with
  | false =>
      refine iff_of_true ?_ (.inl rfl)
      rcases write_synced whole row with untouched | saved
      · exact .inl untouched
      · exact .inr ⟨items, snapshot, saved.trans snapshot⟩
  | true =>
      rw [write_whole whole row, snapshot]
      constructor
      · rintro (untouched | ⟨_, ⟨⟩, saved⟩)
        · exact .inr (.inr untouched)
        · exact .inr (.inl saved)
      · rintro (partly | saved | untouched)
        · cases partly
        · exact .inr ⟨items, rfl, saved⟩
        · exact .inl untouched

end UpdateRoomCall

namespace RowRun

/-- The call of a step, if it makes one for an occupied room, keeps the saved queue. -/
def KeepsQueue (before : RowRun) (label : RowLabel) (after : RowRun) : Prop :=
  ∀ call, label.call before.state.room = some call → call.Occupied →
    call.KeepsQueue before.row after.row

/-- The call of a step is a checkpoint's, or it hands over the room where the room's own saved
queue is the snapshot or what the row says already, or where the row is not written. -/
def SavesQueue (before : RowRun) (label : RowLabel) : Prop :=
  ∀ call, label.call before.state.room = some call → call.Occupied →
    call.whole = false ∨ call.room.prevQueue = call.room.queueSnapshot call.now ∨
      call.room.prevQueue = before.row.prevQueue ∨ label.env.updateRoomSucceeds = false

/-- Whatever state a room is in, a step keeps the saved queue of its row just when its call hands
over the dirty settings, or a saved queue that is right. -/
theorem keepsQueue_iff_savesQueue {before after : RowRun} {label : RowLabel}
    (step : rowSystem.Step before label after) :
    before.KeepsQueue label after ↔ before.SavesQueue label := by
  obtain ⟨_, rfl⟩ := step
  refine forall_congr' fun call => forall_congr' fun made => forall_congr' fun occupied => ?_
  have row : (before.next label).row =
      if label.env.updateRoomSucceeds then call.write before.row else before.row := by
    unfold next
    rw [made]
    rfl
  cases answered : label.env.updateRoomSucceeds with
  | false =>
      rw [answered, if_neg Bool.false_ne_true] at row
      rw [row]
      exact iff_of_true (.inl rfl) (.inr (.inr (.inr rfl)))
  | true =>
      rw [answered, if_pos rfl] at row
      rw [row, UpdateRoomCall.keepsQueue_iff occupied]
      exact ⟨fun kept => by tauto, fun kept => by simpa using kept⟩

end RowRun

namespace Sample

/-- A new permanent room with its row. -/
def newRow : RowRun := ⟨⟨Room.new {} 0, 0⟩, roomToDb (Room.new {} 0)⟩

/-- The owner adds a video, and the room is checkpointed. -/
def addAndSync : List RowLabel :=
  [.act ⟨{ now := 1 }, .request (.add { video := some { service := .youtube, id := "a" } })
      { role := .owner }⟩,
    .act ⟨{ now := 2 }, .sync⟩]

theorem newRow_initial : rowSystem.Initial newRow := .created {} 0

instance (run : RowRun) : (label : RowLabel) → Decidable (run.Enabled label)
  | .act _ => inferInstanceAs (Decidable (_ ∧ _))
  | .patchRoom _ => .isTrue trivial

theorem newRow_reaches (labels : List RowLabel)
    (enabled : TransitionSystem.runs RowRun.next RowRun.Enabled labels newRow = true) :
    rowSystem.Reachable (TransitionSystem.run RowRun.next labels newRow) := by
  have step : ∀ run label, RowRun.Enabled run label → rowSystem.Step run label (run.next label) :=
    fun _ _ possible => ⟨possible, rfl⟩
  exact ⟨newRow, newRow_initial, TransitionSystem.steps_run step labels newRow enabled⟩

end Sample

namespace RowRun

/-- The checkpoint saves the queue that the video was added to. -/
theorem keepsQueue_iff_savesQueue_sync :
    KeepsQueue (TransitionSystem.run next (Sample.addAndSync.take 1) Sample.newRow)
      (.act ⟨{ now := 2 }, .sync⟩)
      (TransitionSystem.run next Sample.addAndSync Sample.newRow) := by
  have synced : rowSystem.Step (TransitionSystem.run next (Sample.addAndSync.take 1) Sample.newRow)
      (.act ⟨{ now := 2 }, .sync⟩) (TransitionSystem.run next Sample.addAndSync Sample.newRow) :=
    ⟨⟨trivial, by decide +kernel⟩, rfl⟩
  refine (keepsQueue_iff_savesQueue synced).mpr fun call made _ => ?_
  refine .inl ?_
  have partly : ((RowLabel.act ⟨{ now := 2 }, .sync⟩).call
      (TransitionSystem.run next (Sample.addAndSync.take 1) Sample.newRow).state.room).map
        UpdateRoomCall.whole = some false := by decide +kernel
  rw [made] at partly
  exact Option.some.inj partly

/-- A settings request arrives over REST once the queue is saved: the row's saved queue is null. -/
theorem keepsQueue_fails : ¬ ∀ before label after, rowSystem.Reachable before →
    rowSystem.Step before label after → before.KeepsQueue label after := by
  intro claimed
  have reachable := Sample.newRow_reaches Sample.addAndSync (by decide +kernel)
  have patched : rowSystem.Step (TransitionSystem.run next Sample.addAndSync Sample.newRow)
      (.patchRoom { now := 3 }) _ := ⟨trivial, rfl⟩
  have saves := (keepsQueue_iff_savesQueue patched).mp (claimed _ _ _ reachable patched)
  have made : ∀ room : Room, room.isTemporary = false →
      (RowLabel.patchRoom { now := 3 }).call room = some ⟨room, 3, true⟩ :=
    fun room permanent => if_neg (by rw [permanent]; exact Bool.false_ne_true)
  rcases saves _ (made _ (by decide +kernel)) (.inr (by decide +kernel)) with
    partly | snapshot | untouched | unanswered
  · cases partly
  · exact absurd snapshot (by decide +kernel)
  · exact absurd untouched (by decide +kernel)
  · cases unanswered

end RowRun

end OpenTogetherTube
