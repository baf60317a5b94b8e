import OpenTogetherTube.Room.Identity
import OpenTogetherTube.Room.Rows

/-!
# Permissions that were added later

A room is built on grants of some revision, and is granted what has been added since. The
revision is part of every snapshot and of a row that is written whole; a checkpoint writes the
grants of a row without it. So a row from before the revisions takes the owner's grants and keeps
its age, and the next room built on it is granted the additions again.
-/

namespace OpenTogetherTube

open Lib Lib.Handler

namespace Room

variable (options : RoomOptions) (now : Int)

theorem new_revision : ROOM_PERMISSIONS_REVISION ≤ (Room.new options now).permissionsRevision := by
  have assigned : ∀ room : Room,
      ROOM_PERMISSIONS_REVISION ≤ (room.assignGrants options).permissionsRevision := by
    intro room
    unfold assignGrants
    dsimp only
    split
    · exact Nat.le_refl _
    · rename_i current
      exact Nat.le_of_not_lt current
  exact assigned _

theorem new_grants {grants : Grants} (given : options.grants = some grants)
    (current : ROOM_PERMISSIONS_REVISION ≤ options.permissionsRevision.getD 0) :
    (Room.new options now).grants = grants := by
  have assigned : ∀ room : Room, (room.assignGrants options).grants = grants := by
    intro room
    unfold assignGrants
    dsimp only
    rw [if_neg (Nat.not_lt_of_le current), given]
    rfl
  exact assigned _

end Room

/-- The life of one room: the room while it is loaded, its row and its snapshot. -/
structure GrantLife where
  loaded : Option RoomState
  row : Option DbRoom
  snapshot : Option StoredState
  /-- History: how many rooms have been granted additions when they were built. -/
  applied : Nat

/-- A step of the loaded room or of the REST handler, or one of the room manager. -/
inductive GrantLabel where
  | act (label : RowLabel)
  | getRoom (now : Int)
  | unloadRoom (preserveRedis : Bool)
  | crash
  | expire

namespace GrantLife

/-- What `getRoom` builds a room on: the snapshot, or else the row. -/
def options (life : GrantLife) : Option RoomOptions :=
  match life.snapshot with
  | some stored =>
      if stored.isTemporary then some (redisStateToState stored)
      else some { redisStateToState stored with
        passwordHash := some (life.row.bind fun row => row.passwordHash) }
  | none => life.row.map dbToRoomArgs

/-- The revision those options say the grants have. -/
def revisionRead (life : GrantLife) : Option Nat :=
  life.options.map fun options => options.permissionsRevision.getD 0

/-- `getRoom`, when the room is not loaded. -/
def getRoom (now : Int) (life : GrantLife) : GrantLife :=
  match life.options with
  | none => life
  | some options =>
      let room := Room.new options now
      { life with
        loaded := some ⟨if life.snapshot.isSome then room else room.restoreFromStorage, now⟩
        applied :=
          if options.permissionsRevision.getD 0 < ROOM_PERMISSIONS_REVISION then life.applied + 1
          else life.applied }

/-- A step of the loaded room. What it saves goes under its key, and what it hands to `updateRoom`
into its row, when there is one. -/
def act (label : RowLabel) (state : RoomState) (life : GrantLife) : GrantLife where
  loaded :=
    match label with
    | .act label => some (state.next label)
    | .patchRoom _ => some state
  row :=
    if label.env.updateRoomSucceeds then
      life.row.map fun row => ((label.call state.room).map fun call => call.write row).getD row
    else life.row
  snapshot :=
    match label with
    | .act label =>
        (label.action.apply label.env { state.room with saved := none }).saved.or life.snapshot
    | .patchRoom _ => life.snapshot
  applied := life.applied

/-- The life after a step. -/
def next (label : GrantLabel) (life : GrantLife) : GrantLife :=
  match label, life.loaded with
  | .act label, some state => life.act label state
  | .getRoom now, none => life.getRoom now
  | .unloadRoom preserveRedis, _ =>
      { life with loaded := none, snapshot := if preserveRedis then life.snapshot else none }
  | .crash, _ => { life with loaded := none }
  | .expire, _ => { life with snapshot := none }
  | _, _ => life

/-- A loaded room can refuse a step. -/
def Enabled (life : GrantLife) : GrantLabel → Prop
  | .act (.act label) => ∀ state ∈ life.loaded, label.action.Enabled state.room ∧
      label.env.uuid ∉ state.room.rounds
  | _ => True

/-- A room that is stored, whatever its row and its snapshot say, or one that has just been created
and saved. -/
inductive Initial : GrantLife → Prop
  | stored (row : Option DbRoom) (snapshot : Option StoredState) : Initial ⟨none, row, snapshot, 0⟩
  | created (options : RoomOptions) (now : Int) (unseen : options.permissionsRevision = none) :
      Initial ⟨some ⟨Room.new options now, now⟩,
        if (Room.new options now).isTemporary then none else some (roomToDb (Room.new options now)),
        none, 1⟩

end GrantLife

/-- Every life of a room. -/
def grantSystem : TransitionSystem GrantLife GrantLabel where
  Initial := GrantLife.Initial
  Step before label after := before.Enabled label ∧ after = before.next label

namespace GrantLife

variable {life : GrantLife}

/-- A room is built on grants of the current revision, or it is the first to be granted anything. -/
def ReadsCurrent (life : GrantLife) : GrantLabel → Prop
  | .getRoom _ => life.loaded = none → life.applied = 0 ∨
      ∀ revision ∈ life.revisionRead, ROOM_PERMISSIONS_REVISION ≤ revision
  | _ => True

/-- Only a load grants additions. -/
theorem next_applied {label : GrantLabel} (reads : life.ReadsCurrent label) (once : life.applied ≤ 1) :
    (life.next label).applied ≤ 1 := by
  cases label with
  | getRoom now =>
      unfold next
      cases loaded : life.loaded with
      | some state => exact once
      | none =>
          dsimp only
          unfold getRoom
          cases given : life.options with
          | none => exact once
          | some options =>
              dsimp only
              split
              · rename_i old
                rcases reads loaded with first | current
                · rw [first]
                · have read : life.revisionRead = some (options.permissionsRevision.getD 0) := by
                    unfold revisionRead
                    rw [given]
                    rfl
                  exact absurd (current _ read) (Nat.not_le_of_lt old)
              · exact once
  | act label =>
      unfold next
      cases life.loaded with
      | none => exact once
      | some state => exact once
  | unloadRoom preserveRedis => exact once
  | crash => exact once
  | expire => exact once

/-- The masks a room is built on. -/
def masksRead (life : GrantLife) : Option (OrderedMap Role Nat) :=
  match life.snapshot with
  | some stored => some stored.grants.masks
  | none => life.row.map DbRoom.permissions

/-- Additions have been granted at most once, and a room that is built after that has the grants
that were stored and no others. -/
structure Sticks (before after : GrantLife) : Prop where
  once : after.applied ≤ 1
  asStored : 0 < before.applied → before.loaded = none → ∀ state ∈ after.loaded,
    ∃ masks, before.masksRead = some masks ∧ state.room.grants = Grants.ofMasks masks

/-- The options of a load hold the stored masks. -/
theorem options_grants {options : RoomOptions} (given : life.options = some options) :
    ∃ masks, life.masksRead = some masks ∧ options.grants = some (Grants.ofMasks masks) := by
  unfold GrantLife.options at given
  unfold masksRead
  cases snapshot : life.snapshot with
  | some stored =>
      rw [snapshot] at given
      dsimp only at given
      split at given <;> cases given
      all_goals exact ⟨_, rfl, rfl⟩
  | none =>
      rw [snapshot] at given
      dsimp only at given
      obtain ⟨row, present, rfl⟩ := Option.map_eq_some_iff.mp given
      rw [present]
      exact ⟨_, rfl, rfl⟩

theorem loaded_of_next {label : GrantLabel} (unloaded : life.loaded = none) {state : RoomState}
    (loaded : (life.next label).loaded = some state) :
    ∃ now options, label = .getRoom now ∧ life.options = some options ∧
      state.room.grants = (Room.new options now).grants := by
  cases label with
  | getRoom now =>
      have next : life.next (.getRoom now) = life.getRoom now := by
        unfold GrantLife.next
        rw [unloaded]
      rw [next] at loaded
      unfold getRoom at loaded
      cases given : life.options with
      | none =>
          rw [given, unloaded] at loaded
          cases loaded
      | some options =>
          rw [given] at loaded
          cases loaded
          refine ⟨now, options, rfl, rfl, ?_⟩
          dsimp only
          split <;> rfl
  | act label =>
      unfold next at loaded
      rw [unloaded] at loaded
      dsimp only at loaded
      rw [unloaded] at loaded
      cases loaded
  | unloadRoom preserveRedis => cases loaded
  | crash => cases loaded
  | expire =>
      change life.loaded = some state at loaded
      rw [unloaded] at loaded
      cases loaded

/-- In every run whose loads, but for the first that grants anything, read grants of the current
revision, the additions are granted at most once and every later load brings back the grants as
they were stored. -/
theorem additions_stick {before after : GrantLife} {label : GrantLabel}
    (reachable : (grantSystem.restrict ReadsCurrent).Reachable before)
    (step : (grantSystem.restrict ReadsCurrent).Step before label after) : before.Sticks after := by
  have once : TransitionSystem.Inductive (grantSystem.restrict ReadsCurrent)
      fun life => life.applied ≤ 1 := by
    refine ⟨?_, ?_⟩
    · rintro _ (⟨row, snapshot⟩ | ⟨options, now, _⟩)
      · exact Nat.zero_le 1
      · exact Nat.le_refl 1
    · rintro life label _ once ⟨reads, _, rfl⟩
      exact next_applied reads once
  refine ⟨once.preserved (once.of_reachable reachable) step, fun granted unloaded state loaded => ?_⟩
  obtain ⟨reads, _, rfl⟩ := step
  obtain ⟨now, options, rfl, given, grants⟩ := loaded_of_next unloaded loaded
  obtain ⟨masks, read, stored⟩ := options_grants given
  refine ⟨masks, read, grants.trans (Room.new_grants options now stored ?_)⟩
  have read : before.revisionRead = some (options.permissionsRevision.getD 0) := by
    unfold revisionRead
    rw [given]
    rfl
  exact (reads unloaded).resolve_left (Nat.pos_iff_ne_zero.mp granted) _ read

instance (life : GrantLife) : (label : GrantLabel) → Decidable (life.Enabled label)
  | .act (.act _) => inferInstanceAs (Decidable (∀ state ∈ life.loaded, _ ∧ _))
  | .act (.patchRoom _) | .getRoom _ | .unloadRoom _ | .crash | .expire => .isTrue trivial

instance (life : GrantLife) : (label : GrantLabel) → Decidable (life.ReadsCurrent label)
  | .getRoom _ => inferInstanceAs (Decidable (_ → _ ∨ ∀ revision ∈ life.revisionRead, _))
  | .act _ | .unloadRoom _ | .crash | .expire => .isTrue trivial

end GrantLife

namespace Sample

/-- The owner leaves unregistered users nothing but playing and pausing, and the room is unloaded
for good, which checkpoints it. -/
def tightenAndUnload : List GrantLabel :=
  [.act (.act ⟨{ now := 2 }, .request (.applySettings
      { grants := some ⟨[(.unregisteredUser, maskOf [.playPause])]⟩ }) { role := .owner }⟩),
    .act (.act ⟨{ now := 3 }, .onBeforeUnload⟩), .unloadRoom false]

/-- A permanent room that has just been created. -/
def newLoaded : GrantLife :=
  ⟨some ⟨Room.new {} 0, 0⟩, some (roomToDb (Room.new {} 0)), none, 1⟩

/-- A row from before the revisions. -/
def oldRow : GrantLife :=
  ⟨none, some { roomToDb (Room.new {} 0) with permissionsRevision := none }, none, 0⟩

/-- What unregistered users may do about comments in the loaded room. -/
def mayComment (life : GrantLife) : Option Bool :=
  life.loaded.map fun state => state.room.grants.granted .unregisteredUser .setDanmakuSource

end Sample

namespace GrantLife

open Sample

/-- A room that was created under the current revision comes back as it was tightened. -/
theorem additions_stick_created :
    (TransitionSystem.run next tightenAndUnload newLoaded).Sticks
        ((TransitionSystem.run next tightenAndUnload newLoaded).next (.getRoom 4)) ∧
      mayComment ((TransitionSystem.run next tightenAndUnload newLoaded).next (.getRoom 4)) =
        some false := by
  have created : grantSystem.Initial newLoaded := by
    have permanent : (Room.new {} 0).isTemporary = false := by decide +kernel
    have initial := Initial.created {} 0 rfl
    rw [permanent, if_neg Bool.false_ne_true] at initial
    exact initial
  have step : ∀ life label, life.Enabled label ∧ life.ReadsCurrent label →
      (grantSystem.restrict ReadsCurrent).Step life label (life.next label) :=
    fun _ _ possible => ⟨possible.2, possible.1, rfl⟩
  have unloaded : (grantSystem.restrict ReadsCurrent).Steps newLoaded
      (TransitionSystem.run next tightenAndUnload newLoaded) :=
    TransitionSystem.steps_run step _ _ (by decide +kernel)
  exact ⟨additions_stick ⟨newLoaded, created, unloaded⟩
    (step _ (.getRoom 4) ⟨trivial, by decide +kernel⟩), by decide +kernel⟩

/-- A room with an old row is granted the addition again once it was tightened. -/
theorem additions_stick_fails : ¬ ∀ before label after, grantSystem.Reachable before →
    grantSystem.Step before label after → before.Sticks after := by
  intro claimed
  have step : ∀ life label, life.Enabled label → grantSystem.Step life label (life.next label) :=
    fun _ _ possible => ⟨possible, rfl⟩
  have unloaded : grantSystem.Steps oldRow
      (TransitionSystem.run next (.getRoom 1 :: tightenAndUnload) oldRow) :=
    TransitionSystem.steps_run step _ _ (by decide +kernel)
  have once := (claimed _ (.getRoom 4) _ ⟨oldRow, .stored _ _, unloaded⟩ (step _ _ trivial)).once
  have twice : ((TransitionSystem.run next (.getRoom 1 :: tightenAndUnload) oldRow).next
      (.getRoom 4)).applied = 2 := by decide +kernel
  rw [twice] at once
  exact absurd once (by decide)

/-- What was taken away is granted again. -/
example : mayComment (TransitionSystem.run next (.getRoom 1 :: tightenAndUnload.take 1) oldRow) =
      some false ∧
    mayComment (TransitionSystem.run next (.getRoom 1 :: tightenAndUnload ++ [.getRoom 4]) oldRow) =
      some true := by
  decide +kernel

end GrantLife

end OpenTogetherTube
