import OpenTogetherTube.Edge.Invariance

/-!
# Edge rooms: playing needs a source and a viewer

A room that plays has a source and a member, and the time of emptiness is unset exactly
while there are members, so that an occupied room does not expire. Every operation keeps
the three facts, recovery with some of the members included.
-/

namespace OpenTogetherTube.Edge

open Lib

namespace RoomState

/-- A room plays only with a source and a viewer, and knows whether it is empty. -/
structure Occupied (room : RoomState) : Prop where
  source : room.snapshot.isPlaying = true → room.snapshot.currentSource.isSome = true
  viewer : room.snapshot.isPlaying = true → room.members ≠ []
  emptySince : room.snapshot.emptySince = none ↔ room.members ≠ []

namespace Occupied

variable {a b room : RoomState}

theorem quiet (same : Quiet a b) (occupied : Occupied a) : Occupied b := by
  have playing := congrArg Playback.isPlaying same.playback
  have source := congrArg Playback.currentSource same.playback
  refine ⟨fun plays => ?_, fun plays => ?_, ?_⟩
  · rw [source]
    exact occupied.source (playing ▸ plays)
  · rw [same.members]
    exact occupied.viewer (playing ▸ plays)
  · rw [same.emptySince, same.members]
    exact occupied.emptySince

variable (occupied : Occupied room)

include occupied

/-- A change of the playback that starts nothing. -/
theorem onPlayback {update : Playback → Playback}
    (source : (update room.snapshot.toPlayback).currentSource = room.snapshot.currentSource)
    (playing : (update room.snapshot.toPlayback).isPlaying = true →
      room.snapshot.isPlaying = true) : Occupied (room.onPlayback update) where
  source plays := by
    change (update room.snapshot.toPlayback).currentSource.isSome = true
    rw [source]
    exact occupied.source (playing plays)
  viewer plays := occupied.viewer (playing plays)
  emptySince := occupied.emptySince

theorem clearPreparation : Occupied room.clearPreparation :=
  quiet room.clearPreparation_quiet (occupied.onPlayback rfl id)

theorem prepare (exclude : Option ClientId) (host : Host) :
    Occupied (room.prepare exclude host) := by
  refine quiet (room.prepare_quiet exclude host) (occupied.onPlayback ?_ ?_)
  · rw [Playback.prepare_eq]
  · rw [Playback.prepare_eq]
    exact id

theorem play (value : Bool) (now : Int)
    (source : room.snapshot.currentSource.isSome = true) (inhabited : room.members ≠ []) :
    Occupied (room.onPlayback (Playback.play value now)) :=
  ⟨fun _ => source, fun _ => inhabited, occupied.emptySince⟩

theorem start (video : Option QueueItem) (now : Int) :
    Occupied (room.onPlayback (Playback.start video (!room.members.isEmpty) now)) := by
  refine ⟨fun plays => ?_, fun plays => ?_, occupied.emptySince⟩
  · exact (Bool.and_eq_true_iff.mp plays).1
  · have viewers : (!room.members.isEmpty) = true := (Bool.and_eq_true_iff.mp plays).2
    intro none
    change room.members = [] at none
    rw [none] at viewers
    cases viewers

theorem clearTemporarySpeed (now : Int) :
    Occupied (room.onPlayback (Playback.clearTemporarySpeed now)) := by
  refine occupied.onPlayback ?_ ?_
  · rw [Playback.clearTemporarySpeed_currentSource]
  · rw [Playback.clearTemporarySpeed_isPlaying]
    exact id

theorem onAccess (update : Access → Access) :
    Occupied (room.onAccess update) :=
  ⟨occupied.source, occupied.viewer, occupied.emptySince⟩

omit occupied in
theorem lasting : Lasting Occupied where
  quiet := quiet
  access update occupied := occupied.onAccess update
  clear occupied := occupied.clearPreparation
  prepare exclude host occupied := occupied.prepare exclude host

theorem setMember (member : Member) (inhabited : room.members ≠ []) :
    Occupied (room.setMember member) where
  source := occupied.source
  viewer _ := Members.set_ne_nil
  emptySince := ⟨fun _ => Members.set_ne_nil, fun _ => occupied.emptySince.mpr inhabited⟩

theorem enter (member : Member) : Occupied (room.enter member) where
  source := occupied.source
  viewer _ := Members.set_ne_nil
  emptySince := ⟨fun _ => Members.set_ne_nil, fun _ => rfl⟩

omit occupied in
/-- The end of leaving, from any room that was inhabited a moment ago. -/
theorem settleAfterLeave (host : Host)
    (source : room.snapshot.isPlaying = true → room.snapshot.currentSource.isSome = true)
    (was : room.snapshot.emptySince = none) : Occupied (room.settleAfterLeave host) := by
  unfold RoomState.settleAfterLeave
  split
  · rename_i empty
    refine ⟨nofun, nofun, nofun, fun inhabited => ?_⟩
    exact absurd (List.isEmpty_iff.mp empty) inhabited
  · rename_i inhabited
    have members : room.members ≠ [] := by simpa using inhabited
    have occupied : Occupied room := ⟨source, fun _ => members, fun _ => members, fun _ => was⟩
    exact occupied.prepare none host

theorem leave (id : ClientId) (host : Host) :
    Occupied (room.leave id host) := by
  cases found : room.members.get id with
  | none =>
      rw [room.leave_missing host found]
      exact occupied
  | some member =>
      refine quiet (room.leave_quiet host found) (settleAfterLeave host ?_ ?_)
      · intro plays
        change (room.snapshot.toPlayback.dropClient id host.now).isPlaying = true at plays
        change (room.snapshot.toPlayback.dropClient id host.now).currentSource.isSome = true
        rw [Playback.dropClient_isPlaying] at plays
        rw [Playback.dropClient_currentSource]
        exact occupied.source plays
      · exact occupied.emptySince.mpr (List.ne_nil_of_mem (Members.mem_of_get found).1)

theorem join (member : Member) (host : Host) :
    Occupied (room.join member host) :=
  quiet (room.join_quiet member host) ((occupied.enter member).prepare none host)

theorem status {id : ClientId} {member : Member}
    (found : room.members.get id = some member) (status : PlayerStatus)
    (prepared : Option PlaybackPrepared) (now : Int) :
    Occupied (room.status member status prepared now) := by
  have inhabited := List.ne_nil_of_mem (Members.mem_of_get found).1
  have told := quiet (quiet_push _ (.userUpdate ((room.setMember { member with status }).info
    { member with status }))) (occupied.setMember { member with status } inhabited)
  unfold RoomState.status
  dsimp only
  split
  · exact told
  · split
    · rename_i preparation _ complete
      refine quiet (play_quiet _ true now) (told.play true now ?_ Members.set_ne_nil)
      have source := ((completes_iff _).mp complete).video
      rw [Option.map_eq_some_iff] at source
      obtain ⟨item, source, _⟩ := source
      exact Option.isSome_iff_exists.mpr ⟨item, source⟩
    · exact told

theorem tick (host : Host) : Occupied (room.tick host) := by
  have expired : Occupied (room.expireTemporarySpeed host.now) :=
    quiet (room.expireTemporarySpeed_quiet host.now)
      (occupied.onPlayback (Playback.expireSpeed_currentSource ..) fun plays =>
        (Playback.expireSpeed_isPlaying ..).symm.trans plays)
  have prepared := lasting.expirePreparation host expired
  unfold RoomState.tick
  dsimp only
  split
  · obtain ⟨video, made⟩ := next_quiet _ host.now
    exact quiet made (prepared.start video host.now)
  · exact prepared

theorem persisted (now : Int) : Occupied (room.persisted now) :=
  occupied.onPlayback rfl id

/-- Each change a command makes keeps the facts; only a member's command sets the play
state. -/
theorem applied {after : RoomState} {host : Host} {member : Member}
    {command : Command} (entitled : room.members ≠ [] ∨ command.overHttp = true)
    (change : Applied host member room command after) : Occupied after := by
  cases change with
  | quiet made => exact quiet made occupied
  | played source made =>
      rcases entitled with inhabited | remote
      · exact quiet made (occupied.play _ host.now source inhabited)
      · cases remote
  | sought made =>
      exact quiet made (lasting.reprepare host (occupied.onPlayback rfl id))
  | started video starts made => exact quiet made (occupied.start video host.now)
  | speeded made =>
      exact quiet made (occupied.onPlayback (Playback.clearTemporarySpeed_currentSource ..)
        fun plays => (Playback.clearTemporarySpeed_isPlaying ..).symm.trans plays)
  | gestureStarted playing free made => exact quiet made (occupied.onPlayback rfl id)
  | gestureRenewed made => exact quiet made (occupied.onPlayback rfl id)
  | gestureStopped made => exact quiet made (occupied.clearTemporarySpeed host.now)
  | promoted found may made =>
      exact quiet made (lasting.reprepareFor _ host (lasting.assignRole _ _ occupied))
  | @kicked _ target _ found outranked made =>
      have named : Occupied { room with kicks := room.kicks ++ [target.id] } :=
        ⟨occupied.source, occupied.viewer, occupied.emptySince⟩
      exact quiet made (named.leave _ host)
  | regranted given owner made => exact quiet made (lasting.assignGrants _ host occupied)

/-- Recovery: a stored room with members had no time of emptiness, and keeps none when
some of them are left. -/
theorem recover (kept : List Member) (host : Host)
    (known : ∀ member ∈ kept, member ∈ room.members) :
    Occupied (({ snapshot := room.snapshot, members := kept.foldl Members.set [] } :
      RoomState).recover host) := by
  generalize found : kept.foldl Members.set [] = members
  unfold RoomState.recover
  dsimp only
  split
  · rename_i empty
    have held : Occupied ((RoomState.onPlayback (Playback.recoverEmpty host.now)
        { snapshot := room.snapshot, members }).emptiedAt
        (room.snapshot.emptySince.getD host.now)) := by
      have still : (Playback.recoverEmpty host.now room.snapshot.toPlayback).isPlaying = false := by
        unfold Playback.recoverEmpty
        rw [Playback.restoreSpeed_isPlaying]
        rfl
      refine ⟨fun plays => ?_, fun plays => ?_, nofun, fun inhabited => ?_⟩
      · exact Bool.noConfusion (still.symm.trans plays)
      · exact Bool.noConfusion (still.symm.trans plays)
      · exact absurd (List.isEmpty_iff.mp empty) inhabited
    split
    · exact quiet (quiet_mark _ _) held
    · exact held
  · rename_i inhabited
    have some : members ≠ [] := by simpa using inhabited
    obtain ⟨member, inside⟩ := List.exists_mem_of_ne_nil _ some
    have before : room.members ≠ [] := by
      rw [← found] at inside
      rcases Members.mem_of_foldl_set inside with there | none
      · exact List.ne_nil_of_mem (known member there)
      · cases none
    have left : Occupied { snapshot := room.snapshot, members } :=
      ⟨occupied.source, fun _ => some, fun _ => some, fun _ => occupied.emptySince.mpr before⟩
    split
    · exact left
    · split
      · exact left
      · exact left.clearPreparation.prepare none host

end Occupied

theorem occupied_invariant : RoomInvariant Occupied where
  created _ _ _ := ⟨nofun, nofun, nofun, nofun⟩
  joined member host occupied := occupied.join member host
  left id host occupied := occupied.leave id host
  applied occupied entitled change := occupied.applied entitled change
  reported status prepared now occupied found := occupied.status found status prepared now
  ticked host occupied := occupied.tick host
  persisted now occupied := occupied.persisted now
  drained occupied := ⟨occupied.source, occupied.viewer, occupied.emptySince⟩
  recovered kept host occupied known := occupied.recover kept host known

end RoomState

namespace RoomObject

variable {jsonBytes : QueueItem → Nat}

/-- In every reachable room, playing takes a source and a viewer, the time of emptiness is
unset exactly while somebody is there, and a room with somebody in it is not expired. -/
theorem occupied_never_expires {object : RoomObject}
    (reachable : (system jsonBytes).Reachable object) :
    (object.room.snapshot.isPlaying = true →
      object.room.snapshot.currentSource ≠ none ∧ object.room.members ≠ []) ∧
    (object.room.snapshot.emptySince = none ↔ object.room.members ≠ []) ∧
    (object.room.members ≠ [] →
      ∀ idleSeconds now, object.expired idleSeconds now = false) := by
  have occupied := (holds_of_reachable RoomState.occupied_invariant reachable).1
  refine ⟨fun plays => ⟨?_, occupied.viewer plays⟩, occupied.emptySince, ?_⟩
  · exact Option.isSome_iff_ne_none.mp (occupied.source plays)
  · intro inhabited idleSeconds now
    unfold expired
    rw [occupied.emptySince.mpr inhabited, Option.any_none, Bool.and_false]

/-- Ann and Bob watch a clip when the runtime restarts and Bob's socket is lost. -/
def restartedSteps : List Step :=
  [⟨{ now := 1000 }, .join ann⟩, ⟨{ now := 2000 }, .join bob⟩,
    ⟨{ now := 3000 }, .request "a" (.add none none (some "clip")) [clip]⟩,
    ⟨{ now := 4000 }, .commit false⟩, ⟨{ now := 9000 }, .restart [ann]⟩]

/-- The room plays on for Ann and does not expire. -/
theorem occupied_never_expires_restarted :
    let object := after (fun _ => 0) restartedSteps (create smallOptions annSession 0)
    object.room.snapshot.isPlaying = true ∧
      (object.room.snapshot.currentSource ≠ none ∧ object.room.members ≠ []) ∧
      object.expired 300 10000000 = false := by
  have holds := occupied_never_expires
    (reachable_after smallOptions annSession 0 restartedSteps (by decide +kernel) :
      (system fun _ => 0).Reachable _)
  have plays : (after (fun _ => 0) restartedSteps
      (create smallOptions annSession 0)).room.snapshot.isPlaying = true := by decide +kernel
  exact ⟨plays, holds.1 plays, holds.2.2 (holds.1 plays).2 300 10000000⟩

end RoomObject

end OpenTogetherTube.Edge
