import OpenTogetherTube.Edge.Continuity
import Mathlib.Tactic.Linarith

/-!
# Edge rooms: playback that gets on

A room plays only while it has members, and it plays forward. Both facts survive every operation and a
restart with any members, provided that the speeds which commands set are those the schema lets through.
-/

namespace OpenTogetherTube.Edge

open Lib

/-- The bounds of `commandSchema` on the numbers of a command. -/
def Command.inBounds : Command → Bool
  | .seek value => decide (0 ≤ value ∧ value ≤ 31 * 86400)
  | .playbackSpeed speed => decide (1 / 4 ≤ speed ∧ speed ≤ 4)
  | _ => true

/-- A property of rooms that each operation keeps, of commands within the bounds, and that a restart with
any members finds again. -/
structure LiveInvariant (holds : RoomState → Prop) : Prop where
  created : ∀ options owner now, holds { snapshot := createSnapshot options owner now }
  joined : ∀ {room} member host, holds room → holds (room.join member host)
  left : ∀ {room} id host, holds room → holds (room.leave id host)
  applied : ∀ {room after host member command}, holds room →
    room.members ≠ [] ∨ command.overHttp = true → command.inBounds = true →
    Applied host member room command after → holds after
  reported : ∀ {room id member} status prepared now, holds room →
    room.members.get id = some member → holds (room.status member status prepared now)
  ticked : ∀ {room} host, holds room → holds (room.tick host)
  persisted : ∀ {room} now, holds room → holds (room.persisted now)
  drained : ∀ {room}, holds room → holds room.drained
  restored : ∀ {room} (members : Members) host, holds room →
    holds (({ snapshot := room.snapshot, members } : RoomState).recover host)

namespace RoomState

/-- The room plays only while it has members. -/
def Viewed (room : RoomState) : Prop := room.snapshot.isPlaying = true → room.members ≠ []

namespace Viewed

variable {a b room : RoomState}

theorem quiet (same : Quiet a b) (viewed : Viewed a) : Viewed b := by
  intro plays
  rw [same.members]
  apply viewed
  rw [← plays]
  exact (congrArg Playback.isPlaying same.playback).symm

theorem of_members (inhabited : room.members ≠ []) : Viewed room := fun _ => inhabited

/-- A change of the playback that starts nothing. -/
theorem onPlayback (viewed : Viewed room) {update : Playback → Playback}
    (playing : (update room.snapshot.toPlayback).isPlaying = true →
      room.snapshot.isPlaying = true) : Viewed (room.onPlayback update) :=
  fun plays => viewed (playing plays)

theorem prepare (viewed : Viewed room) (exclude : Option ClientId) (host : Host) :
    Viewed (room.prepare exclude host) := by
  apply quiet (room.prepare_quiet exclude host)
  apply viewed.onPlayback
  rw [Playback.prepare_eq]
  exact id

theorem lasting : Lasting Viewed where
  quiet := quiet
  access _ viewed := viewed
  clear viewed := quiet (clearPreparation_quiet _) (viewed.onPlayback id)
  prepare exclude host viewed := viewed.prepare exclude host

/-- A source that starts plays only for viewers. -/
theorem start (room : RoomState) (video : Option QueueItem) (now : Int) :
    Viewed (room.onPlayback (Playback.start video (!room.members.isEmpty) now)) := by
  intro plays nobody
  change room.members = [] at nobody
  have viewers : (!room.members.isEmpty) = true := (Bool.and_eq_true_iff.mp plays).2
  rw [nobody] at viewers
  cases viewers

/-- The last viewer that leaves stops the playback. -/
theorem settleAfterLeave (room : RoomState) (host : Host) : Viewed (room.settleAfterLeave host) := by
  unfold RoomState.settleAfterLeave
  split
  · exact nofun
  · rename_i inhabited
    exact (of_members (by simpa using inhabited)).prepare none host

theorem leave (viewed : Viewed room) (id : ClientId) (host : Host) : Viewed (room.leave id host) := by
  cases found : room.members.get id with
  | none =>
      rw [room.leave_missing host found]
      exact viewed
  | some member => exact quiet (room.leave_quiet host found) (settleAfterLeave _ host)

theorem status (room : RoomState) (member : Member) (status : PlayerStatus)
    (prepared : Option PlaybackPrepared) (now : Int) :
    Viewed (room.status member status prepared now) := by
  have told : Viewed ((room.setMember { member with status }).push (.userUpdate
      ((room.setMember { member with status }).info { member with status }))) :=
    of_members Members.set_ne_nil
  unfold RoomState.status
  dsimp only
  split
  · exact told
  · split
    · exact quiet (play_quiet _ true now) (of_members Members.set_ne_nil)
    · exact told

theorem tick (viewed : Viewed room) (host : Host) : Viewed (room.tick host) := by
  have expired : Viewed (room.expireTemporarySpeed host.now) := by
    apply quiet (room.expireTemporarySpeed_quiet host.now)
    apply viewed.onPlayback
    rw [Playback.expireSpeed_isPlaying]
    exact id
  unfold RoomState.tick
  dsimp only
  split
  · obtain ⟨video, made⟩ := next_quiet
      ((room.expireTemporarySpeed host.now).expirePreparation host) host.now
    exact quiet made (start _ video host.now)
  · exact lasting.expirePreparation host expired

theorem applied (viewed : Viewed room) {after : RoomState} {host : Host} {member : Member}
    {command : Command} (entitled : room.members ≠ [] ∨ command.overHttp = true)
    (change : Applied host member room command after) : Viewed after := by
  cases change with
  | quiet made => exact quiet made viewed
  | played source made =>
      rcases entitled with inhabited | remote
      · exact quiet made (of_members inhabited)
      · cases remote
  | sought made => exact quiet made (lasting.reprepare host (viewed.onPlayback id))
  | started video starts made => exact quiet made (start room video host.now)
  | speeded made =>
      apply quiet made
      apply viewed.onPlayback
      intro plays
      rwa [← Playback.clearTemporarySpeed_isPlaying room.snapshot.toPlayback host.now]
  | gestureStarted playing free made => exact quiet made (viewed.onPlayback id)
  | gestureRenewed made => exact quiet made (viewed.onPlayback id)
  | gestureStopped made =>
      apply quiet made
      apply viewed.onPlayback
      rw [Playback.clearTemporarySpeed_isPlaying]
      exact id
  | promoted found may made =>
      exact quiet made (lasting.reprepareFor _ host (lasting.assignRole _ _ viewed))
  | @kicked _ target _ found outranked made =>
      have named : Viewed { room with kicks := room.kicks ++ [target.id] } := viewed
      exact quiet made (named.leave _ host)
  | regranted given owner made => exact quiet made (lasting.assignGrants _ host viewed)

/-- A restart without members stops the playback. -/
theorem recover (room : RoomState) (host : Host) : Viewed (room.recover host) := by
  unfold RoomState.recover
  split
  · have stopped : Viewed ((room.onPlayback (Playback.recoverEmpty host.now)).emptiedAt
        (room.snapshot.emptySince.getD host.now)) := by
      intro plays
      change (Playback.recoverEmpty host.now room.snapshot.toPlayback).isPlaying = true at plays
      unfold Playback.recoverEmpty at plays
      rw [Playback.restoreSpeed_isPlaying] at plays
      cases plays
    dsimp only
    split
    · exact quiet (quiet_mark _ _) stopped
    · exact stopped
  · rename_i inhabited
    have viewed : Viewed room := of_members (by simpa using inhabited)
    split
    · exact viewed
    · split
      · exact viewed
      · exact (lasting.clear viewed).prepare none host

end Viewed

theorem viewed_invariant : LiveInvariant Viewed where
  created _ _ _ := nofun
  joined member host _ := by
    apply Viewed.quiet (join_quiet _ member host)
    exact (Viewed.of_members Members.set_ne_nil).prepare none host
  left id host viewed := viewed.leave id host
  applied viewed entitled _ change := viewed.applied entitled change
  reported status prepared now _ _ := Viewed.status _ _ status prepared now
  ticked host viewed := viewed.tick host
  persisted now viewed := viewed.onPlayback id
  drained viewed := viewed
  restored _ host _ := Viewed.recover _ host

end RoomState

namespace Playback

/-- Playback goes forward, now and when a temporary speed ends. -/
structure Forward (s : Playback) : Prop where
  speed : 0 < s.playbackSpeed
  previous : ∀ temporary, s.temporarySpeed = some temporary → 0 < temporary.previousSpeed

theorem Forward.of_none {s : Playback} (speed : 0 < s.playbackSpeed) (none : s.temporarySpeed = none) :
    Forward s :=
  ⟨speed, fun _ there => absurd (none.symm.trans there) nofun⟩

theorem forward_ofSpeed : OfSpeed Forward where
  congr forward temporary speed := by
    constructor
    · rw [speed]
      exact forward.speed
    · rw [temporary]
      exact forward.previous
  restored there none speed forward := by
    apply Forward.of_none _ none
    rw [speed]
    exact forward.previous _ there
  renewed {s} now forward := by
    constructor
    · exact forward.speed
    · intro renewed found
      unfold renewTemporarySpeed at found
      obtain ⟨temporary, there, rfl⟩ := Option.map_eq_some_iff.mp found
      exact forward.previous temporary there

end Playback

namespace RoomState

open Playback (Forward forward_ofSpeed)

variable {room : RoomState}

theorem forward_start (s : Playback) (video : Option QueueItem) (viewers : Bool) (now : Int) :
    Forward (s.start video viewers now) := by
  obtain ⟨none, one⟩ := speed_start s video viewers now
  apply Forward.of_none _ none
  rw [one]
  exact one_pos

theorem forward_tick (host : Host) (forward : Forward room.snapshot.toPlayback) :
    Forward (room.tick host).snapshot.toPlayback := by
  unfold tick
  dsimp only
  split
  · obtain ⟨none, one⟩ :=
      speed_next ((room.expireTemporarySpeed host.now).expirePreparation host) host.now
    apply Forward.of_none _ none
    rw [one]
    exact one_pos
  · exact ofSpeed_expire forward_ofSpeed host forward

theorem forward_applied {after : RoomState} {host : Host} {member : Member} {command : Command}
    (forward : Forward room.snapshot.toPlayback) (bounds : command.inBounds = true)
    (change : Applied host member room command after) : Forward after.snapshot.toPlayback := by
  have lasting := lasting_ofSpeed forward_ofSpeed
  cases change with
  | quiet made => exact lasting.quiet made forward
  | played source made => exact lasting.quiet made (forward_ofSpeed.congr forward rfl rfl)
  | sought made =>
      apply lasting.quiet made
      apply lasting.reprepare host
      exact forward_ofSpeed.congr forward rfl rfl
  | started video starts made =>
      rw [made.playback]
      exact forward_start _ video _ host.now
  | @speeded speed _ made =>
      have slow : (1 : ℚ) / 4 ≤ speed := (of_decide_eq_true bounds).1
      rw [made.playback]
      apply Forward.of_none
      · change 0 < speed
        linarith
      · exact Playback.clearTemporarySpeed_temporarySpeed _ host.now
  | gestureStarted playing free made =>
      rw [made.playback]
      constructor
      · exact two_pos
      · rintro _ ⟨⟩
        exact forward.speed
  | gestureRenewed made => exact lasting.quiet made (forward_ofSpeed.renewed host.now forward)
  | gestureStopped made =>
      exact lasting.quiet made (forward_ofSpeed.clearTemporarySpeed host.now forward)
  | promoted found may made =>
      exact lasting.quiet made (lasting.reprepareFor _ host (lasting.assignRole _ _ forward))
  | @kicked _ target _ found outranked made =>
      exact lasting.quiet made (ofSpeed_leave forward_ofSpeed target.id host forward)
  | regranted given owner made => exact lasting.quiet made (lasting.assignGrants _ host forward)

theorem forward_invariant : LiveInvariant fun room => Forward room.snapshot.toPlayback where
  created _ _ _ := Forward.of_none one_pos rfl
  joined member host forward := ofSpeed_join forward_ofSpeed member host forward
  left id host forward := ofSpeed_leave forward_ofSpeed id host forward
  applied forward _ bounds change := forward_applied forward bounds change
  reported status report now forward _ := ofSpeed_status forward_ofSpeed _ status report now forward
  ticked host forward := forward_tick host forward
  persisted _ forward := forward_ofSpeed.congr forward rfl rfl
  drained forward := forward
  restored _ host forward := ofSpeed_recover forward_ofSpeed host forward

end RoomState

/-- Two facts at once. -/
theorem LiveInvariant.and {first second : RoomState → Prop} (left : LiveInvariant first)
    (right : LiveInvariant second) : LiveInvariant fun room => first room ∧ second room where
  created options owner now := ⟨left.created options owner now, right.created options owner now⟩
  joined member host both := ⟨left.joined member host both.1, right.joined member host both.2⟩
  left id host both := ⟨left.left id host both.1, right.left id host both.2⟩
  applied both entitled bounds change :=
    ⟨left.applied both.1 entitled bounds change, right.applied both.2 entitled bounds change⟩
  reported status prepared now both found :=
    ⟨left.reported status prepared now both.1 found, right.reported status prepared now both.2 found⟩
  ticked host both := ⟨left.ticked host both.1, right.ticked host both.2⟩
  persisted now both := ⟨left.persisted now both.1, right.persisted now both.2⟩
  drained both := ⟨left.drained both.1, right.drained both.2⟩
  restored members host both := ⟨left.restored members host both.1, right.restored members host both.2⟩

end OpenTogetherTube.Edge
