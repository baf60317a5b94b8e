import OpenTogetherTube.Edge.Applied
import OpenTogetherTube.Edge.RoomObject

/-!
# Edge rooms: commands that fail

Every branch of `apply` makes all its checks before it writes, so a command that is refused leaves
the room as it was.
-/

namespace OpenTogetherTube.Edge

open Lib Lib.Handler

namespace RoomState

section Branches

variable (jsonBytes : QueueItem → Nat) (host : Host) (member : Member) (room : RoomState)

theorem chat_returns (text : String) : Returns (chat text member) room := ⟨none, rfl⟩

theorem playback_returns (state : Bool) : Returns (playback host state) room := by
  unfold playback
  exact .get_bind (.ite (.pure _ _) (.modify_bind (.pure _ _)))

theorem seek_atomic (value : ℚ) : Atomic (seek host value) room := by
  unfold seek
  refine .get_bind ?_
  split
  · exact .throw _ _
  · refine .ite (fun _ => .throw _ _) fun _ => .of_returns ?_
    exact .modify_bind (.modify_bind (.modify_bind (.pure _ _)))

theorem skipNow_returns (room : RoomState) : Returns (skipNow host) room :=
  .get_bind (.modify_bind (.pure _ _))

theorem skip_returns : Returns (skip host member) room := by
  unfold skip
  refine .get_bind (.ite (.modify_bind (.get_bind ?_)) (skipNow_returns host _))
  exact .ite (.pure _ _) (skipNow_returns host _)

theorem add_atomic (resolved : List QueueItem) : Atomic (add jsonBytes host resolved) room := by
  unfold add
  refine .get_bind (.ite (fun _ => .throw _ _) fun _ => ?_)
  refine .inspect_bind (checkQueueSize_inspects _ _ _) fun _ _ => .of_returns ?_
  exact .modify_bind (.modify_bind (.modify_bind (.modify_bind (.pure _ _))))

theorem remove_atomic (video : VideoId) : Atomic (remove video) room := by
  unfold remove
  refine .get_bind ?_
  split
  · exact .throw _ _
  · exact .of_returns (.modify_bind (.modify_bind (.modify_bind (.pure _ _))))

theorem order_atomic (fromIdx toIdx : Nat) : Atomic (order fromIdx toIdx) room := by
  unfold order
  refine .get_bind (.ite (fun _ => .throw _ _) fun _ => .of_returns ?_)
  exact .modify_bind (.modify_bind (.pure _ _))

theorem vote_atomic (video : VideoId) (add : Bool) : Atomic (vote video add member) room := by
  unfold vote
  refine .get_bind (.ite (fun _ => .throw _ _) fun _ => .of_returns ?_)
  exact .modify_bind (.modify_bind (.modify_bind (.pure _ _)))

theorem playNow_atomic (video : VideoAdd) (resolved : List QueueItem) :
    Atomic (playNow jsonBytes host video resolved) room := by
  unfold playNow
  refine .get_bind (.ite (fun _ => .of_returns (.pure _ _)) fun _ => ?_)
  split
  · exact .throw _ _
  · refine .inspect_bind (checkQueueSize_inspects _ _ _) fun _ _ => .of_returns ?_
    exact .modify_bind (.modify_bind (.modify_bind (.modify_bind (.pure _ _))))

theorem shuffle_returns : Returns (shuffle host) room :=
  .modify_bind (.modify_bind (.pure _ _))

theorem playbackSpeed_returns (speed : ℚ) : Returns (playbackSpeed host speed) room :=
  .modify_bind (.modify_bind (.modify_bind (.modify_bind (.pure _ _))))

theorem temporaryPlaybackSpeed_returns (action : GestureAction) (gestureId : String)
    (video : VideoId) : Returns (temporaryPlaybackSpeed host action gestureId video member) room := by
  unfold temporaryPlaybackSpeed
  refine .get_bind (.ite (.pure _ _) ?_)
  cases action with
  | stop => exact .ite (.modify_bind (.pure _ _)) (.pure _ _)
  | renew => exact .ite (.modify_bind (.pure _ _)) (.pure _ _)
  | start => exact .ite (.modify_bind (.modify_bind (.pure _ _))) (.pure _ _)

theorem updateQueueItem_atomic (video : VideoId) (resolved : List QueueItem) :
    Atomic (updateQueueItem jsonBytes video resolved) room := by
  unfold updateQueueItem
  refine .get_bind ?_
  split
  · refine .inspect_bind (checkQueueSize_inspects _ _ _) fun _ _ => .of_returns ?_
    exact .modify_bind (.modify_bind (.pure _ _))
  · exact .throw _ _

theorem promote_atomic (targetClientId : ClientId) (role : Role) :
    Atomic (promote host targetClientId role member) room := by
  unfold promote
  refine .get_bind ?_
  split
  · exact .throw _ _
  · refine .ite (fun _ => .throw _ _) fun _ => ?_
    refine .inspect_bind (checkSome_inspects _ _) fun _ _ => ?_
    refine .inspect_bind (checkSome_inspects _ _) fun _ _ => ?_
    refine .ite (fun _ => .throw _ _) fun _ => .of_returns ?_
    exact .modify_bind (.modify_bind (.pure _ _))

theorem kick_atomic (clientId : ClientId) : Atomic (kick host clientId member) room := by
  unfold kick
  refine .get_bind ?_
  split
  · exact .throw _ _
  · refine .ite (fun _ => .throw _ _) fun _ => .of_returns ?_
    exact .modify_bind (.modify_bind (.pure _ _))

theorem settings_atomic (given : Settings) : Atomic (settings host given member) room := by
  unfold settings
  refine .get_bind (.inspect_bind (checkKeys_inspects _ _ _) fun _ _ => ?_)
  refine .ite (fun _ => .throw _ _) fun _ => .of_returns ?_
  exact .modify_bind (.modify_bind (.modify_bind (.pure _ _)))

/-- Whatever the command, its branch throws only while nothing is written. -/
theorem branch_atomic (command : Command) (resolved : List QueueItem) :
    Atomic (branch jsonBytes host command member resolved) room := by
  cases command with
  | chat text => exact .of_returns (chat_returns member room text)
  | playback state => exact .of_returns (playback_returns host room state)
  | seek value => exact seek_atomic host room value
  | skip => exact .of_returns (skip_returns host member room)
  | add _ _ _ => exact add_atomic jsonBytes host room resolved
  | remove video => exact remove_atomic room video
  | order fromIdx toIdx => exact order_atomic room fromIdx toIdx
  | vote video add => exact vote_atomic member room video add
  | playNow video => exact playNow_atomic jsonBytes host room video resolved
  | shuffle => exact .of_returns (shuffle_returns host room)
  | playbackSpeed speed => exact .of_returns (playbackSpeed_returns host room speed)
  | temporaryPlaybackSpeed action gestureId video =>
      exact .of_returns (temporaryPlaybackSpeed_returns host member room action gestureId video)
  | updateQueueItem video _ => exact updateQueueItem_atomic jsonBytes room video resolved
  | promote targetClientId role => exact promote_atomic host member room targetClientId role
  | kick clientId => exact kick_atomic host member room clientId
  | applySettings given => exact settings_atomic host member room given
  | restoreQueue _ => exact .of_returns (.pure _ _)

end Branches

/-- A command that is refused changes nothing of the room. -/
theorem apply_failed {jsonBytes : QueueItem → Nat} {host : Host} {command : Command}
    {member : Member} {resolved : List QueueItem} {room : RoomState} {error : ApiError}
    (thrown : (apply jsonBytes host command member resolved).outcome room = .error error) :
    (apply jsonBytes host command member resolved).after room = room := by
  refine Atomic.inspect_bind (checkCommand_inspects command member) (fun _ _ => ?_) error thrown
  refine Atomic.bind (branch_atomic jsonBytes host member room command resolved) fun additional => ?_
  cases additional with
  | none => exact .pure _ _
  | some additional => exact ⟨⟨⟩, rfl⟩

/-- The owner seeks in a room where nothing plays. -/
theorem apply_failed_seek :
    (apply (fun _ => 0) { now := 0 } (.seek 10) ann []).after
        { snapshot := createSnapshot smallOptions annSession 0, members := [ann] } =
      { snapshot := createSnapshot smallOptions annSession 0, members := [ann] } := by
  have thrown : (apply (fun _ => 0) { now := 0 } (.seek 10) ann []).outcome
      { snapshot := createSnapshot smallOptions annSession 0, members := [ann] } =
      .error { status := 400, message := "当前没有视频。" } := by
    decide +kernel
  exact apply_failed thrown

end RoomState

end OpenTogetherTube.Edge
