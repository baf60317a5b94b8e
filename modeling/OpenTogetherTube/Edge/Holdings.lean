import Mathlib.Data.List.Perm.Basic
import OpenTogetherTube.Edge.Invariance

/-!
# Edge rooms: queue, source and votes

`Still` relates two rooms with the same queue, current source, votes and member ids: what
the commands that are about playback, access and texts leave alone. The results on the queue
and on the votes treat those commands at once.
-/

namespace OpenTogetherTube.Edge

open Lib Lib.Handler

namespace RoomState

/-- Same queue, current source, votes and member ids. -/
structure Still (before after : RoomState) : Prop where
  queue : after.snapshot.queue = before.snapshot.queue
  currentSource : after.snapshot.currentSource = before.snapshot.currentSource
  votes : after.snapshot.votes = before.snapshot.votes
  votesToSkip : after.snapshot.votesToSkip = before.snapshot.votesToSkip
  has : ∀ id, after.members.has id = before.members.has id

instance : IsPreorder RoomState Still where
  refl _ := ⟨rfl, rfl, rfl, rfl, fun _ => rfl⟩
  trans _ _ _ first second :=
    ⟨second.queue.trans first.queue, second.currentSource.trans first.currentSource,
      second.votes.trans first.votes, second.votesToSkip.trans first.votesToSkip,
      fun id => (second.has id).trans (first.has id)⟩

theorem Still.trans' {a b c : RoomState} (first : Still a b) (second : Still b c) : Still a c :=
  IsTrans.trans _ _ _ first second

section Operations

variable (room : RoomState)

theorem still_mark (keys : List SyncKey) : Still room (room.mark keys) :=
  ⟨rfl, rfl, rfl, rfl, fun _ => rfl⟩

theorem still_push (message : ServerMessage) : Still room (room.push message) :=
  ⟨rfl, rfl, rfl, rfl, fun _ => rfl⟩

theorem still_event (request : EventRequest) (member : Member) (additional : Additional) :
    Still room (room.event request member additional) :=
  still_push _ _

theorem still_onAccess (update : Access → Access) : Still room (room.onAccess update) :=
  ⟨rfl, rfl, rfl, rfl, fun _ => rfl⟩

/-- A change of the playback that keeps the source. -/
theorem still_onPlayback {update : Playback → Playback}
    (source : (update room.snapshot.toPlayback).currentSource = room.snapshot.currentSource) :
    Still room (room.onPlayback update) :=
  ⟨rfl, source, rfl, rfl, fun _ => rfl⟩

theorem still_clearPreparation : Still room room.clearPreparation := by
  unfold clearPreparation
  split
  · exact (still_onPlayback _ rfl).trans' (still_mark _ _)
  · exact refl room

theorem still_clearTemporarySpeed (now : Int) : Still room (room.clearTemporarySpeed now) := by
  unfold clearTemporarySpeed
  split
  · exact (still_onPlayback _ (Playback.clearTemporarySpeed_currentSource ..)).trans' (still_mark _ _)
  · exact refl room

theorem still_prepare (exclude : Option ClientId) (host : Host) :
    Still room (room.prepare exclude host) := by
  unfold prepare
  dsimp only
  split
  · refine (still_onPlayback _ ?_).trans' (still_mark _ _)
    rw [Playback.prepare_eq]
  · exact refl room

/-- Changes of the preparation leave the rest alone. -/
theorem still_reprepares : Reprepares (Still room) where
  clear same := same.trans' (still_clearPreparation _)
  prepare exclude host same := same.trans' (still_prepare _ exclude host)

theorem still_playing (value : Bool) (now : Int) : Still room (room.playing value now) :=
  (still_onPlayback _ rfl).trans' (still_mark _ _)

theorem still_play (value : Bool) (now : Int) : Still room (room.play value now) :=
  ((still_clearPreparation room).trans' (still_onPlayback _ rfl)).trans' (still_playing _ value now)

theorem still_endGestureOf (id : ClientId) (now : Int) : Still room (room.endGestureOf id now) := by
  unfold endGestureOf
  split
  · exact still_clearTemporarySpeed room now
  · exact refl room

theorem still_dropPreparationOf (id : ClientId) : Still room (room.dropPreparationOf id) := by
  unfold dropPreparationOf
  split
  · exact still_clearPreparation room
  · exact refl room

theorem still_emptiedAt (since : Int) : Still room (room.emptiedAt since) :=
  ⟨rfl, rfl, rfl, rfl, fun _ => rfl⟩

theorem still_settleAfterLeave (host : Host) : Still room (room.settleAfterLeave host) := by
  unfold settleAfterLeave
  split
  · have waiting : Still room (room.onPlayback Playback.awaitJoin) := still_onPlayback room rfl
    exact (waiting.trans' (still_playing _ false host.now)).trans' (still_emptiedAt _ host.now)
  · exact still_prepare room none host

/-- A tick up to the end of the source. -/
theorem still_expire (host : Host) :
    Still room ((room.expireTemporarySpeed host.now).expirePreparation host) := by
  refine (still_reprepares room).expirePreparation host ?_
  unfold expireTemporarySpeed
  split
  · exact still_clearTemporarySpeed room host.now
  · exact refl room

theorem still_setMember (member : Member) (known : room.members.has member.id = true) :
    Still room (room.setMember member) := by
  refine ⟨rfl, rfl, rfl, rfl, fun id => ?_⟩
  have set : (room.members.set member).has id = true ↔ id = member.id ∨ room.members.has id = true :=
    Members.has_set
  rw [Bool.eq_iff_iff]
  refine set.trans ⟨?_, Or.inr⟩
  rintro (rfl | there)
  · exact known
  · exact there

theorem still_status {id : ClientId} {member : Member} (status : PlayerStatus)
    (prepared : Option PlaybackPrepared) (now : Int) (found : room.members.get id = some member) :
    Still room (room.status member status prepared now) := by
  have known : room.members.has member.id = true :=
    Members.has_iff.mpr ⟨member, (Members.mem_of_get found).1, rfl⟩
  have told := (still_setMember room { member with status } known).trans'
    (still_push _ (.userUpdate ((room.setMember { member with status }).info { member with status })))
  unfold RoomState.status
  dsimp only
  split
  · exact told
  · split
    · exact told.trans' (still_play _ true now)
    · exact told

/-- Recovery, of the room a restart finds. -/
theorem still_recover (host : Host) : Still room (room.recover host) := by
  unfold recover
  split
  · dsimp only
    have found : Still room ((room.onPlayback (Playback.recoverEmpty host.now)).emptiedAt
        (room.snapshot.emptySince.getD host.now)) := by
      refine (still_onPlayback room ?_).trans' (still_emptiedAt _ _)
      unfold Playback.recoverEmpty
      simp [Playback.clearPreparation]
    split
    · exact found.trans' (still_mark _ _)
    · exact found
  · split
    · exact refl room
    · split
      · exact refl room
      · exact (still_clearPreparation room).trans' (still_prepare _ none host)

theorem still_assign {α : Type} (key : SyncKey) (value : Option α)
    (write : α → Snapshot → Snapshot)
    (same : ∀ value s, (write value s).queue = s.queue ∧ (write value s).currentSource =
      s.currentSource ∧ (write value s).votes = s.votes ∧ (write value s).votesToSkip = s.votesToSkip) :
    Still room (room.assign key value write) := by
  unfold assign
  cases value with
  | none => exact refl room
  | some value =>
      obtain ⟨queue, source, votes, votesToSkip⟩ := same value room.snapshot
      exact ⟨queue, source, votes, votesToSkip, fun _ => rfl⟩

theorem still_assignSettings (settings : Settings) : Still room (room.assignSettings settings) := by
  unfold assignSettings
  refine Still.trans' ?_ (still_assign _ _ _ _ fun _ _ => ⟨rfl, rfl, rfl, rfl⟩)
  refine Still.trans' ?_ (still_assign _ _ _ _ fun _ _ => ⟨rfl, rfl, rfl, rfl⟩)
  refine Still.trans' ?_ (still_assign _ _ _ _ fun _ _ => ⟨rfl, rfl, rfl, rfl⟩)
  refine Still.trans' ?_ (still_assign _ _ _ _ fun _ _ => ⟨rfl, rfl, rfl, rfl⟩)
  exact still_assign _ _ _ _ fun _ _ => ⟨rfl, rfl, rfl, rfl⟩

theorem still_assignGrants (grants : List (Role × Nat)) (host : Host) :
    Still room (room.assignGrants grants host) := by
  have written : Still room ((room.onAccess fun access =>
      { access with grants := (grantsOf grants).masks }).mark [.grants]) :=
    (still_onAccess _ _).trans' (still_mark _ _)
  unfold assignGrants
  refine (still_reprepares room).prepare none host ?_
  split
  · exact (still_reprepares room).clear written
  · exact written

end Operations

/-! ### What commands do -/

/-- The queue and the current source are within the bounds of `checkQueueSize`. -/
def Fits (jsonBytes : QueueItem → Nat) (queue : List QueueItem) (current : Option QueueItem) : Prop :=
  queue.length ≤ 200 ∧ queueBytes jsonBytes queue current ≤ 512 * 1024

theorem fits_of_checkQueueSize {jsonBytes : QueueItem → Nat} {queue : List QueueItem}
    {current : Option QueueItem} {room : RoomState}
    (passed : (checkQueueSize jsonBytes queue current).outcome room = .ok ()) :
    Fits jsonBytes queue current := by
  unfold checkQueueSize at passed
  split at passed
  · cases passed
  · rename_i within
    push Not at within
    exact within

theorem moveItem_perm {fromIdx : Nat} (toIdx : Nat) {queue : List QueueItem}
    (inside : fromIdx < queue.length) : (moveItem fromIdx toIdx queue).Perm queue := by
  have item : queue[fromIdx]?.toList = [queue[fromIdx]] := by simp [inside]
  have back : (moveItem fromIdx toIdx queue).Perm (queue[fromIdx] ::
      ((queue.eraseIdx fromIdx).take toIdx ++ (queue.eraseIdx fromIdx).drop toIdx)) := by
    unfold moveItem
    dsimp only
    rw [item, List.append_assoc, List.singleton_append]
    exact List.perm_middle
  rw [List.take_append_drop] at back
  exact back.trans (List.getElem_cons_eraseIdx_perm inside)

theorem shuffleFrom_perm (host : Host) (last : Nat) (queue : List QueueItem) :
    (shuffleFrom host last queue).Perm queue := by
  induction last generalizing queue with
  | zero => exact List.Perm.refl queue
  | succ last ih =>
      unfold shuffleFrom
      dsimp only
      refine (ih _).trans ?_
      split
      · rename_i first second found other
        obtain ⟨left, rfl⟩ := List.getElem?_eq_some_iff.mp found
        obtain ⟨right, rfl⟩ := List.getElem?_eq_some_iff.mp other
        exact List.set_set_perm left right
      · exact List.Perm.refl queue

/-- What a command of `member` makes of queue, source and votes, returned or thrown. -/
inductive Handled (jsonBytes : QueueItem → Nat) (host : Host) (member : Member)
    (room : RoomState) : Command → RoomState → Prop
  | still {command : Command} {after : RoomState} (made : Still room after) :
      Handled jsonBytes host member room command after
  | ordered {settings : Settings} {middle after : RoomState} (first : Still room middle)
      (made : Still middle.orderVotes after) :
      Handled jsonBytes host member room (.applySettings settings) after
  | votedToSkip {after : RoomState} (made : Still (room.voteToSkip member) after) :
      Handled jsonBytes host member room .skip after
  | skipped {middle after : RoomState} (voted : middle = room ∨ middle = room.voteToSkip member)
      (made : Still (middle.next host.now) after) :
      Handled jsonBytes host member room .skip after
  | added {video : Option VideoAdd} {videos : Option (List VideoAdd)} {url : Option String}
      {resolved : List QueueItem} {middle after : RoomState}
      (fits : Fits jsonBytes (room.snapshot.queue ++ resolved) room.snapshot.currentSource)
      (queued : Still (room.withQueue (room.snapshot.queue ++ resolved)) middle)
      (made : Still (middle.orderVotes.advanceIdle host.now) after) :
      Handled jsonBytes host member room (.add video videos url) after
  | removed {video : VideoId} {index : Nat} {after : RoomState}
      (made : Still ((room.withQueue (room.snapshot.queue.eraseIdx index)).deleteVotes video) after) :
      Handled jsonBytes host member room (.remove video) after
  | reordered {command : Command} {queue : List QueueItem} {after : RoomState}
      (same : queue.Perm room.snapshot.queue) (made : Still (room.withQueue queue) after) :
      Handled jsonBytes host member room command after
  | voted {video : VideoId} {add : Bool} {ids : List ClientId} {middle after : RoomState}
      (known : ∀ id ∈ ids, id = member.id ∨ id ∈ (room.snapshot.votes.get (keyFor video)).getD [])
      (first : Still (room.writeVotes video ids) middle) (made : Still middle.orderVotes after) :
      Handled jsonBytes host member room (.vote video add) after
  | playedNow {video : VideoAdd} {item : QueueItem} {queue : List QueueItem} {after : RoomState}
      (fits : Fits jsonBytes queue (some item))
      (made : Still (((room.withQueue queue).deleteVotes video.toVideoId).start (some item) host.now)
        after) :
      Handled jsonBytes host member room (.playNow video) after
  | updated {video : VideoId} {update : ItemUpdate} {queue : List QueueItem} {after : RoomState}
      (fits : Fits jsonBytes queue room.snapshot.currentSource)
      (made : Still (room.withQueue queue) after) :
      Handled jsonBytes host member room (.updateQueueItem video update) after
  | kicked {clientId : ClientId} {target : Member} {after : RoomState}
      (made : Still
        (({ room with kicks := room.kicks ++ [target.id] } : RoomState).leave target.id host) after) :
      Handled jsonBytes host member room (.kick clientId) after

/-- What leaves the rest alone belongs to a command. -/
theorem Handled.then {jsonBytes : QueueItem → Nat} {host : Host} {member : Member}
    {command : Command} {room middle after : RoomState}
    (handled : Handled jsonBytes host member room command middle) (rest : Still middle after) :
    Handled jsonBytes host member room command after := by
  cases handled with
  | still made => exact .still (made.trans' rest)
  | ordered first made => exact .ordered first (made.trans' rest)
  | votedToSkip made => exact .votedToSkip (made.trans' rest)
  | skipped voted made => exact .skipped voted (made.trans' rest)
  | added fits queued made => exact .added fits queued (made.trans' rest)
  | removed made => exact .removed (made.trans' rest)
  | reordered same made => exact .reordered same (made.trans' rest)
  | voted known first made => exact .voted known first (made.trans' rest)
  | playedNow fits made => exact .playedNow fits (made.trans' rest)
  | updated fits made => exact .updated fits (made.trans' rest)
  | kicked made => exact .kicked (made.trans' rest)

section Branches

variable {jsonBytes : QueueItem → Nat} {host : Host} {member : Member} {room : RoomState}

theorem playback_still (state : Bool) : Still room ((playback host state).after room) := by
  unfold playback
  rw [after_get_bind, after_ite]
  split
  · exact refl room
  · exact still_play room state host.now

theorem seek_still (value : ℚ) : Still room ((seek host value).after room) := by
  unfold seek
  rw [after_get_bind]
  split
  · exact refl room
  · rw [after_ite]
    split
    · exact refl room
    · dsimp only
      rw [after_modify_bind, after_modify_bind, after_modify_bind]
      refine (still_reprepares room).reprepare host ?_
      exact (still_onPlayback room rfl).trans' (still_mark _ _)

theorem playbackSpeed_still (speed : ℚ) : Still room ((playbackSpeed host speed).after room) := by
  unfold playbackSpeed
  rw [after_modify_bind, after_modify_bind, after_modify_bind, after_modify_bind]
  have cleared := still_clearTemporarySpeed room host.now
  have anchored : Still room ((room.clearTemporarySpeed host.now).onPlayback
      (Playback.anchor host.now)) := cleared.trans' (still_onPlayback _ rfl)
  exact (anchored.trans' (still_onPlayback _ rfl)).trans' (still_mark _ _)

theorem temporaryPlaybackSpeed_still (action : GestureAction) (gestureId : String)
    (video : VideoId) :
    Still room ((temporaryPlaybackSpeed host action gestureId video member).after room) := by
  unfold temporaryPlaybackSpeed
  rw [after_get_bind, after_ite]
  split
  · exact refl room
  · cases action with
    | stop =>
        rw [after_ite]
        split
        · exact still_clearTemporarySpeed room host.now
        · exact refl room
    | renew =>
        rw [after_ite]
        split
        · exact still_onPlayback room rfl
        · exact refl room
    | start =>
        rw [after_ite]
        split
        · refine (still_onPlayback room ?_).trans' (still_mark _ _)
          rfl
        · exact refl room

theorem promote_still (targetClientId : ClientId) (role : Role) :
    Still room ((promote host targetClientId role member).after room) := by
  unfold promote
  rw [after_get_bind]
  split
  · exact refl room
  · rename_i target found
    rw [after_ite]
    split
    · exact refl room
    · rw [after_bind, checkSome_inspects _ _ _]
      split
      · rw [after_bind, checkSome_inspects _ _ _]
        split
        · rw [after_ite]
          split
          · exact refl room
          · have written : Still room (room.assignRole target.session.identityId role) :=
              ⟨rfl, rfl, rfl, rfl, fun _ => rfl⟩
            exact (still_reprepares room).reprepareFor target host written
        · exact refl room
      · exact refl room

theorem skip_handled : Handled jsonBytes host member room .skip ((skip host member).after room) := by
  unfold skip
  rw [after_get_bind, after_ite]
  split
  · rw [after_modify_bind, after_get_bind, after_ite]
    split
    · exact .votedToSkip (refl _)
    · exact .skipped (Or.inr rfl) (refl _)
  · exact .skipped (Or.inl rfl) (refl _)

theorem add_handled (resolved : List QueueItem) (video : Option VideoAdd)
    (videos : Option (List VideoAdd)) (url : Option String) :
    Handled jsonBytes host member room (.add video videos url)
      ((add jsonBytes host resolved).after room) := by
  unfold add
  rw [after_get_bind, after_ite]
  split
  · exact .still (refl room)
  · rw [after_bind, checkQueueSize_inspects _ _ _ _]
    split
    · rename_i passed
      exact .added (fits_of_checkQueueSize passed) (still_mark _ [.queue]) (refl _)
    · exact .still (refl room)

theorem remove_handled (video : VideoId) :
    Handled jsonBytes host member room (.remove video) ((remove video).after room) := by
  unfold remove
  rw [after_get_bind]
  split
  · exact .still (refl room)
  · exact .removed (still_mark _ _)

theorem order_handled (fromIdx toIdx : Nat) :
    Handled jsonBytes host member room (.order fromIdx toIdx)
      ((order fromIdx toIdx).after room) := by
  unfold order
  rw [after_get_bind, after_ite]
  split
  · exact .still (refl room)
  · rename_i inside
    push Not at inside
    exact .reordered (moveItem_perm toIdx inside.1) (still_mark _ _)

theorem vote_handled (video : VideoId) (add : Bool) :
    Handled jsonBytes host member room (.vote video add) ((vote video add member).after room) := by
  unfold vote
  rw [after_get_bind, after_ite]
  split
  · exact .still (refl room)
  · dsimp only
    rw [after_modify_bind, after_modify_bind, after_modify_bind]
    refine .voted (fun id inside => ?_) (still_mark _ [.voteCounts]) (refl _)
    split at inside
    · simpa [or_comm] using inside
    · simp only [OrderedSet.mem_remove, OrderedSet.mem_addAll] at inside
      simpa using Or.inr inside.1

theorem playNow_handled (video : VideoAdd) (resolved : List QueueItem) :
    Handled jsonBytes host member room (.playNow video)
      ((playNow jsonBytes host video resolved).after room) := by
  unfold playNow
  rw [after_get_bind, after_ite]
  split
  · exact .still (refl room)
  · split
    · exact .still (refl room)
    · dsimp only
      rw [after_bind, checkQueueSize_inspects _ _ _ _]
      split
      · rename_i passed
        exact .playedNow (fits_of_checkQueueSize passed) (still_mark _ _)
      · exact .still (refl room)

theorem updateQueueItem_handled (video : VideoId) (update : ItemUpdate)
    (resolved : List QueueItem) :
    Handled jsonBytes host member room (.updateQueueItem video update)
      ((updateQueueItem jsonBytes video resolved).after room) := by
  unfold updateQueueItem
  rw [after_get_bind]
  split
  · dsimp only
    rw [after_bind, checkQueueSize_inspects _ _ _ _]
    split
    · rename_i passed
      exact .updated (fits_of_checkQueueSize passed) (still_mark _ _)
    · exact .still (refl room)
  · exact .still (refl room)

theorem kick_handled (clientId : ClientId) :
    Handled jsonBytes host member room (.kick clientId) ((kick host clientId member).after room) := by
  unfold kick
  rw [after_get_bind]
  split
  · exact .still (refl room)
  · rw [after_ite]
    split
    · exact .still (refl room)
    · exact .kicked (refl _)

theorem settings_handled (given : Settings) :
    Handled jsonBytes host member room (.applySettings given)
      ((settings host given member).after room) := by
  unfold settings
  rw [after_get_bind]
  dsimp only
  rw [after_bind, checkKeys_inspects _ _ _ _]
  split
  · rw [after_ite]
    split
    · exact .still (refl room)
    · rw [after_modify_bind, after_modify_bind, after_modify_bind, after_pure]
      have assigned := still_assignSettings room given
      split
      · rename_i grants changed given
        exact .ordered (assigned.trans' (still_assignGrants _ grants host)) (refl _)
      · exact .ordered assigned (refl _)
  · exact .still (refl room)

theorem branch_handled (command : Command) (resolved : List QueueItem) :
    Handled jsonBytes host member room command
      ((branch jsonBytes host command member resolved).after room) := by
  cases command with
  | chat text => exact .still (still_push room _)
  | playback state => exact .still (playback_still state)
  | seek value => exact .still (seek_still value)
  | skip => exact skip_handled
  | add video videos url => exact add_handled resolved video videos url
  | remove video => exact remove_handled video
  | order fromIdx toIdx => exact order_handled fromIdx toIdx
  | vote video add => exact vote_handled video add
  | playNow video => exact playNow_handled video resolved
  | shuffle => exact .reordered (shuffleFrom_perm host _ _) (still_mark _ _)
  | playbackSpeed speed => exact .still (playbackSpeed_still speed)
  | temporaryPlaybackSpeed action gestureId video =>
      exact .still (temporaryPlaybackSpeed_still action gestureId video)
  | updateQueueItem video update => exact updateQueueItem_handled video update resolved
  | promote targetClientId role => exact .still (promote_still targetClientId role)
  | kick clientId => exact kick_handled clientId
  | applySettings given => exact settings_handled given
  | restoreQueue discard => exact .still (refl room)

/-- Every command handles queue, source and votes in one of these ways. -/
theorem apply_handled (command : Command) (resolved : List QueueItem) :
    Handled jsonBytes host member room command
      ((apply jsonBytes host command member resolved).after room) := by
  unfold apply
  rw [after_bind, checkCommand_inspects _ _ _]
  split
  · rw [after_bind]
    split
    · split
      · exact (branch_handled command resolved).then (still_event _ _ _ _)
      · exact branch_handled command resolved
    · exact branch_handled command resolved
  · exact .still (refl room)

end Branches

end RoomState

end OpenTogetherTube.Edge
