import OpenTogetherTube.Edge.Holdings

/-!
# Edge rooms: whose votes count

Votes are kept per client id, and leaving takes a client's votes back. A restart does not: a
member whose socket is lost is gone without leaving, and its votes stay in the stored
snapshot.
-/

namespace OpenTogetherTube.Edge

open Lib Lib.Handler

/-- The client has a vote to skip, or one for a queue item. -/
def Snapshot.HasVote (snapshot : Snapshot) (id : ClientId) : Prop :=
  id ∈ snapshot.votesToSkip ∨ ∃ entry ∈ snapshot.votes, id ∈ entry.2

namespace RoomState

/-- Every vote is a member's. -/
def VotesOfMembers (room : RoomState) : Prop :=
  (∀ id ∈ room.snapshot.votesToSkip, room.members.has id = true) ∧
    ∀ entry ∈ room.snapshot.votes, ∀ id ∈ entry.2, room.members.has id = true

theorem votesOfMembers_iff {room : RoomState} :
    room.VotesOfMembers ↔ ∀ id, room.snapshot.HasVote id → room.members.has id = true := by
  constructor
  · rintro ⟨skips, items⟩ id (skip | ⟨entry, inside, voter⟩)
    · exact skips id skip
    · exact items entry inside id voter
  · intro voters
    exact ⟨fun id skip => voters id (Or.inl skip),
      fun entry inside id voter => voters id (Or.inr ⟨entry, inside, voter⟩)⟩

/-- No vote is new and no member is gone. -/
structure VotesFrom (before after : RoomState) : Prop where
  votes : ∀ id, after.snapshot.HasVote id → before.snapshot.HasVote id
  members : ∀ id, before.members.has id = true → after.members.has id = true

instance : IsPreorder RoomState VotesFrom where
  refl _ := ⟨fun _ voted => voted, fun _ inside => inside⟩
  trans _ _ _ first second :=
    ⟨fun id voted => first.votes id (second.votes id voted),
      fun id inside => second.members id (first.members id inside)⟩

theorem VotesFrom.trans' {a b c : RoomState} (first : VotesFrom a b) (second : VotesFrom b c) :
    VotesFrom a c :=
  IsTrans.trans _ _ _ first second

theorem Still.votesFrom {before after : RoomState} (same : Still before after) :
    VotesFrom before after := by
  refine ⟨fun id voted => ?_, fun id inside => (same.has id).trans inside⟩
  unfold Snapshot.HasVote at voted ⊢
  rwa [same.votes, same.votesToSkip] at voted

theorem VotesOfMembers.from {before after : RoomState} (counted : before.VotesOfMembers)
    (change : VotesFrom before after) : after.VotesOfMembers :=
  votesOfMembers_iff.mpr fun id voted =>
    change.members id (votesOfMembers_iff.mp counted id (change.votes id voted))

section Operations

variable (room : RoomState)

theorem votesFrom_withQueue (queue : List QueueItem) : VotesFrom room (room.withQueue queue) :=
  ⟨fun _ voted => voted, fun _ inside => inside⟩

theorem votesFrom_deleteVotes (video : VideoId) : VotesFrom room (room.deleteVotes video) := by
  refine ⟨fun id voted => ?_, fun _ inside => inside⟩
  rcases voted with skip | ⟨entry, inside, voter⟩
  · exact Or.inl skip
  · exact Or.inr ⟨entry, (OrderedMap.mem_delete.mp inside).1, voter⟩

theorem votesFrom_orderVotes : VotesFrom room room.orderVotes := by
  unfold orderVotes
  split
  · exact ⟨fun _ voted => voted, fun _ inside => inside⟩
  · exact refl room

theorem votesFrom_requeue : VotesFrom room room.requeue := by
  unfold requeue
  split
  · exact votesFrom_withQueue room _
  · exact refl room

theorem votesFrom_shift : VotesFrom room room.shift.2 := by
  unfold shift
  split
  · exact refl room
  · rename_i item rest _
    exact (votesFrom_withQueue room rest).trans' (votesFrom_deleteVotes _ item.toVideoId)

/-- A new source takes the votes to skip with it. -/
theorem votesFrom_start (video : Option QueueItem) (now : Int) :
    VotesFrom room (room.start video now) := by
  refine ((still_clearTemporarySpeed room now).trans' (still_clearPreparation _)).votesFrom.trans' ?_
  refine ⟨fun id voted => ?_, fun _ inside => inside⟩
  rcases voted with skip | item
  · exact absurd skip List.not_mem_nil
  · exact Or.inr item

theorem votesFrom_next (now : Int) : VotesFrom room (room.next now) :=
  (((votesFrom_requeue room).trans' (votesFrom_shift _)).trans' (votesFrom_start _ _ now)).trans'
    (still_mark _ _).votesFrom

theorem votesFrom_advanceIdle (now : Int) : VotesFrom room (room.advanceIdle now) := by
  unfold advanceIdle
  split
  · exact votesFrom_next room now
  · exact refl room

theorem votesFrom_tick (host : Host) : VotesFrom room (room.tick host) := by
  unfold tick
  dsimp only
  split
  · exact (still_expire room host).votesFrom.trans' (votesFrom_next _ host.now)
  · exact (still_expire room host).votesFrom

/-- Who comes in brings no vote. -/
theorem votesFrom_join (member : Member) (host : Host) : VotesFrom room (room.join member host) := by
  have entered : VotesFrom room (room.enter member) :=
    ⟨fun _ voted => voted, fun _ inside => Members.has_set.mpr (Or.inr inside)⟩
  exact entered.trans' (((still_push _ _).trans' (still_event _ _ _ _)).trans'
    (still_prepare _ none host)).votesFrom

end Operations

namespace VotesOfMembers

variable {room : RoomState}

/-- Who leaves takes its votes back. -/
theorem leave (counted : room.VotesOfMembers) (id : ClientId) (host : Host) :
    (room.leave id host).VotesOfMembers := by
  unfold RoomState.leave
  split
  · exact counted
  · rename_i member found
    dsimp only
    refine VotesOfMembers.from ?_ ((votesFrom_orderVotes _).trans'
      (((still_endGestureOf _ id host.now).trans' (still_dropPreparationOf _ id)).trans'
        (still_settleAfterLeave _ host)).votesFrom)
    rw [votesOfMembers_iff] at counted ⊢
    rintro voter (skip | ⟨entry, inside, voted⟩)
    · obtain ⟨before, other⟩ := List.mem_filter.mp skip
      exact Members.has_delete.mpr ⟨of_decide_eq_true other, counted voter (Or.inl before)⟩
    · obtain ⟨old, known, rfl⟩ := List.mem_map.mp inside
      obtain ⟨before, other⟩ := List.mem_filter.mp voted
      exact Members.has_delete.mpr
        ⟨of_decide_eq_true other, counted voter (Or.inr ⟨old, known, before⟩)⟩

theorem voteToSkip (counted : room.VotesOfMembers) {member : Member}
    (present : room.members.has member.id = true) : (room.voteToSkip member).VotesOfMembers := by
  refine ⟨fun id skip => ?_, counted.2⟩
  unfold RoomState.voteToSkip RoomState.mark at skip
  dsimp only at skip
  split at skip
  · exact counted.1 id skip
  · rcases List.mem_append.mp skip with before | new
    · exact counted.1 id before
    · rw [List.mem_singleton.mp new]
      exact present

/-- Votes for an item are written. -/
theorem writeVotes (counted : room.VotesOfMembers) (video : VideoId) {ids : List ClientId}
    (voters : ∀ id ∈ ids, room.members.has id = true) :
    (room.writeVotes video ids).VotesOfMembers := by
  refine ⟨counted.1, fun entry inside id voter => ?_⟩
  rcases OrderedMap.mem_of_set inside with rfl | before
  · exact voters id voter
  · exact counted.2 entry before id voter

theorem get (counted : room.VotesOfMembers) {key : String} {id : ClientId}
    (voter : id ∈ (room.snapshot.votes.get key).getD []) : room.members.has id = true := by
  cases found : room.snapshot.votes.get key with
  | none =>
      rw [found] at voter
      cases voter
  | some ids =>
      rw [found] at voter
      exact counted.2 _ (OrderedMap.mem_of_get found) id voter

theorem handled {jsonBytes : QueueItem → Nat} {host : Host} {member : Member} {command : Command}
    {after : RoomState} (counted : room.VotesOfMembers)
    (sent : room.members.has member.id = true ∨ command.overHttp = true ∧ command.isVote = false)
    (change : Handled jsonBytes host member room command after) : after.VotesOfMembers := by
  cases change with
  | still made => exact counted.from made.votesFrom
  | ordered first made =>
      exact counted.from ((first.votesFrom.trans' (votesFrom_orderVotes _)).trans' made.votesFrom)
  | votedToSkip made =>
      rcases sent with present | ⟨routed, _⟩
      · exact (counted.voteToSkip present).from made.votesFrom
      · cases routed
  | @skipped middle _ voted made =>
      rcases sent with present | ⟨routed, _⟩
      · have before : middle.VotesOfMembers := by
          rcases voted with rfl | rfl
          · exact counted
          · exact counted.voteToSkip present
        exact before.from ((votesFrom_next _ host.now).trans' made.votesFrom)
      · cases routed
  | added fits queued made =>
      have arranged := ((votesFrom_withQueue room _).trans' queued.votesFrom).trans'
        (votesFrom_orderVotes _)
      exact counted.from
        ((arranged.trans' (votesFrom_advanceIdle _ host.now)).trans' made.votesFrom)
  | removed made =>
      exact counted.from (((votesFrom_withQueue room _).trans' (votesFrom_deleteVotes _ _)).trans'
        made.votesFrom)
  | reordered same made => exact counted.from ((votesFrom_withQueue room _).trans' made.votesFrom)
  | @voted video _ ids _ _ known first made =>
      rcases sent with present | ⟨_, noVote⟩
      · have written : (room.writeVotes video ids).VotesOfMembers := by
          refine counted.writeVotes _ fun id voter => ?_
          rcases known id voter with rfl | before
          · exact present
          · exact counted.get before
        exact written.from ((first.votesFrom.trans' (votesFrom_orderVotes _)).trans' made.votesFrom)
      · cases noVote
  | playedNow fits made =>
      refine counted.from (VotesFrom.trans' ?_ made.votesFrom)
      exact ((votesFrom_withQueue room _).trans' (votesFrom_deleteVotes _ _)).trans'
        (votesFrom_start _ _ host.now)
  | updated fits made => exact counted.from ((votesFrom_withQueue room _).trans' made.votesFrom)
  | @kicked _ target _ made =>
      have named : ({ room with kicks := room.kicks ++ [target.id] } : RoomState).VotesOfMembers :=
        counted
      exact (named.leave target.id host).from made.votesFrom

end VotesOfMembers

end RoomState

namespace RoomObject

/-- A restart keeps the socket of everybody with a vote in the stored snapshot. Nothing is
asked of other steps. -/
def KeepsVoters (object : RoomObject) (step : Step) : Prop :=
  match step.event with
  | .restart kept =>
      (∀ id ∈ object.stored.votesToSkip, ∃ member ∈ kept, member.id = id) ∧
        ∀ entry ∈ object.stored.votes, ∀ id ∈ entry.2, ∃ member ∈ kept, member.id = id
  | _ => True

instance (object : RoomObject) : (step : Step) → Decidable (KeepsVoters object step)
  | ⟨_, .restart kept⟩ => inferInstanceAs (Decidable
      ((∀ id ∈ object.stored.votesToSkip, ∃ member ∈ kept, member.id = id) ∧
        ∀ entry ∈ object.stored.votes, ∀ id ∈ entry.2, ∃ member ∈ kept, member.id = id))
  | ⟨_, .join _⟩ | ⟨_, .leave _⟩ | ⟨_, .request _ _ _⟩ | ⟨_, .http _ _ _⟩ | ⟨_, .status _ _ _⟩
  | ⟨_, .tick⟩ | ⟨_, .commit _⟩ => isTrue trivial

/-- The members a restart finds: those whose sockets lived on. -/
theorem restored_has {object : RoomObject} {kept : List Member} {id : ClientId} :
    (object.restored kept).members.has id = true ↔ ∃ member ∈ kept, member.id = id := by
  have known (start : Members) : (kept.foldl Members.set start).has id = true ↔
      (∃ member ∈ kept, member.id = id) ∨ start.has id = true := by
    induction kept generalizing start with
    | nil => simp
    | cons member rest ih =>
        rw [List.foldl_cons, ih, Members.has_set, List.exists_mem_cons_iff,
          or_assoc, or_left_comm, @eq_comm _ id]
  exact (known []).trans (or_iff_left nofun)

/-- After a restart the votes are members' votes exactly when all voters were kept. -/
theorem restart_votesOfMembers (object : RoomObject) (kept : List Member) (host : Host) :
    (object.restart kept host).room.VotesOfMembers ↔ object.KeepsVoters ⟨host, .restart kept⟩ := by
  have found := RoomState.still_recover (object.restored kept) host
  unfold restart RoomState.VotesOfMembers KeepsVoters
  dsimp only
  simp only [found.votes, found.votesToSkip, found.has, restored_has]
  rfl

variable {jsonBytes : QueueItem → Nat}

theorem votes_kept : CommandInvariant jsonBytes KeepsVoters RoomState.VotesOfMembers where
  created _ _ _ := ⟨nofun, nofun⟩
  joined member host counted := counted.from (RoomState.votesFrom_join _ member host)
  left id host counted := counted.leave id host
  applied resolved _ counted sent := counted.handled sent (RoomState.apply_handled _ resolved)
  reported status prepared now counted found :=
    counted.from (RoomState.still_status _ status prepared now found).votesFrom
  ticked host counted := counted.from (RoomState.votesFrom_tick _ host)
  persisted _ counted := counted
  drained counted := counted
  recovered {object} kept host _ _ keeps := (restart_votesOfMembers object kept host).mpr keeps

/-- Where every restart keeps the sockets of the voters, every vote is a present member's. -/
theorem votes_belong_to_members {object : RoomObject}
    (reachable : ((system jsonBytes).restrict KeepsVoters).Reachable object) :
    (∀ id ∈ object.room.snapshot.votesToSkip, object.room.members.has id = true) ∧
      ∀ entry ∈ object.room.snapshot.votes, ∀ id ∈ entry.2, object.room.members.has id = true :=
  ((command_invariant votes_kept).of_reachable reachable).1

theorem reachable_keeping (options : RoomOptions) (owner : GuestSession) (now : Int)
    (steps : List Step)
    (taken : TransitionSystem.runs (next jsonBytes)
      (fun object step => KeepsVoters object step ∧ Possible object step) steps
      (create options owner now) = true) :
    ((system jsonBytes).restrict KeepsVoters).Reachable
      (after jsonBytes steps (create options owner now)) := by
  refine ⟨_, ⟨options, owner, now, rfl⟩, TransitionSystem.steps_run ?_ steps _ taken⟩
  intro object step allowed
  exact ⟨allowed.1, step_next allowed.2⟩

/-- Ann turns vote skipping on and starts a clip, and Bob votes to skip it. -/
def votingSteps : List Step :=
  [⟨{ now := 1000 }, .join ann⟩, ⟨{ now := 2000 }, .join bob⟩,
    ⟨{ now := 3000 }, .request "a" (.applySettings { enableVoteSkip := some true }) []⟩,
    ⟨{ now := 4000 }, .request "a" (.add none none (some "clip")) [clip]⟩,
    ⟨{ now := 5000 }, .request "b" .skip []⟩, ⟨{ now := 5000 }, .commit false⟩]

/-- The object after them and a restart that keeps some of the sockets. -/
def votedAndRestarted (kept : List Member) : RoomObject :=
  after (fun _ => 0) (votingSteps ++ [⟨{ now := 9000 }, .restart kept⟩])
    (create smallOptions annSession 0)

/-- Both sockets live through the restart, and Bob's vote stands. -/
theorem votes_belong_to_members_kept :
    (votedAndRestarted [ann, bob]).room.snapshot.votesToSkip = ["b"] ∧
      (votedAndRestarted [ann, bob]).room.members.has "b" = true := by
  have voted : (votedAndRestarted [ann, bob]).room.snapshot.votesToSkip = ["b"] := by
    decide +kernel
  have run := @reachable_keeping (fun _ => 0) smallOptions annSession 0
    (votingSteps ++ [⟨{ now := 9000 }, .restart [ann, bob]⟩]) (by decide +kernel)
  have holds := @votes_belong_to_members _ (votedAndRestarted [ann, bob]) run
  refine ⟨voted, holds.1 "b" ?_⟩
  rw [voted]
  exact List.mem_singleton_self "b"

/-- Only Ann's socket lives through the restart, and the vote of Bob, who is gone, stands. -/
theorem votes_outlive_members :
    ¬∀ (jsonBytes : QueueItem → Nat) (object : RoomObject),
      (system jsonBytes).Reachable object →
        (∀ id ∈ object.room.snapshot.votesToSkip, object.room.members.has id = true) ∧
          ∀ entry ∈ object.room.snapshot.votes, ∀ id ∈ entry.2,
            object.room.members.has id = true := by
  intro claimed
  have run := @reachable_after (fun _ => 0) smallOptions annSession 0
    (votingSteps ++ [⟨{ now := 9000 }, .restart [ann]⟩]) (by decide +kernel)
  have holds := claimed (fun _ => 0) (votedAndRestarted [ann]) run
  have voted : (votedAndRestarted [ann]).room.snapshot.votesToSkip = ["b"] := by decide +kernel
  have gone : (votedAndRestarted [ann]).room.members.has "b" = false := by decide +kernel
  have present := holds.1 "b" (by rw [voted]; exact List.mem_singleton_self "b")
  rw [gone] at present
  cases present

end RoomObject

end OpenTogetherTube.Edge
