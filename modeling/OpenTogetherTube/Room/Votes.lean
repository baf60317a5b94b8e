import OpenTogetherTube.Room.Rounds
import OpenTogetherTube.Room.Turns

/-!
# Votes

A room keeps two kinds of votes: to skip the current source, and for queued videos. A vote
is worth something only as long as its voter is there and what it is about is. The room
cleans up on most of the ways in which a voter or a video goes, not on all of them; the
conditions here name the ways it misses, and every run that keeps off them has no vote
that is left over.
-/

namespace OpenTogetherTube

open Lib Lib.Handler

namespace Contents

variable (contents : Contents)

theorem setSource_votes (source : Option VideoId) :
    (contents.setSource source).votesToSkip = contents.votesToSkip ∧
      (contents.setSource source).votes = contents.votes ∧
      (contents.setSource source).viewers = contents.viewers ∧
      (contents.setSource source).queue = contents.queue :=
  ⟨rfl, rfl, rfl, rfl⟩

theorem pushCurrent_frame : contents.pushCurrent.votesToSkip = contents.votesToSkip ∧
    contents.pushCurrent.votes = contents.votes ∧
    contents.pushCurrent.viewers = contents.viewers ∧
    contents.pushCurrent.sets = contents.sets := by
  unfold pushCurrent
  split <;> exact ⟨rfl, rfl, rfl, rfl⟩

theorem requeueCurrent_frame : contents.requeueCurrent.votesToSkip = contents.votesToSkip ∧
    contents.requeueCurrent.votes = contents.votes ∧
    contents.requeueCurrent.viewers = contents.viewers ∧
    contents.requeueCurrent.sets = contents.sets := by
  unfold requeueCurrent
  split
  · split
    · exact ⟨rfl, rfl, rfl, rfl⟩
    · exact pushCurrent_frame contents
  · exact ⟨rfl, rfl, rfl, rfl⟩

theorem mem_pushCurrent {video : VideoId} (queued : video ∈ contents.queue) :
    video ∈ contents.pushCurrent.queue := by
  unfold pushCurrent
  split
  · exact List.mem_cons_of_mem _ queued
  · exact queued

theorem mem_requeueCurrent {video : VideoId} (queued : video ∈ contents.queue) :
    video ∈ contents.requeueCurrent.queue := by
  unfold requeueCurrent
  split
  · split
    · exact queued
    · exact mem_pushCurrent contents queued
  · exact queued

theorem takeNext_frame : contents.takeNext.votesToSkip = contents.votesToSkip ∧
    contents.takeNext.viewers = contents.viewers := by
  unfold takeNext
  split
  · exact ⟨rfl, rfl⟩
  · split <;> exact ⟨rfl, rfl⟩

theorem clearSkipVotes_frame : contents.clearSkipVotes.votes = contents.votes ∧
    contents.clearSkipVotes.viewers = contents.viewers ∧
    contents.clearSkipVotes.queue = contents.queue := by
  unfold clearSkipVotes
  split <;> exact ⟨rfl, rfl, rfl⟩

theorem advance_frame : contents.advance.votesToSkip = contents.clearSkipVotes.votesToSkip ∧
    contents.advance.viewers = contents.viewers := by
  have viewers := (clearSkipVotes_frame contents).2.1
  unfold advance
  dsimp only
  split
  · exact ⟨rfl, viewers⟩
  · exact ⟨(takeNext_frame _).1, (takeNext_frame _).2.trans viewers⟩
  · exact ⟨(takeNext_frame _).1, (takeNext_frame _).2.trans viewers⟩

theorem voteToSkip_frame (clientId : Option ClientId) :
    (contents.voteToSkip clientId).viewers = contents.viewers ∧
      (contents.voteToSkip clientId).votes = contents.votes ∧
      (contents.voteToSkip clientId).queue = contents.queue ∧
      (contents.voteToSkip clientId).sets = contents.sets ∧
      (contents.voteToSkip clientId).enableVoteSkip = contents.enableVoteSkip := by
  unfold voteToSkip
  split
  · split <;> exact ⟨rfl, rfl, rfl, rfl, rfl⟩
  · exact ⟨rfl, rfl, rfl, rfl, rfl⟩

theorem vote_frame (video : VideoId) (add : Bool) (clientId : ClientId) :
    (contents.vote video add clientId).votesToSkip = contents.votesToSkip ∧
      (contents.vote video add clientId).sets = contents.sets ∧
      (contents.vote video add clientId).viewers = contents.viewers := by
  unfold vote
  split
  · exact ⟨rfl, rfl, rfl⟩
  · split <;> exact ⟨rfl, rfl, rfl⟩

/-- A move drops the votes to skip where they count. -/
theorem advance_votesToSkip (dropped : contents.enableVoteSkip = true ∨ contents.votesToSkip = []) :
    contents.advance.votesToSkip = [] := by
  rw [(advance_frame contents).1]
  unfold clearSkipVotes
  split
  · rfl
  · rename_i off
    exact dropped.resolve_left off

theorem voteToSkip_counts (clientId : Option ClientId)
    (counts : contents.enableVoteSkip = true ∨ contents.votesToSkip = []) :
    (contents.voteToSkip clientId).enableVoteSkip = true ∨
      (contents.voteToSkip clientId).votesToSkip = [] := by
  obtain ⟨_, _, _, _, enabled⟩ := voteToSkip_frame contents clientId
  rw [enabled]
  by_cases on : contents.enableVoteSkip = true
  · exact Or.inl on
  · refine Or.inr ?_
    unfold voteToSkip
    rw [Bool.not_eq_true] at on
    rw [on]
    exact counts.resolve_left (by rw [on]; decide)

end Contents

namespace Room

variable (env : Env) (context : RoomRequestContext) (room : Room)

/-- The vote to skip that a skip request casts. -/
def castsSkipVote : Option ClientId :=
  if room.grants.granted context.role .skip && room.currentSource.isSome && room.enableVoteSkip then
    context.clientId.filter fun id => decide (id ≠ "" ∧ id ∉ room.votesToSkip)
  else none

/-- The action leaves no vote to skip behind: one that is cast and does not decide comes
from a viewer in the room, a viewer who voted leaves while votes count, and the source is
set only where its votes are dropped or there are none. -/
def keepsSkipVotes (action : RoomAction) : Bool :=
  (match action with
    | .request .skip context =>
        (room.voteToSkip context).shouldSkip ||
          (room.castsSkipVote context).all fun id => decide (id ∈ room.contents.viewers)
    | .request .leave context =>
        context.clientId.all fun id => decide (id ∉ room.votesToSkip) || room.enableVoteSkip ||
          decide (id ∈ room.contents.viewers.erase id)
    | .request (.playNow video) context =>
        !room.playsNow env context video || room.votesToSkip.isEmpty
    | .request (.undo echo) context =>
        !room.undoSetsSource context echo || room.votesToSkip.isEmpty
    | _ => true) &&
    ((action.dequeueEntry env room).isNone || room.enableVoteSkip || room.votesToSkip.isEmpty)

variable {env context room}

/-- Where an item is taken, votes to skip count or there are none. -/
theorem keepsSkipVotes_dequeue {action : RoomAction}
    (kept : room.keepsSkipVotes env action = true)
    (called : (action.dequeueEntry env room).isSome = true) :
    room.contents.enableVoteSkip = true ∨ room.contents.votesToSkip = [] := by
  unfold keepsSkipVotes at kept
  rw [Bool.and_eq_true, Bool.or_eq_true, Bool.or_eq_true, List.isEmpty_iff] at kept
  rcases kept.2 with (absent | on) | none
  · rw [Option.isNone_iff_eq_none] at absent
    rw [absent] at called
    cases called
  · exact Or.inl on
  · exact Or.inr none

theorem currentSource_of_source (playing : room.contents.source.isSome = true) :
    room.currentSource.isSome = true := by
  rw [← Option.isSome_map (f := QueueItem.toVideoId)]
  exact playing

/-- A vote to skip that is cast and does not decide is a viewer's. -/
theorem keepsSkipVotes_cast (kept : room.keepsSkipVotes env (.request .skip context) = true)
    (may : room.grants.granted context.role .skip = true)
    (playing : room.contents.source.isSome = true)
    (short : ¬ (room.voteToSkip context).shouldSkip = true) {id : ClientId}
    (named : context.clientId = some id) (real : id ≠ "")
    (on : room.contents.enableVoteSkip = true) (fresh : id ∉ room.contents.votesToSkip) :
    id ∈ room.contents.viewers := by
  unfold keepsSkipVotes at kept
  rw [Bool.and_eq_true, Bool.or_eq_true] at kept
  have casting := kept.1.resolve_left short
  unfold castsSkipVote at casting
  rw [may, currentSource_of_source playing, show room.enableVoteSkip = true from on,
    named] at casting
  simpa [real, show id ∉ room.votesToSkip from fresh] using casting

/-- A viewer who leaves has no vote to skip, or votes count, or is there once more. -/
theorem keepsSkipVotes_leave (kept : room.keepsSkipVotes env (.request .leave context) = true)
    {id : ClientId} (named : context.clientId = some id) :
    (id ∉ room.contents.votesToSkip ∨ room.contents.enableVoteSkip = true) ∨
      id ∈ room.contents.viewers.erase id := by
  unfold keepsSkipVotes at kept
  rw [Bool.and_eq_true] at kept
  have own := kept.1
  dsimp only at own
  rw [named, Option.all_some, Bool.or_eq_true, Bool.or_eq_true, decide_eq_true_eq,
    decide_eq_true_eq] at own
  exact own

theorem keepsSkipVotes_playNow {video : VideoAdd}
    (kept : room.keepsSkipVotes env (.request (.playNow video) context) = true)
    (plays : room.playsNow env context video = true) : room.contents.votesToSkip = [] := by
  unfold keepsSkipVotes at kept
  rw [Bool.and_eq_true] at kept
  have own := kept.1
  dsimp only at own
  rw [plays, Bool.not_true, Bool.false_or, List.isEmpty_iff] at own
  exact own

theorem keepsSkipVotes_undo {echo : UndoEvent}
    (kept : room.keepsSkipVotes env (.request (.undo echo) context) = true)
    (sets : room.undoSetsSource context echo = true) : room.contents.votesToSkip = [] := by
  unfold keepsSkipVotes at kept
  rw [Bool.and_eq_true] at kept
  have own := kept.1
  dsimp only at own
  rw [sets, Bool.not_true, Bool.false_or, List.isEmpty_iff] at own
  exact own

variable (room)

/-- Both kinds of votes. -/
def ballots : OrderedMap String (OrderedSet ClientId) × OrderedSet ClientId :=
  (room.votes, room.votesToSkip)

/-- Nobody has voted in a new room. -/
theorem new_ballots (options : RoomOptions) (now : Int) :
    (Room.new options now).ballots = ([], []) := by
  have assigned : ∀ other : Room, (other.assignOptions options now).ballots = other.ballots := by
    intro other
    unfold assignOptions
    dsimp only
    iterate 19 rw [applySetting_frame ballots]
    all_goals intro value other
    all_goals first | rfl | exact assignPrevQueue_frame ballots other value fun _ _ _ => rfl
  obtain ⟨room, same, made⟩ := new_frame ballots options now fun _ _ _ _ _ _ _ => rfl
  rw [made]
  exact same.trans (assigned _)

end Room

/-- Nobody has voted in an initial state. -/
theorem RoomState.initial_ballots {state : RoomState} (initial : roomSystem.Initial state) :
    state.room.ballots = ([], []) := by
  cases initial with
  | created options now => exact Room.new_ballots options now
  | restored options now idle still => exact Room.new_ballots options now

/-- A room with a record of which setting of the source each vote to skip was cast on. -/
structure SkipHistory where
  state : RoomState
  castAt : ClientId → Option Nat

namespace SkipHistory

/-- A vote that was not there before is one cast on the source before the step. -/
def record (before : SkipHistory) (after : RoomState) : ClientId → Option Nat := fun id =>
  if id ∈ after.room.votesToSkip ∧ id ∉ before.state.room.votesToSkip then
    some before.state.room.contents.sets
  else before.castAt id

def next (label : RoomLabel) (history : SkipHistory) : SkipHistory :=
  ⟨history.state.next label, history.record (history.state.next label)⟩

end SkipHistory

/-- Every run of a room, with the record of its votes to skip. -/
def skipHistories : TransitionSystem SkipHistory RoomLabel where
  Initial history := roomSystem.Initial history.state ∧ history.castAt = fun _ => none
  Step before label after := roomSystem.Step before.state label after.state ∧
    after.castAt = before.record after.state

namespace SkipHistory

/-- Each vote to skip is a present viewer's and was cast on the present source. -/
def Current (history : SkipHistory) : Prop :=
  ∀ id ∈ history.state.room.contents.votesToSkip, id ∈ history.state.room.contents.viewers ∧
    history.castAt id = some history.state.room.contents.sets

variable {before : SkipHistory} {after : RoomState}

/-- A step that casts no vote, leaves the source where a vote is left and keeps the voters. -/
theorem Current.keep (current : before.Current)
    (votes : ∀ id ∈ after.room.contents.votesToSkip, id ∈ before.state.room.contents.votesToSkip)
    (voters : ∀ id ∈ after.room.contents.votesToSkip,
      id ∈ before.state.room.contents.viewers → id ∈ after.room.contents.viewers)
    (sets : after.room.contents.votesToSkip = [] ∨
      after.room.contents.sets = before.state.room.contents.sets) :
    Current ⟨after, before.record after⟩ := by
  intro id voted
  rcases sets with none | same
  · rw [show (SkipHistory.state ⟨after, before.record after⟩).room.contents.votesToSkip = []
      from none] at voted
    cases voted
  · obtain ⟨present, cast⟩ := current id (votes id voted)
    refine ⟨voters id voted present, ?_⟩
    change before.record after id = some after.room.contents.sets
    have old : ¬ (id ∈ after.room.votesToSkip ∧ id ∉ before.state.room.votesToSkip) :=
      fun cast => cast.2 (votes id voted)
    unfold record
    rw [if_neg old, same]
    exact cast

/-- A step after which no vote to skip is left. -/
theorem Current.of_none (none : after.room.contents.votesToSkip = []) :
    Current ⟨after, before.record after⟩ := by
  intro id voted
  rw [show (SkipHistory.state ⟨after, before.record after⟩).room.contents.votesToSkip = []
    from none] at voted
  cases voted

/-- A vote to skip that does not decide. -/
theorem Current.cast (current : before.Current) (context : RoomRequestContext)
    (contents : after.room.contents = before.state.room.contents.voteToSkip context.clientId)
    (allowed : ∀ id, context.clientId = some id → id ≠ "" →
      before.state.room.contents.enableVoteSkip = true →
      id ∉ before.state.room.contents.votesToSkip → id ∈ before.state.room.contents.viewers) :
    Current ⟨after, before.record after⟩ := by
  obtain ⟨viewers, _, _, sets, _⟩ :=
    Contents.voteToSkip_frame before.state.room.contents context.clientId
  rw [← contents] at viewers sets
  intro id voted
  by_cases old : id ∈ before.state.room.contents.votesToSkip
  · obtain ⟨present, cast⟩ := current id old
    refine ⟨?_, ?_⟩
    · change id ∈ after.room.contents.viewers
      rw [viewers]
      exact present
    · change before.record after id = some after.room.contents.sets
      unfold record
      rw [if_neg fun cast => cast.2 old, sets]
      exact cast
  · have new : context.clientId = some id ∧ id ≠ "" ∧
        before.state.room.contents.enableVoteSkip = true := by
      change id ∈ after.room.contents.votesToSkip at voted
      rw [contents] at voted
      unfold Contents.voteToSkip at voted
      split at voted
      · rename_i clientId on named
        split at voted
        · exact absurd voted old
        · rename_i real
          dsimp only at voted
          split at voted
          · exact absurd (OrderedSet.mem_remove.mp voted).1 old
          · rcases OrderedSet.mem_add.mp voted with kept | rfl
            · exact absurd kept old
            · exact ⟨named, real, on⟩
      · exact absurd voted old
    refine ⟨?_, ?_⟩
    · change id ∈ after.room.contents.viewers
      rw [viewers]
      exact allowed id new.1 new.2.1 new.2.2 old
    · change before.record after id = some after.room.contents.sets
      unfold record
      rw [if_pos ⟨voted, old⟩, sets]

/-- A step that leaves the votes to skip and the source, and sends no viewer away. -/
theorem Current.same (current : before.Current)
    (votes : after.room.contents.votesToSkip = before.state.room.contents.votesToSkip)
    (sets : after.room.contents.sets = before.state.room.contents.sets)
    (voters : ∀ id ∈ before.state.room.contents.viewers, id ∈ after.room.contents.viewers) :
    Current ⟨after, before.record after⟩ := by
  refine current.keep ?_ (fun id _ => voters id) (Or.inr sets)
  rw [votes]
  exact fun _ => id

/-- A viewer leaves whose vote to skip goes too, or who had none, or who is there once more. -/
theorem Current.leave (current : before.Current) (clientId : ClientId)
    (contents : after.room.contents = before.state.room.contents.leave clientId)
    (free : (clientId ∉ before.state.room.contents.votesToSkip ∨
        before.state.room.contents.enableVoteSkip = true) ∨
      clientId ∈ before.state.room.contents.viewers.erase clientId) :
    Current ⟨after, before.record after⟩ := by
  refine current.keep ?_ ?_ (Or.inr (by rw [contents]; rfl))
  · intro id voted
    rw [contents] at voted
    unfold Contents.leave at voted
    dsimp only at voted
    split at voted
    · exact (OrderedSet.mem_remove.mp voted).1
    · exact voted
  · intro id voted viewer
    rw [contents] at voted ⊢
    unfold Contents.leave at voted ⊢
    dsimp only at voted ⊢
    by_cases leaver : id = clientId
    · subst leaver
      split at voted
      · exact absurd rfl (OrderedSet.mem_remove.mp voted).2
      · rename_i off
        exact free.resolve_left fun free => free.elim (absurd voted) off
    · exact (List.mem_erase_of_ne leaver).mpr viewer

theorem Current.step {env : Env} {action : RoomAction} (current : before.Current)
    (kept : before.state.room.keepsSkipVotes env action = true) :
    (before.next ⟨env, action⟩).Current := by
  have turn := RoomAction.apply_turn env before.state.room action
  generalize reached : (action.apply env before.state.room).contents = contents at turn
  replace reached : (before.state.next ⟨env, action⟩).room.contents = contents := reached
  have same : contents.votesToSkip = before.state.room.contents.votesToSkip →
      contents.sets = before.state.room.contents.sets →
      (∀ id ∈ before.state.room.contents.viewers, id ∈ contents.viewers) →
      (before.next ⟨env, action⟩).Current := by
    intro votes sets voters
    exact current.same (by rw [reached, votes]) (by rw [reached, sets]) (by rw [reached]; exact voters)
  have emptied : contents.votesToSkip = [] → (before.next ⟨env, action⟩).Current := by
    intro none
    exact .of_none (by rw [reached, none])
  cases turn with
  | stayed => exact same rfl rfl fun _ => id
  | reordered _ queue perm => exact same rfl rfl fun _ => id
  | joined info reconnect context =>
      exact same rfl rfl fun _ present => List.mem_append_left _ present
  | left context clientId named present =>
      exact current.leave clientId reached (Room.keepsSkipVotes_leave kept named)
  | votedToSkip context playing may short =>
      exact current.cast context reached fun id =>
        Room.keepsSkipVotes_cast kept may playing short
  | skipped context playing may enough =>
      have called : ((RoomAction.request .skip context).dequeueEntry env
          before.state.room).isSome = true := by
        unfold RoomAction.dequeueEntry
        simp [may, Room.currentSource_of_source playing, enough]
      exact emptied (Contents.advance_votesToSkip _
        (Contents.voteToSkip_counts _ _ (Room.keepsSkipVotes_dequeue kept called)))
  | advanced queue perm due =>
      have called : (RoomAction.update.dequeueEntry env before.state.room).isSome = true := by
        unfold RoomAction.dequeueEntry
        dsimp only
        rw [if_pos due]
        rfl
      exact emptied (Contents.advance_votesToSkip _ (Room.keepsSkipVotes_dequeue kept called))
  | added request context videos prevQueue saved fits counted => exact same rfl rfl fun _ => id
  | removed video context => exact same rfl rfl fun _ => id
  | voted video add context clientId named queued may =>
      obtain ⟨votes, sets, viewers⟩ :=
        Contents.vote_frame before.state.room.contents video add clientId
      exact same votes sets (by rw [viewers]; exact fun _ => id)
  | configured settings context queueMode enableVoteSkip => exact same rfl rfl fun _ => id
  | playedNow video context played plays fits fresh =>
      refine emptied ?_
      rw [(Contents.setSource_votes _ _).1, (Contents.pushCurrent_frame _).1]
      exact Room.keepsSkipVotes_playNow kept plays
  | playedQueued video context plays queued =>
      refine emptied ?_
      rw [(Contents.setSource_votes _ _).1, (Contents.pushCurrent_frame _).1]
      exact Room.keepsSkipVotes_playNow kept plays
  | evicted video context accepts queued => exact same rfl rfl fun _ => id
  | undidSkip echo context video sets kind fits =>
      refine emptied ?_
      rw [(Contents.setSource_votes _ _).1, (Contents.requeueCurrent_frame _).1]
      exact Room.keepsSkipVotes_undo kept sets
  | requeued echo context kind fits =>
      obtain ⟨votes, _, viewers, sets⟩ :=
        Contents.requeueCurrent_frame before.state.room.contents
      exact same votes sets (by rw [viewers]; exact fun _ => id)
  | undidAdd echo context video => exact same rfl rfl fun _ => id
  | undidFirst echo context sets => exact emptied (Room.keepsSkipVotes_undo kept sets)
  | undidRemove echo context index video kind fits => exact same rfl rfl fun _ => id
  | restored context videos saved fits => exact same rfl rfl fun _ => id
  | discarded context => exact same rfl rfl fun _ => id

/-- In every run whose steps leave no vote to skip behind, the votes are current. -/
theorem current_of_reachable {history : SkipHistory}
    (reachable : (skipHistories.restrict fun history label =>
      history.state.room.keepsSkipVotes label.env label.action = true).Reachable history) :
    history.Current := by
  refine TransitionSystem.Inductive.of_reachable ⟨?_, ?_⟩ reachable
  · intro start initial id voted
    have none : start.state.room.contents.votesToSkip = [] :=
      congrArg Prod.snd (RoomState.initial_ballots initial.1)
    rw [none] at voted
    cases voted
  · rintro before label ⟨state, castAt⟩ current ⟨kept, ⟨_, _, moved⟩, recorded⟩
    dsimp only at moved recorded
    subst moved recorded
    exact current.step kept

/-- The votes to skip are those of present viewers, cast on the present source. -/
theorem skip_votes_are_current {history : SkipHistory}
    (reachable : (skipHistories.restrict fun history label =>
      history.state.room.keepsSkipVotes label.env label.action = true).Reachable history) :
    ∀ id ∈ history.state.room.votesToSkip,
      (∃ user ∈ history.state.room.realusers, user.id = id) ∧
        history.castAt id = some history.state.room.toGateState.sourceSets := by
  intro id voted
  obtain ⟨present, cast⟩ := current_of_reachable reachable id voted
  exact ⟨List.mem_map.mp present, cast⟩

/-- A label that can be taken is a step. -/
theorem step_next (history : SkipHistory) (label : RoomLabel)
    (enabled : label.action.Enabled history.state.room)
    (fresh : label.env.uuid ∉ history.state.room.rounds) :
    skipHistories.Step history label (history.next label) :=
  ⟨⟨enabled, fresh, rfl⟩, rfl⟩

/-- Labels that can be taken and meet the condition make a run. -/
theorem steps_run (condition : SkipHistory → RoomLabel → Prop)
    [∀ history label, Decidable (condition history label)] (labels : List RoomLabel)
    (history : SkipHistory)
    (possible : TransitionSystem.runs next (fun history label =>
      label.action.Enabled history.state.room ∧ label.env.uuid ∉ history.state.room.rounds ∧
        condition history label) labels history = true) :
    (skipHistories.restrict condition).Steps history (TransitionSystem.run next labels history) := by
  refine TransitionSystem.steps_run ?_ labels history possible
  rintro history label ⟨enabled, fresh, met⟩
  exact ⟨met, step_next history label enabled fresh⟩

end SkipHistory

namespace Sample

/-- A room in which skips are voted on. -/
def voteSkip : SkipHistory := ⟨⟨Room.new { enableVoteSkip := some true } 0, 0⟩, fun _ => none⟩

/-- The requests of a client who is not logged in. -/
def guest (id : ClientId) : RoomRequestContext where
  role := .unregisteredUser
  clientId := some id
  auth := some ⟨id, some id⟩

def joins (now : Int) (id : ClientId) : RoomLabel :=
  ⟨env now "first", .request (.join { id, username := some id } false) (guest id)⟩

def playsNow (now : Int) (id : String) : RoomLabel :=
  ⟨env now "first", .request (.playNow { service := .youtube, id }) (guest "ann")⟩

/-- One of three viewers votes to skip a video. -/
def voteAlone : List RoomLabel :=
  [joins 1 "ann", joins 2 "ben", joins 3 "cid", playsNow 4 "first",
    ⟨env 5 "first", .request .skip (guest "ben")⟩]

/-- The vote is there and counts for the video that plays. -/
def voteCast : SkipHistory := TransitionSystem.run SkipHistory.next voteAlone voteSkip

/-- Then another viewer plays another video. -/
def voteStale : SkipHistory := voteCast.next (playsNow 6 "second")

theorem voteCast_steps : (skipHistories.restrict fun history label =>
    history.state.room.keepsSkipVotes label.env label.action = true).Steps voteSkip voteCast :=
  SkipHistory.steps_run _ _ _ (by decide +kernel)

theorem voteSkip_initial : skipHistories.Initial voteSkip :=
  ⟨.created { enableVoteSkip := some true } 0, rfl⟩

end Sample

namespace SkipHistory

/-- A vote cast on the first video counts for the second. -/
theorem stale_skip_vote : skipHistories.Reachable Sample.voteStale ∧
    ¬ (∀ id ∈ Sample.voteStale.state.room.votesToSkip,
      (∃ user ∈ Sample.voteStale.state.room.realusers, user.id = id) ∧
        Sample.voteStale.castAt id = some Sample.voteStale.state.room.toGateState.sourceSets) := by
  have stepped : skipHistories.Step Sample.voteCast (Sample.playsNow 6 "second") Sample.voteStale :=
    step_next _ _ trivial (by decide +kernel)
  refine ⟨⟨_, Sample.voteSkip_initial, Sample.voteCast_steps.of_restrict.tail stepped⟩, ?_⟩
  intro current
  have voted : "ben" ∈ Sample.voteStale.state.room.votesToSkip := by decide +kernel
  have cast : Sample.voteStale.castAt "ben" = some 1 := by decide +kernel
  have sets : Sample.voteStale.state.room.toGateState.sourceSets = 2 := by decide +kernel
  have same := (current "ben" voted).2
  rw [cast, sets] at same
  cases same

/-- Before that the vote is current. -/
theorem skip_votes_are_current_cast : "ben" ∈ Sample.voteCast.state.room.votesToSkip ∧
    Sample.voteCast.castAt "ben" = some Sample.voteCast.state.room.toGateState.sourceSets := by
  have voted : "ben" ∈ Sample.voteCast.state.room.votesToSkip := by decide +kernel
  have current := skip_votes_are_current ⟨_, Sample.voteSkip_initial, Sample.voteCast_steps⟩
  exact ⟨voted, (current "ben" voted).2⟩

end SkipHistory

namespace Contents

/-- Every vote is for a queued video and by a present viewer. -/
def VotesCount (contents : Contents) : Prop :=
  ∀ entry ∈ contents.votes, (∃ video ∈ contents.queue, video.voteKey = entry.1) ∧
    ∀ id ∈ entry.2, id ∈ contents.viewers

variable {contents after : Contents}

variable (count : contents.VotesCount)

include count

theorem VotesCount.keep (votes : after.votes = contents.votes)
    (queue : ∀ video ∈ contents.queue, video ∈ after.queue)
    (viewers : ∀ id ∈ contents.viewers, id ∈ after.viewers) : after.VotesCount := by
  intro entry member
  rw [votes] at member
  obtain ⟨⟨video, queued, key⟩, voters⟩ := count entry member
  exact ⟨⟨video, queue video queued, key⟩, fun id voted => viewers id (voters id voted)⟩

/-- One copy of a video goes, and its votes with it. -/
theorem VotesCount.drop (video : VideoId)
    (votes : after.votes = contents.votes.delete video.voteKey)
    (queue : ∀ other ∈ contents.queue, other ≠ video → other ∈ after.queue)
    (viewers : after.viewers = contents.viewers) : after.VotesCount := by
  intro entry member
  rw [votes, OrderedMap.mem_delete] at member
  obtain ⟨⟨other, queued, key⟩, voters⟩ := count entry member.1
  rw [viewers]
  refine ⟨⟨other, queue other queued ?_, key⟩, voters⟩
  rintro rfl
  exact member.2 key.symm

theorem VotesCount.takeNext : contents.takeNext.VotesCount := by
  unfold Contents.takeNext
  split
  · rename_i video rest queue
    refine count.drop video rfl ?_ rfl
    intro other queued differs
    rw [queue] at queued
    exact (List.mem_cons.mp queued).resolve_left differs
  · split
    · exact count.keep rfl (fun _ => id) fun _ => id
    · exact count

theorem VotesCount.advance : contents.advance.VotesCount := by
  obtain ⟨votes, viewers, queue⟩ := clearSkipVotes_frame contents
  have cleared : contents.clearSkipVotes.VotesCount := by
    refine count.keep votes ?_ ?_
    · rw [queue]
      exact fun _ => id
    · rw [viewers]
      exact fun _ => id
  unfold Contents.advance
  dsimp only
  split
  · exact cleared.keep rfl (fun _ => id) fun _ => id
  · rename_i source _ _
    have longer : VotesCount { contents.clearSkipVotes with
        queue := contents.clearSkipVotes.queue ++ [source] } :=
      cleared.keep rfl (fun _ => List.mem_append_left _) fun _ => id
    exact longer.takeNext
  · exact cleared.takeNext

theorem VotesCount.voteToSkip (clientId : Option ClientId) :
    (contents.voteToSkip clientId).VotesCount := by
  obtain ⟨viewers, votes, queue, _⟩ := voteToSkip_frame contents clientId
  refine count.keep votes ?_ ?_
  · rw [queue]
    exact fun _ => id
  · rw [viewers]
    exact fun _ => id

theorem VotesCount.leave (clientId : ClientId)
    (left : contents.queueMode = .vote ∨ (∀ entry ∈ contents.votes, clientId ∉ entry.2) ∨
      clientId ∈ contents.viewers.erase clientId) : (contents.leave clientId).VotesCount := by
  have stays : ∀ id ∈ contents.viewers, id ≠ clientId → id ∈ contents.viewers.erase clientId :=
    fun id present other => (List.mem_erase_of_ne other).mpr present
  unfold Contents.leave
  intro entry member
  dsimp only at member ⊢
  split at member
  · obtain ⟨old, inside, rfl⟩ := List.mem_map.mp member
    obtain ⟨queued, voters⟩ := count old inside
    refine ⟨queued, ?_⟩
    intro id voted
    obtain ⟨voted, other⟩ := OrderedSet.mem_remove.mp voted
    exact stays id (voters id voted) other
  · rename_i unvoted
    obtain ⟨queued, voters⟩ := count entry member
    refine ⟨queued, ?_⟩
    intro id voted
    by_cases leaver : id = clientId
    · subst leaver
      rcases left.resolve_left unvoted with free | again
      · exact absurd voted (free entry member)
      · exact again
    · exact stays id (voters id voted) leaver

theorem VotesCount.vote (video : VideoId) (add : Bool)
    (clientId : ClientId) (queued : video ∈ contents.queue)
    (present : add = true → clientId ∈ contents.viewers) :
    (contents.vote video add clientId).VotesCount := by
  have written : ∀ voters : OrderedSet ClientId, (∀ id ∈ voters, id ∈ contents.viewers) →
      VotesCount { contents with votes := contents.votes.set video.voteKey voters } := by
    intro voters allowed entry member
    rcases OrderedMap.mem_of_set member with rfl | old
    · exact ⟨⟨video, queued, rfl⟩, allowed⟩
    · exact count entry old
  unfold Contents.vote
  split
  · rename_i voters found
    have before : ∀ id ∈ voters, id ∈ contents.viewers :=
      (count _ (OrderedMap.mem_of_get found)).2
    refine written _ ?_
    intro id voted
    split at voted
    · rename_i adds
      rcases OrderedSet.mem_add.mp voted with old | rfl
      · exact before id old
      · exact present adds
    · exact before id (OrderedSet.mem_remove.mp voted).1
  · split
    · rename_i adds
      refine written _ ?_
      intro id voted
      rw [List.mem_singleton.mp voted]
      exact present adds
    · exact count

end Contents

namespace Room

variable (env : Env) (room : Room)

/-- The action leaves no vote for a video behind: a vote comes from a viewer in the room, a
viewer who leaves outside vote mode has none, and a queued video that is played now has
none, or another copy of it stays queued. -/
def keepsVotes (action : RoomAction) : Bool :=
  match action with
  | .request (.vote video add) context =>
      !add || !room.grants.granted context.role .queueVote ||
        decide (video ∉ room.contents.queue) ||
        context.clientId.all fun id => decide (id ∈ room.contents.viewers)
  | .request .leave context =>
      context.clientId.all fun id => decide (room.queueMode = .vote) ||
        (room.votes.all fun entry => decide (id ∉ entry.2)) ||
        decide (id ∈ room.contents.viewers.erase id)
  | .request (.playNow video) context =>
      !room.acceptsPlayNow env context video || decide (video.toVideoId ∉ room.contents.queue) ||
        !room.votes.has video.toVideoId.voteKey ||
        (room.contents.queue.erase video.toVideoId).any fun other =>
          decide (other.voteKey = video.toVideoId.voteKey)
  | _ => true

variable {env room} {context : RoomRequestContext}

/-- A viewer who leaves has no votes, or takes them along, or is there once more. -/
theorem keepsVotes_leave (kept : room.keepsVotes env (.request .leave context) = true)
    {id : ClientId} (named : context.clientId = some id) :
    room.contents.queueMode = .vote ∨ (∀ entry ∈ room.contents.votes, id ∉ entry.2) ∨
      id ∈ room.contents.viewers.erase id := by
  unfold keepsVotes at kept
  dsimp only at kept
  rw [named, Option.all_some, Bool.or_eq_true, Bool.or_eq_true, decide_eq_true_eq,
    decide_eq_true_eq, or_assoc] at kept
  refine kept.imp_right (Or.imp_left ?_)
  intro free entry member
  exact of_decide_eq_true (List.all_eq_true.mp free entry member)

/-- A vote that is stored is a viewer's. -/
theorem keepsVotes_vote {video : VideoId} {add : Bool}
    (kept : room.keepsVotes env (.request (.vote video add) context) = true)
    (may : room.grants.granted context.role .queueVote = true)
    (queued : video ∈ room.contents.queue) {id : ClientId} (named : context.clientId = some id)
    (adds : add = true) : id ∈ room.contents.viewers := by
  unfold keepsVotes at kept
  simpa [adds, may, queued, named] using kept

theorem keepsVotes_playNow {video : VideoAdd}
    (kept : room.keepsVotes env (.request (.playNow video) context) = true)
    (accepts : room.acceptsPlayNow env context video = true)
    (queued : video.toVideoId ∈ room.contents.queue) :
    room.votes.has video.toVideoId.voteKey = false ∨
      ∃ other ∈ room.contents.queue.erase video.toVideoId,
        other.voteKey = video.toVideoId.voteKey := by
  unfold keepsVotes at kept
  simpa [accepts, queued] using kept

theorem acceptsPlayNow_of_playsNow {video : VideoAdd}
    (plays : room.playsNow env context video = true) :
    room.acceptsPlayNow env context video = true := by
  unfold playsNow at plays
  rw [Bool.and_eq_true, Bool.and_eq_true] at plays
  exact plays.1.1

/-- One copy of a video leaves the queue without its votes. -/
theorem evict_votesCount {after : Contents} (count : room.contents.VotesCount) (video : VideoId)
    (free : room.votes.has video.voteKey = false ∨
      ∃ other ∈ room.contents.queue.erase video, other.voteKey = video.voteKey)
    (votes : after.votes = room.contents.votes)
    (queue : ∀ other ∈ room.contents.queue.erase video, other ∈ after.queue)
    (viewers : after.viewers = room.contents.viewers) : after.VotesCount := by
  intro entry member
  rw [votes] at member
  obtain ⟨⟨other, queued, key⟩, voters⟩ := count entry member
  rw [viewers]
  refine ⟨?_, voters⟩
  by_cases same : other = video
  · subst same
    rcases free with absent | ⟨copy, stays, copyKey⟩
    · have present : room.votes.has other.voteKey = true := by
        unfold OrderedMap.has OrderedMap.get
        rw [Option.isSome_map, List.find?_isSome]
        exact ⟨entry, member, by simp [key]⟩
      rw [absent] at present
      cases present
    · exact ⟨copy, queue copy stays, copyKey.trans key⟩
  · exact ⟨other, queue other ((List.mem_erase_of_ne same).mpr queued), key⟩

/-- A step that leaves no vote for a video behind. -/
theorem votesCount_step {action : RoomAction} (count : room.contents.VotesCount)
    (kept : room.keepsVotes env action = true) :
    (action.apply env room).contents.VotesCount := by
  have turn := RoomAction.apply_turn env room action
  generalize (action.apply env room).contents = contents at turn
  cases turn with
  | stayed => exact count
  | reordered _ queue perm => exact count.keep rfl (fun _ => perm.mem_iff.mpr) fun _ => id
  | joined info reconnect context =>
      exact count.keep rfl (fun _ => id) fun _ => List.mem_append_left _
  | left context clientId named present =>
      exact count.leave clientId (keepsVotes_leave kept named)
  | votedToSkip context playing may short => exact count.voteToSkip context.clientId
  | skipped context playing may enough => exact (count.voteToSkip context.clientId).advance
  | advanced queue perm due =>
      exact count.advance.keep rfl (fun _ => perm.mem_iff.mpr) fun _ => id
  | added request context videos prevQueue saved fits counted =>
      exact count.keep rfl (fun _ => List.mem_append_left _) fun _ => id
  | removed video context =>
      exact count.drop video rfl (fun other queued differs =>
        (List.mem_erase_of_ne differs).mpr queued) rfl
  | voted video add context clientId named queued may =>
      exact count.vote video add clientId queued (keepsVotes_vote kept may queued named)
  | configured settings context queueMode enableVoteSkip =>
      exact count.keep rfl (fun _ => id) fun _ => id
  | playedNow video context played plays fits fresh =>
      refine count.keep (Contents.pushCurrent_frame room.contents).2.1 ?_ ?_
      · exact fun _ => Contents.mem_pushCurrent room.contents
      · rw [(Contents.setSource_votes _ _).2.2.1, (Contents.pushCurrent_frame room.contents).2.2.1]
        exact fun _ => id
  | playedQueued video context plays queued =>
      have free := keepsVotes_playNow kept (acceptsPlayNow_of_playsNow plays) queued
      refine evict_votesCount count video.toVideoId free (Contents.pushCurrent_frame _).2.1 ?_
        (Contents.pushCurrent_frame _).2.2.1
      exact fun _ queued => Contents.mem_pushCurrent
        { room.contents with queue := room.contents.queue.erase video.toVideoId } queued
  | evicted video context accepts queued =>
      exact evict_votesCount count video.toVideoId (keepsVotes_playNow kept accepts queued)
        rfl (fun _ => id) rfl
  | undidSkip echo context video sets kind fits =>
      obtain ⟨_, votes, viewers, _⟩ := Contents.requeueCurrent_frame room.contents
      refine count.keep votes (fun _ => Contents.mem_requeueCurrent room.contents) ?_
      rw [(Contents.setSource_votes _ _).2.2.1, viewers]
      exact fun _ => id
  | requeued echo context kind fits =>
      obtain ⟨_, votes, viewers, _⟩ := Contents.requeueCurrent_frame room.contents
      refine count.keep votes (fun _ => Contents.mem_requeueCurrent room.contents) ?_
      rw [viewers]
      exact fun _ => id
  | undidAdd echo context video =>
      exact count.drop video rfl (fun other queued differs =>
        (List.mem_erase_of_ne differs).mpr queued) rfl
  | undidFirst echo context sets => exact count.keep rfl (fun _ => id) fun _ => id
  | undidRemove echo context index video kind fits =>
      refine count.keep rfl ?_ fun _ => id
      intro other queued
      by_cases inside : index ≤ room.contents.queue.length
      · exact (List.mem_insertIdx inside).mpr (Or.inr queued)
      · dsimp only
        rw [List.insertIdx_of_length_lt (Nat.lt_of_not_le inside)]
        exact queued
  | restored context videos saved fits =>
      exact count.keep rfl (fun _ => List.mem_append_left _) fun _ => id
  | discarded context => exact count.keep rfl (fun _ => id) fun _ => id

end Room

namespace RoomState

/-- In every run whose steps leave no vote for a video behind, every vote counts. -/
theorem votesCount_of_reachable {state : RoomState}
    (reachable : (roomSystem.restrict fun state label =>
      state.room.keepsVotes label.env label.action = true).Reachable state) :
    state.room.contents.VotesCount := by
  have invariant : TransitionSystem.Inductive (roomSystem.restrict fun state label =>
      state.room.keepsVotes label.env label.action = true)
      fun state => state.room.contents.VotesCount := by
    refine ⟨?_, ?_⟩
    · intro start initial entry member
      have none : start.room.contents.votes = [] := congrArg Prod.fst (initial_ballots initial)
      rw [none] at member
      cases member
    · rintro before label after count ⟨kept, _, _, rfl⟩
      exact Room.votesCount_step count kept
  exact invariant.of_reachable reachable

/-- Every key of the vote map is a queued video's and every voter under it is in the room. -/
theorem votes_have_video_and_voters {state : RoomState}
    (reachable : (roomSystem.restrict fun state label =>
      state.room.keepsVotes label.env label.action = true).Reachable state) :
    ∀ entry ∈ state.room.votes, (∃ item ∈ state.room.queue, item.toVideoId.voteKey = entry.1) ∧
      ∀ id ∈ entry.2, ∃ user ∈ state.room.realusers, user.id = id := by
  intro entry member
  obtain ⟨⟨video, queued, key⟩, voters⟩ := votesCount_of_reachable reachable entry member
  obtain ⟨item, inQueue, rfl⟩ := List.mem_map.mp queued
  exact ⟨⟨item, inQueue, key⟩, fun id voted => List.mem_map.mp (voters id voted)⟩

end RoomState

namespace Sample

/-- A room whose queue is voted on. -/
def ballot : RoomState := ⟨Room.new { queueMode := some .vote } 0, 0⟩

/-- A viewer puts a video into the queue and votes for it. -/
def addAndVote : List RoomLabel :=
  [joins 1 "ann",
    ⟨env 2 "first", .request (.add { video := some { service := .youtube, id := "first" } })
      (guest "ann")⟩,
    ⟨env 3 "first", .request (.vote ⟨.youtube, "first"⟩ true) (guest "ann")⟩]

def votedFor : RoomState := ballot.run addAndVote

/-- Then somebody plays the video at once. -/
def votedAndPlayed : RoomState := votedFor.next (playsNow 4 "first")

theorem votedFor_steps : (roomSystem.restrict fun state label =>
    state.room.keepsVotes label.env label.action = true).Steps ballot votedFor :=
  RoomState.steps_run _ _ _ (by decide +kernel)

end Sample

namespace RoomState

/-- The votes for a video that is played now stay in the map of a room with no queue. -/
theorem vote_outlives_video : roomSystem.Reachable Sample.votedAndPlayed ∧
    ¬ (∀ entry ∈ Sample.votedAndPlayed.room.votes,
      (∃ item ∈ Sample.votedAndPlayed.room.queue, item.toVideoId.voteKey = entry.1) ∧
        ∀ id ∈ entry.2, ∃ user ∈ Sample.votedAndPlayed.room.realusers, user.id = id) := by
  have stepped : roomSystem.Step Sample.votedFor (Sample.playsNow 4 "first")
      Sample.votedAndPlayed := ⟨trivial, by decide +kernel, rfl⟩
  refine ⟨⟨_, .created { queueMode := some .vote } 0,
    Sample.votedFor_steps.of_restrict.tail stepped⟩, ?_⟩
  intro count
  have voted : ("youtubefirst", ["ann"]) ∈ Sample.votedAndPlayed.room.votes := by decide +kernel
  have empty : Sample.votedAndPlayed.room.queue = [] := by decide +kernel
  obtain ⟨⟨item, queued, _⟩, _⟩ := count _ voted
  rw [empty] at queued
  cases queued

/-- Before that the vote counts. -/
theorem votes_have_video_and_voters_added :
    ("youtubefirst", ["ann"]) ∈ Sample.votedFor.room.votes ∧
      ∃ item ∈ Sample.votedFor.room.queue, item.toVideoId.voteKey = "youtubefirst" := by
  have voted : ("youtubefirst", ["ann"]) ∈ Sample.votedFor.room.votes := by decide +kernel
  have count := votes_have_video_and_voters ⟨_, .created { queueMode := some .vote } 0,
    Sample.votedFor_steps⟩
  exact ⟨voted, (count _ voted).1⟩

end RoomState

end OpenTogetherTube
