import OpenTogetherTube.Room.Playlist
import OpenTogetherTube.Room.Votes

/-!
# Skips, withdrawn and undone

A skip either moves the playlist on and announces it, or leaves it alone. Here is when the
undo of an announced skip brings the playlist back, and when a viewer who takes back a vote
to skip leaves it as it is.
-/

namespace OpenTogetherTube

open Lib Lib.Handler

namespace Room

variable (env : Env) (context : RoomRequestContext) (room : Room)

/-- The context of the event of a skip. -/
def skipNotes (current : QueueItem) (voted : Room) : RoomEventContext where
  video := some current
  prevPosition := some (voted.realPlaybackPosition env.now)

/-- The room after a skip of the current item that got its votes. -/
def skipped (current : QueueItem) (voted : Room) : Room :=
  ((voted.dequeueNext env).publishRoomEvent .skip context (skipNotes env current voted)
    none).assignVideoSegments []

/-- A skip moves on if the votes suffice. -/
theorem skip_run {current : QueueItem} (playing : room.currentSource = some current) :
    (skip env context).outcome room = .ok () ∧
      (skip env context).after room =
        if (room.voteToSkip context).shouldSkip then
          (room.voteToSkip context).skipped env context current
        else room.voteToSkip context := by
  unfold skip
  rw [outcome_get_bind, after_get_bind, playing]
  dsimp only
  rw [outcome_modify_bind, after_modify_bind, outcome_get_bind, after_get_bind]
  split <;> exact ⟨rfl, rfl⟩

/-- A vote touches neither the playlist nor anything that was announced. -/
theorem voteToSkip_rest : (room.voteToSkip context).playlist = room.playlist ∧
    (room.voteToSkip context).chronicle = room.chronicle ∧
    (room.voteToSkip context).toRoomClock = room.toRoomClock ∧
    (room.voteToSkip context).queueMode = room.queueMode := by
  unfold voteToSkip
  split
  · split
    · exact ⟨rfl, rfl, rfl, rfl⟩
    · exact ⟨rfl, rfl, rfl, rfl⟩
  · exact ⟨rfl, rfl, rfl, rfl⟩

/-- What an announcement leaves: the event is there, or nothing happened. -/
theorem publishRoomEvent_cases (request : RoomRequest) (additional : RoomEventContext)
    (knownUser : Option RoomUserInfo) :
    room.publishRoomEvent request context additional knownUser = room ∨
      ∃ event : RoomEvent, event.request = request ∧ event.additional = additional ∧
        event.serial = room.nextSerial ∧
        (room.publishRoomEvent request context additional knownUser).published =
          .event event :: room.published ∧
        event ∈ (room.publishRoomEvent request context additional knownUser).recentEvents := by
  unfold publishRoomEvent
  split
  · exact Or.inl rfl
  · split
    · exact Or.inl rfl
    · rename_i user _
      right
      refine ⟨⟨room.nextSerial, request, user, additional⟩, rfl, rfl, rfl, rfl, ?_⟩
      change _ ∈ if _ then (room.recentEvents ++ [_]).tail else room.recentEvents ++ [_]
      split
      · rename_i long
        cases recent : room.recentEvents with
        | nil =>
            rw [recent] at long
            simp [RECENT_EVENTS_LIMIT] at long
        | cons oldest later => simp
      · simp

theorem publishRoomEvent_playlist (request : RoomRequest) (additional : RoomEventContext)
    (knownUser : Option RoomUserInfo) :
    (room.publishRoomEvent request context additional knownUser).playlist = room.playlist ∧
      (room.publishRoomEvent request context additional knownUser).grants = room.grants := by
  unfold publishRoomEvent
  split
  · exact ⟨rfl, rfl⟩
  · split <;> exact ⟨rfl, rfl⟩

/-- A skip does to the playlist what `dequeueNext` does. -/
theorem skipped_playlist (current : QueueItem) :
    (room.skipped env context current).playlist = room.playlist.advance room.queueMode ∧
      (room.skipped env context current).grants = room.grants := by
  have announced := publishRoomEvent_playlist context (room.dequeueNext env) .skip
    (skipNotes env current room) none
  have told := dequeueNext_chronicle env room
  simp only [chronicle, Prod.mk.injEq] at told
  refine ⟨?_, announced.2.trans told.2.2.2.2⟩
  rw [← dequeueNext_playlist env]
  exact announced.1

/-- A skip moves the playlist on if the votes suffice. -/
theorem skip_playlist {current : QueueItem} (playing : room.currentSource = some current) :
    ((skip env context).after room).playlist =
      if (room.voteToSkip context).shouldSkip then room.playlist.advance room.queueMode
      else room.playlist := by
  obtain ⟨unmoved, _, _, mode⟩ := voteToSkip_rest context room
  rw [(skip_run env context room playing).2]
  split
  · rw [(skipped_playlist env context (room.voteToSkip context) current).1, unmoved, mode]
  · exact unmoved

/-- A granted check is passed over. -/
theorem check_bind {α : Type} {role : Role} {permission : Permission}
    (granted : room.grants.granted role permission = true) (next : Unit → RoomM α) :
    (check role permission >>= next).outcome room = (next ()).outcome room ∧
      (check role permission >>= next).after room = (next ()).after room := by
  have passed := (check_passes room role permission).mpr granted
  rw [outcome_bind, after_bind, passed, check_after]
  exact ⟨rfl, rfl⟩

/-- The current item is queued already, goes on top, or does not fit. -/
theorem requeueCurrent_playlist :
    (∃ error, requeueCurrent.outcome room = .error error) ∧ ¬ room.playlist.CanRequeue ∨
      requeueCurrent.outcome room = .ok () ∧ room.playlist.CanRequeue ∧
        ∀ skipped, (Playlist.mk (some skipped) (requeueCurrent.after room).queue) =
          room.playlist.unskip skipped := by
  unfold requeueCurrent
  rw [outcome_get_bind, after_get_bind]
  cases present : room.currentSource with
  | none =>
      have idle : room.playlist = ⟨none, room.queue⟩ := congrArg (Playlist.mk · room.queue) present
      rw [idle]
      refine Or.inr ⟨rfl, ?_, fun _ => rfl⟩
      rintro _ ⟨⟩
  | some current =>
      have playing : room.playlist = ⟨some current, room.queue⟩ :=
        congrArg (Playlist.mk · room.queue) present
      have contained : room.queueContains current.toVideoId = true ↔
          room.playlist.Queued current.toVideoId := queueContains_iff room
      dsimp only
      by_cases queued : room.playlist.Queued current.toVideoId
      · rw [if_pos (contained.mpr queued)]
        rw [playing] at queued ⊢
        refine Or.inr ⟨rfl, ?_, fun skipped => (if_pos queued).symm⟩
        rintro _ ⟨⟩
        exact Or.inl queued
      · rw [if_neg fun inside => queued (contained.mp inside)]
        rw [playing] at queued ⊢
        rcases pushTop_cases room current with ⟨failed, _, full⟩ | ⟨passed, fits, after⟩
        · refine Or.inl ⟨failed, fun can => ?_⟩
          rcases can current rfl with inside | fits
          · exact queued inside
          · exact full fits
        · rw [passed, after]
          refine Or.inr ⟨rfl, ?_, fun skipped => (if_neg queued).symm⟩
          rintro _ ⟨⟩
          exact Or.inr fits

theorem processRequest_cases (request : RoomRequest) :
    (∃ error, (processRequest env request context).outcome room = .error error) ∧
        (requestPermission request.type).all (room.grants.granted context.role) = false ∧
        (processRequest env request context).after room = room ∨
      (requestPermission request.type).all (room.grants.granted context.role) = true ∧
        (processRequest env request context).outcome room =
          (handle env request context).outcome room ∧
        (processRequest env request context).after room =
          (handle env request context).after room := by
  have checked := checkSome_passes room context.role (requestPermission request.type)
  have stays := checkSome_after room context.role (requestPermission request.type)
  unfold processRequest
  rw [outcome_bind, after_bind]
  cases result : (checkSome context.role (requestPermission request.type)).outcome room with
  | ok value =>
      dsimp only
      rw [stays]
      exact Or.inr ⟨checked.mp result, rfl, rfl⟩
  | error error =>
      refine Or.inl ⟨⟨error, rfl⟩, ?_, stays⟩
      rw [← Bool.not_eq_true, ← checked, result]
      exact nofun

/-- The permissions the undo of a skip checks. -/
def undoSkipPermissions : List Permission := [.skip, .seek, .queueAdd, .queuePlayNow]

/-- The undo of a skip is refused for want of space, or does what it is for. -/
theorem undoSkip_run {event : RoomEvent} {skipped : QueueItem} {position : Number}
    (granted : ∀ permission ∈ undoSkipPermissions,
      room.grants.granted context.role permission = true)
    (video : event.additional.video = some skipped)
    (timed : event.additional.prevPosition = some position) :
    (∃ error, (undoSkip env event context).outcome room = .error error) ∧
        ¬ room.playlist.CanRequeue ∨
      (undoSkip env event context).outcome room = .ok () ∧ room.playlist.CanRequeue ∧
        ((undoSkip env event context).after room).playlist = room.playlist.unskip skipped ∧
        ((undoSkip env event context).after room).playbackPosition = position := by
  have skips := granted .skip (by decide)
  have seeks := granted .seek (by decide)
  have adds := granted .queueAdd (by decide)
  have plays := granted .queuePlayNow (by decide)
  unfold undoSkip
  rw [(check_bind room skips _).1, (check_bind room skips _).2, (check_bind room seeks _).1,
    (check_bind room seeks _).2, (check_bind room adds _).1, (check_bind room adds _).2,
    (check_bind room plays _).1, (check_bind room plays _).2]
  rw [outcome_bind, after_bind, video, timed]
  rcases requeueCurrent_playlist room with ⟨⟨error, failed⟩, full⟩ | ⟨passed, fits, requeued⟩
  · rw [failed]
    exact Or.inl ⟨⟨error, rfl⟩, full⟩
  · rw [passed]
    refine Or.inr ⟨rfl, fits, ?_, ?_⟩
    · rw [← requeued skipped]
      change Playlist.mk _ _ = _
      simp [onPlayback]
    · simp [onPlayback]

/-- An event that the room remembers is found again, or one that undo cannot tell from it. -/
theorem findRecentEvent_fields {event : RoomEvent} (member : event ∈ room.recentEvents) :
    ∃ found, room.findRecentEvent event.fields = some found ∧ found.fields = event.fields := by
  have present : (room.findRecentEvent event.fields).isSome = true := by
    rw [findRecentEvent, List.find?_isSome]
    exact ⟨event, member, decide_eq_true rfl⟩
  obtain ⟨found, search⟩ := Option.isSome_iff_exists.mp present
  refine ⟨found, search, ?_⟩
  rw [findRecentEvent] at search
  have same := List.find?_some search
  exact of_decide_eq_true same

/-- An undo is its event's operation; afterwards the event is forgotten. -/
theorem undo_run {echo : UndoEvent} {event : RoomEvent} (valid : validUndoEvent echo = true)
    (found : room.findRecentEvent echo = some event) :
    (undo env echo context).outcome room = (applyUndo env event context).outcome room ∧
      ((undo env echo context).after room).playlist =
        ((applyUndo env event context).after room).playlist ∧
      ((undo env echo context).after room).playbackPosition =
        ((applyUndo env event context).after room).playbackPosition := by
  unfold undo
  rw [valid, if_neg (by decide), outcome_get_bind, after_get_bind, found]
  dsimp only
  rw [outcome_bind, after_bind]
  cases (applyUndo env event context).outcome room with
  | error error => exact ⟨rfl, rfl, rfl⟩
  | ok value => exact ⟨rfl, rfl, rfl⟩

end Room

/-- The skip was announced by the event, so it went through. -/
def Skips (env : Env) (context : RoomRequestContext) (room : Room) (event : RoomEvent) : Prop :=
  ((Room.processRequest env .skip context).after room).published = .event event :: room.published

/-- What an announced skip did. -/
theorem Skips.cases {env : Env} {context : RoomRequestContext} {room : Room} {event : RoomEvent}
    {current : QueueItem} (skips : Skips env context room event)
    (playing : room.currentSource = some current) :
    (Room.processRequest env .skip context).after room =
        (room.voteToSkip context).skipped env context current ∧
      event ∈ ((room.voteToSkip context).skipped env context current).recentEvents ∧
      event.fields = ⟨.skip, none, some current, some (room.realPlaybackPosition env.now), none⟩ := by
  have silent : ((Room.processRequest env .skip context).after room).published ≠ room.published := by
    rw [skips]
    exact List.cons_ne_self _ _
  obtain ⟨_, voted, clock, _⟩ := room.voteToSkip_rest context
  have told := Room.dequeueNext_chronicle env (room.voteToSkip context)
  rw [voted] at told
  simp only [Room.chronicle, Prod.mk.injEq] at voted told
  rcases Room.processRequest_cases env context room .skip with
    ⟨_, _, after⟩ | ⟨_, _, after⟩
  · exact absurd (congrArg Room.published after) silent
  · have handled : (Room.processRequest env .skip context).after room =
        (Room.skip env context).after room := after
    rw [handled, (Room.skip_run env context room playing).2] at silent
    unfold Skips at skips
    rw [handled, (Room.skip_run env context room playing).2] at skips ⊢
    by_cases enough : (room.voteToSkip context).shouldSkip = true
    · rw [if_pos enough] at skips silent ⊢
      refine ⟨rfl, ?_⟩
      rcases Room.publishRoomEvent_cases context ((room.voteToSkip context).dequeueNext env) .skip
        (Room.skipNotes env current (room.voteToSkip context)) none with
        same | ⟨published, request, notes, _, told', member⟩
      · exact absurd ((congrArg Room.published same).trans told.1) silent
      · have same : published = event := by
          have both := told'.symm.trans skips
          rw [List.cons.injEq, ServerMessage.event.injEq] at both
          exact both.1
        subst same
        refine ⟨member, ?_⟩
        unfold RoomEvent.fields
        rw [request, notes, Room.skipNotes, clock]
        rfl
    · rw [if_neg enough] at silent
      exact absurd voted.1 silent

/-- The undo of the event, right after the skip, goes through and brings back the current item,
the queue and the position. -/
structure SkipUndone (env later : Env) (context undoer : RoomRequestContext) (event : RoomEvent)
    (room : Room) : Prop where
  passes : (Room.processRequest later (.undo event.fields) undoer).outcome
    ((Room.processRequest env .skip context).after room) = .ok ()
  source : ((Room.processRequest later (.undo event.fields) undoer).after
    ((Room.processRequest env .skip context).after room)).currentSource = room.currentSource
  queue : ((Room.processRequest later (.undo event.fields) undoer).after
    ((Room.processRequest env .skip context).after room)).queue = room.queue
  position : ((Room.processRequest later (.undo event.fields) undoer).after
    ((Room.processRequest env .skip context).after room)).playbackPosition =
      room.realPlaybackPosition env.now

section Undo

variable {env : Env} (later : Env) {context undoer : RoomRequestContext} {room : Room} {event : RoomEvent}
  {current : QueueItem}

/-- The undo of a remembered skip, whatever was done in between. -/
theorem undo_skip_iff {left : Room} {skipped : QueueItem} {position : Number} {list : Playlist}
    (member : event ∈ left.recentEvents)
    (fields : event.fields = ⟨.skip, none, some skipped, some position, none⟩)
    (permitted : ∀ permission ∈ Room.undoSkipPermissions,
      left.grants.granted undoer.role permission = true) :
    ((Room.undo later event.fields undoer).outcome left = .ok () ∧
        ((Room.undo later event.fields undoer).after left).playlist = list ∧
        ((Room.undo later event.fields undoer).after left).playbackPosition = position) ↔
      Room.validUndoEvent event.fields = true ∧ left.playlist.CanRequeue ∧
        left.playlist.unskip skipped = list := by
  cases valid : Room.validUndoEvent event.fields with
  | false =>
      refine iff_of_false ?_ fun both => absurd both.1 Bool.false_ne_true
      rintro ⟨passes, _⟩
      unfold Room.undo at passes
      rw [valid, if_pos (by decide)] at passes
      cases passes
  | true =>
      obtain ⟨found, search, same⟩ := left.findRecentEvent_fields member
      obtain ⟨passes, playlist, placed⟩ := Room.undo_run later undoer left valid search
      rw [fields] at same
      unfold RoomEvent.fields at same
      simp only [UndoEvent.mk.injEq] at same
      obtain ⟨type, _, video, timed, _⟩ := same
      have applied : Room.applyUndo later found undoer = Room.undoSkip later found undoer := by
        unfold Room.applyUndo
        rw [type]
      rw [passes, playlist, placed, applied]
      rcases left.undoSkip_run later undoer permitted video timed with
        ⟨⟨error, failed⟩, full⟩ | ⟨passed, fits, undone, placed⟩
      · refine iff_of_false ?_ fun both => full both.2.1
        rw [failed]
        exact fun both => nomatch both.1
      · rw [passed, undone, placed]
        exact ⟨fun holds => ⟨rfl, fits, holds.2.1⟩, fun holds => ⟨rfl, holds.2.2, rfl⟩⟩

end Undo

namespace Sample

/-- A room that plays a video, with a queue and one viewer. -/
def playsFirst (queueMode : QueueMode) (queue : List QueueItem) : RoomState :=
  RoomState.run [joins 1 "ann"] ⟨Room.new {
    currentSource := some (some { service := .youtube, id := "first" })
    queue := some queue
    queueMode := some queueMode } 0, 0⟩

/-- The event of the viewer's skip. -/
def skipEvent : RoomEvent where
  serial := 1
  request := .skip
  user := ⟨"ann", "ann", false, .none, .unregisteredUser⟩
  additional := { video := some { service := .youtube, id := "first" }, prevPosition := some 0 }

theorem playsFirst_reachable (queueMode : QueueMode) (queue : List QueueItem)
    (possible : RoomState.runs (fun _ _ => True) [joins 1 "ann"] ⟨Room.new {
      currentSource := some (some { service := .youtube, id := "first" })
      queue := some queue
      queueMode := some queueMode } 0, 0⟩ = true) :
    roomSystem.Reachable (playsFirst queueMode queue) :=
  ⟨_, .created _ 0, (RoomState.steps_run _ _ _ possible).of_restrict⟩

end Sample

/-- A vote to skip is an old one or that of a client with an id. -/
theorem Turn.votesToSkip {env : Env} {room : Room} {action : RoomAction} {contents : Contents}
    (turn : Turn env room action contents) :
    ∀ id ∈ contents.votesToSkip, id ∈ room.contents.votesToSkip ∨ id ≠ "" := by
  have cast : ∀ clientId, ∀ id ∈ (room.contents.voteToSkip clientId).votesToSkip,
      id ∈ room.contents.votesToSkip ∨ id ≠ "" := by
    intro clientId id voted
    unfold Contents.voteToSkip at voted
    split at voted
    · rename_i caster _
      split at voted
      · exact Or.inl voted
      · rename_i real
        dsimp only at voted
        split at voted
        · exact Or.inl (OrderedSet.mem_remove.mp voted).1
        · rcases OrderedSet.mem_add.mp voted with old | rfl
          · exact Or.inl old
          · exact Or.inr real
    · exact Or.inl voted
  have dropped : ∀ other : Contents, ∀ id ∈ other.advance.votesToSkip, id ∈ other.votesToSkip := by
    intro other id voted
    rw [(Contents.advance_frame other).1] at voted
    unfold Contents.clearSkipVotes at voted
    split at voted
    · cases voted
    · exact voted
  have same : contents.votesToSkip = room.contents.votesToSkip →
      ∀ id ∈ contents.votesToSkip, id ∈ room.contents.votesToSkip ∨ id ≠ "" := by
    intro votes id voted
    rw [votes] at voted
    exact Or.inl voted
  cases turn with
  | stayed => exact same rfl
  | reordered _ queue perm => exact same rfl
  | joined info reconnect context => exact same rfl
  | left context clientId named present =>
      intro id voted
      unfold Contents.leave at voted
      dsimp only at voted
      split at voted
      · exact Or.inl (OrderedSet.mem_remove.mp voted).1
      · exact Or.inl voted
  | votedToSkip context playing may short => exact cast context.clientId
  | skipped context playing may enough =>
      exact fun id voted => cast context.clientId id (dropped _ id voted)
  | advanced queue perm due => exact fun id voted => Or.inl (dropped _ id voted)
  | added request context videos prevQueue saved fits counted => exact same rfl
  | removed video context => exact same rfl
  | voted video add context clientId named queued may =>
      exact same (Contents.vote_frame room.contents video add clientId).1
  | configured settings context queueMode enableVoteSkip => exact same rfl
  | playedNow video context played plays fits fresh =>
      exact same ((Contents.setSource_votes _ _).1.trans (Contents.pushCurrent_frame _).1)
  | playedQueued video context plays queued =>
      exact same ((Contents.setSource_votes _ _).1.trans (Contents.pushCurrent_frame _).1)
  | evicted video context accepts queued => exact same rfl
  | undidSkip echo context video sets kind fits =>
      exact same ((Contents.setSource_votes _ _).1.trans (Contents.requeueCurrent_frame _).1)
  | requeued echo context kind fits => exact same (Contents.requeueCurrent_frame _).1
  | undidAdd echo context video => exact same rfl
  | undidFirst echo context sets => exact same rfl
  | undidRemove echo context index video kind fits => exact same rfl
  | restored context videos saved fits => exact same rfl
  | discarded context => exact same rfl

/-- Only clients with an id vote to skip. -/
theorem voters_named {state : RoomState} (reachable : roomSystem.Reachable state) :
    "" ∉ state.room.votesToSkip := by
  have invariant : roomSystem.Inductive fun state => "" ∉ state.room.votesToSkip := by
    refine ⟨?_, ?_⟩
    · intro start initial voted
      have none : start.room.contents.votesToSkip = [] :=
        congrArg Prod.snd (RoomState.initial_ballots initial)
      change "" ∈ start.room.contents.votesToSkip at voted
      rw [none] at voted
      cases voted
    · rintro before label after unnamed ⟨_, _, rfl⟩ voted
      rcases (RoomAction.apply_turn label.env before.room label.action).votesToSkip "" voted with
        old | named
      · exact unnamed old
      · exact named rfl
  exact invariant.of_reachable reachable

/-- A withdrawn vote leaves the current item and the queue alone just when the skip is refused,
nothing plays, the votes that are left do not suffice, or the skip that they bring about leaves
everything as it is. -/
theorem withdrawal_keeps_iff {state : RoomState} (reachable : roomSystem.Reachable state) {env : Env}
    {context : RoomRequestContext} {id : ClientId} (voting : state.room.enableVoteSkip = true)
    (named : context.clientId = some id) (voted : id ∈ state.room.votesToSkip) :
    (((Room.processRequest env .skip context).after state.room).currentSource =
        state.room.currentSource ∧
      ((Room.processRequest env .skip context).after state.room).queue = state.room.queue) ↔
      state.room.grants.granted context.role .skip = false ∨
        (state.room.votesToSkip.remove id).length <
          Room.voteSkipThreshold state.room.countEligibleVoters ∨
        ∀ current, state.room.currentSource = some current →
          Playlist.Fixed state.room.queueMode current state.room.queue := by
  have real : id ≠ "" := by
    rintro rfl
    exact voters_named reachable voted
  generalize state.room = room at *
  have withdrawn : room.voteToSkip context = room.toggleSkipVote id := by
    unfold Room.voteToSkip
    rw [voting, named]
    exact if_neg real
  have enough : (room.voteToSkip context).shouldSkip = true ↔
      Room.voteSkipThreshold room.countEligibleVoters ≤ (room.votesToSkip.remove id).length := by
    have left : (room.toggleSkipVote id).votesToSkip = room.votesToSkip.remove id := if_pos voted
    have same : (room.toggleSkipVote id).countEligibleVoters = room.countEligibleVoters := rfl
    have on : (room.toggleSkipVote id).enableVoteSkip = true := voting
    rw [withdrawn, Room.shouldSkip, on, left, same, Bool.not_true, Bool.false_or, decide_eq_true_eq]
  have kept : ∀ after : Room, after.playlist = room.playlist ↔
      after.currentSource = room.currentSource ∧ after.queue = room.queue := by
    intro after
    unfold Room.playlist
    rw [Playlist.mk.injEq]
  rw [← kept]
  rcases Room.processRequest_cases env context room .skip with
    ⟨_, refused, after⟩ | ⟨granted, _, after⟩
  · rw [after]
    exact iff_of_true rfl (Or.inl refused)
  · have granted : room.grants.granted context.role .skip = true := granted
    rw [after, granted]
    cases playing : room.currentSource with
    | none =>
        have idle : (Room.skip env context).after room = room := by
          unfold Room.skip
          rw [after_get_bind, playing]
          rfl
        refine iff_of_true (congrArg Room.playlist idle) (Or.inr (Or.inr ?_))
        rintro _ ⟨⟩
    | some current =>
        have fixed : (∀ item, some current = some item →
            Playlist.Fixed room.queueMode item room.queue) ↔
              Playlist.Fixed room.queueMode current room.queue :=
          ⟨fun all => all current rfl, by rintro fixed _ ⟨⟩; exact fixed⟩
        have moved : ((Room.handle env .skip context).after room).playlist = _ :=
          Room.skip_playlist env context room playing
        rw [moved, fixed]
        by_cases met : (room.voteToSkip context).shouldSkip = true
        · have before : room.playlist = ⟨some current, room.queue⟩ :=
            congrArg (Playlist.mk · room.queue) playing
          have many := Nat.not_lt.mpr (enough.mp met)
          rw [if_pos met, before, Playlist.advance_eq_iff]
          simp [many]
        · rw [if_neg met]
          refine iff_of_true rfl (Or.inr (Or.inl ?_))
          exact Nat.not_le.mp fun many => met (enough.mpr many)

namespace Sample

/-- A vote to skip, or its withdrawal. -/
def asksSkip (now : Int) (id : ClientId) : RoomLabel := ⟨env now "first", .request .skip (guest id)⟩

def leaves (now : Int) (id : ClientId) : RoomLabel := ⟨env now "first", .request .leave (guest id)⟩

/-- Two of five viewers vote to skip a video. -/
def twoVotes : List RoomLabel :=
  [joins 1 "ann", joins 2 "ben", joins 3 "cid", joins 4 "dan", joins 5 "eve", playsNow 6 "first",
    asksSkip 7 "ann", asksSkip 8 "ben"]

/-- The other three leave. -/
def threeLeave : List RoomLabel := [leaves 9 "cid", leaves 10 "dan", leaves 11 "eve"]

/-- A room in which skips are voted on, after these steps. -/
def voting (labels : List RoomLabel) : RoomState :=
  RoomState.run labels ⟨Room.new { enableVoteSkip := some true } 0, 0⟩

theorem voting_reachable {labels : List RoomLabel} (possible : RoomState.runs (fun _ _ => True) labels
    ⟨Room.new { enableVoteSkip := some true } 0, 0⟩ = true) : roomSystem.Reachable (voting labels) :=
  ⟨_, .created { enableVoteSkip := some true } 0, (RoomState.steps_run _ _ _ possible).of_restrict⟩

end Sample

/-- With two viewers left one vote is enough, so the withdrawal of the other skips. -/
theorem withdrawal_skips : roomSystem.Reachable (Sample.voting (Sample.twoVotes ++ Sample.threeLeave)) ∧
    "ann" ∈ (Sample.voting (Sample.twoVotes ++ Sample.threeLeave)).room.votesToSkip ∧
    (Sample.voting (Sample.twoVotes ++ Sample.threeLeave)).room.enableVoteSkip = true ∧
    (Sample.voting (Sample.twoVotes ++ Sample.threeLeave)).room.currentSource.isSome = true ∧
    ((Room.processRequest (Sample.env 12 "first") .skip (Sample.guest "ann")).after
      (Sample.voting (Sample.twoVotes ++ Sample.threeLeave)).room).currentSource = none :=
  ⟨Sample.voting_reachable (by decide +kernel), by decide +kernel, by decide +kernel,
    by decide +kernel, by decide +kernel⟩

/-- With five viewers it does not. -/
theorem withdrawal_keeps_early :
    ((Room.processRequest (Sample.env 12 "first") .skip (Sample.guest "ann")).after
        (Sample.voting Sample.twoVotes).room).currentSource =
      (Sample.voting Sample.twoVotes).room.currentSource ∧
    ((Room.processRequest (Sample.env 12 "first") .skip (Sample.guest "ann")).after
        (Sample.voting Sample.twoVotes).room).queue = (Sample.voting Sample.twoVotes).room.queue := by
  have reachable : roomSystem.Reachable (Sample.voting Sample.twoVotes) :=
    Sample.voting_reachable (by decide +kernel)
  have voting : (Sample.voting Sample.twoVotes).room.enableVoteSkip = true := by decide +kernel
  have voted : "ann" ∈ (Sample.voting Sample.twoVotes).room.votesToSkip := by decide +kernel
  refine (withdrawal_keeps_iff reachable voting rfl voted).mpr (Or.inr (Or.inl ?_))
  decide +kernel

end OpenTogetherTube
