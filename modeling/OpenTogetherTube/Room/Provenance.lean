import OpenTogetherTube.Lib.Tagged
import OpenTogetherTube.Room.Skips

/-!
# Where the items of a room come from

Each item of a room has an origin: the add request that put it there, told by the serial
number of its event, or none. The room does not see origins; they move with the items as the
queue, the skips and the undos move them. The undo of an add is judged by them: whether what
it takes away is what the event's request had added.
-/

namespace OpenTogetherTube

open Lib Lib.Handler

/-- The add request an item comes from, by its event's serial number. -/
abbrev Origin := Option Nat

/-- The videos of a room with their origins. -/
structure Provenance where
  source : Option (VideoId × Origin) := none
  queue : List (VideoId × Origin) := []
deriving DecidableEq

namespace Provenance

/-- The origins are those of the room's videos. -/
structure Describes (items : Provenance) (contents : Contents) : Prop where
  source : items.source.map Prod.fst = contents.source
  queue : items.queue.map Prod.fst = contents.queue

/-- The first queued item becomes current. -/
def takeNext (items : Provenance) : Provenance :=
  match items.queue with
  | item :: rest => ⟨some item, rest⟩
  | [] => ⟨none, []⟩

/-- `dequeueNext`. -/
def advance (mode : QueueMode) (items : Provenance) : Provenance :=
  match items.source, mode with
  | some _, .dj => items
  | some item, .loop => { items with queue := items.queue ++ [item] }.takeNext
  | _, _ => items.takeNext

/-- A queued video is removed. -/
def remove (video : VideoId) (items : Provenance) : Provenance :=
  { items with queue := Tagged.remove video items.queue }

/-- The current item goes to the top of the queue. -/
def pushCurrent (items : Provenance) : Provenance :=
  { items with queue := items.source.toList ++ items.queue }

/-- The same, unless it is queued. -/
def requeueCurrent (items : Provenance) : Provenance :=
  match items.source with
  | some item => if item.1 ∈ items.queue.map Prod.fst then items else items.pushCurrent
  | none => items

/-- A queued video becomes current, and the current item goes on top. -/
def playQueued (video : VideoId) (items : Provenance) : Provenance :=
  { (items.remove video).pushCurrent with source := Tagged.lookup video items.queue }

/-- What the undo of an event does to the items. An item that comes back has the origin it had
when it was taken away. -/
def undo (taken : Nat → Origin) (event : RoomEvent) (items : Provenance) : Provenance :=
  match event.request.type with
  | .skip =>
      match event.additional.video, event.additional.prevPosition with
      | some video, some _ =>
          { items.requeueCurrent with source := some (video.toVideoId, taken event.serial) }
      | _, _ => items.requeueCurrent
  | .add =>
      match event.request.video, items.queue.isEmpty with
      | some video, false => items.remove video.toVideoId
      | _, _ => { items with source := none }
  | .remove =>
      match event.additional.video, event.additional.queueIdx.bind Number.asIndex with
      | some video, some index =>
          { items with
            queue := items.queue.insertIdx index (video.toVideoId, taken event.serial) }
      | _, _ => items
  | _ => items

end Provenance

/-- What the undo of an event does to the contents of a room. -/
def Contents.undo (event : RoomEvent) (contents : Contents) : Contents :=
  match event.request.type with
  | .skip =>
      match event.additional.video, event.additional.prevPosition with
      | some video, some _ => contents.requeueCurrent.setSource (some video.toVideoId)
      | _, _ => contents.requeueCurrent
  | .add =>
      match event.request.video, contents.queue.isEmpty with
      | some video, false => contents.remove video.toVideoId
      | _, _ => contents.setSource none
  | .remove =>
      match event.additional.video, event.additional.queueIdx.bind Number.asIndex with
      | some video, some index =>
          { contents with queue := contents.queue.insertIdx index video.toVideoId }
      | _, _ => contents
  | _ => contents

namespace Provenance.Describes

variable {items : Provenance} {contents : Contents}

variable (describes : items.Describes contents)

include describes

theorem takeNext :
    items.takeNext.Describes contents.takeNext := by
  obtain ⟨source, queue⟩ := describes
  unfold Provenance.takeNext Contents.takeNext
  rw [← queue]
  cases queued : items.queue with
  | nil =>
      rw [queued] at queue
      change Describes ⟨none, []⟩ (if contents.source.isSome then contents.setSource none else contents)
      split
      · exact ⟨rfl, queue⟩
      · rename_i idle
        rw [Bool.not_eq_true, Option.isSome_eq_false_iff, Option.isNone_iff_eq_none] at idle
        exact ⟨idle.symm, queue⟩
  | cons item rest => exact ⟨rfl, rfl⟩

omit describes in
/-- Votes are no items. -/
theorem of_eq {other : Contents} (describes : items.Describes contents)
    (source : other.source = contents.source) (queue : other.queue = contents.queue) :
    items.Describes other :=
  ⟨describes.source.trans source.symm, describes.queue.trans queue.symm⟩

theorem advance :
    (items.advance contents.queueMode).Describes contents.advance := by
  have cleared : contents.clearSkipVotes.source = contents.source ∧
      contents.clearSkipVotes.queue = contents.queue ∧
      contents.clearSkipVotes.queueMode = contents.queueMode := by
    unfold Contents.clearSkipVotes
    split <;> exact ⟨rfl, rfl, rfl⟩
  obtain ⟨source, queue, mode⟩ := cleared
  have describes := describes.of_eq source queue
  unfold Provenance.advance Contents.advance
  dsimp only
  rw [← mode]
  generalize contents.clearSkipVotes = entry at *
  have playing := describes.source
  cases present : items.source with
  | none =>
      rw [present] at playing
      rw [← playing]
      exact describes.takeNext
  | some item =>
      rw [present] at playing
      rw [← playing]
      cases entry.queueMode with
      | manual => exact describes.takeNext
      | vote => exact describes.takeNext
      | dj => exact ⟨congrArg (Option.map Prod.fst) present, describes.queue⟩
      | loop =>
          refine Describes.takeNext ⟨rfl, ?_⟩
          · change (items.queue ++ [item]).map Prod.fst = entry.queue ++ [item.1]
            rw [List.map_append, describes.queue]
            rfl

theorem remove (video : VideoId) :
    (items.remove video).Describes (contents.remove video) := by
  refine ⟨describes.source, ?_⟩
  change (Tagged.remove video items.queue).map Prod.fst = contents.queue.erase video
  rw [Tagged.remove_values, describes.queue]

theorem pushCurrent :
    items.pushCurrent.Describes contents.pushCurrent := by
  have playing := describes.source
  unfold Provenance.pushCurrent Contents.pushCurrent
  rw [← playing]
  cases present : items.source with
  | none =>
      rw [present] at playing
      exact ⟨playing, describes.queue⟩
  | some item =>
      refine ⟨rfl, ?_⟩
      change item.1 :: items.queue.map Prod.fst = item.1 :: contents.queue
      rw [describes.queue]

theorem requeueCurrent :
    items.requeueCurrent.Describes contents.requeueCurrent := by
  unfold Provenance.requeueCurrent Contents.requeueCurrent
  rw [← describes.source]
  cases present : items.source with
  | none => exact describes
  | some item =>
      dsimp only [Option.map_some]
      rw [← describes.queue]
      split
      · exact describes
      · exact describes.pushCurrent

theorem setSource (source : Option (VideoId × Origin)) :
    Describes { items with source } (contents.setSource (source.map Prod.fst)) :=
  ⟨rfl, describes.queue⟩

theorem assignQueue (queue : List (VideoId × Origin)) :
    Describes { items with queue } { contents with queue := queue.map Prod.fst } :=
  ⟨describes.source, rfl⟩

theorem undo (taken : Nat → Origin) (event : RoomEvent) :
    (items.undo taken event).Describes (contents.undo event) := by
  unfold Provenance.undo Contents.undo
  cases event.request.type with
  | skip =>
      dsimp only
      split
      · exact describes.requeueCurrent.setSource (some _)
      · exact describes.requeueCurrent
  | add =>
      have empty : items.queue.isEmpty = contents.queue.isEmpty := by
        rw [← describes.queue, List.isEmpty_map]
      dsimp only
      rw [empty]
      split
      · exact describes.remove _
      · exact describes.setSource none
  | remove =>
      dsimp only
      split
      · refine ⟨describes.source, ?_⟩
        dsimp only
        rw [List.map_insertIdx, describes.queue]
      · exact describes
  | _ => exact describes

end Provenance.Describes

namespace Room

/-- A handler that is refused leaves the contents alone, and one that returns makes them what
is said. -/
def Settles (done : Contents) (handler : RoomM Unit) (room : Room) : Prop :=
  match handler.outcome room with
  | .ok _ => (handler.after room).contents = done
  | .error _ => (handler.after room).contents = room.contents

namespace Settles

variable {room : Room} {done : Contents}

theorem throw (error : RoomError) : Settles done (MonadExcept.throw error : RoomM Unit) room :=
  rfl

theorem pure (value : Unit) : Settles room.contents (Pure.pure value : RoomM Unit) room :=
  rfl

theorem of_modify {update : Room → Room} (same : (update room).contents = done) :
    Settles done (modify update : RoomM Unit) room :=
  same

theorem get_bind {next : Room → RoomM Unit} (tail : Settles done (next room) room) :
    Settles done (get >>= next) room :=
  tail

theorem check {role : Role} {permission : Permission} {next : Unit → RoomM Unit}
    (tail : Settles done (next ()) room) :
    Settles done (Room.check role permission >>= next) room := by
  unfold Settles
  rw [outcome_bind, after_bind, check_after]
  cases (Room.check role permission).outcome room with
  | ok value => exact tail
  | error error => rfl

/-- A part that returned, and what follows it. -/
theorem bind_ok {α : Type} {first : RoomM α} {next : α → RoomM Unit} {value : α}
    (passed : first.outcome room = .ok value)
    (tail : (next value).outcome (first.after room) = .ok ())
    (same : ((next value).after (first.after room)).contents = done) :
    Settles done (first >>= next) room := by
  unfold Settles
  rw [outcome_bind, after_bind, passed]
  dsimp only
  rw [tail]
  exact same

/-- A part that was refused. -/
theorem bind_error {α : Type} {first : RoomM α} {next : α → RoomM Unit} {error : RoomError}
    (failed : first.outcome room = .error error) (same : first.after room = room) :
    Settles done (first >>= next) room := by
  unfold Settles
  rw [outcome_bind, after_bind, failed]
  exact congrArg contents same

/-- A handler that is none of the contents' business. -/
theorem steady {handler : RoomM Unit} (kept : handler.Keeps Steady room) :
    Settles room.contents handler room := by
  unfold Settles
  split <;> exact Steady.contents kept

/-- What follows on a handler and is none of the contents' business. -/
theorem bind_modify {handler : RoomM Unit} {update : Room → Room}
    (settles : Settles done handler room) (same : ∀ other, (update other).contents = other.contents) :
    Settles done (handler >>= fun _ => modify update) room := by
  unfold Settles at *
  rw [outcome_bind, after_bind]
  cases result : handler.outcome room with
  | ok value =>
      rw [result] at settles
      exact (same _).trans settles
  | error error =>
      rw [result] at settles
      exact settles

end Settles

section Undo

variable (env : Env) (context : RoomRequestContext) (room : Room)

theorem removeFromQueue_settles (video : VideoId) :
    Settles (room.contents.remove video) (removeFromQueue video context) room := by
  unfold removeFromQueue
  refine .get_bind ?_
  split
  · rcases evict_cases room video with
      ⟨failed, same, _⟩ | ⟨index, item, passed, after, _, _, erased, _⟩
    · exact .bind_error failed same
    · refine .bind_ok passed rfl ?_
      rw [after, after_modify_bind, after_modify,
        (steady_messages.publishRoomEvent _ _ _ _ _).contents]
      unfold Contents.remove
      rw [← erased]
      rfl
  · exact .throw _

theorem undoSkip_settles {event : RoomEvent} (kind : event.request.type = .skip) :
    Settles (room.contents.undo event) (undoSkip env event context) room := by
  unfold undoSkip Contents.undo
  rw [kind]
  refine .check (.check (.check (.check ?_)))
  rcases requeueCurrent_cases room with ⟨⟨_, failed⟩, after⟩ | ⟨passed, _, after⟩
  · exact .bind_error failed after
  · dsimp only
    cases event.additional.video with
    | none => exact .bind_ok passed rfl after
    | some video =>
        cases event.additional.prevPosition with
        | none => exact .bind_ok passed rfl after
        | some position =>
            refine .bind_ok passed rfl ?_
            rw [after_modify, takeSource_contents, after]

theorem undoAdd_settles {event : RoomEvent} (kind : event.request.type = .add) :
    Settles (room.contents.undo event) (undoAdd env event context) room := by
  have empty : room.contents.queue.isEmpty = room.queue.isEmpty := List.isEmpty_map
  unfold undoAdd Contents.undo
  rw [kind]
  dsimp only
  rw [empty]
  refine .check (.get_bind ?_)
  have dropped : Settles (room.contents.setSource none) (do
      Room.check context.role .skip
      modify (onPlayback (Playback.assignCurrentSource none env.now))) room :=
    .check (.of_modify (dropSource_contents room env.now))
  cases event.request.video with
  | none => exact dropped
  | some video =>
      cases room.queue.isEmpty with
      | true => exact dropped
      | false => exact .check (removeFromQueue_settles context room video.toVideoId)

theorem insertAt_settles (video : QueueItem) (index : Number) :
    Settles (match index.asIndex with
      | some index => { room.contents with
          queue := room.contents.queue.insertIdx index video.toVideoId }
      | none => room.contents) (insertAt video index) room := by
  unfold insertAt
  refine .get_bind ?_
  cases index.asIndex with
  | none => exact .throw _
  | some place =>
      dsimp only
      split
      · exact .throw _
      · split
        · exact .throw _
        · refine .of_modify ?_
          rw [assignQueue_contents, List.map_insertIdx]
          rfl

theorem applyUndo_settles (event : RoomEvent) :
    Settles (room.contents.undo event) (applyUndo env event context) room := by
  have still : Settles room.contents (Pure.pure () : RoomM Unit) room := .pure ()
  unfold applyUndo
  cases kind : event.request.type with
  | skip => exact undoSkip_settles env context room kind
  | add => exact undoAdd_settles env context room kind
  | seek =>
      have same : room.contents.undo event = room.contents := by
        unfold Contents.undo
        rw [kind]
      rw [same]
      dsimp only
      cases event.additional.prevPosition with
      | none => exact still
      | some position => exact .check (.steady (seek_steady env context room _))
  | remove =>
      unfold Contents.undo
      rw [kind]
      refine .check (.check ?_)
      cases event.additional.video with
      | none => exact still
      | some video =>
          cases event.additional.queueIdx with
          | none => exact still
          | some index =>
              have inserted := insertAt_settles room video index
              rw [Option.bind_some]
              cases place : index.asIndex with
              | none =>
                  rw [place] at inserted
                  exact inserted
              | some _ =>
                  rw [place] at inserted
                  exact inserted
  | _ =>
      have same : room.contents.undo event = room.contents := by
        unfold Contents.undo
        rw [kind]
      rw [same]
      exact still

/-- An accepted undo applies the recorded event, a refused one nothing. -/
theorem undo_settles (echo : UndoEvent) :
    Settles (((room.undoneEvent echo).map room.contents.undo).getD room.contents)
      (undo env echo context) room := by
  unfold undo undoneEvent
  cases valid : validUndoEvent echo with
  | false => exact .throw _
  | true =>
      change Settles _ (get >>= fun room => _) room
      refine .get_bind ?_
      rw [if_pos rfl]
      cases room.findRecentEvent echo with
      | none => exact .throw _
      | some event => exact .bind_modify (applyUndo_settles env context room event) fun _ => rfl

theorem undo_found {echo : UndoEvent} {value : Unit}
    (accepted : (undo env echo context).outcome room = .ok value) :
    ∃ event, room.undoneEvent echo = some event := by
  unfold undo at accepted
  unfold undoneEvent
  cases valid : validUndoEvent echo with
  | false =>
      rw [valid] at accepted
      cases accepted
  | true =>
      rw [valid, if_neg (by decide), outcome_get_bind] at accepted
      rw [if_pos rfl]
      cases found : room.findRecentEvent echo with
      | none =>
          rw [found] at accepted
          cases accepted
      | some event => exact ⟨event, rfl⟩

end Undo

/-- The origin of what a request adds: its event, if it announces one. -/
def announces (context : RoomRequestContext) (room : Room) : Origin :=
  (context.clientId.bind room.getUserInfo).map fun _ => room.nextSerial

end Room

theorem Contents.voteToSkip_items (contents : Contents) (clientId : Option ClientId) :
    (contents.voteToSkip clientId).sets = contents.sets ∧
      (contents.voteToSkip clientId).source = contents.source ∧
      (contents.voteToSkip clientId).queue = contents.queue ∧
      (contents.voteToSkip clientId).queueMode = contents.queueMode := by
  unfold voteToSkip
  split
  · split <;> exact ⟨rfl, rfl, rfl, rfl⟩
  · exact ⟨rfl, rfl, rfl, rfl⟩

/-- Nor is a vote for a queued video. -/
theorem Contents.vote_items (contents : Contents) (video : VideoId) (add : Bool)
    (clientId : ClientId) :
    (contents.vote video add clientId).sets = contents.sets ∧
      (contents.vote video add clientId).source = contents.source ∧
      (contents.vote video add clientId).queue = contents.queue := by
  unfold vote
  split
  · exact ⟨rfl, rfl, rfl⟩
  · split <;> exact ⟨rfl, rfl, rfl⟩

/-- The action is an undo. -/
def RoomAction.isUndo : RoomAction → Bool
  | .request (.undo _) _ => true
  | _ => false

/-- What an action does to the items of a room: what `Turn` says of their videos. -/
inductive Passage (env : Env) (room : Room) (taken : Nat → Origin) (items : Provenance) :
    RoomAction → Provenance → Prop
  | kept (action : RoomAction) (other : action.isUndo = false)
      (unset : (action.apply env room).contents.sets = room.contents.sets) :
      Passage env room taken items action items
  | reordered (action : RoomAction) (queue : List (VideoId × Origin)) (perm : queue.Perm items.queue)
      (other : action.isUndo = false)
      (unset : (action.apply env room).contents.sets = room.contents.sets) :
      Passage env room taken items action { items with queue }
  | skipped (context : RoomRequestContext) (playing : room.contents.source.isSome = true)
      (may : room.grants.granted context.role .skip = true)
      (enough : (room.voteToSkip context).shouldSkip = true) :
      Passage env room taken items (.request .skip context) (items.advance room.queueMode)
  | advanced (queue : List (VideoId × Origin)) (perm : queue.Perm (items.advance room.queueMode).queue)
      (due : (room.settlePlayback env).wantsNext env.now = true) :
      Passage env room taken items .update { items.advance room.queueMode with queue }
  | added (request : AddRequest) (context : RoomRequestContext) (videos : List VideoId) :
      Passage env room taken items (.request (.add request) context)
        { items with queue := items.queue ++ videos.map (·, room.announces context) }
  | removed (video : VideoId) (context : RoomRequestContext) :
      Passage env room taken items (.request (.remove video) context) (items.remove video)
  | playedNow (video : VideoAdd) (context : RoomRequestContext) (played : VideoId)
      (plays : room.playsNow env context video = true)
      (fresh : video.toVideoId ∉ room.contents.queue) :
      Passage env room taken items (.request (.playNow video) context)
        { items.pushCurrent with source := some (played, none) }
  | playedQueued (video : VideoAdd) (context : RoomRequestContext)
      (plays : room.playsNow env context video = true)
      (queued : video.toVideoId ∈ room.contents.queue) :
      Passage env room taken items (.request (.playNow video) context)
        (items.playQueued video.toVideoId)
  | evicted (video : VideoAdd) (context : RoomRequestContext)
      (accepts : room.acceptsPlayNow env context video = true)
      (queued : video.toVideoId ∈ room.contents.queue) :
      Passage env room taken items (.request (.playNow video) context)
        (items.remove video.toVideoId)
  | undone (echo : UndoEvent) (context : RoomRequestContext) (event : RoomEvent)
      (found : room.undoneEvent echo = some event)
      (accepted : (Room.processRequest env (.undo echo) context).outcome room = .ok ()) :
      Passage env room taken items (.request (.undo echo) context) (items.undo taken event)
  | refused (echo : UndoEvent) (context : RoomRequestContext)
      (refused : (Room.processRequest env (.undo echo) context).outcome room ≠ .ok ()) :
      Passage env room taken items (.request (.undo echo) context) items
  | restored (context : RoomRequestContext) (videos : List VideoId) :
      Passage env room taken items (.request (.restoreQueue false) context)
        { items with queue := items.queue ++ videos.map (·, none) }

namespace Passage

variable {env : Env} {room : Room} {taken : Nat → Origin} {items : Provenance}

/-- Every turn of the videos but that of an undo carries the origins along. -/
theorem of_turn {action : RoomAction} {contents : Contents} (turn : Turn env room action contents)
    (reached : contents = (action.apply env room).contents) (other : action.isUndo = false)
    (describes : items.Describes room.contents) :
    ∃ after, Passage env room taken items action after ∧ after.Describes contents := by
  have same : contents.sets = room.contents.sets → contents.source = room.contents.source →
      contents.queue = room.contents.queue →
      ∃ after, Passage env room taken items action after ∧ after.Describes contents := by
    intro sets source queue
    rw [reached] at sets
    exact ⟨items, .kept action other sets, describes.of_eq source queue⟩
  have appended : ∀ (videos : List VideoId) (origin : Origin),
      (items.queue ++ videos.map (·, origin)).map Prod.fst = room.contents.queue ++ videos := by
    intro videos origin
    rw [List.map_append, describes.queue, List.map_map]
    exact congrArg _ (List.map_id videos)
  have without : ∀ video : VideoId, (items.remove video).Describes
      { room.contents with queue := room.contents.queue.erase video } :=
    fun video => ⟨describes.source, (describes.remove video).queue⟩
  cases turn with
  | stayed => exact same rfl rfl rfl
  | reordered _ queue perm =>
      rw [← describes.queue] at perm
      obtain ⟨reordered, perm, values⟩ := Tagged.exists_perm perm rfl
      refine ⟨_, .reordered _ reordered perm other (reached ▸ rfl), ?_⟩
      exact ⟨describes.source, values⟩
  | joined => exact same rfl rfl rfl
  | left => exact same rfl rfl rfl
  | votedToSkip context =>
      obtain ⟨sets, source, queue, _⟩ := room.contents.voteToSkip_items context.clientId
      exact same sets source queue
  | skipped context playing may enough =>
      obtain ⟨_, source, queue, mode⟩ := room.contents.voteToSkip_items context.clientId
      refine ⟨_, .skipped context playing may enough, ?_⟩
      have moved := (describes.of_eq source queue).advance
      rw [mode] at moved
      exact moved
  | advanced queue perm due =>
      have moved := describes.advance
      rw [← moved.queue] at perm
      obtain ⟨reordered, moves, rfl⟩ := Tagged.exists_perm perm rfl
      exact ⟨_, .advanced reordered moves due, moved.assignQueue reordered⟩
  | added request context videos prevQueue saved fits counted =>
      refine ⟨_, .added request context videos, ⟨describes.source, ?_⟩⟩
      exact appended videos (room.announces context)
  | removed video context => exact ⟨_, .removed video context, describes.remove video⟩
  | voted video add context clientId named queued may =>
      obtain ⟨sets, source, queue⟩ := room.contents.vote_items video add clientId
      exact same sets source queue
  | configured => exact same rfl rfl rfl
  | playedNow video context played plays fits fresh =>
      exact ⟨_, .playedNow video context played plays fresh,
        describes.pushCurrent.setSource (some (played, none))⟩
  | playedQueued video context plays queued =>
      refine ⟨_, .playedQueued video context plays queued, ?_⟩
      have member := queued
      rw [← describes.queue] at member
      obtain ⟨item, found⟩ := Tagged.exists_lookup member
      have pushed := (without video.toVideoId).pushCurrent.setSource (some item)
      rw [Option.map_some, Tagged.lookup_value found, ← found] at pushed
      exact pushed
  | evicted video context accepts queued =>
      exact ⟨_, .evicted video context accepts queued, without video.toVideoId⟩
  | restored context videos saved fits =>
      exact ⟨_, .restored context videos, ⟨describes.source, appended videos none⟩⟩
  | discarded => exact same rfl rfl rfl
  | undidSkip | requeued | undidAdd | undidFirst | undidRemove => cases other

/-- The undo of a recorded event, or one that was refused. -/
theorem of_undo {echo : UndoEvent} {context : RoomRequestContext}
    (describes : items.Describes room.contents) :
    ∃ after, Passage env room taken items (.request (.undo echo) context) after ∧
      after.Describes ((Room.processRequest env (.undo echo) context).after room).contents := by
  have settles := Room.undo_settles env context room echo
  unfold Room.Settles at settles
  rcases Room.processRequest_cases env context room (.undo echo) with
    ⟨⟨error, failed⟩, _, after⟩ | ⟨_, handled, after⟩
  · refine ⟨items, .refused echo context (by rw [failed]; exact nofun), ?_⟩
    rw [after]
    exact describes
  · have handled : (Room.processRequest env (.undo echo) context).outcome room =
        (Room.undo env echo context).outcome room := handled
    have after : (Room.processRequest env (.undo echo) context).after room =
        (Room.undo env echo context).after room := after
    rw [after]
    cases result : (Room.undo env echo context).outcome room with
    | error error =>
        rw [result] at handled settles
        refine ⟨items, .refused echo context (by rw [handled]; exact nofun), ?_⟩
        rw [show ((Room.undo env echo context).after room).contents = _ from settles]
        exact describes
    | ok value =>
        obtain ⟨event, found⟩ := Room.undo_found env context room result
        rw [result] at handled settles
        rw [found] at settles
        have settles : ((Room.undo env echo context).after room).contents =
          room.contents.undo event := settles
        rw [settles]
        exact ⟨_, .undone echo context event found handled, describes.undo taken event⟩

/-- Every action carries the origins along. -/
theorem exists_passage (action : RoomAction) (describes : items.Describes room.contents) :
    ∃ after, Passage env room taken items action after ∧
      after.Describes (action.apply env room).contents := by
  cases undo : action.isUndo with
  | false => exact of_turn (RoomAction.apply_turn env room action) rfl undo describes
  | true =>
      unfold RoomAction.isUndo at undo
      split at undo
      · exact of_undo describes
      · cases undo

end Passage

/-- A room with the origins of its items, and of those that skips and removals took away. -/
structure Traced where
  state : RoomState
  items : Provenance
  /-- The origin of the item that the event with the serial number is about. -/
  taken : Nat → Origin

/-- The origin of the item that a skip, a removal or the undo of an add is about. -/
def Provenance.taking (room : Room) (action : RoomAction) (items : Provenance) : Origin :=
  match action with
  | .request .skip _ => items.source.bind Prod.snd
  | .request (.remove video) _ => (Tagged.lookup video items.queue).bind Prod.snd
  | .request (.undo echo) _ =>
      ((room.undoneEvent echo).bind fun event => event.request.video).bind fun video =>
        (Tagged.lookup video.toVideoId items.queue).bind Prod.snd
  | _ => none

/-- Every run of a room with the origins of its items. What a room has when it is made comes
from no request. -/
def provenanceSystem : TransitionSystem Traced RoomLabel where
  Initial traced := traced.state.Initial ∧ traced.items.Describes traced.state.room.contents ∧
    (∀ item ∈ traced.items.source, item.2 = none) ∧ (∀ item ∈ traced.items.queue, item.2 = none) ∧
    traced.taken = fun _ => none
  Step before label after := roomSystem.Step before.state label after.state ∧
    Passage label.env before.state.room before.taken before.items label.action after.items ∧
    after.items.Describes after.state.room.contents ∧
    after.taken = Function.update before.taken before.state.room.nextSerial
      (before.items.taking before.state.room label.action)

namespace Traced

/-- The origins are always those of the room's items. -/
theorem describes {traced : Traced} (reached : provenanceSystem.Reachable traced) :
    traced.items.Describes traced.state.room.contents := by
  have invariant : provenanceSystem.Inductive fun traced =>
      traced.items.Describes traced.state.room.contents :=
    ⟨fun _ valid => valid.2.1, fun _ step => step.2.2.1⟩
  exact invariant.of_reachable reached

/-- The items of a new room. -/
def untraced (contents : Contents) : Provenance :=
  ⟨contents.source.map (·, none), contents.queue.map (·, none)⟩

theorem untraced_describes (contents : Contents) : (untraced contents).Describes contents := by
  unfold untraced
  refine ⟨?_, ?_⟩
  · rw [Option.map_map]
    exact Option.map_id'
  · rw [List.map_map]
    exact List.map_id' _

theorem exists_origins {state : RoomState} (reachable : roomSystem.Reachable state) :
    ∃ items taken, provenanceSystem.Reachable ⟨state, items, taken⟩ := by
  obtain ⟨start, valid, run⟩ := reachable
  refine TransitionSystem.Steps.relates
    (fun state => ∃ items taken, provenanceSystem.Reachable ⟨state, items, taken⟩) ?_ ?_ run
  · refine ⟨untraced start.room.contents, fun _ => none, .initial ?_⟩
    refine ⟨valid, untraced_describes _, ?_, ?_, rfl⟩
    · intro item member
      obtain ⟨video, _, rfl⟩ := Option.map_eq_some_iff.mp member
      rfl
    · intro item member
      obtain ⟨video, _, rfl⟩ := List.mem_map.mp member
      rfl
  · rintro before label after _ ⟨items, taken, reached⟩ step
    obtain ⟨later, passage, described⟩ :=
      @Passage.exists_passage label.env before.room taken items label.action (describes reached)
    refine ⟨later, _, reached.steps (.single ⟨step, passage, ?_, rfl⟩)⟩
    rw [step.2.2]
    exact described

end Traced

namespace Provenance

/-- All the items. -/
def all (items : Provenance) : Multiset (VideoId × Origin) :=
  ↑(items.source.toList ++ items.queue)

/-- The items that the event's request did not add. -/
def foreign (event : RoomEvent) (items : Provenance) : Multiset (VideoId × Origin) :=
  items.all.filter fun item => item.2 ≠ some event.serial

/-- What the undo of an added video takes away is the first queued item of the video, with an
empty queue or without a video on record the current item. It is one that the event's request
added. -/
def AimsAtOwn (event : RoomEvent) (items : Provenance) : Prop :=
  match event.request.video, items.queue.isEmpty with
  | some video, false =>
      ∀ item ∈ Tagged.lookup video.toVideoId items.queue, item.2 = some event.serial
  | _, _ => ∀ item ∈ items.source, item.2 = some event.serial

/-- One item less, and it is the event's own or not. -/
theorem foreign_le_iff {event : RoomEvent} {items after : Provenance} {item : VideoId × Origin}
    (taken : items.all = item ::ₘ after.all) :
    items.foreign event ≤ after.all ↔ item.2 = some event.serial := by
  unfold foreign
  rw [taken, filter_le_iff, not_not]

/-- The current item is taken away, if there is one. -/
theorem foreign_le_source {event : RoomEvent} {items : Provenance} :
    items.foreign event ≤ ({ items with source := none } : Provenance).all ↔
      ∀ item ∈ items.source, item.2 = some event.serial := by
  cases present : items.source with
  | none =>
      refine iff_of_true ?_ nofun
      have same : items = { items with source := none } := by rw [← present]
      rw [← same]
      exact Multiset.filter_le _ _
  | some item =>
      have taken : items.all = item ::ₘ ({ items with source := none } : Provenance).all := by
        unfold all
        rw [present]
        rfl
      rw [foreign_le_iff taken]
      exact ⟨fun own other member => Option.some.inj member ▸ own, fun own => own item rfl⟩

/-- The first queued item of a video is taken away. -/
theorem foreign_le_remove {event : RoomEvent} {items : Provenance} {video : VideoId}
    (queued : video ∈ items.queue.map Prod.fst) :
    items.foreign event ≤ (items.remove video).all ↔
      ∀ item ∈ Tagged.lookup video items.queue, item.2 = some event.serial := by
  obtain ⟨item, found⟩ := Tagged.exists_lookup queued
  have taken : items.all = item ::ₘ (items.remove video).all := by
    have perm := (Tagged.lookup_cons_remove found).append_left items.source.toList
    exact Multiset.coe_eq_coe.mpr (perm.trans List.perm_middle)
  rw [foreign_le_iff taken, found]
  exact ⟨fun own other member => Option.some.inj member ▸ own, fun own => own item rfl⟩

end Provenance

section UndoAdd

variable {env : Env} {context : RoomRequestContext} {room : Room} {event : RoomEvent}

/-- A removal that went through found its video. -/
theorem Room.queued_of_undoAdd {video : VideoAdd} {value : Unit}
    (asked : event.request.video = some video) (some : room.queue.isEmpty = false)
    (accepted : (Room.undoAdd env event context).outcome room = .ok value) :
    video.toVideoId ∈ room.contents.queue := by
  unfold Room.undoAdd at accepted
  rw [asked] at accepted
  obtain ⟨_, _, accepted, _⟩ := outcome_bind_ok accepted
  rw [check_after, outcome_get_bind, some] at accepted
  obtain ⟨_, _, accepted, _⟩ := outcome_bind_ok accepted
  rw [check_after] at accepted
  unfold Room.removeFromQueue at accepted
  rw [outcome_get_bind] at accepted
  split at accepted
  · rename_i contained
    exact (queueContains_iff room).mp contained
  · cases accepted

theorem Room.applied_of_undo {echo : UndoEvent} (found : room.undoneEvent echo = some event)
    (accepted : (processRequest env (.undo echo) context).outcome room = .ok ()) :
    (applyUndo env event context).outcome room = .ok () := by
  have recorded : validUndoEvent echo = true ∧ room.findRecentEvent echo = some event := by
    unfold undoneEvent at found
    split at found
    · exact ⟨‹_›, found⟩
    · cases found
  rcases processRequest_cases env context room (.undo echo) with
    ⟨⟨error, failed⟩, _, _⟩ | ⟨_, handled, _⟩
  · rw [failed] at accepted
    cases accepted
  · rw [← (undo_run env context room recorded.1 recorded.2).1]
    exact handled.symm.trans accepted

end UndoAdd

namespace Traced

/-- In every run, an accepted undo of an add event takes away nothing but what the event's
request had added just when it aims at such an item. -/
theorem undo_add_takes_own_iff {before after : Traced} (reached : provenanceSystem.Reachable before)
    {env : Env} {echo : UndoEvent} {context : RoomRequestContext} {event : RoomEvent}
    (step : provenanceSystem.Step before ⟨env, .request (.undo echo) context⟩ after)
    (found : before.state.room.undoneEvent echo = some event) (kind : event.request.type = .add)
    (accepted : (Room.processRequest env (.undo echo) context).outcome before.state.room = .ok ()) :
    before.items.foreign event ≤ after.items.all ↔ before.items.AimsAtOwn event := by
  have described := describes reached
  have undone : after.items = before.items.undo before.taken event := by
    have passage := step.2.1
    generalize after.items = items at passage
    cases passage with
    | kept _ other => cases other
    | reordered _ _ _ other => cases other
    | refused _ _ refused => exact absurd accepted refused
    | undone _ _ event' found' =>
        rw [found] at found'
        cases found'
        rfl
  rw [undone]
  unfold Provenance.undo Provenance.AimsAtOwn
  rw [kind]
  dsimp only
  cases asked : event.request.video with
  | none => exact Provenance.foreign_le_source
  | some video =>
      cases empty : before.items.queue.isEmpty with
      | true => exact Provenance.foreign_le_source
      | false =>
          refine Provenance.foreign_le_remove ?_
          have filled : before.state.room.queue.isEmpty = false := by
            have same : (before.items.queue.map Prod.fst).isEmpty =
                (before.state.room.queue.map QueueItem.toVideoId).isEmpty :=
              congrArg List.isEmpty described.queue
            rw [List.isEmpty_map, List.isEmpty_map] at same
            rw [← same, empty]
          rw [described.queue]
          have applied := Room.applied_of_undo found accepted
          unfold Room.applyUndo at applied
          rw [kind] at applied
          exact Room.queued_of_undoAdd asked filled applied

end Traced

namespace Sample

/-- A video that plays, and one that is added. -/
def shown : VideoId := ⟨.youtube, "shown"⟩

def extra : VideoId := ⟨.direct, "extra"⟩

/-- A moderator, who may undo what the viewer did. -/
def moderator : RoomRequestContext := { viewer with role := .moderator }

/-- A viewer joins and adds a video, which is undone. -/
def addUndone : List RoomLabel :=
  [⟨env 1 "first", .request (.join { id := "viewer", username := some "v" } false) viewer⟩,
    ⟨env 2 "first", .request (.add { video := some extra.asAdd }) viewer⟩,
    ⟨env 3 "first", .request (.undo
      { type := .add
        requestVideo := some extra.asAdd
        video := some { extra with length := some 100 } }) moderator⟩]

/-- The services know the other video. -/
def batchEnv : Env :=
  { env 3 "first" with getManyVideoInfo := fun _ => some [{ extra with }] }

/-- A viewer joins, has a video played and adds a batch of another, which is undone. -/
def batchUndone : List RoomLabel :=
  [⟨env 1 "first", .request (.join { id := "viewer", username := some "v" } false) viewer⟩,
    ⟨env 2 "first", .request (.playNow shown.asAdd) viewer⟩,
    ⟨batchEnv, .request (.add { videos := some [extra.asAdd] }) viewer⟩,
    ⟨env 4 "first", .request (.undo { type := .add }) moderator⟩]

/-- The room after some of the steps. -/
def tracing (labels : List RoomLabel) (steps : Nat) : RoomState :=
  RoomState.run (labels.take steps) ⟨Room.new {} 0, 0⟩

end Sample

namespace Traced

/-- A step that is possible, with the origins it leaves. -/
theorem step_of_passage {state : RoomState} {label : RoomLabel} {items after : Provenance}
    {taken : Nat → Origin} (enabled : label.action.Enabled state.room)
    (fresh : label.env.uuid ∉ state.room.rounds)
    (passage : Passage label.env state.room taken items label.action after)
    (described : after.Describes (label.action.apply label.env state.room).contents) :
    ∃ later, provenanceSystem.Step ⟨state, items, taken⟩ label ⟨state.next label, after, later⟩ :=
  ⟨_, ⟨enabled, fresh, rfl⟩, passage, described, rfl⟩

/-- A viewer joins a new room. -/
theorem joined_reachable (labels : List RoomLabel)
    (joins : labels.head? = some ⟨Sample.env 1 "first",
      .request (.join { id := "viewer", username := some "v" } false) Sample.viewer⟩) :
    ∃ taken, provenanceSystem.Reachable ⟨Sample.tracing labels 1, {}, taken⟩ := by
  obtain ⟨label, rest, rfl⟩ : ∃ label rest, labels = label :: rest := by
    cases labels with
    | nil => cases joins
    | cons label rest => exact ⟨label, rest, rfl⟩
  cases joins
  have start : provenanceSystem.Reachable ⟨⟨Room.new {} 0, 0⟩, {}, fun _ => none⟩ :=
    .initial ⟨.created {} 0, ⟨by decide +kernel, by decide +kernel⟩, nofun, nofun, rfl⟩
  obtain ⟨taken, joined⟩ := @step_of_passage ⟨Room.new {} 0, 0⟩ ⟨Sample.env 1 "first",
      .request (.join { id := "viewer", username := some "v" } false) Sample.viewer⟩ {} {}
      (fun _ => none) (by decide +kernel) (by decide +kernel)
      (.kept _ rfl (by decide +kernel)) ⟨by decide +kernel, by decide +kernel⟩
  exact ⟨taken, start.steps (.single joined)⟩

/-- The viewer's video is queued, and comes from the second event. -/
theorem added_reachable :
    ∃ taken, provenanceSystem.Reachable ⟨Sample.tracing Sample.addUndone 2,
      { queue := [(Sample.extra, some 1)] }, taken⟩ := by
  obtain ⟨taken, joined⟩ := joined_reachable Sample.addUndone rfl
  have announced : (Sample.tracing Sample.addUndone 1).room.announces Sample.viewer = some 1 := by
    decide +kernel
  have passage := @Passage.added (Sample.env 2 "first") (Sample.tracing Sample.addUndone 1).room taken {}
    { video := some Sample.extra.asAdd } Sample.viewer [Sample.extra]
  rw [announced] at passage
  obtain ⟨taken, added⟩ := @step_of_passage (Sample.tracing Sample.addUndone 1)
    ⟨Sample.env 2 "first", .request (.add { video := some Sample.extra.asAdd }) Sample.viewer⟩ _ _ _
    (by decide +kernel) (by decide +kernel) passage ⟨by decide +kernel, by decide +kernel⟩
  exact ⟨taken, joined.steps (.single added)⟩

/-- The current video comes from no add, the queued one from the second event. -/
theorem batch_reachable :
    ∃ taken, provenanceSystem.Reachable ⟨Sample.tracing Sample.batchUndone 3,
      ⟨some (Sample.shown, none), [(Sample.extra, some 1)]⟩, taken⟩ := by
  obtain ⟨taken, joined⟩ := joined_reachable Sample.batchUndone rfl
  have plays : (Sample.tracing Sample.batchUndone 1).room.playsNow (Sample.env 2 "first")
      Sample.viewer Sample.shown.asAdd = true := by
    decide +kernel
  have fresh : Sample.shown.asAdd.toVideoId ∉
      (Sample.tracing Sample.batchUndone 1).room.contents.queue := by
    decide +kernel
  have passage := @Passage.playedNow (Sample.env 2 "first")
    (Sample.tracing Sample.batchUndone 1).room taken {} Sample.shown.asAdd Sample.viewer
    Sample.shown plays fresh
  obtain ⟨taken, played⟩ := @step_of_passage (Sample.tracing Sample.batchUndone 1)
    ⟨Sample.env 2 "first", .request (.playNow Sample.shown.asAdd) Sample.viewer⟩ _ _ _
    (by decide +kernel) (by decide +kernel) passage ⟨by decide +kernel, by decide +kernel⟩
  have playing : provenanceSystem.Reachable ⟨Sample.tracing Sample.batchUndone 2,
      ⟨some (Sample.shown, none), []⟩, taken⟩ := joined.steps (.single played)
  have announced : (Sample.tracing Sample.batchUndone 2).room.announces Sample.viewer = some 1 := by
    decide +kernel
  have passage := @Passage.added Sample.batchEnv (Sample.tracing Sample.batchUndone 2).room taken
    ⟨some (Sample.shown, none), []⟩ { videos := some [Sample.extra.asAdd] } Sample.viewer
    [Sample.extra]
  rw [announced] at passage
  obtain ⟨taken, added⟩ := @step_of_passage (Sample.tracing Sample.batchUndone 2)
    ⟨Sample.batchEnv, .request (.add { videos := some [Sample.extra.asAdd] }) Sample.viewer⟩ _ _ _
    (by decide +kernel) (by decide +kernel) passage ⟨by decide +kernel, by decide +kernel⟩
  exact ⟨taken, playing.steps (.single added)⟩

/-- The undo of the viewer's single video takes that video away. -/
theorem undo_add_takes_own_single : ∃ (before after : Traced) (event : RoomEvent),
    provenanceSystem.Reachable after ∧ before.items.queue = [(Sample.extra, some event.serial)] ∧
      before.items.foreign event ≤ after.items.all := by
  obtain ⟨taken, reached⟩ := added_reachable
  let echo : UndoEvent :=
    { type := .add
      requestVideo := some Sample.extra.asAdd
      video := some { Sample.extra with length := some 100 } }
  obtain ⟨event, found⟩ : ∃ event,
      (Sample.tracing Sample.addUndone 2).room.undoneEvent echo = some event :=
    Option.isSome_iff_exists.mp (by decide +kernel)
  have known : ((Sample.tracing Sample.addUndone 2).room.undoneEvent echo).all (fun event =>
      decide (event.request.type = .add ∧ event.serial = 1 ∧
        event.request.video = some Sample.extra.asAdd)) = true := by
    decide +kernel
  rw [found, Option.all_some, decide_eq_true_eq] at known
  obtain ⟨kind, serial, asked⟩ := known
  obtain ⟨items, passage, described⟩ := @Passage.exists_passage (Sample.env 3 "first")
    (Sample.tracing Sample.addUndone 2).room taken { queue := [(Sample.extra, some 1)] }
    (.request (.undo echo) Sample.moderator) (describes reached)
  obtain ⟨later, step⟩ := @step_of_passage (Sample.tracing Sample.addUndone 2)
    ⟨Sample.env 3 "first", .request (.undo echo) Sample.moderator⟩ _ items taken
    (by decide +kernel) (by decide +kernel) passage described
  have accepted : (Room.processRequest (Sample.env 3 "first") (.undo echo)
      Sample.moderator).outcome (Sample.tracing Sample.addUndone 2).room = .ok () := by
    decide +kernel
  have aims : Provenance.AimsAtOwn event { queue := [(Sample.extra, some 1)] } := by
    have first : Tagged.lookup Sample.extra [(Sample.extra, some 1)] =
        some (Sample.extra, some 1) := by
      decide +kernel
    unfold Provenance.AimsAtOwn
    rw [asked, serial]
    intro item member
    cases first.symm.trans member
    rfl
  refine ⟨_, _, event, reached.steps (.single step), ?_,
    (undo_add_takes_own_iff reached step found kind accepted).mpr aims⟩
  rw [serial]

/-- The undo of the viewer's batch takes away the current video, which somebody had played. -/
theorem undo_add_takes_others : ¬ ∀ {before after : Traced},
    provenanceSystem.Reachable before → ∀ {env : Env} {echo : UndoEvent}
      {context : RoomRequestContext} {event : RoomEvent},
      provenanceSystem.Step before ⟨env, .request (.undo echo) context⟩ after →
      before.state.room.undoneEvent echo = some event → event.request.type = .add →
      (Room.processRequest env (.undo echo) context).outcome before.state.room = .ok () →
      before.items.foreign event ≤ after.items.all := by
  intro own
  obtain ⟨taken, reached⟩ := batch_reachable
  let echo : UndoEvent := { type := .add }
  obtain ⟨event, found⟩ : ∃ event,
      (Sample.tracing Sample.batchUndone 3).room.undoneEvent echo = some event :=
    Option.isSome_iff_exists.mp (by decide +kernel)
  have known : ((Sample.tracing Sample.batchUndone 3).room.undoneEvent echo).all (fun event =>
      decide (event.request.type = .add ∧ event.serial = 1 ∧ event.request.video = none)) =
        true := by
    decide +kernel
  rw [found, Option.all_some, decide_eq_true_eq] at known
  obtain ⟨kind, serial, asked⟩ := known
  have accepted : (Room.processRequest (Sample.env 4 "first") (.undo echo)
      Sample.moderator).outcome (Sample.tracing Sample.batchUndone 3).room = .ok () := by
    decide +kernel
  have passage := @Passage.undone (Sample.env 4 "first") (Sample.tracing Sample.batchUndone 3).room
    taken ⟨some (Sample.shown, none), [(Sample.extra, some 1)]⟩ echo Sample.moderator event found
    accepted
  have left : Provenance.undo taken event ⟨some (Sample.shown, none), [(Sample.extra, some 1)]⟩ =
      ⟨none, [(Sample.extra, some 1)]⟩ := by
    unfold Provenance.undo
    rw [kind, asked]
  rw [left] at passage
  obtain ⟨later, step⟩ := @step_of_passage (Sample.tracing Sample.batchUndone 3)
    ⟨Sample.env 4 "first", .request (.undo echo) Sample.moderator⟩ _ _ taken
    (by decide +kernel) (by decide +kernel) passage ⟨by decide +kernel, by decide +kernel⟩
  have kept : Provenance.foreign event ⟨some (Sample.shown, none), [(Sample.extra, some 1)]⟩ ≤
      Provenance.all ⟨none, [(Sample.extra, some 1)]⟩ := own reached step found kind accepted
  unfold Provenance.foreign at kept
  rw [serial] at kept
  exact absurd kept (by decide +kernel)

end Traced

end OpenTogetherTube
