import Mathlib.Data.List.Perm.Basic
import OpenTogetherTube.Room.Steady

/-!
# What each action does to the contents of a room

The operations on `Contents` are what the queue, the votes and the audience of a room are
for, without clock, gate and messages. `Turn` lists what an action can do to them, and
`RoomAction.apply_turn` is the refinement: an action of the room is a turn of its contents.
-/

namespace OpenTogetherTube

open Lib Lib.Handler

namespace Contents

/-- Make a video current, or none. -/
def setSource (source : Option VideoId) (contents : Contents) : Contents :=
  { contents with source, sets := contents.sets + 1 }

/-- The votes to skip are dropped where they count. -/
def clearSkipVotes (contents : Contents) : Contents :=
  if contents.enableVoteSkip then { contents with votesToSkip := [] } else contents

/-- The first queued video becomes current and its votes go. -/
def takeNext (contents : Contents) : Contents :=
  match contents.queue with
  | video :: rest =>
      setSource (some video)
        { contents with queue := rest, votes := contents.votes.delete video.voteKey }
  | [] => if contents.source.isSome then contents.setSource none else contents

/-- `dequeueNext`. -/
def advance (contents : Contents) : Contents :=
  let contents := contents.clearSkipVotes
  match contents.source, contents.queueMode with
  | some source, .dj => contents.setSource (some source)
  | some source, .loop => { contents with queue := contents.queue ++ [source] }.takeNext
  | _, _ => contents.takeNext

/-- A vote to skip is given or taken back. -/
def voteToSkip (clientId : Option ClientId) (contents : Contents) : Contents :=
  match contents.enableVoteSkip, clientId with
  | true, some clientId =>
      if clientId = "" then contents
      else { contents with
        votesToSkip :=
          if clientId ∈ contents.votesToSkip then contents.votesToSkip.remove clientId
          else contents.votesToSkip.add clientId }
  | _, _ => contents

/-- A viewer leaves. -/
def leave (clientId : ClientId) (contents : Contents) : Contents :=
  { contents with
    viewers := contents.viewers.erase clientId
    votesToSkip :=
      if contents.enableVoteSkip then contents.votesToSkip.remove clientId
      else contents.votesToSkip
    votes :=
      if contents.queueMode = .vote then
        contents.votes.map fun entry => (entry.1, OrderedSet.remove entry.2 clientId)
      else contents.votes }

/-- A queued video is removed, with its votes. -/
def remove (video : VideoId) (contents : Contents) : Contents :=
  { contents with
    queue := contents.queue.erase video
    votes := contents.votes.delete video.voteKey }

/-- A vote for a video is given or taken back. -/
def vote (video : VideoId) (add : Bool) (clientId : ClientId) (contents : Contents) : Contents :=
  match contents.votes.get video.voteKey with
  | some voters => { contents with
      votes := contents.votes.set video.voteKey
        (if add then voters.add clientId else voters.remove clientId) }
  | none =>
      if add then { contents with votes := contents.votes.set video.voteKey [clientId] }
      else contents

/-- The current video goes to the top of the queue. -/
def pushCurrent (contents : Contents) : Contents :=
  match contents.source with
  | some source => { contents with queue := source :: contents.queue }
  | none => contents

/-- The same, unless it is queued. -/
def requeueCurrent (contents : Contents) : Contents :=
  match contents.source with
  | some source => if source ∈ contents.queue then contents else contents.pushCurrent
  | none => contents

end Contents

namespace Room

variable (env : Env) (context : RoomRequestContext) (room : Room)

/-- The subtitle of a request passes its check. -/
def usableSubtitle (subtitleUrl : Option String) : Bool :=
  subtitleUrl.all fun url => decide (url = "") || (env.subtitleError url).isNone

/-- A play-now request passes every check that it makes before it touches the queue. -/
def acceptsPlayNow (video : VideoAdd) : Bool :=
  room.grants.granted context.role .queuePlayNow &&
    decide (utf16Length video.id ≠ 0 ∧ utf16Length video.id ≤ MAX_VIDEO_ID_LENGTH) &&
    decide (room.currentSource.map QueueItem.toVideoId ≠ some video.toVideoId) &&
    room.grants.granted context.role
      (if room.isVideoInQueue video.toVideoId then .queueOrder else .queueAdd) &&
    (room.isVideoInQueue video.toVideoId || decide (room.queue.length < MAX_QUEUE_ITEMS)) &&
    usableSubtitle env video.subtitleUrl

/-- A play-now request makes its video current. -/
def playsNow (video : VideoAdd) : Bool :=
  room.acceptsPlayNow env context video &&
    (room.isVideoInQueue video.toVideoId || (env.getVideoInfo video.toVideoId).isSome) &&
    (room.currentSource.isNone || decide (room.queue.length ≤ MAX_QUEUE_ITEMS))

/-- The recorded event an undo request is about. -/
def undoneEvent (echo : UndoEvent) : Option RoomEvent :=
  if validUndoEvent echo then room.findRecentEvent echo else none

/-- The current video can be put back on top of the queue, or need not be. -/
def canRequeue : Bool :=
  room.currentSource.all fun source =>
    room.queueContains source.toVideoId || decide (room.queue.length + 1 ≤ MAX_QUEUE_ITEMS)

/-- The undo of an event sets the current source. -/
def undoSetsSource (echo : UndoEvent) : Bool :=
  (room.undoneEvent echo).any fun event =>
    match event.request.type with
    | .skip =>
        [Permission.skip, .seek, .queueAdd, .queuePlayNow].all (room.grants.granted context.role) &&
          room.canRequeue && event.additional.video.isSome && event.additional.prevPosition.isSome
    | .add =>
        [Permission.queueRemove, .skip].all (room.grants.granted context.role) &&
          (event.request.video.isNone || room.queue.isEmpty)
    | _ => false

/-- The kind of the recorded event that an undo request is about. -/
def undoes (echo : UndoEvent) : Option RoomRequestType :=
  (room.undoneEvent echo).map fun event => event.request.type

/-- One for a video that is found and not in the room yet. -/
def additionsOf (video : VideoId) : Nat :=
  if room.isVideoInQueue video || (env.getVideoInfo video).isNone then 0 else 1

/-- How many videos an add request puts into the queue, if it is not refused. -/
def additions (request : AddRequest) : Nat :=
  if request.url.any (· ≠ "") then
    ((env.videoOfUrl (request.url.getD "")).map (room.additionsOf env)).getD 0
  else
    match request.video with
    | some video => room.additionsOf env video.toVideoId
    | none =>
        match (request.videos.bind env.getManyVideoInfo).map (room.usableVideos env) with
        | some (.ok kept) => kept.length
        | _ => 0

end Room

/-- What an action can do to the contents of a room. -/
inductive Turn (env : Env) (room : Room) : RoomAction → Contents → Prop
  | stayed (action : RoomAction) : Turn env room action room.contents
  | reordered (action : RoomAction) (queue : List VideoId) (perm : queue.Perm room.contents.queue) :
      Turn env room action { room.contents with queue }
  | joined (info : ClientInfo) (reconnect : Bool) (context : RoomRequestContext) :
      Turn env room (.request (.join info reconnect) context)
        { room.contents with viewers := room.contents.viewers ++ [info.id] }
  | left (context : RoomRequestContext) (clientId : ClientId)
      (named : context.clientId = some clientId) (present : clientId ∈ room.contents.viewers) :
      Turn env room (.request .leave context) (room.contents.leave clientId)
  | votedToSkip (context : RoomRequestContext) (playing : room.contents.source.isSome = true)
      (may : room.grants.granted context.role .skip = true)
      (short : ¬ (room.voteToSkip context).shouldSkip = true) :
      Turn env room (.request .skip context) (room.contents.voteToSkip context.clientId)
  | skipped (context : RoomRequestContext) (playing : room.contents.source.isSome = true)
      (may : room.grants.granted context.role .skip = true)
      (enough : (room.voteToSkip context).shouldSkip = true) :
      Turn env room (.request .skip context) (room.contents.voteToSkip context.clientId).advance
  | advanced (queue : List VideoId) (perm : queue.Perm room.contents.advance.queue)
      (due : (room.settlePlayback env).wantsNext env.now = true) :
      Turn env room .update { room.contents.advance with queue }
  | added (request : AddRequest) (context : RoomRequestContext) (videos : List VideoId)
      (prevQueue : Option (List VideoId))
      (saved : prevQueue = none ∨ prevQueue = room.contents.prevQueue)
      (fits : room.contents.queue.length + videos.length ≤ MAX_QUEUE_ITEMS)
      (counted : videos.length = room.additions env request) :
      Turn env room (.request (.add request) context)
        { room.contents with queue := room.contents.queue ++ videos, prevQueue }
  | removed (video : VideoId) (context : RoomRequestContext) :
      Turn env room (.request (.remove video) context) (room.contents.remove video)
  | voted (video : VideoId) (add : Bool) (context : RoomRequestContext) (clientId : ClientId)
      (named : context.clientId = some clientId) (queued : video ∈ room.contents.queue)
      (may : room.grants.granted context.role .queueVote = true) :
      Turn env room (.request (.vote video add) context) (room.contents.vote video add clientId)
  | configured (settings : RoomSettings) (context : RoomRequestContext) (queueMode : QueueMode)
      (enableVoteSkip : Bool) :
      Turn env room (.request (.applySettings settings) context)
        { room.contents with queueMode, enableVoteSkip }
  | playedNow (video : VideoAdd) (context : RoomRequestContext) (played : VideoId)
      (plays : room.playsNow env context video = true)
      (fits : room.contents.queue.length + 1 ≤ MAX_QUEUE_ITEMS)
      (fresh : video.toVideoId ∉ room.contents.queue) :
      Turn env room (.request (.playNow video) context)
        (room.contents.pushCurrent.setSource (some played))
  | playedQueued (video : VideoAdd) (context : RoomRequestContext)
      (plays : room.playsNow env context video = true)
      (queued : video.toVideoId ∈ room.contents.queue) :
      Turn env room (.request (.playNow video) context)
        (Contents.setSource (some video.toVideoId) (Contents.pushCurrent
          { room.contents with queue := room.contents.queue.erase video.toVideoId }))
  | evicted (video : VideoAdd) (context : RoomRequestContext)
      (accepts : room.acceptsPlayNow env context video = true)
      (queued : video.toVideoId ∈ room.contents.queue) :
      Turn env room (.request (.playNow video) context)
        { room.contents with queue := room.contents.queue.erase video.toVideoId }
  | undidSkip (echo : UndoEvent) (context : RoomRequestContext) (video : VideoId)
      (sets : room.undoSetsSource context echo = true) (kind : room.undoes echo = some .skip)
      (fits : room.canRequeue = true) :
      Turn env room (.request (.undo echo) context)
        (room.contents.requeueCurrent.setSource (some video))
  | requeued (echo : UndoEvent) (context : RoomRequestContext)
      (kind : room.undoes echo = some .skip) (fits : room.canRequeue = true) :
      Turn env room (.request (.undo echo) context) room.contents.requeueCurrent
  | undidAdd (echo : UndoEvent) (context : RoomRequestContext) (video : VideoId) :
      Turn env room (.request (.undo echo) context) (room.contents.remove video)
  | undidFirst (echo : UndoEvent) (context : RoomRequestContext)
      (sets : room.undoSetsSource context echo = true) :
      Turn env room (.request (.undo echo) context) (room.contents.setSource none)
  | undidRemove (echo : UndoEvent) (context : RoomRequestContext) (index : Nat) (video : VideoId)
      (kind : room.undoes echo = some .remove)
      (fits : room.contents.queue.length + 1 ≤ MAX_QUEUE_ITEMS) :
      Turn env room (.request (.undo echo) context)
        { room.contents with queue := room.contents.queue.insertIdx index video }
  | restored (context : RoomRequestContext) (videos : List VideoId)
      (saved : room.contents.prevQueue = some videos)
      (fits : room.contents.queue.length + videos.length ≤ MAX_QUEUE_ITEMS) :
      Turn env room (.request (.restoreQueue false) context)
        { room.contents with queue := room.contents.queue ++ videos, prevQueue := none }
  | discarded (context : RoomRequestContext) :
      Turn env room (.request (.restoreQueue true) context) { room.contents with prevQueue := none }

namespace Room

section Lands

variable {α β : Type} {reached : Contents → Prop}

/-- The contents a handler leaves satisfy a predicate. -/
def Lands (reached : Contents → Prop) (handler : RoomM α) (room : Room) : Prop :=
  reached (handler.after room).contents

namespace Lands

variable {room : Room}

theorem throw (error : RoomError) (base : reached room.contents) :
    Lands reached (MonadExcept.throw error : RoomM α) room :=
  base

theorem pure (value : α) (base : reached room.contents) :
    Lands reached (Pure.pure value : RoomM α) room :=
  base

theorem ite {condition : Prop} [Decidable condition] {first second : RoomM α}
    (positive : condition → Lands reached first room)
    (negative : ¬ condition → Lands reached second room) :
    Lands reached (if condition then first else second) room := by
  split
  · exact positive ‹_›
  · exact negative ‹_›

/-- Reading the room. -/
theorem get_bind {next : Room → RoomM α} (tail : Lands reached (next room) room) :
    Lands reached (get >>= next) room :=
  tail

theorem steady {handler : RoomM α} (kept : handler.Keeps Steady room)
    (base : reached room.contents) : Lands reached handler room := by
  unfold Lands
  rw [Steady.contents kept]
  exact base

/-- The rule for sequences; a part that throws has to land where it stopped. -/
theorem bind {first : RoomM α} {next : α → RoomM β}
    (stopped : ∀ error, first.outcome room = .error error → reached (first.after room).contents)
    (tail : ∀ value, first.outcome room = .ok value → Lands reached (next value) (first.after room)) :
    Lands reached (first >>= next) room := by
  unfold Lands
  rw [after_bind]
  cases result : first.outcome room with
  | ok value => exact tail value result
  | error error => exact stopped error result

/-- A sequence whose first part returns. -/
theorem bind_ok {first : RoomM α} {next : α → RoomM β} {value : α}
    (passed : first.outcome room = .ok value)
    (tail : Lands reached (next value) (first.after room)) : Lands reached (first >>= next) room := by
  unfold Lands
  rw [after_bind, passed]
  exact tail

/-- A sequence whose first part throws. -/
theorem bind_error {first : RoomM α} {next : α → RoomM β} {error : RoomError}
    (failed : first.outcome room = .error error) (base : reached (first.after room).contents) :
    Lands reached (first >>= next) room := by
  unfold Lands
  rw [after_bind, failed]
  exact base

theorem of_modify {update : Room → Room} (base : reached (update room).contents) :
    Lands reached (modify update : RoomM PUnit) room :=
  base

/-- An update followed by the rest. -/
theorem modify_bind {update : Room → Room} {next : PUnit → RoomM α}
    (tail : Lands reached (next ⟨⟩) (update room)) : Lands reached (modify update >>= next) room :=
  tail

/-- A sequence that begins with a handler that leaves the room alone. -/
theorem bind_of_after {first : RoomM α} {next : α → RoomM β} (same : first.after room = room)
    (base : reached room.contents)
    (tail : ∀ value, first.outcome room = .ok value → Lands reached (next value) room) :
    Lands reached (first >>= next) room := by
  refine bind ?_ ?_
  · intro error _
    rw [same]
    exact base
  · intro value passed
    rw [same]
    exact tail value passed

/-- Steps after the last change of the contents. -/
theorem bind_steady {first : RoomM α} {next : α → RoomM β} (landed : Lands reached first room)
    (tail : ∀ value other, (next value).Keeps Steady other) : Lands reached (first >>= next) room :=
  bind (fun _ _ => landed) fun value _ => steady (tail value _) landed

/-- A sequence that begins with a permission check. -/
theorem check {role : Role} {permission : Permission} {next : Unit → RoomM α}
    (base : reached room.contents)
    (tail : room.grants.granted role permission = true → Lands reached (next ()) room) :
    Lands reached (Room.check role permission >>= next) room :=
  bind_of_after (check_after room role permission) base
    fun _ passed => tail (granted_of_check room passed)

end Lands

end Lands

section Queue

variable (env : Env) (room : Room)

theorem clearSkipVotes_contents : room.clearSkipVotes.contents = room.contents.clearSkipVotes := by
  unfold clearSkipVotes Contents.clearSkipVotes
  change _ = if room.enableVoteSkip then _ else _
  split <;> rfl

theorem leaveCurrent_contents (now : Int) :
    (room.leaveCurrent now).contents = room.contents.clearSkipVotes := by
  have counted : ∀ other : Room, (other.countSource now).contents = other.contents := by
    intro other
    obtain ⟨watched, same⟩ := countSource_eq other now
    rw [same]
    rfl
  unfold leaveCurrent
  rw [counted, clearSkipVotes_contents, (releaseBufferGate_steady room now false).contents]

/-- Setting the source counts as one setting. -/
theorem onPlayback_setSource {update : Playback → Playback} (source : Option QueueItem) (now : Int)
    (set : (update room.toPlayback).currentSource = source)
    (gate : (update room.toPlayback).toGateState =
      room.toGateState.sourceSet (source.map QueueItem.toVideoId) now) :
    (room.onPlayback update).contents =
      room.contents.setSource (source.map QueueItem.toVideoId) := by
  have counted : (update room.toPlayback).toGateState.sourceSets =
      room.toGateState.sourceSets + 1 := by
    rw [gate]
    simp [GateState.sourceSets, GateState.sourceSet]
  unfold contents Contents.setSource onPlayback
  dsimp only
  rw [set, counted]

theorem takeSource_contents (item : QueueItem) (position : Number) (now : Int) :
    (room.onPlayback (Playback.takeSource item position now)).contents =
      room.contents.setSource (some item.toVideoId) :=
  onPlayback_setSource room (some item) now (by simp) (by simp)

theorem clearSource_contents (now : Int) :
    (room.onPlayback (Playback.clearSource now)).contents = room.contents.setSource none :=
  onPlayback_setSource room none now (by simp) (by simp)

theorem dropSource_contents (now : Int) :
    (room.onPlayback (Playback.assignCurrentSource none now)).contents =
      room.contents.setSource none :=
  onPlayback_setSource room none now (by simp) (by simp)

theorem takeNext_contents (now : Int) (item : QueueItem) (rest : List QueueItem) :
    (room.takeNext now item rest).contents =
      Contents.setSource (some item.toVideoId) { room.contents with
        queue := rest.map QueueItem.toVideoId
        votes := room.contents.votes.delete item.toVideoId.voteKey } := by
  have taken := takeSource_contents (room.assignQueue rest) item (item.startAt.getD 0) now
  have voteless : ∀ other : Room,
      ({ other with votes := other.votes.delete item.toVideoId.voteKey }.markDirty
        .voteCounts).contents =
        { other.contents with votes := other.contents.votes.delete item.toVideoId.voteKey } :=
    fun _ => rfl
  unfold takeNext
  dsimp only
  split
  · rw [voteless, taken]
    rfl
  · have cut : ∀ other : Room, (other.assignVideoSegments []).contents = other.contents :=
      fun _ => rfl
    rw [voteless, cut, taken]
    rfl

theorem replaceSource_contents :
    (room.replaceSource env).contents = room.contents.takeNext := by
  unfold replaceSource Contents.takeNext
  change _ = match room.queue.map QueueItem.toVideoId with
    | video :: rest => _
    | [] => _
  cases room.queue with
  | nil =>
      dsimp only [List.map_nil]
      change _ = if (room.currentSource.map QueueItem.toVideoId).isSome then _ else _
      rw [Option.isSome_map]
      split
      · exact clearSource_contents room env.now
      · rfl
  | cons item rest =>
      have started : Steady (room.takeNext env.now item rest) (room.playNext env item rest) :=
        .onPlayback (Playback.startItem_steady _ _ env.now env.uuid)
      rw [started.contents, takeNext_contents]
      rfl

theorem advanceQueue_contents :
    (room.advanceQueue env).contents = room.contents.takeNext := by
  have reset : ∀ other : Room,
      (other.onPlayback (Playback.assignPlaybackSpeed 1)).contents = other.contents :=
    fun _ => rfl
  unfold advanceQueue
  rw [reset, (steady_ticks.refreshSegments env _).contents, replaceSource_contents]

theorem dequeueNext_contents : (room.dequeueNext env).contents = room.contents.advance := by
  have left := leaveCurrent_contents room env.now
  unfold dequeueNext Contents.advance
  dsimp only
  rw [← left]
  generalize room.leaveCurrent env.now = entry
  change _ = match entry.currentSource.map QueueItem.toVideoId, entry.queueMode with
    | some source, .dj => entry.contents.setSource (some source)
    | some source, .loop => Contents.takeNext
        { entry.contents with queue := entry.contents.queue ++ [source] }
    | _, _ => entry.contents.takeNext
  cases source : entry.currentSource with
  | none => exact advanceQueue_contents env entry
  | some current =>
      cases mode : entry.queueMode with
      | manual => exact advanceQueue_contents env entry
      | vote => exact advanceQueue_contents env entry
      | loop =>
          dsimp only [Option.map_some]
          rw [advanceQueue_contents]
          congr 1
          have appended : (entry.queue ++ [current.clearQueueItemTrim]).map QueueItem.toVideoId =
              entry.queue.map QueueItem.toVideoId ++ [current.toVideoId] := by
            rw [List.map_append]
            rfl
          exact congrArg (fun queue => { entry.contents with queue }) appended
      | dj =>
          dsimp only [Option.map_some]
          have taken := takeSource_contents entry current.clearQueueItemTrim 0 env.now
          have restarted : Steady
              (entry.onPlayback (Playback.takeSource current.clearQueueItemTrim 0 env.now))
              (entry.onPlayback (Playback.restartSource current env.now)) := by
            change Steady _ ((entry.onPlayback
              (Playback.takeSource current.clearQueueItemTrim 0 env.now)).onPlayback
                fun p => if p.isPlaying then p else p.play env.now)
            refine .onPlayback ?_
            split
            · exact .refl _
            · exact Playback.play_steady _ env.now
          rw [restarted.contents, taken]
          rfl

end Queue

section Items

variable (room : Room)

/-- The first place of a video is where the list of ids has it first. -/
theorem eraseIdx_map {items : List QueueItem} {video : VideoId} {index : Nat}
    (found : items.findIdx? (fun item => decide (item.toVideoId = video)) = some index) :
    (items.eraseIdx index).map QueueItem.toVideoId =
      (items.map QueueItem.toVideoId).erase video := by
  induction items generalizing index with
  | nil => cases found
  | cons item rest ih =>
      rw [List.findIdx?_cons] at found
      by_cases same : item.toVideoId = video
      · simp only [same, decide_true, if_true, Option.some.injEq] at found
        subst found
        simp [same]
      · simp only [same, decide_false, Bool.false_eq_true, if_false, Option.map_eq_some_iff]
          at found
        obtain ⟨earlier, found, rfl⟩ := found
        rw [List.eraseIdx_cons_succ, List.map_cons, List.map_cons, ih found,
          List.erase_cons_tail (by simpa using same)]

theorem mem_queue_of_findIndex {video : VideoId} {index : Nat}
    (found : room.findIndex video = some index) : video ∈ room.contents.queue := by
  obtain ⟨inside, same, _⟩ := List.findIdx?_eq_some_iff_getElem.mp found
  exact List.mem_map.mpr ⟨room.queue.get ⟨index, inside⟩, List.get_mem _ _, of_decide_eq_true same⟩

theorem queueContains_iff {video : VideoId} :
    room.queueContains video = true ↔ video ∈ room.contents.queue := by
  unfold queueContains
  constructor
  · intro contained
    obtain ⟨index, found⟩ := Option.isSome_iff_exists.mp contained
    exact mem_queue_of_findIndex room found
  · intro queued
    obtain ⟨item, member, same⟩ := List.mem_map.mp queued
    rw [findIndex, List.findIdx?_isSome, List.any_eq_true]
    exact ⟨item, member, decide_eq_true same⟩

theorem isVideoInQueue_iff {video : VideoId}
    (other : room.currentSource.map QueueItem.toVideoId ≠ some video) :
    room.isVideoInQueue video = true ↔ video ∈ room.contents.queue := by
  unfold isVideoInQueue
  rw [decide_eq_false other, Bool.false_or, List.any_eq_true]
  constructor
  · rintro ⟨item, member, same⟩
    exact List.mem_map.mpr ⟨item, member, of_decide_eq_true same⟩
  · intro queued
    obtain ⟨item, member, same⟩ := List.mem_map.mp queued
    exact ⟨item, member, decide_eq_true same⟩

/-- `evict` takes the first such video out, or finds none. -/
theorem evict_cases (video : VideoId) :
    (evict video).outcome room = .error .videoNotFound ∧ (evict video).after room = room ∧
        video ∉ room.contents.queue ∨
      ∃ index item, (evict video).outcome room = .ok (index, item) ∧
        (evict video).after room = room.assignQueue (room.queue.eraseIdx index) ∧
        item.toVideoId = video ∧ video ∈ room.contents.queue ∧
        (room.queue.eraseIdx index).map QueueItem.toVideoId = room.contents.queue.erase video ∧
        (room.queue.eraseIdx index).length + 1 = room.queue.length := by
  cases found : room.findIndex video with
  | none =>
      left
      have absent : video ∉ room.contents.queue := by
        rw [← queueContains_iff, queueContains, found]
        exact Bool.false_ne_true
      unfold evict
      rw [outcome_get_bind, after_get_bind, found]
      exact ⟨rfl, rfl, absent⟩
  | some index =>
      right
      obtain ⟨inside, same, _⟩ := List.findIdx?_eq_some_iff_getElem.mp found
      refine ⟨index, room.queue.get ⟨index, inside⟩, ?_, ?_, of_decide_eq_true same,
        mem_queue_of_findIndex room found, eraseIdx_map found, ?_⟩
      · unfold evict
        rw [outcome_get_bind, found]
        dsimp only
        rw [List.getElem?_eq_getElem inside]
        rfl
      · unfold evict
        rw [after_get_bind, found]
        dsimp only
        rw [List.getElem?_eq_getElem inside]
        rfl
      · rw [List.length_eraseIdx_of_lt inside]
        omega

/-- `pushTop` pushes within the cap, or throws. -/
theorem pushTop_cases (video : QueueItem) :
    (∃ error, (pushTop video).outcome room = .error error) ∧ (pushTop video).after room = room ∧
        ¬ room.queue.length + 1 ≤ MAX_QUEUE_ITEMS ∨
      (pushTop video).outcome room = .ok () ∧ room.queue.length + 1 ≤ MAX_QUEUE_ITEMS ∧
        (pushTop video).after room = room.assignQueue (video :: room.queue) := by
  unfold pushTop
  rw [outcome_get_bind, after_get_bind]
  by_cases full : room.queue.length + 1 > MAX_QUEUE_ITEMS
  · rw [if_pos full]
    exact Or.inl ⟨⟨_, rfl⟩, rfl, by omega⟩
  · rw [if_neg full]
    exact Or.inr ⟨rfl, by omega, rfl⟩

theorem assignQueue_contents (items : List QueueItem) :
    (room.assignQueue items).contents =
      { room.contents with queue := items.map QueueItem.toVideoId } := rfl

theorem assignPrevQueue_contents (items : Option (List QueueItem)) :
    (room.assignPrevQueue items).contents =
      { room.contents with prevQueue := items.map fun items => items.map QueueItem.toVideoId } := by
  unfold assignPrevQueue
  split
  · rename_i none
    simp only [Bool.and_eq_true, Option.isNone_iff_eq_none] at none
    obtain ⟨rfl, absent⟩ := none
    unfold contents
    rw [absent]
  · rfl

end Items

section Requests

variable (env : Env) (context : RoomRequestContext) (room : Room)

theorem joinRoom_turn (info : ClientInfo) (reconnect : Bool) :
    Lands (Turn env room (.request (.join info reconnect) context))
      (joinRoom env info reconnect context) room := by
  unfold joinRoom
  split
  · exact .throw _ (.stayed _)
  · refine .ite (fun _ => .throw _ (.stayed _)) fun _ => ?_
    have held : Steady room (room.holdEmptyPlaybackForJoin reconnect env.now) :=
      .onPlayback (Playback.holdEmptyPlaybackForJoin_steady _ _ env.now reconnect)
    refine .modify_bind ?_
    generalize room.holdEmptyPlaybackForJoin reconnect env.now = middle at held
    split
    · refine .throw _ ?_
      rw [held.contents]
      exact .stayed _
    · rename_i user updated
      have id : user.id = info.id := by
        unfold RoomUser.updateInfo RoomUser.updateUserId at updated
        dsimp only at updated
        obtain ⟨looked, found, rfl⟩ := Option.map_eq_some_iff.mp updated
        have kept : looked.id = info.id := by
          split at found
          · obtain ⟨_, _, rfl⟩ := Option.map_eq_some_iff.mp found
            rfl
          · cases found
            split <;> rfl
        cases info.status with
        | none => exact kept
        | some status => exact kept
      have announced : ∀ other : Room,
          Steady other (other.announceJoin (.join info reconnect) context user) := by
        intro other
        have told : Steady other
            (if other.sessionResumed user.token user.id then other.noteJoin user.token
              else other.publishRoomEvent (.join info reconnect) context {} none) := by
          split
          · exact .of_eq rfl rfl
          · exact steady_messages.publishRoomEvent _ _ _ _ _
        unfold announceJoin
        dsimp only
        split
        · exact told.trans (.of_eq rfl rfl)
        · exact told
      have resumed : ∀ other : Room, Steady other (other.onPlayback (Playback.resumeForJoin reconnect
          (other.grants.granted context.role .playPause) env.uuid other.toAudience env.now)) :=
        fun other => .onPlayback (Playback.resumeForJoin_steady _ _ env.now _ _ _)
      have seated : ({ middle with realusers := middle.realusers ++ [user] } : Room).contents =
          { room.contents with viewers := room.contents.viewers ++ [info.id] } := by
        rw [← held.contents, ← id]
        unfold contents
        rw [List.map_append]
        rfl
      refine .modify_bind (.steady (Keeps.modify_bind (resumed _) (keeps_modify _ (announced _))) ?_)
      rw [seated]
      exact .joined info reconnect context

/-- The first viewer with an id is where the list of ids has it first. -/
theorem eraseP_map (users : List RoomUser) (clientId : ClientId) :
    (users.eraseP fun user => decide (user.id = clientId)).map RoomUser.id =
      (users.map RoomUser.id).erase clientId := by
  induction users with
  | nil => rfl
  | cons user rest ih =>
      by_cases same : user.id = clientId
      · simp [same]
      · rw [List.eraseP_cons_of_neg (by simpa using same), List.map_cons, List.map_cons,
          ih, List.erase_cons_tail (by simpa using same)]

/-- A leaver's votes to skip go where they count. -/
theorem dropSkipVote_contents (clientId : ClientId) :
    (if room.enableVoteSkip then
        { room with votesToSkip := room.votesToSkip.remove clientId }.markDirty .votesToSkip
      else room).contents =
      { room.contents with
        votesToSkip :=
          if room.contents.enableVoteSkip then room.contents.votesToSkip.remove clientId
          else room.contents.votesToSkip } := by
  have setting : room.contents.enableVoteSkip = room.enableVoteSkip := rfl
  rw [setting]
  split <;> rfl

/-- A leaver's votes for videos go in vote mode. -/
theorem dropVideoVotes_contents (clientId : ClientId) (counted : Bool) :
    (if room.queueMode = .vote then
        let dropped := { room with
          votes := room.votes.map fun entry : String × OrderedSet ClientId =>
            (entry.1, entry.2.remove clientId) }
        if counted then dropped.markDirty .voteCounts else dropped
      else room).contents =
      { room.contents with
        votes :=
          if room.contents.queueMode = .vote then
            room.contents.votes.map fun entry : String × OrderedSet ClientId =>
              (entry.1, entry.2.remove clientId)
          else room.contents.votes } := by
  have setting : room.contents.queueMode = room.queueMode := rfl
  rw [setting]
  split
  · dsimp only
    split <;> rfl
  · rfl

theorem removeUser_contents (clientId : ClientId) :
    (room.removeUser clientId).contents =
      { room.contents with viewers := room.contents.viewers.erase clientId } :=
  congrArg (fun viewers => { room.contents with viewers }) (eraseP_map room.realusers clientId)

theorem dropVotes_contents (clientId : ClientId) :
    ((room.dropVotes clientId).removeUser clientId).contents = room.contents.leave clientId := by
  rw [removeUser_contents]
  unfold dropVotes
  dsimp only
  rw [dropVideoVotes_contents, dropSkipVote_contents]
  rfl

theorem forgetUser_contents (user : RoomUser) :
    (room.forgetUser context user).contents = room.contents.leave user.id := by
  have announced : Steady room (room.publishLeaveEvent context (room.userInfo user) user.token) := by
    unfold publishLeaveEvent
    split
    · exact steady_messages.publishRoomEvent _ _ _ _ _
    · split <;> exact .of_eq rfl rfl
  unfold forgetUser
  rw [dropVotes_contents, announced.contents]

theorem leaveRoom_turn :
    Lands (Turn env room (.request .leave context)) (leaveRoom env context) room := by
  unfold leaveRoom
  split
  · exact .throw _ (.stayed _)
  · rename_i clientId named
    have ended := endOwnGesture_steady room clientId env.now
    refine .modify_bind ?_
    generalize room.endOwnGesture clientId env.now = middle at ended
    refine .get_bind ?_
    split
    · refine .throw _ ?_
      rw [ended.contents]
      exact .stayed _
    · rename_i user found
      have same : user.id = clientId := by
        unfold Audience.getUser at found
        simpa using List.find?_some found
      refine .modify_bind (.steady (Keeps.bind (settleLeave_steady env _ clientId) fun _ _ =>
        keeps_modify _ (evaluateBufferGate_steady _ env.now)) ?_)
      rw [forgetUser_contents, ended.contents, same]
      refine .left context clientId named ?_
      rw [← ended.contents, ← same]
      exact List.mem_map.mpr ⟨user, List.mem_of_find?_eq_some found, rfl⟩

theorem voteToSkip_contents :
    (room.voteToSkip context).contents = room.contents.voteToSkip context.clientId := by
  have counted : ∀ (skips : Bool) (clientId : Option ClientId),
      (match skips, clientId with
        | true, some clientId => if clientId = "" then room else room.toggleSkipVote clientId
        | _, _ => room).contents =
      match skips, clientId with
        | true, some clientId =>
            if clientId = "" then room.contents
            else { room.contents with
              votesToSkip :=
                if clientId ∈ room.contents.votesToSkip then
                  room.contents.votesToSkip.remove clientId
                else room.contents.votesToSkip.add clientId }
        | _, _ => room.contents := by
    intro skips clientId
    split
    · split <;> rfl
    · rfl
  exact counted room.enableVoteSkip context.clientId

theorem skip_turn (may : room.grants.granted context.role .skip = true) :
    Lands (Turn env room (.request .skip context)) (skip env context) room := by
  unfold skip
  refine .get_bind ?_
  split
  · exact .pure _ (.stayed _)
  · rename_i current present
    have playing : room.contents.source.isSome = true := by
      change (room.currentSource.map QueueItem.toVideoId).isSome = true
      rw [present]
      rfl
    refine .modify_bind (.ite (fun enough => ?_) fun short => ?_)
    · refine .modify_bind (.steady (Keeps.modify_bind (steady_messages.publishRoomEvent _ _ _ _ _)
        (keeps_modify _ (.of_eq rfl rfl))) ?_)
      rw [dequeueNext_contents, voteToSkip_contents]
      exact .skipped context playing may enough
    · refine .pure _ ?_
      rw [voteToSkip_contents]
      exact .votedToSkip context playing may short

theorem removeFromQueue_lands (reached : Contents → Prop) (video : VideoId)
    (base : reached room.contents) (taken : reached (room.contents.remove video)) :
    Lands reached (removeFromQueue video context) room := by
  unfold removeFromQueue
  refine .ite (fun _ => ?_) fun _ => .throw _ base
  rcases evict_cases room video with ⟨failed, same, _⟩ | ⟨index, item, passed, after, _, _, erased, _⟩
  · refine .bind_error failed ?_
    rw [same]
    exact base
  · refine .bind_ok passed ?_
    refine .modify_bind (.steady (keeps_modify _ (steady_messages.publishRoomEvent _ _ _ _ _)) ?_)
    rw [after]
    have cleared : ({ room.assignQueue (room.queue.eraseIdx index) with
        votes := room.votes.delete video.voteKey }.markDirty .voteCounts).contents =
          room.contents.remove video := by
      unfold Contents.remove
      rw [← erased]
      rfl
    exact cleared ▸ taken

theorem vote_turn (may : room.grants.granted context.role .queueVote = true) (video : VideoId)
    (add : Bool) :
    Lands (Turn env room (.request (.vote video add) context)) (vote video add context) room := by
  unfold vote
  split
  · exact .throw _ (.stayed _)
  · rename_i clientId named
    have named : context.clientId = some clientId := (Option.filter_eq_some_iff.mp named).1
    refine .ite (fun _ => .throw _ (.stayed _)) fun contained => ?_
    have queued : video ∈ room.contents.queue := by
      rw [← queueContains_iff]
      simpa using contained
    have written : ∀ other : Room, ((match other.votes.get video.voteKey with
          | some voters => { other with
              votes := other.votes.set video.voteKey
                (if add then voters.add clientId else voters.remove clientId) }
          | none =>
              if add then { other with votes := other.votes.set video.voteKey [clientId] }
              else other).markDirty .voteCounts).contents =
        other.contents.vote video add clientId := by
      intro other
      unfold Contents.vote
      change _ = match other.votes.get video.voteKey with
        | some voters => _
        | none => _
      split
      · rfl
      · split <;> rfl
    have turned : Turn env room (.request (.vote video add) context)
        (room.contents.vote video add clientId) :=
      .voted video add context clientId named queued may
    rw [← written room] at turned
    exact .of_modify turned

/-- `enqueue` followed by steps that touch the queue no more. -/
theorem enqueue_lands {reached : Contents → Prop} {videos : List QueueItem}
    {next : Unit → RoomM Unit} (base : reached room.contents)
    (tail : room.queue.length + videos.length ≤ MAX_QUEUE_ITEMS →
      Lands reached (next ()) (room.assignQueue (room.queue ++ videos)))
    (empty : videos ≠ []) : Lands reached (enqueue videos >>= next) room := by
  have full : enqueue videos = get >>= fun room =>
      if videos.isEmpty then pure ()
      else if room.queue.length + videos.length > MAX_QUEUE_ITEMS then throw queueFull
      else modify fun room => room.assignQueue (room.queue ++ videos) := rfl
  have some : videos.isEmpty = false := by simpa using empty
  by_cases fits : room.queue.length + videos.length > MAX_QUEUE_ITEMS
  · have failed : (enqueue videos).outcome room = .error queueFull := by
      rw [full, outcome_get_bind, some, if_neg Bool.false_ne_true, if_pos fits]
      rfl
    have after : (enqueue videos).after room = room := by
      rw [full, after_get_bind, some, if_neg Bool.false_ne_true, if_pos fits]
      rfl
    refine .bind_error failed ?_
    rw [after]
    exact base
  · have passed : (enqueue videos).outcome room = .ok () := by
      rw [full, outcome_get_bind, some, if_neg Bool.false_ne_true, if_neg fits]
      rfl
    have after : (enqueue videos).after room = room.assignQueue (room.queue ++ videos) := by
      rw [full, after_get_bind, some, if_neg Bool.false_ne_true, if_neg fits]
      rfl
    refine .bind_ok passed ?_
    rw [after]
    exact tail (by omega)

theorem addVideo_turn (request asked : AddRequest) (video : VideoAdd)
    (asks : room.additions env asked = room.additionsOf env video.toVideoId) :
    Lands (Turn env room (.request (.add asked) context))
      (addVideo env request video context) room := by
  unfold addVideo
  refine .ite (fun _ => .throw _ (.stayed _)) fun unqueued => ?_
  split
  · exact .throw _ (.stayed _)
  · rename_i info found
    have one : room.additions env asked = 1 := by
      rw [asks, additionsOf, found, Option.isNone_some, Bool.or_false, if_neg unqueued]
    refine .bind_of_after (assertUsableSubtitle_after room env _) (.stayed _) fun _ _ => ?_
    refine enqueue_lands room (.stayed _) ?_ (List.cons_ne_nil _ _)
    intro fits
    refine .modify_bind (.steady (keeps_modify _ (steady_messages.publishRoomEvent _ _ _ _ _)) ?_)
    rw [assignPrevQueue_contents, assignQueue_contents, List.map_append]
    refine .added asked context [_] none (Or.inl rfl) ?_ one.symm
    change (room.queue.map QueueItem.toVideoId).length + 1 ≤ MAX_QUEUE_ITEMS
    rw [List.length_map]
    exact fits

theorem addVideos_turn (asked : AddRequest) (videos : List VideoAdd)
    (many : ∀ items kept, env.getManyVideoInfo videos = some items →
      room.usableVideos env items = .ok kept → room.additions env asked = kept.length) :
    Lands (Turn env room (.request (.add asked) context))
      (addVideos env asked videos context) room := by
  unfold addVideos
  split
  · exact .throw _ (.stayed _)
  · rename_i items answered
    refine .get_bind ?_
    split
    · exact .throw _ (.stayed _)
    · rename_i kept usable
      refine .ite (fun _ => .throw _ (.stayed _)) fun nonempty => ?_
      refine enqueue_lands room (.stayed _) ?_ (by simpa using nonempty)
      intro fits
      refine .steady (keeps_modify _ (steady_messages.publishRoomEvent _ _ _ _ _)) ?_
      rw [assignQueue_contents, List.map_append]
      have counted : (kept.map QueueItem.toVideoId).length = room.additions env asked := by
        rw [List.length_map, many items kept answered usable]
      refine .added asked context _ room.contents.prevQueue (Or.inr rfl) ?_ counted
      change (room.queue.map QueueItem.toVideoId).length +
        (kept.map QueueItem.toVideoId).length ≤ MAX_QUEUE_ITEMS
      rw [List.length_map, List.length_map]
      exact fits

theorem addToQueue_turn (request : AddRequest) :
    Lands (Turn env room (.request (.add request) context)) (addToQueue env request context) room := by
  unfold addToQueue
  refine .bind_of_after (checkAddRequest_after room request) (.stayed _) fun _ _ => ?_
  refine .ite (fun url => ?_) fun noUrl => ?_
  · split
    · exact .throw _ (.stayed _)
    · rename_i video named
      have asks : room.additions env request = room.additionsOf env video := by
        unfold additions
        rw [if_pos url, named]
        rfl
      exact .bind_of_after (assertUsableVideoId_after room _) (.stayed _) fun _ _ =>
        addVideo_turn env context room request request video.asAdd asks
  · have noUrl : request.url.any (fun url => decide (url ≠ "")) = false := by
      simpa using noUrl
    split
    · rename_i _ _ video present
      have asks : room.additions env request = room.additionsOf env video.toVideoId := by
        unfold additions
        rw [present, noUrl]
        rfl
      exact addVideo_turn env context room request request video asks
    · rename_i videos absent present
      refine addVideos_turn env context room request videos ?_
      intro items kept answered usable
      unfold additions
      rw [absent, present, noUrl, Option.bind_some, answered, Option.map_some, usable]
      rfl
    · exact .pure _ (.stayed _)

theorem restoreQueue_turn (discard : Bool) :
    Lands (Turn env room (.request (.restoreQueue discard) context))
      (restoreQueue discard context) room := by
  unfold restoreQueue
  refine .check (.stayed _) fun _ => ?_
  refine .get_bind ?_
  split
  · exact .throw _ (.stayed _)
  · rename_i items saved
    cases discard with
    | true =>
        refine .ite (fun _ => .of_modify ?_) fun never => absurd rfl never
        rw [assignPrevQueue_contents]
        exact .discarded context
    | false =>
        refine .ite (fun wrong => absurd wrong Bool.false_ne_true) fun _ => ?_
        refine .ite (fun _ => .throw _ (.stayed _)) fun fits => ?_
        have stored : room.contents.prevQueue = some (items.map QueueItem.toVideoId) := by
          change room.prevQueue.map _ = _
          rw [saved]
          rfl
        have room' : room.contents.queue.length + (items.map QueueItem.toVideoId).length ≤
            MAX_QUEUE_ITEMS := by
          change (room.queue.map QueueItem.toVideoId).length + _ ≤ _
          rw [List.length_map, List.length_map]
          omega
        have turned : Turn env room (.request (.restoreQueue false) context)
            { room.contents with
              queue := room.contents.queue ++ items.map QueueItem.toVideoId, prevQueue := none } :=
          .restored context _ stored room'
        by_cases nothing : items = []
        · subst nothing
          rw [List.map_nil, List.append_nil] at turned
          refine .bind_of_after ?_ (.stayed _) fun _ _ => .of_modify ?_
          · rfl
          · rw [assignPrevQueue_contents]
            exact turned
        · refine enqueue_lands room (.stayed _) ?_ nothing
          intro _
          refine .of_modify ?_
          rw [assignPrevQueue_contents, assignQueue_contents, List.map_append]
          exact turned

theorem reorderQueue_turn (fromIdx toIdx : Number) :
    Lands (Turn env room (.request (.order fromIdx toIdx) context))
      (reorderQueue fromIdx toIdx) room := by
  unfold reorderQueue
  split
  · rename_i source target _ _
    unfold move
    refine .ite (fun _ => .pure _ (.stayed _)) fun _ => ?_
    refine .get_bind ?_
    split
    · exact .throw _ (.stayed _)
    · rename_i item there
      refine .ite (fun _ => .throw _ (.stayed _)) fun inside => .of_modify ?_
      rw [assignQueue_contents]
      obtain ⟨bound, same⟩ := List.getElem?_eq_some_iff.mp there
      have moved : ((room.queue.eraseIdx source).insertIdx target item).Perm room.queue := by
        have placed : target ≤ (room.queue.eraseIdx source).length := by
          rw [List.length_eraseIdx_of_lt bound]
          omega
        refine (List.perm_insertIdx item (room.queue.eraseIdx source) placed).trans ?_
        rw [← same]
        exact List.getElem_cons_eraseIdx_perm bound
      exact .reordered _ _ (moved.map QueueItem.toVideoId)
  · exact .throw _ (.stayed _)

theorem shuffle_turn :
    Lands (Turn env room (.request .shuffle context)) (shuffle env context) room := by
  unfold shuffle
  refine .check (.stayed _) fun _ => .of_modify ?_
  rw [assignQueue_contents]
  exact .reordered _ _ ((env.shuffle_perm room.queue).map QueueItem.toVideoId)

/-- Settings reach the contents through the queue mode and the vote skip. -/
theorem writeSettings_contents (settings : RoomSettings) :
    (room.writeSettings settings).contents =
      { room.contents with
        queueMode := settings.queueMode.getD room.contents.queueMode
        enableVoteSkip := settings.enableVoteSkip.getD room.contents.enableVoteSkip } := by
  have wanted : ∀ (want : Bool) (other : Room),
      (if want then { other with wantSponsorBlock := true } else other).contents =
        other.contents := by
    intro want other
    split <;> rfl
  have categories : ∀ other : Room, (other.applyCategories settings).contents = other.contents := by
    intro other
    unfold applyCategories
    split <;> rfl
  unfold writeSettings
  dsimp only
  rw [wanted]
  iterate 3 rw [applySetting_frame contents]
  rw [applySetting_project contents _ settings.enableVoteSkip _
    (fun value contents => { contents with enableVoteSkip := value }) fun _ _ => rfl]
  rw [applySetting_frame contents, categories]
  rw [applySetting_project contents _ settings.queueMode _
    (fun value contents => { contents with queueMode := value }) fun _ _ => rfl]
  iterate 3 rw [applySetting_frame contents]
  · cases settings.queueMode <;> cases settings.enableVoteSkip <;> rfl
  all_goals intro value other
  all_goals first | rfl | exact writeGrants_frame contents other (fun _ _ => rfl) value.masks

theorem applySettings_turn (settings : RoomSettings) :
    Lands (Turn env room (.request (.applySettings settings) context))
      (applySettings env settings context) room := by
  unfold applySettings
  refine .get_bind ?_
  refine .bind_of_after (forM_after room (fun _ => check_after room _ _) _) (.stayed _)
    fun _ _ => ?_
  refine .ite (fun _ => .throw _ (.stayed _)) fun _ => ?_
  refine .modify_bind (.steady (keeps_modify _ (evaluateBufferGate_steady _ env.now)) ?_)
  rw [writeSettings_contents]
  exact .configured settings context _ _

theorem pushCurrent_of_none (absent : room.currentSource = none) :
    room.contents.pushCurrent = room.contents := by
  have source : room.contents.source = none := by
    change room.currentSource.map _ = none
    rw [absent]
    rfl
  unfold Contents.pushCurrent
  rw [source]

theorem pushCurrent_of_some {item : QueueItem} (present : room.currentSource = some item) :
    room.contents.pushCurrent =
      { room.contents with queue := item.toVideoId :: room.contents.queue } := by
  have source : room.contents.source = some item.toVideoId := by
    change room.currentSource.map _ = _
    rw [present]
    rfl
  unfold Contents.pushCurrent
  rw [source]
  dsimp only
  rw [source]

/-- The current item is pushed to the top of the queue, or does not fit. -/
theorem pushInterrupted_lands {reached : Contents → Prop} {next : Unit → RoomM Unit}
    (full : ¬ (room.currentSource.isNone ∨ room.queue.length + 1 ≤ MAX_QUEUE_ITEMS) →
      reached room.contents)
    (tail : (room.currentSource.isNone ∨ room.queue.length + 1 ≤ MAX_QUEUE_ITEMS) →
      ∀ pushed : Room, pushed.contents = room.contents.pushCurrent → Lands reached (next ()) pushed) :
    Lands reached (pushInterrupted env >>= next) room := by
  cases present : room.currentSource with
  | none =>
      have stays : (pushInterrupted env).after room = room := by
        unfold pushInterrupted
        rw [after_get_bind, present]
        rfl
      have returns : (pushInterrupted env).outcome room = .ok () := by
        unfold pushInterrupted
        rw [outcome_get_bind, present]
        rfl
      refine .bind_ok returns ?_
      rw [stays]
      exact tail (Or.inl (by rw [present]; rfl)) room (pushCurrent_of_none room present).symm
  | some source =>
      generalize resumed_eq : ({ source with
        startAt := some (room.realPlaybackPosition env.now) } : QueueItem) = resumed
      have same : resumed.toVideoId = source.toVideoId := by
        rw [← resumed_eq]
      have unfolded : (pushInterrupted env).after room =
            (pushTop resumed).after (room.retimeCurrent resumed) ∧
          (pushInterrupted env).outcome room =
            (pushTop resumed).outcome (room.retimeCurrent resumed) := by
        unfold pushInterrupted
        rw [after_get_bind, outcome_get_bind, present]
        dsimp only
        rw [resumed_eq, after_modify_bind, outcome_modify_bind]
        exact ⟨rfl, rfl⟩
      have retimed : (room.retimeCurrent resumed).contents = room.contents := by
        unfold contents retimeCurrent
        dsimp only
        rw [present, Option.map_some, Option.map_some, same]
      rcases pushTop_cases (room.retimeCurrent resumed) resumed with
        ⟨⟨error, failed⟩, after, refused⟩ | ⟨passed, fits, after⟩
      · refine .bind_error (unfolded.2.trans failed) ?_
        rw [unfolded.1, after, retimed]
        refine full ?_
        rintro (idle | fits)
        · rw [present] at idle
          cases idle
        · exact refused fits
      · refine .bind_ok (unfolded.2.trans passed) ?_
        rw [unfolded.1, after]
        refine tail (Or.inr fits) _ ?_
        rw [assignQueue_contents, retimed, List.map_cons, same, pushCurrent_of_some room present]
        rfl

/-- A check that returned let the video id pass. -/
theorem usable_of_assert {video : VideoId} {value : Unit}
    (passed : (assertUsableVideoId video).outcome room = .ok value) :
    utf16Length video.id ≠ 0 ∧ utf16Length video.id ≤ MAX_VIDEO_ID_LENGTH := by
  unfold assertUsableVideoId at passed
  split at passed
  · cases passed
  · rename_i usable
    omega

/-- A check that returned let the subtitle pass. -/
theorem usableSubtitle_of_assert {subtitleUrl : Option String} {value : Unit}
    (passed : (assertUsableSubtitle env subtitleUrl).outcome room = .ok value) :
    usableSubtitle env subtitleUrl = true := by
  unfold assertUsableSubtitle at passed
  unfold usableSubtitle
  cases subtitleUrl with
  | none => rfl
  | some url =>
      dsimp only at passed
      split at passed
      · rename_i empty
        simp [empty]
      · split at passed
        · cases passed
        · rename_i fine
          simp [fine]

/-- Once its item is at hand, a play-now request sets the source. -/
theorem startNow_lands {reached : Contents → Prop} (item : QueueItem)
    (base : reached (room.contents.setSource (some item.toVideoId))) :
    Lands reached (do
      modify (onPlayback (Playback.takeSource item 0 env.now))
      modify (markDirty .queue)
      modify (assignVideoSegments [])
      modify fun room => room.onPlayback (Playback.startItemNow env.uuid room.toAudience env.now)
      modify fun room =>
        if room.autoSkipSegmentCategories.isEmpty then room
        else { room with wantSponsorBlock := true } : RoomM Unit) room := by
  have started : ∀ other : Room, Steady other
      (other.onPlayback (Playback.startItemNow env.uuid other.toAudience env.now)) :=
    fun _ => .onPlayback (Playback.startItemNow_steady _ _ env.now env.uuid)
  have wanted : ∀ other : Room, Steady other
      (if other.autoSkipSegmentCategories.isEmpty then other
        else { other with wantSponsorBlock := true }) := by
    intro other
    split <;> exact .of_eq rfl rfl
  refine .modify_bind (.steady (Keeps.modify_bind (.of_eq rfl rfl) (Keeps.modify_bind
    (.of_eq rfl rfl) (Keeps.modify_bind (started _) (keeps_modify _ (wanted _))))) ?_)
  rw [takeSource_contents]
  exact base

theorem withSubtitle_id (subtitleUrl : Option String) (item : QueueItem) :
    (withSubtitle subtitleUrl item).toVideoId = item.toVideoId := by
  unfold withSubtitle
  split <;> rfl

theorem takeRequested_queued {video : VideoId} (queued : video ∈ room.contents.queue) :
    ∃ index item, (takeRequested env video true).outcome room = .ok item ∧
      (takeRequested env video true).after room = room.assignQueue (room.queue.eraseIdx index) ∧
      item.toVideoId = video ∧
      (room.assignQueue (room.queue.eraseIdx index)).contents =
        { room.contents with queue := room.contents.queue.erase video } ∧
      (room.queue.eraseIdx index).length + 1 = room.queue.length := by
  rcases evict_cases room video with
    ⟨_, _, absent⟩ | ⟨index, item, passed, after, same, _, erased, shorter⟩
  · exact absurd queued absent
  · refine ⟨index, item, ?_, ?_, same, ?_, shorter⟩
    · unfold takeRequested
      rw [if_pos rfl, outcome_bind, passed]
      rfl
    · unfold takeRequested
      rw [if_pos rfl, after_bind, passed, after]
      rfl
    · rw [assignQueue_contents, erased]

/-- The checks of a play-now request that come before the video is asked for. -/
theorem acceptsPlayNow_of_checks {video : VideoAdd} {checked added : Unit}
    (may : room.grants.granted context.role .queuePlayNow = true)
    (usable : (assertUsableVideoId video.toVideoId).outcome room = .ok checked)
    (other : room.currentSource.map QueueItem.toVideoId ≠ some video.toVideoId)
    (granted : room.grants.granted context.role
      (if room.isVideoInQueue video.toVideoId then .queueOrder else .queueAdd) = true)
    (space : ¬ (!room.isVideoInQueue video.toVideoId &&
      decide (room.queue.length ≥ MAX_QUEUE_ITEMS)) = true)
    (subtitle : (assertUsableSubtitle env video.subtitleUrl).outcome room = .ok added) :
    room.acceptsPlayNow env context video = true := by
  unfold acceptsPlayNow
  rw [may, granted, usableSubtitle_of_assert env room subtitle,
    decide_eq_true (usable_of_assert room usable), decide_eq_true other]
  cases queued : room.isVideoInQueue video.toVideoId with
  | true => rfl
  | false =>
      rw [queued] at space
      simpa using space

theorem playNow_turn (may : room.grants.granted context.role .queuePlayNow = true)
    (video : VideoAdd) :
    Lands (Turn env room (.request (.playNow video) context)) (playNow env video context) room := by
  unfold playNow
  refine .bind_of_after (assertUsableVideoId_after room _) (.stayed _) fun _ usable => ?_
  refine .get_bind (.ite (fun _ => .pure _ (.stayed _)) fun other => ?_)
  refine .check (.stayed _) fun granted => ?_
  refine .ite (fun _ => .throw _ (.stayed _)) fun space => ?_
  refine .bind_of_after (assertUsableSubtitle_after room env _) (.stayed _) fun _ subtitle => ?_
  have accepts := acceptsPlayNow_of_checks env context room may usable other granted space subtitle
  have inQueue := isVideoInQueue_iff room other
  cases queued : room.isVideoInQueue video.toVideoId with
  | true =>
      have member := inQueue.mp queued
      obtain ⟨index, item, passed, after, same, without, shorter⟩ :=
        takeRequested_queued env room member
      refine .bind_ok passed ?_
      rw [after]
      refine pushInterrupted_lands env _ ?_ ?_
      · intro _
        rw [without]
        exact .evicted video context accepts member
      · intro fits pushed moved
        refine startNow_lands env pushed _ ?_
        rw [moved, without, withSubtitle_id, same]
        refine .playedQueued video context ?_ member
        have fits : (room.currentSource.isNone ||
            decide (room.queue.length ≤ MAX_QUEUE_ITEMS)) = true := by
          rcases fits with idle | fits
          · have idle : room.currentSource.isNone = true := idle
            rw [idle]
            rfl
          · have fits : (room.queue.eraseIdx index).length + 1 ≤ MAX_QUEUE_ITEMS := fits
            rw [shorter] at fits
            rw [decide_eq_true fits, Bool.or_true]
        unfold playsNow
        rw [accepts, queued, fits]
        rfl
  | false =>
      have absent : video.toVideoId ∉ room.contents.queue := by
        rw [← inQueue, queued]
        exact Bool.false_ne_true
      have space : room.queue.length < MAX_QUEUE_ITEMS := by
        rw [queued] at space
        simpa using space
      unfold takeRequested
      rw [if_neg Bool.false_ne_true]
      cases answered : env.getVideoInfo video.toVideoId with
      | none => exact .throw _ (.stayed _)
      | some item =>
          refine pushInterrupted_lands env room ?_ ?_
          · intro _
            exact .stayed _
          · intro fits pushed moved
            refine startNow_lands env pushed _ ?_
            rw [moved]
            refine .playedNow video context _ ?_ ?_ absent
            · unfold playsNow
              rw [accepts, queued, answered, decide_eq_true (Nat.le_of_lt space), Bool.or_true]
              rfl
            · change (room.queue.map QueueItem.toVideoId).length + 1 ≤ MAX_QUEUE_ITEMS
              rw [List.length_map]
              exact space

/-- The current item is queued unless it is, or does not fit. -/
theorem requeueCurrent_cases :
    (∃ error, requeueCurrent.outcome room = .error error) ∧ requeueCurrent.after room = room ∨
      requeueCurrent.outcome room = .ok () ∧ room.canRequeue = true ∧
        (requeueCurrent.after room).contents = room.contents.requeueCurrent := by
  cases present : room.currentSource with
  | none =>
      right
      have source : room.contents.source = none := by
        change room.currentSource.map _ = none
        rw [present]
        rfl
      unfold requeueCurrent canRequeue Contents.requeueCurrent
      rw [outcome_get_bind, after_get_bind, present, source]
      exact ⟨rfl, rfl, rfl⟩
  | some item =>
      have source : room.contents.source = some item.toVideoId := by
        change room.currentSource.map _ = _
        rw [present]
        rfl
      unfold requeueCurrent canRequeue Contents.requeueCurrent
      rw [outcome_get_bind, after_get_bind, present, source]
      dsimp only [Option.all_some]
      by_cases contained : room.queueContains item.toVideoId = true
      · right
        rw [if_pos contained, contained, if_pos ((queueContains_iff room).mp contained)]
        exact ⟨rfl, rfl, rfl⟩
      · have absent : item.toVideoId ∉ room.contents.queue := by
          rw [← queueContains_iff]
          exact contained
        rw [if_neg contained, if_neg absent, pushCurrent_of_some room present]
        rcases pushTop_cases room item with ⟨failed, after, _⟩ | ⟨passed, fits, after⟩
        · exact Or.inl ⟨failed, after⟩
        · right
          rw [passed, after, decide_eq_true fits, Bool.or_true]
          exact ⟨rfl, rfl, rfl⟩

theorem undoSkip_turn (echo : UndoEvent) (event : RoomEvent)
    (found : room.undoneEvent echo = some event) (kind : event.request.type = .skip) :
    Lands (Turn env room (.request (.undo echo) context)) (undoSkip env event context) room := by
  have undoes : room.undoes echo = some .skip := by
    unfold Room.undoes
    rw [found, Option.map_some, kind]
  unfold undoSkip
  refine .check (.stayed _) fun skips => .check (.stayed _) fun seeks =>
    .check (.stayed _) fun adds => .check (.stayed _) fun plays => ?_
  rcases requeueCurrent_cases room with ⟨⟨_, failed⟩, after⟩ | ⟨passed, fits, after⟩
  · refine .bind_error failed ?_
    rw [after]
    exact .stayed _
  · refine .bind_ok passed ?_
    split
    · rename_i video position given timed
      refine .of_modify ?_
      rw [takeSource_contents, after]
      refine .undidSkip echo context video.toVideoId ?_ undoes fits
      unfold undoSetsSource
      rw [found, Option.any_some, kind, given, timed]
      simp [skips, seeks, adds, plays, fits]
    · refine .pure _ ?_
      rw [after]
      exact .requeued echo context undoes fits

theorem undoAdd_turn (echo : UndoEvent) (event : RoomEvent)
    (found : room.undoneEvent echo = some event) (kind : event.request.type = .add) :
    Lands (Turn env room (.request (.undo echo) context)) (undoAdd env event context) room := by
  unfold undoAdd
  refine .check (.stayed _) fun removes => .get_bind ?_
  split
  · exact .check (.stayed _) fun _ => removeFromQueue_lands context room _ _ (.stayed _)
      (.undidAdd echo context _)
  · rename_i nothing
    refine .check (.stayed _) fun skips => .of_modify ?_
    rw [dropSource_contents]
    refine .undidFirst echo context ?_
    have alone : (event.request.video.isNone || room.queue.isEmpty) = true := by
      cases asked : event.request.video with
      | none => rfl
      | some video =>
          cases empty : room.queue.isEmpty with
          | true => rfl
          | false => exact absurd empty (nothing video asked)
    unfold undoSetsSource
    rw [found, Option.any_some, kind]
    simp only [List.all_cons, List.all_nil, removes, skips, alone, Bool.and_self]

theorem insertAt_turn (echo : UndoEvent) (video : QueueItem) (index : Number)
    (kind : room.undoes echo = some .remove) :
    Lands (Turn env room (.request (.undo echo) context)) (insertAt video index) room := by
  unfold insertAt
  refine .get_bind ?_
  split
  · exact .throw _ (.stayed _)
  · rename_i place _
    refine .ite (fun _ => .throw _ (.stayed _)) fun _ => ?_
    refine .ite (fun _ => .throw _ (.stayed _)) fun fits => .of_modify ?_
    rw [assignQueue_contents, List.map_insertIdx]
    refine .undidRemove echo context place _ kind ?_
    change (room.queue.map QueueItem.toVideoId).length + 1 ≤ MAX_QUEUE_ITEMS
    rw [List.length_map]
    omega

theorem undo_turn (echo : UndoEvent) :
    Lands (Turn env room (.request (.undo echo) context)) (undo env echo context) room := by
  unfold undo
  refine .ite (fun _ => .throw _ (.stayed _)) fun valid => .get_bind ?_
  split
  · exact .throw _ (.stayed _)
  · rename_i event recorded
    have found : room.undoneEvent echo = some event := by
      unfold undoneEvent
      rw [if_pos (by simpa using valid)]
      exact recorded
    refine .bind_steady ?_ fun _ _ => keeps_modify _ (.of_eq rfl rfl)
    unfold applyUndo
    split
    · split
      · exact .check (.stayed _) fun _ => .steady (seek_steady env context room _) (.stayed _)
      · exact .pure _ (.stayed _)
    · exact undoSkip_turn env context room echo event found ‹_›
    · exact undoAdd_turn env context room echo event found ‹_›
    · rename_i kind
      have undoes : room.undoes echo = some .remove := by
        unfold undoes
        rw [found, Option.map_some, kind]
      refine .check (.stayed _) fun _ => .check (.stayed _) fun _ => ?_
      split
      · exact insertAt_turn env context room echo _ _ undoes
      · exact .pure _ (.stayed _)
    · exact .pure _ (.stayed _)

/-- A speed setting is no part of the contents. -/
theorem setPlaybackSpeed_contents (speed : Number) :
    ((setPlaybackSpeed env speed).after room).contents = room.contents := by
  unfold setPlaybackSpeed
  split
  · rw [after_ite]
    split
    · rfl
    · exact onPlayback_contents (by simp) (by simp)
  · rfl

theorem setTemporaryPlaybackSpeed_contents (action : GestureAction) (gestureId : String)
    (video : Option VideoId) :
    Lands (· = room.contents)
      (setTemporaryPlaybackSpeed env action gestureId video context) room := by
  have : IsPreorder Room fun before after => after.contents = before.contents :=
    { refl := fun _ => rfl, trans := fun _ _ _ first second => second.trans first }
  refine @keeps_setTemporaryPlaybackSpeed (fun before after => after.contents = before.contents) this
    room env context action gestureId video (onPlayback_contents (by simp) (by simp)) rfl
    (releaseBufferGate_steady room env.now false).contents fun _ _ _ _ _ =>
      onPlayback_contents (by simp) (by simp)

theorem processRequest_turn (request : RoomRequest) :
    Lands (Turn env room (.request request context)) (processRequest env request context) room := by
  unfold processRequest
  refine .bind_of_after (checkSome_after room _ _) (.stayed _) fun _ passed => ?_
  have same : ∀ handler : RoomM Unit, handler.Keeps Steady room →
      Lands (Turn env room (.request request context)) handler room :=
    fun _ kept => .steady kept (.stayed _)
  cases request with
  | join info reconnect => exact joinRoom_turn env context room info reconnect
  | leave => exact leaveRoom_turn env context room
  | playback state => exact same _ (playback_steady env context room state)
  | skip => exact skip_turn env context room (granted_of_check room passed)
  | seek value => exact same _ (seek_steady env context room value)
  | add request => exact addToQueue_turn env context room request
  | remove video =>
      exact removeFromQueue_lands context room _ video (.stayed _) (.removed video context)
  | order fromIdx toIdx => exact reorderQueue_turn env context room fromIdx toIdx
  | vote video add => exact vote_turn env context room (granted_of_check room passed) video add
  | promote target role => exact same _ (promoteUser_steady context room target role)
  | updateUser info prepared => exact same _ ((steady_upkeep env.now).updateUser env room info prepared)
  | chat text => exact same _ (steady_messages.chat context room text)
  | undo event => exact undo_turn env context room event
  | applySettings settings => exact applySettings_turn env context room settings
  | playNow video => exact playNow_turn env context room (granted_of_check room passed) video
  | shuffle => exact shuffle_turn env context room
  | playbackSpeed speed =>
      change Turn env room _ ((setPlaybackSpeed env speed).after room).contents
      rw [setPlaybackSpeed_contents]
      exact .stayed _
  | restoreQueue discard => exact restoreQueue_turn env context room discard
  | kick clientId => exact same _ (steady_messages.kickUser context room clientId)
  | updateQueueItem video subtitleUrl =>
      exact same _ (updateQueueItem_steady env context room video subtitleUrl)
  | temporaryPlaybackSpeed action gestureId video =>
      change Turn env room _
        ((setTemporaryPlaybackSpeed env action gestureId video context).after room).contents
      rw [setTemporaryPlaybackSpeed_contents env context room action gestureId video]
      exact .stayed _
  | addNote text => exact same _ (steady_messages.addNote env context room text)
  | deleteNote noteId => exact same _ (steady_messages.deleteNote env room noteId)

theorem orderByVotes_contents :
    ∃ queue, queue.Perm room.contents.queue ∧
      room.orderByVotes.contents = { room.contents with queue } := by
  unfold orderByVotes
  dsimp only
  split
  · exact ⟨room.contents.queue, List.Perm.refl _, rfl⟩
  · exact ⟨_, (List.mergeSort_perm _ _).map QueueItem.toVideoId, rfl⟩

/-- What `update` does to the contents. -/
theorem update_turn : Lands (Turn env room .update) (update env) room := by
  have settled := (settlePlayback_steady env room).contents
  have ordered : ∀ contents : Contents,
      (∀ queue, queue.Perm contents.queue → Turn env room .update { contents with queue }) →
      ∀ other : Room, other.contents = contents →
        Turn env room .update
          (if other.queueMode = .vote then other.orderByVotes else other).contents := by
    intro contents turns other same
    split
    · obtain ⟨queue, perm, after⟩ := orderByVotes_contents other
      rw [after, same]
      exact turns queue (same ▸ perm)
    · rw [same]
      exact turns contents.queue (List.Perm.refl _)
  have finished : ∀ contents : Contents,
      (∀ queue, queue.Perm contents.queue → Turn env room .update { contents with queue }) →
      ∀ other : Room, other.contents = contents → Lands (Turn env room .update) (do
        keepAlive env
        modify fun room => if room.queueMode = .vote then room.orderByVotes else room
        modify (updateSegments env)) other := by
    intro contents turns other same
    have alive := (steady_ticks.keepAlive env other).contents
    refine .bind ?_ ?_
    · intro _ _
      rw [alive, same]
      exact turns contents.queue (List.Perm.refl _)
    · intro _ _
      exact .modify_bind (.steady (keeps_modify _ (updateSegments_steady env _))
        (ordered contents turns _ (alive.trans same)))
  unfold update moveOn
  refine .modify_bind (.modify_bind ?_)
  unfold updateSource
  split
  · rename_i due
    refine finished room.contents.advance (fun queue perm => .advanced queue perm due) _ ?_
    rw [dequeueNext_contents, settled]
  · exact finished room.contents (fun queue perm => .reordered _ queue perm) _ settled

end Requests

end Room

namespace RoomAction

variable (env : Env) (room : Room)

theorem apply_turn (action : RoomAction) : Turn env room action (action.apply env room).contents := by
  by_cases background : action.isBackground = true
  · rw [(apply_steady env room action background).contents]
    exact .stayed _
  · cases action with
    | request request context => exact Room.processRequest_turn env context room request
    | update => exact Room.update_turn env room
    | _ => exact absurd rfl background

end RoomAction

end OpenTogetherTube
