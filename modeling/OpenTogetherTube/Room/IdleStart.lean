import OpenTogetherTube.Room.Playlist
import OpenTogetherTube.Room.TemporarySpeed

/-!
# The first video of an idle room

`addToQueue` puts a video into a room that plays nothing, and the next `update` takes it
from the queue. Whether it then starts depends on how the room was loaded: a room that was
rebuilt from storage hands the video over paused, whether it had anything saved or not.
-/

namespace OpenTogetherTube

open Lib Lib.Handler

/-- What the services answer with for the videos a request names, as the queue takes them. -/
def AddRequest.answer (env : Env) (request : AddRequest) : List QueueItem :=
  if request.url.any (· ≠ "") then
    ((env.videoOfUrl (request.url.getD "")).bind env.getVideoInfo).toList
  else
    match request.video, request.videos with
    | some video, _ =>
        ((env.getVideoInfo video.toVideoId).map (Room.withSubtitle video.subtitleUrl)).toList
    | none, some videos => (env.getManyVideoInfo videos).getD []
    | none, none => []

namespace Playback

/-- The room shows the video and plays it, or a round is under way that will. -/
def Starts (video : QueueItem) (p : Playback) : Prop :=
  p.currentSource = some video ∧
    (p.isPlaying = true ∨
      ∃ round, p.playbackPreparation = some round ∧ round.video = video.toVideoId)

/-- Whether a dequeue sets the video going. A held start needs a place to start from. -/
def SetsGoing (audience : Audience) (video : QueueItem) (p : Playback) : Prop :=
  if p.restoredFromStorage then p.isPlaying = true
  else canHoldPlaybackForPreparation audience { p with currentSource := some video } = true →
    (video.startAt.getD 0).isFinite = true ∧ (video.startAt.getD 0).lt 0 = false

section Dequeue

variable (p : Playback) (video : QueueItem) (id : String) (audience : Audience) (now : Int)

/-- A hold creates a round just when the position is one to start from. -/
theorem holdPlaybackForPreparation_starts (current : p.currentSource = some video)
    (plain : p.temporarySpeed = none) (free : p.playbackPreparation = none)
    (can : p.canHoldPlaybackForPreparation audience = true) :
    (p.holdPlaybackForPreparation id audience now).Starts video ↔
      p.playbackPosition.isFinite = true ∧ p.playbackPosition.lt 0 = false := by
  unfold canHoldPlaybackForPreparation at can
  rw [Bool.and_eq_true] at can
  obtain ⟨preparable, someone⟩ := can
  have stopped : (p.holdClock now).isPlaying = false := by simp [holdClock]
  have source : (p.holdClock now).currentSource = some video := by simp [current]
  have noRound : (p.holdClock now).playbackPreparation = none := by simp [holdClock, free]
  have position : (p.holdClock now).playbackPosition = p.playbackPosition := by
    unfold holdClock endTemporaryPlaybackSpeed assignIsPlaying
    simp [endTemporaryPlaybackSpeed, markDirty, plain]
  have resumes : (p.holdClock now).resumeOnNextJoin = true := by simp [holdClock]
  have still : (p.holdClock now).canPreparePlayback = true := by
    unfold canPreparePlayback at preparable ⊢
    rw [source]
    rw [current] at preparable
    exact preparable
  have led : ∃ leader others, audience.eligiblePreparers.map RoomUser.id = leader :: others := by
    cases eligible : audience.eligiblePreparers with
    | nil => simp [eligible] at someone
    | cons leader others => exact ⟨leader.id, others.map RoomUser.id, rfl⟩
  obtain ⟨leader, others, led⟩ := led
  unfold holdPlaybackForPreparation prepareEmptyRoomPlayback
  rw [resumes, stopped, noRound, still, source, led, position]
  cases finite : p.playbackPosition.isFinite with
  | false => simp [Starts, free]
  | true =>
      cases negative : p.playbackPosition.lt 0 with
      | true => simp [Starts, free]
      | false => simp [Starts, newRound]

variable {p video}

/-- A dequeued video is set going, or left to whoever plays the restored room. -/
theorem startItem_starts (current : p.currentSource = some video)
    (plain : p.temporarySpeed = none) (free : p.playbackPreparation = none)
    (position : p.playbackPosition = video.startAt.getD 0) :
    (p.startItem id audience now).Starts video ↔ p.SetsGoing audience video := by
  have can : p.canHoldPlaybackForPreparation audience =
      canHoldPlaybackForPreparation audience { p with currentSource := some video } := by
    rw [← current]
  unfold startItem SetsGoing
  rw [← can, ← position]
  split
  · constructor
    · rintro ⟨_, plays | ⟨round, present, _⟩⟩
      · exact plays
      · exact absurd (present.symm.trans free) (Option.some_ne_none round)
    · exact fun plays => ⟨current, Or.inl plays⟩
  · split
    · rename_i held
      rw [holdPlaybackForPreparation_starts p video id audience now current plain free held]
      exact ⟨fun placed _ => placed, fun placed => placed held⟩
    · rename_i shut
      refine iff_of_true ?_ fun held => absurd held shut
      split
      · rename_i plays
        exact ⟨current, Or.inl plays⟩
      · refine ⟨?_, Or.inl ?_⟩
        · simp [current]
        · simp

/-- What it takes is read off what a room keeps when it takes the video. -/
theorem setsGoing_congr {q : Playback} (playing : q.isPlaying = p.isPlaying)
    (restored : q.restoredFromStorage = p.restoredFromStorage) :
    q.SetsGoing audience video ↔ p.SetsGoing audience video := by
  unfold SetsGoing
  rw [playing, restored]
  exact Iff.rfl

end Dequeue

end Playback

namespace Room

/-- Videos were put at the end of the queue, and playback and the audience are untouched. -/
structure Queues (videos : List QueueItem) (before after : Room) : Prop where
  queue : after.queue = before.queue ++ videos
  playback : SamePlayback before after
  audience : after.toAudience = before.toAudience

section Add

variable {env : Env} {room : Room} {request : AddRequest} {context : RoomRequestContext}

theorem enqueue_queues {videos : List QueueItem}
    (done : (enqueue videos).outcome room = .ok ()) :
    Queues videos room ((enqueue videos).after room) := by
  unfold enqueue at done ⊢
  rw [outcome_get_bind] at done
  rw [after_get_bind]
  split
  · rename_i nothing
    rw [List.isEmpty_iff.mp nothing]
    exact ⟨(List.append_nil _).symm, refl room, rfl⟩
  · rename_i some
    rw [if_neg some] at done
    split
    · rename_i full
      rw [if_pos full] at done
      cases done
    · exact ⟨rfl, ⟨_, rfl⟩, rfl⟩

/-- Nothing that follows on the queue's change touches it. -/
theorem Queues.announced {videos : List QueueItem} {after : Room}
    (queues : Queues videos room after) (asked : RoomRequest) (additional : RoomEventContext) :
    Queues videos room (after.publishRoomEvent asked context additional none) := by
  unfold publishRoomEvent
  split
  · exact queues
  · split
    · exact queues
    · exact ⟨queues.queue, queues.playback, queues.audience⟩

theorem Queues.forgotten {videos : List QueueItem} {after : Room}
    (queues : Queues videos room after) : Queues videos room (after.assignPrevQueue none) := by
  unfold assignPrevQueue
  split
  · exact queues
  · exact ⟨queues.queue, IsTrans.trans _ _ _ queues.playback ⟨_, rfl⟩, queues.audience⟩

theorem addVideo_queues {video : VideoAdd}
    (done : (addVideo env request video context).outcome room = .ok ()) :
    ∃ info, env.getVideoInfo video.toVideoId = some info ∧
      Queues [withSubtitle video.subtitleUrl info] room
        ((addVideo env request video context).after room) := by
  unfold addVideo at done ⊢
  rw [outcome_get_bind] at done
  rw [after_get_bind]
  split
  · rename_i queued
    rw [if_pos queued] at done
    cases done
  · rename_i unqueued
    rw [if_neg unqueued] at done
    cases answered : env.getVideoInfo video.toVideoId with
    | none =>
        rw [answered] at done
        cases done
    | some info =>
        rw [answered] at done
        obtain ⟨_, _, done, after⟩ := outcome_bind_ok done
        dsimp only at after done ⊢
        rw [assertUsableSubtitle_after] at after done
        obtain ⟨_, fits, _, rest⟩ := outcome_bind_ok done
        rw [after, rest, after_modify_bind, after_modify]
        exact ⟨info, rfl, (enqueue_queues fits).forgotten.announced _ _⟩

/-- Nothing is queued in an idle room, so a batch is kept as it is. -/
theorem usableVideos_idle (idle : room.currentSource = none) (empty : room.queue = []) :
    ∀ {items kept : List QueueItem}, room.usableVideos env items = .ok kept → kept = items := by
  have unqueued : ∀ video : VideoId, room.isVideoInQueue video = false := by
    intro video
    unfold isVideoInQueue
    rw [idle, empty]
    rfl
  intro items
  induction items with
  | nil =>
      intro kept usable
      cases usable
      rfl
  | cons item rest ih =>
      intro kept usable
      unfold usableVideos at usable
      split at usable
      · cases usable
      · cases others : room.usableVideos env rest with
        | error error =>
            rw [others] at usable
            cases usable
        | ok rest' =>
            rw [others, Except.map, unqueued] at usable
            cases usable
            rw [if_neg Bool.false_ne_true, ih others]

theorem addVideos_queues {videos : List VideoAdd} (idle : room.currentSource = none)
    (empty : room.queue = [])
    (done : (addVideos env request videos context).outcome room = .ok ()) :
    ∃ items, env.getManyVideoInfo videos = some items ∧
      Queues items room ((addVideos env request videos context).after room) := by
  unfold addVideos at done ⊢
  rw [outcome_get_bind] at done
  rw [after_get_bind]
  cases answered : env.getManyVideoInfo videos with
  | none =>
      rw [answered] at done
      cases done
  | some items =>
      rw [answered] at done
      dsimp only at done ⊢
      cases usable : room.usableVideos env items with
      | error error =>
          rw [usable] at done
          cases done
      | ok kept =>
          rw [usable] at done
          dsimp only at done ⊢
          cases usableVideos_idle idle empty usable
          split
          · rename_i nothing
            rw [if_pos nothing] at done
            cases done
          · rename_i some
            rw [if_neg some] at done
            obtain ⟨_, fits, _, rest⟩ := outcome_bind_ok done
            rw [rest, after_modify]
            exact ⟨items, rfl, (enqueue_queues fits).announced _ _⟩

/-- What was asked for is queued in an idle room, in order. -/
theorem addToQueue_queues (idle : room.currentSource = none) (empty : room.queue = [])
    (done : (addToQueue env request context).outcome room = .ok ()) :
    Queues (request.answer env) room ((addToQueue env request context).after room) := by
  unfold addToQueue at done ⊢
  obtain ⟨_, _, done, after⟩ := outcome_bind_ok done
  rw [after]
  rw [checkAddRequest_after] at done ⊢
  unfold AddRequest.answer
  split
  · rename_i url
    rw [if_pos url] at done
    cases named : env.videoOfUrl (request.url.getD "") with
    | none =>
        rw [named] at done
        cases done
    | some video =>
        rw [named] at done
        obtain ⟨_, _, done, after⟩ := outcome_bind_ok done
        dsimp only at after done ⊢
        rw [assertUsableVideoId_after] at after done
        obtain ⟨info, answered, queues⟩ := addVideo_queues done
        rw [after, Option.bind_some, show env.getVideoInfo video = some info from answered]
        exact queues
  · rename_i noUrl
    rw [if_neg noUrl] at done
    cases one : request.video with
    | some video =>
        rw [one] at done
        obtain ⟨info, answered, queues⟩ := addVideo_queues done
        dsimp only
        rw [answered]
        exact queues
    | none =>
        rw [one] at done
        cases many : request.videos with
        | some videos =>
            rw [many] at done
            obtain ⟨items, answered, queues⟩ := addVideos_queues idle empty done
            dsimp only
            rw [answered]
            exact queues
        | none => exact ⟨(List.append_nil _).symm, refl room, rfl⟩

end Add

/-- What follows on a dequeue leaves the start as it is. -/
def SameStart (before after : Room) : Prop :=
  ∀ video, before.Starts video ↔ after.Starts video

instance : IsPreorder Room SameStart where
  refl _ _ := Iff.rfl
  trans _ _ _ first second video := (first video).trans (second video)

section Update

variable (env : Env) (room : Room)

theorem SameStart.of_same {before after : Room} (same : SamePlayback before after) :
    SameStart before after := by
  obtain ⟨pending, same⟩ := same
  intro video
  unfold Playback.Starts
  rw [same]

theorem refreshSegments_start : SameStart room (room.refreshSegments env) := by
  unfold refreshSegments
  dsimp only
  intro video
  split <;> split <;> exact Iff.rfl

/-- Only a room that plays seeks past a segment. -/
theorem skipSegment_start (now : Int) : SameStart room (room.skipSegment now) := by
  unfold skipSegment
  split
  · rename_i plays
    rw [Bool.and_eq_true, Bool.and_eq_true] at plays
    split
    · split
      · intro video
        refine and_congr ?_ (iff_of_true (Or.inl plays.1.1) (Or.inl ?_))
        · simp [onPlayback]
        · simpa [onPlayback] using plays.1.1
      · exact refl room
    · exact refl room
  · exact refl room

theorem updateSegments_start : SameStart room (room.updateSegments env) := by
  unfold updateSegments
  split
  · dsimp only
    have fetched : SameStart room (if room.wantSponsorBlock then
        { room with wantSponsorBlock := false }.fetchSponsorBlockSegments env else room) := by
      split
      · exact .of_same (samePlayback_ticks.fetchSponsorBlockSegments env
          { room with wantSponsorBlock := false })
      · exact refl room
    refine IsTrans.trans _ _ _ fetched (IsTrans.trans _ _ _ ?_ (skipSegment_start _ env.now))
    exact .of_same (samePlayback_ticks.expireSegmentPause _ env.now)
  · exact refl room

/-- `update` starts what its dequeue started, whether or not it gets to its end. -/
theorem moveOn_start : SameStart (room.updateSource env) ((moveOn env).after room) := by
  unfold moveOn
  rw [after_modify_bind]
  change Keeps SameStart _ _
  refine Keeps.bind ((samePlayback_ticks.keepAlive env _).mono .of_same) fun _ _ => ?_
  exact Keeps.modify_bind (.of_same (samePlayback_writes.orderByVotes _)) (updateSegments_start env _)

variable {room}

/-- A room that shows nothing has nothing to settle. -/
theorem settlePlayback_idle (idle : room.currentSource = none) (noGate : room.bufferGate = none)
    (noRound : room.playbackPreparation = none) (plain : room.temporarySpeed = none) :
    room.settlePlayback env = room := by
  have open_ : room.evaluateBufferGate env.now = room := by
    unfold evaluateBufferGate onPlayback Playback.evaluateBufferGate Playback.releaseBufferGate
      GateState.gateExpired
    simp [idle, noGate]
  have unprepared : room.onPlayback (Playback.updatePreparation room.toAudience env.now) = room := by
    unfold onPlayback Playback.updatePreparation
    simp [noRound]
  unfold settlePlayback
  dsimp only
  rw [open_, unprepared]
  unfold onPlayback Playback.updateTemporarySpeed
  rw [plain]

/-- The room with the next video taken, before it is set going. -/
theorem takeNext_shows (now : Int) (video : QueueItem) (rest : List QueueItem) :
    (room.takeNext now video rest).currentSource = some video ∧
      (room.takeNext now video rest).playbackPosition = video.startAt.getD 0 ∧
      (room.takeNext now video rest).playbackPreparation = none ∧
      (room.takeNext now video rest).toAudience = room.toAudience := by
  unfold takeNext
  dsimp only
  split
  · simp [HeldStart.dropped, onPlayback]
    rfl
  · simp [HeldStart.dropped, onPlayback]
    rfl

theorem dequeueNext_starts {video : QueueItem} {rest : List QueueItem}
    (idle : room.currentSource = none) (noGate : room.bufferGate = none)
    (queued : room.queue = video :: rest) :
    (room.dequeueNext env).Starts video ↔ room.SetsGoing room.toAudience video := by
  have left : SamePlayback room (room.leaveCurrent env.now) ∧
      (room.leaveCurrent env.now).toAudience = room.toAudience := by
    have opened : room.releaseBufferGate false env.now = room := by
      unfold releaseBufferGate onPlayback Playback.releaseBufferGate
      simp [noGate]
    have uncounted : (room.leaveCurrent env.now) = room.clearSkipVotes := by
      have source := (clearSkipVotes_frame room env.now).2.2.1
      rw [opened, idle] at source
      unfold leaveCurrent countSource
      rw [opened, source]
      rfl
    rw [uncounted]
    unfold clearSkipVotes
    split
    · exact ⟨⟨_, rfl⟩, rfl⟩
    · exact ⟨refl room, rfl⟩
  obtain ⟨⟨pending, same⟩, audience⟩ := left
  obtain ⟨queue, _, source, _⟩ := leaveCurrent_frame room env.now
  have next : room.dequeueNext env = (room.leaveCurrent env.now).advanceQueue env := by
    unfold dequeueNext
    dsimp only
    rw [source, idle]
  rw [next]
  have playing : (room.leaveCurrent env.now).isPlaying = room.isPlaying := by rw [same]
  have restored : (room.leaveCurrent env.now).restoredFromStorage = room.restoredFromStorage := by
    rw [same]
  rw [queued] at queue
  generalize room.leaveCurrent env.now = entry at *
  have advanced : SameStart (entry.replaceSource env) (entry.advanceQueue env) := by
    refine IsTrans.trans _ _ _ (refreshSegments_start env _) ?_
    exact fun _ => Iff.rfl
  rw [← advanced video]
  unfold replaceSource
  rw [queue]
  obtain ⟨plays, plain, _, _, stored⟩ := takeNext_frame env entry video rest
  obtain ⟨shown, position, free, viewers⟩ := @takeNext_shows entry env.now video rest
  change (Playback.startItem _ _ _ _).Starts video ↔ _
  rw [Playback.startItem_starts _ _ _ shown plain free position, viewers, audience]
  exact Playback.setsGoing_congr _ (plays.trans playing) (stored.trans restored)

end Update

end Room

namespace RoomState

variable {state : RoomState}

theorem update_starts (reachable : roomSystem.Reachable state)
    (idle : state.room.currentSource = none) {queued : Room} {videos : List QueueItem}
    (queues : state.room.Queues videos queued) (empty : state.room.queue = []) (env : Env) :
    (∃ video ∈ videos, ((Room.update env).after queued).Starts video) ↔
      ∃ video, videos.head? = some video ∧
        state.room.SetsGoing state.room.toAudience video := by
  obtain ⟨pending, same⟩ := queues.playback
  have quiet : queued.currentSource = none := by rw [same, idle]
  have noGate : queued.bufferGate = none := by
    rw [same]
    refine Option.eq_none_iff_forall_ne_some.mpr fun gate held => ?_
    have sourced := (gateSafe reachable gate held).2.2.1
    rw [idle] at sourced
    cases sourced
  have noRound : queued.playbackPreparation = none := by
    rw [same]
    refine Option.eq_none_iff_forall_ne_some.mpr fun round present => ?_
    have sourced := ((roundSafe reachable).held round present).source
    rw [idle] at sourced
    cases sourced
  have plain : queued.temporarySpeed = none := by
    rw [same]
    refine Option.eq_none_iff_forall_ne_some.mpr fun gesture present => ?_
    have sourced := (speedSafe reachable (by rw [present]; rfl)).2.2
    rw [idle] at sourced
    cases sourced
  have settled := Room.settlePlayback_idle env quiet noGate noRound plain
  have moved : Room.SameStart (queued.updateSource env) ((Room.update env).after queued) := by
    have rest := Room.moveOn_start env (queued.settlePlayback env)
    rw [settled] at rest
    unfold Room.update
    rw [after_modify_bind, settled]
    exact rest
  have queue : queued.queue = videos := by rw [queues.queue, empty, List.nil_append]
  cases videos with
  | nil => simp
  | cons video rest =>
      have wants : queued.wantsNext env.now = true := by
        unfold Room.wantsNext
        rw [quiet, queue]
        rfl
      have dequeued : queued.updateSource env = queued.dequeueNext env := if_pos wants
      have started := Room.dequeueNext_starts env quiet noGate queue
      rw [dequeued] at moved
      have shown : (queued.dequeueNext env).currentSource = some video := by
        have playlist : queued.playlist = ⟨none, video :: rest⟩ := by
          rw [Room.playlist, quiet, queue]
        have advanced := Room.dequeueNext_playlist env queued
        rw [playlist] at advanced
        exact congrArg Playlist.source advanced
      have sound : queued.SetsGoing queued.toAudience video ↔
          state.room.SetsGoing state.room.toAudience video := by
        rw [queues.audience]
        exact Playback.setsGoing_congr _ (by rw [same]) (by rw [same])
      constructor
      · rintro ⟨other, _, starts⟩
        have starts := (moved other).mpr starts
        cases Option.some.inj (shown.symm.trans starts.1)
        exact ⟨video, rfl, sound.mp (started.mp starts)⟩
      · rintro ⟨_, ⟨⟩, goes⟩
        exact ⟨video, List.mem_cons_self, (moved video).mp (started.mpr (sound.mpr goes))⟩

/-- An idle room that is asked for videos shows one of them at its next `update`, playing or
held for its viewers, just when there is a first one that a dequeue sets going. -/
theorem first_video_starts_iff (reachable : roomSystem.Reachable state)
    (idle : state.room.currentSource = none) (empty : state.room.queue = []) {env later : Env}
    {request : AddRequest} {context : RoomRequestContext}
    (done : (Room.processRequest env (.add request) context).outcome state.room = .ok ()) :
    (∃ video ∈ request.answer env, ((state.next ⟨env, .request (.add request) context⟩).next
        ⟨later, .update⟩).room.Starts video) ↔
      ∃ video, (request.answer env).head? = some video ∧
        state.room.SetsGoing state.room.toAudience video := by
  refine update_starts reachable idle ?_ empty later
  obtain ⟨_, _, done, after⟩ := outcome_bind_ok done
  rw [Room.checkSome_after] at after done
  change Room.Queues _ _ ((Room.processRequest env (.add request) context).after state.room)
  unfold Room.processRequest
  rw [after]
  exact Room.addToQueue_queues idle empty done

end RoomState

namespace Sample

/-- A request for one video. -/
def oneVideo : AddRequest := { video := some { service := .direct, id := "video" } }

/-- A viewer joins a room that was made with the options, or rebuilt from them. -/
def idleRoom (stored : Bool) : RoomState :=
  RoomState.run
    [⟨env 1 "first", .request (.join { id := "viewer", username := some "v" } false) viewer⟩]
    ⟨if stored then (Room.new {} 0).restoreFromStorage else Room.new {} 0, 0⟩

theorem idleRoom_reachable (stored : Bool) : roomSystem.Reachable (idleRoom stored) := by
  cases stored with
  | true =>
      refine ⟨_, .restored {} 0 rfl rfl, (RoomState.steps_run (fun _ _ => True) _ _ ?_).of_restrict⟩
      decide +kernel
  | false =>
      refine ⟨_, .created {} 0, (RoomState.steps_run (fun _ _ => True) _ _ ?_).of_restrict⟩
      decide +kernel

/-- The room with the video asked for, after its next `update`. -/
def firstVideo (stored : Bool) : RoomState :=
  ((idleRoom stored).next ⟨env 2 "first", .request (.add oneVideo) viewer⟩).next
    ⟨env 3 "first", .update⟩

end Sample

/-- The first video of a new room is held for its viewer. -/
theorem RoomState.first_video_starts_held :
    ∃ video ∈ Sample.oneVideo.answer (Sample.env 2 "first"),
      (Sample.firstVideo false).room.Starts video := by
  refine (first_video_starts_iff (Sample.idleRoom_reachable false) (by decide +kernel)
    (by decide +kernel) (by decide +kernel)).mpr
      ⟨{ service := .direct, id := "video", length := some 100 }, by decide +kernel, ?_⟩
  unfold Playback.SetsGoing
  decide +kernel

/-- The first video of a room that was rebuilt with nothing saved is shown and stays paused. -/
theorem RoomState.first_video_waits : ¬ ∀ {state : RoomState}, roomSystem.Reachable state →
    state.room.realusers ≠ [] → state.room.currentSource = none → state.room.queue = [] →
    ∀ (env later : Env) (request : AddRequest) (context : RoomRequestContext),
      (Room.processRequest env (.add request) context).outcome state.room = .ok () →
      ∃ video ∈ request.answer env, ((state.next ⟨env, .request (.add request) context⟩).next
        ⟨later, .update⟩).room.Starts video := by
  intro starts
  obtain ⟨video, _, _, playing | ⟨round, present, _⟩⟩ :=
    starts (Sample.idleRoom_reachable true) (by decide +kernel) (by decide +kernel)
      (by decide +kernel) (Sample.env 2 "first") (Sample.env 3 "first") Sample.oneVideo
      Sample.viewer (by decide +kernel)
  · have paused : (Sample.firstVideo true).room.isPlaying = false := by decide +kernel
    unfold Sample.firstVideo at paused
    exact absurd (paused.symm.trans playing) Bool.false_ne_true
  · have noRound : (Sample.firstVideo true).room.playbackPreparation = none := by
      decide +kernel
    unfold Sample.firstVideo at noRound
    exact absurd (noRound.symm.trans present) (Option.some_ne_none round).symm

end OpenTogetherTube
