import OpenTogetherTube.Lib.Exact
import OpenTogetherTube.Room.Airing

/-!
# Whose segments are skipped

The skip segments of a room are for its current video while what arrives late is dropped, and what
belongs to one video is gone when another becomes current. Neither is checked. Here is when a piece
of a handler gets it right: along any run the segments, the mark of a seek and the automatic seeks
belong to the current video just when every piece does.
-/

namespace OpenTogetherTube

open Lib

/-- The segments that an automatic seek used were for the video that was current. -/
def AutoSeek.Own (seek : AutoSeek) : Prop :=
  ∃ video, seek.video = some video ∧ seek.fetchedFor = some video

/-- The current video and what was kept for a video. -/
structure Ties where
  video : Option VideoId
  segments : List Segment
  fetchedFor : Option VideoId
  mark : Option Number
  soughtIn : Option VideoId
  autoSeeks : List AutoSeek

namespace Ties

/-- What is kept is for the current video. -/
structure Belong (ties : Ties) : Prop where
  segments : Belongs (ties.segments ≠ []) ties.fetchedFor ties.video
  mark : Belongs (ties.mark ≠ none) ties.soughtIn ties.video
  autoSeeks : ∀ seek ∈ ties.autoSeeks, seek.Own

variable {ties : Ties} (belong : ties.Belong)

include belong

theorem Belong.drop : { ties with segments := [] }.Belong :=
  ⟨fun something => absurd rfl something, belong.mark, belong.autoSeeks⟩

theorem Belong.expire : { ties with mark := none }.Belong :=
  ⟨belong.segments, fun something => absurd rfl something, belong.autoSeeks⟩

/-- Another video becomes current, without segments. -/
theorem Belong.replace_iff (next : Option VideoId) :
    { ties with video := next, segments := [] }.Belong ↔ next = ties.video ∨ ties.mark = none := by
  rw [← not_not (a := ties.mark = none), ← belong.mark.moved_iff next]
  exact ⟨Belong.mark, fun mark => ⟨fun something => absurd rfl something, mark, belong.autoSeeks⟩⟩

/-- Another video becomes current, and the segments stay. -/
theorem Belong.return_iff (next : Option VideoId) : { ties with video := next }.Belong ↔
    next = ties.video ∨ ties.segments = [] ∧ ties.mark = none := by
  have both := and_congr (belong.segments.moved_iff next) (belong.mark.moved_iff next)
  rw [not_not, not_not, ← or_and_left] at both
  rw [← both]
  exact ⟨fun moved => ⟨moved.segments, moved.mark⟩,
    fun moved => ⟨moved.1, moved.2, belong.autoSeeks⟩⟩

theorem Belong.store_iff (segments : List Segment) (video : VideoId) :
    { ties with segments, fetchedFor := some video }.Belong ↔
      ties.video = some video ∨ segments = [] := by
  rw [← not_not (a := segments = []), ← belongs_made_iff]
  exact ⟨Belong.segments, fun stored => ⟨stored, belong.mark, belong.autoSeeks⟩⟩

/-- A seek made in `sought` leaves its mark, which is there only where there are segments. -/
theorem Belong.mark_iff {mark : Option Number} (sought : Option VideoId)
    (inside : mark ≠ none → ties.segments ≠ []) :
    { ties with mark, soughtIn := sought }.Belong ↔ sought = ties.video ∨ mark = none := by
  constructor
  · intro marked
    by_cases nothing : mark = none
    · exact .inr nothing
    · obtain ⟨video, made, current⟩ := marked.mark nothing
      exact .inl (made.trans current.symm)
  · intro fits
    refine ⟨belong.segments, fun something => ?_, belong.autoSeeks⟩
    obtain ⟨video, -, current⟩ := belong.segments (inside something)
    rcases fits with same | nothing
    · exact ⟨video, same.trans current, current⟩
    · exact absurd nothing something

/-- An automatic seek uses the segments there are. -/
theorem Belong.autoSeek (some_ : ties.segments ≠ []) (target : Number) :
    { ties with autoSeeks := ⟨ties.video, ties.fetchedFor, target⟩ :: ties.autoSeeks }.Belong := by
  refine ⟨belong.segments, belong.mark, fun seek member => ?_⟩
  rcases List.mem_cons.mp member with rfl | earlier
  · obtain ⟨video, made, current⟩ := belong.segments some_
    exact ⟨video, current, made⟩
  · exact belong.autoSeeks seek earlier

end Ties

namespace Airing

/-- What a room keeps for a video. -/
def ties (airing : Airing) : Ties :=
  ⟨airing.video, airing.videoSegments, airing.fetchedFor, airing.dontSkipSegmentsUntil,
    airing.soughtIn, airing.autoSeeks⟩

/-- The segments, the mark and the automatic seeks belong to the current video. -/
def Belongs (airing : Airing) : Prop := airing.ties.Belong

/-- Another video may become current, without segments. -/
def mayReplace (next : Option VideoId) (airing : Airing) : Bool :=
  decide (next = airing.video) || airing.dontSkipSegmentsUntil.isNone

/-- Another video may become current, with the segments that are there. -/
def mayReturn (next : Option VideoId) (airing : Airing) : Bool :=
  decide (next = airing.video) ||
    (airing.videoSegments.isEmpty && airing.dontSkipSegmentsUntil.isNone)

/-- Nothing may become current in place of what is, if the queue is empty. -/
def mayRunOut (airing : Airing) : Bool :=
  !airing.playlist.queue.isEmpty || airing.mayReplace none

/-- `dequeueNext` may run on after the buffer gate. -/
def mayDequeue (airing : Airing) : Bool :=
  match airing.playlist.source, airing.queueMode with
  | some _, .dj | some _, .loop => true
  | _, _ => airing.mayRunOut

/-- The last part of the undo of a skip may run. -/
def mayResume (event : RoomEvent) (airing : Airing) : Bool :=
  match event.additional.video, event.additional.prevPosition with
  | some video, some _ => airing.mayReturn (some video.toVideoId)
  | _, _ => true

/-- The current item goes back into the queue before the undo of a skip goes on. -/
def pushesBack (airing : Airing) : Bool :=
  airing.playlist.source.any fun current => !decide (airing.playlist.Queued current.toVideoId)

/-- The undo of an add may run: it takes the video out of the queue, or leaves nothing current. -/
def mayClear (event : RoomEvent) (answer : AiringAnswer) (airing : Airing) : Bool :=
  match event.request.video, airing.playlist.queue with
  | some _, _ :: _ => true
  | _, _ => !answer.granted .skip || airing.mayReturn none

/-- The first piece of `undo` may run. -/
def mayUndo (echo : UndoEvent) (answer : AiringAnswer) (airing : Airing) : Bool :=
  match airing.undoEvent echo with
  | none => true
  | some event =>
      match event.request.type with
      | .skip =>
          !Room.undoSkipPermissions.all answer.granted || airing.pushesBack || airing.mayResume event
      | .add => !answer.granted .queueRemove || airing.mayClear event answer
      | _ => true

/-- A piece leaves nothing to a video that is another's. -/
def keeping : Guard Airing AiringCall AiringAnswer AiringPoint AiringSection where
  call
    | .undo echo, answer, airing => airing.mayUndo echo answer
    | _, _, _ => true
  resume
    | .undo (.undoing event), _, airing => airing.mayResume event
    | .marking sought _, _, airing =>
        decide (sought = airing.video) || (airing.getSegmentForTime airing.playbackPosition).isNone
    | .dequeuing _, _, airing => airing.mayDequeue
    | .requeued _, _, airing => airing.mayRunOut
    | .dequeued item _, _, airing => airing.mayReplace (item.map QueueItem.toVideoId)
    | .pushed item, _, airing => airing.mayReplace (some item.toVideoId)
    | .fetching id, answer, airing =>
        decide (airing.video = some ⟨.youtube, id⟩) || (answer.fetchSegments.getD []).isEmpty
    | _, _, _ => true

/-- Where what is kept belongs to the current video before, it does after just when `allowed`. -/
def Kept (allowed : Bool) (before after : Airing) : Prop :=
  before.Belongs → (after.Belongs ↔ allowed = true)

section Frames

variable {before after : Airing}

theorem Kept.same (same : after.ties = before.ties) : Kept true before after := by
  intro belongs
  unfold Belongs at belongs ⊢
  rw [same]
  exact iff_of_true belongs rfl

theorem Kept.drop (same : after.ties = { before.ties with segments := [] }) :
    Kept true before after := by
  intro belongs
  unfold Belongs
  rw [same]
  exact iff_of_true (Ties.Belong.drop belongs) rfl

theorem Kept.replace {next : Option VideoId}
    (same : after.ties = { before.ties with video := next, segments := [] }) :
    Kept (before.mayReplace next) before after := by
  intro belongs
  unfold Belongs mayReplace
  rw [same, Bool.or_eq_true, decide_eq_true_eq, Option.isNone_iff_eq_none]
  exact Ties.Belong.replace_iff belongs next

theorem Kept.return {next : Option VideoId} (same : after.ties = { before.ties with video := next }) :
    Kept (before.mayReturn next) before after := by
  intro belongs
  unfold Belongs mayReturn
  rw [same, Bool.or_eq_true, decide_eq_true_eq, Bool.and_eq_true, List.isEmpty_iff,
    Option.isNone_iff_eq_none]
  exact Ties.Belong.return_iff belongs next

variable (airing : Airing)

theorem publishRoomEvent_ties (request : RoomRequest) (answer : AiringAnswer)
    (additional : RoomEventContext) :
    (airing.publishRoomEvent request answer additional).ties = airing.ties := by
  unfold publishRoomEvent Recall.publishRoomEvent
  split <;> rfl

/-- A piece of `undo` that keeps the playlist's item current. -/
theorem undoing_ties {result : Recall.Result}
    (same : result.1.playlist.source = airing.playlist.source) :
    (airing.undoing result).1.ties = airing.ties := by
  unfold undoing ties video
  dsimp only
  rw [same]

end Frames

section Seeks

variable (airing : Airing) (answer : AiringAnswer)

theorem seekTo_ties (target : Number) (undone : Option RoomEvent) :
    (airing.seekTo target undone answer).1.ties = airing.ties := by
  unfold seekTo
  split
  · rfl
  · exact publishRoomEvent_ties _ _ _ _

theorem mark_kept (sought : Option VideoId) (undone : Option RoomEvent) :
    Kept (decide (sought = airing.video) ||
      (airing.getSegmentForTime airing.playbackPosition).isNone) airing
      (airing.mark sought undone).1 := by
  intro belongs
  have inside : (airing.getSegmentForTime airing.playbackPosition).map Segment.endTime ≠ none →
      airing.ties.segments ≠ [] := by
    intro found empty
    apply found
    unfold getSegmentForTime
    rw [show airing.videoSegments = [] from empty]
    rfl
  have marked := Ties.Belong.mark_iff belongs sought inside
  rw [Option.map_eq_none_iff] at marked
  rw [Bool.or_eq_true, decide_eq_true_eq, Option.isNone_iff_eq_none]
  exact marked

theorem undoSeek_ties (event : RoomEvent) : (airing.undoSeek event answer).1.ties = airing.ties := by
  unfold undoSeek
  split
  · rfl
  · split
    · exact seekTo_ties _ _ _ _
    · rfl

/-- An automatic seek leaves what is kept as it is, but for the record. -/
theorem autoSkip_kept : Kept true airing (airing.autoSkip answer).1 := by
  intro belongs
  refine iff_of_true ?_ rfl
  have expired : (airing.expireSegmentPause answer.position).Belongs := by
    unfold expireSegmentPause
    split
    · split
      · exact Ties.Belong.expire belongs
      · exact belongs
    · exact belongs
  unfold autoSkip
  generalize airing.expireSegmentPause answer.position = later at expired ⊢
  unfold skipSegment
  split
  · rename_i plays
    split
    · split
      · have segments : later.ties.segments ≠ [] := by
          intro empty
          rw [show later.videoSegments = [] from empty] at plays
          simp at plays
        exact Ties.Belong.autoSeek expired segments _
      · exact expired
    · exact expired
  · exact expired

theorem updateSegments_kept : Kept true airing (airing.updateSegments answer).1 := by
  unfold updateSegments
  split
  · split
    · unfold fetchSponsorBlockSegments
      split
      · split
        · exact .same rfl
        · exact .drop rfl
      · exact .drop rfl
    · exact autoSkip_kept airing answer
  · exact .same rfl

theorem afterMove_kept : Kept true airing (airing.afterMove answer).1 := by
  unfold afterMove
  split
  · exact .same rfl
  · exact updateSegments_kept airing answer

theorem storeSegments_kept (id : String) :
    Kept (decide (airing.video = some ⟨.youtube, id⟩) || (answer.fetchSegments.getD []).isEmpty)
      airing (airing.storeSegments id answer) := by
  unfold storeSegments
  cases answer.fetchSegments with
  | none =>
      rw [show (Option.getD (none : Option (List Segment)) []).isEmpty = true from rfl, Bool.or_true]
      exact .same rfl
  | some segments =>
      intro belongs
      rw [Bool.or_eq_true, decide_eq_true_eq, List.isEmpty_iff]
      exact Ties.Belong.store_iff belongs segments ⟨.youtube, id⟩

end Seeks

section Sources

variable (airing : Airing) (answer : AiringAnswer) (caller : DequeueCaller)

theorem setPlaying_ties {point : AiringPoint} {next : Airing → Result} {kept : Ties}
    (same : ∀ isPlaying, (next { airing with isPlaying }).1.ties = kept)
    (there : airing.ties = kept) : (airing.setPlaying point next answer).1.ties = kept := by
  unfold setPlaying
  split
  · exact same _
  · split
    · exact same airing.isPlaying
    · exact there

theorem finishDequeue_kept : Kept true airing (airing.finishDequeue caller answer).1 := by
  cases source : airing.playlist.source with
  | none =>
      refine .drop ?_
      unfold finishDequeue ties
      rw [source]
      rfl
  | some current =>
      refine .same ?_
      unfold finishDequeue ties
      rw [source]
      rfl

/-- Without segments the rest of `dequeueNext` has none to drop. -/
theorem finishDequeue_ties (empty : airing.videoSegments = []) :
    (airing.finishDequeue caller answer).1.ties = airing.ties := by
  unfold finishDequeue ties
  rw [empty, ite_self]
  rfl

theorem dequeued_kept (item : Option QueueItem) (playbackPosition : Number) (point : AiringPoint) :
    Kept (airing.mayReplace (item.map QueueItem.toVideoId)) airing
      ((airing.replaceSource item playbackPosition).setPlaying point (finishDequeue caller answer)
        answer).1 :=
  .replace (setPlaying_ties _ _ (fun _ => finishDequeue_ties _ _ _ rfl) rfl)

theorem advanceQueue_kept : Kept airing.mayRunOut airing (airing.advanceQueue caller answer).1 := by
  unfold advanceQueue mayRunOut
  split
  · rename_i queue
    rw [queue]
    exact .same rfl
  · rename_i queue source
    rw [queue]
    exact .replace rfl
  · rename_i queue source
    have current : airing.video = none := by
      unfold video
      rw [source]
      rfl
    have allowed : (!([] : List QueueItem).isEmpty || airing.mayReplace none) = true := by
      unfold mayReplace
      rw [current]
      rfl
    rw [queue, allowed]
    exact finishDequeue_kept airing answer caller

theorem dequeueNext_kept : Kept airing.mayDequeue airing (airing.dequeueNext caller answer).1 := by
  unfold dequeueNext mayDequeue
  cases source : airing.playlist.source with
  | none => exact advanceQueue_kept airing answer caller
  | some current =>
      cases airing.queueMode with
      | dj =>
          refine .same ?_
          unfold ties video
          rw [source]
          rfl
      | loop => exact .same rfl
      | manual | vote => exact advanceQueue_kept airing answer caller

theorem playRequested_kept (item : QueueItem) :
    Kept (airing.mayReplace (some item.toVideoId)) airing (airing.playRequested item answer).1 := by
  refine .replace (setPlaying_ties _ _ (fun isPlaying => ?_) rfl)
  unfold finishPlay
  split <;> rfl

theorem pushInterrupted_kept (item : QueueItem) :
    Kept true airing (airing.pushInterrupted item answer).1 := by
  unfold pushInterrupted
  cases source : airing.playlist.source with
  | some current =>
      refine .same ?_
      unfold ties video
      rw [source]
      rfl
  | none =>
      -- a mark without a current video is nobody's
      intro belongs
      have current : airing.ties.video = none := by
        unfold ties video
        rw [source]
        rfl
      have unmarked : airing.dontSkipSegmentsUntil = none := by
        by_contra marked
        obtain ⟨video, -, there⟩ := Ties.Belong.mark belongs marked
        rw [current] at there
        cases there
      refine (playRequested_kept airing answer item belongs).trans (iff_of_true ?_ rfl)
      unfold mayReplace
      rw [unmarked]
      exact Bool.or_true _

end Sources

section Undos

variable (airing : Airing) (answer : AiringAnswer) (event : RoomEvent)

theorem resumeSkipped_kept : Kept (airing.mayResume event) airing
    (airing.undoing (airing.toRecall.resumeSkipped event)).1 := by
  unfold Recall.resumeSkipped mayResume
  cases event.additional.video with
  | none => exact .same rfl
  | some video =>
      cases event.additional.prevPosition with
      | none => exact .same rfl
      | some position => exact .return rfl

theorem undoSkip_kept : Kept (!Room.undoSkipPermissions.all answer.granted || airing.pushesBack ||
      airing.mayResume event) airing
    (airing.undoing (airing.toRecall.undoSkip event answer.toRecallAnswer)).1 := by
  unfold Recall.undoSkip pushesBack
  cases Room.undoSkipPermissions.all answer.granted with
  | false => exact .same rfl
  | true =>
      rw [if_neg (by decide)]
      cases airing.playlist.source with
      | none => exact resumeSkipped_kept airing event
      | some current =>
          dsimp only
          rw [Option.any_some]
          by_cases queued : airing.playlist.Queued current.toVideoId
          · rw [if_pos queued, decide_eq_true queued]
            exact resumeSkipped_kept airing event
          · rw [if_neg queued, decide_eq_false queued]
            exact .same rfl

theorem undoAdd_kept : Kept (!answer.granted .queueRemove || airing.mayClear event answer) airing
    (airing.undoing (airing.toRecall.undoAdd event answer.toRecallAnswer)).1 := by
  unfold Recall.undoAdd mayClear
  cases answer.granted .queueRemove with
  | false => exact .same rfl
  | true =>
      rw [if_neg (by decide)]
      have cleared : Kept (!answer.granted .skip || airing.mayReturn none) airing
          (airing.undoing (if !answer.granted .skip then (airing.toRecall, .done)
            else
              ({ airing.toRecall with
                playlist := { airing.playlist with source := none }
                playbackPosition := answer.flushed.getD airing.playbackPosition }.note event).finish
                event)).1 := by
        cases answer.granted .skip with
        | false => exact .same rfl
        | true => exact .return rfl
      cases event.request.video with
      | none => exact cleared
      | some video =>
          cases airing.playlist.queue with
          | nil => exact cleared
          | cons first rest =>
              dsimp only
              split
              · exact .same rfl
              · exact .same rfl

/-- The undo of a remove changes the queue alone, and not yet. -/
theorem undoRemove_ties :
    (airing.undoing (airing.toRecall.undoRemove event answer.toRecallAnswer)).1.ties = airing.ties := by
  refine undoing_ties airing ?_
  unfold Recall.undoRemove
  split
  · rfl
  · split
    · split
      · rfl
      · split <;> rfl
    · rfl

/-- What `undo` does with the event it finds. -/
theorem undo_found {echo : UndoEvent} (known : airing.undoEvent echo = some event) :
    airing.toRecall.undo echo answer.toRecallAnswer =
      match event.request.type with
      | .seek => airing.toRecall.undoSeek event answer.toRecallAnswer
      | .skip => airing.toRecall.undoSkip event answer.toRecallAnswer
      | .add => airing.toRecall.undoAdd event answer.toRecallAnswer
      | .remove => airing.toRecall.undoRemove event answer.toRecallAnswer
      | _ => airing.toRecall.finish event := by
  unfold undoEvent at known
  unfold Recall.undo
  cases valid : Room.validUndoEvent echo with
  | false =>
      rw [valid, if_neg Bool.false_ne_true] at known
      cases known
  | true =>
      rw [valid, if_pos rfl] at known
      rw [known]
      rfl

theorem undo_kept (echo : UndoEvent) :
    Kept (airing.mayUndo echo answer) airing (airing.undo echo answer).1 := by
  unfold undo mayUndo
  cases known : airing.undoEvent echo with
  | none => exact .same rfl
  | some event =>
      dsimp only
      by_cases seeks : event.request.type = .seek
      · rw [if_pos seeks, seeks]
        exact .same (undoSeek_ties airing answer event)
      · rw [if_neg seeks, undo_found airing answer event known]
        cases type : event.request.type with
        | seek => exact absurd type seeks
        | skip => exact undoSkip_kept airing answer event
        | add => exact undoAdd_kept airing answer event
        | remove => exact .same (undoRemove_ties airing answer event)
        | _ => exact .same rfl

end Undos

section Pieces

variable (airing : Airing) (answer : AiringAnswer)

theorem applySettings_ties (settings : RoomSettings) :
    (airing.applySettings settings).ties = airing.ties := by
  unfold applySettings
  split
  · dsimp only
    split <;> rfl
  · rfl

theorem announced_ties (announced : List (RoomRequest × RoomUserInfo × RoomEventContext)) :
    (announced.foldl (fun airing entry =>
      airing.publishRoomEvent entry.1 { answer with user := some entry.2.1 } entry.2.2) airing).ties =
      airing.ties := by
  induction announced generalizing airing with
  | nil => rfl
  | cons entry rest ih =>
      exact (ih _).trans (publishRoomEvent_ties airing _ _ _)

theorem playNow_ties (request : VideoAdd) : (airing.playNow request answer).1.ties = airing.ties := by
  unfold playNow takeRequested
  dsimp only
  split
  · rfl
  · split
    · rfl
    · split
      · rfl
      · split <;> rfl

theorem call_kept (call : AiringCall) : Kept (keeping.call call answer airing) airing
    (airing.call call answer).1 := by
  cases call with
  | seek value =>
      cases value with
      | none => exact .same rfl
      | some target =>
          refine .same ?_
          unfold Airing.call
          dsimp only
          split
          · exact seekTo_ties airing answer target none
          · rfl
  | undo echo => exact undo_kept airing answer echo
  | skip =>
      refine .same ?_
      unfold Airing.call skip
      dsimp only
      split
      · split <;> rfl
      · rfl
  | playNow request => exact .same (playNow_ties airing answer request)
  | update =>
      unfold Airing.call update
      dsimp only
      split
      · exact .same rfl
      · exact afterMove_kept airing answer
  | applySettings settings => exact .same (applySettings_ties airing settings)
  | other queue playbackPosition isPlaying queueMode announced =>
      exact .same (announced_ties _ answer announced)

theorem resume_kept (point : AiringPoint) : Kept (keeping.resume point answer airing) airing
    (airing.resume point answer).1 := by
  cases point with
  | undo point =>
      cases point with
      | undoing event => exact resumeSkipped_kept airing event
      | evicted event video index removed =>
          refine .same (undoing_ties airing ?_)
          unfold Recall.resume Recall.publishRoomEvent
          dsimp only
          split <;> rfl
      | finishing event => exact .same rfl
  | marking sought undone => exact mark_kept airing sought undone
  | dequeuing caller => exact dequeueNext_kept airing answer caller
  | requeued caller => exact advanceQueue_kept airing answer caller
  | dequeued item caller => exact dequeued_kept airing answer caller item _ _
  | playing caller => exact finishDequeue_kept airing answer caller
  | moved caller =>
      cases caller with
      | skip current prevPosition => exact .same (publishRoomEvent_ties airing _ _ _)
      | update => exact afterMove_kept airing answer
  | skipped => exact .drop rfl
  | checkingPlay request queued =>
      refine .same ?_
      unfold Airing.resume takeRequested
      dsimp only
      split
      · split <;> rfl
      · rfl
  | lookingUpPlay request =>
      unfold Airing.resume
      cases answer.found with
      | none => exact .same rfl
      | some item => exact pushInterrupted_kept airing answer _
  | evicted request item => exact pushInterrupted_kept airing answer _
  | pushed item => exact playRequested_kept airing answer item
  | playingNow =>
      refine .same ?_
      unfold Airing.resume finishPlay
      dsimp only
      split <;> rfl
  | settled => exact updateSegments_kept airing answer
  | fetching id => exact storeSegments_kept airing answer id
  | fetched => exact autoSkip_kept airing answer

theorem serve_ties (guarded : AiringSection) : (airing.serve guarded answer).1.ties = airing.ties := by
  cases guarded with
  | undo guarded =>
      refine undoing_ties airing ?_
      unfold Recall.serve
      cases guarded with
      | pushTop current event =>
          dsimp only
          split <;> rfl
      | evict video event =>
          dsimp only
          split
          · rfl
          · split <;> rfl
      | insert video index event =>
          dsimp only
          split <;> rfl
  | enqueueOverflow item caller => rfl
  | dequeue caller => rfl
  | evict request =>
      unfold serve
      dsimp only
      split
      · split <;> rfl
      · rfl
  | pushTop current item =>
      unfold serve
      dsimp only
      split <;> rfl

/-- A piece keeps what belongs to the current video just where it may run. -/
theorem keeping_exact : keeping.Exact program Belongs where
  call call answer _ belongs := call_kept _ answer call belongs
  resume point answer _ belongs := resume_kept _ answer point belongs
  serve guarded answer _ belongs := Kept.same (serve_ties _ answer guarded) belongs

end Pieces

/-- A room as it is constructed, with any video. -/
structure Begins (airing : Airing) : Prop where
  segments : airing.videoSegments = []
  mark : airing.dontSkipSegmentsUntil = none
  autoSeeks : airing.autoSeeks = []

theorem Begins.belongs {airing : Airing} (begins : airing.Begins) : airing.Belongs where
  segments something := absurd begins.segments something
  mark something := absurd begins.mark something
  autoSeeks seek member := by
    rw [show airing.ties.autoSeeks = [] from begins.autoSeeks] at member
    cases member

/-- In every interleaving, the segments, the mark and the automatic seeks belong to the current video
throughout just when every piece leaves nothing to a video that is another's. -/
theorem segments_belong {airing : Airing} (begins : airing.Begins) (labels : List AiringLabel) :
    TransitionSystem.throughout program.next (fun tasks => tasks.shared.Belongs) labels
        { shared := airing } ↔
      TransitionSystem.runs program.next (fun tasks label => keeping.allows tasks label = true) labels
        { shared := airing } = true :=
  keeping_exact.throughout_iff labels begins.belongs

/-- A video plays and its segments are wanted; another is queued. -/
def sample : Airing where
  playlist := ⟨some { service := .youtube, id := "a" }, [{ service := .youtube, id := "b" }]⟩
  isPlaying := true
  wantSponsorBlock := true

/-- The segments of the first video. -/
def sampleSegments : AiringAnswer where
  fetchSegments := some [⟨.sponsor, 0, 30⟩]
  position := 5

/-- `update` fetches the segments and skips one; then a viewer seeks back into it. -/
theorem segments_belong_undisturbed :
    TransitionSystem.throughout program.next (fun tasks => tasks.shared.Belongs)
      [.call .update sampleSegments, .resume 0 sampleSegments, .resume 0 sampleSegments,
        .call (.seek (some 10)) sampleSegments, .resume 0 sampleSegments]
      { shared := sample } :=
  (segments_belong ⟨rfl, rfl, rfl⟩ _).mpr (by decide +kernel)

/-- Where the skip falls inside the request, the segments of the video that was left are stored, and
`update` seeks the next one by them. -/
theorem segments_of_another : ¬ ∀ (airing : Airing) (labels : List AiringLabel), airing.Begins →
    TransitionSystem.throughout program.next (fun tasks => tasks.shared.Belongs) labels
      { shared := airing } := by
  intro always
  have all := always sample [.call .update sampleSegments, .call .skip sampleSegments,
    .resume 1 sampleSegments, .serve sampleSegments, .resume 1 sampleSegments,
    .resume 0 sampleSegments, .resume 1 sampleSegments] ⟨rfl, rfl, rfl⟩
  have last := TransitionSystem.throughout_run all
  obtain ⟨video, current, fetched⟩ := Ties.Belong.autoSeeks last
    ⟨some ⟨.youtube, "b"⟩, some ⟨.youtube, "a"⟩, 30⟩ (by decide +kernel)
  rw [← fetched] at current
  exact absurd current (by decide +kernel)

end Airing

end OpenTogetherTube
