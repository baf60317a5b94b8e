import OpenTogetherTube.Room.Interleaving

/-!
# No video twice

`isVideoInQueue` is asked when a request comes in; what it let through is put into the queue
some awaits later, and a batch, an undo and a restored queue are checked in part or not at
all. `Stage.fresh` is what each piece of a handler would have to find where it puts a video
into the room. Where it does, the queue never holds a video twice, and the current video is
queued only while the handler that put it back is on its way to replace it.
-/

namespace OpenTogetherTube

open Lib

namespace Stage

/-- The queue takes so many more videos. -/
def accepts (count : Nat) (stage : Stage) : Bool :=
  decide (stage.queue.length + count ≤ MAX_QUEUE_ITEMS)

/-- An undone skip whose video becomes current at once finds it not queued. -/
def freshCall (call : StageCall) (answer : StageAnswer) (stage : Stage) : Bool :=
  match call with
  | .undoSkip video =>
      !answer.passes || stage.source.any (fun current => decide (current ∉ stage.queue)) ||
        decide (video ∉ stage.queue)
  | _ => true

/-- A video that becomes current is not queued. -/
def freshResume (point : StagePoint) (answer : StageAnswer) (stage : Stage) : Bool :=
  match point with
  | .dequeued (some video) _ | .pushed video | .undoing video => decide (video ∉ stage.queue)
  | .evicted video => stage.source.isSome || decide (video ∉ stage.queue)
  | .lookingUpPlay =>
      answer.found.all fun video => stage.source.isSome || decide (video ∉ stage.queue)
  | _ => true

/-- A current video that is put back is not queued; a video that is added is neither queued
nor current, nor in its batch twice. -/
def freshServe (guarded : StageSection) (stage : Stage) : Bool :=
  match guarded with
  | .enqueueOverflow current => decide (current ∉ stage.queue)
  | .pushTopToPlay current _ | .pushTopToUndo current _ =>
      !stage.accepts 1 || decide (current ∉ stage.queue)
  | .enqueue videos _ =>
      !stage.accepts videos.length ||
        (decide videos.Nodup && videos.all fun video => !stage.isVideoInQueue video)
  | .insert video _ => !stage.accepts 1 || !stage.isVideoInQueue video
  | _ => true

/-- Whatever a piece puts into the room is not there yet. -/
def fresh : Guard Stage StageCall StageAnswer StagePoint StageSection where
  call := freshCall
  resume := freshResume
  serve guarded _ := freshServe guarded

end Stage

/-- The handler has put the current video back and will replace it. -/
def StagePoint.requeues : StagePoint → Bool
  | .requeued | .dequeued _ true | .pushed _ | .undoing _ => true
  | _ => false

/-- The same, in line for the lock. -/
def StageSection.requeues : StageSection → Bool
  | .dequeue looped => looped
  | _ => false

namespace Stage

/-- The same, of a handler that has just run. -/
def requeues : Rest StagePoint StageSection → Bool
  | .done => false
  | .point point => point.requeues
  | .locked guarded => guarded.requeues

/-- What a piece of a handler leaves: no video queued twice, and the current one queued only
if this handler goes on to replace it, or if another's doing. -/
structure Clean (before : Stage) (own : Bool) (result : Result) : Prop where
  queue : before.queue.Nodup → result.1.queue.Nodup
  current : ∀ video, result.1.source = some video → video ∈ result.1.queue →
    requeues result.2 = true ∨
      own = false ∧ before.source = some video ∧ video ∈ before.queue

namespace Clean

variable {stage : Stage} {own : Bool} {rest : Rest StagePoint StageSection}

/-- A piece that only takes videos out of the queue. -/
theorem shrunk {queue : List VideoId} {prevQueue : Option (List VideoId)} {queueMode : QueueMode}
    (fewer : queue.Sublist stage.queue) (other : own = false ∨ requeues rest = true) :
    Clean stage own ({ stage with queue, prevQueue, queueMode }, rest) := by
  refine ⟨fun distinct => distinct.sublist fewer, ?_⟩
  intro video there member
  rcases other with other | going
  · exact Or.inr ⟨other, there, fewer.subset member⟩
  · exact Or.inl going

/-- A piece that leaves the stage as it is. -/
theorem same (other : own = false ∨ requeues rest = true) : Clean stage own (stage, rest) :=
  shrunk (List.Sublist.refl _) other

/-- A piece that sets the current video. -/
theorem set {source : Option VideoId} (absent : ∀ video, source = some video → video ∉ stage.queue) :
    Clean stage own ({ stage with source }, rest) := by
  refine ⟨id, ?_⟩
  intro video there member
  exact absurd member (absent video there)

/-- A piece that puts the current video back. -/
theorem requeue {queue : List VideoId} (distinct : stage.queue.Nodup → queue.Nodup)
    (going : requeues rest = true) : Clean stage own ({ stage with queue }, rest) :=
  ⟨distinct, fun _ _ _ => Or.inl going⟩

/-- A piece that adds videos that are neither queued nor current. -/
theorem add {queue added : List VideoId} (added_distinct : added.Nodup)
    (shape : queue.Perm (stage.queue ++ added))
    (absent : ∀ video ∈ added, stage.isVideoInQueue video = false) :
    Clean stage false ({ stage with queue }, rest) := by
  have apart : ∀ video ∈ added, stage.source ≠ some video ∧ video ∉ stage.queue := by
    intro video member
    have missing := absent video member
    unfold isVideoInQueue at missing
    rw [Bool.or_eq_false_iff, decide_eq_false_iff_not, decide_eq_false_iff_not] at missing
    exact missing
  refine ⟨?_, ?_⟩
  · intro distinct
    rw [shape.nodup_iff]
    refine List.Nodup.append distinct added_distinct ?_
    intro video old new
    exact (apart video new).2 old
  · intro video there member
    rcases List.mem_append.mp (shape.mem_iff.mp member) with old | new
    · exact Or.inr ⟨rfl, there, old⟩
    · exact absurd there (apart video new).1

end Clean

section Pieces

variable {stage : Stage} {own : Bool} (answer : StageAnswer)

theorem remove_clean (video : VideoId) : Clean stage false (stage.remove video) := by
  unfold remove
  split <;> exact .same (Or.inl rfl)

/-- What each handler begins with. -/
theorem call_clean (call : StageCall) (fresh : stage.freshCall call answer = true) :
    Clean stage false (Stage.call call answer stage) := by
  unfold Stage.call
  by_cases passes : answer.passes = true
  · rw [passes, Bool.not_true, if_neg Bool.false_ne_true]
    cases call with
    | skip =>
        dsimp only
        split <;> exact .same (Or.inl rfl)
    | update => exact .same (Or.inl rfl)
    | add video =>
        dsimp only
        split <;> exact .same (Or.inl rfl)
    | addMany => exact .same (Or.inl rfl)
    | playNow video =>
        change Clean stage false (stage.playNow video)
        unfold playNow
        split
        · exact .same (Or.inl rfl)
        · split <;> exact .same (Or.inl rfl)
    | remove video => exact remove_clean video
    | undoSkip video =>
        change Clean stage false (stage.undoSkip video)
        unfold freshCall at fresh
        rw [passes] at fresh
        unfold undoSkip
        cases there : stage.source with
        | none =>
            rw [there] at fresh
            refine .set ?_
            rintro _ ⟨⟩
            exact of_decide_eq_true fresh
        | some current =>
            dsimp only
            by_cases queued : current ∈ stage.queue
            · rw [if_pos queued]
              rw [there] at fresh
              have absent : video ∉ stage.queue := by simpa [queued] using fresh
              refine .set ?_
              rintro _ ⟨⟩
              exact absent
            · rw [if_neg queued]
              exact .same (Or.inl rfl)
    | undoAdd video =>
        change Clean stage false (stage.undoAdd video)
        unfold undoAdd
        split
        · exact remove_clean _
        · exact .set nofun
    | undoRemove video index =>
        dsimp only
        split <;> exact .same (Or.inl rfl)
    | restoreQueue =>
        change Clean stage false stage.restoreQueue
        unfold restoreQueue
        split
        · exact .same (Or.inl rfl)
        · split
          · exact .same (Or.inl rfl)
          · split <;> exact .same (Or.inl rfl)
    | discardQueue => exact .shrunk (List.Sublist.refl _) (Or.inl rfl)
    | arrange => exact .same (Or.inl rfl)
    | setQueueMode mode => exact .shrunk (List.Sublist.refl _) (Or.inl rfl)
  · rw [Bool.not_eq_true] at passes
    rw [passes]
    exact .same (Or.inl rfl)

theorem dequeueOrClear_clean (looped : Bool) (mine : own = looped) :
    Clean stage own (stage.dequeueOrClear looped) := by
  unfold dequeueOrClear
  split
  · split
    · exact .set nofun
    · rename_i empty absent
      refine ⟨id, ?_⟩
      intro video there
      rw [there] at absent
      exact absurd rfl absent
  · refine .same ?_
    cases looped with
    | false => exact Or.inl mine
    | true => exact Or.inr rfl

theorem dequeueNext_clean : Clean stage false stage.dequeueNext := by
  unfold dequeueNext
  split
  · exact .same (Or.inl rfl)
  · exact .same (Or.inl rfl)
  · exact dequeueOrClear_clean false rfl

theorem play_clean {video : VideoId}
    (fresh : (stage.source.isSome || decide (video ∉ stage.queue)) = true) :
    Clean stage false (stage.play video) := by
  unfold play
  split
  · exact .same (Or.inl rfl)
  · rename_i none
    rw [none] at fresh
    refine .set ?_
    rintro _ ⟨⟩
    exact of_decide_eq_true fresh

/-- What a handler does from a point on. -/
theorem resume_clean (point : StagePoint) (fresh : stage.freshResume point answer = true) :
    Clean stage point.requeues (Stage.resume point answer stage) := by
  cases point with
  | ticking =>
      unfold Stage.resume
      dsimp only
      split <;> exact .same (Or.inl rfl)
  | advancing => exact dequeueNext_clean
  | requeued => exact dequeueOrClear_clean true rfl
  | dequeued item looped =>
      refine .set ?_
      rintro video rfl
      exact of_decide_eq_true fresh
  | lookingUp =>
      unfold Stage.resume
      dsimp only
      split <;> exact .same (Or.inl rfl)
  | lookingUpMany =>
      unfold Stage.resume
      dsimp only
      split <;> exact .same (Or.inl rfl)
  | choosing rest kept =>
      cases rest with
      | nil =>
          unfold Stage.resume
          dsimp only
          split <;> exact .same (Or.inl rfl)
      | cons video rest =>
          unfold Stage.resume
          dsimp only
          split
          · exact .same (Or.inl rfl)
          · split <;> exact .same (Or.inl rfl)
  | finishing => exact .shrunk (List.Sublist.refl _) (Or.inl rfl)
  | checkingPlay video queued =>
      unfold Stage.resume
      dsimp only
      split
      · exact .same (Or.inl rfl)
      · split <;> exact .same (Or.inl rfl)
  | lookingUpPlay =>
      unfold Stage.resume
      unfold freshResume at fresh
      dsimp only at fresh ⊢
      split
      · rename_i video found
        rw [found] at fresh
        exact play_clean fresh
      · exact .same (Or.inl rfl)
  | evicted video => exact play_clean fresh
  | pushed video =>
      refine .set ?_
      rintro _ ⟨⟩
      exact of_decide_eq_true fresh
  | undoing video =>
      refine .set ?_
      rintro _ ⟨⟩
      exact of_decide_eq_true fresh

theorem pushTop_clean {current : VideoId} {next : StagePoint} (going : next.requeues = true)
    (fresh : (!stage.accepts 1 || decide (current ∉ stage.queue)) = true) :
    Clean stage false (stage.pushTop current next) := by
  unfold pushTop
  split
  · exact .same (Or.inl rfl)
  · rename_i room
    have taken : stage.accepts 1 = true := decide_eq_true (Nat.le_of_not_lt room)
    rw [taken] at fresh
    refine .requeue ?_ going
    exact List.Nodup.cons (of_decide_eq_true fresh)

/-- What a section does under the lock. -/
theorem serve_clean (guarded : StageSection) (fresh : stage.freshServe guarded = true) :
    Clean stage guarded.requeues (Stage.serve guarded answer stage) := by
  cases guarded with
  | enqueueOverflow current =>
      refine .requeue ?_ rfl
      intro distinct
      rw [List.nodup_append_comm]
      exact List.Nodup.cons (of_decide_eq_true fresh) distinct
  | dequeue looped =>
      refine .shrunk (List.tail_sublist _) ?_
      cases looped with
      | false => exact Or.inl rfl
      | true => exact Or.inr rfl
  | enqueue videos clears =>
      unfold Stage.serve
      dsimp only
      split
      · exact .same (Or.inl rfl)
      · rename_i room
        have taken : stage.accepts videos.length = true := decide_eq_true (Nat.le_of_not_lt room)
        unfold freshServe at fresh
        dsimp only at fresh
        rw [taken, Bool.not_true, Bool.false_or, Bool.and_eq_true, decide_eq_true_eq,
          List.all_eq_true] at fresh
        refine .add fresh.1 (List.Perm.refl _) ?_
        intro video member
        exact (Bool.not_eq_true' _).mp (fresh.2 video member)
  | evict video => exact .shrunk List.erase_sublist (Or.inl rfl)
  | evictToPlay video =>
      unfold Stage.serve
      dsimp only
      split
      · exact .shrunk List.erase_sublist (Or.inl rfl)
      · exact .same (Or.inl rfl)
  | pushTopToPlay current video => exact pushTop_clean rfl fresh
  | pushTopToUndo current video => exact pushTop_clean rfl fresh
  | insert video index =>
      unfold Stage.serve
      dsimp only
      split
      · exact .same (Or.inl rfl)
      · rename_i room
        have taken : stage.accepts 1 = true := decide_eq_true (Nat.le_of_not_lt room)
        unfold freshServe at fresh
        dsimp only at fresh
        rw [taken, Bool.not_true, Bool.false_or, Bool.not_eq_true'] at fresh
        refine .add (List.nodup_singleton video) ?_ ?_
        · refine List.perm_middle.trans ?_
          rw [List.take_append_drop]
          exact (List.perm_append_singleton video stage.queue).symm
        · intro other member
          rw [List.mem_singleton.mp member]
          exact fresh
  | arrange =>
      refine ⟨?_, ?_⟩
      · intro distinct
        exact (answer.arrange_perm stage.queue).nodup_iff.mpr distinct
      · intro video there member
        exact Or.inr ⟨rfl, there, (answer.arrange_perm stage.queue).mem_iff.mp member⟩

/-- An add that nothing comes between, and whose lookup keeps the video, finds it absent. -/
theorem fresh_add_alone {asked later : Stage} {video : VideoId} {looked : StageAnswer}
    {guarded : StageSection} (kept : ∀ found ∈ looked.found, found = video)
    (call : stage.call (.add video) answer = (asked, .point .lookingUp))
    (resume : asked.resume .lookingUp looked = (later, .locked guarded)) :
    later.freshServe guarded = true := by
  have checked : stage = asked ∧ stage.isVideoInQueue video = false := by
    unfold Stage.call at call
    split at call
    · cases call
    · dsimp only at call
      split at call
      · cases call
      · rename_i absent
        exact ⟨congrArg Prod.fst call, Bool.eq_false_iff.mpr absent⟩
  obtain ⟨rfl, absent⟩ := checked
  unfold Stage.resume at resume
  dsimp only at resume
  split at resume
  · rename_i found _ answered
    cases resume
    rw [kept found answered]
    simp [freshServe, absent]
  · cases resume

end Pieces

end Stage

section Distinct

/-- Some handler has put the current video back and will replace it. -/
def StageTasks.requeueing (tasks : StageTasks) : Bool :=
  tasks.ready.any StagePoint.requeues || tasks.waiting.any StageSection.requeues

/-- The invariant: no video is queued twice, and the current one only on its way out. -/
structure StageTasks.Distinct (tasks : StageTasks) : Prop where
  queue : tasks.shared.queue.Nodup
  current : ∀ video, tasks.shared.source = some video → video ∈ tasks.shared.queue →
    StageTasks.requeueing tasks = true

namespace StageTasks

variable {tasks others : StageTasks}

theorem requeueing_iff : tasks.requeueing = true ↔
    (∃ point ∈ tasks.ready, point.requeues = true) ∨
      ∃ guarded ∈ tasks.waiting, guarded.requeues = true := by
  unfold requeueing
  rw [Bool.or_eq_true, List.any_eq_true, List.any_eq_true]

/-- The handler that came to rest, and the others. -/
theorem requeueing_park {result : Stage.Result}
    (going : Stage.requeues result.2 = true ∨ others.requeueing = true) :
    StageTasks.requeueing (others.park result) = true := by
  rw [requeueing_iff]
  rcases going with own | other
  · obtain ⟨stage, rest⟩ := result
    cases rest with
    | done => cases own
    | point point => exact Or.inl ⟨point, (Tasks.mem_park_ready _ _).mpr (Or.inr rfl), own⟩
    | locked guarded => exact Or.inr ⟨guarded, (Tasks.mem_park_waiting _ _).mpr (Or.inr rfl), own⟩
  · rcases requeueing_iff.mp other with ⟨point, member, going⟩ | ⟨guarded, member, going⟩
    · exact Or.inl ⟨point, (Tasks.mem_park_ready _ _).mpr (Or.inl member), going⟩
    · exact Or.inr ⟨guarded, (Tasks.mem_park_waiting _ _).mpr (Or.inl member), going⟩

namespace Distinct

/-- A clean piece of one handler among the others. -/
theorem park {own : Bool} {result : Stage.Result} (distinct : tasks.Distinct)
    (clean : tasks.shared.Clean own result)
    (left : tasks.requeueing = true → own = false → others.requeueing = true) :
    StageTasks.Distinct (others.park result) := by
  refine ⟨?_, ?_⟩
  · rw [Tasks.park_shared]
    exact clean.queue distinct.queue
  · intro video there member
    rw [Tasks.park_shared] at there member
    rcases clean.current video there member with going | ⟨other, before, queued⟩
    · exact requeueing_park (Or.inl going)
    · exact requeueing_park (Or.inr (left (distinct.current video before queued) other))

/-- One step whose piece finds what it needs. -/
theorem step (distinct : tasks.Distinct) {label : StageLabel}
    (possible : Program.Enabled tasks label) (fresh : Stage.fresh.allows tasks label = true) :
    StageTasks.Distinct (Stage.program.next label tasks) := by
  rcases Stage.program.next_cases possible with ⟨call, answer, rfl, next⟩ |
    ⟨earlier, point, later, answer, rfl, split, next⟩ | ⟨guarded, rest, answer, rfl, first, next⟩
  · rw [next]
    exact distinct.park (Stage.call_clean answer call fresh) fun going _ => going
  · rw [next]
    rw [Guard.allows_resume _ split] at fresh
    refine distinct.park (Stage.resume_clean answer point fresh) ?_
    intro going other
    rw [requeueing_iff, split] at going
    rw [requeueing_iff]
    rcases going with ⟨busy, member, going⟩ | waiting
    · rcases List.mem_append.mp member with before | after
      · exact Or.inl ⟨busy, List.mem_append_left _ before, going⟩
      · rcases List.mem_cons.mp after with rfl | after
        · rw [other] at going
          cases going
        · exact Or.inl ⟨busy, List.mem_append_right _ after, going⟩
    · exact Or.inr waiting
  · rw [next]
    rw [Guard.allows_serve _ first] at fresh
    refine distinct.park (Stage.serve_clean answer guarded fresh) ?_
    intro going other
    rw [requeueing_iff, first] at going
    rw [requeueing_iff]
    rcases going with ready | ⟨busy, member, going⟩
    · exact Or.inl ready
    · rcases List.mem_cons.mp member with rfl | after
      · rw [other] at going
        cases going
      · exact Or.inr ⟨busy, after, going⟩

end Distinct

end StageTasks

/-- Every interleaving of the room's handlers, from a room without duplicates. -/
def stageSystem : TransitionSystem StageTasks StageLabel :=
  Stage.program.system fun stage => stage.videos.Nodup

/-- In every interleaving in which each piece of a handler that puts a video into the room
finds it absent, the queue has no video twice, and the current video is queued only while
the handler that put it back has not replaced it yet. -/
theorem videos_stay_distinct {tasks : StageTasks}
    (reachable : (stageSystem.restrict fun tasks label =>
      Stage.fresh.allows tasks label = true).Reachable tasks) :
    tasks.shared.queue.Nodup ∧
      (StageTasks.requeueing tasks = false → tasks.shared.videos.Nodup) := by
  have distinct : tasks.Distinct := by
    refine TransitionSystem.Inductive.of_reachable ⟨?_, ?_⟩ reachable
    · rintro _ ⟨stage, distinct, rfl⟩
      unfold Stage.videos at distinct
      rw [List.nodup_append] at distinct
      refine ⟨distinct.2.1, ?_⟩
      intro video there member
      refine absurd rfl (distinct.2.2 video ?_ video member)
      rw [Option.mem_toList]
      exact there
    · rintro before label after distinct ⟨fresh, possible, rfl⟩
      exact distinct.step possible fresh
  refine ⟨distinct.queue, ?_⟩
  intro still
  unfold Stage.videos
  refine List.Nodup.append ?_ distinct.queue ?_
  · cases tasks.shared.source with
    | none => exact List.nodup_nil
    | some current => exact List.nodup_singleton current
  · intro video current queued
    rw [distinct.current video (Option.mem_toList.mp current) queued] at still
    cases still

end Distinct

namespace Sample

/-- A room that plays one video. -/
def playing : StageTasks := { shared := { source := some (videoOf "a") } }

/-- The lookup of a video succeeds. -/
def looksUp (id : String) : StageAnswer := { (default : StageAnswer) with found := some (videoOf id) }

/-- A video is added from its request to its end. -/
def addThrough (id : String) : List StageLabel :=
  [.call (.add (videoOf id)) default, .resume 0 (looksUp id), .serve default, .resume 0 default]

/-- An add, a skip and another add, one after the other. -/
def addSkipAdd : List StageLabel :=
  addThrough "b" ++ [.call .skip default, .resume 0 default, .serve default, .resume 0 default] ++
    addThrough "c"

/-- Two requests to add one video, both before the first lookup is answered. -/
def addTwice : List StageLabel :=
  [.call (.add (videoOf "b")) default, .call (.add (videoOf "b")) default, .resume 0 (looksUp "b"),
    .resume 0 (looksUp "b"), .serve default, .serve default, .resume 0 default, .resume 0 default]

end Sample

/-- Both requests find the video absent, and both enqueue it. -/
theorem overlapping_adds_duplicate :
    stageSystem.Reachable (TransitionSystem.run Stage.program.next Sample.addTwice Sample.playing) ∧
    (TransitionSystem.run Stage.program.next Sample.addTwice Sample.playing).quiet = true ∧
    ¬ (TransitionSystem.run Stage.program.next Sample.addTwice
      Sample.playing).shared.videos.Nodup := by
  have run : stageSystem.Steps Sample.playing
      (TransitionSystem.run Stage.program.next Sample.addTwice Sample.playing) := by
    have taken : TransitionSystem.runs Stage.program.next
        (fun tasks label => Program.Enabled tasks label) Sample.addTwice Sample.playing = true := by
      decide +kernel
    refine TransitionSystem.steps_run ?_ _ _ taken
    intro tasks label possible
    exact ⟨possible, rfl⟩
  refine ⟨⟨_, ⟨_, ?_, rfl⟩, run⟩, ?_, ?_⟩
  · decide +kernel
  · decide +kernel
  · decide +kernel

/-- Requests that wait for one another. -/
theorem videos_stay_distinct_added :
    (TransitionSystem.run Stage.program.next Sample.addSkipAdd
      Sample.playing).shared.videos.Nodup := by
  have run : (stageSystem.restrict fun tasks label =>
      Stage.fresh.allows tasks label = true).Steps Sample.playing
        (TransitionSystem.run Stage.program.next Sample.addSkipAdd Sample.playing) := by
    have taken : TransitionSystem.runs Stage.program.next (fun tasks label =>
        Program.Enabled tasks label ∧ Stage.fresh.allows tasks label = true)
        Sample.addSkipAdd Sample.playing = true := by
      decide +kernel
    refine TransitionSystem.steps_run ?_ _ _ taken
    rintro tasks label ⟨possible, fresh⟩
    exact ⟨fresh, possible, rfl⟩
  refine (videos_stay_distinct ⟨_, ⟨_, ?_, rfl⟩, run⟩).2 ?_
  · decide +kernel
  · decide +kernel

end OpenTogetherTube
