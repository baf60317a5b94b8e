import OpenTogetherTube.Lib.Tasks
import OpenTogetherTube.Room.Rounds
import OpenTogetherTube.Room.Turns

/-!
# The room's requests between their awaits

`Room.Requests` runs each handler in one piece. Here a handler is cut at every `await` that
other handlers can come in at: the gate, a metadata lookup, a subtitle check and the lock of
the queue. What is left of the room is what these handlers write, the current video and the
queue; what they ask of the rest (a permission, the votes, the clock, a lookup) is an answer
from outside. `Stage.dequeueNext_alone`: without interruption `dequeueNext` does what it does
in one piece.
-/

namespace OpenTogetherTube

open Lib

/-- The current video, the queue and what the handlers between them read. -/
structure Stage where
  source : Option VideoId := none
  queue : List VideoId := []
  prevQueue : Option (List VideoId) := none
  queueMode : QueueMode := .manual
deriving DecidableEq

/-- What comes from outside. -/
structure StageAnswer where
  /-- The checks outside the stage let the request go on: its permissions, the votes to
  skip, the subtitle, and for a tick that the current video has ended. -/
  passes : Bool := true
  /-- `getVideoInfo`. -/
  found : Option VideoId := none
  /-- `getManyVideoInfo`. -/
  foundMany : Option (List VideoId) := none
  /-- `_.shuffle` and `_.orderBy`. -/
  arrange : List VideoId → List VideoId := id
  arrange_perm : ∀ videos, (arrange videos).Perm videos := by intro videos; exact List.Perm.refl _

instance : Inhabited StageAnswer := ⟨{}⟩

/-- A request, or the tick of `update`. The sort that ends a tick in vote mode is a call of
its own, and an undo request is named after the recorded event it is about. -/
inductive StageCall where
  | skip
  | update
  | add (video : VideoId)
  | addMany
  | playNow (video : VideoId)
  | remove (video : VideoId)
  | undoSkip (video : VideoId)
  | undoAdd (video : Option VideoId)
  | undoRemove (video : VideoId) (index : Nat)
  | restoreQueue
  | discardQueue
  | arrange
  | setQueueMode (mode : QueueMode)
deriving DecidableEq

/-- Where a handler waits for something other than the lock. -/
inductive StagePoint where
  /-- `update`, before it looks at the source. -/
  | ticking
  /-- `dequeueNext`, at the gate. -/
  | advancing
  /-- `dequeueNext`, once the current video is queued again. -/
  | requeued
  /-- `dequeueNext`, with the next video in its hands; `looped` if it queued the last one. -/
  | dequeued (item : Option VideoId) (looped : Bool)
  /-- `addToQueue`, at the lookup of one video. -/
  | lookingUp
  /-- `addToQueue`, at the lookup of a batch. -/
  | lookingUpMany
  /-- `addToQueue`, in the loop over a batch. -/
  | choosing (rest kept : List VideoId)
  /-- The end of `addToQueue` and of `restoreQueue`. -/
  | finishing
  /-- `playNow`, at the subtitle check. -/
  | checkingPlay (video : VideoId) (queued : Bool)
  /-- `playNow`, at the lookup. -/
  | lookingUpPlay
  /-- `playNow`, with the video taken out of the queue. -/
  | evicted (video : VideoId)
  /-- `playNow`, once the current video is queued again. -/
  | pushed (video : VideoId)
  /-- `undo` of a skip, once the current video is queued again. -/
  | undoing (video : VideoId)
deriving DecidableEq

/-- A section under the queue's lock, and whose it is. -/
inductive StageSection where
  | enqueueOverflow (video : VideoId)
  | dequeue (looped : Bool)
  | enqueue (videos : List VideoId) (clears : Bool)
  | evict (video : VideoId)
  | evictToPlay (video : VideoId)
  | pushTopToPlay (current video : VideoId)
  | pushTopToUndo (current video : VideoId)
  | insert (video : VideoId) (index : Nat)
  | arrange
deriving DecidableEq

namespace Stage

/-- The videos of the room, the current one first. -/
def videos (stage : Stage) : List VideoId := stage.source.toList ++ stage.queue

def isVideoInQueue (video : VideoId) (stage : Stage) : Bool :=
  decide (stage.source = some video) || decide (video ∈ stage.queue)

/-- Where a task goes on from. -/
abbrev Result := Stage × Rest StagePoint StageSection

/-- `dequeueNext` once the current video is dealt with. -/
def dequeueOrClear (looped : Bool) (stage : Stage) : Result :=
  if stage.queue.isEmpty then
    (if stage.source.isSome then { stage with source := none } else stage, .done)
  else (stage, .locked (.dequeue looped))

/-- `dequeueNext` after the gate. -/
def dequeueNext (stage : Stage) : Result :=
  match stage.source, stage.queueMode with
  | some _, .dj => (stage, .done)
  | some current, .loop => (stage, .locked (.enqueueOverflow current))
  | _, _ => stage.dequeueOrClear false

/-- `playNow` once it has the video. -/
def play (video : VideoId) (stage : Stage) : Result :=
  match stage.source with
  | some current => (stage, .locked (.pushTopToPlay current video))
  | none => ({ stage with source := some video }, .done)

/-- The first piece of `playNow`. -/
def playNow (video : VideoId) (stage : Stage) : Result :=
  if stage.source = some video then (stage, .done)
  else if video ∉ stage.queue ∧ stage.queue.length ≥ MAX_QUEUE_ITEMS then (stage, .done)
  else (stage, .point (.checkingPlay video (decide (video ∈ stage.queue))))

/-- The first piece of `removeFromQueue`. -/
def remove (video : VideoId) (stage : Stage) : Result :=
  if video ∈ stage.queue then (stage, .locked (.evict video)) else (stage, .done)

/-- The undo of a skip. -/
def undoSkip (video : VideoId) (stage : Stage) : Result :=
  match stage.source with
  | some current =>
      if current ∈ stage.queue then ({ stage with source := some video }, .done)
      else (stage, .locked (.pushTopToUndo current video))
  | none => ({ stage with source := some video }, .done)

/-- The undo of an add. -/
def undoAdd (video : Option VideoId) (stage : Stage) : Result :=
  match video, stage.queue with
  | some video, _ :: _ => stage.remove video
  | _, _ => ({ stage with source := none }, .done)

/-- The first piece of `restoreQueue`. -/
def restoreQueue (stage : Stage) : Result :=
  match stage.prevQueue with
  | none => (stage, .done)
  | some videos =>
      if stage.queue.length + videos.length > MAX_QUEUE_ITEMS then (stage, .done)
      else if videos.isEmpty then (stage, .point .finishing)
      else (stage, .locked (.enqueue videos true))

/-- The first piece of each handler. -/
def call (call : StageCall) (answer : StageAnswer) (stage : Stage) : Result :=
  if !answer.passes then (stage, .done)
  else
    match call with
    | .skip => if stage.source.isSome then (stage, .point .advancing) else (stage, .done)
    | .update => (stage, .point .ticking)
    | .add video =>
        if stage.isVideoInQueue video then (stage, .done) else (stage, .point .lookingUp)
    | .addMany => (stage, .point .lookingUpMany)
    | .playNow video => stage.playNow video
    | .remove video => stage.remove video
    | .undoSkip video => stage.undoSkip video
    | .undoAdd video => stage.undoAdd video
    | .undoRemove video index =>
        if index > stage.queue.length then (stage, .done) else (stage, .locked (.insert video index))
    | .restoreQueue => stage.restoreQueue
    | .discardQueue => ({ stage with prevQueue := none }, .done)
    | .arrange => (stage, .locked .arrange)
    | .setQueueMode mode => ({ stage with queueMode := mode }, .done)

/-- What a handler does from a point on. -/
def resume (point : StagePoint) (answer : StageAnswer) (stage : Stage) : Result :=
  match point with
  | .ticking =>
      if (stage.source.isNone && !stage.queue.isEmpty) || (stage.source.isSome && answer.passes) then
        (stage, .point .advancing)
      else (stage, .done)
  | .advancing => stage.dequeueNext
  | .requeued => stage.dequeueOrClear true
  | .dequeued item _ => ({ stage with source := item }, .done)
  | .lookingUp =>
      match answer.passes, answer.found with
      | true, some video => (stage, .locked (.enqueue [video] true))
      | _, _ => (stage, .done)
  | .lookingUpMany =>
      match answer.foundMany with
      | some videos => (stage, .point (.choosing videos []))
      | none => (stage, .done)
  | .choosing [] kept =>
      if kept.isEmpty then (stage, .done) else (stage, .locked (.enqueue kept false))
  | .choosing (video :: rest) kept =>
      if !answer.passes then (stage, .done)
      else if stage.isVideoInQueue video then (stage, .point (.choosing rest kept))
      else (stage, .point (.choosing rest (kept ++ [video])))
  | .finishing => ({ stage with prevQueue := none }, .done)
  | .checkingPlay video queued =>
      if !answer.passes then (stage, .done)
      else if queued then (stage, .locked (.evictToPlay video))
      else (stage, .point .lookingUpPlay)
  | .lookingUpPlay =>
      match answer.found with
      | some video => stage.play video
      | none => (stage, .done)
  | .evicted video => stage.play video
  | .pushed video | .undoing video => ({ stage with source := some video }, .done)

/-- A push on top of the queue, which is refused at the cap. -/
def pushTop (video : VideoId) (next : StagePoint) (stage : Stage) : Result :=
  if stage.queue.length + 1 > MAX_QUEUE_ITEMS then (stage, .done)
  else ({ stage with queue := video :: stage.queue }, .point next)

/-- What a section does under the lock. -/
def serve (guarded : StageSection) (answer : StageAnswer) (stage : Stage) : Result :=
  match guarded with
  | .enqueueOverflow video => ({ stage with queue := stage.queue ++ [video] }, .point .requeued)
  | .dequeue looped =>
      ({ stage with queue := stage.queue.tail }, .point (.dequeued stage.queue.head? looped))
  | .enqueue videos clears =>
      if stage.queue.length + videos.length > MAX_QUEUE_ITEMS then (stage, .done)
      else ({ stage with queue := stage.queue ++ videos }, if clears then .point .finishing else .done)
  | .evict video => ({ stage with queue := stage.queue.erase video }, .done)
  | .evictToPlay video =>
      if video ∈ stage.queue then
        ({ stage with queue := stage.queue.erase video }, .point (.evicted video))
      else (stage, .done)
  | .pushTopToPlay current video => stage.pushTop current (.pushed video)
  | .pushTopToUndo current video => stage.pushTop current (.undoing video)
  | .insert video index =>
      if stage.queue.length + 1 > MAX_QUEUE_ITEMS then (stage, .done)
      else ({ stage with queue := stage.queue.take index ++ video :: stage.queue.drop index }, .done)
  | .arrange => ({ stage with queue := answer.arrange stage.queue }, .done)

/-- The handlers as tasks. -/
def program : Program Stage StageCall StageAnswer StagePoint StageSection where
  call := call
  resume := resume
  serve := serve

end Stage

/-- The handlers of a room, at their points and in line for the lock. -/
abbrev StageTasks := Tasks Stage StagePoint StageSection

abbrev StageLabel := TaskLabel StageCall StageAnswer

/-- What the stage shows of the contents of a room. -/
def Contents.stage (contents : Contents) : Stage where
  source := contents.source
  queue := contents.queue
  prevQueue := contents.prevQueue
  queueMode := contents.queueMode

section Alone

theorem Contents.takeNext_stage (contents : Contents) : contents.takeNext.stage =
    { contents.stage with source := contents.queue.head?, queue := contents.queue.tail } := by
  unfold takeNext
  split
  · rename_i video rest queued
    unfold stage setSource
    rw [queued]
    rfl
  · rename_i empty
    rw [empty]
    split
    · unfold stage setSource
      dsimp only
      rw [empty]
      rfl
    · rename_i idle
      rw [Option.not_isSome_iff_eq_none] at idle
      unfold stage
      dsimp only
      rw [empty, idle]
      rfl

/-- `dequeueNext` once it looks at the queue, with nobody coming in between. -/
theorem Stage.dequeueOrClear_alone (looped : Bool) (stage : Stage) :
    ∃ labels : List StageLabel, TransitionSystem.runs Stage.program.next Program.Enabled labels
        (({ shared := stage } : StageTasks).park (stage.dequeueOrClear looped)) = true ∧
      TransitionSystem.run Stage.program.next labels
        (({ shared := stage } : StageTasks).park (stage.dequeueOrClear looped)) =
          { shared := { stage with source := stage.queue.head?, queue := stage.queue.tail } } := by
  obtain ⟨source, queue, prevQueue, queueMode⟩ := stage
  cases queue with
  | nil => cases source <;> exact ⟨[], rfl, rfl⟩
  | cons video rest => exact ⟨[.serve {}, .resume 0 {}], rfl, rfl⟩

/-- A `dequeueNext` that nobody interrupts does what it does in one piece. -/
theorem Stage.dequeueNext_alone (env : Env) (room : Room) :
    ∃ labels : List StageLabel, TransitionSystem.runs Stage.program.next Program.Enabled labels
        { shared := room.contents.stage, ready := [.advancing] } = true ∧
      TransitionSystem.run Stage.program.next labels
        { shared := room.contents.stage, ready := [.advancing] } =
          { shared := (room.dequeueNext env).contents.stage } := by
  have votes : room.contents.clearSkipVotes.stage = room.contents.stage := by
    unfold Contents.clearSkipVotes
    split <;> rfl
  rw [Room.dequeueNext_contents, ← votes]
  unfold Contents.advance
  dsimp only
  generalize room.contents.clearSkipVotes = contents
  -- Without a current video, or with one that the mode lets go.
  have plain : contents.stage.dequeueNext = contents.stage.dequeueOrClear false →
      ∃ labels : List StageLabel, TransitionSystem.runs Stage.program.next Program.Enabled labels
          { shared := contents.stage, ready := [.advancing] } = true ∧
        TransitionSystem.run Stage.program.next labels
          { shared := contents.stage, ready := [.advancing] } =
            { shared := contents.takeNext.stage } := by
    intro same
    obtain ⟨labels, possible, ends⟩ := dequeueOrClear_alone false contents.stage
    rw [← same] at possible ends
    rw [Contents.takeNext_stage]
    exact ⟨.resume 0 {} :: labels, possible, ends⟩
  obtain ⟨viewers, source, sets, queue, prevQueue, asked, skipping, mode, voting⟩ := contents
  cases source with
  | none => cases mode <;> exact plain rfl
  | some current =>
      cases mode with
      | manual => exact plain rfl
      | vote => exact plain rfl
      | dj => exact ⟨[.resume 0 {}], rfl, rfl⟩
      | loop =>
          obtain ⟨labels, possible, ends⟩ := dequeueOrClear_alone true
            ⟨some current, queue ++ [current], prevQueue, .loop⟩
          refine ⟨.resume 0 {} :: .serve {} :: .resume 0 {} :: labels, possible, ?_⟩
          dsimp only
          rw [Contents.takeNext_stage]
          exact ends

end Alone

section Advance

/-- A skip request or a tick. -/
def StageLabel.advances : StageLabel → Bool
  | .call .skip _ | .call .update _ => true
  | .call _ _ => false
  | _ => true

/-- A point of `dequeueNext` after it has read the current video. -/
def StagePoint.isBusy : StagePoint → Bool
  | .requeued | .dequeued _ _ => true
  | _ => false

/-- A point that a skip or a tick comes to. -/
def StagePoint.isAdvance : StagePoint → Bool
  | .ticking | .advancing | .requeued | .dequeued _ _ => true
  | _ => false

/-- A `dequeueNext` reads the current video only when no other is between reading and
replacing it. -/
def StageTasks.advancesAlone (tasks : StageTasks) : StageLabel → Bool
  | .resume index _ =>
      decide (tasks.ready[index]? ≠ some .advancing) ||
        ((tasks.ready.filter StagePoint.isBusy).isEmpty && tasks.waiting.isEmpty)
  | _ => true

/-- The videos are all there: current and queued, or in the hands of the one `dequeueNext`
that is at work. -/
inductive Stage.Holds (videos : List VideoId) (stage : Stage) :
    List StagePoint → List StageSection → Prop
  | idle (same : stage.videos.Perm videos) : Holds videos stage [] []
  | requeueing (current : VideoId) (there : stage.source = some current)
      (same : stage.videos.Perm videos) : Holds videos stage [] [.enqueueOverflow current]
  | requeued (same : stage.queue.Perm videos) : Holds videos stage [.requeued] []
  | dequeueing (looped : Bool) (same : stage.queue.Perm videos) :
      Holds videos stage [] [.dequeue looped]
  | dequeued (item : Option VideoId) (looped : Bool)
      (same : (item.toList ++ stage.queue).Perm videos) :
      Holds videos stage [.dequeued item looped] []

/-- The invariant of advances that do not overlap. -/
structure StageTasks.Conserves (videos : List VideoId) (tasks : StageTasks) : Prop where
  loops : tasks.shared.queueMode = .loop
  points : ∀ point ∈ tasks.ready, point.isAdvance = true
  holds : tasks.shared.Holds videos (tasks.ready.filter StagePoint.isBusy) tasks.waiting

namespace StageTasks.Conserves

variable {videos : List VideoId} {tasks : StageTasks}

variable (conserves : tasks.Conserves videos)

include conserves

/-- A task that goes on without touching the stage to a point where it holds nothing. -/
theorem park_idle {result : Stage.Result}
    (same : result.1 = tasks.shared)
    (rests : result.2 = .done ∨ ∃ point, result.2 = .point point ∧ point.isAdvance = true ∧
      point.isBusy = false) : StageTasks.Conserves videos (tasks.park result) := by
  obtain ⟨shared, rest⟩ := result
  obtain ⟨loops, points, holds⟩ := conserves
  dsimp only at same rests
  subst same
  rcases rests with rfl | ⟨point, rfl, advance, idle⟩
  · exact ⟨loops, points, holds⟩
  · refine ⟨loops, ?_, ?_⟩
    · intro other member
      rcases List.mem_append.mp member with old | new
      · exact points other old
      · rw [List.mem_singleton.mp new]
        exact advance
    · change tasks.shared.Holds videos ((tasks.ready ++ [point]).filter StagePoint.isBusy)
        tasks.waiting
      rw [List.filter_append, List.filter_singleton, idle]
      simpa using holds

theorem call (call : StageCall) (answer : StageAnswer)
    (advances : StageLabel.advances (.call call answer) = true) :
    StageTasks.Conserves videos (tasks.park (Stage.program.call call answer tasks.shared)) := by
  have parked : (Stage.call call answer tasks.shared).1 = tasks.shared ∧
      ((Stage.call call answer tasks.shared).2 = .done ∨
        ∃ point, (Stage.call call answer tasks.shared).2 = .point point ∧
          point.isAdvance = true ∧ point.isBusy = false) := by
    unfold Stage.call
    split
    · exact ⟨rfl, Or.inl rfl⟩
    · cases call with
      | skip =>
          dsimp only
          split
          · exact ⟨rfl, Or.inr ⟨.advancing, rfl, rfl, rfl⟩⟩
          · exact ⟨rfl, Or.inl rfl⟩
      | update => exact ⟨rfl, Or.inr ⟨.ticking, rfl, rfl, rfl⟩⟩
      | _ => cases advances
  exact conserves.park_idle parked.1 parked.2

/-- The lock is only ever asked for by the one at work. -/
theorem serve {guarded : StageSection}
    {rest : List StageSection} (answer : StageAnswer) (first : tasks.waiting = guarded :: rest) :
    StageTasks.Conserves videos
      ({ tasks with waiting := rest }.park (Stage.program.serve guarded answer tasks.shared)) := by
  obtain ⟨loops, points, holds⟩ := conserves
  have parked : ∀ (shared : Stage) (point : StagePoint), shared.queueMode = .loop →
      point.isAdvance = true → point.isBusy = true → rest = [] →
      tasks.ready.filter StagePoint.isBusy = [] → shared.Holds videos [point] [] →
      StageTasks.Conserves videos ({ tasks with waiting := rest }.park (shared, .point point)) := by
    intro shared point loops advance busy alone idle holds
    refine ⟨loops, ?_, ?_⟩
    · intro other member
      rcases List.mem_append.mp member with old | new
      · exact points other old
      · rw [List.mem_singleton.mp new]
        exact advance
    · change shared.Holds videos ((tasks.ready ++ [point]).filter StagePoint.isBusy) rest
      rw [List.filter_append, idle, List.filter_singleton, busy, alone]
      exact holds
  rw [first] at holds
  generalize busy : tasks.ready.filter StagePoint.isBusy = held at holds
  cases holds with
  | requeueing current there same =>
      refine parked _ .requeued loops rfl rfl rfl busy (.requeued ?_)
      unfold Stage.videos at same
      rw [there] at same
      exact (List.perm_append_singleton current tasks.shared.queue).trans same
  | dequeueing looped same =>
      refine parked _ (.dequeued tasks.shared.queue.head? looped) loops rfl rfl rfl busy
        (.dequeued _ looped ?_)
      cases queue : tasks.shared.queue with
      | nil =>
          rw [queue] at same
          exact same
      | cons video rest =>
          rw [queue] at same
          exact same

omit conserves in
/-- `dequeueNext` goes on to the lock with every video queued, or there are none. -/
theorem dequeueOrClear {ready : List StagePoint} (looped : Bool)
    (loops : tasks.shared.queueMode = .loop) (points : ∀ point ∈ ready, point.isAdvance = true)
    (idle : ready.filter StagePoint.isBusy = []) (free : tasks.waiting = [])
    (same : tasks.shared.queue.Perm videos) :
    StageTasks.Conserves videos ({ tasks with ready }.park (tasks.shared.dequeueOrClear looped)) := by
  unfold Stage.dequeueOrClear
  split
  · rename_i empty
    have none : videos = [] := by
      rw [List.isEmpty_iff.mp empty] at same
      exact same.symm.eq_nil
    have cleared : (if tasks.shared.source.isSome then { tasks.shared with source := Option.none }
        else tasks.shared).videos = [] ∧ (if tasks.shared.source.isSome then
          { tasks.shared with source := Option.none } else tasks.shared).queueMode = .loop := by
      split
      · exact ⟨List.isEmpty_iff.mp empty, loops⟩
      · rename_i absent
        refine ⟨?_, loops⟩
        unfold Stage.videos
        rw [Option.not_isSome_iff_eq_none.mp absent, List.isEmpty_iff.mp empty]
        rfl
    refine ⟨cleared.2, points, ?_⟩
    change Stage.Holds videos _ (ready.filter StagePoint.isBusy) tasks.waiting
    rw [idle, free]
    refine .idle ?_
    rw [none]
    exact List.Perm.of_eq cleared.1
  · refine ⟨loops, points, ?_⟩
    change tasks.shared.Holds videos (ready.filter StagePoint.isBusy)
      (tasks.waiting ++ [.dequeue looped])
    rw [idle, free]
    exact .dequeueing looped same

variable {earlier later : List StagePoint} {point : StagePoint}

omit conserves in
theorem filter_busy (split : tasks.ready = earlier ++ point :: later) :
    tasks.ready.filter StagePoint.isBusy = earlier.filter StagePoint.isBusy ++
      ((if point.isBusy then [point] else []) ++ later.filter StagePoint.isBusy) := by
  rw [split, List.filter_append, List.filter_cons]
  split <;> rfl

/-- A task that holds something is the only one that does. -/
theorem lone (split : tasks.ready = earlier ++ point :: later)
    (holding : point.isBusy = true) : (earlier ++ later).filter StagePoint.isBusy = [] ∧
      tasks.waiting = [] ∧ tasks.shared.Holds videos [point] [] := by
  have holds := conserves.holds
  rw [filter_busy split, if_pos holding] at holds
  generalize shape : earlier.filter StagePoint.isBusy ++
    ([point] ++ later.filter StagePoint.isBusy) = held at holds
  generalize line : tasks.waiting = waiting at holds
  have single : held.length = 1 → held = [point] ∧
      (earlier ++ later).filter StagePoint.isBusy = [] := by
    intro one
    rw [← shape, List.length_append, List.length_append, List.length_singleton] at one
    have none : earlier.filter StagePoint.isBusy = [] := List.length_eq_zero_iff.mp (by omega)
    have after : later.filter StagePoint.isBusy = [] := List.length_eq_zero_iff.mp (by omega)
    rw [none, after] at shape
    rw [List.filter_append, none, after]
    exact ⟨shape.symm, rfl⟩
  have many : held ≠ [] := by
    rw [← shape]
    simp
  cases holds with
  | idle same => exact absurd rfl many
  | requeueing current there same => exact absurd rfl many
  | requeued same =>
      obtain ⟨own, none⟩ := single rfl
      cases own
      exact ⟨none, rfl, .requeued same⟩
  | dequeueing looped same => exact absurd rfl many
  | dequeued item looped same =>
      obtain ⟨own, none⟩ := single rfl
      cases own
      exact ⟨none, rfl, .dequeued item looped same⟩

theorem others
    (split : tasks.ready = earlier ++ point :: later) :
    ∀ other ∈ earlier ++ later, other.isAdvance = true := by
  intro other member
  refine conserves.points other ?_
  rw [split]
  exact List.mem_append.mpr ((List.mem_append.mp member).imp_right (List.mem_cons_of_mem _))

/-- A task that holds nothing leaves the others as they are. -/
theorem without
    (split : tasks.ready = earlier ++ point :: later) (idle : point.isBusy = false) :
    StageTasks.Conserves videos { tasks with ready := earlier ++ later } := by
  refine ⟨conserves.loops, conserves.others split, ?_⟩
  have holds := conserves.holds
  rw [filter_busy split, idle] at holds
  change tasks.shared.Holds videos ((earlier ++ later).filter StagePoint.isBusy) tasks.waiting
  rw [List.filter_append]
  exact holds

/-- A tick has seen whether the video is over. -/
theorem ticked (answer : StageAnswer) :
    StageTasks.Conserves videos (tasks.park (Stage.program.resume .ticking answer tasks.shared)) := by
  have parked : (Stage.resume .ticking answer tasks.shared).1 = tasks.shared ∧
      ((Stage.resume .ticking answer tasks.shared).2 = .done ∨
        ∃ point, (Stage.resume .ticking answer tasks.shared).2 = .point point ∧
          point.isAdvance = true ∧ point.isBusy = false) := by
    unfold Stage.resume
    dsimp only
    split
    · exact ⟨rfl, Or.inr ⟨.advancing, rfl, rfl, rfl⟩⟩
    · exact ⟨rfl, Or.inl rfl⟩
  exact conserves.park_idle parked.1 parked.2

/-- `dequeueNext` reads the current video when nobody else is at work. -/
theorem advanced
    (idle : tasks.ready.filter StagePoint.isBusy = []) (free : tasks.waiting = []) :
    StageTasks.Conserves videos (tasks.park tasks.shared.dequeueNext) := by
  obtain ⟨loops, points, holds⟩ := conserves
  rw [idle, free] at holds
  have same : tasks.shared.videos.Perm videos := by
    cases holds with
    | idle same => exact same
  unfold Stage.dequeueNext
  cases there : tasks.shared.source with
  | none =>
      unfold Stage.videos at same
      rw [there] at same
      exact dequeueOrClear false loops points idle free same
  | some current =>
      rw [loops]
      refine ⟨loops, points, ?_⟩
      change tasks.shared.Holds videos (tasks.ready.filter StagePoint.isBusy)
        (tasks.waiting ++ [.enqueueOverflow current])
      rw [idle, free]
      exact .requeueing current there same

theorem resume (answer : StageAnswer)
    (split : tasks.ready = earlier ++ point :: later)
    (alone : tasks.advancesAlone (.resume earlier.length answer) = true) :
    StageTasks.Conserves videos ({ tasks with ready := earlier ++ later }.park
      (Stage.program.resume point answer tasks.shared)) := by
  have loops := conserves.loops
  have others := conserves.others split
  have advance : point.isAdvance = true := by
    refine conserves.points point ?_
    rw [split]
    exact List.mem_append_right _ (List.mem_cons_self ..)
  cases point with
  | ticking => exact (conserves.without split rfl).ticked answer
  | advancing =>
      have here : tasks.ready[earlier.length]? = some .advancing := by
        rw [split, List.getElem?_append_right le_rfl, Nat.sub_self, List.getElem?_cons_zero]
      have free : (earlier ++ later).filter StagePoint.isBusy = [] ∧ tasks.waiting = [] := by
        unfold StageTasks.advancesAlone at alone
        simp only [here, ne_eq, not_true_eq_false, decide_false, Bool.false_or, Bool.and_eq_true,
          List.isEmpty_iff] at alone
        rw [filter_busy split] at alone
        rw [List.filter_append]
        exact alone
      exact (conserves.without split rfl).advanced free.1 free.2
  | requeued =>
      obtain ⟨none, free, holds⟩ := conserves.lone split rfl
      cases holds with
      | requeued same => exact dequeueOrClear true loops others none free same
  | dequeued item looped =>
      obtain ⟨none, free, holds⟩ := conserves.lone split rfl
      cases holds with
      | dequeued _ _ same =>
          refine ⟨loops, others, ?_⟩
          change Stage.Holds videos { tasks.shared with source := item }
            ((earlier ++ later).filter StagePoint.isBusy) tasks.waiting
          rw [none, free]
          exact .idle same
  | _ => cases advance

theorem step {label : StageLabel}
    (possible : Program.Enabled tasks label) (advances : StageLabel.advances label = true)
    (alone : tasks.advancesAlone label = true) :
    StageTasks.Conserves videos (Stage.program.next label tasks) := by
  rcases Stage.program.next_cases possible with ⟨call, answer, rfl, next⟩ |
    ⟨earlier, point, later, answer, rfl, split, next⟩ | ⟨guarded, rest, answer, rfl, first, next⟩
  · rw [next]
    exact conserves.call call answer advances
  · rw [next]
    exact conserves.resume answer split alone
  · rw [next]
    exact conserves.serve answer first

end StageTasks.Conserves

/-- The interleavings of skips and ticks in a room that loops. -/
def loopSystem : TransitionSystem StageTasks StageLabel :=
  (Stage.program.system fun stage => stage.queueMode = .loop).restrict fun _ label =>
    StageLabel.advances label = true

/-- In every interleaving of skips and ticks in which no `dequeueNext` reads the current
video while another is between reading and replacing it, a looping room has the videos it
began with whenever nobody is on the way. -/
theorem loop_conserves_videos {start finish : StageTasks} (initial : loopSystem.Initial start)
    (run : (loopSystem.restrict fun tasks label => tasks.advancesAlone label = true).Steps start
      finish) (quiet : finish.quiet = true) :
    finish.shared.videos.Perm start.shared.videos := by
  obtain ⟨stage, loops, rfl⟩ := initial
  have begins : StageTasks.Conserves stage.videos { shared := stage } := by
    refine ⟨loops, ?_, .idle (List.Perm.refl _)⟩
    intro point member
    cases member
  have conserves : finish.Conserves stage.videos := by
    refine TransitionSystem.Steps.relates (StageTasks.Conserves stage.videos) begins ?_ run
    rintro before label after _ conserves ⟨alone, advances, possible, rfl⟩
    exact conserves.step possible advances alone
  unfold Tasks.quiet at quiet
  rw [Bool.and_eq_true, List.isEmpty_iff, List.isEmpty_iff] at quiet
  have holds := conserves.holds
  rw [quiet.1, quiet.2] at holds
  cases holds with
  | idle same => exact same

end Advance

namespace Sample

def videoOf (id : String) : VideoId := ⟨.youtube, id⟩

/-- A looping room with a current video and two queued ones. -/
def looping : StageTasks :=
  { shared := { source := some (videoOf "a"), queue := [videoOf "b", videoOf "c"], queueMode := .loop } }

/-- One skip from its request to its end. -/
def skipThrough : List StageLabel :=
  [.call .skip {}, .resume 0 {}, .serve {}, .resume 0 {}, .serve {}, .resume 0 {}]

/-- Two skips that overlap from step to step. -/
def skipTwice : List StageLabel :=
  [.call .skip {}, .call .skip {}, .resume 0 {}, .resume 0 {}, .serve {}, .serve {}, .resume 0 {},
    .resume 0 {}, .serve {}, .serve {}, .resume 0 {}, .resume 0 {}]

end Sample

/-- The first queued video is lost and the current one is queued twice. -/
theorem overlapping_skips_lose_video :
    loopSystem.Initial Sample.looping ∧
    loopSystem.Steps Sample.looping
      (TransitionSystem.run Stage.program.next Sample.skipTwice Sample.looping) ∧
    (TransitionSystem.run Stage.program.next Sample.skipTwice Sample.looping).quiet = true ∧
    ¬ (TransitionSystem.run Stage.program.next Sample.skipTwice
      Sample.looping).shared.videos.Perm Sample.looping.shared.videos := by
  have run : loopSystem.Steps Sample.looping
      (TransitionSystem.run Stage.program.next Sample.skipTwice Sample.looping) :=
    Stage.program.steps_run (fun stage => stage.queueMode = .loop)
      (fun _ label => StageLabel.advances label = true) Sample.skipTwice Sample.looping
      (by decide +kernel)
  have quiet : (TransitionSystem.run Stage.program.next Sample.skipTwice
      Sample.looping).quiet = true := by decide +kernel
  have videos : (TransitionSystem.run Stage.program.next Sample.skipTwice
      Sample.looping).shared.videos =
        [Sample.videoOf "c", Sample.videoOf "a", Sample.videoOf "a"] := by decide +kernel
  refine ⟨⟨_, rfl, rfl⟩, run, quiet, ?_⟩
  rw [videos]
  decide +kernel

/-- Two skips one after the other keep the three videos. -/
theorem loop_conserves_videos_skipped :
    (TransitionSystem.run Stage.program.next (Sample.skipThrough ++ Sample.skipThrough)
      Sample.looping).shared.videos.Perm Sample.looping.shared.videos := by
  have run : (loopSystem.restrict fun tasks label => tasks.advancesAlone label = true).Steps
      Sample.looping (TransitionSystem.run Stage.program.next
        (Sample.skipThrough ++ Sample.skipThrough) Sample.looping) := by
    have taken : TransitionSystem.runs Stage.program.next (fun tasks label =>
        Program.Enabled tasks label ∧ StageLabel.advances label = true ∧
          StageTasks.advancesAlone tasks label = true)
        (Sample.skipThrough ++ Sample.skipThrough) Sample.looping = true := by
      decide +kernel
    refine TransitionSystem.steps_run ?_ _ _ taken
    rintro tasks label ⟨possible, advances, alone⟩
    exact ⟨alone, advances, possible, rfl⟩
  exact loop_conserves_videos ⟨_, rfl, rfl⟩ run (by decide +kernel)

end OpenTogetherTube
