import OpenTogetherTube.Lib.Tickets
import OpenTogetherTube.Room.Skips
import OpenTogetherTube.Room.VideoQueue

/-!
# Undo between its awaits

`undo` looks its event up, awaits the operation it comes down to and then forgets the event.
Here it is cut at these awaits and at the lock of the queue, among pieces of other handlers
that do what they like to the playlist and announce what they like. While no undo looks up an
event that another undo is at work on, each event is applied at most once.
-/

namespace OpenTogetherTube

open Lib Lib.Handler

/-- What undo reads and writes. -/
structure Recall where
  playlist : Playlist := ⟨none, []⟩
  playbackPosition : Number := 0
  recentEvents : List RoomEvent := []
  nextSerial : Nat := 0
  /-- History: the events whose operation undo has carried out, newest first. -/
  applied : List Nat := []
deriving DecidableEq

/-- What comes from outside. -/
structure RecallAnswer where
  /-- The grants of the role of the client that asks. -/
  granted : Permission → Bool := fun _ => true
  /-- `getUserInfo` of that client. -/
  user : Option RoomUserInfo := none
  /-- `realPlaybackPosition`. -/
  position : Number := 0
  /-- Where the end of a temporary speed leaves the position, if there is one. -/
  flushed : Option Number := none

/-- An undo request, or a piece of another handler with what it leaves and announces. -/
inductive RecallCall where
  | undo (echo : UndoEvent)
  | other (playlist : Playlist) (playbackPosition : Number)
      (announced : List (RoomRequest × RoomUserInfo × RoomEventContext))

/-- Where `undo` waits for something other than the lock. -/
inductive RecallPoint where
  /-- The undo of a skip, once the current item is queued again. -/
  | undoing (event : RoomEvent)
  /-- `removeFromQueue`, with the item taken out of the queue. -/
  | evicted (event : RoomEvent) (video : VideoId) (index : Nat) (removed : QueueItem)
  /-- The operation is done. -/
  | finishing (event : RoomEvent)
deriving DecidableEq

/-- A section under the queue's lock. -/
inductive RecallSection where
  | pushTop (current : QueueItem) (event : RoomEvent)
  | evict (video : VideoId) (event : RoomEvent)
  | insert (video : QueueItem) (index : Nat) (event : RoomEvent)
deriving DecidableEq

namespace Recall

/-- Where a task goes on from. -/
abbrev Result := Recall × Rest RecallPoint RecallSection

def publishRoomEvent (request : RoomRequest) (user : Option RoomUserInfo)
    (additional : RoomEventContext) (memory : Recall) : Recall :=
  match user with
  | none => memory
  | some user =>
      let events := memory.recentEvents ++ [⟨memory.nextSerial, request, user, additional⟩]
      { memory with
        recentEvents := if events.length > RECENT_EVENTS_LIMIT then events.tail else events
        nextSerial := memory.nextSerial + 1 }

def findRecentEvent (echo : UndoEvent) (memory : Recall) : Option RoomEvent :=
  memory.recentEvents.find? fun candidate => decide (candidate.fields = echo)

/-- The operation of the event has been carried out. -/
def note (event : RoomEvent) (memory : Recall) : Recall :=
  { memory with applied := event.serial :: memory.applied }

/-- The end of `undo`: the event is forgotten. -/
def finish (event : RoomEvent) (memory : Recall) : Result :=
  ({ memory with
    recentEvents := memory.recentEvents.filter fun other =>
      decide (other.serial ≠ event.serial) }, .done)

/-- `undo` of a seek. -/
def undoSeek (event : RoomEvent) (answer : RecallAnswer) (memory : Recall) : Result :=
  match event.additional.prevPosition with
  | none => memory.finish event
  | some target =>
      if !answer.granted .seek then (memory, .done)
      else if !target.isFinite || target.lt 0 || Number.lt (.fin MAX_SEEK_SECONDS) target then
        (memory, .done)
      else
        ((({ memory with playbackPosition := target }.note event).publishRoomEvent
          (.seek (some target)) answer.user { prevPosition := some answer.position }),
          .point (.finishing event))

/-- The last part of the undo of a skip. -/
def resumeSkipped (event : RoomEvent) (memory : Recall) : Result :=
  match event.additional.video, event.additional.prevPosition with
  | some video, some position =>
      ({ memory with
        playlist := { memory.playlist with source := some video }
        playbackPosition := position }.note event).finish event
  | _, _ => memory.finish event

/-- `undo` of a skip. -/
def undoSkip (event : RoomEvent) (answer : RecallAnswer) (memory : Recall) : Result :=
  if !Room.undoSkipPermissions.all answer.granted then (memory, .done)
  else
    match memory.playlist.source with
    | some current =>
        if memory.playlist.Queued current.toVideoId then memory.resumeSkipped event
        else (memory, .locked (.pushTop current event))
    | none => memory.resumeSkipped event

/-- `undo` of an add. -/
def undoAdd (event : RoomEvent) (answer : RecallAnswer) (memory : Recall) : Result :=
  if !answer.granted .queueRemove then (memory, .done)
  else
    match event.request.video, memory.playlist.queue with
    | some video, _ :: _ =>
        if memory.playlist.Queued video.toVideoId then
          (memory, .locked (.evict video.toVideoId event))
        else (memory, .done)
    | _, _ =>
        if !answer.granted .skip then (memory, .done)
        else
          ({ memory with
            playlist := { memory.playlist with source := none }
            playbackPosition := answer.flushed.getD memory.playbackPosition }.note event).finish event

/-- `undo` of a remove. -/
def undoRemove (event : RoomEvent) (answer : RecallAnswer) (memory : Recall) : Result :=
  if !(answer.granted .queueAdd && answer.granted .queueOrder) then (memory, .done)
  else
    match event.additional.video, event.additional.queueIdx with
    | some video, some index =>
        match index.asIndex with
        | none => (memory, .done)
        | some index =>
            if index > memory.playlist.queue.length then (memory, .done)
            else (memory, .locked (.insert video index event))
    | _, _ => memory.finish event

/-- The first piece of `undo`. -/
def undo (echo : UndoEvent) (answer : RecallAnswer) (memory : Recall) : Result :=
  if !Room.validUndoEvent echo then (memory, .done)
  else
    match memory.findRecentEvent echo with
    | none => (memory, .done)
    | some event =>
        match event.request.type with
        | .seek => memory.undoSeek event answer
        | .skip => memory.undoSkip event answer
        | .add => memory.undoAdd event answer
        | .remove => memory.undoRemove event answer
        | _ => memory.finish event

/-- The first piece of `undo`, or a piece of another handler. -/
def call (call : RecallCall) (answer : RecallAnswer) (memory : Recall) : Result :=
  match call with
  | .undo echo => memory.undo echo answer
  | .other playlist playbackPosition announced =>
      (announced.foldl (fun memory entry =>
        memory.publishRoomEvent entry.1 (some entry.2.1) entry.2.2)
        { memory with playlist, playbackPosition }, .done)

/-- What `undo` does from a point on. -/
def resume (point : RecallPoint) (answer : RecallAnswer) (memory : Recall) : Result :=
  match point with
  | .undoing event => memory.resumeSkipped event
  | .evicted event video index removed =>
      (memory.publishRoomEvent (.remove video) answer.user
        { video := some removed, queueIdx := some (.fin index) }, .point (.finishing event))
  | .finishing event => memory.finish event

/-- What a section does under the lock. -/
def serve (guarded : RecallSection) (_ : RecallAnswer) (memory : Recall) : Result :=
  match guarded with
  | .pushTop current event =>
      if memory.playlist.queue.length + 1 > MAX_QUEUE_ITEMS then (memory, .done)
      else
        ({ memory with playlist := { memory.playlist with queue := current :: memory.playlist.queue } },
          .point (.undoing event))
  | .evict video event =>
      match memory.playlist.queue.findIdx? fun item => decide (item.toVideoId = video) with
      | none => (memory, .done)
      | some index =>
          match memory.playlist.queue[index]? with
          | none => (memory, .done)
          | some removed =>
              ({ memory with
                playlist := { memory.playlist with queue := memory.playlist.queue.eraseIdx index } }.note
                  event, .point (.evicted event video index removed))
  | .insert video index event =>
      if memory.playlist.queue.length + 1 > MAX_QUEUE_ITEMS then (memory, .done)
      else
        ({ memory with
          playlist := { memory.playlist with
            queue := memory.playlist.queue.take index ++ video :: memory.playlist.queue.drop index }
          }.note event, .point (.finishing event))

/-- The handlers as tasks. -/
def program : Program Recall RecallCall RecallAnswer RecallPoint RecallSection where
  call := call
  resume := resume
  serve := serve

end Recall

/-- The event a task is about, and whether its operation has been carried out. -/
def RecallPoint.ticket : RecallPoint → Nat × Bool
  | .undoing event => (event.serial, false)
  | .evicted event _ _ _ | .finishing event => (event.serial, true)

/-- A section carries its operation out only once it has the lock. -/
def RecallSection.ticket : RecallSection → Nat × Bool
  | .pushTop _ event | .evict _ event | .insert _ _ event => (event.serial, false)

namespace Recall

/-- The events that undo can find, those it has undone and those it is at work on. -/
def tickets (held : List (Nat × Bool)) (memory : Recall) : Tickets Nat :=
  ⟨memory.recentEvents.map RoomEvent.serial, memory.applied, held⟩

/-- No event has been undone twice. -/
def Single (held : List (Nat × Bool)) (memory : Recall) : Prop :=
  Tickets.Single (· < memory.nextSerial) (memory.tickets held)

/-- What the task that comes to rest holds. -/
def restTickets : Rest RecallPoint RecallSection → List (Nat × Bool)
  | .done => []
  | .point point => [point.ticket]
  | .locked guarded => [guarded.ticket]

/-- The same with the task that comes to rest. -/
def ResultSingle (held : List (Nat × Bool)) (result : Result) : Prop :=
  result.1.Single (restTickets result.2 ++ held)

section Pieces

variable {held : List (Nat × Bool)} {event : RoomEvent} {memory : Recall}

theorem Single.publishRoomEvent (single : memory.Single held) (request : RoomRequest)
    (user : Option RoomUserInfo) (additional : RoomEventContext) :
    (memory.publishRoomEvent request user additional).Single held := by
  unfold Recall.publishRoomEvent
  split
  · exact single
  · rename_i user
    have issued : Tickets.Single (· < memory.nextSerial + 1)
        ⟨memory.recentEvents.map RoomEvent.serial ++ [memory.nextSerial], memory.applied, held⟩ :=
      Tickets.Single.issue single (fun _ => Nat.lt_succ_of_lt) (Nat.lt_irrefl _) (Nat.lt_succ_self _)
    refine issued.expire fun serial there => ?_
    obtain ⟨other, member, rfl⟩ := List.mem_map.mp there
    have among : other ∈ memory.recentEvents ++ [⟨memory.nextSerial, request, user, additional⟩] := by
      dsimp only at member
      split at member
      · exact List.mem_of_mem_tail member
      · exact member
    have named := List.mem_map_of_mem (f := RoomEvent.serial) among
    rwa [List.map_append] at named

/-- Whatever another handler announces. -/
theorem Single.announce (announced : List (RoomRequest × RoomUserInfo × RoomEventContext))
    (single : memory.Single held) :
    (announced.foldl (fun memory entry =>
      memory.publishRoomEvent entry.1 (some entry.2.1) entry.2.2) memory).Single held := by
  induction announced generalizing memory with
  | nil => exact single
  | cons entry rest ih =>
      exact ih (single.publishRoomEvent _ _ _)

theorem Single.note (single : memory.Single ((event.serial, false) :: held)) :
    (memory.note event).Single ((event.serial, true) :: held) :=
  Tickets.Single.use single

theorem Single.finish {status : Bool} (single : memory.Single ((event.serial, status) :: held)) :
    ResultSingle held (memory.finish event) := by
  refine Tickets.Single.withdraw single fun serial there => ?_
  obtain ⟨other, member, rfl⟩ := List.mem_map.mp there
  obtain ⟨member, differs⟩ := List.mem_filter.mp member
  exact ⟨List.mem_map_of_mem member, of_decide_eq_true differs⟩

/-- A task that throws leaves its event as it was. -/
theorem Single.quit (single : memory.Single ((event.serial, false) :: held)) :
    ResultSingle held (memory, .done) :=
  Tickets.Single.giveBack single

theorem Single.resumeSkipped (single : memory.Single ((event.serial, false) :: held)) :
    ResultSingle held (memory.resumeSkipped event) := by
  unfold Recall.resumeSkipped
  split
  · refine Single.finish (Single.note ?_)
    exact single
  · exact single.finish

variable (answer : RecallAnswer)

theorem Single.undoSeek (single : memory.Single ((event.serial, false) :: held)) :
    ResultSingle held (memory.undoSeek event answer) := by
  unfold Recall.undoSeek
  split
  · exact single.finish
  · split
    · exact single.quit
    · split
      · exact single.quit
      · refine Single.publishRoomEvent (Single.note ?_) _ _ _
        exact single

theorem Single.undoSkip (single : memory.Single ((event.serial, false) :: held)) :
    ResultSingle held (memory.undoSkip event answer) := by
  unfold Recall.undoSkip
  split
  · exact single.quit
  · split
    · split
      · exact single.resumeSkipped
      · exact single
    · exact single.resumeSkipped

theorem Single.undoAdd (single : memory.Single ((event.serial, false) :: held)) :
    ResultSingle held (memory.undoAdd event answer) := by
  unfold Recall.undoAdd
  split
  · exact single.quit
  · split
    · split
      · exact single
      · exact single.quit
    · split
      · exact single.quit
      · refine Single.finish (Single.note ?_)
        exact single

theorem Single.undoRemove (single : memory.Single ((event.serial, false) :: held)) :
    ResultSingle held (memory.undoRemove event answer) := by
  unfold Recall.undoRemove
  split
  · exact single.quit
  · split
    · split
      · exact single.quit
      · split
        · exact single.quit
        · exact single
    · exact single.finish

theorem Single.undo (single : memory.Single held) (echo : UndoEvent)
    (free : ∀ event, memory.findRecentEvent echo = some event → event.serial ∉ held.map Prod.fst) :
    ResultSingle held (memory.undo echo answer) := by
  unfold Recall.undo
  split
  · exact single
  · split
    · exact single
    · rename_i event found
      have member : event ∈ memory.recentEvents := List.mem_of_find?_eq_some found
      have picked : memory.Single ((event.serial, false) :: held) :=
        Tickets.Single.pick single (List.mem_map_of_mem member) (free event found)
      split
      · exact picked.undoSeek answer
      · exact picked.undoSkip answer
      · exact picked.undoAdd answer
      · exact picked.undoRemove answer
      · exact picked.finish

theorem Single.resume {point : RecallPoint} (single : memory.Single (point.ticket :: held)) :
    ResultSingle held (memory.resume point answer) := by
  cases point with
  | undoing event => exact Single.resumeSkipped single
  | evicted event video index removed => exact Single.publishRoomEvent single _ _ _
  | finishing event => exact Single.finish single

theorem Single.serve {guarded : RecallSection} (single : memory.Single (guarded.ticket :: held)) :
    ResultSingle held (memory.serve guarded answer) := by
  cases guarded with
  | pushTop current event =>
      unfold Recall.serve
      dsimp only
      split
      · exact Single.quit single
      · exact single
  | evict video event =>
      unfold Recall.serve
      dsimp only
      split
      · exact Single.quit single
      · split
        · exact Single.quit single
        · refine Single.note ?_
          exact single
  | insert video index event =>
      unfold Recall.serve
      dsimp only
      split
      · exact Single.quit single
      · refine Single.note ?_
        exact single

end Pieces

end Recall

/-- The undos of a room, at their points and in line for the lock. -/
abbrev RecallTasks := Tasks Recall RecallPoint RecallSection

abbrev RecallLabel := TaskLabel RecallCall RecallAnswer

namespace RecallTasks

/-- The events that undos are at work on. -/
def held (tasks : RecallTasks) : List (Nat × Bool) :=
  tasks.ready.map RecallPoint.ticket ++ tasks.waiting.map RecallSection.ticket

/-- An undo begins only with an event that no other undo is at work on. -/
def alone (tasks : RecallTasks) : RecallLabel → Bool
  | .call (.undo echo) _ => (tasks.shared.findRecentEvent echo).all fun event =>
      decide (event.serial ∉ tasks.held.map Prod.fst)
  | _ => true

/-- No event has been undone twice. -/
def Single (tasks : RecallTasks) : Prop := tasks.shared.Single tasks.held

variable {tasks : RecallTasks}

theorem held_park (result : Recall.Result) (tasks : RecallTasks) :
    (RecallTasks.held (tasks.park result)).Perm (Recall.restTickets result.2 ++ tasks.held) := by
  obtain ⟨shared, rest⟩ := result
  unfold held Tasks.park
  cases rest with
  | done => exact List.Perm.refl _
  | point point =>
      dsimp only [Recall.restTickets]
      rw [List.map_append, List.append_assoc]
      exact List.perm_middle
  | locked guarded =>
      dsimp only [Recall.restTickets]
      rw [List.map_append, ← List.append_assoc]
      exact List.perm_append_singleton _ _

/-- What one piece leaves, among the others. -/
theorem Single.park {result : Recall.Result} (single : Recall.ResultSingle tasks.held result) :
    RecallTasks.Single (tasks.park result) := by
  unfold RecallTasks.Single
  rw [Tasks.park_shared]
  exact Tickets.Single.perm single (held_park result tasks)

/-- A step in which no undo begins with an event that is being undone. -/
theorem Single.step (single : tasks.Single) {label : RecallLabel}
    (possible : Program.Enabled tasks label) (free : tasks.alone label = true) :
    RecallTasks.Single (Recall.program.next label tasks) := by
  rcases Recall.program.next_cases possible with
    ⟨call, answer, rfl, same⟩ | ⟨earlier, point, later, answer, rfl, split, same⟩ |
      ⟨guarded, rest, answer, rfl, split, same⟩
  · rw [same]
    refine Single.park ?_
    cases call with
    | undo echo =>
        refine Recall.Single.undo answer single echo fun event found => ?_
        unfold alone at free
        dsimp only at free
        rw [found] at free
        exact of_decide_eq_true free
    | other playlist playbackPosition announced =>
        have start : Recall.Single tasks.held { tasks.shared with playlist, playbackPosition } :=
          single
        exact start.announce announced
  · rw [same]
    have first : tasks.shared.Single (point.ticket ::
        RecallTasks.held { tasks with ready := earlier ++ later }) := by
      refine Tickets.Single.perm single ?_
      unfold held
      rw [split, List.map_append, List.map_append, List.map_cons, List.append_assoc,
        List.append_assoc, List.cons_append]
      exact List.perm_middle.symm
    exact Single.park (Recall.Single.resume answer first)
  · rw [same]
    have first : tasks.shared.Single (guarded.ticket ::
        RecallTasks.held { tasks with waiting := rest }) := by
      refine Tickets.Single.perm single ?_
      unfold held
      rw [split, List.map_cons]
      exact List.perm_middle.symm
    exact Single.park (Recall.Single.serve answer first)

end RecallTasks

namespace Recall

/-- Undo has not been asked for yet, and the events on record are older than any to come. -/
def Begins (memory : Recall) : Prop :=
  memory.applied = [] ∧ ∀ event ∈ memory.recentEvents, event.serial < memory.nextSerial

/-- The undos of a room in every interleaving with each other and with anything else. -/
abbrev system : TransitionSystem RecallTasks RecallLabel := program.system Begins

/-- In every run in which no undo begins with an event that another undo is at work on, each
event is undone at most once. -/
theorem undone_at_most_once {tasks : RecallTasks}
    (reachable : (system.restrict fun tasks label => tasks.alone label = true).Reachable tasks) :
    tasks.shared.applied.Nodup := by
  have invariant : (system.restrict fun tasks label => tasks.alone label = true).Inductive
      RecallTasks.Single := by
    refine ⟨?_, ?_⟩
    · rintro _ ⟨memory, ⟨none, old⟩, rfl⟩
      change Tickets.Single _ ⟨memory.recentEvents.map RoomEvent.serial, memory.applied, []⟩
      rw [none]
      refine .start fun serial there => ?_
      obtain ⟨event, member, rfl⟩ := List.mem_map.mp there
      exact old event member
    · rintro before label after single ⟨free, possible, rfl⟩
      exact single.step possible free
  exact (invariant.of_reachable reachable).once

end Recall

namespace Sample

/-- A seek is announced. -/
def seekAnnounced : RecallLabel :=
  .call (.other ⟨none, []⟩ 30 [(.seek (some 30), ⟨"ann", "ann", false, .none, .unregisteredUser⟩,
    { prevPosition := some 5 })]) {}

/-- A viewer clicks on its undo button. -/
def undoesSeek : RecallLabel :=
  .call (.undo { type := .seek, prevPosition := some 5 }) {}

/-- What these steps leave. -/
def recalled (labels : List RecallLabel) : RecallTasks :=
  TransitionSystem.run Recall.program.next labels { shared := {} }

end Sample

namespace Recall

/-- A new room has announced nothing yet. -/
theorem begins_new : Begins {} :=
  ⟨rfl, fun _ member => absurd member List.not_mem_nil⟩

/-- Two viewers who click at the same time both undo the seek. -/
theorem undone_twice : system.Reachable
      (Sample.recalled [Sample.seekAnnounced, Sample.undoesSeek, Sample.undoesSeek]) ∧
    ¬ (Sample.recalled [Sample.seekAnnounced, Sample.undoesSeek,
      Sample.undoesSeek]).shared.applied.Nodup := by
  have possible : TransitionSystem.runs program.next
      (fun tasks label => Program.Enabled tasks label ∧ True)
      [Sample.seekAnnounced, Sample.undoesSeek, Sample.undoesSeek] { shared := {} } = true := by
    decide +kernel
  refine ⟨⟨{ shared := {} }, ⟨{}, begins_new, rfl⟩, ?_⟩, by decide +kernel⟩
  exact (program.steps_run Begins (fun _ _ => True) _ _ possible).of_restrict

/-- One after the other only the first does. -/
theorem undone_at_most_once_in_turn : (Sample.recalled [Sample.seekAnnounced, Sample.undoesSeek,
      .resume 0 {}, Sample.undoesSeek]).shared.applied = [0] ∧
    (Sample.recalled [Sample.seekAnnounced, Sample.undoesSeek, .resume 0 {},
      Sample.undoesSeek]).shared.applied.Nodup := by
  have possible : TransitionSystem.runs program.next
      (fun tasks label => Program.Enabled tasks label ∧ RecallTasks.alone tasks label = true)
      [Sample.seekAnnounced, Sample.undoesSeek, .resume 0 {}, Sample.undoesSeek]
      { shared := {} } = true := by
    decide +kernel
  exact ⟨by decide +kernel, undone_at_most_once ⟨{ shared := {} }, ⟨{}, begins_new, rfl⟩,
    program.steps_run Begins (fun tasks label => RecallTasks.alone tasks label = true) _ _ possible⟩⟩

end Recall

end OpenTogetherTube
