import OpenTogetherTube.Lib.Tasks
import OpenTogetherTube.Manager.RoomManager

/-!
# What a room writes after it is gone

A `Room` object owns five kinds of delayed work: the debounced `throttledSync` and
`saveStateToRedisDebounced`, the timers of a prepared start and of a temporary speed, and the
leave events that wait for their grace period. `onBeforeUnload` cancels them, a commanded
unload does not call it, and whoever got the object before it was spliced out of `rooms`
still holds it. An `Outlet` is the object as far as these things and its writes go, with its
functions cut at their awaits; what a request or a tick does in between is arbitrary.
-/

namespace OpenTogetherTube

open Lib

/-- A way in which a room makes itself felt under its name. -/
inductive RoomWrite where
  /-- `redisClient.set` of `room:name`. -/
  | snapshot
  /-- `storage.updateRoom`. -/
  | row
  /-- `publish`. -/
  | message
deriving DecidableEq

/-- The delayed work of a room. -/
inductive RoomTimer where
  | throttledSync
  | saveStateToRedis
  | playbackStart
  | temporarySpeed
  | leaveEvent (token : AuthToken)
deriving DecidableEq

/-- What a request handler or a tick does between two awaits. -/
inductive RoomEffect where
  | markDirty (property : SyncProp)
  | publish
  | updateRoom
  | flushSave
  | setTimer (timer : RoomTimer)
  | clearTimer (timer : RoomTimer)
deriving DecidableEq

/-- A `Room` object, its delayed work and its writes. -/
structure Outlet where
  isTemporary : Bool := false
  /-- The object is in `rooms`. -/
  loaded : Bool := true
  dirty : OrderedSet SyncProp := []
  /-- The timers that are set. -/
  timers : List RoomTimer := []
  /-- History: the writes before the object was spliced out, and those after. -/
  writes : List RoomWrite := []
  lateWrites : List RoomWrite := []
deriving DecidableEq

/-- Who awaits a `sync`. -/
inductive SyncCaller where
  | timer
  | handler
  | unload (preserveRedis : Bool)
deriving DecidableEq

/-- Who comes to a room: a request, a sweep of `update`, a timer or an unload. -/
inductive OutletCall where
  | request
  | sweep
  | fire (timer : RoomTimer)
  | unloadRoom (reason : UnloadReason) (preserveRedis : Bool)
deriving DecidableEq

/-- The awaits. -/
inductive OutletPoint where
  /-- A request handler or a tick. -/
  | handling
  /-- `syncDirty`, at the debounced save. -/
  | publishing (dirty : OrderedSet SyncProp) (caller : SyncCaller)
  /-- `syncDirty`, at `updateRoom`. -/
  | storing (dirty : OrderedSet SyncProp) (caller : SyncCaller)
  /-- `onBeforeUnload`, at the flushed save. -/
  | stopping (preserveRedis : Bool)
  /-- `unloadRoom`, at `redisClient.del`. -/
  | deleting
deriving DecidableEq

/-- How a handler goes on. -/
inductive HandlerNext where
  | returns
  | awaits
  | syncs
deriving DecidableEq

/-- What the rest of the room and the world outside decide. -/
structure OutletAnswer where
  /-- What a handler does, and how it goes on. -/
  effects : List RoomEffect := []
  next : HandlerNext := .returns
  /-- What a timer's callback or the stop before an unload marks dirty. -/
  marks : List SyncProp := []
  /-- The viewer of a leave event has not come back. -/
  gone : Bool := true
  /-- `updateRoom` resolves true. -/
  persists : Bool := true
deriving DecidableEq

namespace Outlet

/-- Where a function goes on from. -/
abbrev Result := Outlet × Rest OutletPoint Empty

/-- The object writes. -/
def write (kind : RoomWrite) (outlet : Outlet) : Outlet :=
  if outlet.loaded then { outlet with writes := kind :: outlet.writes }
  else { outlet with lateWrites := kind :: outlet.lateWrites }

def setTimer (timer : RoomTimer) (outlet : Outlet) : Outlet :=
  { outlet with timers := timer :: outlet.timers.filter fun other => decide (other ≠ timer) }

def clearTimer (timer : RoomTimer) (outlet : Outlet) : Outlet :=
  { outlet with timers := outlet.timers.filter fun other => decide (other ≠ timer) }

def markDirty (property : SyncProp) (outlet : Outlet) : Outlet :=
  { outlet with dirty := outlet.dirty.add property }.setTimer .throttledSync

/-- `saveStateToRedisDebounced.flush()`. -/
def flushSave (outlet : Outlet) : Outlet :=
  if .saveStateToRedis ∈ outlet.timers then
    (outlet.clearTimer .saveStateToRedis).write .snapshot
  else outlet

def apply (effect : RoomEffect) (outlet : Outlet) : Outlet :=
  match effect with
  | .markDirty property => outlet.markDirty property
  | .publish => outlet.write .message
  | .updateRoom => outlet.write .row
  | .flushSave => outlet.flushSave
  | .setTimer timer => outlet.setTimer timer
  | .clearTimer timer => outlet.clearTimer timer

/-- What follows a `sync` that resolves. -/
def synced (caller : SyncCaller) (outlet : Outlet) : Result :=
  match caller with
  | .timer => (outlet, .done)
  | .handler => (outlet, .point .handling)
  | .unload preserveRedis => (outlet.flushSave, .point (.stopping preserveRedis))

/-- `sync` up to its first await. -/
def sync (caller : SyncCaller) (outlet : Outlet) : Result :=
  if outlet.dirty.isEmpty then outlet.synced caller
  else
    let cleaned := { outlet with dirty := [] }
    (if outlet.dirty.any Room.isStorable then cleaned.setTimer .saveStateToRedis else cleaned,
      .point (.publishing outlet.dirty caller))

/-- `onBeforeUnload` up to its `sync`. -/
def stop (marks : List SyncProp) (outlet : Outlet) : Outlet :=
  let kept := outlet.timers.filter fun timer =>
    decide (timer = .throttledSync ∨ timer = .saveStateToRedis)
  let outlet := { outlet with timers := kept }
  let outlet := marks.foldl (fun outlet property => outlet.markDirty property) outlet
  let outlet := if outlet.isTemporary then outlet else outlet.markDirty .currentSource
  outlet.clearTimer .throttledSync

/-- The object leaves `rooms`, if it is there. -/
def splice (preserveRedis : Bool) (outlet : Outlet) : Result :=
  if outlet.loaded then
    ({ outlet with loaded := false }, if preserveRedis then .done else .point .deleting)
  else (outlet, .done)

/-- A timer's callback. -/
def callback (timer : RoomTimer) (answer : OutletAnswer) (outlet : Outlet) : Result :=
  match timer with
  | .throttledSync => outlet.sync .timer
  | .saveStateToRedis => (outlet.write .snapshot, .done)
  | .playbackStart | .temporarySpeed =>
      (answer.marks.foldl (fun outlet property => outlet.markDirty property) outlet, .done)
  | .leaveEvent _ => (if answer.gone then outlet.write .message else outlet, .done)

/-- The first piece of each call. An object that is not in `rooms` is found by no one. -/
def call (call : OutletCall) (answer : OutletAnswer) (outlet : Outlet) : Result :=
  match call with
  | .request | .sweep => if outlet.loaded then (outlet, .point .handling) else (outlet, .done)
  | .fire timer =>
      if timer ∈ outlet.timers then (outlet.clearTimer timer).callback timer answer
      else (outlet, .done)
  | .unloadRoom reason preserveRedis =>
      if !outlet.loaded then (outlet, .done)
      else if reason = .commanded then outlet.splice preserveRedis
      else (outlet.stop answer.marks).sync (.unload preserveRedis)

/-- What a function does from an await on. -/
def resume (point : OutletPoint) (answer : OutletAnswer) (outlet : Outlet) : Result :=
  match point with
  | .handling =>
      let outlet := answer.effects.foldl (fun outlet effect => outlet.apply effect) outlet
      match answer.next with
      | .returns => (outlet, .done)
      | .awaits => (outlet, .point .handling)
      | .syncs => outlet.sync .handler
  | .publishing dirty caller =>
      let outlet := outlet.write .message
      if !outlet.isTemporary && dirty.any Room.isPersisted then
        (outlet.write .row, .point (.storing dirty caller))
      else outlet.synced caller
  | .storing dirty caller =>
      if answer.persists then outlet.synced caller
      else ({ outlet with dirty := outlet.dirty.addAll dirty }, .done)
  | .stopping preserveRedis => outlet.splice preserveRedis
  | .deleting => (outlet, .done)

/-- The functions of a room and of its manager as tasks. -/
def program : Program Outlet OutletCall OutletAnswer OutletPoint Empty where
  call := call
  resume := resume
  serve guarded _ _ := guarded.elim

section Settled

/-- A timer that is set and will write. -/
def armed (outlet : Outlet) : Bool :=
  outlet.timers.any fun timer => decide (timer ≠ .throttledSync) || !outlet.dirty.isEmpty

/-- A function at an await that may write when it goes on. A checkpoint that fails leaves its
properties dirty for the next one. -/
def live (outlet : Outlet) : OutletPoint → Bool
  | .handling | .publishing _ _ => true
  | .storing dirty caller =>
      decide (caller = .handler) ||
        (decide (.throttledSync ∈ outlet.timers) && !dirty.isEmpty)
  | .stopping _ | .deleting => false

/-- Nothing is left to do. -/
def settled (outlet : Outlet) (ready : List OutletPoint) : Bool :=
  !outlet.armed && !ready.any outlet.live

/-- The object is spliced out of `rooms` only where nothing is left to do. -/
def settledAtSplice (tasks : Tasks Outlet OutletPoint Empty) :
    TaskLabel OutletCall OutletAnswer → Bool
  | .call (.unloadRoom .commanded _) _ =>
      !tasks.shared.loaded || tasks.shared.settled tasks.ready
  | .resume index _ =>
      match tasks.ready[index]? with
      | some (.stopping _) => !tasks.shared.loaded || tasks.shared.settled tasks.ready
      | _ => true
  | _ => true

variable {outlet : Outlet} {ready : List OutletPoint}

theorem armed_iff : outlet.armed = false ↔
    ∀ timer ∈ outlet.timers, timer = .throttledSync ∧ outlet.dirty = [] := by
  unfold armed
  rw [List.any_eq_false]
  constructor
  · intro none timer member
    have idle := none timer member
    rw [Bool.or_eq_true, not_or, decide_eq_true_eq, not_not, Bool.not_eq_true',
      Bool.not_eq_false, List.isEmpty_iff] at idle
    exact idle
  · intro idle timer member
    rw [(idle timer member).1, (idle timer member).2]
    exact Bool.false_ne_true

theorem settled_iff : outlet.settled ready = true ↔
    outlet.armed = false ∧ ∀ point ∈ ready, outlet.live point = false := by
  unfold settled
  rw [Bool.and_eq_true, Bool.not_eq_true', Bool.not_eq_true', List.any_eq_false]
  simp only [Bool.not_eq_true]

end Settled

/-- A piece that leaves the object where it is and writes, if at all, while it is loaded. -/
structure Stays (before after : Outlet) : Prop where
  loaded : after.loaded = before.loaded
  late : before.loaded = true → after.lateWrites = before.lateWrites

namespace Stays

variable {first second third : Outlet}

theorem refl (outlet : Outlet) : Stays outlet outlet := ⟨rfl, fun _ => rfl⟩

theorem trans (one : Stays first second) (two : Stays second third) : Stays first third := by
  refine ⟨two.loaded.trans one.loaded, ?_⟩
  intro there
  exact (two.late (one.loaded.trans there)).trans (one.late there)

/-- A sequence of pieces. -/
theorem foldl {Item : Type} {piece : Outlet → Item → Outlet}
    (each : ∀ outlet item, Stays outlet (piece outlet item)) (items : List Item)
    (outlet : Outlet) : Stays outlet (items.foldl piece outlet) := by
  induction items generalizing outlet with
  | nil => exact refl outlet
  | cons item rest ih => exact (each outlet item).trans (ih _)

end Stays

section Pieces

variable (outlet : Outlet)

theorem write_stays (kind : RoomWrite) : Stays outlet (outlet.write kind) := by
  unfold write
  split
  · exact ⟨rfl, fun _ => rfl⟩
  · rename_i gone
    exact ⟨rfl, fun there => absurd there gone⟩

theorem markDirty_stays (property : SyncProp) : Stays outlet (outlet.markDirty property) :=
  ⟨rfl, fun _ => rfl⟩

theorem flushSave_stays : Stays outlet outlet.flushSave := by
  unfold flushSave
  split
  · have cleared : Stays outlet (outlet.clearTimer .saveStateToRedis) := ⟨rfl, fun _ => rfl⟩
    exact cleared.trans (write_stays _ _)
  · exact Stays.refl outlet

theorem apply_stays (effect : RoomEffect) : Stays outlet (outlet.apply effect) := by
  cases effect with
  | markDirty property => exact markDirty_stays outlet property
  | publish => exact write_stays outlet _
  | updateRoom => exact write_stays outlet _
  | flushSave => exact flushSave_stays outlet
  | setTimer timer => exact ⟨rfl, fun _ => rfl⟩
  | clearTimer timer => exact ⟨rfl, fun _ => rfl⟩

theorem synced_stays (caller : SyncCaller) : Stays outlet (outlet.synced caller).1 := by
  cases caller with
  | timer => exact Stays.refl outlet
  | handler => exact Stays.refl outlet
  | unload preserveRedis => exact flushSave_stays outlet

theorem sync_stays (caller : SyncCaller) : Stays outlet (outlet.sync caller).1 := by
  unfold sync
  split
  · exact synced_stays outlet caller
  · dsimp only
    split <;> exact ⟨rfl, fun _ => rfl⟩

theorem stop_stays (marks : List SyncProp) : Stays outlet (outlet.stop marks) := by
  unfold stop
  extract_lets kept filtered marked saved
  have first : Stays outlet filtered := ⟨rfl, fun _ => rfl⟩
  have second : Stays filtered marked := Stays.foldl (fun outlet => markDirty_stays outlet) marks _
  have third : Stays marked saved := by
    change Stays marked (if marked.isTemporary then marked else marked.markDirty .currentSource)
    split
    · exact Stays.refl marked
    · exact markDirty_stays marked _
  have last : Stays saved (saved.clearTimer .throttledSync) := ⟨rfl, fun _ => rfl⟩
  exact ((first.trans second).trans third).trans last

theorem callback_stays (timer : RoomTimer) (answer : OutletAnswer) :
    Stays outlet (outlet.callback timer answer).1 := by
  have marked := Stays.foldl (fun outlet => markDirty_stays outlet) answer.marks outlet
  cases timer with
  | throttledSync => exact sync_stays outlet _
  | saveStateToRedis => exact write_stays outlet _
  | playbackStart => exact marked
  | temporarySpeed => exact marked
  | leaveEvent token =>
      change Stays outlet (if answer.gone then outlet.write .message else outlet)
      split
      · exact write_stays outlet _
      · exact Stays.refl outlet

theorem call_stays (asked : OutletCall) (answer : OutletAnswer)
    (other : ∀ preserveRedis, asked ≠ .unloadRoom .commanded preserveRedis) :
    Stays outlet (Outlet.call asked answer outlet).1 := by
  cases asked with
  | request =>
      unfold Outlet.call
      dsimp only
      split <;> exact Stays.refl outlet
  | sweep =>
      unfold Outlet.call
      dsimp only
      split <;> exact Stays.refl outlet
  | fire timer =>
      unfold Outlet.call
      dsimp only
      split
      · have cleared : Stays outlet (outlet.clearTimer timer) := ⟨rfl, fun _ => rfl⟩
        exact cleared.trans (callback_stays _ timer answer)
      · exact Stays.refl outlet
  | unloadRoom reason preserveRedis =>
      unfold Outlet.call
      dsimp only
      split
      · exact Stays.refl outlet
      · rw [if_neg fun commanded => other preserveRedis (by rw [commanded])]
        exact (stop_stays outlet answer.marks).trans (sync_stays _ _)

/-- Every function but an unload that is done with its room leaves the object where it is. -/
theorem resume_stays (point : OutletPoint) (answer : OutletAnswer)
    (other : ∀ preserveRedis, point ≠ .stopping preserveRedis) :
    Stays outlet (outlet.resume point answer).1 := by
  cases point with
  | handling =>
      have acted : Stays outlet
          (answer.effects.foldl (fun outlet effect => outlet.apply effect) outlet) :=
        Stays.foldl (fun outlet => apply_stays outlet) answer.effects outlet
      unfold resume
      dsimp only
      split
      · exact acted
      · exact acted
      · exact acted.trans (sync_stays _ _)
  | publishing dirty caller =>
      have announced := write_stays outlet .message
      unfold resume
      dsimp only
      split
      · exact announced.trans (write_stays _ _)
      · exact announced.trans (synced_stays _ _)
  | storing dirty caller =>
      unfold resume
      dsimp only
      split
      · exact synced_stays outlet caller
      · exact ⟨rfl, fun _ => rfl⟩
  | stopping preserveRedis => exact absurd rfl (other preserveRedis)
  | deleting => exact Stays.refl outlet

end Pieces

section Gone

/-- The object is not in `rooms`, and nothing is left to do. -/
structure Gone (outlet : Outlet) (ready : List OutletPoint) : Prop where
  gone : outlet.loaded = false
  idle : ∀ timer ∈ outlet.timers, timer = .throttledSync ∧ outlet.dirty = []
  points : ∀ point ∈ ready, outlet.live point = false

/-- What an object that is gone does: nothing, to no end. -/
structure Rests (before : Outlet) (ready : List OutletPoint) (result : Result) : Prop where
  late : result.1.lateWrites = before.lateWrites
  gone : result.1.Gone ready
  point : ∀ point, result.2 = .point point → result.1.live point = false

variable {outlet : Outlet} {ready : List OutletPoint}

theorem Gone.same (gone : outlet.Gone ready) : Rests outlet ready (outlet, .done) :=
  ⟨rfl, gone, nofun⟩

theorem Gone.call (gone : outlet.Gone ready) (asked : OutletCall) (answer : OutletAnswer) :
    Rests outlet ready (Outlet.call asked answer outlet) := by
  unfold Outlet.call
  cases asked with
  | request =>
      dsimp only
      rw [gone.gone]
      exact gone.same
  | sweep =>
      dsimp only
      rw [gone.gone]
      exact gone.same
  | fire timer =>
      dsimp only
      split
      · rename_i set
        obtain ⟨rfl, clean⟩ := gone.idle timer set
        have cleared : (outlet.clearTimer .throttledSync).timers = [] := by
          unfold clearTimer
          refine List.filter_eq_nil_iff.mpr ?_
          intro other member
          rw [(gone.idle other member).1]
          exact Bool.false_ne_true
        have nothing : (outlet.clearTimer .throttledSync).callback .throttledSync answer =
            (outlet.clearTimer .throttledSync, .done) := by
          change (outlet.clearTimer .throttledSync).sync .timer = _
          unfold sync
          change (if outlet.dirty.isEmpty = true then _ else _) = _
          rw [clean]
          rfl
        rw [nothing]
        refine ⟨rfl, ⟨gone.gone, ?_, ?_⟩, nofun⟩
        · intro other member
          rw [cleared] at member
          cases member
        · intro point member
          have before := gone.points point member
          cases point with
          | storing dirty caller =>
              unfold live at before ⊢
              dsimp only at before ⊢
              rw [Bool.or_eq_false_iff] at before ⊢
              refine ⟨before.1, ?_⟩
              rw [cleared]
              exact Bool.false_and _
          | _ => exact before
      · exact gone.same
  | unloadRoom reason preserveRedis =>
      dsimp only
      rw [gone.gone]
      exact gone.same

theorem Gone.resume (gone : outlet.Gone ready) {point : OutletPoint}
    (dead : outlet.live point = false) (answer : OutletAnswer) :
    Rests outlet ready (outlet.resume point answer) := by
  cases point with
  | handling => cases dead
  | publishing dirty caller => cases dead
  | storing dirty caller =>
      unfold live at dead
      rw [Bool.or_eq_false_iff, decide_eq_false_iff_not] at dead
      have unsaved : outlet.flushSave = outlet := by
        unfold flushSave
        refine if_neg ?_
        intro set
        cases (gone.idle _ set).1
      unfold Outlet.resume
      dsimp only
      split
      · cases caller with
        | timer => exact gone.same
        | handler => exact absurd rfl dead.1
        | unload preserveRedis =>
            change Rests outlet ready (outlet.flushSave, .point (.stopping preserveRedis))
            rw [unsaved]
            refine ⟨rfl, gone, ?_⟩
            rintro _ ⟨⟩
            rfl
      · refine ⟨rfl, ⟨gone.gone, ?_, gone.points⟩, nofun⟩
        intro timer member
        obtain ⟨rfl, clean⟩ := gone.idle timer member
        refine ⟨rfl, ?_⟩
        rw [decide_eq_true member, Bool.true_and, Bool.not_eq_false', List.isEmpty_iff] at dead
        change outlet.dirty.addAll dirty = []
        rw [dead.2, clean]
        rfl
  | stopping preserveRedis =>
      change Rests outlet ready (outlet.splice preserveRedis)
      unfold splice
      rw [gone.gone]
      exact gone.same
  | deleting => exact gone.same

/-- A splice where nothing is left to do. -/
theorem splice_silent (there : outlet.loaded = true) (settled : outlet.settled ready = true)
    (preserveRedis : Bool) : Rests outlet ready (outlet.splice preserveRedis) := by
  obtain ⟨unarmed, dead⟩ := settled_iff.mp settled
  have gone : Gone { outlet with loaded := false } ready := ⟨rfl, armed_iff.mp unarmed, dead⟩
  unfold splice
  rw [if_pos there]
  refine ⟨rfl, gone, ?_⟩
  intro point rests
  cases preserveRedis with
  | false =>
      cases rests
      rfl
  | true => cases rests

end Gone

section Runs

/-- The invariant: no late write, and a loaded object or one with nothing left to do. -/
def Silent (tasks : Tasks Outlet OutletPoint Empty) : Prop :=
  tasks.shared.lateWrites = [] ∧
    (tasks.shared.loaded = true ∨ tasks.shared.Gone tasks.ready)

variable {tasks others : Tasks Outlet OutletPoint Empty} {result : Result}

theorem Silent.of_rests (rests : Rests tasks.shared others.ready result)
    (late : tasks.shared.lateWrites = []) : Silent (others.park result) := by
  refine ⟨?_, Or.inr ?_⟩
  · rw [Tasks.park_shared, rests.late, late]
  · refine ⟨?_, ?_, ?_⟩
    · rw [Tasks.park_shared]
      exact rests.gone.gone
    · rw [Tasks.park_shared]
      exact rests.gone.idle
    · intro point member
      rw [Tasks.park_shared]
      rcases (Tasks.mem_park_ready _ _).mp member with old | new
      · exact rests.gone.points point old
      · exact rests.point point new

theorem Silent.of_stays (stays : Stays tasks.shared result.1)
    (there : tasks.shared.loaded = true) (late : tasks.shared.lateWrites = []) :
    Silent (others.park result) := by
  refine ⟨?_, Or.inl ?_⟩
  · rw [Tasks.park_shared, stays.late there, late]
  · rw [Tasks.park_shared, stays.loaded, there]

theorem Silent.call (silent : Silent tasks) (asked : OutletCall) (answer : OutletAnswer)
    (settled : settledAtSplice tasks (.call asked answer) = true) :
    Silent (tasks.park (program.call asked answer tasks.shared)) := by
  obtain ⟨late, there | gone⟩ := silent
  · by_cases splices : ∃ preserveRedis, asked = .unloadRoom .commanded preserveRedis
    · obtain ⟨preserveRedis, rfl⟩ := splices
      have idle : tasks.shared.settled tasks.ready = true := by
        change (!tasks.shared.loaded || tasks.shared.settled tasks.ready) = true at settled
        rw [there] at settled
        exact settled
      have spliced : program.call (.unloadRoom .commanded preserveRedis) answer tasks.shared =
          tasks.shared.splice preserveRedis := by
        change Outlet.call (.unloadRoom .commanded preserveRedis) answer tasks.shared =
          tasks.shared.splice preserveRedis
        unfold Outlet.call
        dsimp only
        rw [there]
        rfl
      rw [spliced]
      exact Silent.of_rests (splice_silent there idle preserveRedis) late
    · refine Silent.of_stays (call_stays tasks.shared asked answer ?_) there late
      intro preserveRedis commanded
      exact splices ⟨preserveRedis, commanded⟩
  · exact Silent.of_rests (gone.call asked answer) late

theorem Silent.resume (silent : Silent tasks) {earlier later : List OutletPoint}
    {point : OutletPoint} (answer : OutletAnswer) (split : tasks.ready = earlier ++ point :: later)
    (settled : settledAtSplice tasks (.resume earlier.length answer) = true) :
    Silent ({ tasks with ready := earlier ++ later }.park
      (program.resume point answer tasks.shared)) := by
  have here : point ∈ tasks.ready := by
    rw [split]
    exact List.mem_append_right _ (List.mem_cons_self ..)
  have others : ∀ other ∈ earlier ++ later, other ∈ tasks.ready := by
    intro other member
    rw [split]
    exact List.mem_append.mpr ((List.mem_append.mp member).imp_right (List.mem_cons_of_mem _))
  obtain ⟨late, there | gone⟩ := silent
  · by_cases splices : ∃ preserveRedis, point = .stopping preserveRedis
    · obtain ⟨preserveRedis, rfl⟩ := splices
      have idle : tasks.shared.settled tasks.ready = true := by
        unfold settledAtSplice at settled
        dsimp only at settled
        rw [split, List.getElem?_append_right (Nat.le_refl _), Nat.sub_self,
          List.getElem?_cons_zero] at settled
        dsimp only at settled
        rw [there, ← split] at settled
        exact settled
      obtain ⟨unarmed, dead⟩ := settled_iff.mp idle
      have rest : tasks.shared.settled (earlier ++ later) = true :=
        settled_iff.mpr ⟨unarmed, fun other member => dead other (others other member)⟩
      exact Silent.of_rests (splice_silent there rest preserveRedis) late
    · refine Silent.of_stays (resume_stays tasks.shared point answer ?_) there late
      intro preserveRedis stopping
      exact splices ⟨preserveRedis, stopping⟩
  · have rest : tasks.shared.Gone (earlier ++ later) :=
      ⟨gone.gone, gone.idle, fun other member => gone.points other (others other member)⟩
    exact Silent.of_rests (rest.resume (gone.points point here) answer) late

/-- One step that splices the object out only where nothing is left to do. -/
theorem Silent.next (silent : Silent tasks) {label : TaskLabel OutletCall OutletAnswer}
    (possible : Program.Enabled tasks label) (settled : settledAtSplice tasks label = true) :
    Silent (program.next label tasks) := by
  rcases program.next_cases possible with ⟨asked, answer, rfl, next⟩ |
    ⟨earlier, point, later, answer, rfl, split, next⟩ | ⟨guarded, rest, answer, rfl, first, next⟩
  · rw [next]
    exact silent.call asked answer settled
  · rw [next]
    exact silent.resume answer split settled
  · exact guarded.elim

end Runs

/-- Every interleaving of a loaded room, its timers, its callers and its unload. -/
def system : TransitionSystem (Tasks Outlet OutletPoint Empty) (TaskLabel OutletCall OutletAnswer) :=
  program.system fun outlet => outlet.loaded = true ∧ outlet.lateWrites = []

section Late

variable {tasks : Tasks Outlet OutletPoint Empty} {outlet : Outlet}

/-- Some run from here ends with a late write. -/
def WritesLater (tasks : Tasks Outlet OutletPoint Empty) : Prop :=
  ∃ later, system.Steps tasks later ∧ later.shared.lateWrites ≠ []

theorem WritesLater.step {label : TaskLabel OutletCall OutletAnswer}
    (possible : Program.Enabled tasks label) (later : WritesLater (program.next label tasks)) :
    WritesLater tasks := by
  obtain ⟨last, run, late⟩ := later
  have first : system.Step tasks label (program.next label tasks) := ⟨possible, rfl⟩
  exact ⟨last, (TransitionSystem.Steps.single first).trans run, late⟩

theorem WritesLater.now (late : tasks.shared.lateWrites ≠ []) : WritesLater tasks :=
  ⟨tasks, TransitionSystem.Steps.refl tasks, late⟩

/-- A function at an await goes on. -/
theorem WritesLater.resume {point : OutletPoint} (member : point ∈ tasks.ready)
    (answer : OutletAnswer)
    (later : ∀ others, WritesLater (Tasks.park (tasks.shared.resume point answer) others)) :
    WritesLater tasks := by
  obtain ⟨label, possible, others, next⟩ := program.exists_resume member answer
  refine WritesLater.step possible ?_
  rw [next]
  exact later others

theorem write_late (gone : outlet.loaded = false) (kind : RoomWrite) :
    (outlet.write kind).lateWrites ≠ [] := by
  unfold write
  rw [gone]
  exact List.cons_ne_nil _ _

/-- What is written stays written. -/
theorem flushSave_late (late : outlet.lateWrites ≠ []) : outlet.flushSave.lateWrites ≠ [] := by
  unfold flushSave write
  split
  · split
    · exact late
    · exact List.cons_ne_nil _ _
  · exact late

theorem WritesLater.fire {timer : RoomTimer} (set : timer ∈ tasks.shared.timers)
    (answer : OutletAnswer)
    (later : WritesLater (tasks.park ((tasks.shared.clearTimer timer).callback timer answer))) :
    WritesLater tasks := by
  have possible : Program.Enabled tasks
      (.call (.fire timer) answer : TaskLabel OutletCall OutletAnswer) := trivial
  have fires : Outlet.call (.fire timer) answer tasks.shared =
      (tasks.shared.clearTimer timer).callback timer answer := by
    unfold Outlet.call
    dsimp only
    rw [if_pos set]
  refine WritesLater.step possible ?_
  change WritesLater (tasks.park (Outlet.call (.fire timer) answer tasks.shared))
  rw [fires]
  exact later

theorem add_ne_nil (set : OrderedSet SyncProp) (property : SyncProp) : set.add property ≠ [] := by
  unfold OrderedSet.add
  split
  · rename_i member
    exact List.ne_nil_of_mem member
  · exact List.append_ne_nil_of_right_ne_nil _ (List.cons_ne_nil _ _)

theorem addAll_ne_nil {set added : OrderedSet SyncProp} (some : added ≠ []) :
    set.addAll added ≠ [] := by
  have grows : ∀ (rest : List SyncProp) (current : OrderedSet SyncProp),
      current ≠ [] → rest.foldl OrderedSet.add current ≠ [] := by
    intro rest
    induction rest with
    | nil => exact fun _ kept => kept
    | cons property rest ih =>
        intro current _
        exact ih _ (add_ne_nil _ _)
  cases added with
  | nil => exact absurd rfl some
  | cons property rest => exact grows rest _ (add_ne_nil _ _)

variable (gone : tasks.shared.loaded = false)

include gone

theorem writesLater_publishing {dirty : OrderedSet SyncProp}
    {caller : SyncCaller} (member : .publishing dirty caller ∈ tasks.ready) :
    WritesLater tasks := by
  refine WritesLater.resume member {} ?_
  intro others
  have announced := write_late gone .message
  refine WritesLater.now ?_
  rw [Tasks.park_shared]
  unfold Outlet.resume
  dsimp only
  split
  · exact write_late ((write_stays _ _).loaded.trans gone) .row
  · cases caller with
    | timer => exact announced
    | handler => exact announced
    | unload preserveRedis => exact flushSave_late announced

theorem writesLater_handling
    (member : .handling ∈ tasks.ready) : WritesLater tasks := by
  refine WritesLater.resume member { effects := [.publish] } ?_
  intro others
  refine WritesLater.now ?_
  rw [Tasks.park_shared]
  exact write_late gone .message

theorem writesLater_sync
    (set : .throttledSync ∈ tasks.shared.timers) (dirty : tasks.shared.dirty ≠ []) :
    WritesLater tasks := by
  have waits : ((tasks.shared.clearTimer .throttledSync).sync .timer).2 =
      .point (.publishing tasks.shared.dirty .timer) := by
    unfold sync
    change (if tasks.shared.dirty.isEmpty = true then _ else _ : Result).2 = _
    rw [if_neg fun empty => dirty (List.isEmpty_iff.mp empty)]
    rfl
  refine WritesLater.fire set {} ?_
  have member : .publishing tasks.shared.dirty .timer ∈
      (tasks.park ((tasks.shared.clearTimer .throttledSync).sync .timer)).ready :=
    (Tasks.mem_park_ready _ _).mpr (Or.inr waits)
  refine writesLater_publishing ?_ member
  rw [Tasks.park_shared]
  exact (sync_stays _ _).loaded.trans gone

/-- A timer whose callback marks something dirty. -/
theorem writesLater_marks {timer : RoomTimer}
    (set : timer ∈ tasks.shared.timers)
    (kind : timer = .playbackStart ∨ timer = .temporarySpeed) : WritesLater tasks := by
  refine WritesLater.fire set { marks := [.isPlaying] } ?_
  have marked : ((tasks.shared.clearTimer timer).callback timer { marks := [.isPlaying] }) =
      ((tasks.shared.clearTimer timer).markDirty .isPlaying, .done) := by
    rcases kind with rfl | rfl
    · rfl
    · rfl
  rw [marked]
  refine writesLater_sync gone ?_ ?_
  · exact List.mem_cons_self ..
  · exact add_ne_nil _ _

theorem writesLater_armed
    (armed : tasks.shared.armed = true) : WritesLater tasks := by
  obtain ⟨timer, set, busy⟩ := List.any_eq_true.mp armed
  cases timer with
  | throttledSync =>
      refine writesLater_sync gone set ?_
      intro clean
      rw [clean] at busy
      cases busy
  | saveStateToRedis =>
      have cleared : (tasks.shared.clearTimer .saveStateToRedis).loaded = false := gone
      refine WritesLater.fire set {} (WritesLater.now ?_)
      rw [Tasks.park_shared]
      exact write_late cleared .snapshot
  | playbackStart => exact writesLater_marks gone set (Or.inl rfl)
  | temporarySpeed => exact writesLater_marks gone set (Or.inr rfl)
  | leaveEvent token =>
      have cleared : (tasks.shared.clearTimer (.leaveEvent token)).loaded = false := gone
      refine WritesLater.fire set {} (WritesLater.now ?_)
      rw [Tasks.park_shared]
      exact write_late cleared .message

theorem writesLater_live {point : OutletPoint}
    (member : point ∈ tasks.ready) (live : tasks.shared.live point = true) :
    WritesLater tasks := by
  cases point with
  | handling => exact writesLater_handling gone member
  | publishing dirty caller => exact writesLater_publishing gone member
  | storing dirty caller =>
      unfold Outlet.live at live
      rw [Bool.or_eq_true, Bool.and_eq_true, decide_eq_true_eq, decide_eq_true_eq] at live
      rcases live with rfl | ⟨set, kept⟩
      · refine WritesLater.resume member {} ?_
        intro others
        refine writesLater_handling ?_ ((Tasks.mem_park_ready _ _).mpr (Or.inr rfl))
        rw [Tasks.park_shared]
        exact gone
      · refine WritesLater.resume member { persists := false } ?_
        intro others
        refine writesLater_sync ?_ ?_ ?_
        · rw [Tasks.park_shared]
          exact gone
        · rw [Tasks.park_shared]
          exact set
        · rw [Tasks.park_shared]
          refine addAll_ne_nil ?_
          rintro rfl
          cases kept
  | stopping preserveRedis => cases live
  | deleting => cases live

/-- Wherever something is left to do, it may still be done. -/
theorem writesLater_of_unsettled
    (unsettled : tasks.shared.settled tasks.ready = false) : WritesLater tasks := by
  unfold settled at unsettled
  rw [Bool.and_eq_false_iff, Bool.not_eq_false', Bool.not_eq_false'] at unsettled
  rcases unsettled with armed | busy
  · exact writesLater_armed gone armed
  · obtain ⟨point, member, live⟩ := List.any_eq_true.mp busy
    exact writesLater_live gone member live

omit gone

/-- A splice that leaves something to do. -/
theorem writesLater_splice {others : Tasks Outlet OutletPoint Empty}
    (there : tasks.shared.loaded = true) (unsettled : tasks.shared.settled tasks.ready = false)
    (kept : ∀ point ∈ tasks.ready, tasks.shared.live point = true → point ∈ others.ready)
    (preserveRedis : Bool) : WritesLater (others.park (tasks.shared.splice preserveRedis)) := by
  have spliced : (tasks.shared.splice preserveRedis).1 = { tasks.shared with loaded := false } := by
    unfold splice
    rw [if_pos there]
  refine writesLater_of_unsettled ?_ ?_
  · rw [Tasks.park_shared, spliced]
  · rw [Tasks.park_shared, spliced]
    unfold settled at unsettled ⊢
    rw [Bool.and_eq_false_iff, Bool.not_eq_false', Bool.not_eq_false'] at unsettled ⊢
    refine unsettled.imp_right ?_
    intro busy
    obtain ⟨point, member, live⟩ := List.any_eq_true.mp busy
    refine List.any_eq_true.mpr ⟨point, ?_, live⟩
    exact (Tasks.mem_park_ready _ _).mpr (Or.inl (kept point member live))

/-- A step that misses the condition. -/
theorem writesLater_next {label : TaskLabel OutletCall OutletAnswer}
    (possible : Program.Enabled tasks label) (missed : settledAtSplice tasks label = false) :
    WritesLater (program.next label tasks) := by
  have unsettled : (!tasks.shared.loaded || tasks.shared.settled tasks.ready) = false →
      tasks.shared.loaded = true ∧ tasks.shared.settled tasks.ready = false := by
    intro missed
    rwa [Bool.or_eq_false_iff, Bool.not_eq_false'] at missed
  rcases program.next_cases possible with ⟨asked, answer, rfl, next⟩ |
    ⟨earlier, point, later, answer, rfl, split, next⟩ | ⟨guarded, rest, answer, rfl, first, next⟩
  · unfold settledAtSplice at missed
    split at missed
    · rename_i preserveRedis answer same
      cases same
      obtain ⟨there, unsettled⟩ := unsettled missed
      have spliced : Outlet.call (.unloadRoom .commanded preserveRedis) answer tasks.shared =
          tasks.shared.splice preserveRedis := by
        unfold Outlet.call
        dsimp only
        rw [there]
        rfl
      rw [next]
      change WritesLater (tasks.park
        (Outlet.call (.unloadRoom .commanded preserveRedis) answer tasks.shared))
      rw [spliced]
      exact writesLater_splice there unsettled (fun _ member _ => member) preserveRedis
    · rename_i same
      cases same
    · cases missed
  · unfold settledAtSplice at missed
    dsimp only at missed
    rw [split, List.getElem?_append_right (Nat.le_refl _), Nat.sub_self,
      List.getElem?_cons_zero] at missed
    cases point with
    | stopping preserveRedis =>
        dsimp only at missed
        rw [← split] at missed
        obtain ⟨there, unsettled⟩ := unsettled missed
        rw [next]
        refine writesLater_splice there unsettled ?_ preserveRedis
        intro point member live
        rw [split] at member
        rcases List.mem_append.mp member with before | after
        · exact List.mem_append_left _ before
        · rcases List.mem_cons.mp after with rfl | after
          · cases live
          · exact List.mem_append_right _ after
    | _ => cases missed
  · exact guarded.elim

end Late

/-- In every interleaving in which a room is spliced out of `rooms` only with no timer set and
nobody on the way that would still write, it never writes afterwards; and after a splice that
leaves something to do, it may. -/
theorem no_write_after_unload {tasks : Tasks Outlet OutletPoint Empty}
    (reachable : (system.restrict fun tasks label =>
      settledAtSplice tasks label = true).Reachable tasks) :
    tasks.shared.lateWrites = [] ∧
      ∀ label, Program.Enabled tasks label → settledAtSplice tasks label = false →
        WritesLater (program.next label tasks) := by
  have silent : Silent tasks := by
    refine TransitionSystem.Inductive.of_reachable ⟨?_, ?_⟩ reachable
    · rintro _ ⟨outlet, ⟨there, late⟩, rfl⟩
      exact ⟨late, Or.inl there⟩
    · rintro before label after silent ⟨settled, possible, rfl⟩
      exact silent.next possible settled
  exact ⟨silent.1, fun _ possible missed => writesLater_next possible missed⟩

section Alone

/-- How far an unload that nobody interrupts has come: what it has cancelled stays cancelled,
and what its checkpoint sets off is flushed. -/
inductive Stopping (outlet : Outlet) : List OutletPoint → Prop
  | publishing (dirty : OrderedSet SyncProp) (preserveRedis : Bool)
      (only : ∀ timer ∈ outlet.timers, timer = .saveStateToRedis) :
      Stopping outlet [.publishing dirty (.unload preserveRedis)]
  | storing (dirty : OrderedSet SyncProp) (preserveRedis : Bool)
      (only : ∀ timer ∈ outlet.timers, timer = .saveStateToRedis) :
      Stopping outlet [.storing dirty (.unload preserveRedis)]
  | stopping (preserveRedis : Bool) (none : outlet.timers = []) :
      Stopping outlet [.stopping preserveRedis]
  | deleting : Stopping outlet [.deleting]
  | ended : Stopping outlet []

variable {outlet : Outlet}

theorem write_timers (kind : RoomWrite) : (outlet.write kind).timers = outlet.timers := by
  unfold write
  split <;> rfl

theorem flushSave_timers (only : ∀ timer ∈ outlet.timers, timer = .saveStateToRedis) :
    outlet.flushSave.timers = [] := by
  unfold flushSave
  split
  · rw [write_timers]
    refine List.filter_eq_nil_iff.mpr ?_
    intro timer member
    rw [only timer member]
    exact Bool.false_ne_true
  · rename_i unset
    refine List.eq_nil_iff_forall_not_mem.mpr ?_
    intro timer member
    refine unset ?_
    rw [← only timer member]
    exact member

theorem foldl_markDirty_timers (marks : List SyncProp) (outlet : Outlet) :
    ∀ timer ∈ (marks.foldl (fun outlet property => outlet.markDirty property) outlet).timers,
      timer = .throttledSync ∨ timer ∈ outlet.timers := by
  induction marks generalizing outlet with
  | nil => exact fun timer member => Or.inr member
  | cons property rest ih =>
      intro timer member
      rcases ih (outlet.markDirty property) timer member with sync | marked
      · exact Or.inl sync
      · exact (List.mem_cons.mp marked).imp_right fun old => (List.mem_filter.mp old).1

/-- `onBeforeUnload` leaves at most a pending save. -/
theorem stop_timers (marks : List SyncProp) :
    ∀ timer ∈ (outlet.stop marks).timers, timer = .saveStateToRedis := by
  intro timer member
  unfold stop at member
  extract_lets kept filtered marked saved at member
  obtain ⟨set, other⟩ := List.mem_filter.mp member
  have before : timer = .throttledSync ∨ timer ∈ marked.timers := by
    change timer ∈ (if marked.isTemporary then marked else marked.markDirty .currentSource).timers
      at set
    split at set
    · exact Or.inr set
    · exact (List.mem_cons.mp set).imp_right fun old => (List.mem_filter.mp old).1
  rcases before with sync | old
  · exact absurd sync (of_decide_eq_true other)
  · rcases foldl_markDirty_timers marks filtered timer old with sync | old
    · exact absurd sync (of_decide_eq_true other)
    · have kind := of_decide_eq_true (List.mem_filter.mp old).2
      exact kind.resolve_left (of_decide_eq_true other)

/-- What an unload does once its checkpoint is there. -/
theorem synced_stopping (preserveRedis : Bool)
    (only : ∀ timer ∈ outlet.timers, timer = .saveStateToRedis) :
    Stopping (outlet.synced (.unload preserveRedis)).1
      (outlet.synced (.unload preserveRedis)).2.points :=
  .stopping preserveRedis (flushSave_timers only)

/-- The checkpoint of an unload. -/
theorem sync_stopping (preserveRedis : Bool)
    (only : ∀ timer ∈ outlet.timers, timer = .saveStateToRedis) :
    Stopping (outlet.sync (.unload preserveRedis)).1
      (outlet.sync (.unload preserveRedis)).2.points := by
  unfold sync
  split
  · exact synced_stopping preserveRedis only
  · dsimp only
    refine .publishing outlet.dirty preserveRedis ?_
    intro timer member
    split at member
    · rcases List.mem_cons.mp member with rfl | old
      · rfl
      · exact only timer (List.mem_filter.mp old).1
    · exact only timer member

theorem Stopping.resume {point : OutletPoint} (stopping : outlet.Stopping [point])
    (answer : OutletAnswer) :
    Stopping (outlet.resume point answer).1 (outlet.resume point answer).2.points := by
  cases stopping with
  | publishing dirty preserveRedis only =>
      have announced : ∀ timer ∈ (outlet.write .message).timers, timer = .saveStateToRedis := by
        rw [write_timers]
        exact only
      unfold Outlet.resume
      dsimp only
      split
      · refine .storing dirty preserveRedis ?_
        rw [write_timers]
        exact announced
      · exact synced_stopping preserveRedis announced
  | storing dirty preserveRedis only =>
      unfold Outlet.resume
      dsimp only
      split
      · exact synced_stopping preserveRedis only
      · exact .ended
  | stopping preserveRedis none =>
      change Stopping (outlet.splice preserveRedis).1 (outlet.splice preserveRedis).2.points
      unfold splice
      split
      · cases preserveRedis with
        | false => exact .deleting
        | true => exact .ended
      · exact .ended
  | deleting => exact .ended

theorem Stopping.single {ready : List OutletPoint} (stopping : outlet.Stopping ready)
    {point : OutletPoint} (member : point ∈ ready) : ready = [point] := by
  cases stopping with
  | ended => cases member
  | _ => rw [List.mem_singleton.mp member]

/-- The one function on the way is done with its room only when nothing is left to do. -/
theorem Stopping.settled {point : OutletPoint} (stopping : outlet.Stopping [point])
    (preserveRedis : Bool) (last : point = .stopping preserveRedis) :
    outlet.settled [point] = true := by
  cases stopping with
  | stopping _ none =>
      refine settled_iff.mpr ⟨armed_iff.mpr ?_, ?_⟩
      · intro timer member
        rw [none] at member
        cases member
      · intro other member
        rw [List.mem_singleton.mp member]
        rfl
  | _ => cases last

/-- An unload for any reason but a command, once it is called and while nobody else comes,
splices its room out with nothing left to do. -/
theorem unload_alone_settles (there : outlet.loaded = true) {reason : UnloadReason}
    (kind : reason ≠ .commanded) (preserveRedis : Bool) (answer : OutletAnswer)
    {tasks : Tasks Outlet OutletPoint Empty}
    (run : (system.restrict fun _ label => ∃ index answer, label = .resume index answer).Steps
      (program.next (.call (.unloadRoom reason preserveRedis) answer) { shared := outlet }) tasks)
    {index : Nat} {next : OutletAnswer} :
    settledAtSplice tasks (.resume index next) = true := by
  have stopping : tasks.shared.Stopping tasks.ready := by
    refine TransitionSystem.Steps.relates
      (fun tasks : Tasks Outlet OutletPoint Empty => tasks.shared.Stopping tasks.ready) ?_ ?_ run
    · change Stopping (({ shared := outlet } : Tasks Outlet OutletPoint Empty).park
        (Outlet.call (.unloadRoom reason preserveRedis) answer outlet)).shared
        (({ shared := outlet } : Tasks Outlet OutletPoint Empty).park
        (Outlet.call (.unloadRoom reason preserveRedis) answer outlet)).ready
      have begins : Outlet.call (.unloadRoom reason preserveRedis) answer outlet =
          (outlet.stop answer.marks).sync (.unload preserveRedis) := by
        unfold Outlet.call
        dsimp only
        rw [there, if_neg kind]
        rfl
      rw [Tasks.park_shared, Tasks.park_ready, begins]
      exact sync_stopping preserveRedis (stop_timers answer.marks)
    · rintro before label after _ stopping ⟨⟨index, answer, rfl⟩, possible, rfl⟩
      rcases program.next_cases possible with ⟨_, _, other, _⟩ |
        ⟨earlier, point, later, _, same, split, next⟩ | ⟨_, _, _, other, _⟩
      · cases other
      · cases same
        rw [next, Tasks.park_shared, Tasks.park_ready]
        rw [split] at stopping
        have one := stopping.single (List.mem_append_right _ (List.mem_cons_self ..))
        have alone : earlier ++ later = [] := by
          have count := congrArg List.length one
          rw [List.length_append, List.length_cons, List.length_singleton] at count
          refine List.length_eq_zero_iff.mp ?_
          rw [List.length_append]
          omega
        rw [one] at stopping
        change Stopping _ ((earlier ++ later) ++ _)
        rw [alone]
        exact stopping.resume answer
      · cases other
  unfold settledAtSplice
  dsimp only
  split
  · rename_i point preserveRedis here
    have one := stopping.single (List.mem_of_getElem? here)
    rw [one] at stopping ⊢
    rw [stopping.settled preserveRedis rfl, Bool.or_true]
  · rfl

end Alone

end Outlet

namespace Sample

/-- A viewer pauses the video. -/
def pauses : OutletAnswer := { effects := [.markDirty .isPlaying, .markDirty .playbackPosition] }

/-- A request, and a keep-alive unload that nobody interrupts. -/
def requestAndUnload : List (TaskLabel OutletCall OutletAnswer) :=
  [.call .request {}, .resume 0 pauses, .call (.unloadRoom .keepalive false) {}, .resume 0 {},
    .resume 0 {}, .resume 0 {}, .resume 0 {}, .call (.fire .throttledSync) {},
    .call (.fire .saveStateToRedis) {}]

/-- A request, and a commanded unload before its changes are synced. -/
def requestAndCommand : List (TaskLabel OutletCall OutletAnswer) :=
  [.call .request {}, .resume 0 pauses, .call (.unloadRoom .commanded true) {},
    .call (.fire .throttledSync) {}, .resume 0 {}, .resume 0 {}, .call (.fire .saveStateToRedis) {}]

end Sample

namespace Outlet

/-- The pending sync publishes and updates the row, and the pending save writes the snapshot,
all after the splice. -/
theorem commanded_unload_leaves_timers :
    system.Reachable (TransitionSystem.run program.next Sample.requestAndCommand
      { shared := {} }) ∧
    (TransitionSystem.run program.next Sample.requestAndCommand
      { shared := {} }).shared.lateWrites = [.snapshot, .row, .message] := by
  have run : system.Steps { shared := {} }
      (TransitionSystem.run program.next Sample.requestAndCommand { shared := {} }) := by
    have taken : TransitionSystem.runs program.next
        (fun tasks label => Program.Enabled tasks label) Sample.requestAndCommand
        { shared := {} } = true := by
      decide +kernel
    have step : ∀ tasks label, Program.Enabled tasks label →
        system.Step tasks label (program.next label tasks) := by
      intro tasks label possible
      exact ⟨possible, rfl⟩
    exact TransitionSystem.steps_run step Sample.requestAndCommand { shared := {} } taken
  refine ⟨⟨_, ⟨{}, ⟨rfl, rfl⟩, rfl⟩, run⟩, ?_⟩
  decide +kernel

/-- The keep-alive unload writes what there is to write before its splice. -/
theorem no_write_after_unload_kept :
    (TransitionSystem.run program.next Sample.requestAndUnload
      { shared := {} }).shared.writes = [.snapshot, .row, .message] ∧
    (TransitionSystem.run program.next Sample.requestAndUnload
      { shared := {} }).shared.lateWrites = [] := by
  have run : (system.restrict fun tasks label => settledAtSplice tasks label = true).Steps
      { shared := {} }
      (TransitionSystem.run program.next Sample.requestAndUnload { shared := {} }) := by
    have taken : TransitionSystem.runs program.next (fun tasks label =>
        Program.Enabled tasks label ∧ settledAtSplice tasks label = true)
        Sample.requestAndUnload { shared := {} } = true := by
      decide +kernel
    exact program.steps_run (fun outlet => outlet.loaded = true ∧ outlet.lateWrites = [])
      (fun tasks label => settledAtSplice tasks label = true) Sample.requestAndUnload
      { shared := {} } taken
  refine ⟨?_, (no_write_after_unload ⟨_, ⟨{}, ⟨rfl, rfl⟩, rfl⟩, run⟩).1⟩
  decide +kernel

end Outlet

end OpenTogetherTube
