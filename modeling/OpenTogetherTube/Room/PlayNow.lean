import Mathlib.Data.List.Perm.Basic
import OpenTogetherTube.Lib.Tasks
import OpenTogetherTube.Room.Requests

/-!
# A `playNow` among adds

`playNow` takes its video out of the queue, notes on the current item where it is
interrupted, and puts it back on top, each in a section of its own; the last of them is
refused at the cap. Here one `playNow` and any number of adds are cut at their awaits. Where
the push finds room, a rejected `playNow` has changed nothing and one that plays loses
nothing.
-/

namespace OpenTogetherTube

open Lib

/-- How the `playNow` ended. -/
inductive PlayOutcome where
  | rejected
  /-- `video` plays; the room had it when it was asked for, or it was looked up. -/
  | played (there : Bool) (video : VideoId)
deriving DecidableEq

/-- What the `playNow` adds to the videos of the room. -/
def PlayOutcome.gained : PlayOutcome → List VideoId
  | .rejected => []
  | .played there video => if there then [] else [video]

/-- The current item and the queue, and what became of the requests. -/
structure Race where
  source : Option QueueItem := none
  queue : List QueueItem := []
  /-- The `playNow` was made. -/
  asked : Bool := false
  outcome : Option PlayOutcome := none
  /-- History: what the adds have put into the queue. -/
  added : List QueueItem := []
deriving DecidableEq

/-- What comes from outside. -/
structure RaceAnswer where
  /-- The checks of permissions and texts let the request go on. -/
  passes : Bool := true
  /-- `getVideoInfo`. -/
  found : Option QueueItem := none
  /-- `getManyVideoInfo`. -/
  foundMany : Option (List QueueItem) := none
  /-- `realPlaybackPosition`. -/
  position : Number := .fin 0

inductive RaceCall where
  | playNow (request : VideoAdd)
  | add (request : VideoAdd)
  | addMany (count : Nat)
deriving DecidableEq

/-- Where a handler waits for something other than the lock. -/
inductive RacePoint where
  /-- `playNow`, at the subtitle check. -/
  | checkingPlay (request : VideoAdd) (queued : Bool)
  /-- `playNow`, at the lookup. -/
  | lookingUpPlay (request : VideoAdd)
  /-- `playNow`, with the item taken out of the queue. -/
  | evicted (request : VideoAdd) (item : QueueItem)
  /-- `playNow`, once the current item is back in the queue. -/
  | pushed (there : Bool) (item : QueueItem)
  /-- `addToQueue`, at the lookup of one video. -/
  | lookingUp (request : VideoAdd)
  /-- `addToQueue`, at the subtitle check. -/
  | checking (item : QueueItem)
  /-- `addToQueue`, at the lookup of a batch. -/
  | lookingUpMany
  /-- `addToQueue`, in the loop over a batch. -/
  | choosing (rest kept : List QueueItem)
deriving DecidableEq

/-- A section under the queue's lock, and whose it is. -/
inductive RaceSection where
  | evict (request : VideoAdd)
  | pushTop (current : QueueItem) (there : Bool) (item : QueueItem)
  | enqueue (items : List QueueItem)
deriving DecidableEq

/-- `if (request.video.subtitleUrl)`. -/
def VideoAdd.hasSubtitle (request : VideoAdd) : Bool := request.subtitleUrl.any (· ≠ "")

namespace Race

/-- The videos of a list of items. -/
def ids (items : List QueueItem) : List VideoId := items.map QueueItem.toVideoId

/-- The videos of the room, the current one first. -/
def videos (race : Race) : List VideoId := ids (race.source.toList ++ race.queue)

def isVideoInQueue (video : VideoId) (race : Race) : Bool :=
  decide (race.source.map QueueItem.toVideoId = some video) || decide (video ∈ ids race.queue)

abbrev Result := Race × Rest RacePoint RaceSection

/-- The `playNow` throws. -/
def reject (race : Race) : Result := ({ race with outcome := some .rejected }, .done)

/-- The `playNow` makes `item` current. -/
def settle (there : Bool) (item : QueueItem) (race : Race) : Result :=
  ({ race with source := some item, outcome := some (.played there item.toVideoId) }, .done)

/-- `playNow` once the subtitle is checked. -/
def fetch (request : VideoAdd) (queued : Bool) (race : Race) : Result :=
  if queued then (race, .locked (.evict request)) else (race, .point (.lookingUpPlay request))

/-- `playNow` once it has the item: the current one is noted the position it is interrupted
at, and waits to be pushed. -/
def play (position : Number) (there : Bool) (item : QueueItem) (race : Race) : Result :=
  match race.source with
  | some current =>
      let current := { current with startAt := some position }
      ({ race with source := some current }, .locked (.pushTop current there item))
  | none => race.settle there item

/-- The first piece of `playNow`. -/
def playNow (request : VideoAdd) (answer : RaceAnswer) (race : Race) : Result :=
  let race := { race with asked := true }
  if race.source.map QueueItem.toVideoId = some request.toVideoId then
    ({ race with outcome := some (.played true request.toVideoId) }, .done)
  else
    let queued := race.isVideoInQueue request.toVideoId
    if !answer.passes || (!queued && decide (race.queue.length ≥ MAX_QUEUE_ITEMS)) then race.reject
    else if request.hasSubtitle then (race, .point (.checkingPlay request queued))
    else race.fetch request queued

/-- The first piece of each handler. -/
def call (call : RaceCall) (answer : RaceAnswer) (race : Race) : Result :=
  match call with
  | .playNow request => race.playNow request answer
  | .add request =>
      if !answer.passes || decide (race.queue.length + 1 > MAX_QUEUE_ITEMS) ||
          race.isVideoInQueue request.toVideoId then (race, .done)
      else (race, .point (.lookingUp request))
  | .addMany count =>
      if !answer.passes || decide (race.queue.length + count > MAX_QUEUE_ITEMS) then (race, .done)
      else (race, .point .lookingUpMany)

/-- What a handler does from a point on. -/
def resume (point : RacePoint) (answer : RaceAnswer) (race : Race) : Result :=
  match point with
  | .checkingPlay request queued =>
      if answer.passes then race.fetch request queued else race.reject
  | .lookingUpPlay request =>
      match answer.found with
      | some item => race.play answer.position false (Room.withSubtitle request.subtitleUrl item)
      | none => race.reject
  | .evicted request item =>
      race.play answer.position true (Room.withSubtitle request.subtitleUrl item)
  | .pushed there item => race.settle there item
  | .lookingUp request =>
      match answer.found with
      | some item =>
          let item := Room.withSubtitle request.subtitleUrl item
          if request.hasSubtitle then (race, .point (.checking item))
          else (race, .locked (.enqueue [item]))
      | none => (race, .done)
  | .checking item => if answer.passes then (race, .locked (.enqueue [item])) else (race, .done)
  | .lookingUpMany =>
      match answer.foundMany with
      | some items => (race, .point (.choosing items []))
      | none => (race, .done)
  | .choosing [] kept => if kept.isEmpty then (race, .done) else (race, .locked (.enqueue kept))
  | .choosing (item :: rest) kept =>
      if !answer.passes then (race, .done)
      else if race.isVideoInQueue item.toVideoId then (race, .point (.choosing rest kept))
      else (race, .point (.choosing rest (kept ++ [item])))

/-- What a section does under the lock. -/
def serve (guarded : RaceSection) (_ : RaceAnswer) (race : Race) : Result :=
  match guarded with
  | .evict request =>
      match race.queue.findIdx? fun item => decide (item.toVideoId = request.toVideoId) with
      | some index =>
          match race.queue[index]? with
          | some item =>
              ({ race with queue := race.queue.eraseIdx index }, .point (.evicted request item))
          | none => race.reject
      | none => race.reject
  | .pushTop current there item =>
      if race.queue.length + 1 > MAX_QUEUE_ITEMS then race.reject
      else ({ race with queue := current :: race.queue }, .point (.pushed there item))
  | .enqueue items =>
      if race.queue.length + items.length > MAX_QUEUE_ITEMS then (race, .done)
      else ({ race with queue := race.queue ++ items, added := race.added ++ items }, .done)

/-- The handlers as tasks. -/
def program : Program Race RaceCall RaceAnswer RacePoint RaceSection where
  call := call
  resume := resume
  serve := serve

end Race

abbrev RaceTasks := Tasks Race RacePoint RaceSection

abbrev RaceLabel := TaskLabel RaceCall RaceAnswer

/-- The `playNow` is made once. -/
def Race.once (tasks : RaceTasks) : RaceLabel → Bool
  | .call (.playNow _) _ => !tasks.shared.asked
  | _ => true

/-- The interleavings of one `playNow` and adds, in any room. -/
def raceSystem : TransitionSystem RaceTasks RaceLabel :=
  (Race.program.system fun race =>
    race.asked = false ∧ race.outcome = none ∧ race.added = []).restrict fun tasks label =>
      Race.once tasks label = true

/-- A point of the `playNow`. -/
def RacePoint.plays : RacePoint → Bool
  | .checkingPlay _ _ | .lookingUpPlay _ | .evicted _ _ | .pushed _ _ => true
  | _ => false

/-- A section of the `playNow`. -/
def RaceSection.plays : RaceSection → Bool
  | .evict _ | .pushTop _ _ _ => true
  | .enqueue _ => false

namespace Race

/-- The current item is put back into a queue with room for it. Nothing is asked of other
pieces. -/
def spare : Guard Race RaceCall RaceAnswer RacePoint RaceSection where
  serve guarded _ race :=
    match guarded with
    | .pushTop _ _ _ => decide (race.queue.length < MAX_QUEUE_ITEMS)
    | _ => true

/-- The room has what it had and what was added. -/
structure Kept (start race : Race) : Prop where
  source : race.source = start.source
  queue : race.queue.Perm (start.queue ++ race.added)

/-- The videos, with `held` in the hands of the `playNow`, are those there were, those that
were added and those the `playNow` gains. -/
def Accounts (start race : Race) (held gained : List VideoId) : Prop :=
  (held ++ race.videos).Perm (start.videos ++ ids race.added ++ gained)

/-- Where the `playNow` is, and what the room holds meanwhile. -/
inductive Phase (start race : Race) : List RacePoint → List RaceSection → Prop
  | waiting (fresh : race.asked = false) (free : race.outcome = none) (kept : Kept start race) :
      Phase start race [] []
  | checking {request : VideoAdd} {queued : Bool} (asked : race.asked = true)
      (free : race.outcome = none) (kept : Kept start race)
      (there : queued = true → request.toVideoId ∈ ids race.queue) :
      Phase start race [.checkingPlay request queued] []
  | lookingUp {request : VideoAdd} (asked : race.asked = true) (free : race.outcome = none)
      (kept : Kept start race) : Phase start race [.lookingUpPlay request] []
  | evicting {request : VideoAdd} (asked : race.asked = true) (free : race.outcome = none)
      (kept : Kept start race) (there : request.toVideoId ∈ ids race.queue) :
      Phase start race [] [.evict request]
  | evicted {request : VideoAdd} {item : QueueItem} (asked : race.asked = true)
      (free : race.outcome = none)
      (accounts : Accounts start race [item.toVideoId] []) :
      Phase start race [.evicted request item] []
  | pushing {current item : QueueItem} {there : Bool} (asked : race.asked = true)
      (free : race.outcome = none) (source : race.source = some current)
      (accounts : Accounts start race [item.toVideoId] (PlayOutcome.played there item.toVideoId).gained) :
      Phase start race [] [.pushTop current there item]
  | pushed {item : QueueItem} {there : Bool} (asked : race.asked = true)
      (free : race.outcome = none)
      (accounts : (item.toVideoId :: ids race.queue).Perm (start.videos ++ ids race.added ++
        (PlayOutcome.played there item.toVideoId).gained)) :
      Phase start race [.pushed there item] []
  | rejected (asked : race.asked = true) (ended : race.outcome = some .rejected)
      (kept : Kept start race) : Phase start race [] []
  | settled {there : Bool} {video : VideoId} (asked : race.asked = true)
      (ended : race.outcome = some (.played there video))
      (accounts : Accounts start race [] (PlayOutcome.played there video).gained) :
      Phase start race [] []

/-- The invariant. -/
def Tracks (start : Race) (tasks : RaceTasks) : Prop :=
  Phase start tasks.shared (tasks.ready.filter RacePoint.plays)
    (tasks.waiting.filter RaceSection.plays)

variable {start race : Race}

theorem Kept.accounts (kept : Kept start race) : Accounts start race [] [] := by
  unfold Accounts videos ids
  rw [kept.source, List.nil_append, List.append_nil, ← List.map_append, List.append_assoc]
  exact (kept.queue.append_left _).map _

section Adding

/-- What an add puts into the queue. -/
def enqueued (items : List QueueItem) (race : Race) : Race :=
  { race with queue := race.queue ++ items, added := race.added ++ items }

variable (items : List QueueItem)

theorem Kept.enqueued (kept : Kept start race) : Kept start (race.enqueued items) :=
  ⟨kept.source, by
    change (race.queue ++ items).Perm (start.queue ++ (race.added ++ items))
    rw [← List.append_assoc]
    exact kept.queue.append_right items⟩

/-- Something put at the end of both sides, in front of the gain. -/
theorem perm_enqueued {have' has gained : List VideoId} (same : have'.Perm (has ++ gained)) :
    (have' ++ ids items).Perm (has ++ ids items ++ gained) := by
  rw [List.append_assoc]
  refine (same.append_right (ids items)).trans ?_
  rw [List.append_assoc]
  exact List.perm_append_comm.append_left has

theorem Accounts.enqueued {held gained : List VideoId} (accounts : Accounts start race held gained) :
    Accounts start (race.enqueued items) held gained := by
  unfold Accounts videos ids
  have last := perm_enqueued items accounts
  unfold ids videos ids at last
  simpa only [Race.enqueued, List.map_append, List.append_assoc] using last

/-- An add changes nothing about where the `playNow` is. -/
theorem Phase.enqueued {points : List RacePoint} {sections : List RaceSection}
    (phase : Phase start race points sections) :
    Phase start (race.enqueued items) points sections := by
  have more {video : VideoId} (there : video ∈ ids race.queue) :
      video ∈ ids (race.enqueued items).queue := by
    unfold ids Race.enqueued at *
    rw [List.map_append]
    exact List.mem_append_left _ there
  cases phase with
  | waiting fresh free kept => exact .waiting fresh free (kept.enqueued items)
  | checking asked free kept there =>
      exact .checking asked free (kept.enqueued items) fun queued => more (there queued)
  | lookingUp asked free kept => exact .lookingUp asked free (kept.enqueued items)
  | evicting asked free kept there => exact .evicting asked free (kept.enqueued items) (more there)
  | evicted asked free accounts => exact .evicted asked free (accounts.enqueued items)
  | pushing asked free source accounts =>
      exact .pushing asked free source (accounts.enqueued items)
  | pushed asked free accounts =>
      refine .pushed asked free ?_
      have last := perm_enqueued items accounts
      unfold ids at last ⊢
      simpa only [Race.enqueued, List.map_append, List.cons_append, List.append_assoc] using last
  | rejected asked ended kept => exact .rejected asked ended (kept.enqueued items)
  | settled asked ended accounts => exact .settled asked ended (accounts.enqueued items)

end Adding

/-! ### The pieces of the `playNow` -/

/-- Where the `playNow` is once a piece of it has run. -/
def Reaches (start : Race) (result : Result) : Prop :=
  match result.2 with
  | .done => Phase start result.1 [] []
  | .point point => point.plays = true ∧ Phase start result.1 [point] []
  | .locked guarded => guarded.plays = true ∧ Phase start result.1 [] [guarded]

theorem reject_reaches (asked : race.asked = true) (kept : Kept start race) :
    Reaches start race.reject :=
  .rejected asked rfl ⟨kept.source, kept.queue⟩

theorem fetch_reaches {request : VideoAdd} {queued : Bool} (asked : race.asked = true)
    (free : race.outcome = none) (kept : Kept start race)
    (there : queued = true → request.toVideoId ∈ ids race.queue) :
    Reaches start (race.fetch request queued) := by
  unfold fetch
  split
  · rename_i known
    exact ⟨rfl, .evicting asked free kept (there known)⟩
  · exact ⟨rfl, .lookingUp asked free kept⟩

theorem play_reaches {position : Number} {there : Bool} {item : QueueItem}
    (asked : race.asked = true) (free : race.outcome = none)
    (accounts : Accounts start race [item.toVideoId]
      (PlayOutcome.played there item.toVideoId).gained) :
    Reaches start (race.play position there item) := by
  unfold play
  split
  · rename_i current source
    refine ⟨rfl, .pushing asked free rfl ?_⟩
    unfold Accounts videos at accounts ⊢
    rw [source] at accounts
    exact accounts
  · rename_i idle
    refine .settled asked rfl ?_
    unfold Accounts videos at accounts ⊢
    rw [idle] at accounts
    exact accounts

theorem withSubtitle_toVideoId (subtitleUrl : Option String) (item : QueueItem) :
    (Room.withSubtitle subtitleUrl item).toVideoId = item.toVideoId := by
  unfold Room.withSubtitle
  split <;> rfl

theorem playNow_reaches (request : VideoAdd) (answer : RaceAnswer) (free : race.outcome = none)
    (kept : Kept start race) : Reaches start (race.playNow request answer) := by
  have kept' : Kept start { race with asked := true } := ⟨kept.source, kept.queue⟩
  unfold playNow
  dsimp only
  split
  · exact .settled rfl rfl kept.accounts
  · rename_i other
    have there : Race.isVideoInQueue request.toVideoId { race with asked := true } = true →
        request.toVideoId ∈ ids race.queue := by
      unfold isVideoInQueue
      rw [Bool.or_eq_true, decide_eq_true_eq, decide_eq_true_eq]
      exact fun found => found.resolve_left other
    split
    · exact reject_reaches rfl kept'
    · split
      · exact ⟨rfl, .checking rfl free kept' there⟩
      · exact fetch_reaches rfl free kept' there

/-- The `playNow` goes on from a point of its own. -/
theorem resume_reaches {point : RacePoint} (answer : RaceAnswer) (plays : point.plays = true)
    (phase : Phase start race [point] []) : Reaches start (race.resume point answer) := by
  unfold resume
  cases phase with
  | checking asked free kept there =>
      dsimp only
      split
      · exact fetch_reaches asked free kept there
      · exact reject_reaches asked kept
  | lookingUp asked free kept =>
      dsimp only
      split
      · refine play_reaches asked free ?_
        have same := kept.accounts
        unfold Accounts at same ⊢
        rw [List.append_nil, List.nil_append] at same
        exact (List.perm_append_comm).trans (same.append_right _)
      · exact reject_reaches asked kept
  | evicted asked free accounts =>
      refine play_reaches asked free ?_
      rw [withSubtitle_toVideoId]
      exact accounts
  | pushed asked free accounts => exact .settled asked rfl accounts

/-- A section of the `playNow` runs; where it puts the current item back there is room. -/
theorem serve_reaches {guarded : RaceSection} (answer : RaceAnswer) (plays : guarded.plays = true)
    (phase : Phase start race [] [guarded])
    (spared : spare.serve guarded answer race = true) :
    Reaches start (race.serve guarded answer) := by
  unfold serve
  cases phase with
  | @evicting request asked free kept there =>
      dsimp only
      split
      · rename_i index found
        obtain ⟨inside, _, _⟩ := List.findIdx?_eq_some_iff_getElem.mp found
        rw [List.getElem?_eq_getElem inside]
        refine ⟨rfl, .evicted asked free ?_⟩
        have same := kept.accounts
        unfold Accounts videos ids at same ⊢
        refine List.Perm.trans ?_ same
        rw [List.nil_append]
        have back := (List.getElem_cons_eraseIdx_perm inside).append_left race.source.toList
        refine List.Perm.trans ?_ (back.map QueueItem.toVideoId)
        exact (List.perm_middle.symm).map QueueItem.toVideoId
      · rename_i missing
        rw [List.findIdx?_eq_none_iff] at missing
        obtain ⟨item, inside, same⟩ := List.mem_map.mp there
        have other := missing item inside
        rw [decide_eq_false_iff_not] at other
        exact absurd same other
  | pushing asked free source accounts =>
      dsimp only
      rw [if_neg (Nat.not_lt.mpr (of_decide_eq_true spared))]
      refine ⟨rfl, .pushed asked free ?_⟩
      unfold Accounts videos ids at accounts
      rw [source] at accounts
      exact accounts

/-! ### Every step -/

variable {tasks : RaceTasks}

theorem Tracks.park_play (points : tasks.ready.filter RacePoint.plays = [])
    (sections : tasks.waiting.filter RaceSection.plays = []) {result : Result}
    (reaches : Reaches start result) : Tracks start (tasks.park result) := by
  obtain ⟨shared, rest⟩ := result
  unfold Tracks
  cases rest with
  | done =>
      change Phase start shared (tasks.ready.filter _) (tasks.waiting.filter _)
      rw [points, sections]
      exact reaches
  | point point =>
      change Phase start shared ((tasks.ready ++ [point]).filter _) (tasks.waiting.filter _)
      rw [List.filter_append, points, sections, List.filter_singleton, reaches.1]
      exact reaches.2
  | locked guarded =>
      change Phase start shared (tasks.ready.filter _) ((tasks.waiting ++ [guarded]).filter _)
      rw [List.filter_append, points, sections, List.filter_singleton, reaches.1]
      exact reaches.2

/-- An add comes to rest. -/
theorem Tracks.park_add {result : Result}
    (phase : Phase start result.1 (tasks.ready.filter RacePoint.plays)
      (tasks.waiting.filter RaceSection.plays))
    (point : ∀ point, result.2 = .point point → point.plays = false)
    (guarded : ∀ guarded, result.2 = .locked guarded → guarded.plays = false) :
    Tracks start (tasks.park result) := by
  obtain ⟨shared, rest⟩ := result
  unfold Tracks
  cases rest with
  | done => exact phase
  | point here =>
      change Phase start shared ((tasks.ready ++ [here]).filter _) (tasks.waiting.filter _)
      rw [List.filter_append, List.filter_singleton, point here rfl]
      simpa using phase
  | locked here =>
      change Phase start shared (tasks.ready.filter _) ((tasks.waiting ++ [here]).filter _)
      rw [List.filter_append, List.filter_singleton, guarded here rfl]
      simpa using phase

/-- The `playNow` is at one place at most. -/
theorem Phase.lone {points : List RacePoint} {sections : List RaceSection}
    (phase : Phase start race points sections) : points.length + sections.length ≤ 1 := by
  cases phase <;> simp

/-- What a piece of an add leaves: the room, and a rest that is none of the `playNow`'s. -/
structure Adds (race : Race) (result : Result) : Prop where
  same : result.1 = race
  point : ∀ point, result.2 = .point point → point.plays = false
  guarded : ∀ guarded, result.2 = .locked guarded → guarded.plays = false

theorem adds_done : Adds race (race, .done) where
  same := rfl
  point _ rests := by cases rests
  guarded _ rests := by cases rests

theorem adds_point {point : RacePoint} (other : point.plays = false) :
    Adds race (race, .point point) where
  same := rfl
  point _ rests := by
    cases rests
    exact other
  guarded _ rests := by cases rests

theorem adds_locked (items : List QueueItem) : Adds race (race, .locked (.enqueue items)) where
  same := rfl
  point _ rests := by cases rests
  guarded _ rests := by
    cases rests
    rfl

theorem call_adds {request : RaceCall} (answer : RaceAnswer)
    (other : ∀ video, request ≠ .playNow video) : Adds race (race.call request answer) := by
  unfold call
  cases request with
  | playNow video => exact absurd rfl (other video)
  | add video =>
      dsimp only
      split
      · exact adds_done
      · exact adds_point rfl
  | addMany count =>
      dsimp only
      split
      · exact adds_done
      · exact adds_point rfl

theorem resume_adds {point : RacePoint} (answer : RaceAnswer) (other : point.plays = false) :
    Adds race (race.resume point answer) := by
  unfold resume
  split
  · cases other
  · cases other
  · cases other
  · cases other
  · split
    · dsimp only
      split
      · exact adds_point rfl
      · exact adds_locked _
    · exact adds_done
  · split
    · exact adds_locked _
    · exact adds_done
  · split
    · exact adds_point rfl
    · exact adds_done
  · split
    · exact adds_done
    · exact adds_locked _
  · split
    · exact adds_done
    · split
      · exact adds_point rfl
      · exact adds_point rfl

theorem Tracks.call (tracks : Tracks start tasks) (request : RaceCall) (answer : RaceAnswer)
    (once : Race.once tasks (.call request answer) = true) :
    Tracks start (tasks.park (program.call request answer tasks.shared)) := by
  by_cases plays : ∃ video, request = .playNow video
  · obtain ⟨video, rfl⟩ := plays
    have first : tasks.shared.asked = false := by simpa [Race.once] using once
    unfold Tracks at tracks
    generalize points : tasks.ready.filter RacePoint.plays = held at tracks
    generalize sections : tasks.waiting.filter RaceSection.plays = line at tracks
    cases tracks with
    | waiting fresh free kept => exact park_play points sections (playNow_reaches video answer free kept)
    | _ => simp_all
  · push Not at plays
    have adds : Adds tasks.shared (tasks.shared.call request answer) := call_adds answer plays
    refine park_add ?_ adds.point adds.guarded
    rw [show (program.call request answer tasks.shared).1 = tasks.shared from adds.same]
    exact tracks

theorem Tracks.resume (tracks : Tracks start tasks) {earlier later : List RacePoint}
    {point : RacePoint} (answer : RaceAnswer) (split : tasks.ready = earlier ++ point :: later) :
    Tracks start ({ tasks with ready := earlier ++ later }.park
      (program.resume point answer tasks.shared)) := by
  unfold Tracks at tracks
  rw [split, List.filter_append, List.filter_cons] at tracks
  cases plays : point.plays with
  | true =>
      rw [plays, if_pos rfl] at tracks
      have lone := tracks.lone
      simp only [List.length_append, List.length_cons] at lone
      have before : earlier.filter RacePoint.plays = [] := List.length_eq_zero_iff.mp (by omega)
      have after : later.filter RacePoint.plays = [] := List.length_eq_zero_iff.mp (by omega)
      have line : tasks.waiting.filter RaceSection.plays = [] :=
        List.length_eq_zero_iff.mp (by omega)
      rw [before, after, line] at tracks
      refine @park_play start { tasks with ready := earlier ++ later } ?_ line _
        (resume_reaches answer plays tracks)
      change (earlier ++ later).filter RacePoint.plays = []
      rw [List.filter_append, before, after]
      rfl
  | false =>
      have adds : Adds tasks.shared (tasks.shared.resume point answer) := resume_adds answer plays
      rw [plays] at tracks
      refine @park_add start { tasks with ready := earlier ++ later } _ ?_ adds.point adds.guarded
      rw [show (program.resume point answer tasks.shared).1 = tasks.shared from adds.same]
      change Phase start tasks.shared ((earlier ++ later).filter _) _
      rw [List.filter_append]
      exact tracks

theorem Tracks.serve (tracks : Tracks start tasks) {guarded : RaceSection}
    {rest : List RaceSection} (answer : RaceAnswer) (first : tasks.waiting = guarded :: rest)
    (spared : spare.serve guarded answer tasks.shared = true) :
    Tracks start ({ tasks with waiting := rest }.park
      (program.serve guarded answer tasks.shared)) := by
  unfold Tracks at tracks
  rw [first, List.filter_cons] at tracks
  cases plays : guarded.plays with
  | true =>
      rw [plays, if_pos rfl] at tracks
      have lone := tracks.lone
      simp only [List.length_cons] at lone
      have points : tasks.ready.filter RacePoint.plays = [] := List.length_eq_zero_iff.mp (by omega)
      have after : rest.filter RaceSection.plays = [] := List.length_eq_zero_iff.mp (by omega)
      rw [points, after] at tracks
      exact @park_play start { tasks with waiting := rest } points after _
        (serve_reaches answer plays tracks spared)
  | false =>
      rw [plays] at tracks
      cases guarded with
      | evict request => cases plays
      | pushTop current there item => cases plays
      | enqueue items =>
          refine @park_add start { tasks with waiting := rest } _ ?_ ?_ ?_
          · change Phase start (Race.serve (.enqueue items) answer tasks.shared).1 _ _
            unfold Race.serve
            dsimp only
            split
            · exact tracks
            · exact tracks.enqueued items
          · change ∀ point, (Race.serve (.enqueue items) answer tasks.shared).2 = _ → _
            unfold Race.serve
            dsimp only
            intro _ rests
            split at rests <;> cases rests
          · change ∀ guarded, (Race.serve (.enqueue items) answer tasks.shared).2 = _ → _
            unfold Race.serve
            dsimp only
            intro _ rests
            split at rests <;> cases rests

/-- One step, in which the current item is put back only where there is room. -/
theorem Tracks.step (tracks : Tracks start tasks) {label : RaceLabel}
    (possible : Program.Enabled tasks label) (once : Race.once tasks label = true)
    (spared : spare.allows tasks label = true) : Tracks start (program.next label tasks) := by
  rcases program.next_cases possible with ⟨request, answer, rfl, next⟩ |
    ⟨earlier, point, later, answer, rfl, split, next⟩ | ⟨guarded, rest, answer, rfl, first, next⟩
  · rw [next]
    exact tracks.call request answer once
  · rw [next]
    exact tracks.resume answer split
  · rw [next]
    exact tracks.serve answer first ((spare.allows_serve first).symm.trans spared)

end Race

/-- In every interleaving of a `playNow` and adds in which the current item is put back only
where there is room, a rejected `playNow` leaves the current item as it was and every item
queued; one that plays loses nothing and gains the video it looked up, if it was not there. -/
theorem playNow_loses_nothing {start finish : RaceTasks} (initial : raceSystem.Initial start)
    (run : (raceSystem.restrict fun tasks label => Race.spare.allows tasks label = true).Steps start
      finish) :
    (finish.shared.outcome = some .rejected →
      finish.shared.source = start.shared.source ∧
        finish.shared.queue.Perm (start.shared.queue ++ finish.shared.added)) ∧
    ∀ there video, finish.shared.outcome = some (.played there video) →
      finish.shared.videos.Perm (start.shared.videos ++ Race.ids finish.shared.added ++
        if there then [] else [video]) := by
  obtain ⟨race, ⟨fresh, free, none⟩, rfl⟩ := initial
  have begins : Race.Tracks race { shared := race } := by
    refine .waiting fresh free ⟨rfl, ?_⟩
    rw [none, List.append_nil]
  have tracks : Race.Tracks race finish := by
    refine TransitionSystem.Steps.relates (Race.Tracks race) begins ?_ run
    rintro before label after _ tracks ⟨spared, once, possible, rfl⟩
    exact tracks.step possible once spared
  unfold Race.Tracks at tracks
  generalize points : finish.ready.filter RacePoint.plays = held at tracks
  generalize sections : finish.waiting.filter RaceSection.plays = line at tracks
  constructor
  · intro rejected
    cases tracks with
    | rejected asked ended kept => exact ⟨kept.source, kept.queue⟩
    | _ => simp_all
  · intro there video played
    cases tracks with
    | settled asked ended accounts =>
        rw [played] at ended
        cases ended
        exact accounts
    | _ => simp_all

namespace Sample

def songOf (id : String) : QueueItem where
  service := .youtube
  id := id

def songRequest (id : String) : VideoAdd where
  service := .youtube
  id := id

/-- Two items wait. -/
def listening : RaceTasks :=
  { shared := { source := some (songOf "a"), queue := [songOf "b", songOf "v"] } }

/-- The last one is played at once, and an add comes in between. -/
def playLast : List RaceLabel :=
  [.call (.add (songRequest "x")) {}, .call (.playNow (songRequest "v")) {},
    .resume 0 { found := some (songOf "x") }, .serve {}, .serve {},
    .resume 0 { position := .fin 30 }, .serve {}, .resume 0 {}]

/-- One item is missing to a full queue. -/
def crowded : RaceTasks :=
  { shared :=
      { source := some (songOf "a")
        queue := songOf "v" :: (List.range 198).map fun number => songOf (toString number) } }

/-- Two adds pass the check of the cap; the second one fills the place of the item that is to
be played. -/
def playCrowded : List RaceLabel :=
  [.call (.add (songRequest "x")) {}, .call (.add (songRequest "y")) {},
    .resume 0 { found := some (songOf "x") }, .serve {}, .call (.playNow (songRequest "v")) {},
    .resume 0 { found := some (songOf "y") }, .serve {}, .serve {},
    .resume 0 { position := .fin 30 }, .serve {}]

end Sample

/-- The current item is on top of the queue, and the others are there. -/
theorem playNow_loses_nothing_played :
    (TransitionSystem.run Race.program.next Sample.playLast Sample.listening).shared.videos.Perm
      (Sample.listening.shared.videos ++ [(Sample.songOf "x").toVideoId]) := by
  have run : (raceSystem.restrict fun tasks label => Race.spare.allows tasks label = true).Steps
      Sample.listening (TransitionSystem.run Race.program.next Sample.playLast Sample.listening) := by
    have taken : TransitionSystem.runs Race.program.next (fun tasks label =>
        Program.Enabled tasks label ∧ Race.once tasks label = true ∧
          Race.spare.allows tasks label = true) Sample.playLast Sample.listening = true := by
      decide +kernel
    refine TransitionSystem.steps_run ?_ _ _ taken
    rintro tasks label ⟨possible, once, spared⟩
    exact ⟨spared, once, possible, rfl⟩
  have outcome : (TransitionSystem.run Race.program.next Sample.playLast
      Sample.listening).shared.outcome = some (.played true ⟨.youtube, "v"⟩) := by decide +kernel
  have added : (TransitionSystem.run Race.program.next Sample.playLast
      Sample.listening).shared.added = [Sample.songOf "x"] := by decide +kernel
  have kept := (playNow_loses_nothing ⟨_, ⟨rfl, rfl, rfl⟩, rfl⟩ run).2 _ _ outcome
  rw [added, if_pos rfl, List.append_nil] at kept
  exact kept

/-- The push is refused: the item that was to be played is in the queue no more, and the
current one starts somewhere else. -/
theorem playNow_loses_item :
    raceSystem.Initial Sample.crowded ∧
    raceSystem.Steps Sample.crowded
      (TransitionSystem.run Race.program.next Sample.playCrowded Sample.crowded) ∧
    (TransitionSystem.run Race.program.next Sample.playCrowded Sample.crowded).shared.outcome =
      some .rejected ∧
    Sample.songOf "v" ∈ Sample.crowded.shared.queue ∧
    Sample.songOf "v" ∉
      (TransitionSystem.run Race.program.next Sample.playCrowded Sample.crowded).shared.queue ∧
    (TransitionSystem.run Race.program.next Sample.playCrowded Sample.crowded).shared.source ≠
      Sample.crowded.shared.source := by
  have run : raceSystem.Steps Sample.crowded
      (TransitionSystem.run Race.program.next Sample.playCrowded Sample.crowded) :=
    Race.program.steps_run (fun race => race.asked = false ∧ race.outcome = none ∧ race.added = [])
      (fun tasks label => Race.once tasks label = true) Sample.playCrowded Sample.crowded
      (by decide +kernel)
  exact ⟨⟨_, ⟨rfl, rfl, rfl⟩, rfl⟩, run, by decide +kernel, by decide +kernel, by decide +kernel,
    by decide +kernel⟩

end OpenTogetherTube
