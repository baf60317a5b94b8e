import Mathlib.Data.List.Perm.Basic
import OpenTogetherTube.Lib.Tasks
import OpenTogetherTube.Room.Queue

/-!
# The video queue under its lock

Embeds `VideoQueue` of `server/videoqueue.ts` with the gap that `Room.Queue` leaves out: a
call checks its arguments at once and does its work later, when the lock is its own. An
absent item (`null` or `undefined`) is `none`. Indices are integers, as the only caller of
`move` makes sure and as `evict` answers them.
-/

namespace OpenTogetherTube

open Lib

/-- A patch of `QueueItemExtras`: `some none` clears a field. -/
structure ExtrasPatch where
  startAt : Option (Option Number) := none
  endAt : Option (Option Number) := none
  subtitleUrl : Option (Option String) := none

/-- `Object.assign(item, patch)`. -/
def ExtrasPatch.assign (patch : ExtrasPatch) (item : QueueItem) : QueueItem :=
  { item with
    startAt := patch.startAt.getD item.startAt
    endAt := patch.endAt.getD item.endAt
    subtitleUrl := patch.subtitleUrl.getD item.subtitleUrl }

/-- A call of one of the queue's methods. -/
inductive QueueCall where
  | enqueue (videos : List (Option QueueItem))
  | enqueueOverflow (videos : List (Option QueueItem))
  | pushTop (videos : List (Option QueueItem))
  | insert (video : Option QueueItem) (index : Int)
  | move (fromIdx toIdx : Int)
  | evict (video : VideoId)
  | update (video : VideoId) (patch : ExtrasPatch)
  | dequeue
  | orderBy (precedes : QueueItem → QueueItem → Bool)
  | shuffle

/-- A `move` that returned, with the items it found and those it left. -/
structure MoveDone where
  fromIdx : Int
  toIdx : Int
  found : List (Option QueueItem)
  left : List (Option QueueItem)
deriving DecidableEq

/-- The moved item sits where it was to go, and the items are those there were. -/
structure MoveDone.Right (move : MoveDone) : Prop where
  perm : move.left.Perm move.found
  placed : move.left[move.toIdx.toNat]? = move.found[move.fromIdx.toNat]?

structure VideoQueue where
  items : List (Option QueueItem) := []
  /-- History: the moves that returned. -/
  moves : List MoveDone := []
deriving DecidableEq

/-- What `_.shuffle` does this time. -/
structure Shuffling where
  arrange : List (Option QueueItem) → List (Option QueueItem)
  perm : ∀ items, (arrange items).Perm items

namespace VideoQueue

/-- The constructor. -/
def new (items : List (Option QueueItem)) : VideoQueue := { items := items.filter Option.isSome }

def isAllVideos (items : List (Option QueueItem)) : Bool := items.all Option.isSome

/-- The check of the calls that add a list of videos: whether the lock is asked for. -/
def checkVideos (videos : List (Option QueueItem)) : Except RoomError Bool :=
  if videos.isEmpty then .ok false
  else if !isAllVideos videos then .error (.error "Cannot enqueue null or undefined items")
  else .ok true

/-- What a call checks before it asks for the lock, and whether it does. -/
def check (call : QueueCall) (items : List (Option QueueItem)) : Except RoomError Bool :=
  match call with
  | .enqueue videos | .enqueueOverflow videos | .pushTop videos => checkVideos videos
  | .insert video index =>
      if index < 0 ∨ index > items.length then .error (.error "Index out of bounds")
      else if video.isNone then .error (.error "Cannot enqueue null or undefined items")
      else .ok true
  | .move fromIdx toIdx =>
      if fromIdx = toIdx then .ok false
      else if fromIdx < 0 ∨ fromIdx ≥ items.length then
        .error (.error "'fromIdx' out of bounds")
      else if toIdx < 0 ∨ toIdx ≥ items.length then .error (.error "'toIdx' out of bounds")
      else .ok true
  | .evict _ | .update _ _ | .dequeue | .orderBy _ | .shuffle => .ok true

/-- `findIndex`, which reads the service of each item on the way. -/
def findIndex (video : VideoId) : List (Option QueueItem) → Except RoomError (Option Nat)
  | [] => .ok none
  | none :: _ => .error (.error "Cannot read properties of undefined")
  | some item :: rest =>
      if item.toVideoId = video then .ok (some 0)
      else (findIndex video rest).map fun index => index.map (· + 1)

/-- `this._items.splice(fromIdx, 1)[0]`, put back with `splice(toIdx, 0, item)`. -/
def moveItem (fromIdx toIdx : Nat) (items : List (Option QueueItem)) : List (Option QueueItem) :=
  let rest := items.eraseIdx fromIdx
  rest.take toIdx ++ items[fromIdx]?.join :: rest.drop toIdx

/-- Apply `change` at the video's place. -/
def atVideo (video : VideoId) (items : List (Option QueueItem))
    (change : Nat → List (Option QueueItem)) : Except RoomError (List (Option QueueItem)) :=
  match findIndex video items with
  | .error error => .error error
  | .ok none => .error .videoNotFound
  | .ok (some index) => .ok (change index)

/-- What a call does once the lock is its own. -/
def body (call : QueueCall) (shuffling : Shuffling) (items : List (Option QueueItem)) :
    Except RoomError (List (Option QueueItem)) :=
  match call with
  | .enqueue videos =>
      if items.length + videos.length > MAX_QUEUE_ITEMS then .error Room.queueFull
      else .ok (items ++ videos)
  | .enqueueOverflow videos => .ok (items ++ videos)
  | .pushTop videos =>
      if items.length + videos.length > MAX_QUEUE_ITEMS then .error Room.queueFull
      else .ok (videos ++ items)
  | .insert video index =>
      if items.length + 1 > MAX_QUEUE_ITEMS then .error Room.queueFull
      else .ok (items.take index.toNat ++ video :: items.drop index.toNat)
  | .move fromIdx toIdx => .ok (moveItem fromIdx.toNat toIdx.toNat items)
  | .evict video => atVideo video items fun index => items.eraseIdx index
  | .update video patch => atVideo video items fun index =>
      items.modify index fun item => item.map patch.assign
  | .dequeue => .ok items.tail
  | .orderBy precedes =>
      if isAllVideos items then
        .ok (items.mergeSort fun first second =>
          match first, second with
          | some first, some second => precedes first second
          | _, _ => true)
      else .error (.error "Cannot read properties of undefined")
  | .shuffle => .ok (shuffling.arrange items)

/-- A call that returned; only moves are remembered. -/
def returned (call : QueueCall) (left : List (Option QueueItem)) (queue : VideoQueue) : VideoQueue :=
  match call with
  | .move fromIdx toIdx =>
      { items := left, moves := ⟨fromIdx, toIdx, queue.items, left⟩ :: queue.moves }
  | _ => { queue with items := left }

/-- The queue as tasks: each call is one section under the lock. -/
def program : Program VideoQueue QueueCall Shuffling Empty QueueCall where
  call call _ queue :=
    match check call queue.items with
    | .ok true => (queue, .locked call)
    | .ok false => (queue.returned call queue.items, .done)
    | .error _ => (queue, .done)
  resume point _ _ := nomatch point
  serve call shuffling queue :=
    match body call shuffling queue.items with
    | .ok items => (queue.returned call items, .done)
    | .error _ => (queue, .done)

/-- Every interleaving of calls, on any new queue. -/
def calls : TransitionSystem (Tasks VideoQueue Empty QueueCall) (TaskLabel QueueCall Shuffling) :=
  program.system fun queue => ∃ items, queue = new items

/-- When the first section in line is a move, both its indices are still in range. -/
def movesInRange (tasks : Tasks VideoQueue Empty QueueCall) (label : TaskLabel QueueCall Shuffling) :
    Bool :=
  match label, tasks.waiting with
  | .serve _, .move fromIdx toIdx :: _ =>
      decide (fromIdx < tasks.shared.items.length ∧ toIdx < tasks.shared.items.length)
  | _, _ => true

/-- No slot of the list is empty. -/
def Solid (items : List (Option QueueItem)) : Prop := none ∉ items

/-- What a call that waits for the lock has passed. -/
def Checked : QueueCall → Prop
  | .enqueue videos | .enqueueOverflow videos | .pushTop videos => Solid videos
  | .insert video _ => video ≠ none
  | .move fromIdx toIdx => 0 ≤ fromIdx ∧ 0 ≤ toIdx
  | _ => True

theorem solid_of_isAllVideos {items : List (Option QueueItem)} (all : isAllVideos items = true) :
    Solid items := by
  intro hole
  have present := List.all_eq_true.mp all none hole
  cases present

theorem checked_of_check {call : QueueCall} {items : List (Option QueueItem)}
    (passed : check call items = .ok true) : Checked call := by
  have videos : ∀ videos, checkVideos videos = .ok true → Solid videos := by
    intro videos passed
    unfold checkVideos at passed
    split at passed
    · cases passed
    · split at passed
      · cases passed
      · rename_i all
        exact solid_of_isAllVideos (by simpa using all)
  cases call with
  | enqueue given => exact videos given passed
  | enqueueOverflow given => exact videos given passed
  | pushTop given => exact videos given passed
  | insert video index =>
      unfold check at passed
      dsimp only at passed
      split at passed
      · cases passed
      · split at passed
        · cases passed
        · rename_i present
          simpa [Checked] using present
  | move fromIdx toIdx =>
      unfold check at passed
      dsimp only at passed
      split at passed
      · cases passed
      · split at passed
        · cases passed
        · rename_i source
          split at passed
          · cases passed
          · rename_i target
            unfold Checked
            omega
  | _ => exact trivial

/-- A move within range. -/
theorem moveItem_right {fromIdx toIdx : Nat} {items : List (Option QueueItem)}
    (source : fromIdx < items.length) (target : toIdx < items.length) :
    (moveItem fromIdx toIdx items).Perm items ∧
      (moveItem fromIdx toIdx items)[toIdx]? = items[fromIdx]? := by
  have item : items[fromIdx]?.join = items[fromIdx] := by
    rw [List.getElem?_eq_getElem source]
    rfl
  have length : (items.eraseIdx fromIdx).length = items.length - 1 :=
    List.length_eraseIdx_of_lt source
  refine ⟨?_, ?_⟩
  · have back : (moveItem fromIdx toIdx items).Perm (items[fromIdx]?.join ::
        ((items.eraseIdx fromIdx).take toIdx ++ (items.eraseIdx fromIdx).drop toIdx)) :=
      List.perm_middle
    rw [item, List.take_append_drop] at back
    exact back.trans (List.getElem_cons_eraseIdx_perm source)
  · have before : ((items.eraseIdx fromIdx).take toIdx).length = toIdx := by
      rw [List.length_take]
      omega
    unfold moveItem
    dsimp only
    rw [List.getElem?_append_right before.le, before, Nat.sub_self, List.getElem?_cons_zero,
      List.getElem?_eq_getElem source]
    rfl

theorem solid_of_atVideo {video : VideoId} {items left : List (Option QueueItem)}
    {change : Nat → List (Option QueueItem)} (done : atVideo video items change = .ok left)
    (solid : ∀ index, Solid (change index)) : Solid left := by
  unfold atVideo at done
  split at done
  · cases done
  · cases done
  · cases done
    exact solid _

/-- What a call that passed its checks leaves has no empty slot, a move within range too. -/
theorem solid_of_body {call : QueueCall} {shuffling : Shuffling}
    {items left : List (Option QueueItem)} (solid : Solid items) (checked : Checked call)
    (inRange : ∀ fromIdx toIdx, call = .move fromIdx toIdx → fromIdx < items.length ∧
      toIdx < items.length)
    (done : body call shuffling items = .ok left) : Solid left := by
  have joined : ∀ first second : List (Option QueueItem), Solid first → Solid second →
      Solid (first ++ second) := by
    intro first second left right hole
    rcases List.mem_append.mp hole with hole | hole
    · exact left hole
    · exact right hole
  cases call with
  | enqueue videos =>
      unfold body at done
      dsimp only at done
      split at done
      · cases done
      · cases done
        exact joined _ _ solid checked
  | enqueueOverflow videos =>
      cases done
      exact joined _ _ solid checked
  | pushTop videos =>
      unfold body at done
      dsimp only at done
      split at done
      · cases done
      · cases done
        exact joined _ _ checked solid
  | insert video index =>
      unfold body at done
      dsimp only at done
      split at done
      · cases done
      · cases done
        intro hole
        rcases List.mem_append.mp hole with hole | hole
        · exact solid (List.mem_of_mem_take hole)
        · rcases List.mem_cons.mp hole with absent | hole
          · exact checked absent.symm
          · exact solid (List.mem_of_mem_drop hole)
  | move fromIdx toIdx =>
      cases done
      obtain ⟨source, target⟩ := inRange fromIdx toIdx rfl
      obtain ⟨fromNat, toNat⟩ := checked
      have perm := (@moveItem_right fromIdx.toNat toIdx.toNat items (by omega) (by omega)).1
      exact fun hole => solid (perm.mem_iff.mp hole)
  | evict video =>
      exact solid_of_atVideo done fun index hole => solid (List.mem_of_mem_eraseIdx hole)
  | update video patch =>
      refine solid_of_atVideo done fun index hole => ?_
      obtain ⟨place, found⟩ := List.mem_iff_getElem?.mp hole
      rw [List.getElem?_modify, Option.map_eq_map, Option.map_eq_some_iff] at found
      obtain ⟨item, there, gone⟩ := found
      have absent : item = none := by
        split at gone
        · exact Option.map_eq_none_iff.mp gone
        · exact gone
      rw [absent] at there
      exact solid (List.mem_of_getElem? there)
  | dequeue =>
      cases done
      exact fun hole => solid (List.mem_of_mem_tail hole)
  | orderBy precedes =>
      unfold body at done
      dsimp only at done
      split at done
      · cases done
        exact fun hole => solid ((List.mergeSort_perm _ _).mem_iff.mp hole)
      · cases done
  | shuffle =>
      cases done
      exact fun hole => solid ((shuffling.perm items).mem_iff.mp hole)

/-- What holds of a queue and of the calls in line. -/
structure Sound (tasks : Tasks VideoQueue Empty QueueCall) : Prop where
  solid : Solid tasks.shared.items
  right : ∀ move ∈ tasks.shared.moves, move.Right
  checked : ∀ call ∈ tasks.waiting, Checked call

/-- A call that returns from a list without empty slots to another. -/
theorem returned_sound {call : QueueCall} {queue : VideoQueue} {left : List (Option QueueItem)}
    (solid : Solid left) (right : ∀ move ∈ queue.moves, move.Right)
    (moved : ∀ fromIdx toIdx, call = .move fromIdx toIdx →
      (MoveDone.mk fromIdx toIdx queue.items left).Right) :
    Solid (queue.returned call left).items ∧
      ∀ move ∈ (queue.returned call left).moves, move.Right := by
  cases call with
  | move fromIdx toIdx =>
      refine ⟨solid, ?_⟩
      intro move member
      rcases List.mem_cons.mp member with rfl | old
      · exact moved fromIdx toIdx rfl
      · exact right move old
  | _ => exact ⟨solid, right⟩

theorem Sound.call {tasks : Tasks VideoQueue Empty QueueCall} (sound : Sound tasks)
    (call : QueueCall) (shuffling : Shuffling) :
    Sound (tasks.park (program.call call shuffling tasks.shared)) := by
  unfold program
  dsimp only
  split
  · rename_i passed
    refine ⟨sound.solid, sound.right, ?_⟩
    intro other member
    rcases (Tasks.mem_park_waiting _ _).mp member with old | new
    · exact sound.checked other old
    · cases new
      exact checked_of_check passed
  · rename_i passed
    have same : ∀ fromIdx toIdx, call = .move fromIdx toIdx →
        (MoveDone.mk fromIdx toIdx tasks.shared.items tasks.shared.items).Right := by
      rintro fromIdx toIdx rfl
      refine ⟨List.Perm.refl _, ?_⟩
      unfold check at passed
      dsimp only at passed
      split at passed
      · rename_i equal
        rw [equal]
      · split at passed
        · cases passed
        · split at passed <;> cases passed
    obtain ⟨solid, right⟩ := returned_sound sound.solid sound.right same
    exact ⟨solid, right, sound.checked⟩
  · exact ⟨sound.solid, sound.right, sound.checked⟩

theorem Sound.serve {tasks : Tasks VideoQueue Empty QueueCall} (sound : Sound tasks)
    {call : QueueCall} {rest : List QueueCall} (shuffling : Shuffling)
    (first : tasks.waiting = call :: rest) (inRange : movesInRange tasks (.serve shuffling) = true) :
    Sound ({ tasks with waiting := rest }.park (program.serve call shuffling tasks.shared)) := by
  have checked := sound.checked
  rw [first] at checked
  have ranged : ∀ fromIdx toIdx, call = .move fromIdx toIdx →
      fromIdx < tasks.shared.items.length ∧ toIdx < tasks.shared.items.length := by
    rintro fromIdx toIdx rfl
    unfold movesInRange at inRange
    rw [first] at inRange
    exact of_decide_eq_true inRange
  have others : ∀ other ∈ rest, Checked other := fun other member =>
    checked other (List.mem_cons_of_mem _ member)
  have own := checked call (List.mem_cons_self ..)
  unfold program
  dsimp only
  split
  · rename_i left done
    have moved : ∀ fromIdx toIdx, call = .move fromIdx toIdx →
        (MoveDone.mk fromIdx toIdx tasks.shared.items left).Right := by
      rintro fromIdx toIdx rfl
      cases done
      obtain ⟨source, target⟩ := ranged fromIdx toIdx rfl
      obtain ⟨fromNat, toNat⟩ := own
      obtain ⟨perm, placed⟩ :=
        @moveItem_right fromIdx.toNat toIdx.toNat tasks.shared.items (by omega) (by omega)
      exact ⟨perm, placed⟩
    obtain ⟨solid, right⟩ :=
      returned_sound (solid_of_body sound.solid own ranged done) sound.right moved
    exact ⟨solid, right, others⟩
  · exact ⟨sound.solid, sound.right, others⟩

/-- The queue is safe in every interleaving of calls in which a move runs only while its
indices are in range: no slot is ever empty, and each move that returned left a permutation
of the items it found with the moved one in its place. -/
theorem queue_is_safe {tasks : Tasks VideoQueue Empty QueueCall}
    (reachable : (calls.restrict fun tasks label => movesInRange tasks label = true).Reachable tasks) :
    none ∉ tasks.shared.items ∧ ∀ move ∈ tasks.shared.moves, move.left.Perm move.found ∧
      move.left[move.toIdx.toNat]? = move.found[move.fromIdx.toNat]? := by
  have invariant : TransitionSystem.Inductive
      (calls.restrict fun tasks label => movesInRange tasks label = true) Sound := by
    refine ⟨?_, ?_⟩
    · rintro start ⟨queue, ⟨items, rfl⟩, rfl⟩
      refine ⟨?_, ?_, ?_⟩
      · intro hole
        have present := (List.mem_filter.mp hole).2
        cases present
      · intro move member
        cases member
      · intro call member
        cases member
    · rintro before label after sound ⟨inRange, possible, rfl⟩
      rcases program.next_cases possible with ⟨call, answer, _, next⟩ |
        ⟨_, point, _, _, _, _, _⟩ | ⟨call, rest, answer, rfl, first, next⟩
      · rw [next]
        exact sound.call call answer
      · exact nomatch point
      · rw [next]
        exact sound.serve answer first inRange
  have sound := invariant.of_reachable reachable
  exact ⟨sound.solid, fun move member => ⟨(sound.right move member).perm,
    (sound.right move member).placed⟩⟩

section AtOnce

open Handler

/-- A call that finds the lock free. -/
def atOnce (call : QueueCall) (shuffling : Shuffling) (items : List (Option QueueItem)) :
    Except RoomError (List (Option QueueItem)) :=
  match check call items with
  | .ok true => body call shuffling items
  | .ok false => .ok items
  | .error error => .error error

/-- What a handler of the room makes of its queue. -/
def queueAfter {α : Type} (handler : RoomM α) (room : Room) :
    Except RoomError (List (Option QueueItem)) :=
  (handler.outcome room).map fun _ => (handler.after room).queue.map some

variable (shuffling : Shuffling) (room : Room)

theorem isAllVideos_map (videos : List QueueItem) : isAllVideos (videos.map some) = true := by
  unfold isAllVideos
  rw [List.all_map]
  exact List.all_eq_true.mpr fun _ _ => rfl

theorem checkVideos_map (video : QueueItem) (rest : List QueueItem) :
    checkVideos ((video :: rest).map some) = .ok true := by
  unfold checkVideos
  rw [isAllVideos_map]
  rfl

/-- With the lock free, `enqueue` does what the room's model of it does. -/
theorem enqueue_atOnce (videos : List QueueItem) :
    atOnce (.enqueue (videos.map some)) shuffling (room.queue.map some) =
      queueAfter (Room.enqueue videos) room := by
  cases videos with
  | nil => rfl
  | cons video rest =>
      have passed : check (.enqueue ((video :: rest).map some)) (room.queue.map some) = .ok true :=
        checkVideos_map video rest
      unfold atOnce queueAfter Room.enqueue
      rw [passed, outcome_get_bind, after_get_bind]
      unfold body
      simp only [List.length_map, List.isEmpty_cons, Bool.false_eq_true, if_false]
      split
      · rfl
      · rw [← List.map_append]
        rfl

theorem pushTop_atOnce (video : QueueItem) :
    atOnce (.pushTop [some video]) shuffling (room.queue.map some) =
      queueAfter (Room.pushTop video) room := by
  unfold atOnce queueAfter Room.pushTop
  rw [outcome_get_bind, after_get_bind]
  have passed : check (.pushTop [some video]) (room.queue.map some) = .ok true := rfl
  rw [passed]
  unfold body
  simp only [List.length_map, List.length_singleton]
  split <;> rfl

/-- An insertion within the list, as `splice` makes it. -/
theorem insertIdx_eq_take_drop {α : Type} (items : List α) (index : Nat) (item : α)
    (inside : index ≤ items.length) :
    items.insertIdx index item = items.take index ++ item :: items.drop index := by
  induction items generalizing index with
  | nil =>
      have first : index = 0 := Nat.le_zero.mp inside
      subst first
      rfl
  | cons head rest ih =>
      cases index with
      | zero => rfl
      | succ index =>
          rw [List.insertIdx_succ_cons, ih index (Nat.le_of_succ_le_succ inside)]
          rfl

/-- So does `move`. -/
theorem move_atOnce (fromIdx toIdx : Nat) :
    atOnce (.move fromIdx toIdx) shuffling (room.queue.map some) =
      queueAfter (Room.move fromIdx toIdx) room := by
  unfold atOnce queueAfter Room.move check
  rw [outcome_get_bind, after_get_bind]
  simp only [List.length_map, Int.natCast_inj]
  by_cases same : fromIdx = toIdx
  · rw [if_pos same, if_pos same]
    rfl
  · rw [if_neg same, if_neg same]
    by_cases source : fromIdx < room.queue.length
    · have item : room.queue[fromIdx]? = some room.queue[fromIdx] := List.getElem?_eq_getElem source
      rw [item, if_neg (by omega)]
      by_cases target : toIdx < room.queue.length
      · rw [if_neg (by omega)]
        dsimp only
        rw [if_neg (by omega)]
        have placed := insertIdx_eq_take_drop (room.queue.eraseIdx fromIdx) toIdx
          room.queue[fromIdx] (by rw [List.length_eraseIdx_of_lt source]; omega)
        change Except.ok (moveItem fromIdx toIdx (room.queue.map some)) = Except.ok
          (((room.queue.eraseIdx fromIdx).insertIdx toIdx room.queue[fromIdx]).map some)
        unfold moveItem
        dsimp only
        rw [placed, List.getElem?_map, item, List.eraseIdx_map, List.map_append, List.map_cons,
          List.map_take, List.map_drop]
        rfl
      · rw [if_pos (by omega)]
        dsimp only
        rw [if_pos (by omega)]
        rfl
    · rw [if_pos (by omega), List.getElem?_eq_none (by omega)]
      rfl

theorem findIndex_map (video : VideoId) (items : List QueueItem) :
    findIndex video (items.map some) =
      .ok (items.findIdx? fun item => decide (item.toVideoId = video)) := by
  induction items with
  | nil => rfl
  | cons item rest ih =>
      rw [List.map_cons, findIndex, List.findIdx?_cons, ih]
      by_cases same : item.toVideoId = video
      · rw [if_pos same, decide_eq_true same]
        rfl
      · rw [if_neg same, decide_eq_false same]
        rfl

/-- So does `evict`. -/
theorem evict_atOnce (video : VideoId) :
    atOnce (.evict video) shuffling (room.queue.map some) = queueAfter (Room.evict video) room := by
  change atVideo video (room.queue.map some) _ = _
  unfold atVideo queueAfter Room.evict Room.findIndex
  rw [findIndex_map, outcome_get_bind, after_get_bind]
  cases found : room.queue.findIdx? fun item => decide (item.toVideoId = video) with
  | none => rfl
  | some index =>
      have inside : index < room.queue.length := (List.findIdx?_eq_some_iff_findIdx_eq.mp found).1
      dsimp only
      rw [List.getElem?_eq_getElem inside, List.eraseIdx_map]
      rfl

end AtOnce

end VideoQueue

namespace Sample

def itemOf (id : String) : QueueItem := { service := .youtube, id }

/-- Two queued items. -/
def pair : Tasks VideoQueue Empty QueueCall :=
  { shared := VideoQueue.new [some (itemOf "a"), some (itemOf "b")] }

def unshuffled : Shuffling := ⟨id, fun _ => .refl _⟩

/-- While an update holds the lock, a dequeue and a move are called, in this order. -/
def dequeueAndMove : List (TaskLabel QueueCall Shuffling) :=
  [.call (.update ⟨.youtube, "a"⟩ {}) unshuffled, .call .dequeue unshuffled,
    .call (.move 1 0) unshuffled, .serve unshuffled, .serve unshuffled, .serve unshuffled]

/-- The same in the other order. -/
def moveAndDequeue : List (TaskLabel QueueCall Shuffling) :=
  [.call (.update ⟨.youtube, "a"⟩ {}) unshuffled, .call (.move 1 0) unshuffled,
    .call .dequeue unshuffled, .serve unshuffled, .serve unshuffled, .serve unshuffled]

end Sample

namespace VideoQueue

/-- The move runs on a list that the dequeue has shortened, and fills a slot with nothing. -/
theorem stale_move_leaves_hole :
    calls.Reachable (TransitionSystem.run program.next Sample.dequeueAndMove Sample.pair) ∧
    none ∈ (TransitionSystem.run program.next Sample.dequeueAndMove Sample.pair).shared.items := by
  have run := program.steps_run (fun queue => ∃ items, queue = new items) (fun _ _ => True)
    Sample.dequeueAndMove Sample.pair (by decide +kernel)
  exact ⟨⟨Sample.pair, ⟨_, ⟨_, rfl⟩, rfl⟩, run.of_restrict⟩, by decide +kernel⟩

/-- In the other order the move finds both items. -/
theorem queue_is_safe_moved :
    (TransitionSystem.run program.next Sample.moveAndDequeue Sample.pair).shared.moves =
        [⟨1, 0, [some (Sample.itemOf "a"), some (Sample.itemOf "b")],
          [some (Sample.itemOf "b"), some (Sample.itemOf "a")]⟩] ∧
      none ∉ (TransitionSystem.run program.next Sample.moveAndDequeue Sample.pair).shared.items := by
  have run := program.steps_run (fun queue => ∃ items, queue = new items)
    (fun tasks label => movesInRange tasks label = true)
    Sample.moveAndDequeue Sample.pair (by decide +kernel)
  exact ⟨by decide +kernel, (queue_is_safe ⟨Sample.pair, ⟨_, ⟨_, rfl⟩, rfl⟩, run⟩).1⟩

end VideoQueue

end OpenTogetherTube
