import OpenTogetherTube.Edge.Extras
import OpenTogetherTube.Edge.Holdings

/-!
# Edge rooms: updates of one queue item

An `UpdateQueueItemRequest` is resolved against the queue outside the serial section of the
room object and applied in a later one, so two of them may both be resolved against the same
item. What the second writes then is its own copy of the item, with the properties the first
has changed in the meantime.
-/

namespace OpenTogetherTube.Edge

open Lib Lib.Handler

namespace RoomState

/-- `queue.find(video => sameVideo(video, command.video))`. -/
def queued (video : VideoId) (room : RoomState) : Option QueueItem :=
  room.snapshot.queue.find? fun item => sameVideo (some item.toVideoId) (some video)

/-- The queue with another item in the place of the video. -/
def replaced (video : VideoId) (item : QueueItem) (room : RoomState) : List QueueItem :=
  match room.findInQueue video with
  | some index => room.snapshot.queue.set index item
  | none => room.snapshot.queue

end RoomState

/-- `resolve`, of an `UpdateQueueItemRequest`. -/
def resolveUpdate (mediaUrl : MediaUrl) (video : VideoId) (patch : ItemPatch)
    (room : RoomState) : Except ApiError QueueItem :=
  match room.queued video with
  | none => .error RoomState.notInQueue
  | some existing => applyExtras mediaUrl existing (patch.onto existing)

/-- An `UpdateQueueItemRequest` of a member, for a given video. -/
structure UpdateCall where
  member : Member
  patch : ItemPatch
  host : Host

namespace UpdateCall

/-- The command. -/
def command (video : VideoId) (call : UpdateCall) : Command :=
  .updateQueueItem video call.patch.update

/-- The first part: check the permission and resolve. -/
def start (mediaUrl : MediaUrl) (video : VideoId) (call : UpdateCall) (room : RoomState) :
    Except ApiError QueueItem :=
  match (RoomState.checkCommand (call.command video) call.member).outcome room with
  | .ok () => resolveUpdate mediaUrl video call.patch room
  | .error error => .error error

/-- The second part: apply what was resolved. -/
def finish (jsonBytes : QueueItem → Nat) (video : VideoId) (call : UpdateCall)
    (resolved : QueueItem) (room : RoomState) : RoomState :=
  (RoomState.apply jsonBytes call.host (call.command video) call.member [resolved]).after room

end UpdateCall

/-- The two updates. -/
inductive Updater where
  | first
  | second
deriving DecidableEq

/-- The room, and what each of the updates was resolved to, once it was. -/
structure Updating where
  room : RoomState
  resolved : Updater → Option (Except ApiError QueueItem) := fun _ => none

namespace Updating

/-- The next part of one of the updates. An update that was refused has none. -/
def step (jsonBytes : QueueItem → Nat) (mediaUrl : MediaUrl) (video : VideoId)
    (calls : Updater → UpdateCall) (state : Updating) (who : Updater) : Updating :=
  match state.resolved who with
  | none => { state with
      resolved := fun other =>
        if other = who then some ((calls who).start mediaUrl video state.room)
        else state.resolved other }
  | some (.ok item) => { state with room := (calls who).finish jsonBytes video item state.room }
  | some (.error _) => state

/-- The item that is in the queue once the parts of the updates have run in this order. -/
def result (jsonBytes : QueueItem → Nat) (mediaUrl : MediaUrl) (video : VideoId)
    (calls : Updater → UpdateCall) (room : RoomState) (schedule : List Updater) :
    Option QueueItem :=
  (schedule.foldl (step jsonBytes mediaUrl video calls) { room }).room.queued video

end Updating

/-! ### One item -/

namespace RoomState

/-- A room like `base`, with `item` in the place of the video. -/
structure Bears (base : RoomState) (index : Nat) (item : QueueItem) (room : RoomState) : Prop where
  queue : room.snapshot.queue = base.snapshot.queue.set index item
  currentSource : room.snapshot.currentSource = base.snapshot.currentSource
  access : room.snapshot.toAccess = base.snapshot.toAccess

/-- The place of the first item with the video. -/
structure PlaceOf (base : RoomState) (video : VideoId) (index : Nat) : Prop where
  inside : index < base.snapshot.queue.length
  earliest : ∀ j (earlier : j < index), base.snapshot.queue[j].toVideoId ≠ video

variable {base room : RoomState} {video : VideoId} {index : Nat} {item : QueueItem}

theorem sameVideo_some {a b : VideoId} : sameVideo (some a) (some b) = true ↔ a = b := by
  simp [sameVideo]

theorem place_of_queued (found : base.queued video = some item) :
    item.toVideoId = video ∧ ∃ index, PlaceOf base video index ∧ base.Bears index item base := by
  unfold queued at found
  obtain ⟨same, index, inside, rfl, earlier⟩ := List.find?_eq_some_iff_getElem.mp found
  refine ⟨sameVideo_some.mp same, index, ⟨inside, fun j before equal => ?_⟩, ?_, rfl, rfl⟩
  · have missed := earlier j before
    rw [sameVideo_some.mpr equal] at missed
    cases missed
  · exact (List.set_getElem_self inside).symm

theorem PlaceOf.found (place : PlaceOf base video index) (holds : base.Bears index item room)
    (video' : item.toVideoId = video) :
    room.findInQueue video = some index ∧ room.queued video = some item := by
  have inside : index < room.snapshot.queue.length := by
    rw [holds.queue, List.length_set]
    exact place.inside
  have here : room.snapshot.queue[index] = item := by
    simp only [holds.queue, List.getElem_set_self]
  have before (j : Nat) (earlier : j < index) :
      sameVideo (some room.snapshot.queue[j].toVideoId) (some video) = false := by
    rw [Bool.eq_false_iff]
    intro same
    refine place.earliest j earlier (Eq.trans ?_ (sameVideo_some.mp same))
    simp only [holds.queue, List.getElem_set_ne (Nat.ne_of_gt earlier)]
  constructor
  · refine List.findIdx?_eq_some_iff_getElem.mpr ⟨inside, ?_, ?_⟩
    · rw [here, sameVideo_some]
      exact video'
    · intro j earlier
      rw [before j earlier]
      nofun
  · refine List.find?_eq_some_iff_getElem.mpr ⟨?_, index, inside, here, ?_⟩
    · rw [sameVideo_some]
      exact video'
    · intro j earlier
      rw [before j earlier]
      rfl

instance (jsonBytes : QueueItem → Nat) (queue : List QueueItem) (current : Option QueueItem) :
    Decidable (Fits jsonBytes queue current) :=
  inferInstanceAs (Decidable (_ ∧ _))

theorem checkQueueSize_outcome {jsonBytes : QueueItem → Nat} (queue : List QueueItem)
    (current : Option QueueItem) (fits : Fits jsonBytes queue current) :
    (checkQueueSize jsonBytes queue current).outcome room = .ok () := by
  unfold checkQueueSize
  rw [if_neg]
  · rfl
  · push Not
    exact fits

theorem updateQueueItem_made {jsonBytes : QueueItem → Nat} (resolved : QueueItem)
    (found : room.findInQueue video = some index) :
    (Fits jsonBytes (room.snapshot.queue.modify index fun old => old.spread resolved)
        room.snapshot.currentSource →
      (updateQueueItem jsonBytes video [resolved]).after room =
        (room.withQueue (room.snapshot.queue.modify index fun old => old.spread resolved)).mark
          [.queue]) ∧
    (¬Fits jsonBytes (room.snapshot.queue.modify index fun old => old.spread resolved)
        room.snapshot.currentSource →
      (updateQueueItem jsonBytes video [resolved]).after room = room) := by
  unfold updateQueueItem
  rw [after_get_bind, found]
  dsimp only [List.head?_cons]
  rw [after_bind, checkQueueSize_inspects _ _ _ _]
  constructor
  · intro fits
    rw [checkQueueSize_outcome _ _ fits]
    rfl
  · intro full
    split
    · rename_i passed
      exact absurd (fits_of_checkQueueSize passed) full
    · rfl

theorem can_of_access (same : room.snapshot.toAccess = base.snapshot.toAccess)
    (session : GuestSession) (permission : Permission) :
    room.can session permission = base.can session permission := by
  have grants : room.snapshot.grants = base.snapshot.grants := congrArg Access.grants same
  unfold can RoomState.grants
  rw [role_of_access same, grants]

theorem checkCommand_outcome (call : UpdateCall) :
    ((checkCommand (call.command video) call.member).outcome room = .ok ()) ↔
      room.can call.member.session .queueEdit = true := by
  unfold UpdateCall.command checkCommand
  change (check call.member.session .queueEdit).outcome room = .ok () ↔ _
  unfold check
  rw [outcome_get_bind]
  split
  · rename_i allowed
    exact ⟨fun _ => allowed, fun _ => rfl⟩
  · rename_i denied
    exact ⟨nofun, fun allowed => absurd allowed denied⟩

section Applying

variable {jsonBytes : QueueItem → Nat} {call : UpdateCall} {resolved made : QueueItem}

/-- The event changes nothing about the item. -/
theorem Bears.finish (allowed : room.can call.member.session .queueEdit = true)
    (holds : base.Bears index made ((updateQueueItem jsonBytes video [resolved]).after room)) :
    base.Bears index made (call.finish jsonBytes video resolved room) := by
  unfold UpdateCall.finish apply
  rw [after_bind, checkCommand_inspects _ _ _, (checkCommand_outcome call).mpr allowed]
  dsimp only
  change base.Bears index made (after (updateQueueItem jsonBytes video [resolved] >>= _) room)
  rw [after_bind]
  split
  · split
    · exact ⟨holds.queue, holds.currentSource, holds.access⟩
    · exact holds
  · exact holds

theorem finish_denied (denied : ¬room.can call.member.session .queueEdit = true) :
    call.finish jsonBytes video resolved room = room := by
  unfold UpdateCall.finish apply
  rw [after_bind, checkCommand_inspects _ _ _]
  split
  · rename_i passed
    exact absurd ((checkCommand_outcome call).mp passed) denied
  · rfl

theorem PlaceOf.modify (place : PlaceOf base video index) (holds : base.Bears index item room)
    (change : QueueItem → QueueItem) :
    room.snapshot.queue.modify index change = base.snapshot.queue.set index (change item) := by
  have inside := place.inside
  rw [holds.queue]
  apply List.ext_getElem?
  intro j
  rw [List.getElem?_modify, List.getElem?_set, List.getElem?_set]
  by_cases here : index = j
  · simp [here, here ▸ inside]
  · simp [here]

/-- An update writes its copy over the item when it is allowed and the queue takes it. -/
theorem finish_made (place : PlaceOf base video index) (holds : base.Bears index item room)
    (named : item.toVideoId = video)
    (allowed : base.can call.member.session .queueEdit = true)
    (fits : Fits jsonBytes (base.snapshot.queue.set index (item.spread resolved))
      base.snapshot.currentSource) :
    base.Bears index (item.spread resolved) (call.finish jsonBytes video resolved room) := by
  have queue := place.modify holds fun old => old.spread resolved
  have made := (@updateQueueItem_made _ _ _ jsonBytes resolved (place.found holds named).1).1
  rw [queue, holds.currentSource] at made
  refine Bears.finish ((can_of_access holds.access _ _).trans allowed) ?_
  rw [made fits]
  exact ⟨rfl, holds.currentSource, holds.access⟩

/-- Else it leaves the item as it is. -/
theorem finish_refused (place : PlaceOf base video index) (holds : base.Bears index item room)
    (named : item.toVideoId = video)
    (refused : ¬(base.can call.member.session .queueEdit = true ∧
      Fits jsonBytes (base.snapshot.queue.set index (item.spread resolved))
        base.snapshot.currentSource)) :
    base.Bears index item (call.finish jsonBytes video resolved room) := by
  by_cases allowed : room.can call.member.session .queueEdit = true
  · have queue := place.modify holds fun old => old.spread resolved
    have kept :=
      (@updateQueueItem_made _ _ _ jsonBytes resolved (place.found holds named).1).2
    rw [queue, holds.currentSource] at kept
    refine Bears.finish allowed ?_
    rw [kept fun fits => refused ⟨(can_of_access holds.access _ _).symm.trans allowed, fits⟩]
    exact holds
  · rw [finish_denied allowed]
    exact holds

end Applying

end RoomState

/-! ### Updates of one item -/

/-- What the updates are made of: the room before them, how it counts bytes and reads URLs,
the video they name, and the two calls. -/
structure UpdateScene where
  jsonBytes : QueueItem → Nat
  mediaUrl : MediaUrl
  video : VideoId
  room : RoomState
  calls : Updater → UpdateCall

namespace UpdateScene

variable (scene : UpdateScene)

/-- What the update gives. -/
def gifts (who : Updater) : Gifts := (scene.calls who).patch.gifts scene.mediaUrl

/-- The member may edit queue items. -/
def Allowed (who : Updater) : Prop :=
  scene.room.can (scene.calls who).member.session .queueEdit = true

/-- The update is allowed, and `applyExtras` takes it on `item`. -/
def Resolves (who : Updater) (item : QueueItem) : Prop :=
  scene.Allowed who ∧ item.Accepts scene.mediaUrl (scene.calls who).patch

/-- `checkQueueSize` passes with `item` in the place of the video. -/
def HasSpace (item : QueueItem) : Prop :=
  RoomState.Fits scene.jsonBytes (scene.room.replaced scene.video item)
    scene.room.snapshot.currentSource

/-- The update is carried out on `item`, with nothing in between. -/
def Carried (who : Updater) (item : QueueItem) : Prop :=
  scene.Resolves who item ∧ scene.HasSpace (item.give (scene.gifts who))

instance (who : Updater) : Decidable (scene.Allowed who) :=
  inferInstanceAs (Decidable (_ = true))

instance (who : Updater) (item : QueueItem) : Decidable (scene.Resolves who item) :=
  inferInstanceAs (Decidable (_ ∧ _))

instance (item : QueueItem) : Decidable (scene.HasSpace item) :=
  inferInstanceAs (Decidable (RoomState.Fits _ _ _))

instance (who : Updater) (item : QueueItem) : Decidable (scene.Carried who item) :=
  inferInstanceAs (Decidable (_ ∧ _))

/-- What the update resolves to on `item`. -/
def resolved (who : Updater) (item : QueueItem) : Option QueueItem :=
  if scene.Resolves who item then some (item.give (scene.gifts who)) else none

/-- The item after a resolved update was applied. -/
def written (who : Updater) (copy item : QueueItem) : QueueItem :=
  if scene.Allowed who ∧ scene.HasSpace (item.spread copy) then item.spread copy else item

/-- The item, and what each update resolved to once it did. -/
structure Cell where
  item : QueueItem
  read : Updater → Option (Option QueueItem) := fun _ => none

/-- The next part of an update, on the item alone. -/
def Cell.step (scene : UpdateScene) (cell : Cell) (who : Updater) : Cell :=
  match cell.read who with
  | none => { cell with
      read := fun other =>
        if other = who then some (scene.resolved who cell.item) else cell.read other }
  | some (some copy) => { cell with item := scene.written who copy cell.item }
  | some none => cell

/-- The cell says what the room and the updates hold. -/
structure Matches (item : QueueItem) (index : Nat) (cell : Cell) (state : Updating) : Prop where
  bears : scene.room.Bears index cell.item state.room
  version : item.Version scene.mediaUrl cell.item
  read : ∀ who, (state.resolved who).map Except.toOption = cell.read who
  copies : ∀ who copy, cell.read who = some (some copy) → item.Version scene.mediaUrl copy

variable {scene} {item version : QueueItem} {index : Nat} {cell : Cell} {state : Updating}

theorem toVideoId_of_version (made : item.Version scene.mediaUrl version) :
    version.toVideoId = item.toVideoId := by
  obtain ⟨_, _, _, rfl⟩ := made.rest
  rfl

theorem start_resolved {who : Updater} (place : scene.room.PlaceOf scene.video index)
    (bears : scene.room.Bears index version state.room) (named : version.toVideoId = scene.video)
    (formed : version.WellFormed scene.mediaUrl) :
    ((scene.calls who).start scene.mediaUrl scene.video state.room).toOption =
      scene.resolved who version := by
  have same := RoomState.can_of_access bears.access (scene.calls who).member.session .queueEdit
  unfold UpdateCall.start resolved
  split
  · rename_i passed
    have allowed : scene.Allowed who :=
      same.symm.trans ((RoomState.checkCommand_outcome _).mp passed)
    unfold resolveUpdate
    rw [(place.found bears named).2]
    dsimp only
    split
    · rename_i resolves
      rw [(applyExtras_onto formed).mpr ⟨resolves.2, rfl⟩]
      rfl
    · rename_i refused
      cases made : applyExtras scene.mediaUrl version ((scene.calls who).patch.onto version) with
      | error error => rfl
      | ok item => exact absurd ⟨allowed, ((applyExtras_onto formed).mp made).1⟩ refused
  · rename_i error denied
    rw [if_neg]
    · rfl
    · intro resolves
      have passed := (@RoomState.checkCommand_outcome state.room scene.video
        (scene.calls who)).mpr (same.trans resolves.1)
      rw [passed] at denied
      cases denied

/-- An update is applied as `written` says. -/
theorem finish_written {who : Updater} {copy : QueueItem}
    (place : scene.room.PlaceOf scene.video index)
    (found : scene.room.Bears index item scene.room) (itself : item.toVideoId = scene.video)
    (bears : scene.room.Bears index version state.room) (named : version.toVideoId = scene.video) :
    scene.room.Bears index (scene.written who copy version)
      ((scene.calls who).finish scene.jsonBytes scene.video copy state.room) := by
  have space : scene.HasSpace (version.spread copy) ↔
      RoomState.Fits scene.jsonBytes (scene.room.snapshot.queue.set index (version.spread copy))
        scene.room.snapshot.currentSource := by
    unfold HasSpace RoomState.replaced
    rw [(place.found found itself).1]
  unfold written
  split
  · rename_i carried
    exact RoomState.finish_made place bears named carried.1 (space.mp carried.2)
  · rename_i refused
    rw [space] at refused
    exact RoomState.finish_refused place bears named refused

theorem Matches.step (formed : item.WellFormed scene.mediaUrl)
    (place : scene.room.PlaceOf scene.video index)
    (found : scene.room.Bears index item scene.room) (itself : item.toVideoId = scene.video)
    (same : scene.Matches item index cell state) (who : Updater) :
    scene.Matches item index (cell.step scene who)
      (state.step scene.jsonBytes scene.mediaUrl scene.video scene.calls who) := by
  have named := (toVideoId_of_version same.version).trans itself
  have read := same.read who
  unfold Updating.step Cell.step
  cases before : state.resolved who with
  | none =>
      have unread : cell.read who = none := by rw [← read, before]; rfl
      have resolves : ((scene.calls who).start scene.mediaUrl scene.video state.room).toOption =
          scene.resolved who cell.item :=
        start_resolved place same.bears named same.version.formed
      rw [unread]
      refine ⟨same.bears, same.version, fun other => ?_, fun other copy known => ?_⟩
      · dsimp only
        split
        · exact congrArg some resolves
        · exact same.read other
      · dsimp only at known
        split at known
        · unfold resolved at known
          split at known
          · rename_i taken
            cases known
            exact same.version.give taken.2
          · cases known
        · exact same.copies other copy known
  | some outcome =>
      cases outcome with
      | error error =>
          have refused : cell.read who = some none := by rw [← read, before]; rfl
          rw [refused]
          exact same
      | ok copy =>
          have known : cell.read who = some (some copy) := by rw [← read, before]; rfl
          have made : item.Version scene.mediaUrl (scene.written who copy cell.item) := by
            unfold written
            split
            · exact same.version.spread formed.keys (same.copies who copy known)
            · exact same.version
          rw [known]
          exact ⟨finish_written place found itself same.bears named, made, same.read, same.copies⟩

/-! ### The item a schedule leaves -/

variable (scene)

/-- The item once the parts of the updates have run in this order. -/
def result (schedule : List Updater) : Option QueueItem :=
  Updating.result scene.jsonBytes scene.mediaUrl scene.video scene.calls scene.room schedule

/-- The item after an update of its own. -/
def updated (who : Updater) (item : QueueItem) : QueueItem :=
  match scene.resolved who item with
  | some copy => scene.written who copy item
  | none => item

/-- The item after both updates were resolved on it, and applied `a` before `b`. -/
def stale (a b : Updater) (item : QueueItem) : QueueItem :=
  match scene.resolved b item with
  | some copy => scene.written b copy (scene.updated a item)
  | none => scene.updated a item

/-- One update after the other. -/
def firstThenSecond : List Updater := [.first, .first, .second, .second]

def secondThenFirst : List Updater := [.second, .second, .first, .first]

variable {scene}

theorem result_eq (queued : scene.room.queued scene.video = some item)
    (formed : item.WellFormed scene.mediaUrl) (schedule : List Updater) :
    scene.result schedule = some (schedule.foldl (Cell.step scene) { item }).item := by
  obtain ⟨itself, index, place, found⟩ := RoomState.place_of_queued queued
  have run (cell : Cell) (state : Updating) (same : scene.Matches item index cell state) :
      scene.Matches item index (schedule.foldl (Cell.step scene) cell)
        (schedule.foldl (Updating.step scene.jsonBytes scene.mediaUrl scene.video scene.calls)
          state) := by
    induction schedule generalizing cell state with
    | nil => exact same
    | cons who rest ih =>
        exact ih _ _ (same.step formed place found itself who)
  have final := run { item } { room := scene.room }
    ⟨found, formed.version, fun _ => rfl, fun _ _ known => by cases known⟩
  exact (place.found final.bears ((toVideoId_of_version final.version).trans itself)).2

/-- The orders the parts of two updates can come in. -/
theorem schedule_orders {schedule : List Updater} (merges : schedule.Perm firstThenSecond) :
    schedule = firstThenSecond ∨ schedule = secondThenFirst ∨
      schedule = [.first, .second, .first, .second] ∨
      schedule = [.second, .first, .first, .second] ∨
      schedule = [.first, .second, .second, .first] ∨
      schedule = [.second, .first, .second, .first] := by
  have length := merges.length_eq
  have count := merges.count_eq Updater.first
  match schedule, length with
  | [a, b, c, d], _ =>
      revert count
      cases a <;> cases b <;> cases c <;> cases d <;> decide

/-- Both parts of an update that nothing comes between. -/
theorem step_step (who : Updater) (unread : cell.read who = none) :
    ((cell.step scene who).step scene who) =
      { item := scene.updated who cell.item
        read := fun other =>
          if other = who then some (scene.resolved who cell.item) else cell.read other } := by
  unfold updated
  cases made : scene.resolved who cell.item <;> simp [Cell.step, unread, made]

/-- The items the orders leave. -/
theorem schedule_cases {schedule : List Updater} (merges : schedule.Perm firstThenSecond) :
    (schedule = firstThenSecond ∧ (schedule.foldl (Cell.step scene) { item }).item =
        scene.updated .second (scene.updated .first item)) ∨
      (schedule = secondThenFirst ∧ (schedule.foldl (Cell.step scene) { item }).item =
        scene.updated .first (scene.updated .second item)) ∨
      (schedule ≠ firstThenSecond ∧ schedule ≠ secondThenFirst ∧
        (schedule.getLast? = some .second ∧ (schedule.foldl (Cell.step scene) { item }).item =
            scene.stale .first .second item ∨
          schedule.getLast? = some .first ∧ (schedule.foldl (Cell.step scene) { item }).item =
            scene.stale .second .first item)) := by
  rcases schedule_orders merges with rfl | rfl | rfl | rfl | rfl | rfl
  · refine Or.inl ⟨rfl, ?_⟩
    change (((Cell.step scene ((Cell.step scene { item } .first).step scene .first) .second).step
      scene .second).item) = _
    rw [step_step .first rfl, step_step .second rfl]
  · refine Or.inr (Or.inl ⟨rfl, ?_⟩)
    change (((Cell.step scene ((Cell.step scene { item } .second).step scene .second) .first).step
      scene .first).item) = _
    rw [step_step .second rfl, step_step .first rfl]
  · refine Or.inr (Or.inr ⟨by decide, by decide, Or.inl ⟨rfl, ?_⟩⟩)
    cases first : scene.resolved .first item <;> cases second : scene.resolved .second item <;>
      simp [Cell.step, updated, stale, first, second]
  · refine Or.inr (Or.inr ⟨by decide, by decide, Or.inl ⟨rfl, ?_⟩⟩)
    cases first : scene.resolved .first item <;> cases second : scene.resolved .second item <;>
      simp [Cell.step, updated, stale, first, second]
  · refine Or.inr (Or.inr ⟨by decide, by decide, Or.inr ⟨rfl, ?_⟩⟩)
    cases first : scene.resolved .first item <;> cases second : scene.resolved .second item <;>
      simp [Cell.step, updated, stale, first, second]
  · refine Or.inr (Or.inr ⟨by decide, by decide, Or.inr ⟨rfl, ?_⟩⟩)
    cases first : scene.resolved .first item <;> cases second : scene.resolved .second item <;>
      simp [Cell.step, updated, stale, first, second]

/-! ### When overlapping updates are serial -/

theorem updated_carried {who : Updater} (keys : (item.metadata.map Prod.fst).Nodup)
    (carried : scene.Carried who item) :
    scene.updated who item = item.give (scene.gifts who) := by
  unfold updated resolved
  rw [if_pos carried.1]
  dsimp only
  unfold written
  rw [QueueItem.spread_give keys, if_pos ⟨carried.1.1, carried.2⟩]

theorem updated_refused {who : Updater} (keys : (item.metadata.map Prod.fst).Nodup)
    (refused : ¬scene.Carried who item) : scene.updated who item = item := by
  unfold updated resolved
  split
  · rename_i copy made
    split at made
    · rename_i resolves
      cases made
      unfold written
      rw [QueueItem.spread_give keys, if_neg fun passed => refused ⟨resolves, passed.2⟩]
    · cases made
  · rfl

/-- One of the updates leaves the item in order, or it was before. -/
theorem updated_inOrder_iff (keys : (item.metadata.map Prod.fst).Nodup) (who : Updater) :
    (scene.updated who item).InOrder ↔ item.InOrder ∨ scene.Carried who item := by
  by_cases carried : scene.Carried who item
  · rw [updated_carried keys carried]
    exact iff_of_true carried.1.2.ordered.inOrder (Or.inr carried)
  · rw [updated_refused keys carried]
    exact (or_iff_left carried).symm

variable (scene) in
/-- Both updates were resolved on `item` and `a` was applied before `b`, and the outcome is
that of one after the other: one of them is refused on `item` itself; or the copy of `b`
fits in, and what `a` alone gives is not overwritten, or is in a copy that `a` is refused on;
or the copy of `b` does not fit in, and `b` adds nothing or is refused on another version
too. -/
def Explained (a b : Updater) (item : QueueItem) : Prop :=
  ¬scene.Carried a item ∨ ¬scene.Resolves b item ∨
    scene.HasSpace ((item.give (scene.gifts a)).spread (item.give (scene.gifts b))) ∧
      (item.Leaves (scene.gifts a) (scene.gifts b) ∧
          (scene.Carried b (item.give (scene.gifts a)) ∨
            (item.give (scene.gifts a)).give (scene.gifts b) = item.give (scene.gifts a)) ∨
        scene.Carried b item ∧
          (item.Leaves (scene.gifts a) (scene.gifts b) ∧ (scene.gifts a).Agree (scene.gifts b) ∧
              scene.Carried a (item.give (scene.gifts b)) ∨
            item.Hides (scene.gifts a) (scene.gifts b) ∧
              ¬scene.Carried a (item.give (scene.gifts b)))) ∨
    ¬scene.HasSpace ((item.give (scene.gifts a)).spread (item.give (scene.gifts b))) ∧
      (¬scene.Carried b (item.give (scene.gifts a)) ∨ ¬scene.Carried b item ∨
        item.Repeats (scene.gifts a) (scene.gifts b))

section Explaining

variable {a b : Updater}

/-- An update that is carried out is carried out after one that repeats what is there. -/
theorem Carried.of_repeats (carried : scene.Carried a item)
    (repeats : item.Repeats (scene.gifts a) (scene.gifts b)) :
    scene.Carried a (item.give (scene.gifts b)) := by
  refine ⟨⟨carried.1.1, carried.1.2.of_repeats repeats⟩, ?_⟩
  rw [QueueItem.give_back.mpr repeats]
  exact carried.2

/-- The copy of `b`, over the item that `a` left. -/
theorem stale_carried (carried : scene.Carried a item) (keys : (item.metadata.map Prod.fst).Nodup)
    (resolves : scene.Resolves b item) :
    scene.stale a b item =
      if scene.HasSpace ((item.give (scene.gifts a)).spread (item.give (scene.gifts b))) then
        (item.give (scene.gifts a)).spread (item.give (scene.gifts b))
      else item.give (scene.gifts a) := by
  unfold stale resolved
  rw [if_pos resolves]
  dsimp only
  rw [updated_carried keys carried]
  unfold written
  simp only [resolves.1, true_and]

/-- The copy of `b` fits in: when it is what one of the serial orders leaves. -/
theorem spread_serial_iff (keys : (item.metadata.map Prod.fst).Nodup)
    (carried : scene.Carried a item) :
    ((item.give (scene.gifts a)).spread (item.give (scene.gifts b)) =
        scene.updated b (item.give (scene.gifts a)) ∨
      (item.give (scene.gifts a)).spread (item.give (scene.gifts b)) =
        scene.updated a (scene.updated b item)) ↔
    item.Leaves (scene.gifts a) (scene.gifts b) ∧
        (scene.Carried b (item.give (scene.gifts a)) ∨
          (item.give (scene.gifts a)).give (scene.gifts b) = item.give (scene.gifts a)) ∨
      scene.Carried b item ∧
        (item.Leaves (scene.gifts a) (scene.gifts b) ∧ (scene.gifts a).Agree (scene.gifts b) ∧
            scene.Carried a (item.give (scene.gifts b)) ∨
          item.Hides (scene.gifts a) (scene.gifts b) ∧
            ¬scene.Carried a (item.give (scene.gifts b))) := by
  have keysA : ((item.give (scene.gifts a)).metadata.map Prod.fst).Nodup := keys
  have keysB : ((item.give (scene.gifts b)).metadata.map Prod.fst).Nodup := keys
  have inPlace := @QueueItem.stale_eq_first item (scene.gifts a) (scene.gifts b) keys
  have aThenB : (item.give (scene.gifts a)).spread (item.give (scene.gifts b)) =
        scene.updated b (item.give (scene.gifts a)) ↔
      item.Leaves (scene.gifts a) (scene.gifts b) ∧
        (scene.Carried b (item.give (scene.gifts a)) ∨
          (item.give (scene.gifts a)).give (scene.gifts b) = item.give (scene.gifts a)) := by
    by_cases after : scene.Carried b (item.give (scene.gifts a))
    · rw [updated_carried keysA after, QueueItem.stale_eq_both keys]
      exact ⟨fun leaves => ⟨leaves, Or.inl after⟩, And.left⟩
    · rw [updated_refused keysA after, inPlace]
      exact and_congr_right' (or_iff_right after).symm
  rw [aThenB]
  by_cases alone : scene.Carried b item
  · refine or_congr_right ?_
    rw [updated_carried keys alone]
    by_cases back : scene.Carried a (item.give (scene.gifts b))
    · rw [updated_carried keysB back, QueueItem.stale_eq_reverse keys]
      constructor
      · rintro ⟨leaves, agree⟩
        exact ⟨alone, Or.inl ⟨leaves, agree, back⟩⟩
      · rintro ⟨_, ⟨leaves, agree, _⟩ | ⟨_, refused⟩⟩
        · exact ⟨leaves, agree⟩
        · exact absurd back refused
    · rw [updated_refused keysB back, QueueItem.stale_eq_second keys]
      constructor
      · intro hides
        exact ⟨alone, Or.inr ⟨hides, back⟩⟩
      · rintro ⟨_, ⟨_, _, taken⟩ | ⟨hides, _⟩⟩
        · exact absurd taken back
        · exact hides
  · rw [updated_refused keys alone, updated_carried keys carried, inPlace]
    constructor
    · rintro (serial | ⟨leaves, same⟩)
      · exact Or.inl serial
      · exact Or.inl ⟨leaves, Or.inr same⟩
    · rintro (serial | ⟨taken, _⟩)
      · exact Or.inl serial
      · exact absurd taken alone

/-- The copy of `b` does not fit in, so the item stays as `a` left it. -/
theorem kept_serial_iff (keys : (item.metadata.map Prod.fst).Nodup)
    (carried : scene.Carried a item)
    (full : ¬scene.HasSpace ((item.give (scene.gifts a)).spread (item.give (scene.gifts b)))) :
    (item.give (scene.gifts a) = scene.updated b (item.give (scene.gifts a)) ∨
      item.give (scene.gifts a) = scene.updated a (scene.updated b item)) ↔
    ¬scene.Carried b (item.give (scene.gifts a)) ∨ ¬scene.Carried b item ∨
      item.Repeats (scene.gifts a) (scene.gifts b) := by
  have keysA : ((item.give (scene.gifts a)).metadata.map Prod.fst).Nodup := keys
  have keysB : ((item.give (scene.gifts b)).metadata.map Prod.fst).Nodup := keys
  have aThenB : item.give (scene.gifts a) = scene.updated b (item.give (scene.gifts a)) ↔
      ¬scene.Carried b (item.give (scene.gifts a)) ∨
        (item.give (scene.gifts a)).give (scene.gifts b) = item.give (scene.gifts a) := by
    by_cases after : scene.Carried b (item.give (scene.gifts a))
    · rw [updated_carried keysA after]
      exact ⟨fun same => Or.inr same.symm, fun same => (same.resolve_left (not_not.mpr after)).symm⟩
    · rw [updated_refused keysA after]
      exact iff_of_true rfl (Or.inl after)
  rw [aThenB]
  have repeats := @QueueItem.repeats_of_give item (scene.gifts a) (scene.gifts b)
  by_cases alone : scene.Carried b item
  · rw [updated_carried keys alone]
    by_cases back : scene.Carried a (item.give (scene.gifts b))
    · rw [updated_carried keysB back, @eq_comm _ (item.give (scene.gifts a))
        ((item.give (scene.gifts b)).give (scene.gifts a)), QueueItem.give_back]
      constructor
      · rintro ((refused | same) | again)
        · exact Or.inl refused
        · exact Or.inr (Or.inr (repeats same))
        · exact Or.inr (Or.inr again)
      · rintro (refused | refused | again)
        · exact Or.inl (Or.inl refused)
        · exact absurd alone refused
        · exact Or.inr again
    · rw [updated_refused keysB back]
      have different : item.give (scene.gifts a) ≠ item.give (scene.gifts b) := by
        intro same
        have space := alone.2
        rw [← same] at space
        rw [← same, QueueItem.spread_self keysA] at full
        exact full space
      have unlike : ¬item.Repeats (scene.gifts a) (scene.gifts b) :=
        fun again => back (carried.of_repeats again)
      constructor
      · rintro ((refused | same) | same)
        · exact Or.inl refused
        · exact absurd (repeats same) unlike
        · exact absurd same different
      · rintro (refused | refused | again)
        · exact Or.inl (Or.inl refused)
        · exact absurd alone refused
        · exact absurd again unlike
  · rw [updated_refused keys alone, updated_carried keys carried]
    exact iff_of_true (Or.inr rfl) (Or.inr (Or.inl alone))

/-- When the outcome is that of one update after the other. -/
theorem stale_serial_iff (keys : (item.metadata.map Prod.fst).Nodup) :
    (scene.stale a b item = scene.updated b (scene.updated a item) ∨
      scene.stale a b item = scene.updated a (scene.updated b item)) ↔
    scene.Explained a b item := by
  unfold Explained
  by_cases first : scene.Carried a item
  · by_cases second : scene.Resolves b item
    · rw [stale_carried first keys second, updated_carried keys first]
      split
      · rename_i space
        rw [spread_serial_iff keys first]
        constructor
        · intro serial
          exact Or.inr (Or.inr (Or.inl ⟨space, serial⟩))
        · rintro (refused | refused | ⟨_, serial⟩ | ⟨full, _⟩)
          · exact absurd first refused
          · exact absurd second refused
          · exact serial
          · exact absurd space full
      · rename_i full
        rw [kept_serial_iff keys first full]
        constructor
        · intro serial
          exact Or.inr (Or.inr (Or.inr ⟨full, serial⟩))
        · rintro (refused | refused | ⟨space, _⟩ | ⟨_, serial⟩)
          · exact absurd first refused
          · exact absurd second refused
          · exact absurd space full
          · exact serial
    · have alone : ¬scene.Carried b item := fun carried => second carried.1
      have kept : scene.stale a b item = scene.updated a item := by
        unfold stale resolved
        rw [if_neg second]
      refine iff_of_true (Or.inr ?_) (Or.inr (Or.inl second))
      rw [kept, updated_refused keys alone]
  · have kept : scene.stale a b item = scene.updated b (scene.updated a item) := by
      unfold stale
      rw [updated_refused keys first]
      rfl
    exact iff_of_true (Or.inl kept) (Or.inl first)

/-- Two updates, one after the other, leave an item in order when one of them is carried out
or the item was in order. -/
theorem serial_inOrder_iff (keys : (item.metadata.map Prod.fst).Nodup) :
    (scene.updated b (scene.updated a item)).InOrder ↔
      item.InOrder ∨ scene.Carried a item ∨ scene.Carried b item := by
  by_cases first : scene.Carried a item
  · have keysA : ((item.give (scene.gifts a)).metadata.map Prod.fst).Nodup := keys
    rw [updated_carried keys first, updated_inOrder_iff keysA]
    exact iff_of_true (Or.inl first.1.2.ordered.inOrder) (Or.inr (Or.inl first))
  · rw [updated_refused keys first, updated_inOrder_iff keys]
    exact or_congr_right (or_iff_right first).symm

end Explaining

variable (scene) in
/-- The updates come out as if run one after the other: the item is the one a serial order
leaves; updates of different properties that are carried out in either order both show in
it; and it does not end before it starts. -/
structure Serialises (item : QueueItem) (schedule : List Updater) : Prop where
  serial : scene.result schedule = scene.result firstThenSecond ∨
    scene.result schedule = scene.result secondThenFirst
  survive : (scene.gifts .first).Disjoint (scene.gifts .second) →
    scene.Carried .first item → scene.Carried .second (item.give (scene.gifts .first)) →
    scene.Carried .second item → scene.Carried .first (item.give (scene.gifts .second)) →
    scene.result schedule = some ((item.give (scene.gifts .first)).give (scene.gifts .second))
  inOrder : ∀ last, scene.result schedule = some last → last.InOrder

variable (scene) in
/-- The parts of the updates do not overlap, or their overlap is explained. -/
def Untangled (item : QueueItem) (schedule : List Updater) : Prop :=
  schedule = firstThenSecond ∨ schedule = secondThenFirst ∨
    schedule.getLast? = some .second ∧ scene.Explained .first .second item ∨
    schedule.getLast? = some .first ∧ scene.Explained .second .first item

variable {schedule : List Updater}

/-- What the serial orders leave. -/
theorem result_serial (queued : scene.room.queued scene.video = some item)
    (formed : item.WellFormed scene.mediaUrl) :
    scene.result firstThenSecond = some (scene.updated .second (scene.updated .first item)) ∧
      scene.result secondThenFirst = some (scene.updated .first (scene.updated .second item)) := by
  rw [result_eq queued formed, result_eq queued formed]
  refine ⟨congrArg some ?_, congrArg some ?_⟩
  · rcases @schedule_cases scene item _ (List.Perm.refl firstThenSecond) with
      ⟨_, left⟩ | ⟨other, _⟩ | ⟨other, _⟩
    · exact left
    · exact absurd other (by decide)
    · exact absurd rfl other
  · have merges : secondThenFirst.Perm firstThenSecond := by decide
    rcases @schedule_cases scene item _ merges with
      ⟨other, _⟩ | ⟨_, left⟩ | ⟨_, other, _⟩
    · exact absurd other (by decide)
    · exact left
    · exact absurd rfl other

theorem serial_iff (queued : scene.room.queued scene.video = some item)
    (formed : item.WellFormed scene.mediaUrl) (merges : schedule.Perm firstThenSecond) :
    (scene.result schedule = scene.result firstThenSecond ∨
      scene.result schedule = scene.result secondThenFirst) ↔ scene.Untangled item schedule := by
  obtain ⟨forward, backward⟩ := result_serial queued formed
  have made := result_eq queued formed schedule
  unfold Untangled
  rcases @schedule_cases scene item _ merges with
    ⟨rfl, left⟩ | ⟨rfl, left⟩ | ⟨notForward, notBackward, last⟩
  · exact iff_of_true (Or.inl rfl) (Or.inl rfl)
  · exact iff_of_true (Or.inr rfl) (Or.inr (Or.inl rfl))
  · rw [forward, backward, made, Option.some.injEq, Option.some.injEq]
    rcases last with ⟨last, left⟩ | ⟨last, left⟩
    · rw [left, stale_serial_iff formed.keys, last]
      simp [notForward, notBackward]
    · rw [left, or_comm, stale_serial_iff formed.keys, last]
      simp [notForward, notBackward]

/-- Two updates of one queue item, in any order of their parts, come out serial and in order
exactly when they are untangled and the item was in order or one of them is carried out. -/
theorem updates_serialise_iff (queued : scene.room.queued scene.video = some item)
    (formed : item.WellFormed scene.mediaUrl) (merges : schedule.Perm firstThenSecond) :
    scene.Serialises item schedule ↔
      scene.Untangled item schedule ∧
        (item.InOrder ∨ scene.Carried .first item ∨ scene.Carried .second item) := by
  obtain ⟨forward, backward⟩ := result_serial queued formed
  have inOrder (serial : scene.result schedule = scene.result firstThenSecond ∨
      scene.result schedule = scene.result secondThenFirst) :
      (∀ last, scene.result schedule = some last → last.InOrder) ↔
        item.InOrder ∨ scene.Carried .first item ∨ scene.Carried .second item := by
    rcases serial with same | same
    · rw [same, forward, ← serial_inOrder_iff formed.keys]
      simp
    · rw [same, backward, or_comm (a := scene.Carried .first item),
        ← serial_inOrder_iff formed.keys]
      simp
  constructor
  · rintro ⟨serial, _, ordered⟩
    exact ⟨(serial_iff queued formed merges).mp serial, (inOrder serial).mp ordered⟩
  · rintro ⟨untangled, ordered⟩
    have serial := (serial_iff queued formed merges).mpr untangled
    refine ⟨serial, ?_, (inOrder serial).mpr ordered⟩
    intro disjoint first second second' first'
    have keysF : ((item.give (scene.gifts .first)).metadata.map Prod.fst).Nodup := formed.keys
    have keysS : ((item.give (scene.gifts .second)).metadata.map Prod.fst).Nodup := formed.keys
    rcases serial with same | same
    · rw [same, forward, updated_carried formed.keys first, updated_carried keysF second]
    · rw [same, backward, updated_carried formed.keys second', updated_carried keysS first',
        QueueItem.give_comm disjoint]

/-! ### Two updates at once -/

/-- URLs that are written as they are given. -/
def plainUrls : MediaUrl where
  href url := if url.startsWith "https://" then .ok url else
    .error { status := 400, message := "请输入完整的视频链接。" }
  nonempty := by
    intro value text parsed
    split at parsed
    · rename_i secure
      rw [← Except.ok.inj parsed]
      rintro rfl
      revert secure
      decide +kernel
    · cases parsed
  stable := by
    intro value text again _ parsed
    split at parsed
    · exact (Except.ok.inj parsed).symm
    · cases parsed

/-- A video that waits in the queue. -/
def trailer : QueueItem where
  service := .direct
  id := "https://example.com/trailer.mp4"
  length := .value 120

/-- Ann starts a clip and lets the video wait. -/
def waitingSteps (item : QueueItem) : List Step :=
  [⟨{ now := 1000 }, .join ann⟩,
    ⟨{ now := 2000 }, .request "a" (.add none none (some "videos")) [clip, item]⟩]

def waitingObject (item : QueueItem) : RoomObject :=
  RoomObject.after (fun _ => 100) (waitingSteps item) (RoomObject.create smallOptions annSession 0)

/-- Two updates of the waiting item by Ann. -/
def atOnce (item : QueueItem) (first second : ItemPatch) : UpdateScene where
  jsonBytes _ := 100
  mediaUrl := plainUrls
  video := item.toVideoId
  room := (waitingObject item).room
  calls
    | .first => { member := ann, patch := first, host := { now := 3000 } }
    | .second => { member := ann, patch := second, host := { now := 3000 } }

/-- Both resolved, then both applied. -/
def bothThenBoth : List Updater := [.first, .second, .first, .second]

/-- The item has neither property yet, so the start and the end both show. -/
theorem updates_serialise_fresh :
    (atOnce trailer { startAt := .value 10 } { endAt := .value 60 }).Serialises trailer
      bothThenBoth := by
  refine (updates_serialise_iff (by decide +kernel) ⟨by decide, fun _ there => by cases there⟩ (by decide)).mpr ⟨?_, ?_⟩
  · refine Or.inr (Or.inr (Or.inl ⟨rfl, Or.inr (Or.inr (Or.inl ⟨by decide +kernel, Or.inl ?_⟩))⟩))
    exact ⟨⟨Or.inr (Or.inr (Or.inl rfl)), Or.inl rfl, Or.inl rfl⟩, Or.inl (by decide +kernel)⟩
  · exact Or.inr (Or.inl (by decide +kernel))

/-- The start one viewer sets and the end the other sets do not fit together, and neither is
refused. -/
theorem updates_cross :
    ¬∀ (scene : UpdateScene) (object : RoomObject) (item : QueueItem) (schedule : List Updater),
      (RoomObject.system scene.jsonBytes).Reachable object → scene.room = object.room →
      scene.room.queued scene.video = some item → item.WellFormed scene.mediaUrl →
      schedule.Perm firstThenSecond → scene.Serialises item schedule := by
  intro claimed
  have run := @RoomObject.reachable_after (fun _ => 100) smallOptions annSession 0
    (waitingSteps trailer) (by decide +kernel)
  have queued : (atOnce trailer { startAt := .value 60 } { endAt := .value 50 }).room.queued
      trailer.toVideoId = some trailer := by decide +kernel
  have formed : trailer.WellFormed plainUrls := ⟨by decide, fun _ there => by cases there⟩
  have holds := claimed (atOnce trailer { startAt := .value 60 } { endAt := .value 50 })
    (waitingObject trailer) trailer bothThenBoth run (by simp only [atOnce]) queued formed
    (by decide)
  have crossed : (atOnce trailer { startAt := .value 60 } { endAt := .value 50 }).result
      bothThenBoth = some (trailer.withExtras (.value 60) (.value 50) .missing) := by decide +kernel
  have ordered := holds.inOrder _ crossed 60 rfl 50 rfl
  revert ordered
  decide +kernel

-- A start that was there comes back over the one that was set.
example :
    (atOnce { trailer with startAt := .value 5 } { startAt := .value 10 }
        { endAt := .value 60 }).result bothThenBoth =
      some (trailer.withExtras (.value 5) (.value 60) .missing) := by
  decide +kernel

end UpdateScene

end OpenTogetherTube.Edge
