import Mathlib.Algebra.Order.BigOperators.Group.List
import Mathlib.Algebra.Order.Group.Nat
import Mathlib.Data.List.Perm.Subperm
import OpenTogetherTube.Edge.Holdings

/-!
# Edge rooms: the queue bound

`checkQueueSize` looks at a list before the item that is to play leaves it, and no check is
made when a source ends. The bound outlasts these moves: they only move items between the
current source and the queue, or drop one.
-/

namespace OpenTogetherTube.Edge

open Lib Lib.Handler

/-- `JSON.stringify([current, ...queue])`, from the text of each item. -/
def stringify (text : QueueItem → String) (queue : List QueueItem)
    (current : Option QueueItem) : String :=
  "[" ++ String.intercalate "," ((current.map text).getD "null" :: queue.map text) ++ "]"

theorem utf8ByteSize_intercalate (first : String) (rest : List String) :
    (String.intercalate "," (first :: rest)).utf8ByteSize =
      first.utf8ByteSize + rest.length + (rest.map String.utf8ByteSize).sum := by
  induction rest generalizing first with
  | nil => simp
  | cons second rest ih =>
      have comma : ",".utf8ByteSize = 1 := by decide
      rw [String.intercalate_cons_cons, String.utf8ByteSize_append, String.utf8ByteSize_append,
        ih, comma, List.length_cons, List.map_cons, List.sum_cons]
      omega

namespace RoomState

/-- What is checked is the length of the text in UTF-8. -/
theorem utf8ByteSize_stringify (text : QueueItem → String) (queue : List QueueItem)
    (current : Option QueueItem) :
    (stringify text queue current).utf8ByteSize =
      queueBytes (fun item => (text item).utf8ByteSize) queue current := by
  have brackets : "[".utf8ByteSize = 1 ∧ "]".utf8ByteSize = 1 := by decide
  have first : ((current.map text).getD "null").utf8ByteSize =
      (current.map fun item => (text item).utf8ByteSize).getD 4 := by
    cases current with
    | none =>
        have null : "null".utf8ByteSize = 4 := by decide
        exact null
    | some item => rfl
  unfold stringify queueBytes
  rw [String.utf8ByteSize_append, String.utf8ByteSize_append, utf8ByteSize_intercalate, first,
    brackets.1, brackets.2, List.length_map, List.map_map]
  change 1 + ((current.map fun item => (text item).utf8ByteSize).getD 4 + queue.length +
    (queue.map fun item => (text item).utf8ByteSize).sum) + 1 = _
  omega

/-- The bytes of an entry and the comma or bracket after it. -/
def entryBytes (jsonBytes : QueueItem → Nat) (entry : Option QueueItem) : Nat :=
  (entry.map jsonBytes).getD 4 + 1

/-- The bytes as one sum over the entries of the array. -/
theorem queueBytes_eq_sum (jsonBytes : QueueItem → Nat) (queue : List QueueItem)
    (current : Option QueueItem) :
    queueBytes jsonBytes queue current =
      1 + ((current :: queue.map some).map (entryBytes jsonBytes)).sum := by
  have rest : ((queue.map some).map (entryBytes jsonBytes)).sum =
      queue.length + (queue.map jsonBytes).sum := by
    induction queue with
    | nil => rfl
    | cons item queue ih =>
        simp only [List.map_cons, List.sum_cons, ih, List.length_cons]
        unfold entryBytes
        simp only [Option.map_some, Option.getD_some]
        omega
  rw [List.map_cons, List.sum_cons, rest]
  unfold queueBytes entryBytes
  omega

section Bounds

variable {jsonBytes : QueueItem → Nat} {queue other : List QueueItem}
  {current next : Option QueueItem}

/-- Fewer entries in another order are within the bounds when the entries are. -/
theorem Fits.of_subperm (fits : Fits jsonBytes queue current)
    (among : (next :: other.map some).Subperm (current :: queue.map some)) :
    Fits jsonBytes other next := by
  obtain ⟨count, bytes⟩ := fits
  have fewer := among.length_le
  simp only [List.length_cons, List.length_map] at fewer
  refine ⟨by omega, ?_⟩
  rw [queueBytes_eq_sum] at bytes ⊢
  obtain ⟨entries, same, sub⟩ := among
  have lighter := (sub.map (entryBytes jsonBytes)).sum_le_sum fun _ _ => Nat.zero_le _
  have equal := (same.map (entryBytes jsonBytes)).sum_eq
  omega

theorem Fits.of_perm (fits : Fits jsonBytes queue current) (same : other.Perm queue) :
    Fits jsonBytes other current :=
  fits.of_subperm ((same.map some).cons current).subperm

theorem Fits.of_sublist (fits : Fits jsonBytes queue current) (sub : other.Sublist queue) :
    Fits jsonBytes other current :=
  fits.of_subperm ((sub.map some).cons_cons current).subperm

theorem fits_nil : Fits jsonBytes [] none := by
  unfold Fits queueBytes
  simp

end Bounds

/-- The room is within the bounds. -/
def WithinBound (jsonBytes : QueueItem → Nat) (room : RoomState) : Prop :=
  Fits jsonBytes room.snapshot.queue room.snapshot.currentSource

/-- Same current source, and the same items in the queue. -/
structure Rearranged (before after : RoomState) : Prop where
  queue : after.snapshot.queue.Perm before.snapshot.queue
  currentSource : after.snapshot.currentSource = before.snapshot.currentSource

theorem Still.rearranged {before after : RoomState} (same : Still before after) :
    Rearranged before after :=
  ⟨List.Perm.of_eq same.queue, same.currentSource⟩

theorem Rearranged.trans' {a b c : RoomState} (first : Rearranged a b) (second : Rearranged b c) :
    Rearranged a c :=
  ⟨second.queue.trans first.queue, second.currentSource.trans first.currentSource⟩

section Operations

variable (room : RoomState)

theorem rearranged_orderVotes : Rearranged room room.orderVotes := by
  unfold orderVotes
  split
  · exact ⟨List.mergeSort_perm _ _, rfl⟩
  · exact ⟨List.Perm.refl _, rfl⟩

/-- Whoever leaves takes only votes. -/
theorem rearranged_leave (id : ClientId) (host : Host) : Rearranged room (room.leave id host) := by
  unfold leave
  split
  · exact ⟨List.Perm.refl _, rfl⟩
  · rename_i member found
    dsimp only
    have without : Rearranged room (((((room.event .leave member
        (.user (room.info member))).removeMember id).push (.userRemove id)).dropVotes id)) :=
      ⟨List.Perm.refl _, rfl⟩
    exact (without.trans' (rearranged_orderVotes _)).trans'
      (((still_endGestureOf _ id host.now).trans' (still_dropPreparationOf _ id)).trans'
        (still_settleAfterLeave _ host)).rearranged

theorem start_queue (video : Option QueueItem) (now : Int) :
    (room.start video now).snapshot.queue = room.snapshot.queue :=
  ((still_clearTemporarySpeed room now).trans' (still_clearPreparation _)).queue

theorem start_currentSource (video : Option QueueItem) (now : Int) :
    (room.start video now).snapshot.currentSource = video :=
  rfl

/-- What is left of the queue, and the item that plays. -/
theorem next_entries (now : Int) :
    (room.next now).snapshot.queue = room.requeue.shift.2.snapshot.queue ∧
      (room.next now).snapshot.currentSource = room.requeue.shift.1 := by
  unfold next
  generalize room.requeue.shift = shifted
  obtain ⟨item, rest⟩ := shifted
  exact ⟨start_queue rest item now, start_currentSource rest item now⟩

/-- With the current source at its end, the queue is one of the entries there were. -/
theorem requeue_subperm : (room.requeue.snapshot.queue.map some).Subperm
    (room.snapshot.currentSource :: room.snapshot.queue.map some) := by
  unfold requeue
  split
  · rename_i source _ loop
    rw [loop]
    dsimp only
    rw [List.map_append]
    exact (@List.perm_append_comm _ (room.snapshot.queue.map some) [some source]).subperm
  · exact (List.sublist_cons_self _ _).subperm

end Operations

namespace WithinBound

variable {jsonBytes : QueueItem → Nat} {room after : RoomState}

variable (within : WithinBound jsonBytes room)

include within

theorem of_rearranged (change : Rearranged room after) :
    WithinBound jsonBytes after := by
  unfold WithinBound
  rw [change.currentSource]
  exact Fits.of_perm within change.queue

theorem still (same : Still room after) :
    WithinBound jsonBytes after :=
  within.of_rearranged same.rearranged

/-- The next item leaves the queue that has the current source at its end: the entries are
among those there were, unless none is left. -/
theorem next (now : Int) :
    WithinBound jsonBytes (room.next now) := by
  have among := requeue_subperm room
  unfold WithinBound
  rw [(next_entries room now).1, (next_entries room now).2]
  unfold shift
  split
  · rename_i nothing
    dsimp only
    rw [nothing]
    exact fits_nil
  · rename_i item rest queued
    rw [queued] at among
    exact Fits.of_subperm within among

theorem advanceIdle (now : Int) :
    WithinBound jsonBytes (room.advanceIdle now) := by
  unfold RoomState.advanceIdle
  split
  · exact within.next now
  · exact within

theorem tick (host : Host) :
    WithinBound jsonBytes (room.tick host) := by
  have expired := within.still (still_expire room host)
  unfold RoomState.tick
  dsimp only
  split
  · exact expired.next host.now
  · exact expired

omit within

theorem handled {host : Host} {member : Member} {command : Command}
    (within : WithinBound jsonBytes room)
    (change : Handled jsonBytes host member room command after) : WithinBound jsonBytes after := by
  cases change with
  | still made => exact within.still made
  | ordered first made =>
      exact ((within.still first).of_rearranged (rearranged_orderVotes _)).still made
  | votedToSkip made =>
      have voted : WithinBound jsonBytes (room.voteToSkip member) := within
      exact voted.still made
  | @skipped middle _ voted made =>
      have before : WithinBound jsonBytes middle := by
        rcases voted with rfl | rfl
        · exact within
        · exact within
      exact (before.next host.now).still made
  | @added _ _ _ resolved _ _ fits queued made =>
      have checked : WithinBound jsonBytes (room.withQueue (room.snapshot.queue ++ resolved)) := fits
      have ordered := (checked.still queued).of_rearranged (rearranged_orderVotes _)
      exact (ordered.advanceIdle host.now).still made
  | @removed video index _ made =>
      have shorter : WithinBound jsonBytes
          ((room.withQueue (room.snapshot.queue.eraseIdx index)).deleteVotes video) :=
        Fits.of_sublist within (List.eraseIdx_sublist _ _)
      exact shorter.still made
  | @reordered _ queue _ same made =>
      have moved : WithinBound jsonBytes (room.withQueue queue) := Fits.of_perm within same
      exact moved.still made
  | @voted video _ ids _ _ _ first made =>
      have written : WithinBound jsonBytes (room.writeVotes video ids) := within
      exact ((written.still first).of_rearranged (rearranged_orderVotes _)).still made
  | @playedNow video item queue _ fits made =>
      have started : WithinBound jsonBytes
          (((room.withQueue queue).deleteVotes video.toVideoId).start (some item) host.now) := by
        unfold WithinBound
        rw [start_queue]
        exact fits
      exact started.still made
  | @updated _ _ queue _ fits made =>
      have checked : WithinBound jsonBytes (room.withQueue queue) := fits
      exact checked.still made
  | @kicked _ target _ made =>
      have named : WithinBound jsonBytes { room with kicks := room.kicks ++ [target.id] } := within
      exact (named.of_rearranged (rearranged_leave _ target.id host)).still made

end WithinBound

end RoomState

namespace RoomObject

variable {jsonBytes : QueueItem → Nat}

theorem bound_kept :
    CommandInvariant jsonBytes (fun _ _ => True) (RoomState.WithinBound jsonBytes) where
  created _ _ _ := RoomState.fits_nil
  joined member host within :=
    have entered : RoomState.WithinBound jsonBytes (RoomState.enter member _) := within
    entered.still (((RoomState.still_push _ _).trans' (RoomState.still_event _ _ _ _)).trans'
      (RoomState.still_prepare _ none host))
  left id host within := within.of_rearranged (RoomState.rearranged_leave _ id host)
  applied resolved _ within _ := within.handled (RoomState.apply_handled _ resolved)
  reported status prepared now within found :=
    within.still (RoomState.still_status _ status prepared now found)
  ticked host within := within.tick host
  persisted _ within := within
  drained within := within
  recovered {object} kept host within _ _ := by
    have found : RoomState.WithinBound jsonBytes (object.restored kept) := within
    exact found.still (RoomState.still_recover _ host)

/-- In every reachable room at most 200 items wait, and the current source and they take at
most 512 KiB, whatever the text of an item is. -/
theorem queue_bound {text : QueueItem → String} {object : RoomObject}
    (reachable : (system fun item => (text item).utf8ByteSize).Reachable object) :
    object.room.snapshot.queue.length ≤ 200 ∧
      (stringify text object.room.snapshot.queue
        object.room.snapshot.currentSource).utf8ByteSize ≤ 512 * 1024 := by
  obtain ⟨count, bytes⟩ := ((invariant_of_command bound_kept).of_reachable reachable).1
  refine ⟨count, ?_⟩
  rw [RoomState.utf8ByteSize_stringify]
  exact bytes

/-- Ann loops the queue and adds the clip twice; the first one ends, and plays again later. -/
def loopedSteps : List Step :=
  [⟨{ now := 1000 }, .join ann⟩,
    ⟨{ now := 2000 }, .request "a" (.applySettings { queueMode := some .loop }) []⟩,
    ⟨{ now := 3000 }, .request "a" (.add none none (some "clips")) [clip, clip]⟩,
    ⟨{ now := 123000 }, .tick⟩]

/-- The text of the clip. -/
def clipText (_ : QueueItem) : String :=
  "\x7b\"service\":\"direct\",\"id\":\"clip\",\"length\":120\x7d"

def loopedObject : RoomObject :=
  after (fun item => (clipText item).utf8ByteSize) loopedSteps (create smallOptions annSession 0)

/-- One clip plays and one waits. -/
theorem queue_bound_looped :
    loopedObject.room.snapshot.queue.length = 1 ∧
      (stringify clipText loopedObject.room.snapshot.queue
        loopedObject.room.snapshot.currentSource).utf8ByteSize ≤ 512 * 1024 := by
  have run := @reachable_after (fun item => (clipText item).utf8ByteSize) smallOptions annSession 0
    loopedSteps (by decide +kernel)
  have holds := @queue_bound clipText loopedObject run
  exact ⟨by decide +kernel, holds.2⟩

end RoomObject

end OpenTogetherTube.Edge
