import OpenTogetherTube.Room.Permits

/-!
# The current item and the queue

A `Playlist` holds the current item and the queued ones, with their extras. Its operations
are what a skip and the undo of a skip are for, and the room's methods do just these to its
playlist. `Skips` is a skip that went through and was announced.
-/

namespace OpenTogetherTube

open Lib Lib.Handler

/-- The current item and the queue. -/
structure Playlist where
  source : Option QueueItem
  queue : List QueueItem
deriving DecidableEq

namespace Playlist

/-- An item with the video is queued. -/
def Queued (video : VideoId) (list : Playlist) : Prop :=
  video ∈ list.queue.map QueueItem.toVideoId

instance (video : VideoId) (list : Playlist) : Decidable (list.Queued video) :=
  inferInstanceAs (Decidable (_ ∈ _))

/-- The first queued item becomes current; without one nothing is. -/
def takeNext (list : Playlist) : Playlist :=
  match list.queue with
  | item :: rest => ⟨some item, rest⟩
  | [] => ⟨none, []⟩

/-- `dequeueNext`. -/
def advance (mode : QueueMode) (list : Playlist) : Playlist :=
  match list.source, mode with
  | some source, .dj => { list with source := some source.clearQueueItemTrim }
  | some source, .loop =>
      { list with queue := list.queue ++ [source.clearQueueItemTrim] }.takeNext
  | _, _ => list.takeNext

/-- The undo of a skip of `skipped`: what is current goes back on top of the queue unless it
is queued. -/
def unskip (skipped : QueueItem) (list : Playlist) : Playlist :=
  match list.source with
  | some source =>
      if list.Queued source.toVideoId then { list with source := some skipped }
      else ⟨some skipped, source :: list.queue⟩
  | none => { list with source := some skipped }

/-- There is room on top of the queue, if room is needed. -/
def CanRequeue (list : Playlist) : Prop :=
  ∀ source, list.source = some source →
    list.Queued source.toVideoId ∨ list.queue.length < MAX_QUEUE_ITEMS

/-- A skip that the undo takes back. With the plain modes the item that moves up is not queued
a second time; in DJ mode the current one is queued; a looping queue holds nothing else. -/
def Reversible (mode : QueueMode) (current : QueueItem) (queue : List QueueItem) : Prop :=
  match mode with
  | .manual | .vote => ∀ item rest, queue = item :: rest →
      item.toVideoId ∉ rest.map QueueItem.toVideoId ∧ queue.length ≤ MAX_QUEUE_ITEMS
  | .loop => queue ≠ [] ∧ ∀ item ∈ queue, item = current.clearQueueItemTrim
  | .dj => current.toVideoId ∈ queue.map QueueItem.toVideoId

/-- A skip that leaves everything as it is. -/
def Fixed (mode : QueueMode) (current : QueueItem) (queue : List QueueItem) : Prop :=
  match mode with
  | .manual | .vote => False
  | .loop => current.clearQueueItemTrim = current ∧ ∀ item ∈ queue, item = current
  | .dj => current.clearQueueItemTrim = current

/-- A queue that comes out of a turn as it went in holds one item over and over. -/
theorem turn_eq_iff {queue : List QueueItem} {last first : QueueItem} :
    queue ++ [last] = first :: queue ↔ last = first ∧ ∀ item ∈ queue, item = first := by
  induction queue with
  | nil => simp
  | cons head rest ih =>
      constructor
      · intro turned
        rw [List.cons_append, List.cons.injEq] at turned
        obtain ⟨rfl, turned⟩ := turned
        obtain ⟨same, all⟩ := ih.mp turned
        exact ⟨same, List.forall_mem_cons.mpr ⟨rfl, all⟩⟩
      · rintro ⟨same, all⟩
        obtain ⟨rfl, all⟩ := List.forall_mem_cons.mp all
        rw [List.cons_append, ih.mpr ⟨same, all⟩]

section Skips

variable (mode : QueueMode) (current : QueueItem) (queue : List QueueItem)

/-- What a turn of a looping queue leaves. -/
theorem takeNext_loop (last : QueueItem) : ∃ item rest, queue ++ [last] = item :: rest ∧
    Playlist.takeNext ⟨some current, queue ++ [last]⟩ = ⟨some item, rest⟩ := by
  cases queue with
  | nil => exact ⟨last, [], rfl, rfl⟩
  | cons item rest => exact ⟨item, rest ++ [last], rfl, rfl⟩

/-- A skip keeps the playlist just when it restarts the item, untrimmed, or turns a queue of
nothing but this item. -/
theorem advance_eq_iff : advance mode ⟨some current, queue⟩ = ⟨some current, queue⟩ ↔
    Fixed mode current queue := by
  have plain : Playlist.takeNext ⟨some current, queue⟩ ≠ ⟨some current, queue⟩ := by
    unfold takeNext
    cases queue with
    | nil => simp
    | cons item rest => simp
  cases mode with
  | manual => exact iff_of_false plain id
  | vote => exact iff_of_false plain id
  | dj => simp [advance, Fixed]
  | loop =>
      obtain ⟨item, rest, turned, taken⟩ := takeNext_loop current queue current.clearQueueItemTrim
      change Playlist.takeNext ⟨some current, queue ++ [current.clearQueueItemTrim]⟩ = _ ↔ _
      rw [taken, Playlist.mk.injEq, Option.some.injEq]
      constructor
      · rintro ⟨rfl, rfl⟩
        exact turn_eq_iff.mp turned
      · intro fixed
        rw [turn_eq_iff.mpr fixed, List.cons.injEq] at turned
        exact ⟨turned.1.symm, turned.2.symm⟩

/-- The item that moved up goes back on top unless it is queued. -/
theorem unskip_takeNext_iff :
    (Playlist.takeNext ⟨some current, queue⟩).CanRequeue ∧
        (Playlist.takeNext ⟨some current, queue⟩).unskip current = ⟨some current, queue⟩ ↔
      Reversible .manual current queue := by
  unfold Reversible
  dsimp only
  cases queue with
  | nil => simp [takeNext, unskip, CanRequeue]
  | cons item rest =>
      change CanRequeue ⟨some item, rest⟩ ∧ unskip current ⟨some item, rest⟩ = _ ↔ _
      by_cases again : item.toVideoId ∈ rest.map QueueItem.toVideoId
      · have kept : unskip current ⟨some item, rest⟩ = ⟨some current, rest⟩ := if_pos again
        refine iff_of_false ?_ fun alone => (alone item rest rfl).1 again
        rintro ⟨_, same⟩
        rw [kept] at same
        simp at same
      · have pushed : unskip current ⟨some item, rest⟩ = ⟨some current, item :: rest⟩ :=
          if_neg again
        constructor
        · rintro ⟨fits, _⟩ _ _ ⟨⟩
          exact ⟨again, (fits item rfl).resolve_left again⟩
        · intro alone
          refine ⟨?_, pushed⟩
          rintro _ ⟨⟩
          exact Or.inr (alone item rest rfl).2

/-- A restarted item goes on top of the queue unless it is queued. -/
theorem unskip_restart_iff :
    CanRequeue ⟨some current.clearQueueItemTrim, queue⟩ ∧
        unskip current ⟨some current.clearQueueItemTrim, queue⟩ = ⟨some current, queue⟩ ↔
      Reversible .dj current queue := by
  change _ ↔ Queued current.toVideoId ⟨some current.clearQueueItemTrim, queue⟩
  by_cases queued : Queued current.toVideoId ⟨some current.clearQueueItemTrim, queue⟩
  · refine iff_of_true ⟨?_, if_pos queued⟩ queued
    rintro _ ⟨⟩
    exact Or.inl queued
  · have pushed : unskip current ⟨some current.clearQueueItemTrim, queue⟩ =
        ⟨some current, current.clearQueueItemTrim :: queue⟩ := if_neg queued
    refine iff_of_false ?_ queued
    rintro ⟨_, same⟩
    rw [pushed] at same
    simp at same

/-- A turned queue is not turned back; it has to look the same. -/
theorem unskip_turn_iff :
    (Playlist.takeNext ⟨some current, queue ++ [current.clearQueueItemTrim]⟩).CanRequeue ∧
        (Playlist.takeNext ⟨some current, queue ++ [current.clearQueueItemTrim]⟩).unskip current =
          ⟨some current, queue⟩ ↔
      Reversible .loop current queue := by
  obtain ⟨item, rest, turned, taken⟩ := takeNext_loop current queue current.clearQueueItemTrim
  rw [taken]
  constructor
  · rintro ⟨_, same⟩
    by_cases queued : Queued item.toVideoId ⟨some item, rest⟩
    · have kept : unskip current ⟨some item, rest⟩ = ⟨some current, rest⟩ := if_pos queued
      rw [kept, Playlist.mk.injEq] at same
      obtain ⟨_, rfl⟩ := same
      obtain ⟨rfl, all⟩ := turn_eq_iff.mp turned
      refine ⟨?_, all⟩
      rintro rfl
      cases queued
    · have pushed : unskip current ⟨some item, rest⟩ = ⟨some current, item :: rest⟩ :=
        if_neg queued
      rw [pushed, ← turned, Playlist.mk.injEq] at same
      simp at same
  · rintro ⟨filled, all⟩
    rw [turn_eq_iff.mpr ⟨rfl, all⟩, List.cons.injEq] at turned
    obtain ⟨rfl, rfl⟩ := turned
    obtain ⟨first, member⟩ := List.exists_mem_of_ne_nil queue filled
    have queued : Queued current.clearQueueItemTrim.toVideoId
        ⟨some current.clearQueueItemTrim, queue⟩ := by
      refine List.mem_map.mpr ⟨first, member, ?_⟩
      rw [all first member]
    refine ⟨?_, if_pos queued⟩
    rintro _ ⟨⟩
    exact Or.inl queued

/-- The undo of a skip restores the playlist just when the skip is reversible. -/
theorem unskip_advance_iff :
    (advance mode ⟨some current, queue⟩).CanRequeue ∧
        (advance mode ⟨some current, queue⟩).unskip current = ⟨some current, queue⟩ ↔
      Reversible mode current queue := by
  cases mode with
  | manual => exact unskip_takeNext_iff current queue
  | vote => exact unskip_takeNext_iff current queue
  | dj => exact unskip_restart_iff current queue
  | loop => exact unskip_turn_iff current queue

end Skips

end Playlist

namespace Room

/-- The playlist of a room. -/
def playlist (room : Room) : Playlist := ⟨room.currentSource, room.queue⟩

/-- What a room has announced and still remembers, who hears it and what they may do. -/
def chronicle (room : Room) :
    List ServerMessage × List RoomEvent × Nat × List RoomUser × Grants :=
  (room.published, room.recentEvents, room.nextSerial, room.realusers, room.grants)

section Queue

variable (env : Env) (room : Room)

theorem startItem_source (p : Playback) (id : String) (audience : Audience) (now : Int) :
    (p.startItem id audience now).currentSource = p.currentSource := by
  have held : (p.holdPlaybackForPreparation id audience now).currentSource = p.currentSource := by
    unfold Playback.holdPlaybackForPreparation Playback.prepareEmptyRoomPlayback
    have stopped : (p.holdClock now).currentSource = p.currentSource := by
      simp [Playback.holdClock]
    split
    · exact stopped
    · split
      · exact stopped
      · exact stopped
  unfold Playback.startItem
  split
  · rfl
  · split
    · exact held
    · split
      · rfl
      · simp

theorem onPlayback_playlist {update : Playback → Playback}
    (kept : (update room.toPlayback).currentSource = room.currentSource) :
    (room.onPlayback update).playlist = room.playlist := by
  unfold playlist onPlayback
  dsimp only
  rw [kept]

theorem takeNext_playlist (now : Int) (item : QueueItem) (rest : List QueueItem) :
    (room.takeNext now item rest).playlist = ⟨some item, rest⟩ := by
  unfold takeNext playlist
  dsimp only
  split
  · simp [onPlayback, assignQueue, markDirty, Playback.markDirty]
  · simp [onPlayback, assignQueue, markDirty, Playback.markDirty, assignVideoSegments]

theorem replaceSource_playlist : (room.replaceSource env).playlist = room.playlist.takeNext := by
  unfold replaceSource Playlist.takeNext
  change _ = match room.queue with
    | item :: rest => Playlist.mk (some item) rest
    | [] => Playlist.mk none []
  cases queued : room.queue with
  | nil =>
      dsimp only
      split
      · simp [playlist, onPlayback, queued]
      · rename_i idle
        rw [Bool.not_eq_true, Option.isSome_eq_false_iff, Option.isNone_iff_eq_none] at idle
        rw [playlist, idle, queued]
  | cons item rest =>
      dsimp only
      rw [← takeNext_playlist room env.now item rest]
      exact onPlayback_playlist _ (startItem_source _ _ _ _)

theorem refreshSegments_playlist : (room.refreshSegments env).playlist = room.playlist := by
  unfold refreshSegments
  dsimp only
  split <;> split <;> rfl

theorem advanceQueue_playlist : (room.advanceQueue env).playlist = room.playlist.takeNext := by
  have reset : ∀ other : Room,
      (other.onPlayback (Playback.assignPlaybackSpeed 1)).playlist = other.playlist :=
    fun _ => rfl
  unfold advanceQueue
  rw [reset, refreshSegments_playlist, replaceSource_playlist]

theorem leaveCurrent_playlist (now : Int) : (room.leaveCurrent now).playlist = room.playlist := by
  obtain ⟨queue, _, source, _⟩ := leaveCurrent_frame room now
  rw [playlist, queue, source]
  rfl

theorem dequeueNext_playlist :
    (room.dequeueNext env).playlist = room.playlist.advance room.queueMode := by
  have left := leaveCurrent_playlist room env.now
  have mode := (leaveCurrent_frame room env.now).2.1
  unfold dequeueNext Playlist.advance
  dsimp only
  rw [← left, ← mode]
  generalize room.leaveCurrent env.now = entry
  change _ = match entry.currentSource, entry.queueMode with
    | some source, .dj => Playlist.mk (some source.clearQueueItemTrim) entry.queue
    | some source, .loop =>
        Playlist.takeNext ⟨some source, entry.queue ++ [source.clearQueueItemTrim]⟩
    | _, _ => entry.playlist.takeNext
  cases source : entry.currentSource with
  | none => exact advanceQueue_playlist env entry
  | some current =>
      cases entry.queueMode with
      | manual => exact advanceQueue_playlist env entry
      | vote => exact advanceQueue_playlist env entry
      | loop =>
          dsimp only
          rw [advanceQueue_playlist, ← source]
          rfl
      | dj =>
          have restarted : (Playback.restartSource current env.now entry.toPlayback).currentSource =
              some current.clearQueueItemTrim := by
            unfold Playback.restartSource
            dsimp only
            split <;> simp
          unfold playlist onPlayback
          dsimp only
          rw [restarted]

/-- `dequeueNext` announces nothing. -/
theorem dequeueNext_chronicle : (room.dequeueNext env).chronicle = room.chronicle := by
  have left : (room.leaveCurrent env.now).chronicle = room.chronicle := by
    obtain ⟨watched, counted⟩ :=
      countSource_eq (room.releaseBufferGate false env.now).clearSkipVotes env.now
    unfold leaveCurrent
    rw [counted]
    unfold clearSkipVotes
    split <;> rfl
  have moved : ∀ other : Room, (other.advanceQueue env).chronicle = other.chronicle := by
    intro other
    have taken : ∀ item rest, (other.takeNext env.now item rest).chronicle = other.chronicle := by
      intro item rest
      unfold takeNext
      dsimp only
      split <;> rfl
    have replaced : (other.replaceSource env).chronicle = other.chronicle := by
      unfold replaceSource
      split
      · exact taken _ _
      · split <;> rfl
    rw [← replaced]
    unfold advanceQueue refreshSegments
    dsimp only
    split <;> split <;> rfl
  rw [← left]
  unfold dequeueNext
  dsimp only
  split
  · rfl
  · rw [moved]
    rfl
  · exact moved _

end Queue

end Room

end OpenTogetherTube
