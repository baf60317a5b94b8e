import OpenTogetherTube.Edge.Delivery
import OpenTogetherTube.Edge.LiveSystem
import OpenTogetherTube.Edge.QueueBound
import Mathlib.Data.List.ReduceOption
import Mathlib.Tactic.FieldSimp
import Mathlib.Tactic.Ring

/-!
# Edge rooms: the alarm

The times a live room waits for, each with its own reason, and the one alarm that stands for all of them.
The time at which the current source ends is computed from the anchored clock; a tick at that time finds
the source ended and goes on to the next item.
-/

namespace OpenTogetherTube.Edge

open Lib

namespace Playback

/-- When the source ends that has this end, at the present speed. -/
def endsAt (now : Int) (last : ℚ) (s : Playback) : ℚ :=
  now + (last - s.positionAt now) / s.playbackSpeed * 1000

variable {s : Playback} {now later : Int} {last : ℚ}

/-- From an anchor that is not ahead of the clock, playback moves with its speed. -/
theorem positionAt_later (plays : s.isPlaying = true) (speed : 0 < s.playbackSpeed)
    (position : 0 ≤ s.position) (anchored : s.anchorAt ≤ now) (passes : now ≤ later) :
    s.positionAt later = s.positionAt now + ((later : ℚ) - now) / 1000 * s.playbackSpeed := by
  have elapsed : ∀ time : Int, s.anchorAt ≤ time →
      s.positionAt time = s.position + ((time : ℚ) - s.anchorAt) / 1000 * s.playbackSpeed := by
    intro time after
    have ahead : (0 : ℚ) ≤ ((time - s.anchorAt : Int) : ℚ) := by
      rw [Int.cast_nonneg_iff]
      omega
    unfold positionAt
    rw [plays, if_pos rfl, max_eq_right ahead, Int.cast_sub, max_eq_right]
    rw [Int.cast_sub] at ahead
    apply add_nonneg position
    exact mul_nonneg (div_nonneg ahead (by norm_num)) (le_of_lt speed)
  rw [elapsed now anchored, elapsed later (le_trans anchored passes)]
  ring

theorem ended_of_endsAt (plays : s.isPlaying = true) (speed : 0 < s.playbackSpeed)
    (position : 0 ≤ s.position) (anchored : s.anchorAt ≤ now) (passes : now ≤ later)
    (source : s.currentSource.bind QueueItem.mediaEnd = some last)
    (due : s.endsAt now last ≤ later) : s.ended later = true := by
  have left : (last - s.positionAt now) / s.playbackSpeed * 1000 ≤ (later : ℚ) - now := by
    unfold endsAt at due
    linarith
  have covered : last - s.positionAt now ≤ ((later : ℚ) - now) / 1000 * s.playbackSpeed := by
    have scaled := mul_le_mul_of_nonneg_right left (le_of_lt speed)
    have cancelled : (last - s.positionAt now) / s.playbackSpeed * 1000 * s.playbackSpeed =
        (last - s.positionAt now) * 1000 := by
      field_simp
    linarith
  unfold ended
  rw [plays, source, positionAt_later plays speed position anchored passes]
  simpa using by linarith

end Playback

namespace LiveRoom

/-- What a live room waits for at `now`, and until when. -/
inductive Pending (timing : Timing) (now : Int) (object : LiveRoom) : ℚ → Prop where
  /-- An empty temporary room expires. -/
  | idle {since : Int} (temporary : object.room.snapshot.isTemporary = true)
      (empty : object.room.snapshot.emptySince = some since) :
      Pending timing now object (since + idleMilliseconds timing.idleSeconds)
  | temporarySpeed {speed : TemporarySpeed}
      (active : object.room.snapshot.temporarySpeed = some speed) :
      Pending timing now object speed.expiresAt
  | preparation {preparation : Preparation}
      (prepared : object.room.snapshot.preparation = some preparation) :
      Pending timing now object preparation.expiresAt
  | checkpoint (plays : object.room.snapshot.isPlaying = true) :
      Pending timing now object
        (object.room.snapshot.anchorAt + checkpointMilliseconds timing.checkpointSeconds)
  | mediaEnd {last : ℚ} (plays : object.room.snapshot.isPlaying = true)
      (source : object.room.snapshot.currentSource.bind QueueItem.mediaEnd = some last) :
      Pending timing now object (object.room.snapshot.endsAt now last)
  | authentication {attachment : Attachment} (listed : attachment ∈ object.openSockets)
      (guest : attachment.session = none) :
      Pending timing now object attachment.authDeadline
  | session {attachment : Attachment} {session : GuestSession}
      (listed : attachment ∈ object.openSockets) (known : attachment.session = some session) :
      Pending timing now object session.expiresAt
  | indexRetry {retryAt : Int} (planned : object.indexRetryAt = some retryAt) :
      Pending timing now object retryAt

section Alarm

variable {timing : Timing} {now : Int} {object : LiveRoom} {due : ℚ}

theorem alarm_of_time {time : ℚ} (listed : some time ∈ object.room.alarmTimes
      (idleMilliseconds timing.idleSeconds) (checkpointMilliseconds timing.checkpointSeconds) now) :
    ∃ alarm, object.nextAlarm timing now = some alarm ∧ alarm ≤ max ((now : ℚ) + 1) time := by
  obtain ⟨inner, room, within⟩ : ∃ inner, object.room.nextAlarm
      (idleMilliseconds timing.idleSeconds) (checkpointMilliseconds timing.checkpointSeconds) now =
        some inner ∧ inner ≤ max ((now : ℚ) + 1) time :=
    exists_earliest_le (List.reduceOption_mem_iff.mpr listed)
  apply exists_earliest_le_nested _ within
  apply List.mem_append_left
  rw [List.reduceOption_mem_iff]
  exact List.mem_cons.mpr (.inl room.symm)

variable (timing now) in
/-- The alarm is in time for what each socket waits for. -/
theorem alarm_of_socket {attachment : Attachment} (listed : attachment ∈ object.openSockets) :
    ∃ alarm, object.nextAlarm timing now = some alarm ∧ alarm ≤ max ((now : ℚ) + 1)
      ((attachment.session.map GuestSession.expiresAt).getD attachment.authDeadline : Int) := by
  apply exists_earliest_le
  apply List.mem_append_right
  exact List.mem_map.mpr ⟨attachment, listed, rfl⟩

/-- The alarm of a room that plays only for members is in time for everything that is pending. -/
theorem nextAlarm_le (viewed : object.room.Viewed) (pending : object.Pending timing now due) :
    ∃ alarm, object.nextAlarm timing now = some alarm ∧ alarm ≤ max ((now : ℚ) + 1) due := by
  cases pending with
  | idle temporary empty =>
      apply alarm_of_time
      simp [RoomState.alarmTimes, temporary, empty]
  | temporarySpeed active =>
      apply alarm_of_time
      simp [RoomState.alarmTimes, active]
  | preparation prepared =>
      apply alarm_of_time
      simp [RoomState.alarmTimes, prepared]
  | checkpoint plays =>
      apply alarm_of_time
      simp [RoomState.alarmTimes, plays, viewed plays]
  | @mediaEnd last plays source =>
      have listed : some ((now : ℚ) + max 1 ((last - object.room.position now) /
          object.room.snapshot.playbackSpeed * 1000)) ∈ object.room.alarmTimes
            (idleMilliseconds timing.idleSeconds)
            (checkpointMilliseconds timing.checkpointSeconds) now := by
        simp [RoomState.alarmTimes, plays, viewed plays, source]
      obtain ⟨alarm, set_, within⟩ := alarm_of_time listed
      refine ⟨alarm, set_, ?_⟩
      -- the millisecond the code waits at least is in the bound already
      rwa [← max_add_add_left, ← max_assoc, max_self] at within
  | authentication listed guest => simpa [guest] using alarm_of_socket timing now listed
  | session listed known => simpa [known] using alarm_of_socket timing now listed
  | indexRetry planned =>
      apply exists_earliest_le
      apply List.mem_append_left
      rw [List.reduceOption_mem_iff, planned]
      simp

end Alarm

end LiveRoom

/-! ### The tick at the end of the source -/

namespace RoomState

/-- The first item of the queue has come up, after a source that loops has gone to the queue's end. -/
structure Advances (before after : RoomState) : Prop where
  currentSource : after.snapshot.currentSource = before.requeue.snapshot.queue.head?
  queue : after.snapshot.queue = before.requeue.snapshot.queue.tail
  votesToSkip : after.snapshot.votesToSkip = []

variable {room : RoomState}

theorem next_advances (now : Int) : Advances room (room.next now) := by
  have entries := next_entries room now
  have shifted : room.requeue.shift.1 = room.requeue.snapshot.queue.head? ∧
      room.requeue.shift.2.snapshot.queue = room.requeue.snapshot.queue.tail := by
    unfold shift
    cases queue : room.requeue.snapshot.queue with
    | nil => exact ⟨rfl, queue⟩
    | cons item rest => exact ⟨rfl, rfl⟩
  constructor
  · rw [entries.2, shifted.1]
  · rw [entries.1, shifted.2]
  · rfl

theorem expire_queueMode (host : Host) :
    ((room.expireTemporarySpeed host.now).expirePreparation host).snapshot.queueMode =
      room.snapshot.queueMode := by
  have prepares : Reprepares fun after => after.snapshot.queueMode = room.snapshot.queueMode := {
    clear := by
      intro a same
      unfold clearPreparation
      split
      · exact same
      · exact same
    prepare := by
      intro a exclude host same
      unfold prepare
      dsimp only
      split
      · exact same
      · exact same }
  apply prepares.expirePreparation host
  unfold expireTemporarySpeed clearTemporarySpeed
  split
  · split
    · rfl
    · rfl
  · rfl

theorem requeue_congr {a b : RoomState} (mode : b.snapshot.queueMode = a.snapshot.queueMode)
    (same : Still a b) : b.requeue.snapshot.queue = a.requeue.snapshot.queue := by
  unfold requeue
  rw [mode, same.currentSource]
  split
  · exact congrArg (· ++ [_]) same.queue
  · exact same.queue

/-- A tick that finds the source ended goes on to the next item. -/
theorem tick_advances (host : Host) (ended : room.snapshot.ended host.now = true) :
    Advances room (room.tick host) := by
  have here : At host.now (room.position host.now) true room := ⟨rfl, ended⟩
  have expired := At.lasting.expirePreparation host here.expireTemporarySpeed
  have queue := requeue_congr (room.expire_queueMode host) (room.still_expire host)
  unfold tick
  dsimp only
  rw [if_pos expired.ended]
  have advances := ((room.expireTemporarySpeed host.now).expirePreparation host).next_advances host.now
  exact ⟨queue ▸ advances.currentSource, queue ▸ advances.queue, advances.votesToSkip⟩

end RoomState

namespace LiveRoom

section Commit

variable {timing : Timing} {checkpoint : Bool} {joined : Option ClientId} {runtime : Nat → Runtime}
  {object final : LiveRoom} {begun : List (Nat × LiveRoom)} {clock : Int}

/-- A round that leaves nothing unsaved sets the alarm. -/
theorem round_alarm {runtime : Runtime}
    (settled : (object.round timing checkpoint joined runtime).unsaved = false) :
    (object.round timing checkpoint joined runtime).alarm =
      (object.round timing checkpoint joined runtime).nextAlarm timing runtime.now := by
  unfold round at settled ⊢
  dsimp only at settled ⊢
  by_cases unsettled : (object.exchange timing checkpoint joined runtime).unsaved = true
  · rw [if_pos unsettled, unsettled] at settled
    cases settled
  · rw [if_neg unsettled]
    rfl

/-- The last round sets the alarm by what it leaves. -/
theorem ends_alarm (clock : Int)
    (ends : (rounds timing checkpoint joined runtime).Ends 0 object begun final) :
    final.alarm = final.nextAlarm timing (clockAt clock runtime begun.length) := by
  rw [← Nat.zero_add begun.length]
  refine @Rounds.Ends.lastly _ _ _ _ _ _ (fun round object =>
    object.alarm = object.nextAlarm timing (clockAt clock runtime round)) ?_ ends
  intro index object settled
  exact round_alarm settled

/-- When a commit returns, the clock of the room is that of the record. -/
theorem ends_settled (ends : (rounds timing checkpoint joined runtime).Ends 0 object begun final)
    (anchored : final.AnchoredBy clock) :
    0 ≤ final.room.snapshot.position ∧ final.room.snapshot.anchorAt ≤ clock := by
  have settled := (not_not.mp (of_decide_eq_false ends.settled)).symm
  rw [final.storage.agree] at settled
  obtain ⟨snapshot, stored, same⟩ := Option.map_eq_some_iff.mp settled
  have position := congrArg (fun snapshot : Snapshot => snapshot.position) same
  have anchor := congrArg (fun snapshot : Snapshot => snapshot.anchorAt) same
  change snapshot.position = final.room.snapshot.position at position
  change snapshot.anchorAt = final.room.snapshot.anchorAt at anchor
  rw [← position, ← anchor]
  exact anchored snapshot stored

end Commit

/-- After a commit of a reachable room the alarm is in time for everything that is pending, and a tick at
or after the end of the source, with nothing changed in between, goes on to the next item. -/
theorem alarm_in_time {jsonBytes : QueueItem → Nat} {state : LiveState}
    (reachable : (system jsonBytes).Reachable state) (timing : Timing) (checkpoint : Bool)
    (joined : Option ClientId) {runtime : Nat → Runtime} (timely : Timely state.clock runtime) :
    ∃ begun final,
      (rounds timing checkpoint joined runtime).Ends 0 state.object.begin begun final ∧
      (∀ fuel > state.object.room.members.length,
        state.object.commit timing checkpoint joined runtime fuel = some final) ∧
      let now := clockAt state.clock runtime begun.length
      (∀ due, final.Pending timing now due →
        ∃ alarm, final.alarm = some alarm ∧ alarm ≤ max ((now : ℚ) + 1) due) ∧
      ∀ last host, final.room.snapshot.isPlaying = true →
        final.room.snapshot.currentSource.bind QueueItem.mediaEnd = some last →
        now ≤ host.now → final.room.snapshot.endsAt now last ≤ host.now →
        final.room.Advances (final.room.tick host) := by
  obtain ⟨begun, final, ends, returns⟩ :=
    state.object.rounds_end timing checkpoint joined runtime
  have kept := RoomState.viewed_invariant.and RoomState.forward_invariant
  obtain ⟨held, anchored⟩ := (live_invariant kept).of_reachable reachable
  have begins : state.object.begin.Holds _ := ⟨held.room, held.stored⟩
  obtain ⟨viewed, forward⟩ := (ends_hold kept ends begins).room
  have settled := ends_settled ends (ends_anchored timely ends anchored)
  refine ⟨begun, final, ends, returns, ?_, ?_⟩
  · intro due pending
    rw [ends_alarm state.clock ends]
    exact nextAlarm_le viewed pending
  · intro last host plays source passes due
    apply RoomState.tick_advances
    exact Playback.ended_of_endsAt plays forward.speed settled.1 settled.2 passes source due

/-! ### Ann watches a clip -/

/-- A new room, before its first commit. -/
def newRoom : LiveRoom where
  room := { snapshot := createSnapshot smallOptions annSession 0 }
  storage := .erased

/-- Ann comes in. -/
def annJoins : Step := ⟨{ now := 1000 }, .join ann⟩

/-- She adds the clip, which starts. -/
def annAdds : Step := ⟨{ now := 2000 }, .request "a" (.add none none (some "clip")) [clip]⟩

/-- Ann is in the room. -/
def entered : LiveState where
  object := { newRoom with room := newRoom.room.handled (fun _ => 0) annJoins }
  clock := 1000

/-- She watches the clip. -/
def watching : LiveState where
  object := { entered.object with room := entered.object.room.handled (fun _ => 0) annAdds }
  clock := 2000

/-- Every write and send of a commit at 3000 succeeds. -/
def promptRuntime : Runtime where
  persistAt := 3000
  indexAt := 3000
  now := 3000

theorem watching_reachable : (system fun _ => 0).Reachable watching := by
  have created : (system fun _ => 0).Initial ⟨newRoom, 0⟩ := ⟨smallOptions, annSession, rfl⟩
  have joins : (system fun _ => 0).Step ⟨newRoom, 0⟩ (.handle annJoins) entered :=
    ⟨⟨trivial, fun _ _ acts => (by cases acts), fun _ same => (by cases same),
      fun _ same => (by cases same)⟩, by decide, rfl⟩
  have adds : (system fun _ => 0).Step entered (.handle annAdds) watching := by
    refine ⟨⟨by decide +kernel, ?_, fun _ same => (by cases same),
      fun _ same => (by cases same)⟩, by decide, rfl⟩
    intro member command acts
    have added : command = .add none none (some "clip") := by
      unfold annAdds RoomEvent.actor at acts
      obtain ⟨_, _, same⟩ := Option.map_eq_some_iff.mp acts
      exact (congrArg Prod.snd same).symm
    rw [added]
    rfl
  exact (TransitionSystem.Reachable.initial created).steps
    ((TransitionSystem.Steps.single joins).tail adds)

/-- The alarm is set for the end of the clip at the latest, and a tick then ends it. -/
theorem alarm_in_time_watching : ∃ final alarm,
    watching.object.commit usualTiming false none (fun _ => promptRuntime) 2 = some final ∧
      final.alarm = some alarm ∧ alarm ≤ max 3001 122000 ∧
      (final.room.tick { now := 122000 }).snapshot.currentSource = none := by
  have plays : ((watching.object.commit usualTiming false none (fun _ => promptRuntime) 2).map
      fun object => (object.room.snapshot.isPlaying,
        object.room.snapshot.currentSource.bind QueueItem.mediaEnd,
        object.room.snapshot.endsAt 3000 120, object.room.requeue.snapshot.queue)) =
      some (true, some 120, 122000, []) := by decide +kernel
  have timely : Timely watching.clock fun _ => promptRuntime :=
    ⟨by decide, fun _ => by decide, fun _ => by decide, fun _ => by decide⟩
  obtain ⟨begun, final, ends, returns, inTime, advances⟩ :=
    alarm_in_time watching_reachable usualTiming false none timely
  have returned := returns 2 (by decide +kernel)
  rw [returned, Option.map_some, Option.some_inj, Prod.mk.injEq, Prod.mk.injEq, Prod.mk.injEq] at plays
  obtain ⟨plays, source, due, nothing⟩ := plays
  have last : clockAt watching.clock (fun _ => promptRuntime) begun.length = 3000 := by
    cases ends with
    | stop _ => rfl
    | more _ _ => rfl
  rw [last] at inTime advances
  obtain ⟨alarm, set_, within⟩ := inTime _ (.mediaEnd plays source)
  rw [due] at within
  refine ⟨final, alarm, returned, set_, ?_, ?_⟩
  · exact le_trans within (by norm_num)
  · have ended := advances 120 { now := 122000 } plays source (by decide) (by rw [due]; norm_num)
    rw [ended.currentSource, nothing]
    rfl

end LiveRoom

end OpenTogetherTube.Edge
