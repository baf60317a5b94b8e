import OpenTogetherTube.Edge.Invariance

/-!
# Edge rooms: preparations

While a viewer prepares, the room is paused and will resume, and the preparation names the
source, the position and a viewer that is there. Playback then starts when that viewer
reports ready in time and in place, when somebody asks for it, or when a source is started
anew.
-/

namespace OpenTogetherTube.Edge

open Lib

namespace Playback

/-- What a preparation says is how playback stands. -/
structure Awaits (preparation : Preparation) (s : Playback) : Prop where
  paused : s.isPlaying = false
  resumes : s.resumeOnNextJoin = true
  video : s.currentSource.map QueueItem.toVideoId = some preparation.video
  position : preparation.position = max 0 s.position

/-- A change that leaves a paused position where it is. -/
structure Steady (before after : Playback) : Prop where
  isPlaying : after.isPlaying = before.isPlaying
  resumeOnNextJoin : after.resumeOnNextJoin = before.resumeOnNextJoin
  currentSource : after.currentSource = before.currentSource
  preparation : after.preparation = before.preparation
  position : before.isPlaying = false → max 0 after.position = max 0 before.position

/-- The position of a paused room does not depend on the time. -/
theorem positionAt_paused {s : Playback} (paused : s.isPlaying = false) (now : Int) :
    s.positionAt now = max 0 s.position := by
  unfold positionAt
  rw [paused, if_neg Bool.false_ne_true, add_zero]

instance : IsPreorder Playback Steady where
  refl _ := ⟨rfl, rfl, rfl, rfl, fun _ => rfl⟩
  trans _ _ _ first second :=
    ⟨second.isPlaying.trans first.isPlaying,
      second.resumeOnNextJoin.trans first.resumeOnNextJoin,
      second.currentSource.trans first.currentSource,
      second.preparation.trans first.preparation,
      fun paused => (second.position (first.isPlaying.trans paused)).trans (first.position paused)⟩

variable (s : Playback)

theorem steady_anchor (now : Int) : Steady s (s.anchor now) := by
  refine ⟨rfl, rfl, rfl, rfl, fun paused => ?_⟩
  change max 0 (s.positionAt now) = _
  rw [positionAt_paused paused, ← max_assoc, max_self]

theorem steady_clearTemporarySpeed (now : Int) : Steady s (s.clearTemporarySpeed now) := by
  unfold clearTemporarySpeed
  split
  · exact refl s
  · have anchored := s.steady_anchor now
    exact ⟨anchored.isPlaying, anchored.resumeOnNextJoin, anchored.currentSource,
      anchored.preparation, anchored.position⟩

theorem steady_setSpeed (speed : ℚ) (now : Int) : Steady s (s.setSpeed speed now) := by
  have anchored := IsTrans.trans _ _ _ (s.steady_clearTemporarySpeed now)
    ((s.clearTemporarySpeed now).steady_anchor now)
  exact ⟨anchored.isPlaying, anchored.resumeOnNextJoin, anchored.currentSource,
    anchored.preparation, anchored.position⟩

theorem steady_startTemporarySpeed (clientId : ClientId) (gestureId : String) (now : Int) :
    Steady s (s.startTemporarySpeed clientId gestureId now) := by
  have anchored := s.steady_anchor now
  exact ⟨anchored.isPlaying, anchored.resumeOnNextJoin, anchored.currentSource,
    anchored.preparation, anchored.position⟩

theorem steady_endGestureOf (id : ClientId) (now : Int) : Steady s (s.endGestureOf id now) := by
  unfold endGestureOf
  split
  · exact s.steady_clearTemporarySpeed now
  · exact refl s

theorem steady_expireSpeed (now : Int) : Steady s (s.expireSpeed now) := by
  unfold expireSpeed
  split
  · exact s.steady_clearTemporarySpeed now
  · exact refl s

variable {s} {t : Playback} {preparation : Preparation}

theorem Awaits.steady (awaits : Awaits preparation s) (steady : Steady s t) :
    Awaits preparation t where
  paused := steady.isPlaying.trans awaits.paused
  resumes := steady.resumeOnNextJoin.trans awaits.resumes
  video := (congrArg (Option.map QueueItem.toVideoId) steady.currentSource).trans awaits.video
  position := awaits.position.trans (steady.position awaits.paused).symm

/-- A preparation that is made says how playback stands, for the viewer it was made for. -/
theorem awaits_nextPreparation {preparer : Option Member} {host : Host}
    (made : s.nextPreparation preparer host = some preparation) :
    Awaits preparation s ∧ ∃ member, preparer = some member ∧ preparation.clientId = member.id := by
  unfold nextPreparation at made
  split at made
  · cases made
  · rename_i waiting
    rw [Bool.not_eq_true, Bool.or_eq_false_iff, Bool.or_eq_false_iff, Bool.not_eq_false'] at waiting
    obtain ⟨⟨resumes, paused⟩, _⟩ := waiting
    split at made
    · rename_i source member found
      cases made
      refine ⟨⟨paused, resumes, ?_, positionAt_paused paused host.now⟩, member, rfl, rfl⟩
      rw [found]
      rfl
    · cases made

end Playback

namespace RoomState

/-- A preparation, if there is one, says how playback stands and is a member's. -/
def Prepared (room : RoomState) : Prop :=
  ∀ preparation, room.snapshot.preparation = some preparation →
    Playback.Awaits preparation room.snapshot.toPlayback ∧
      room.members.has preparation.clientId = true

namespace Prepared

variable {a b room : RoomState}

theorem quiet (same : Quiet a b) (prepared : Prepared a) : Prepared b := by
  intro preparation there
  rw [same.preparation] at there
  rw [same.members, show b.snapshot.toPlayback = a.snapshot.toPlayback from same.playback]
  exact prepared preparation there

/-- Without a preparation there is nothing to say. -/
theorem of_none (none : room.snapshot.preparation = none) : Prepared room := by
  intro preparation there
  rw [none] at there
  cases there

theorem clearPreparation : Prepared room.clearPreparation :=
  quiet room.clearPreparation_quiet (of_none rfl)

theorem has_preparer {exclude : Option ClientId} {member : Member}
    (picked : room.preparer exclude = some member) : room.members.has member.id = true :=
  Members.has_iff.mpr ⟨member, List.mem_of_find?_eq_some picked, rfl⟩

variable (prepared : Prepared room)

include prepared

theorem onPlayback {update : Playback → Playback}
    (steady : Playback.Steady room.snapshot.toPlayback (update room.snapshot.toPlayback)) :
    Prepared (room.onPlayback update) := by
  intro preparation there
  have before : room.snapshot.preparation = some preparation := steady.preparation.symm.trans there
  exact ⟨(prepared preparation before).1.steady steady, (prepared preparation before).2⟩

theorem onAccess (update : Access → Access) :
    Prepared (room.onAccess update) :=
  fun preparation there => prepared preparation there

theorem prepare (exclude : Option ClientId) (host : Host) :
    Prepared (room.prepare exclude host) := by
  refine quiet (room.prepare_quiet exclude host) ?_
  intro preparation there
  change ((room.snapshot.toPlayback.prepare (room.preparer exclude) host).preparation =
    some preparation) at there
  change Playback.Awaits preparation (room.snapshot.toPlayback.prepare _ host) ∧
    room.members.has preparation.clientId = true
  rw [Playback.prepare_eq] at there ⊢
  cases made : room.snapshot.nextPreparation (room.preparer exclude) host with
  | none =>
      rw [made] at there
      obtain ⟨awaits, client⟩ := prepared preparation there
      exact ⟨⟨awaits.paused, awaits.resumes, awaits.video, awaits.position⟩, client⟩
  | some new =>
      rw [made] at there
      cases there
      obtain ⟨awaits, member, picked, same⟩ := Playback.awaits_nextPreparation made
      refine ⟨⟨awaits.paused, awaits.resumes, awaits.video, awaits.position⟩, ?_⟩
      rw [same]
      exact has_preparer picked

omit prepared in
theorem reprepare (host : Host) : Prepared (room.reprepare host) := by
  unfold RoomState.reprepare
  split
  · exact clearPreparation.prepare none host
  · rename_i none
    exact of_none (by simpa using none)

omit prepared in
theorem lasting : Lasting Prepared where
  quiet := quiet
  access update prepared := prepared.onAccess update
  clear _ := clearPreparation
  prepare exclude host prepared := prepared.prepare exclude host

/-- What is left of a preparation when a client goes is another client's, and stands. -/
theorem removeMember (id : ClientId) (now : Int) :
    Prepared ((room.removeMember id).onPlayback (Playback.dropClient id now)) := by
  intro preparation there
  change (room.snapshot.toPlayback.dropClient id now).preparation = some preparation at there
  change Playback.Awaits preparation (room.snapshot.toPlayback.dropClient id now) ∧
    (room.members.delete id).has preparation.clientId = true
  have ended := room.snapshot.toPlayback.steady_endGestureOf id now
  unfold Playback.dropClient Playback.dropPreparationOf at there ⊢
  split at there
  · cases there
  · rename_i other
    have before : room.snapshot.preparation = some preparation := ended.preparation.symm.trans there
    have different : preparation.clientId ≠ id := by
      rintro rfl
      exact other (by rw [there]; rfl)
    rw [if_neg other]
    exact ⟨(prepared preparation before).1.steady ended,
      Members.has_delete.mpr ⟨different, (prepared preparation before).2⟩⟩

theorem settleAfterLeave (host : Host) :
    Prepared (room.settleAfterLeave host) := by
  unfold RoomState.settleAfterLeave
  split
  · rename_i empty
    refine of_none ?_
    change room.snapshot.preparation = none
    cases there : room.snapshot.preparation with
    | none => rfl
    | some preparation =>
        have client := (prepared preparation there).2
        rw [List.isEmpty_iff.mp empty] at client
        cases client
  · exact prepared.prepare none host

theorem leave (id : ClientId) (host : Host) :
    Prepared (room.leave id host) := by
  cases found : room.members.get id with
  | none =>
      rw [room.leave_missing host found]
      exact prepared
  | some member =>
      exact quiet (room.leave_quiet host found)
        ((prepared.removeMember id host.now).settleAfterLeave host)

theorem setMember (member : Member) :
    Prepared (room.setMember member) := by
  intro preparation there
  exact ⟨(prepared preparation there).1, Members.has_set.mpr (Or.inr (prepared preparation there).2)⟩

theorem join (member : Member) (host : Host) :
    Prepared (room.join member host) := by
  refine quiet (room.join_quiet member host) (prepare ?_ none host)
  intro preparation there
  exact prepared.setMember member preparation there

theorem status (member : Member) (status : PlayerStatus)
    (report : Option PlaybackPrepared) (now : Int) :
    Prepared (room.status member status report now) := by
  have told := quiet (quiet_push _ (.userUpdate ((room.setMember { member with status }).info
    { member with status }))) (prepared.setMember { member with status })
  unfold RoomState.status
  dsimp only
  split
  · exact told
  · split
    · exact quiet (play_quiet _ true now) (of_none rfl)
    · exact told

omit prepared in
theorem start (video : Option QueueItem) (viewers : Bool) (now : Int) :
    Prepared (room.onPlayback (Playback.start video viewers now)) :=
  of_none rfl

theorem tick (host : Host) : Prepared (room.tick host) := by
  have expired : Prepared (room.expireTemporarySpeed host.now) :=
    quiet (room.expireTemporarySpeed_quiet host.now)
      (prepared.onPlayback (Playback.steady_expireSpeed _ host.now))
  have handed := lasting.expirePreparation host expired
  unfold RoomState.tick
  dsimp only
  split
  · obtain ⟨video, made⟩ := next_quiet _ host.now
    exact quiet made (start video _ host.now)
  · exact handed

theorem applied {after : RoomState} {host : Host} {member : Member}
    {command : Command} (change : Applied host member room command after) : Prepared after := by
  cases change with
  | quiet made => exact quiet made prepared
  | played source made => exact quiet made (of_none rfl)
  | sought made => exact quiet made (reprepare host)
  | started video starts made => exact quiet made (start video _ host.now)
  | speeded made => exact quiet made (prepared.onPlayback (Playback.steady_setSpeed _ _ host.now))
  | gestureStarted playing free made =>
      exact quiet made (prepared.onPlayback (Playback.steady_startTemporarySpeed _ _ _ host.now))
  | gestureRenewed made =>
      exact quiet made (prepared.onPlayback ⟨rfl, rfl, rfl, rfl, fun _ => rfl⟩)
  | gestureStopped made =>
      exact quiet made (prepared.onPlayback (Playback.steady_clearTemporarySpeed _ host.now))
  | promoted found may made =>
      exact quiet made (lasting.reprepareFor _ host (lasting.assignRole _ _ prepared))
  | @kicked _ target _ found outranked made =>
      have named : Prepared { room with kicks := room.kicks ++ [target.id] } := prepared
      exact quiet made (named.leave _ host)
  | regranted given owner made => exact quiet made (lasting.assignGrants _ host prepared)

/-- Recovery: a stored preparation survives with its viewer, or a viewer that is left takes
over. -/
theorem recover (members : Members) (host : Host) :
    Prepared (({ snapshot := room.snapshot, members } : RoomState).recover host) := by
  unfold RoomState.recover
  dsimp only
  split
  · have none : Prepared ((RoomState.onPlayback (Playback.recoverEmpty host.now)
        { snapshot := room.snapshot, members }).emptiedAt
        (room.snapshot.emptySince.getD host.now)) := by
      refine of_none ?_
      change (Playback.recoverEmpty host.now room.snapshot.toPlayback).preparation = none
      unfold Playback.recoverEmpty
      rw [Playback.restoreSpeed_preparation]
      rfl
    split
    · exact quiet (quiet_mark _ _) none
    · exact none
  · split
    · rename_i none
      exact of_none none
    · rename_i preparation there
      split
      · rename_i client
        intro other same
        change room.snapshot.preparation = some other at same
        rw [there] at same
        cases same
        exact ⟨(prepared preparation there).1, client⟩
      · exact clearPreparation.prepare Option.none host

end Prepared

theorem prepared_invariant : RoomInvariant Prepared where
  created _ _ _ := Prepared.of_none rfl
  joined member host prepared := prepared.join member host
  left id host prepared := prepared.leave id host
  applied prepared _ change := prepared.applied change
  reported status report now prepared _ := prepared.status _ status report now
  ticked host prepared := prepared.tick host
  persisted now prepared := prepared.onPlayback (Playback.steady_anchor _ now)
  drained prepared := prepared
  recovered _ host prepared _ := prepared.recover _ host

/-! ### How playback starts -/

/-- The room does not play. -/
def Paused (room : RoomState) : Prop := room.snapshot.isPlaying = false

namespace Paused

variable {a b room : RoomState}

theorem quiet (same : Quiet a b) (paused : Paused a) : Paused b :=
  (congrArg Playback.isPlaying same.playback).trans paused

theorem prepare (paused : Paused room) (exclude : Option ClientId) (host : Host) :
    Paused (room.prepare exclude host) := by
  refine quiet (room.prepare_quiet exclude host) ?_
  change (room.snapshot.toPlayback.prepare _ host).isPlaying = false
  rw [Playback.prepare_eq]
  exact paused

theorem lasting : Lasting Paused where
  quiet := quiet
  access _ paused := paused
  clear paused := quiet (clearPreparation_quiet _) paused
  prepare exclude host paused := paused.prepare exclude host

theorem join (paused : Paused room) (member : Member) (host : Host) :
    Paused (room.join member host) := by
  have entered : Paused (room.enter member) := paused
  exact quiet (room.join_quiet member host) (entered.prepare none host)

theorem leave (paused : Paused room) (id : ClientId) (host : Host) :
    Paused (room.leave id host) := by
  cases found : room.members.get id with
  | none =>
      rw [room.leave_missing host found]
      exact paused
  | some member =>
      refine quiet (room.leave_quiet host found) ?_
      unfold RoomState.settleAfterLeave
      split
      · rfl
      · have dropped : Paused ((room.removeMember id).onPlayback
            (Playback.dropClient id host.now)) :=
          (Playback.dropClient_isPlaying _ id host.now).trans paused
        exact dropped.prepare none host

theorem tick (paused : Paused room) (host : Host) : Paused (room.tick host) := by
  have expired : Paused (room.expireTemporarySpeed host.now) :=
    quiet (room.expireTemporarySpeed_quiet host.now)
      ((Playback.expireSpeed_isPlaying _ host.now).trans paused)
  have handed := lasting.expirePreparation host expired
  unfold RoomState.tick
  dsimp only
  rw [if_neg]
  · exact handed
  · unfold Playback.ended
    rw [show _ = false from handed, Bool.false_and]
    exact Bool.false_ne_true

theorem recover (paused : Paused room) (host : Host) : Paused (room.recover host) := by
  unfold RoomState.recover
  split
  · have held : Paused ((room.onPlayback (Playback.recoverEmpty host.now)).emptiedAt
        (room.snapshot.emptySince.getD host.now)) := by
      change (Playback.recoverEmpty host.now room.snapshot.toPlayback).isPlaying = false
      unfold Playback.recoverEmpty
      rw [Playback.restoreSpeed_isPlaying]
      rfl
    dsimp only
    split
    · exact held
    · exact held
  · split
    · exact paused
    · split
      · exact paused
      · exact (lasting.clear paused).prepare none host

end Paused

/-- A command that starts playback under a preparation asks for it or starts a source. -/
theorem Prepared.resumed_by_command {room after : RoomState} (prepared : Prepared room)
    {preparation : Preparation} (there : room.snapshot.preparation = some preparation)
    {host : Host} {member : Member} {command : Command}
    (change : Applied host member room command after)
    (plays : after.snapshot.isPlaying = true) :
    command = .playback true ∨
      (command = .skip ∨ ∃ video, command = .playNow video) ∧
        ∃ video, after.snapshot.toPlayback =
          room.snapshot.toPlayback.start video (!room.members.isEmpty) host.now := by
  have awaits := (prepared preparation there).1
  have paused : Paused room := awaits.paused
  have stopped : ∀ {middle : RoomState}, Quiet middle after → Paused middle → False :=
    fun same still => Bool.noConfusion ((Paused.quiet same still).symm.trans plays)
  cases change with
  | quiet made => exact (stopped made paused).elim
  | @played state _ source made =>
      have asked : state = true := (congrArg Playback.isPlaying made.playback).symm.trans plays
      exact Or.inl (by rw [asked])
  | sought made => exact (stopped made (Paused.lasting.reprepare host paused)).elim
  | started video starts made =>
      refine Or.inr ⟨?_, video, made.playback⟩
      cases command with
      | skip => exact Or.inl rfl
      | playNow video => exact Or.inr ⟨video, rfl⟩
      | add video videos url =>
          have idle : room.snapshot.currentSource = none := starts
          have source := awaits.video
          rw [idle] at source
          cases source
      | _ => exact starts.elim
  | speeded made =>
      exact (stopped made ((Playback.clearTemporarySpeed_isPlaying ..).trans paused)).elim
  | gestureStarted playing free made => exact (stopped made paused).elim
  | gestureRenewed made => exact (stopped made paused).elim
  | gestureStopped made =>
      exact (stopped made ((Playback.clearTemporarySpeed_isPlaying ..).trans paused)).elim
  | promoted found may made =>
      exact (stopped made (Paused.lasting.reprepareFor _ host
        (Paused.lasting.assignRole _ _ paused))).elim
  | @kicked _ target _ found outranked made =>
      have named : Paused { room with kicks := room.kicks ++ [target.id] } := paused
      exact (stopped made (named.leave _ host)).elim
  | regranted given owner made =>
      exact (stopped made (Paused.lasting.assignGrants _ host paused)).elim

theorem Prepared.resumed_by_status {room : RoomState} {preparation : Preparation}
    (there : room.snapshot.preparation = some preparation) (paused : Paused room)
    {member : Member} {status : PlayerStatus} {report : Option PlaybackPrepared} {now : Int}
    (plays : (room.status member status report now).snapshot.isPlaying = true) :
    ∃ seen : RoomState, Completes preparation { member with status } status report now seen := by
  unfold RoomState.status at plays
  dsimp only at plays
  split at plays
  · exact Bool.noConfusion (paused.symm.trans plays)
  · rename_i other same
    change room.snapshot.preparation = some other at same
    rw [there] at same
    cases same
    split at plays
    · rename_i complete
      exact ⟨_, (completes_iff _).mp complete⟩
    · exact Bool.noConfusion (paused.symm.trans plays)

end RoomState

/-- The viewer that prepares reports ready, in time and in place. -/
def Step.ReadyFor (preparation : Preparation) (step : Step) : Prop :=
  ∃ report position, step.event = .status preparation.clientId .ready (some report) ∧
    report.id = preparation.id ∧ step.host.now < preparation.expiresAt ∧
    report.position = .fin position ∧ |position - preparation.position| ≤ 3 / 2

/-- Somebody asks to play. -/
def Step.AsksToPlay (step : Step) : Prop :=
  ∃ id resolved, step.event = .request id (.playback true) resolved

/-- Somebody skips, or plays a video now, and a source starts. -/
def Step.StartsSource (before after : RoomState) (step : Step) : Prop :=
  ∃ id command resolved item, step.event = .request id command resolved ∧
    (command = .skip ∨ ∃ video, command = .playNow video) ∧
    after.snapshot.toPlayback =
      before.snapshot.toPlayback.start (some item) true step.host.now

namespace RoomObject

open RoomState

variable {jsonBytes : QueueItem → Nat}

/-- How a step can start playback under a preparation. -/
theorem resumed_by_step {object after : RoomObject} {step : Step}
    (prepared : Prepared object.room) (stored : Prepared object.checkpoint)
    (taken : (system jsonBytes).Step object step after) {preparation : Preparation}
    (there : (object.origin step.event).snapshot.preparation = some preparation)
    (plays : after.room.snapshot.isPlaying = true) :
    step.ReadyFor preparation ∨ step.AsksToPlay ∨ step.StartsSource object.room after.room := by
  obtain ⟨possible, rfl⟩ := taken
  obtain ⟨host, event⟩ := step
  have stopped : Paused (next jsonBytes ⟨host, event⟩ object).room → False :=
    fun paused => Bool.noConfusion (paused.symm.trans plays)
  cases event with
  | join member =>
      have paused : Paused object.room := (prepared preparation there).1.paused
      exact (stopped (paused.join member host)).elim
  | leave id =>
      have paused : Paused object.room := (prepared preparation there).1.paused
      exact (stopped (paused.leave id host)).elim
  | request id command resolved =>
      obtain ⟨member, found, inhabited⟩ := get_of_has possible
      unfold next at plays ⊢
      simp only [found] at plays ⊢
      rcases prepared.resumed_by_command there (command_applied ..) plays with
        rfl | ⟨starts, video, made⟩
      · exact Or.inr (Or.inl ⟨id, resolved, rfl⟩)
      · have began : (video.isSome && !object.room.members.isEmpty) = true :=
          (congrArg Playback.isPlaying made).symm.trans plays
        rw [Bool.and_eq_true] at began
        obtain ⟨item, rfl⟩ := Option.isSome_iff_exists.mp began.1
        rw [began.2] at made
        exact Or.inr (Or.inr ⟨id, command, resolved, item, rfl, starts, made⟩)
  | http session command resolved =>
      rcases prepared.resumed_by_command there (command_applied ..) plays with
        rfl | ⟨rfl | ⟨video, rfl⟩, _⟩
      · cases possible.1
      · cases possible.1
      · cases possible.1
  | status id status report =>
      obtain ⟨member, found, _⟩ := get_of_has possible
      have paused : Paused object.room := (prepared preparation there).1.paused
      unfold next at plays
      simp only [found] at plays
      obtain ⟨seen, complete⟩ := Prepared.resumed_by_status there paused plays
      obtain ⟨report, position, rfl, same, finite, near⟩ := complete.report
      have client : preparation.clientId = id :=
        complete.client.trans (Members.mem_of_get found).2
      rw [complete.ready, ← client]
      exact Or.inl ⟨report, position, rfl, same, complete.unexpired, finite, near⟩
  | tick =>
      have paused : Paused object.room := (prepared preparation there).1.paused
      exact (stopped (paused.tick host)).elim
  | commit checkpoint =>
      have paused : Paused object.room := (prepared preparation there).1.paused
      refine (stopped ?_).elim
      unfold next commit
      dsimp only
      split
      · exact paused
      · exact paused
  | restart kept =>
      have paused : Paused (object.restored kept) := (stored preparation there).1.paused
      exact (stopped (paused.recover host)).elim

/-- A preparation says how playback stands and is a member's, and playback starts under it
by its viewer's report, on request, or with a source that a skip or a play-now command
starts, be it the same video again. -/
theorem preparation_holds {object : RoomObject}
    (reachable : (system jsonBytes).Reachable object) :
    (∀ preparation, object.room.snapshot.preparation = some preparation →
      object.room.snapshot.isPlaying = false ∧
      object.room.snapshot.resumeOnNextJoin = true ∧
      object.room.snapshot.currentSource.map QueueItem.toVideoId = some preparation.video ∧
      (∀ now, preparation.position = object.room.position now) ∧
      object.room.members.has preparation.clientId = true) ∧
    ∀ step after preparation, (system jsonBytes).Step object step after →
      (object.origin step.event).snapshot.preparation = some preparation →
      after.room.snapshot.isPlaying = true →
      step.ReadyFor preparation ∨ step.AsksToPlay ∨
        step.StartsSource object.room after.room := by
  obtain ⟨prepared, stored⟩ := holds_of_reachable prepared_invariant reachable
  constructor
  · intro preparation there
    obtain ⟨awaits, client⟩ := prepared preparation there
    exact ⟨awaits.paused, awaits.resumes, awaits.video,
      fun now => awaits.position.trans (Playback.positionAt_paused awaits.paused now).symm, client⟩
  · intro step after preparation taken there plays
    exact resumed_by_step prepared stored taken there plays

/-- A loop room with one clip: Ann plays it, leaves and comes back to prepare it. -/
def loopOptions : RoomOptions where
  name := "loop"
  queueMode := some .loop

def returnSteps : List Step :=
  [⟨{ now := 1000 }, .join ann⟩,
    ⟨{ now := 2000 }, .request "a" (.add none none (some "clip")) [clip]⟩,
    ⟨{ now := 9000 }, .leave "a"⟩,
    ⟨{ now := 20000, randomUUID := "p" }, .join ann⟩]

/-- The room in which Ann prepares the clip. -/
def returnRoom : RoomObject :=
  after (fun _ => 0) returnSteps (create loopOptions annSession 0)

/-- She skips, and the clip starts again. -/
def skipStep : Step where
  host := { now := 21000 }
  event := .request "a" .skip []

/-- What Ann prepares. -/
def returnPreparation : Preparation where
  id := "p"
  clientId := "a"
  video := clip.toVideoId
  position := 7
  expiresAt := 50000

theorem preparation_holds_return :
    returnRoom.room.snapshot.preparation.isSome = true ∧
      returnRoom.room.snapshot.isPlaying = false ∧
      skipStep.StartsSource returnRoom.room (returnRoom.next (fun _ => 0) skipStep).room := by
  have reachable : (system fun _ => 0).Reachable returnRoom :=
    reachable_after loopOptions annSession 0 returnSteps (by decide +kernel)
  have holds := preparation_holds reachable
  have there : returnRoom.room.snapshot.preparation = some returnPreparation := by decide +kernel
  have started := holds.2 skipStep (returnRoom.next (fun _ => 0) skipStep) returnPreparation
    (step_next (by decide +kernel)) (by decide +kernel) (by decide +kernel)
  refine ⟨by rw [there]; rfl, (holds.1 _ there).1, ?_⟩
  rcases started with ⟨_, _, event, _⟩ | ⟨_, _, event⟩ | starts
  · cases event
  · cases event
  · exact starts

/-- Skipping starts the same source under a preparation, without a report or a request. -/
theorem skip_restarts_the_source :
    ¬ ∀ (object after : RoomObject) (step : Step) (preparation : Preparation),
      (system fun _ => 0).Reachable object → (system fun _ => 0).Step object step after →
      (object.origin step.event).snapshot.preparation = some preparation →
      object.room.snapshot.isPlaying = false → after.room.snapshot.isPlaying = true →
      after.room.snapshot.currentSource = object.room.snapshot.currentSource →
      step.ReadyFor preparation ∨ step.AsksToPlay := by
  intro claim
  have reachable : (system fun _ => 0).Reachable returnRoom :=
    reachable_after loopOptions annSession 0 returnSteps (by decide +kernel)
  rcases claim returnRoom (returnRoom.next (fun _ => 0) skipStep) skipStep returnPreparation
    reachable (step_next (by decide +kernel)) (by decide +kernel) (by decide +kernel)
    (by decide +kernel) (by decide +kernel) with ⟨_, _, event, _⟩ | ⟨_, _, event⟩
  · cases event
  · cases event

end RoomObject

end OpenTogetherTube.Edge
