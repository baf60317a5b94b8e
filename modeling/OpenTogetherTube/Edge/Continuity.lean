import OpenTogetherTube.Edge.Invariance

/-!
# Edge rooms: the clock and the temporary speed

A change of speed or of the play state anchors the clock first, so the position at that
instant stays what it was. A temporary speed is a speed of 2 with the speed to go back to,
and its end goes back to it.
-/

namespace OpenTogetherTube.Edge

open Lib

namespace Playback

variable (s : Playback)

/-- Playback that was anchored at this instant where it was is still there. -/
theorem positionAt_anchored {s t : Playback} {now : Int}
    (position : t.position = s.positionAt now) (anchored : t.anchorAt = now) :
    t.positionAt now = s.positionAt now := by
  have elapsed : (max 0 ((now - t.anchorAt : Int) : ℚ)) = 0 := by
    rw [anchored, sub_self, Int.cast_zero, max_self]
  have nonneg : 0 ≤ s.positionAt now := le_max_left _ _
  rw [← position] at nonneg
  unfold positionAt at position ⊢
  rw [elapsed, zero_div, zero_mul, ite_self, add_zero, max_eq_right nonneg, position]

@[simp] theorem positionAt_anchor (now : Int) :
    (s.anchor now).positionAt now = s.positionAt now :=
  positionAt_anchored rfl rfl

@[simp] theorem positionAt_clearPreparation (now : Int) :
    s.clearPreparation.positionAt now = s.positionAt now := rfl

@[simp] theorem positionAt_play (value : Bool) (now : Int) :
    (s.play value now).positionAt now = s.positionAt now :=
  positionAt_anchored rfl rfl

@[simp] theorem positionAt_hold (now : Int) : (s.hold now).positionAt now = s.positionAt now :=
  positionAt_anchored rfl rfl

@[simp] theorem positionAt_clearTemporarySpeed (now : Int) :
    (s.clearTemporarySpeed now).positionAt now = s.positionAt now := by
  unfold clearTemporarySpeed
  split
  · rfl
  · exact positionAt_anchored rfl rfl

@[simp] theorem positionAt_setSpeed (speed : ℚ) (now : Int) :
    (s.setSpeed speed now).positionAt now = s.positionAt now :=
  (positionAt_anchored rfl rfl).trans (s.positionAt_clearTemporarySpeed now)

@[simp] theorem positionAt_startTemporarySpeed (clientId : ClientId) (gestureId : String)
    (now : Int) :
    (s.startTemporarySpeed clientId gestureId now).positionAt now = s.positionAt now :=
  positionAt_anchored rfl rfl

@[simp] theorem positionAt_prepare (preparer : Option Member) (host : Host) (now : Int) :
    (s.prepare preparer host).positionAt now = s.positionAt now := by
  rw [prepare_eq]
  rfl

@[simp] theorem positionAt_expireSpeed (now : Int) :
    (s.expireSpeed now).positionAt now = s.positionAt now := by
  unfold expireSpeed
  split <;> simp

@[simp] theorem positionAt_dropClient (id : ClientId) (now : Int) :
    (s.dropClient id now).positionAt now = s.positionAt now := by
  unfold dropClient dropPreparationOf endGestureOf
  split <;> split <;> simp

/-- Whether a source is at its end depends on source, play state and position. -/
theorem ended_congr {s t : Playback} {now : Int} (isPlaying : t.isPlaying = s.isPlaying)
    (source : t.currentSource = s.currentSource)
    (position : t.positionAt now = s.positionAt now) : t.ended now = s.ended now := by
  unfold ended
  rw [isPlaying, source, position]

end Playback

namespace RoomState

variable {a b room : RoomState}

/-! ### The position at an instant -/

/-- At `now`, playback is at `place`, and at the end of its source or not. -/
structure At (now : Int) (place : ℚ) (past : Bool) (room : RoomState) : Prop where
  position : room.position now = place
  ended : room.snapshot.ended now = past

namespace At

variable {now : Int} {place : ℚ} {past : Bool}

/-- A change of the playback that does not show at `now`. -/
theorem onPlayback (here : At now place past room) {update : Playback → Playback}
    (isPlaying : (update room.snapshot.toPlayback).isPlaying = room.snapshot.isPlaying)
    (source : (update room.snapshot.toPlayback).currentSource = room.snapshot.currentSource)
    (position : (update room.snapshot.toPlayback).positionAt now = room.snapshot.positionAt now) :
    At now place past (room.onPlayback update) where
  position := position.trans here.position
  ended := (Playback.ended_congr isPlaying source position).trans here.ended

theorem quiet (same : Quiet a b) (here : At now place past a) : At now place past b := by
  refine ⟨?_, ?_⟩
  · unfold RoomState.position
    rw [same.playback]
    exact here.position
  · rw [same.playback]
    exact here.ended

theorem lasting : Lasting (At now place past) where
  quiet := quiet
  access _ here := ⟨here.position, here.ended⟩
  clear here := quiet (clearPreparation_quiet _) (here.onPlayback rfl rfl rfl)
  prepare exclude host here := by
    refine quiet (prepare_quiet _ exclude host) (here.onPlayback ?_ ?_ ?_)
    · rw [Playback.prepare_eq]
    · rw [Playback.prepare_eq]
    · rw [Playback.positionAt_prepare]

theorem expireTemporarySpeed (here : At now place past room) :
    At now place past (room.expireTemporarySpeed now) :=
  quiet (room.expireTemporarySpeed_quiet now) (here.onPlayback
    (Playback.expireSpeed_isPlaying ..) (Playback.expireSpeed_currentSource ..)
    (Playback.positionAt_expireSpeed ..))

end At

/-- Leaving does not move playback. -/
theorem position_leave (id : ClientId) (host : Host) :
    (room.leave id host).position host.now = room.position host.now := by
  cases found : room.members.get id with
  | none => rw [room.leave_missing host found]
  | some member =>
      have made := room.leave_quiet host found
      unfold RoomState.position
      rw [made.playback]
      generalize removed : (room.removeMember id).onPlayback (Playback.dropClient id host.now) =
        left
      have dropped : left.snapshot.positionAt host.now = room.snapshot.positionAt host.now := by
        rw [← removed]
        exact Playback.positionAt_dropClient _ id host.now
      unfold settleAfterLeave
      split
      · exact (Playback.positionAt_hold _ host.now).trans dropped
      · rw [(left.prepare_quiet none host).playback]
        exact (Playback.positionAt_prepare _ _ host host.now).trans dropped

/-- A tick that does not end the source does not move playback. -/
theorem position_tick (host : Host) (lasting : room.snapshot.ended host.now = false) :
    (room.tick host).position host.now = room.position host.now := by
  have here : At host.now (room.position host.now) false room := ⟨rfl, lasting⟩
  have handed := At.lasting.expirePreparation host here.expireTemporarySpeed
  unfold tick
  dsimp only
  rw [if_neg (by rw [handed.ended]; exact Bool.false_ne_true)]
  exact handed.position

end RoomState

/-- The commands that change the play state or the speed, or make a client leave. -/
def Command.keepsPosition : Command → Bool
  | .playback _ | .playbackSpeed _ | .temporaryPlaybackSpeed _ _ _ | .kick _ => true
  | _ => false

namespace RoomState

/-- Such a command does not move playback. -/
theorem position_command {room after : RoomState} {host : Host} {member : Member}
    {command : Command} (keeps : command.keepsPosition = true)
    (change : Applied host member room command after) :
    after.position host.now = room.position host.now := by
  have reads : ∀ {update : Playback → Playback},
      RoomState.Quiet (room.onPlayback update) after →
      (update room.snapshot.toPlayback).positionAt host.now = room.snapshot.positionAt host.now →
      after.position host.now = room.position host.now := by
    intro update made same
    unfold RoomState.position
    rw [made.playback]
    exact same
  cases change with
  | quiet made =>
      unfold RoomState.position
      rw [made.playback]
  | played source made => exact reads made (Playback.positionAt_play _ _ host.now)
  | speeded made => exact reads made (Playback.positionAt_setSpeed _ _ host.now)
  | gestureStarted playing free made =>
      exact reads made (Playback.positionAt_startTemporarySpeed _ _ _ host.now)
  | gestureRenewed made => exact reads made rfl
  | gestureStopped made => exact reads made (Playback.positionAt_clearTemporarySpeed _ host.now)
  | started video starts made =>
      cases command with
      | skip => cases keeps
      | add video videos url => cases keeps
      | playNow video => cases keeps
      | _ => exact starts.elim
  | sought made => cases keeps
  | promoted found may made => cases keeps
  | @kicked _ target _ found outranked made =>
      unfold RoomState.position
      rw [made.playback]
      exact position_leave target.id host
  | regranted given owner made => cases keeps

end RoomState

/-! ### The temporary speed -/

namespace Playback

/-- A property of the speed that the end of a temporary speed and a new lease keep. -/
structure OfSpeed (holds : Playback → Prop) : Prop where
  congr : ∀ {s t : Playback}, holds s → t.temporarySpeed = s.temporarySpeed →
    t.playbackSpeed = s.playbackSpeed → holds t
  restored : ∀ {s t : Playback} {previous}, s.temporarySpeed = some previous →
    t.temporarySpeed = none → t.playbackSpeed = previous.previousSpeed → holds s → holds t
  renewed : ∀ {s : Playback} now, holds s → holds (s.renewTemporarySpeed now)

/-- A temporary speed is a speed of 2. -/
def Doubled (s : Playback) : Prop := s.temporarySpeed ≠ none → s.playbackSpeed = 2

/-- The temporary speed lasts, perhaps with a new lease, or it has ended and the speed is
the one it recorded. -/
def Settled (temporary : TemporarySpeed) (s : Playback) : Prop :=
  (∃ lease, s.temporarySpeed = some { temporary with expiresAt := lease }) ∨
    s.temporarySpeed = none ∧ s.playbackSpeed = temporary.previousSpeed

theorem doubled_of_none {s : Playback} (none : s.temporarySpeed = none) : Doubled s :=
  fun some => absurd none some

theorem doubled_ofSpeed : OfSpeed Doubled where
  congr doubled temporary speed := by
    unfold Doubled at doubled ⊢
    rw [temporary, speed]
    exact doubled
  restored _ none _ _ := doubled_of_none none
  renewed {s} now doubled := by
    intro some
    refine doubled fun none => some ?_
    unfold renewTemporarySpeed
    rw [none]
    rfl

theorem settled_ofSpeed (temporary : TemporarySpeed) : OfSpeed (Settled temporary) where
  congr settled same speed := by
    unfold Settled at settled ⊢
    rw [same, speed]
    exact settled
  restored {s t previous} there none speed settled := by
    rcases settled with ⟨lease, same⟩ | ⟨absent, _⟩
    · rw [there] at same
      cases same
      exact Or.inr ⟨none, speed⟩
    · rw [there] at absent
      cases absent
  renewed {s} now settled := by
    rcases settled with ⟨lease, same⟩ | ⟨absent, speed⟩
    · refine Or.inl ⟨now + 5000, ?_⟩
      unfold renewTemporarySpeed
      rw [same]
      rfl
    · refine Or.inr ⟨?_, speed⟩
      unfold renewTemporarySpeed
      rw [absent]
      rfl

namespace OfSpeed

variable {holds : Playback → Prop} {s : Playback}

theorem clearTemporarySpeed (kept : OfSpeed holds) (now : Int) (before : holds s) :
    holds (s.clearTemporarySpeed now) := by
  unfold Playback.clearTemporarySpeed
  split
  · exact before
  · rename_i previous there
    exact kept.restored there rfl rfl before

theorem expireSpeed (kept : OfSpeed holds) (now : Int) (before : holds s) :
    holds (s.expireSpeed now) := by
  unfold Playback.expireSpeed
  split
  · exact kept.clearTemporarySpeed now before
  · exact before

theorem dropClient (kept : OfSpeed holds) (id : ClientId) (now : Int) (before : holds s) :
    holds (s.dropClient id now) := by
  have ended : holds (s.endGestureOf id now) := by
    unfold Playback.endGestureOf
    split
    · exact kept.clearTemporarySpeed now before
    · exact before
  unfold Playback.dropClient Playback.dropPreparationOf
  split
  · exact kept.congr ended rfl rfl
  · exact ended

theorem recoverEmpty (kept : OfSpeed holds) (now : Int) (before : holds s) :
    holds (s.recoverEmpty now) := by
  unfold Playback.recoverEmpty Playback.restoreSpeed
  split
  · exact kept.congr before rfl rfl
  · rename_i previous there
    exact kept.restored there rfl rfl (kept.congr before rfl rfl)

end OfSpeed

end Playback

namespace RoomState

open Playback (OfSpeed)

variable {holds : Playback → Prop} {room : RoomState}

variable (kept : OfSpeed holds)

include kept

theorem lasting_ofSpeed :
    Lasting fun room => holds room.snapshot.toPlayback where
  quiet same before := by
    rw [same.playback]
    exact before
  access _ before := before
  clear before := by
    rw [(clearPreparation_quiet _).playback]
    exact kept.congr before rfl rfl
  prepare exclude host before := by
    rw [(prepare_quiet _ exclude host).playback]
    change holds (Playback.prepare _ host _)
    rw [Playback.prepare_eq]
    exact kept.congr before rfl rfl

theorem ofSpeed_join (member : Member) (host : Host)
    (before : holds room.snapshot.toPlayback) :
    holds (room.join member host).snapshot.toPlayback :=
  (lasting_ofSpeed kept).quiet (room.join_quiet member host)
    ((lasting_ofSpeed kept).prepare none host before)

theorem ofSpeed_leave (id : ClientId) (host : Host)
    (before : holds room.snapshot.toPlayback) :
    holds (room.leave id host).snapshot.toPlayback := by
  cases found : room.members.get id with
  | none =>
      rw [room.leave_missing host found]
      exact before
  | some member =>
      refine (lasting_ofSpeed kept).quiet (room.leave_quiet host found) ?_
      have dropped := kept.dropClient id host.now before
      unfold settleAfterLeave
      split
      · exact kept.congr dropped rfl rfl
      · exact (lasting_ofSpeed kept).prepare none host dropped

theorem ofSpeed_status (member : Member) (status : PlayerStatus)
    (report : Option PlaybackPrepared) (now : Int) (before : holds room.snapshot.toPlayback) :
    holds (room.status member status report now).snapshot.toPlayback := by
  unfold RoomState.status
  dsimp only
  split
  · exact before
  · split
    · exact (lasting_ofSpeed kept).quiet (play_quiet _ true now) (kept.congr before rfl rfl)
    · exact before

theorem ofSpeed_recover (host : Host)
    (before : holds room.snapshot.toPlayback) :
    holds (room.recover host).snapshot.toPlayback := by
  unfold RoomState.recover
  split
  · dsimp only
    split
    · exact kept.recoverEmpty host.now before
    · exact kept.recoverEmpty host.now before
  · split
    · exact before
    · split
      · exact before
      · exact (lasting_ofSpeed kept).prepare none host ((lasting_ofSpeed kept).clear before)

/-- The part of a tick before the next item. -/
theorem ofSpeed_expire (host : Host)
    (before : holds room.snapshot.toPlayback) :
    holds ((room.expireTemporarySpeed host.now).expirePreparation host).snapshot.toPlayback :=
  (lasting_ofSpeed kept).expirePreparation host ((lasting_ofSpeed kept).quiet
    (room.expireTemporarySpeed_quiet host.now) (kept.expireSpeed host.now before))

omit kept in
/-- Started sources play at speed 1 and without a temporary speed. -/
theorem speed_start (s : Playback) (video : Option QueueItem) (viewers : Bool) (now : Int) :
    (s.start video viewers now).temporarySpeed = none ∧
      (s.start video viewers now).playbackSpeed = 1 :=
  ⟨Playback.clearTemporarySpeed_temporarySpeed s now, rfl⟩

omit kept in
/-- So does the next item. -/
theorem speed_next (room : RoomState) (now : Int) :
    (room.next now).snapshot.temporarySpeed = none ∧
      (room.next now).snapshot.playbackSpeed = 1 := by
  obtain ⟨video, made⟩ := room.next_quiet now
  rw [made.playback]
  exact speed_start _ video _ now

/-- A command keeps the property, or sets the speed, begins a temporary speed or starts a
source. -/
theorem ofSpeed_command {host : Host} {member : Member}
    {command : Command} {after : RoomState} (change : Applied host member room command after)
    (before : holds room.snapshot.toPlayback) :
    holds after.snapshot.toPlayback ∨
      (∃ speed, command = .playbackSpeed speed ∧
        after.snapshot.temporarySpeed = none ∧ after.snapshot.playbackSpeed = speed) ∨
      (room.snapshot.temporarySpeed = none ∧ after.snapshot.playbackSpeed = 2) ∨
      (command.Starts room ∧ after.snapshot.temporarySpeed = none ∧
        after.snapshot.playbackSpeed = 1) := by
  have lasting := lasting_ofSpeed kept
  cases change with
  | quiet made => exact Or.inl (lasting.quiet made before)
  | played source made => exact Or.inl (lasting.quiet made (kept.congr before rfl rfl))
  | sought made =>
      refine Or.inl (lasting.quiet made (lasting.reprepare host ?_))
      exact kept.congr before rfl rfl
  | started video starts made =>
      refine Or.inr (Or.inr (Or.inr ⟨starts, ?_⟩))
      rw [made.playback]
      exact speed_start _ video _ host.now
  | speeded made =>
      refine Or.inr (Or.inl ⟨_, rfl, ?_⟩)
      rw [made.playback]
      exact ⟨Playback.clearTemporarySpeed_temporarySpeed _ host.now, rfl⟩
  | gestureStarted playing free made =>
      refine Or.inr (Or.inr (Or.inl ⟨free, ?_⟩))
      rw [made.playback]
      rfl
  | gestureRenewed made => exact Or.inl (lasting.quiet made (kept.renewed host.now before))
  | gestureStopped made =>
      exact Or.inl (lasting.quiet made (kept.clearTemporarySpeed host.now before))
  | promoted found may made =>
      exact Or.inl (lasting.quiet made (lasting.reprepareFor _ host
        (lasting.assignRole _ _ before)))
  | @kicked _ target _ found outranked made =>
      exact Or.inl (lasting.quiet made (ofSpeed_leave kept target.id host before))
  | regranted given owner made =>
      exact Or.inl (lasting.quiet made (lasting.assignGrants _ host before))

omit kept

theorem doubled_invariant : RoomInvariant fun room => Playback.Doubled room.snapshot.toPlayback where
  created _ _ _ := Playback.doubled_of_none rfl
  joined member host := ofSpeed_join Playback.doubled_ofSpeed member host
  left id host := ofSpeed_leave Playback.doubled_ofSpeed id host
  applied doubled _ change := by
    rcases ofSpeed_command Playback.doubled_ofSpeed change doubled with
      kept | ⟨_, _, none, _⟩ | ⟨_, two⟩ | ⟨_, none, _⟩
    · exact kept
    · exact Playback.doubled_of_none none
    · exact fun _ => two
    · exact Playback.doubled_of_none none
  reported status report now doubled _ :=
    ofSpeed_status Playback.doubled_ofSpeed _ status report now doubled
  ticked {room} host doubled := by
    have expired := ofSpeed_expire Playback.doubled_ofSpeed host doubled
    unfold tick
    dsimp only
    split
    · exact Playback.doubled_of_none (speed_next _ host.now).1
    · exact expired
  persisted now doubled := Playback.doubled_ofSpeed.congr doubled rfl rfl
  drained doubled := doubled
  recovered _ host doubled := fun _ => ofSpeed_recover Playback.doubled_ofSpeed host doubled

end RoomState

/-- The steps that set an explicit speed. -/
def Step.SetsSpeed (speed : ℚ) (step : Step) : Prop :=
  ∃ id resolved, step.event = .request id (.playbackSpeed speed) resolved

/-- The steps that start a source: some commands, and a tick at the end of the current
source. -/
def Step.Starts (room : RoomState) (step : Step) : Prop :=
  match step.event with
  | .request _ command _ | .http _ command _ => command.Starts room
  | .tick => room.snapshot.ended step.host.now = true
  | _ => False

/-- The steps that are not to move playback: commands for the play state and the speed,
leaving and kicks, commits, and ticks before the end of the source. -/
def Step.KeepsPosition (room : RoomState) (step : Step) : Prop :=
  match step.event with
  | .request _ command _ | .http _ command _ => command.keepsPosition = true
  | .leave _ | .commit _ => True
  | .tick => room.snapshot.ended step.host.now = false
  | _ => False

namespace RoomObject

open RoomState Playback

variable {jsonBytes : QueueItem → Nat}

theorem position_step {object after : RoomObject} {step : Step}
    (taken : (system jsonBytes).Step object step after)
    (keeps : step.KeepsPosition object.room) :
    after.room.position step.host.now = object.room.position step.host.now := by
  obtain ⟨possible, rfl⟩ := taken
  obtain ⟨host, event⟩ := step
  cases event with
  | request id command resolved =>
      obtain ⟨member, found, _⟩ := get_of_has possible
      unfold next
      simp only [found]
      exact position_command keeps (command_applied ..)
  | http session command resolved => exact position_command keeps (command_applied ..)
  | leave id => exact position_leave id host
  | tick => exact position_tick host keeps
  | commit checkpoint =>
      unfold next commit
      dsimp only
      split
      · exact Playback.positionAt_anchor _ host.now
      · rfl
  | join member => exact keeps.elim
  | status id status prepared => exact keeps.elim
  | restart kept => exact keeps.elim

theorem settled_step {object after : RoomObject} {step : Step}
    (taken : (system jsonBytes).Step object step after) {temporary : TemporarySpeed}
    (there : (object.origin step.event).snapshot.temporarySpeed = some temporary) :
    Settled temporary after.room.snapshot.toPlayback ∨
      after.room.snapshot.temporarySpeed = none ∧
        (step.SetsSpeed after.room.snapshot.playbackSpeed ∨
          step.Starts object.room ∧ after.room.snapshot.playbackSpeed = 1) := by
  obtain ⟨possible, rfl⟩ := taken
  obtain ⟨host, event⟩ := step
  have kept := settled_ofSpeed temporary
  have begins : ∀ {room : RoomState}, room.snapshot.temporarySpeed = some temporary →
      Settled temporary room.snapshot.toPlayback := fun same => Or.inl ⟨temporary.expiresAt, same⟩
  cases event with
  | join member => exact Or.inl (ofSpeed_join kept member host (begins there))
  | leave id => exact Or.inl (ofSpeed_leave kept id host (begins there))
  | request id command resolved =>
      obtain ⟨member, found, _⟩ := get_of_has possible
      unfold next
      simp only [found]
      rcases ofSpeed_command kept (@command_applied jsonBytes host command member
        resolved object) (begins there) with
        settled | ⟨speed, rfl, none, explicit⟩ | ⟨none, _⟩ | ⟨starts, none, one⟩
      · exact Or.inl settled
      · exact Or.inr ⟨none, Or.inl ⟨id, resolved, by rw [explicit]⟩⟩
      · change object.room.snapshot.temporarySpeed = some temporary at there
        rw [none] at there
        cases there
      · exact Or.inr ⟨none, Or.inr ⟨starts, one⟩⟩
  | http session command resolved =>
      rcases ofSpeed_command kept (@command_applied jsonBytes host command
        (object.room.memberFor session) resolved object) (begins there) with
        settled | ⟨speed, rfl, _⟩ | ⟨none, _⟩ | ⟨starts, none, one⟩
      · exact Or.inl settled
      · cases possible.1
      · change object.room.snapshot.temporarySpeed = some temporary at there
        rw [none] at there
        cases there
      · exact Or.inr ⟨none, Or.inr ⟨starts, one⟩⟩
  | status id status prepared =>
      obtain ⟨member, found, _⟩ := get_of_has possible
      unfold next
      simp only [found]
      exact Or.inl (ofSpeed_status kept member status prepared host.now (begins there))
  | tick =>
      have here : At host.now (object.room.position host.now)
        (object.room.snapshot.ended host.now) object.room := ⟨rfl, rfl⟩
      have handed := At.lasting.expirePreparation host here.expireTemporarySpeed
      have expired := ofSpeed_expire kept host (begins there)
      unfold next tick
      dsimp only
      split
      · rename_i past
        obtain ⟨none, one⟩ := speed_next
          ((object.room.expireTemporarySpeed host.now).expirePreparation host) host.now
        exact Or.inr ⟨none, Or.inr ⟨handed.ended.symm.trans past, one⟩⟩
      · exact Or.inl expired
  | commit checkpoint =>
      unfold next commit
      dsimp only
      split
      · exact Or.inl (kept.congr (begins there) rfl rfl)
      · exact Or.inl (begins there)
  | restart kept' => exact Or.inl (ofSpeed_recover kept host (begins there))

/-- In every reachable room, play-state and speed commands, leaving, commits and the end of
a temporary speed in a tick leave the position of that instant alone, a temporary speed is
a speed of 2, and its end restores the speed it recorded, unless the step sets a speed or
starts a source. -/
theorem clock_continues {object : RoomObject} (reachable : (system jsonBytes).Reachable object) :
    (∀ step after, (system jsonBytes).Step object step after → step.KeepsPosition object.room →
      after.room.position step.host.now = object.room.position step.host.now) ∧
    (∀ now, (object.room.expireTemporarySpeed now).position now = object.room.position now) ∧
    (∀ now, (object.room.persisted now).position now = object.room.position now) ∧
    (object.room.snapshot.temporarySpeed ≠ none → object.room.snapshot.playbackSpeed = 2) ∧
    ∀ step after temporary, (system jsonBytes).Step object step after →
      (object.origin step.event).snapshot.temporarySpeed = some temporary →
      (∃ lease, after.room.snapshot.temporarySpeed =
        some { temporary with expiresAt := lease }) ∨
      after.room.snapshot.temporarySpeed = none ∧
        (after.room.snapshot.playbackSpeed = temporary.previousSpeed ∨
          step.SetsSpeed after.room.snapshot.playbackSpeed ∨
          step.Starts object.room ∧ after.room.snapshot.playbackSpeed = 1) := by
  refine ⟨fun step after => position_step, fun now => ?_, fun now => ?_,
    (holds_of_reachable doubled_invariant reachable).1, ?_⟩
  · exact (At.expireTemporarySpeed ⟨rfl, rfl⟩ :
      At now (object.room.position now) (object.room.snapshot.ended now) _).position
  · exact Playback.positionAt_anchor _ now
  · intro step after temporary taken there
    rcases settled_step taken there with (lasts | ⟨none, restored⟩) | ⟨none, otherwise⟩
    · exact Or.inl lasts
    · exact Or.inr ⟨none, Or.inl restored⟩
    · exact Or.inr ⟨none, Or.inr otherwise⟩

/-- Bob speeds the clip up for Ann and himself. -/
def gestureSteps : List Step :=
  [⟨{ now := 1000 }, .join ann⟩, ⟨{ now := 1000 }, .join bob⟩,
    ⟨{ now := 2000 }, .request "a" (.add none none (some "clip")) [clip]⟩,
    ⟨{ now := 4000 }, .request "a" (.playbackSpeed (3 / 2)) []⟩,
    ⟨{ now := 6000 },
      .request "b" (.temporaryPlaybackSpeed .start "g" clip.toVideoId) []⟩]

def gestureRoom : RoomObject :=
  after (fun _ => 0) gestureSteps (create smallOptions annSession 0)

/-- Bob leaves three seconds later. -/
def bobLeaves : Step where
  host := { now := 9000 }
  event := .leave "b"

/-- The position stays at 2 + 3 + 6 seconds and the speed goes back to 3/2. -/
theorem clock_continues_gesture :
    gestureRoom.room.snapshot.playbackSpeed = 2 ∧
      (gestureRoom.next (fun _ => 0) bobLeaves).room.position 9000 =
        gestureRoom.room.position 9000 ∧
      (gestureRoom.next (fun _ => 0) bobLeaves).room.snapshot.playbackSpeed = 3 / 2 := by
  have reachable : (system fun _ => 0).Reachable gestureRoom :=
    reachable_after smallOptions annSession 0 gestureSteps (by decide +kernel)
  obtain ⟨position, _, _, doubled, restores⟩ := clock_continues reachable
  have left : (system fun _ => 0).Step gestureRoom bobLeaves
      (gestureRoom.next (fun _ => 0) bobLeaves) := step_next (by decide +kernel)
  refine ⟨doubled (by decide +kernel), position bobLeaves _ left trivial, ?_⟩
  have ends := restores bobLeaves _
    { clientId := "b", gestureId := "g", previousSpeed := 3 / 2, expiresAt := 11000 } left
    (by decide +kernel)
  rcases ends with ⟨_, lasts⟩ | ⟨_, restored | ⟨_, _, asked⟩ | ⟨started, _⟩⟩
  · have ended : (gestureRoom.next (fun _ => 0) bobLeaves).room.snapshot.temporarySpeed = none := by
      decide +kernel
    rw [ended] at lasts
    cases lasts
  · exact restored
  · cases asked
  · exact started.elim

end RoomObject

end OpenTogetherTube.Edge
