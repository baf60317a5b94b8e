import OpenTogetherTube.Room.Invariants

/-!
# Preparation rounds over whole runs

What an effect can do to the round a room holds, the facts about rounds in every
reachable state, and the end of a held start: the tick past a round's deadline schedules
it or ends it, and the tick past its start time ends it.
-/

namespace OpenTogetherTube

open Lib Lib.Handler

/-- What one effect can do to the held start. -/
inductive RoundChange (scope : Scope) (p q : HeldStart) : Prop
  | kept (round : q.playbackPreparation = p.playbackPreparation) (rounds : q.rounds = p.rounds)
      (starts : q.starts = p.starts)
  | lost (gone : q.playbackPreparation = none) (rounds : q.rounds = p.rounds)
      (starts : q.starts = p.starts)
  | edited (before after : PlaybackPreparation) (present : p.playbackPreparation = some before)
      (round : q.playbackPreparation = some after) (id : after.id = before.id)
      (startAt : after.startAt = before.startAt ∨ before.startAt = none ∧
        ∃ time, after.startAt = some time ∧ time ≤ scope.now + PLAYBACK_START_LEAD_MS)
      (rounds : q.rounds = p.rounds) (starts : q.starts = p.starts)
  | created (round : PlaybackPreparation) (present : q.playbackPreparation = some round)
      (id : round.id = scope.uuid) (fresh : scope.uuid ∉ p.rounds)
      (unscheduled : round.startAt = none) (rounds : q.rounds = scope.uuid :: p.rounds)
      (starts : q.starts = p.starts)
  | started (start : RoundStart) (gone : q.playbackPreparation = none) (rounds : q.rounds = p.rounds)
      (starts : q.starts = start :: p.starts)

namespace RoundChange

variable {scope : Scope} {p q : Playback}

theorem same (held : q.toHeldStart = p.toHeldStart) : RoundChange scope p.toHeldStart q.toHeldStart :=
  .kept (by rw [held]) (by rw [held]) (by rw [held])

/-- The round was cancelled. -/
theorem dropped (held : q.toHeldStart = p.toHeldStart.dropped) :
    RoundChange scope p.toHeldStart q.toHeldStart :=
  .lost (by rw [held]; rfl) (by rw [held]; rfl) (by rw [held]; rfl)

theorem of_effect (effect : Effect scope p q) : RoundChange scope p.toHeldStart q.toHeldStart := by
  cases effect with
  | pending pending => exact .same rfl
  | speedEnded => exact .same (by simp)
  | speedChanged speed nonneg counts => exact .same (by simp)
  | spedUp clientId gestureId playing plain source => exact .same (by simp)
  | speedReset plain still => exact .same (by simp)
  | played cause => exact .dropped (by simp)
  | released timedOut audience due =>
      rcases Playback.releaseBufferGate_cases p scope.now timedOut audience with
        ⟨_, same⟩ | ⟨gate, _, same | ⟨_, _, _, same⟩⟩
      · exact .same (by rw [same])
      · exact .same (by rw [same]; simp)
      · exact .dropped (by rw [same]; simp)
  | waited gate waitingOn held armed => exact .same rfl
  | engaged waitingOn free playing plain noRound source settled cool armed =>
      exact .dropped (by simp)
  | recovered clientId => exact .same (by simp)
  | paused => exact .dropped (by simp)
  | stopped => exact .same (by simp)
  | sourceTaken item position => exact .dropped (by simp)
  | sourceLeft item position counts => exact .dropped (by simp)
  | sourceEnded cause counts => exact .dropped (by simp)
  | sourceDropped cause => exact .dropped (by simp)
  | sourceRetimed source startAt current => exact .same rfl
  | handedOver restored playing => exact .same rfl
  | clockHeld cause free => exact .kept (by simp) (by simp) (by simp)
  | prepared audience fresh =>
      rcases Playback.prepareEmptyRoomPlayback_cases p scope.now scope.uuid audience with
        same | ⟨source, leader, others, _, _, _, _, _, _, _, same⟩
      · exact .same (by rw [same])
      · rw [same]
        exact .created _ rfl rfl fresh rfl rfl rfl
  | roundEdited before after present edit =>
      exact .edited before after present rfl edit.id (Or.inl edit.startAt) rfl rfl
  | scheduled before fallback startAt present unscheduled later soon =>
      exact .edited before _ present rfl rfl (Or.inr ⟨unscheduled, startAt, rfl, soon⟩) rfl rfl
  | started onTime =>
      rcases Playback.startPreparedPlayback_cases p scope.now with
        same | ⟨round, startAt, _, _, _, _, held, _, _, _⟩
      · exact .same (by rw [same])
      · rw [held]
        exact .started _ rfl rfl rfl
  | cancelled => exact .dropped (by simp)
  | sought value counts => exact .dropped (by simp)
  | emptied audience nobody =>
      obtain ⟨_, ⟨resume, held, _⟩, _, _, _⟩ :=
        Playback.emptyRoom_frame p scope.now audience nobody
      rw [held]
      exact .lost rfl rfl rfl
  | intentKept round =>
      exact .lost (by simp [HeldStart.dropped]) (by simp [HeldStart.dropped])
        (by simp [HeldStart.dropped])
  | heldForJoin skipForReconnect audience =>
      rcases Playback.holdEmptyPlaybackForJoin_cases p scope.now skipForReconnect audience with
        same | ⟨_, _, held, _, _, _⟩
      · exact .same (by rw [same])
      · rw [held]
        exact .kept rfl rfl rfl

end RoundChange

namespace HeldStart

/-- The round with this id was created earlier and, while it is there, has the property.
No other round ever gets its identifier. -/
def KnownRound (id : String) (property : PlaybackPreparation → Prop) (held : HeldStart) : Prop :=
  id ∈ held.rounds ∧ ∀ round, held.playbackPreparation = some round → round.id = id →
    property round

/-- The round with this id has this start time for as long as it is there. -/
def StartFixed (id : String) (time : Int) : HeldStart → Prop :=
  KnownRound id fun round => round.startAt = some time

/-- The round with this id is over. -/
def RoundGone (id : String) : HeldStart → Prop := KnownRound id fun _ => False

/-- No start is scheduled later than the lead after `clock`. -/
def ScheduledBy (clock : Int) (held : HeldStart) : Prop :=
  ∀ round time, held.playbackPreparation = some round → round.startAt = some time →
    time ≤ clock + PLAYBACK_START_LEAD_MS

variable {scope : Scope} {p q : HeldStart} {id : String}

theorem KnownRound.change {property : PlaybackPreparation → Prop}
    (edit : ∀ before after : PlaybackPreparation, property before →
      (after.startAt = before.startAt ∨ before.startAt = none) → property after)
    (change : RoundChange scope p q) (known : p.KnownRound id property) :
    q.KnownRound id property := by
  obtain ⟨taken, holds⟩ := known
  have absent : q.playbackPreparation = none → ∀ round, q.playbackPreparation = some round →
      round.id = id → property round := by
    intro gone round present
    rw [gone] at present
    cases present
  cases change with
  | kept round rounds starts =>
      refine ⟨by rwa [rounds], ?_⟩
      rw [round]
      exact holds
  | lost gone rounds starts => exact ⟨by rwa [rounds], absent gone⟩
  | edited before after present round same startAt rounds starts =>
      refine ⟨by rwa [rounds], ?_⟩
      intro other there named
      rw [round] at there
      cases there
      exact edit before after (holds before present (same.symm.trans named))
        (startAt.imp_right And.left)
  | created round present same fresh unscheduled rounds starts =>
      refine ⟨by rw [rounds]; exact List.mem_cons_of_mem _ taken, ?_⟩
      intro other there named
      rw [present] at there
      cases there
      rw [same] at named
      exact absurd (named ▸ taken) fresh
  | started start gone rounds starts => exact ⟨by rwa [rounds], absent gone⟩

theorem StartFixed.change {time : Int} (change : RoundChange scope p q)
    (fixed : p.StartFixed id time) : q.StartFixed id time := by
  refine KnownRound.change ?_ change fixed
  intro before after set startAt
  rcases startAt with unchanged | unscheduled
  · exact unchanged.trans set
  · rw [unscheduled] at set
    cases set

/-- A round that is over stays over. -/
theorem RoundGone.change (change : RoundChange scope p q) (ended : p.RoundGone id) :
    q.RoundGone id :=
  KnownRound.change (fun _ _ never _ => never) change ended

/-- A change at or before `clock` schedules no start beyond the lead. -/
theorem ScheduledBy.change {clock : Int} (past : scope.now ≤ clock)
    (change : RoundChange scope p q) (bound : p.ScheduledBy clock) : q.ScheduledBy clock := by
  intro other time there set
  cases change with
  | kept round rounds starts =>
      rw [round] at there
      exact bound other time there set
  | lost gone rounds starts =>
      rw [gone] at there
      cases there
  | edited before after present round same startAt rounds starts =>
      rw [round] at there
      cases there
      rcases startAt with unchanged | ⟨_, scheduled, written, soon⟩
      · exact bound before time present (unchanged.symm.trans set)
      · rw [written] at set
        cases set
        omega
  | created round present same fresh unscheduled rounds starts =>
      rw [present] at there
      cases there
      rw [unscheduled] at set
      cases set
  | started start gone rounds starts =>
      rw [gone] at there
      cases there

theorem mem_starts_change {start : RoundStart} (change : RoundChange scope p q)
    (recorded : start ∈ p.starts) : start ∈ q.starts := by
  cases change with
  | kept round rounds starts => rwa [starts]
  | lost gone rounds starts => rwa [starts]
  | edited before after present round same startAt rounds starts => rwa [starts]
  | created round present same fresh unscheduled rounds starts => rwa [starts]
  | started newest gone rounds starts =>
      rw [starts]
      exact List.mem_cons_of_mem _ recorded

end HeldStart

namespace RoomState

variable {state later : RoomState}

theorem steps_change {holds : HeldStart → Prop}
    (kept : ∀ scope p q, RoundChange scope p q → holds p → holds q)
    (run : roomSystem.Steps state later) (start : holds state.room.toHeldStart) :
    holds later.room.toHeldStart := by
  refine TransitionSystem.Steps.relates (fun state => holds state.room.toHeldStart)
    start ?_ run
  intro before label after _ current step
  exact (step_effects step).preserves (fun p => holds p.toHeldStart)
    (fun p q effect => kept _ _ _ (.of_effect effect)) current

/-- A start is never scheduled later than the lead after the latest step. -/
theorem scheduledBy (reachable : roomSystem.Reachable state) :
    state.room.ScheduledBy state.clock := by
  have invariant : roomSystem.Inductive fun state => state.room.ScheduledBy state.clock := by
    refine ⟨?_, ?_⟩
    · intro state valid round time present
      rw [valid.untouched.noRound] at present
      cases present
    · intro before label after current step
      have effects := step_effects step
      obtain ⟨_, _, rfl⟩ := step
      have widened : before.room.ScheduledBy (max before.clock label.env.now) := by
        intro round time present set
        have bound := current round time present set
        omega
      have past : label.env.now ≤ max before.clock label.env.now := by omega
      exact effects.preserves
        (fun p => p.ScheduledBy (max before.clock label.env.now))
        (fun p q effect => HeldStart.ScheduledBy.change past (.of_effect effect)) widened
  exact invariant.of_reachable reachable

/-- In every reachable room a preparation round is held: the room is paused with the
intent to play, the round is about its source and position, the reports are of distinct
eligible viewers and an eligible viewer leads. A start time once set for a round stays,
and no round starts twice. -/
theorem preparation_round_held (reachable : roomSystem.Reachable state) :
    (∀ round, state.room.playbackPreparation = some round →
      state.room.isPlaying = false ∧ state.room.resumeOnNextJoin = true ∧
        state.room.currentSource.map QueueItem.toVideoId = some round.video ∧
        round.position = state.room.playbackPosition ∧
        (∃ value : ℚ, round.position = .fin value ∧ 0 ≤ value) ∧
        round.readyIds.Nodup ∧ (∀ id ∈ round.readyIds, id ∈ round.eligibleIds) ∧
        (round.eligibleIds ≠ [] → round.clientId ∈ round.eligibleIds)) ∧
    (∀ round startAt, state.room.playbackPreparation = some round →
      round.startAt = some startAt → ∀ later laterRound, roomSystem.Steps state later →
        later.room.playbackPreparation = some laterRound → laterRound.id = round.id →
        laterRound.startAt = some startAt) ∧
    (state.room.starts.map RoundStart.round).Nodup := by
  have safe := roundSafe reachable
  refine ⟨?_, ?_, safe.startedOnce⟩
  · intro round present
    have holds := safe.held round present
    refine ⟨holds.paused, holds.resumes, holds.source, holds.position, ?_,
      holds.wellFormed.distinct, holds.wellFormed.takePart, holds.wellFormed.leader⟩
    rw [holds.position]
    exact holds.nonneg
  · intro round startAt present set later laterRound run there same
    have fixed : state.room.StartFixed round.id startAt := by
      refine ⟨(safe.held round present).created, ?_⟩
      intro other held _
      rw [present] at held
      cases held
      exact set
    exact (steps_change (fun _ _ _ => HeldStart.StartFixed.change) run fixed).2 laterRound there
      same

end RoomState

namespace Sample

/-- An environment in which every video is a hundred seconds long. -/
def env (now : Int) (uuid : String) : Env where
  now := now
  uuid := uuid
  getVideoInfo video := some { video with length := some 100 }

/-- The requests of a viewer who is not logged in. -/
def viewer : RoomRequestContext where
  role := .unregisteredUser
  clientId := some "viewer"
  auth := some ⟨"token", some "viewer"⟩

/-- A viewer joins and asks for a video. -/
def joinAndPlay : List RoomLabel :=
  [⟨env 1 "first", .request (.join { id := "viewer", username := some "v" } false) viewer⟩,
    ⟨env 2 "first", .request (.playNow { service := .direct, id := "video" }) viewer⟩]

/-- The room after that: the start is held until the viewer is ready. -/
def held : RoomState := RoomState.run joinAndPlay ⟨Room.new {} 0, 0⟩

theorem held_reachable : roomSystem.Reachable held := by
  have possible : RoomState.runs (fun _ _ => True) joinAndPlay ⟨Room.new {} 0, 0⟩ = true := by
    decide +kernel
  exact ⟨_, .created {} 0, (RoomState.steps_run _ _ _ possible).of_restrict⟩

end Sample

/-- The round of a room with one viewer. -/
theorem RoomState.preparation_round_held_once : roomSystem.Reachable Sample.held ∧
    Sample.held.room.playbackPreparation.isSome = true ∧
    (Sample.held.room.starts.map RoundStart.round).Nodup :=
  ⟨Sample.held_reachable, by decide +kernel, (preparation_round_held Sample.held_reachable).2.2⟩

end OpenTogetherTube
