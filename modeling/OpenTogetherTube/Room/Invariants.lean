import OpenTogetherTube.Room.Handlers

/-!
# Invariants of a room

What holds of the gate and of a preparation round in every reachable state. Each
invariant is proved for one effect and carried to all runs by `invariant_of_effects`.
-/

namespace OpenTogetherTube

open Lib

namespace Playback

/-- While the gate is held the room is paused for it, and nothing else waits to play. -/
def GateSafe (p : Playback) : Prop :=
  ∀ gate, p.bufferGate = some gate →
    gate.pausedByGate = true ∧ p.isPlaying = false ∧ p.currentSource.isSome = true ∧
      p.playbackPreparation = none ∧ p.resumeOnNextJoin = false

/-- What the room keeps for its present round. -/
structure HoldsRound (p : Playback) (round : PlaybackPreparation) : Prop where
  paused : p.isPlaying = false
  resumes : p.resumeOnNextJoin = true
  source : p.currentSource.map QueueItem.toVideoId = some round.video
  position : round.position = p.playbackPosition
  nonneg : ∃ value : ℚ, p.playbackPosition = .fin value ∧ 0 ≤ value
  wellFormed : round.WellFormed
  created : round.id ∈ p.rounds
  unstarted : round.id ∉ p.starts.map RoundStart.round

/-- The rounds of a room: the present one is held, and none has started twice. -/
structure RoundSafe (p : Playback) : Prop where
  held : ∀ round, p.playbackPreparation = some round → p.HoldsRound round
  startedOnce : (p.starts.map RoundStart.round).Nodup
  startsCreated : ∀ start ∈ p.starts, start.round ∈ p.rounds

variable {scope : Scope} {p q : Playback}

theorem GateSafe.effect (effect : Effect scope p q) (safe : p.GateSafe) : q.GateSafe := by
  have roundless : p.playbackPreparation.isSome = true → p.bufferGate = none := by
    intro round
    cases held : p.bufferGate with
    | none => rfl
    | some gate =>
        obtain ⟨_, _, _, noRound, _⟩ := safe gate held
        rw [noRound] at round
        cases round
  cases effect with
  | pending pending => exact safe
  | speedEnded => simpa [GateSafe] using safe
  | speedChanged speed nonneg counts => simpa [GateSafe] using safe
  | spedUp clientId gestureId playing plain source => simpa [GateSafe] using safe
  | speedReset plain still => simpa [GateSafe] using safe
  | played cause => simp [GateSafe]
  | released timedOut audience due =>
      intro gate held
      rw [(releaseBufferGate_frame p timedOut audience scope.now).1] at held
      cases held
  | waited gate waitingOn held armed =>
      intro renewed same
      cases same
      exact safe gate held
  | engaged waitingOn free playing plain noRound source settled cool armed =>
      intro gate held
      simp only [engageBufferGate_frame, Option.some.injEq] at held
      subst held
      simp [HeldStart.dropped, source]
  | recovered clientId => simpa [GateSafe] using safe
  | paused => simp [GateSafe, GateState.opened]
  | stopped =>
      intro gate held
      simp only [pausePlaybackClock_frame] at held
      obtain ⟨byGate, _, source, noRound, still⟩ := safe gate held
      simp [byGate, source, noRound, still]
  | sourceTaken item position => simp [GateSafe, GateState.sourceSet]
  | sourceLeft item position counts => simp [GateSafe, GateState.sourceSet]
  | sourceEnded cause counts => simp [GateSafe, GateState.sourceSet]
  | sourceDropped cause => simp [GateSafe, GateState.sourceSet]
  | sourceRetimed source startAt current =>
      intro gate held
      obtain ⟨byGate, stopped, _, noRound, still⟩ := safe gate held
      exact ⟨byGate, stopped, rfl, noRound, still⟩
  | handedOver restored playing => exact safe
  | clockHeld cause free => simp [GateSafe, free]
  | prepared audience fresh =>
      rcases prepareEmptyRoomPlayback_cases p scope.now scope.uuid audience with
        same | ⟨source, leader, others, _, _, resumes, _, _, _, _, same⟩
      · rw [same]
        exact safe
      · intro gate held
        rw [same] at held
        obtain ⟨_, _, _, _, still⟩ := safe gate held
        rw [resumes] at still
        cases still
  | roundEdited before after present edit => simp [GateSafe, roundless (by simp [present])]
  | scheduled before fallback startAt present unscheduled later soon =>
      simp [GateSafe, roundless (by simp [present])]
  | started onTime =>
      rcases startPreparedPlayback_cases p scope.now with
        same | ⟨round, startAt, present, _, _, _, _, gate, _, _⟩
      · rw [same]
        exact safe
      · simp [GateSafe, gate, roundless (by simp [present])]
  | cancelled =>
      intro gate held
      simp only [cancelPlaybackPreparation_frame] at held
      obtain ⟨byGate, stopped, source, _, _⟩ := safe gate held
      simp [byGate, stopped, source, HeldStart.dropped]
  | sought value counts =>
      intro gate held
      simp only [seekRaw_frame] at held
      obtain ⟨byGate, stopped, source, _, _⟩ := safe gate held
      simp [byGate, stopped, source, HeldStart.dropped]
  | emptied audience nobody =>
      obtain ⟨_, _, gate, _, _⟩ := emptyRoom_frame p scope.now audience nobody
      intro hold held
      rw [gate] at held
      split at held
      · cases held
      · rename_i free
        rw [held] at free
        exact absurd rfl free
  | intentKept round => simp [GateSafe, roundless round]
  | heldForJoin skipForReconnect audience =>
      rcases holdEmptyPlaybackForJoin_cases p scope.now skipForReconnect audience with
        same | ⟨_, _, _, gate, _, _⟩
      · rw [same]
        exact safe
      · simp [GateSafe, gate, GateState.opened]

variable (safe : p.RoundSafe)

include safe

/-- A room that lost its round and gained nothing keeps its rounds safe. -/
theorem RoundSafe.drop (noRound : q.playbackPreparation = none)
    (rounds : q.rounds = p.rounds) (starts : q.starts = p.starts) : q.RoundSafe := by
  refine ⟨?_, ?_, ?_⟩
  · intro round present
    rw [noRound] at present
    cases present
  · rw [starts]
    exact safe.startedOnce
  · rw [starts, rounds]
    exact safe.startsCreated

/-- The same for a round that was cancelled. -/
theorem RoundSafe.dropped (held : q.toHeldStart = p.toHeldStart.dropped) :
    q.RoundSafe :=
  safe.drop (by rw [held]; rfl) (by rw [held]; rfl) (by rw [held]; rfl)

/-- A round survives a change that keeps the room paused where it was. -/
theorem RoundSafe.keep
    (kept : ∀ round, q.playbackPreparation = some round →
      ∃ before, p.playbackPreparation = some before ∧ before.id = round.id ∧
        before.video = round.video ∧ before.position = round.position ∧
        (before.WellFormed → round.WellFormed))
    (paused : p.isPlaying = false → q.isPlaying = false)
    (position : p.isPlaying = false → q.playbackPosition = p.playbackPosition)
    (resumes : p.resumeOnNextJoin = true → q.resumeOnNextJoin = true)
    (source : q.currentSource.map QueueItem.toVideoId = p.currentSource.map QueueItem.toVideoId)
    (rounds : q.rounds = p.rounds) (starts : q.starts = p.starts) : q.RoundSafe := by
  refine ⟨?_, ?_, ?_⟩
  · intro round present
    obtain ⟨before, held, id, video, place, wellFormed⟩ := kept round present
    have holds := safe.held before held
    refine ⟨paused holds.paused, resumes holds.resumes, ?_, ?_, ?_, wellFormed holds.wellFormed,
      ?_, ?_⟩
    · rw [source, holds.source, video]
    · rw [position holds.paused, ← holds.position, place]
    · rw [position holds.paused]
      exact holds.nonneg
    · rw [rounds, ← id]
      exact holds.created
    · rw [starts, ← id]
      exact holds.unstarted
  · rw [starts]
    exact safe.startedOnce
  · rw [starts, rounds]
    exact safe.startsCreated

/-- The same when the round itself is untouched. -/
theorem RoundSafe.still (held : q.toHeldStart = p.toHeldStart)
    (paused : p.isPlaying = false → q.isPlaying = false)
    (position : p.isPlaying = false → q.playbackPosition = p.playbackPosition)
    (source : q.currentSource.map QueueItem.toVideoId = p.currentSource.map QueueItem.toVideoId) :
    q.RoundSafe := by
  refine safe.keep ?_ paused position ?_ source (by rw [held]) (by rw [held])
  · intro round present
    rw [held] at present
    exact ⟨round, present, rfl, rfl, rfl, id⟩
  · intro resumes
    rw [held]
    exact resumes

/-- The round a room creates is held and well formed. -/
theorem RoundSafe.prepare (audience : Audience)
    (fresh : scope.uuid ∉ p.rounds) :
    (p.prepareEmptyRoomPlayback scope.uuid audience scope.now).RoundSafe := by
  rcases prepareEmptyRoomPlayback_cases p scope.now scope.uuid audience with
    same | ⟨source, leader, others, present, paused, resumes, _, finite, nonneg, _, same⟩
  · rw [same]
    exact safe
  rw [same]
  have unstarted : scope.uuid ∉ p.starts.map RoundStart.round := by
    intro member
    obtain ⟨start, started, id⟩ := List.mem_map.mp member
    rw [← id] at fresh
    exact fresh (safe.startsCreated start started)
  refine ⟨?_, safe.startedOnce, ?_⟩
  · intro round created
    cases created
    have wellFormed : (p.newRound scope.uuid source leader (leader :: others)
        scope.now).WellFormed := by
      refine ⟨rfl, List.nodup_nil, ?_, fun _ => List.mem_cons_self, _, _, rfl, rfl, ?_⟩
      · intro id member
        cases member
      · unfold PLAYBACK_READY_WAIT_MS PLAYBACK_HARD_FALLBACK_MS
        omega
    refine ⟨paused, resumes, ?_, rfl, ?_, wellFormed, List.mem_cons_self, unstarted⟩
    · change p.currentSource.map QueueItem.toVideoId = some source.toVideoId
      rw [present]
      rfl
    · exact Number.exists_nonneg_of_isFinite finite nonneg
  · intro start started
    exact List.mem_cons_of_mem _ (safe.startsCreated start started)

theorem RoundSafe.start (now : Int) :
    (p.startPreparedPlayback now).RoundSafe := by
  rcases startPreparedPlayback_cases p now with
    same | ⟨round, startAt, present, _, _, _, held, _, _, _⟩
  · rw [same]
    exact safe
  have holds := safe.held round present
  refine ⟨?_, ?_, ?_⟩
  · intro other there
    rw [held] at there
    cases there
  · rw [held]
    exact List.nodup_cons.mpr ⟨holds.unstarted, safe.startedOnce⟩
  · rw [held]
    intro start started
    rcases List.mem_cons.mp started with rfl | earlier
    · exact holds.created
    · exact safe.startsCreated start earlier

omit safe

theorem RoundSafe.effect (effect : Effect scope p q) (safe : p.RoundSafe) : q.RoundSafe := by
  have restored := RoomClock.restoreSpeed_playbackPosition p.toRoomClock scope.now
  cases effect with
  | pending pending => exact safe.still rfl id (fun _ => rfl) rfl
  | speedEnded => exact safe.still (by simp) (by simp) (by simpa using restored) (by simp)
  | speedChanged speed nonneg counts =>
      refine safe.still (by simp) (by simp) ?_ (by simp)
      intro paused
      simp only [changeSpeed_frame]
      exact RoomClock.flush_of_stopped _ scope.now paused
  | spedUp clientId gestureId playing plain source =>
      exact safe.still (by simp) (by simp)
        (fun paused => by simpa using RoomClock.flush_of_stopped _ scope.now paused) (by simp)
  | speedReset plain still => exact safe.still (by simp) (by simp) (by simp) (by simp)
  | played cause => exact safe.dropped (by simp)
  | released timedOut audience due =>
      rcases releaseBufferGate_cases p scope.now timedOut audience with
        ⟨_, same⟩ | ⟨gate, _, same | ⟨_, _, _, same⟩⟩
      · rw [same]
        exact safe
      · rw [same]
        exact safe.still (by simp) (by simp) (by simp) (by simp)
      · rw [same]
        exact safe.dropped (by simp)
  | waited gate waitingOn held armed => exact safe.still rfl id (fun _ => rfl) rfl
  | engaged waitingOn free playing plain noRound source settled cool armed => exact safe.dropped (by simp)
  | recovered clientId => exact safe.still (by simp) (by simp) (by simp) (by simp)
  | paused => exact safe.dropped (by simp)
  | stopped =>
      exact safe.still (by simp) (by simp)
        (by simpa using RoomClock.stop_playbackPosition p.toRoomClock scope.now) (by simp)
  | sourceTaken item position => exact safe.dropped (by simp)
  | sourceLeft item position counts => exact safe.dropped (by simp)
  | sourceEnded cause counts => exact safe.dropped (by simp)
  | sourceDropped cause => exact safe.dropped (by simp)
  | sourceRetimed source startAt current =>
      exact safe.still rfl id (fun _ => rfl) (by rw [current]; rfl)
  | handedOver restored playing => exact safe.still rfl id (fun _ => rfl) rfl
  | clockHeld cause free =>
      refine safe.keep ?_ (by simp) (by simpa using restored) (by simp) (by simp) (by simp)
        (by simp)
      intro round present
      simp only [holdClock_frame] at present
      exact ⟨round, present, rfl, rfl, rfl, id⟩
  | prepared audience fresh => exact safe.prepare audience fresh
  | roundEdited before after present edit =>
      refine safe.keep ?_ (by simp) (by simp) (by simp) (by simp) (by simp) (by simp)
      intro round edited
      cases edited
      exact ⟨before, present, edit.id.symm, edit.video.symm, edit.position.symm, edit.wellFormed⟩
  | scheduled before fallback startAt present unscheduled later soon =>
      refine safe.keep ?_ (by simp) (by simp) (by simp) (by simp) (by simp) (by simp)
      intro round edited
      cases edited
      exact ⟨before, present, rfl, rfl, rfl, fun valid => ⟨valid.listed, valid.distinct,
        valid.takePart, valid.leader, valid.deadlines⟩⟩
  | started onTime => exact safe.start scope.now
  | cancelled => exact safe.dropped (by simp)
  | sought value counts => exact safe.dropped (by simp)
  | emptied audience nobody =>
      obtain ⟨_, ⟨resume, held, _⟩, _, _, _⟩ := emptyRoom_frame p scope.now audience nobody
      exact safe.drop (by rw [held]; rfl) (by rw [held]; rfl) (by rw [held]; rfl)
  | intentKept round =>
      exact safe.drop (by simp [HeldStart.dropped]) (by simp [HeldStart.dropped])
        (by simp [HeldStart.dropped])
  | heldForJoin skipForReconnect audience =>
      rcases holdEmptyPlaybackForJoin_cases p scope.now skipForReconnect audience with
        same | ⟨_, clock, held, _, source, _⟩
      · rw [same]
        exact safe
      · refine safe.keep ?_ (by simp [clock]) ?_ (by simp [held]) (by rw [source]) (by rw [held])
          (by rw [held])
        · intro round present
          rw [held] at present
          exact ⟨round, present, rfl, rfl, rfl, id⟩
        · intro paused
          rw [clock]
          exact RoomClock.stop_playbackPosition p.toRoomClock scope.now paused

end Playback

namespace Room

theorem applySetting_preserves {holds : Playback → Prop} {Value : Type} {room : Room}
    {value : Option Value} {assign : Value → Room → Room}
    (kept : ∀ given, value = some given → ∀ room : Room, holds room.toPlayback →
      holds (assign given room).toPlayback)
    (before : holds room.toPlayback) : holds (room.applySetting value assign).toPlayback := by
  cases value with
  | none => exact before
  | some given => exact kept given rfl room before

/-- The rule for the playback part of a new room: it holds of the field initialisers and
each write of the constructor keeps it. -/
theorem new_preserves (holds : Playback → Prop) (options : RoomOptions) (now : Int)
    (base : holds {})
    (pending : ∀ p pending, holds p → holds { p with toPending := pending })
    (source : ∀ p value, holds p → holds (p.assignCurrentSource value now))
    (position : ∀ p value, holds p → holds (p.assignPlaybackPosition value))
    (playing : ∀ p value, options.isPlaying = some value → holds p →
      holds (p.assignIsPlaying value now))
    (speed : ∀ p value, holds p → holds (p.assignPlaybackSpeed value))
    (resume : ∀ p, holds p → holds { p with resumeOnNextJoin := options.resumeOnNextJoin })
    (restored : ∀ p, holds p → holds { p with restoredFromStorage := true })
    (start : ∀ p, holds p → holds { p with
      playbackStart := options.playbackStart.or p.playbackStart }) :
    holds (new options now).toPlayback := by
  have queued : ∀ (room : Room) (items : Option (List QueueItem)), holds room.toPlayback →
      holds (room.assignPrevQueue items).toPlayback := by
    intro room items before
    unfold assignPrevQueue
    split
    · exact before
    · exact pending _ _ before
  have assigned : holds ((({ keepAlivePing := now } : Room).assignOwner none).assignOptions options
      now).toPlayback := by
    -- The settings of the constructor, last to first.
    refine applySetting_preserves (fun _ _ _ => id) ?_
    refine applySetting_preserves (fun _ _ _ => pending _ _) ?_
    refine applySetting_preserves (fun _ _ _ => pending _ _) ?_
    refine applySetting_preserves (fun _ _ _ => pending _ _) ?_
    refine applySetting_preserves (fun _ _ _ => id) ?_
    refine applySetting_preserves (fun items _ room => queued room items) ?_
    refine applySetting_preserves (fun _ _ _ => pending _ _) ?_
    refine applySetting_preserves (fun _ _ _ => speed _ _) ?_
    refine applySetting_preserves (fun _ given _ => playing _ _ given) ?_
    refine applySetting_preserves (fun _ _ _ => position _ _) ?_
    refine applySetting_preserves (fun _ _ _ => id) ?_
    refine applySetting_preserves (fun _ _ _ => source _ _) ?_
    refine applySetting_preserves (fun _ _ _ => pending _ _) ?_
    refine applySetting_preserves (fun _ _ _ => id) ?_
    refine applySetting_preserves (fun _ _ _ => pending _ _) ?_
    refine applySetting_preserves (fun _ _ _ => pending _ _) ?_
    refine applySetting_preserves (fun _ _ _ => pending _ _) ?_
    refine applySetting_preserves (fun _ _ _ => pending _ _) ?_
    refine applySetting_preserves (fun _ _ _ => pending _ _) ?_
    exact pending _ _ base
  have reloaded : ∀ room : Room, holds room.toPlayback →
      holds room.reloadPrevQueue.toPlayback := by
    intro room before
    unfold reloadPrevQueue
    split
    · split
      · exact restored _ (queued _ _ (pending _ _ before))
      · exact before
    · exact before
  have granted : ∀ room : Room, (room.assignGrants options).toPlayback = room.toPlayback := by
    intro room
    unfold assignGrants
    dsimp only
    split <;> rfl
  have dropped : ∀ room : Room, holds room.toPlayback →
      holds (if room.restoreQueueBehavior = .never then room.assignPrevQueue none
        else room).toPlayback := by
    intro room before
    split
    · exact queued _ _ before
    · exact before
  refine start _ ?_
  change holds (assignGrants options _).toPlayback
  rw [granted]
  exact reloaded _ (dropped _ (resume _ assigned))

/-- A new room has no gate, no round, no temporary speed and no history but that its
source was set. -/
structure Untouched (p : Playback) : Prop where
  noGate : p.bufferGate = none
  armed : p.bufferGateExhausted = []
  cool : p.bufferGateCooldownUntil = none
  traced : ∀ event ∈ p.gateTrace, ∃ source, event = .sourceSet source
  noRound : p.playbackPreparation = none
  noRounds : p.rounds = []
  noStarts : p.starts = []
  plain : p.temporarySpeed = none

/-- The rest of the playback fields does not matter. -/
theorem Untouched.congr {p q : Playback} (before : Untouched p)
    (gate : q.toGateState = p.toGateState) (held : q.playbackPreparation = p.playbackPreparation)
    (rounds : q.rounds = p.rounds) (starts : q.starts = p.starts)
    (speed : q.temporarySpeed = p.temporarySpeed) : Untouched q := by
  obtain ⟨noGate, armed, cool, traced, noRound, noRounds, noStarts, plain⟩ := before
  refine ⟨?_, ?_, ?_, ?_, held.trans noRound, rounds.trans noRounds, starts.trans noStarts,
    speed.trans plain⟩
  · rwa [gate]
  · rwa [gate]
  · rwa [gate]
  · rwa [gate]

/-- Nothing has happened to a new room. -/
theorem new_untouched (options : RoomOptions) (now : Int) :
    Untouched (new options now).toPlayback := by
  refine new_preserves Untouched options now ?_ ?_ ?_ ?_ ?_ ?_ ?_ ?_ ?_
  · exact ⟨rfl, rfl, rfl, by simp, rfl, rfl, rfl, rfl⟩
  · intro p pending before
    exact before.congr rfl rfl rfl rfl rfl
  · intro p value before
    refine ⟨by simp [GateState.sourceSet], by simp [GateState.sourceSet], ?_, ?_, ?_, ?_, ?_, ?_⟩
    · simpa [GateState.sourceSet] using before.cool
    · intro event member
      simp only [Playback.assignCurrentSource_frame, GateState.sourceSet] at member
      rcases List.mem_cons.mp member with rfl | earlier
      · exact ⟨_, rfl⟩
      · exact before.traced event earlier
    · simp [HeldStart.dropped]
    · simpa [HeldStart.dropped] using before.noRounds
    · simpa [HeldStart.dropped] using before.noStarts
    · simp
  · intro p value before
    exact before.congr rfl rfl rfl rfl rfl
  · intro p value _ before
    refine before.congr (by simp) (by simp) (by simp) (by simp) ?_
    cases value with
    | true => rfl
    | false => simp [before.plain]
  · intro p value before
    exact before.congr rfl rfl rfl rfl rfl
  · intro p before
    exact before.congr rfl rfl rfl rfl rfl
  · intro p before
    exact before.congr rfl rfl rfl rfl rfl
  · intro p before
    exact before.congr rfl rfl rfl rfl rfl

end Room

namespace RoomState

theorem Initial.untouched {state : RoomState} (valid : state.Initial) :
    Room.Untouched state.room.toPlayback := by
  cases valid with
  | created options now => exact Room.new_untouched options now
  | restored options now idle still =>
      exact (Room.new_untouched options now).congr rfl rfl rfl rfl rfl

variable {before after state : RoomState} {label : RoomLabel}

theorem step_effects (step : roomSystem.Step before label after) :
    Effects (label.env.scope (label.action.Commands label.env before.room)
      (label.action.Freezes label.env before.room)) before.room.toPlayback
      after.room.toPlayback := by
  obtain ⟨_, fresh, rfl⟩ := step
  exact RoomAction.apply_related label.env before.room label.action fresh (Or.inr trivial)

/-- What each effect keeps, every step keeps. -/
theorem step_preserves {holds : Playback → Prop}
    (kept : ∀ scope p q, Effect scope p q → holds p → holds q)
    (step : roomSystem.Step before label after) (start : holds before.room.toPlayback) :
    holds after.room.toPlayback :=
  (step_effects step).preserves holds (kept _) start

/-- An invariant of the effects that holds of untouched rooms holds of every reachable
room. -/
theorem invariant_of_effects {holds : Playback → Prop}
    (base : ∀ p, Room.Untouched p → holds p)
    (kept : ∀ scope p q, Effect scope p q → holds p → holds q)
    (reachable : roomSystem.Reachable state) : holds state.room.toPlayback := by
  have invariant : roomSystem.Inductive fun state => holds state.room.toPlayback := by
    refine ⟨?_, ?_⟩
    · intro state valid
      exact base _ valid.untouched
    · intro before label after current step
      exact step_preserves kept step current
  exact invariant.of_reachable reachable

theorem gateSafe (reachable : roomSystem.Reachable state) : state.room.GateSafe := by
  refine invariant_of_effects ?_ (fun _ _ _ => Playback.GateSafe.effect) reachable
  intro p fresh gate held
  rw [fresh.noGate] at held
  cases held

theorem roundSafe (reachable : roomSystem.Reachable state) : state.room.RoundSafe := by
  refine invariant_of_effects ?_ (fun _ _ _ => Playback.RoundSafe.effect) reachable
  intro p fresh
  refine ⟨?_, ?_, ?_⟩
  · intro round present
    rw [fresh.noRound] at present
    cases present
  · rw [fresh.noStarts]
    exact List.nodup_nil
  · rw [fresh.noStarts]
    intro start started
    cases started

end RoomState

end OpenTogetherTube
