import OpenTogetherTube.Room.Rounds

/-!
# A held start always ends

The tick past a round's hard deadline starts it, schedules it or cancels it, whatever was
reported before; the tick past its start time starts or cancels it. It is cancelled only
when nobody present may play.
-/

namespace OpenTogetherTube

open Lib Lib.Handler

namespace Playback

/-- Playback began from a round: the clock runs from the round's position and the start is
on record. -/
structure StartedFrom (round : PlaybackPreparation) (now : Int) (p q : Playback) : Prop where
  playing : q.isPlaying = true
  position : q.playbackPosition = round.position
  ended : q.playbackPreparation = none
  rounds : q.rounds = p.rounds
  recorded : ∃ startAt fallback, startAt ≤ now ∧ q.playbackStart = some startAt ∧
    q.starts = ⟨round.id, round.position, startAt, fallback⟩ :: p.starts

/-- The round waits for a start time. -/
def WaitsFor (round : PlaybackPreparation) (startAt : Int) (p : Playback) : Prop :=
  ∃ later, p.playbackPreparation = some later ∧ later.id = round.id ∧
    later.startAt = some startAt

/-- What the preparation part of a tick leaves of a round that is due: a started room, a
cancelled round nobody could play, or a start time. -/
inductive RoundOutcome (round : PlaybackPreparation) (audience : Audience) (now : Int)
    (scheduled : Int → Prop) (p q : Playback) : Prop
  | started (start : StartedFrom round now p q)
  | cancelled (ended : q.playbackPreparation = none) (rounds : q.rounds = p.rounds)
      (nobody : audience.eligiblePreparers = [])
  | waiting (startAt : Int) (waits : q.WaitsFor round startAt) (accepted : scheduled startAt)

variable {p : Playback} {round : PlaybackPreparation} {audience : Audience} {now : Int}

/-- A round whose start time has come starts. -/
theorem startPreparedPlayback_startedFrom {startAt : Int}
    (present : p.playbackPreparation = some round) (set : round.startAt = some startAt)
    (due : startAt ≤ now) : StartedFrom round now p (p.startPreparedPlayback now) := by
  have notEarly : ¬ now + 50 < startAt := by omega
  have same : (p.startPreparedPlayback now).toRoomClock =
      { p.toRoomClock with
        playbackPosition := round.position, isPlaying := true, playbackStart := some startAt } ∧
      (p.startPreparedPlayback now).toHeldStart =
        { p.toHeldStart.dropped with
          starts := ⟨round.id, round.position, startAt, round.fallback⟩ :: p.starts } := by
    unfold startPreparedPlayback
    rw [present]
    dsimp only
    rw [set]
    dsimp only
    rw [if_neg notEarly]
    exact ⟨rfl, rfl⟩
  obtain ⟨clock, held⟩ := same
  refine ⟨?_, ?_, ?_, ?_, startAt, round.fallback, due, ?_, ?_⟩
  · rw [clock]
  · rw [clock]
  · rw [held]
    rfl
  · rw [held]
    rfl
  · rw [clock]
  · rw [held]

/-- Scheduling a round without a start time starts it or gives it one. -/
theorem schedulePlaybackStart_outcome (audience : Audience) (now : Int)
    (fallback : Option Fallback)
    (present : p.playbackPreparation = some round) (unscheduled : round.startAt = none) :
    StartedFrom round now p (p.schedulePlaybackStart fallback audience now) ∨
      (p.schedulePlaybackStart fallback audience now).WaitsFor round
        (now + PLAYBACK_START_LEAD_MS) := by
  unfold schedulePlaybackStart
  rw [present]
  dsimp only
  rw [unscheduled]
  by_cases alone : (audience.playbackEligibleIds round).length ≤ 1
  · left
    rw [if_neg (by simp), if_pos alone]
    have started : StartedFrom { round with fallback, startAt := some now } now
        (p.assignRound { round with fallback, startAt := some now })
        ((p.assignRound { round with fallback, startAt := some now }).startPreparedPlayback now) :=
      startPreparedPlayback_startedFrom rfl rfl le_rfl
    exact ⟨started.playing, started.position, started.ended, started.rounds, started.recorded⟩
  · right
    rw [if_neg (by simp), if_neg alone]
    exact ⟨_, rfl, rfl, rfl⟩

/-- Past the hard deadline a round without a start time is scheduled, whoever is ready. -/
theorem escalateRound_of_expired (p : Playback) (audience : Audience) {deadline : Int}
    (wellFormed : round.WellFormed)
    (hard : round.hardDeadlineAt = some deadline) (expired : deadline ≤ now) :
    ∃ fallback, p.escalateRound audience now round =
      p.schedulePlaybackStart fallback audience now := by
  obtain ⟨soft, limit, softSet, hardSet, ordered⟩ := wellFormed.deadlines
  rw [hard] at hardSet
  cases hardSet
  unfold escalateRound
  by_cases ready : allEligibleReady audience round = true
  · exact ⟨none, by rw [if_pos ready]⟩
  · have softPassed : (round.deadlineAt.any fun time => decide (now ≥ time)) = true := by
      rw [softSet]
      simp only [Option.any_some, decide_eq_true_eq]
      omega
    have hardPassed : (round.hardDeadlineAt.any fun time => decide (now ≥ time)) = true := by
      rw [hard]
      simp only [Option.any_some, decide_eq_true_eq]
      omega
    rw [if_neg ready, if_pos softPassed]
    by_cases reported : (!round.reports.isEmpty) = true
    · exact ⟨some .partially, by rw [if_pos reported]⟩
    · exact ⟨some .forced, by rw [if_neg reported, if_pos hardPassed]⟩

/-- Refreshing cancels a round nobody could play, or keeps it but for who takes part. -/
theorem refreshPlaybackPreparation_cases (audience : Audience)
    (present : p.playbackPreparation = some round) :
    (audience.eligiblePreparers = [] ∧
        (p.refreshPlaybackPreparation audience).playbackPreparation = none) ∨
      ∃ later, (p.refreshPlaybackPreparation audience).toHeldStart =
          { p.toHeldStart with playbackPreparation := some later } ∧
        later.id = round.id ∧ later.position = round.position ∧
        later.startAt = round.startAt ∧ later.hardDeadlineAt = round.hardDeadlineAt ∧
        (round.WellFormed → later.WellFormed) := by
  have led : ∀ other : PlaybackPreparation,
      (withLeader other).hardDeadlineAt = other.hardDeadlineAt := by
    intro other
    unfold withLeader
    split <;> rfl
  unfold refreshPlaybackPreparation
  rw [present]
  dsimp only
  split
  · exact Or.inr ⟨round, by rw [← present], rfl, rfl, rfl, rfl, id⟩
  · split
    · rename_i empty
      rw [Bool.and_eq_true, List.isEmpty_iff, List.isEmpty_iff] at empty
      exact Or.inl ⟨empty.2, by simp [HeldStart.dropped]⟩
    · have edit : RoundEdit round
          (withLeader (narrowedTo (audience.playbackEligibleIds round) round)) := by
        refine roundEdit_narrow round
          (fun id => decide (id ∈ audience.playbackEligibleIds round)) ?_ rfl
        unfold Audience.playbackEligibleIds
        refine List.filter_congr ?_
        intro id member
        simp [List.mem_filter, member]
      exact Or.inr ⟨_, rfl, edit.id, edit.position, edit.startAt, led _, edit.wellFormed⟩

/-- A start counts for the round before the refresh too. -/
theorem StartedFrom.of_refreshed {q r : Playback} {later : PlaybackPreparation}
    (start : StartedFrom later now q r)
    (held : q.toHeldStart = { p.toHeldStart with playbackPreparation := some later })
    (id : later.id = round.id) (position : later.position = round.position) :
    StartedFrom round now p r := by
  obtain ⟨startAt, fallback, past, anchored, starts⟩ := start.recorded
  refine ⟨start.playing, start.position.trans position, start.ended, ?_, startAt, fallback, past,
    anchored, ?_⟩
  · rw [start.rounds, held]
  · rw [starts, id, position, held]

/-- The preparation part of a tick, once the round has a start time or its hard deadline
has passed. -/
theorem updatePreparation_outcome (audience : Audience)
    (present : p.playbackPreparation = some round)
    (wellFormed : round.WellFormed)
    (due : round.startAt ≠ none ∨
      ∃ deadline, round.hardDeadlineAt = some deadline ∧ deadline ≤ now) :
    RoundOutcome round audience now
      (fun startAt => now < startAt ∧
        (round.startAt = some startAt ∨
          round.startAt = none ∧ startAt = now + PLAYBACK_START_LEAD_MS))
      p (p.updatePreparation audience now) := by
  unfold updatePreparation
  rw [if_neg (by simp [present])]
  dsimp only
  generalize refreshed_eq : p.refreshPlaybackPreparation audience = refreshed
  have cases_of_refresh := refreshPlaybackPreparation_cases audience present
  have rounds := (Room.rounds_methods audience now).refreshPlaybackPreparation p
  rw [refreshed_eq] at cases_of_refresh rounds
  have settled : ∀ q : Playback, q.playbackPreparation = none →
      (if q.startDue now then q.startPreparedPlayback now else q) = q := by
    intro q ended
    simp [startDue, ended]
  rcases cases_of_refresh with ⟨nobody, ended⟩ | ⟨later, held, id, position, startAt, hard, valid⟩
  · have escalated : refreshed.escalatePreparation audience now = refreshed := by
      simp [escalatePreparation, ended]
    rw [escalated, settled refreshed ended]
    exact .cancelled ended rounds nobody
  have there : refreshed.playbackPreparation = some later := by rw [held]
  cases set : round.startAt with
  | some time =>
      have laterSet : later.startAt = some time := startAt.trans set
      have escalated : refreshed.escalatePreparation audience now = refreshed := by
        simp [escalatePreparation, there, laterSet]
      have dueNow : refreshed.startDue now = decide (now ≥ time) := by
        simp [startDue, there, laterSet]
      rw [escalated, dueNow]
      by_cases reached : time ≤ now
      · rw [if_pos (by simpa using reached)]
        exact .started ((startPreparedPlayback_startedFrom there laterSet reached).of_refreshed
          held id position)
      · rw [if_neg (by simpa using reached)]
        exact .waiting time ⟨later, there, id, laterSet⟩ ⟨by omega, Or.inl rfl⟩
  | none =>
      have unscheduled : later.startAt = none := startAt.trans set
      obtain ⟨deadline, limit, expired⟩ := due.resolve_left fun scheduled => scheduled set
      have escalated : refreshed.escalatePreparation audience now =
          refreshed.escalateRound audience now later := by
        simp [escalatePreparation, there, unscheduled]
      obtain ⟨fallback, forced⟩ := escalateRound_of_expired refreshed audience (valid wellFormed)
        (hard.trans limit) expired
      rw [escalated, forced]
      rcases schedulePlaybackStart_outcome audience now fallback there unscheduled with
        started | ⟨round', waits, sameId, scheduled⟩
      · rw [settled _ started.ended]
        exact .started (started.of_refreshed held id position)
      · have early : (refreshed.schedulePlaybackStart fallback audience now).startDue now =
            false := by
          simp [startDue, waits, scheduled, PLAYBACK_START_LEAD_MS]
        rw [early]
        refine .waiting (now + PLAYBACK_START_LEAD_MS) ⟨round', waits, sameId.trans id, scheduled⟩
          ⟨?_, Or.inr ⟨rfl, rfl⟩⟩
        unfold PLAYBACK_START_LEAD_MS
        omega

end Playback

namespace Room

variable {room : Room} {env : Env} {round : PlaybackPreparation}

/-- What leaves the playback part alone leaves a paused room paused. -/
theorem SamePlayback.paused {before after : Room} (same : SamePlayback before after)
    (paused : before.isPlaying = false) : after.isPlaying = false := by
  obtain ⟨pending, equal⟩ := same
  rw [equal]
  exact paused

theorem updateSegments_same (paused : room.isPlaying = false) :
    SamePlayback room (room.updateSegments env) := by
  have skipped : ∀ other : Room, other.isPlaying = false →
      SamePlayback other ((other.expireSegmentPause env.now).skipSegment env.now) := by
    intro other still
    have expired := samePlayback_ticks.expireSegmentPause other env.now
    have kept : (other.expireSegmentPause env.now).skipSegment env.now =
        other.expireSegmentPause env.now := by
      unfold skipSegment
      rw [expired.paused still]
      rfl
    rw [kept]
    exact expired
  unfold updateSegments
  split
  · dsimp only
    split
    · have fetched : SamePlayback room
          ({ room with wantSponsorBlock := false }.fetchSponsorBlockSegments env) :=
        samePlayback_ticks.fetchSponsorBlockSegments env { room with wantSponsorBlock := false }
      exact IsTrans.trans _ _ _ fetched (skipped _ (fetched.paused paused))
    · exact skipped room paused
  · exact refl room

/-- A tick that does not move on leaves the playback of a paused room alone. -/
theorem moveOn_same (stays : room.wantsNext env.now = false) (paused : room.isPlaying = false) :
    (moveOn env).Keeps SamePlayback room := by
  have source : room.updateSource env = room := by
    unfold updateSource
    rw [stays]
    rfl
  have sorted : ∀ other : Room, SamePlayback other
      (if other.queueMode = .vote then other.orderByVotes else other) :=
    fun other => samePlayback_writes.orderByVotes other
  unfold moveOn
  refine Keeps.modify_bind (by rw [source]; exact refl room) ?_
  rw [source]
  have alive := samePlayback_ticks.keepAlive env room
  refine Keeps.bind alive fun _ _ => Keeps.modify_bind (sorted _) (keeps_modify _ ?_)
  exact updateSegments_same ((sorted _).paused (SamePlayback.paused alive paused))

theorem evaluateBufferGate_of_round (env : Env) (safe : room.GateSafe)
    (present : room.playbackPreparation = some round) :
    (room.evaluateBufferGate env.now).toPlayback = room.toPlayback := by
  have free : room.bufferGate = none := by
    cases held : room.bufferGate with
    | none => rfl
    | some gate =>
        obtain ⟨_, _, _, noRound, _⟩ := safe gate held
        rw [present] at noRound
        cases noRound
  change Playback.evaluateBufferGate _ _ _ room.toPlayback = room.toPlayback
  unfold Playback.evaluateBufferGate
  rw [if_neg (by simp [GateState.gateExpired, free]), if_pos (by simp [present]),
    Playback.releaseBufferGate_of_free _ _ _ _ free]

/-- The playback part in the middle of `update`, after the preparation was looked at. -/
def prepared (env : Env) (room : Room) : Playback :=
  (room.evaluateBufferGate env.now).toPlayback.updatePreparation room.toAudience env.now

/-- The rest of `update` after the preparation was looked at. -/
theorem prepared_effects (fresh : env.uuid ∉ room.rounds) :
    Effects (env.scope True True) (room.prepared env) ((update env).after room).toPlayback := by
  have settled : Effects (env.scope True True) (room.prepared env)
      (room.settlePlayback env).toPlayback :=
    Playback.updateTemporarySpeed_effects (room.prepared env) room.toAudience
  have moved : Related (env.scope True True) (room.settlePlayback env)
      ((moveOn env).after (room.settlePlayback env)) := by
    refine moveOn_keeps env _ ?_ (fun _ => Or.inl trivial) (fun _ _ _ _ => trivial)
      (fun _ => Or.inr trivial)
    rw [settlePlayback_rounds]
    exact fresh
  exact settled.trans moved

/-- A round that waits after the preparation was looked at still waits after `update`. -/
theorem waitsFor_update {startAt : Int} (safe : (room.prepared env).RoundSafe)
    (waits : (room.prepared env).WaitsFor round startAt) :
    ((update env).after room).WaitsFor round startAt := by
  obtain ⟨later, present, id, set⟩ := waits
  have held : (room.settlePlayback env).toHeldStart = (room.prepared env).toHeldStart := by
    change (Playback.updateTemporarySpeed room.toAudience env.now (room.prepared env)).toHeldStart = _
    unfold Playback.updateTemporarySpeed
    split
    · split
      · rfl
      · simp
    · rfl
  have settledSafe : (room.settlePlayback env).RoundSafe :=
    (Playback.updateTemporarySpeed_effects (room.prepared env) room.toAudience :
      Effects (env.scope True True) _ _).preserves Playback.RoundSafe
      (fun _ _ => Playback.RoundSafe.effect) safe
  have there : (room.settlePlayback env).playbackPreparation = some later := by
    rw [held]
    exact present
  have holds := settledSafe.held later there
  have stays : (room.settlePlayback env).wantsNext env.now = false := by
    have source : (room.settlePlayback env).currentSource.isNone = false := by
      cases idle : (room.settlePlayback env).currentSource with
      | none =>
          have video := holds.source
          rw [idle] at video
          cases video
      | some source => rfl
    have notEnded : (room.settlePlayback env).currentEnded env.now = false := by
      unfold Playback.currentEnded
      split
      · rw [holds.paused]
        rfl
      · rfl
    unfold wantsNext
    rw [source, notEnded]
    rfl
  obtain ⟨pending, same⟩ := moveOn_same stays holds.paused
  refine ⟨later, ?_, id, set⟩
  change ((moveOn env).after (room.settlePlayback env)).toPlayback.playbackPreparation = some later
  rw [same]
  exact there

/-- `update` ended the round: it is gone, and either playback started from its position or
nobody present may play. -/
structure RoundOver (env : Env) (room : Room) (round : PlaybackPreparation) : Prop where
  gone : ∀ other, ((update env).after room).playbackPreparation = some other →
    other.id ≠ round.id
  cause : ((room.prepared env).isPlaying = true ∧
      (room.prepared env).playbackPosition = round.position ∧
      ∃ start ∈ ((update env).after room).starts, start ∉ room.starts ∧
        start.round = round.id ∧ start.position = round.position) ∨
    room.eligiblePreparers = []

/-- A round that is gone in the middle of `update` does not come back in the rest of it. -/
theorem gone_update (fresh : env.uuid ∉ room.rounds) (created : round.id ∈ (room.prepared env).rounds)
    (ended : (room.prepared env).playbackPreparation = none) :
    ∀ other, ((update env).after room).playbackPreparation = some other → other.id ≠ round.id := by
  have gone : (room.prepared env).RoundGone round.id := by
    refine ⟨created, ?_⟩
    intro other there
    rw [ended] at there
    cases there
  intro other there same
  exact ((prepared_effects fresh).preserves (fun p => p.RoundGone round.id)
    (fun _ _ effect => HeldStart.RoundGone.change (.of_effect effect)) gone).2 other there same

end Room

namespace RoomState

open Room

variable {state : RoomState} {round : PlaybackPreparation}

/-- The tick of a reachable room whose round has a start time or is past its deadline. -/
theorem update_outcome (reachable : roomSystem.Reachable state)
    (present : state.room.playbackPreparation = some round) (env : Env)
    (fresh : env.uuid ∉ state.room.rounds)
    (due : round.startAt ≠ none ∨
      ∃ deadline, round.hardDeadlineAt = some deadline ∧ deadline ≤ env.now) :
    RoundOver env state.room round ∨
      ∃ startAt, ((update env).after state.room).WaitsFor round startAt ∧ env.now < startAt ∧
        (round.startAt = some startAt ∨
          round.startAt = none ∧ startAt = env.now + PLAYBACK_START_LEAD_MS) := by
  have safe := roundSafe reachable
  have holds := safe.held round present
  have same := evaluateBufferGate_of_round env (gateSafe reachable) present
  have outcome := Playback.updatePreparation_outcome state.room.toAudience present holds.wellFormed
    due
  have prepared : state.room.prepared env =
      state.room.toPlayback.updatePreparation state.room.toAudience env.now := by
    unfold Room.prepared
    rw [same]
  rw [← prepared] at outcome
  cases outcome with
  | started start =>
      obtain ⟨startAt, fallback, _, _, starts⟩ := start.recorded
      refine Or.inl ⟨gone_update fresh ?_ start.ended, Or.inl ⟨start.playing, start.position,
        ⟨round.id, round.position, startAt, fallback⟩, ?_, ?_, rfl, rfl⟩⟩
      · rw [start.rounds]
        exact holds.created
      · refine (prepared_effects fresh).preserves
          (fun p => (⟨round.id, round.position, startAt, fallback⟩ : RoundStart) ∈ p.starts)
          (fun _ _ effect => HeldStart.mem_starts_change (.of_effect effect)) ?_
        rw [starts]
        exact List.mem_cons_self
      · intro earlier
        exact holds.unstarted (List.mem_map_of_mem (f := RoundStart.round) earlier)
  | cancelled ended rounds nobody =>
      refine Or.inl ⟨gone_update fresh ?_ ended, Or.inr nobody⟩
      rw [rounds]
      exact holds.created
  | waiting startAt waits accepted =>
      have preparedSafe : (state.room.prepared env).RoundSafe := by
        rw [prepared]
        exact (Playback.updatePreparation_effects state.room.toPlayback state.room.toAudience
            (Or.inr trivial) :
          Effects (env.scope True True) _ _).preserves Playback.RoundSafe
          (fun _ _ => Playback.RoundSafe.effect) safe
      exact Or.inr ⟨startAt, waitsFor_update preparedSafe waits, accepted⟩

/-- A held start always ends. Every round has a hard deadline, and the tick at or past it
ends the round or leaves it with a start time, no more than a second away unless the clock
was set back; the tick at or past the start time ends it. -/
theorem update_ends_round (reachable : roomSystem.Reachable state)
    (present : state.room.playbackPreparation = some round) (env : Env)
    (fresh : env.uuid ∉ state.room.rounds) :
    (∃ deadline, round.hardDeadlineAt = some deadline ∧
      (deadline ≤ env.now → RoundOver env state.room round ∨
        ∃ startAt, ((update env).after state.room).WaitsFor round startAt ∧
          (state.clock ≤ env.now → startAt ≤ env.now + 1000))) ∧
    (∀ startAt, round.startAt = some startAt → startAt ≤ env.now →
      RoundOver env state.room round) := by
  have holds := (roundSafe reachable).held round present
  obtain ⟨soft, hard, _, limit, _⟩ := holds.wellFormed.deadlines
  refine ⟨⟨hard, limit, ?_⟩, ?_⟩
  · intro expired
    rcases update_outcome reachable present env fresh (Or.inr ⟨hard, limit, expired⟩) with
      ended | ⟨startAt, waits, _, set | ⟨_, soon⟩⟩
    · exact Or.inl ended
    · refine Or.inr ⟨startAt, waits, ?_⟩
      intro forward
      have bound := scheduledBy reachable round startAt present set
      unfold PLAYBACK_START_LEAD_MS at bound
      omega
    · refine Or.inr ⟨startAt, waits, ?_⟩
      intro _
      unfold PLAYBACK_START_LEAD_MS at soon
      omega
  · intro startAt set reached
    rcases update_outcome reachable present env fresh (Or.inl (by simp [set])) with
      ended | ⟨other, _, later, same | ⟨unset, _⟩⟩
    · exact ended
    · rw [set] at same
      cases same
      omega
    · rw [set] at unset
      cases unset

/-- The round of a lone viewer, who never reports, ends at its deadline. -/
theorem update_ends_round_alone : ∃ round, Sample.held.room.playbackPreparation = some round ∧
    ∃ deadline, round.hardDeadlineAt = some deadline ∧
      (deadline ≤ 30000 → RoundOver (Sample.env 30000 "second") Sample.held.room round ∨
        ∃ startAt, ((update (Sample.env 30000 "second")).after Sample.held.room).WaitsFor round
          startAt ∧ (Sample.held.clock ≤ 30000 → startAt ≤ 30000 + 1000)) := by
  have some_round : Sample.held.room.playbackPreparation.isSome = true := by decide +kernel
  obtain ⟨round, present⟩ := Option.isSome_iff_exists.mp some_round
  have fresh : "second" ∉ Sample.held.room.rounds := by decide +kernel
  exact ⟨round, present,
    (update_ends_round Sample.held_reachable present (Sample.env 30000 "second") fresh).1⟩

end RoomState

end OpenTogetherTube
