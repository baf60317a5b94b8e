import OpenTogetherTube.Room.Frames
import Mathlib.Logic.Relation

/-!
# What a step can do to playback

`Effect` lists the elementary changes of the playback fields, with the guards the code
checks before it makes them. Every method of the playback part is a sequence of effects,
so an invariant is proved once for each effect and never looks at the code again.
-/

namespace OpenTogetherTube

open Lib

/-- What the effects of one step depend on. -/
structure Scope where
  now : Int
  /-- The answer of `randomUUID` in this step. -/
  uuid : String
  /-- The step may set playback going by itself: a request to play, a new source. -/
  commanded : Prop
  /-- The step may stop the clock of a playing room that was restored from storage. -/
  frozen : Prop
  /-- The step may count seconds that were not played, or count them twice. -/
  miscounts : Prop

/-- What every round a room creates satisfies. -/
structure PlaybackPreparation.WellFormed (round : PlaybackPreparation) : Prop where
  listed : round.eligible.isSome = true
  distinct : round.readyIds.Nodup
  takePart : ∀ id ∈ round.readyIds, id ∈ round.eligibleIds
  leader : round.eligibleIds ≠ [] → round.clientId ∈ round.eligibleIds
  deadlines : ∃ soft hard, round.deadlineAt = some soft ∧ round.hardDeadlineAt = some hard ∧
    soft ≤ hard

/-- What an edit of a round keeps. -/
structure RoundEdit (before after : PlaybackPreparation) : Prop where
  id : after.id = before.id
  video : after.video = before.video
  position : after.position = before.position
  startAt : after.startAt = before.startAt
  wellFormed : before.WellFormed → after.WellFormed

namespace Playback

/-- Whatever is counted now was played: the room plays, or no time has run since the
anchor. -/
def CountsPlaying (now : Int) (p : Playback) : Prop :=
  p.isPlaying = true ∨ p.calcDurationFromPlaybackStart now ≤ 0

/-- Whatever is counted on leaving the source was played, and the end of a temporary speed
does not count it again. -/
def CountsOnce (now : Int) (p : Playback) : Prop :=
  p.isPlaying = true ∧ p.temporarySpeed = none ∨ p.calcDurationFromPlaybackStart now ≤ 0

/-- No time has run since the anchor, if there is one. -/
def Still (now : Int) (p : Playback) : Prop :=
  ∀ start, p.playbackStart = some start → start = now

/-- The start time of the present round has not passed. -/
def StartsOnTime (now : Int) (p : Playback) : Prop :=
  ∀ round startAt, p.playbackPreparation = some round → round.startAt = some startAt →
    now ≤ startAt

end Playback

/-- The elementary changes of the playback fields. -/
inductive Effect (scope : Scope) : Playback → Playback → Prop
  | pending (p : Playback) (pending : Pending) : Effect scope p { p with toPending := pending }
  | speedEnded (p : Playback) : Effect scope p (p.endTemporaryPlaybackSpeed true scope.now)
  | speedChanged (p : Playback) (speed : ℚ) (nonneg : 0 ≤ speed)
      (counts : p.CountsPlaying scope.now ∨ scope.miscounts) :
      Effect scope p (p.changeSpeed speed scope.now)
  | spedUp (p : Playback) (clientId : ClientId) (gestureId : String)
      (playing : p.isPlaying = true) (plain : p.temporarySpeed = none)
      (source : p.currentSource.isSome = true) :
      Effect scope p (p.startTemporarySpeed clientId gestureId scope.now)
  | speedReset (p : Playback) (plain : p.temporarySpeed = none ∨ p.currentSource = none)
      (still : p.Still scope.now ∨ scope.miscounts) :
      Effect scope p (p.assignPlaybackSpeed 1)
  | played (p : Playback) (cause : scope.commanded ∨ p.resumeOnNextJoin = true) :
      Effect scope p (p.play scope.now)
  | released (p : Playback) (timedOut : Bool) (audience : Audience)
      (due : timedOut = true → p.gateExpired scope.now = true) :
      Effect scope p (p.releaseBufferGate timedOut audience scope.now)
  | waited (p : Playback) (gate : BufferGate) (waitingOn : List ClientId)
      (held : p.bufferGate = some gate) (armed : ∀ id ∈ waitingOn, id ∉ p.bufferGateExhausted) :
      Effect scope p ({ p with bufferGate := some { gate with waitingOn } }.trace
        (.waiting scope.now waitingOn))
  | engaged (p : Playback) (waitingOn : List ClientId) (free : p.bufferGate = none)
      (playing : p.isPlaying = true) (plain : p.temporarySpeed = none)
      (noRound : p.playbackPreparation = none) (source : p.currentSource.isSome = true)
      (settled : p.inStartGrace scope.now = false) (cool : p.inGateCooldown scope.now = false)
      (armed : ∀ id ∈ waitingOn, id ∉ p.bufferGateExhausted) :
      Effect scope p (p.engageBufferGate waitingOn scope.now)
  | recovered (p : Playback) (clientId : ClientId) : Effect scope p (p.noteRecovery clientId)
  | paused (p : Playback) : Effect scope p (p.pause false scope.now)
  | stopped (p : Playback) : Effect scope p (p.pausePlaybackClock scope.now)
  | sourceTaken (p : Playback) (item : QueueItem) (position : Number) :
      Effect scope p (p.takeSource item position scope.now)
  | sourceLeft (p : Playback) (item : QueueItem) (position : Number)
      (counts : p.CountsOnce scope.now ∨ scope.miscounts) :
      Effect scope p ((p.countWatched scope.now).takeSource item position scope.now)
  | sourceEnded (p : Playback) (cause : scope.commanded)
      (counts : p.CountsOnce scope.now ∨ scope.miscounts) :
      Effect scope p ((p.countWatched scope.now).clearSource scope.now)
  | sourceDropped (p : Playback) (cause : scope.commanded) :
      Effect scope p (p.assignCurrentSource none scope.now)
  | sourceRetimed (p : Playback) (source : QueueItem) (startAt : Option Number)
      (current : p.currentSource = some source) :
      Effect scope p { p with currentSource := some { source with startAt } }
  | handedOver (p : Playback) (restored : p.restoredFromStorage = true)
      (playing : p.isPlaying = true → scope.frozen) :
      Effect scope p { p with playbackStart := none }
  | clockHeld (p : Playback) (cause : scope.commanded) (free : p.bufferGate = none) :
      Effect scope p (p.holdClock scope.now)
  | prepared (p : Playback) (audience : Audience) (fresh : scope.uuid ∉ p.rounds) :
      Effect scope p (p.prepareEmptyRoomPlayback scope.uuid audience scope.now)
  | roundEdited (p : Playback) (before after : PlaybackPreparation)
      (present : p.playbackPreparation = some before) (edit : RoundEdit before after) :
      Effect scope p (p.assignRound after)
  | scheduled (p : Playback) (before : PlaybackPreparation) (fallback : Option Fallback)
      (startAt : Int) (present : p.playbackPreparation = some before)
      (unscheduled : before.startAt = none) (later : scope.now ≤ startAt)
      (soon : startAt ≤ scope.now + PLAYBACK_START_LEAD_MS) :
      Effect scope p (p.assignRound { before with fallback, startAt := some startAt })
  | started (p : Playback) (onTime : p.StartsOnTime scope.now ∨ scope.miscounts) :
      Effect scope p (p.startPreparedPlayback scope.now)
  | cancelled (p : Playback) : Effect scope p p.cancelPlaybackPreparation
  | sought (p : Playback) (value : Number)
      (counts : p.CountsPlaying scope.now ∨ scope.miscounts) :
      Effect scope p (p.seekRaw value scope.now)
  | emptied (p : Playback) (audience : Audience) (nobody : audience.realusers = []) :
      Effect scope p (p.emptyRoom audience scope.now)
  | intentKept (p : Playback) (round : p.playbackPreparation.isSome = true) :
      Effect scope p ({ p.cancelPlaybackPreparation with resumeOnNextJoin := true }.markDirty
        .isPlaying)
  | heldForJoin (p : Playback) (skipForReconnect : Bool) (audience : Audience) :
      Effect scope p (p.holdEmptyPlaybackForJoin skipForReconnect audience scope.now)

/-- Any number of effects. -/
def Effects (scope : Scope) : Playback → Playback → Prop :=
  Relation.ReflTransGen (Effect scope)

namespace Effects

variable {scope : Scope}

instance : IsPreorder Playback (Effects scope) where
  refl _ := Relation.ReflTransGen.refl
  trans _ _ _ := Relation.ReflTransGen.trans

theorem refl (p : Playback) : Effects scope p p := Relation.ReflTransGen.refl

theorem single {p q : Playback} (effect : Effect scope p q) : Effects scope p q :=
  Relation.ReflTransGen.single effect

theorem tail {p q r : Playback} (first : Effects scope p q) (effect : Effect scope q r) :
    Effects scope p r :=
  Relation.ReflTransGen.tail first effect

theorem trans {p q r : Playback} (first : Effects scope p q) (second : Effects scope q r) :
    Effects scope p r :=
  Relation.ReflTransGen.trans first second

/-- The rule every invariant uses: what each effect keeps, a sequence of effects keeps. -/
theorem preserves {p q : Playback} (effects : Effects scope p q) (holds : Playback → Prop)
    (kept : ∀ p q, Effect scope p q → holds p → holds q) (start : holds p) : holds q := by
  induction effects with
  | refl => exact start
  | tail _ effect ih => exact kept _ _ effect ih

end Effects

namespace Playback

variable {scope : Scope} {p q : Playback}

/-- A round that is still the one it was, or gone, starts no later. -/
theorem StartsOnTime.keep {now : Int} (onTime : p.StartsOnTime now)
    (kept : q.playbackPreparation = p.playbackPreparation ∨ q.playbackPreparation = none) :
    q.StartsOnTime now := by
  intro round startAt present
  rcases kept with same | gone
  · rw [same] at present
    exact onTime round startAt present
  · rw [gone] at present
    cases present

/-- No effect makes a round late. -/
theorem StartsOnTime.effect (effect : Effect scope p q) (onTime : p.StartsOnTime scope.now) :
    q.StartsOnTime scope.now := by
  have released : ∀ (timedOut : Bool) (audience : Audience),
      (p.releaseBufferGate timedOut audience scope.now).playbackPreparation =
          p.playbackPreparation ∨
        (p.releaseBufferGate timedOut audience scope.now).playbackPreparation = none := by
    intro timedOut audience
    rcases releaseBufferGate_cases p scope.now timedOut audience with
      ⟨_, same⟩ | ⟨gate, _, same | ⟨_, _, _, same⟩⟩
    · exact Or.inl (by rw [same])
    · exact Or.inl (by rw [same]; simp)
    · exact Or.inr (by rw [same]; simp [HeldStart.dropped])
  cases effect with
  | pending pending => exact onTime
  | speedEnded => exact onTime.keep (by simp)
  | speedChanged speed nonneg counts => exact onTime.keep (by simp)
  | spedUp clientId gestureId playing plain source => exact onTime.keep (by simp)
  | speedReset plain still => exact onTime.keep (by simp)
  | played cause => exact onTime.keep (by simp [HeldStart.dropped])
  | released timedOut audience due => exact onTime.keep (released timedOut audience)
  | waited gate waitingOn held armed => exact onTime
  | engaged waitingOn free playing plain noRound source settled cool armed =>
      exact onTime.keep (by simp [HeldStart.dropped])
  | recovered clientId => exact onTime.keep (by simp)
  | paused => exact onTime.keep (by simp [HeldStart.dropped])
  | stopped => exact onTime.keep (by simp)
  | sourceTaken item position => exact onTime.keep (by simp [HeldStart.dropped])
  | sourceLeft item position counts => exact onTime.keep (by simp [HeldStart.dropped])
  | sourceEnded cause counts => exact onTime.keep (by simp [HeldStart.dropped])
  | sourceDropped cause => exact onTime.keep (by simp [HeldStart.dropped])
  | sourceRetimed source startAt current => exact onTime
  | handedOver restored playing => exact onTime
  | clockHeld cause free => exact onTime.keep (by simp)
  | prepared audience fresh =>
      rcases prepareEmptyRoomPlayback_cases p scope.now scope.uuid audience with
        same | ⟨source, leader, others, _, _, _, _, _, _, _, same⟩
      · exact onTime.keep (Or.inl (by rw [same]))
      · rw [same]
        rintro round startAt ⟨⟩ scheduled
        cases scheduled
  | roundEdited before after present edit =>
      rintro round startAt ⟨⟩ scheduled
      exact onTime before startAt present (edit.startAt.symm.trans scheduled)
  | scheduled before fallback startAt present unscheduled later soon =>
      rintro round time ⟨⟩ ⟨⟩
      exact later
  | started =>
      rcases startPreparedPlayback_cases p scope.now with
        same | ⟨_, _, _, _, _, _, held, _⟩
      · exact onTime.keep (Or.inl (by rw [same]))
      · exact onTime.keep (Or.inr (by rw [held]; rfl))
  | cancelled => exact onTime.keep (by simp [HeldStart.dropped])
  | sought value counts => exact onTime.keep (by simp [HeldStart.dropped])
  | emptied audience nobody =>
      obtain ⟨_, ⟨resume, held, _⟩, _⟩ := emptyRoom_frame p scope.now audience nobody
      exact onTime.keep (Or.inr (by rw [held]; rfl))
  | intentKept round => exact onTime.keep (by simp [HeldStart.dropped])
  | heldForJoin skipForReconnect audience =>
      rcases holdEmptyPlaybackForJoin_cases p scope.now skipForReconnect audience with
        same | ⟨_, _, held, _⟩
      · exact onTime.keep (Or.inl (by rw [same]))
      · exact onTime.keep (Or.inl (by rw [held]))

end Playback

namespace PlaybackPreparation.WellFormed

/-- Narrowing a round to some of its viewers and naming the first of them its leader keeps
it well formed. -/
theorem narrow {round : PlaybackPreparation} (valid : round.WellFormed) (keep : ClientId → Bool)
    {eligible : List ClientId} {ready : List PlaybackReadyInfo}
    (eligible_eq : eligible = round.eligibleIds.filter keep)
    (ready_eq : ready = round.reports.filter fun report => keep report.clientId) :
    (Playback.withLeader
      { round with eligible := some eligible, ready := some ready }).WellFormed := by
  have ready_ids : ready.map PlaybackReadyInfo.clientId = round.readyIds.filter keep := by
    rw [ready_eq, readyIds, List.filter_map]
    rfl
  have distinct : (ready.map PlaybackReadyInfo.clientId).Nodup := by
    rw [ready_ids]
    exact valid.distinct.filter keep
  have takePart : ∀ id ∈ ready.map PlaybackReadyInfo.clientId, id ∈ eligible := by
    intro id member
    rw [ready_ids, List.mem_filter] at member
    rw [eligible_eq, List.mem_filter]
    exact ⟨valid.takePart id member.1, member.2⟩
  cases eligible with
  | nil =>
      refine ⟨rfl, distinct, takePart, ?_, valid.deadlines⟩
      intro nonempty
      exact absurd rfl nonempty
  | cons leader others =>
      refine ⟨rfl, distinct, takePart, ?_, valid.deadlines⟩
      intro _
      exact List.mem_cons_self

theorem report {round : PlaybackPreparation} (valid : round.WellFormed) {clientId : ClientId}
    (eligible : clientId ∈ round.eligibleIds) (bufferAhead : Option Number) (now : Int) :
    (Playback.withReport clientId bufferAhead now round).WellFormed := by
  have ready_ids : (Playback.withReport clientId bufferAhead now round).readyIds =
      (round.readyIds.filter fun id => decide (id ≠ clientId)) ++ [clientId] := by
    simp only [Playback.withReport, readyIds, reports, Option.getD_some, List.map_append,
      List.map_cons, List.map_nil, List.filter_map]
    rfl
  refine ⟨valid.listed, ?_, ?_, valid.leader, valid.deadlines⟩
  · rw [ready_ids, List.nodup_append]
    refine ⟨valid.distinct.filter _, by simp, ?_⟩
    intro id member other other_mem
    rw [List.mem_filter] at member
    rw [List.mem_singleton] at other_mem
    rw [other_mem]
    exact of_decide_eq_true member.2
  · intro id member
    rw [ready_ids, List.mem_append, List.mem_filter, List.mem_singleton] at member
    rcases member with ⟨earlier, _⟩ | rfl
    · exact valid.takePart id earlier
    · exact eligible

end PlaybackPreparation.WellFormed

namespace Playback

variable {scope : Scope} (p : Playback)

theorem roundEdit_narrow (round : PlaybackPreparation) (keep : ClientId → Bool)
    {eligible : List ClientId} {ready : List PlaybackReadyInfo}
    (eligible_eq : eligible = round.eligibleIds.filter keep)
    (ready_eq : ready = round.reports.filter fun report => keep report.clientId) :
    RoundEdit round
      (withLeader { round with eligible := some eligible, ready := some ready }) := by
  have kept : ∀ leader : PlaybackPreparation, (withLeader leader).id = leader.id ∧
      (withLeader leader).video = leader.video ∧ (withLeader leader).position = leader.position ∧
      (withLeader leader).startAt = leader.startAt := by
    intro leader
    unfold withLeader
    split <;> exact ⟨rfl, rfl, rfl, rfl⟩
  obtain ⟨id, video, position, startAt⟩ :=
    kept { round with eligible := some eligible, ready := some ready }
  exact ⟨id, video, position, startAt, fun valid => valid.narrow keep eligible_eq ready_eq⟩

/-- `schedulePlaybackStart` writes a start time and, for a single viewer, starts. -/
theorem schedulePlaybackStart_effects (fallback : Option Fallback) (audience : Audience) :
    Effects scope p (p.schedulePlaybackStart fallback audience scope.now) := by
  unfold schedulePlaybackStart
  split
  · exact .refl p
  · rename_i preparation present
    split
    · exact .refl p
    · rename_i unscheduled
      have unscheduled : preparation.startAt = none := by simpa using unscheduled
      have lead : scope.now ≤ scope.now + PLAYBACK_START_LEAD_MS := by
        unfold PLAYBACK_START_LEAD_MS
        omega
      split
      · refine .tail (.single (.scheduled p preparation fallback scope.now present unscheduled
          le_rfl lead)) (.started _ (Or.inl ?_))
        rintro round startAt ⟨⟩ ⟨⟩
        exact le_rfl
      · exact .tail (.single (.scheduled p preparation fallback _ present unscheduled lead le_rfl))
          (.pending _ _)

/-- `dropPlaybackParticipant` edits the round and may release it. -/
theorem dropPlaybackParticipant_effects (clientId : ClientId) (audience : Audience) :
    Effects scope p (p.dropPlaybackParticipant clientId audience scope.now) := by
  unfold dropPlaybackParticipant
  split
  · exact .refl p
  · rename_i preparation present
    split
    · exact .refl p
    · have edited : Effects scope p
          (p.assignRound (withLeader (withoutParticipant clientId preparation))) :=
        .single (.roundEdited p preparation _ present
          (roundEdit_narrow preparation (fun id => decide (id ≠ clientId)) rfl rfl))
      dsimp only
      split
      · exact edited.trans (schedulePlaybackStart_effects _ none audience)
      · exact edited

/-- Cancelling forgets the round, whatever it was. -/
theorem cancelPlaybackPreparation_of_round (round : PlaybackPreparation)
    (present : p.playbackPreparation.isSome = true) :
    ({ p with playbackPreparation := some round } : Playback).cancelPlaybackPreparation =
      p.cancelPlaybackPreparation := by
  unfold cancelPlaybackPreparation clearPlaybackStartTimer
  simp [present]

variable (audience : Audience)

include audience

/-- `refreshPlaybackPreparation` edits or cancels the round. -/
theorem refreshPlaybackPreparation_effects :
    Effects scope p (p.refreshPlaybackPreparation audience) := by
  unfold refreshPlaybackPreparation
  split
  · exact .refl p
  · rename_i preparation present
    dsimp only
    split
    · exact .refl p
    · split
      · rw [cancelPlaybackPreparation_of_round p _ (by rw [present]; rfl)]
        exact .single (.cancelled p)
      · refine .single (.roundEdited p preparation _ present
          (roundEdit_narrow preparation
            (fun id => decide (id ∈ audience.playbackEligibleIds preparation)) ?_ rfl))
        unfold Audience.playbackEligibleIds
        refine List.filter_congr ?_
        intro id member
        simp [List.mem_filter, member]

theorem prepareEmptyRoomPlayback_effects (fresh : scope.uuid ∉ p.rounds) :
    Effects scope p (p.prepareEmptyRoomPlayback scope.uuid audience scope.now) :=
  .single (.prepared p audience fresh)

/-- `holdPlaybackForPreparation` stops the clock and creates a round. -/
theorem holdPlaybackForPreparation_effects (commanded : scope.commanded)
    (free : p.bufferGate = none) (fresh : scope.uuid ∉ p.rounds) :
    Effects scope p (p.holdPlaybackForPreparation scope.uuid audience scope.now) := by
  refine .tail (.single (.clockHeld p commanded free)) (.prepared _ audience ?_)
  simpa [holdClock] using fresh

omit audience in
/-- `evaluateBufferGate` releases, renews or begins a hold. -/
theorem evaluateBufferGate_effects (mode : BufferGateMode) (audience : Audience) :
    Effects scope p (p.evaluateBufferGate mode audience scope.now) := by
  have opened : Effects scope p (p.releaseBufferGate false audience scope.now) :=
    .single (.released p false audience (by simp))
  unfold evaluateBufferGate
  split
  · rename_i expired
    exact .single (.released p true audience fun _ => expired)
  · split
    · exact opened
    · rename_i eligible
      simp only [Bool.or_eq_true, not_or, Bool.not_eq_true, Option.isSome_eq_false_iff,
        Option.isNone_eq_false_iff] at eligible
      obtain ⟨⟨⟨_, plain⟩, noRound⟩, source⟩ := eligible
      have armed : ∀ id ∈ (p.bufferingViewers audience).map RoomUser.id,
          id ∉ p.bufferGateExhausted := by
        intro id member
        obtain ⟨user, waiting, rfl⟩ := List.mem_map.mp member
        simp only [bufferingViewers, List.mem_filter, Bool.and_eq_true, decide_eq_true_eq]
          at waiting
        exact waiting.2.2
      dsimp only
      split
      · exact opened
      · split
        · rename_i gate held
          exact .single (.waited p gate _ held armed)
        · rename_i free
          split
          · exact .refl p
          · rename_i ready
            simp only [Bool.or_eq_true, not_or, Bool.not_eq_true] at ready
            obtain ⟨⟨playing, settled⟩, cool⟩ := ready
            refine .single (.engaged p _ free ?_ ?_ ?_ source settled cool armed)
            · simpa using playing
            · simpa using plain
            · simpa using noRound

omit audience in
/-- `finishPlaybackPreparation` records a report or drops the viewer. -/
theorem finishPlaybackPreparation_effects (clientId : ClientId) (status : Option PlayerStatus)
    (prepared : Option PlaybackPrepared) (audience : Audience) :
    Effects scope p (p.finishPlaybackPreparation clientId status prepared audience scope.now) := by
  unfold finishPlaybackPreparation
  split
  · rename_i preparation report present
    split
    · exact .refl p
    · rename_i accepted
      split
      · exact dropPlaybackParticipant_effects p clientId audience
      · split
        · exact .refl p
        · have eligible : clientId ∈ preparation.eligibleIds := by
            simp only [acceptsReport, Bool.not_eq_true, Bool.not_eq_false', Bool.and_eq_true,
              decide_eq_true_eq, Audience.playbackEligibleIds, List.mem_filter] at accepted
            exact accepted.1.1.1.2.1
          have edited : Effects scope p
              (p.assignRound (withReport clientId report.bufferAhead scope.now preparation)) :=
            .single (.roundEdited p preparation _ present
              ⟨rfl, rfl, rfl, rfl, fun valid => valid.report eligible _ _⟩)
          dsimp only
          split
          · exact edited.trans (schedulePlaybackStart_effects _ none audience)
          · exact edited
  · exact .refl p

/-- A deadline schedules a start or notes that nobody is ready. -/
theorem escalateRound_effects (preparation : PlaybackPreparation)
    (present : p.playbackPreparation = some preparation) :
    Effects scope p (p.escalateRound audience scope.now preparation) := by
  unfold escalateRound
  split
  · exact schedulePlaybackStart_effects p none audience
  · split
    · split
      · exact schedulePlaybackStart_effects p _ audience
      · split
        · exact schedulePlaybackStart_effects p _ audience
        · split
          · exact .single (.roundEdited p preparation _ present
              ⟨rfl, rfl, rfl, rfl, fun valid => ⟨valid.listed, valid.distinct, valid.takePart,
                valid.leader, valid.deadlines⟩⟩)
          · exact .refl p
    · exact .refl p

theorem updatePreparation_effects
    (onTime : p.StartsOnTime scope.now ∨ scope.miscounts) :
    Effects scope p (p.updatePreparation audience scope.now) := by
  have escalated : ∀ q : Playback, Effects scope q (q.escalatePreparation audience scope.now) := by
    intro q
    unfold escalatePreparation
    split
    · rename_i preparation present
      split
      · exact escalateRound_effects q audience preparation present
      · exact .refl q
    · exact .refl q
  unfold updatePreparation
  split
  · exact .refl p
  · have settled := (refreshPlaybackPreparation_effects p audience).trans (escalated _)
    dsimp only
    split
    · refine .tail settled (.started _ (onTime.imp_left fun onTime => ?_))
      exact settled.preserves (StartsOnTime scope.now) (fun _ _ => .effect) onTime
    · exact settled

theorem updateTemporarySpeed_effects :
    Effects scope p (p.updateTemporarySpeed audience scope.now) := by
  unfold updateTemporarySpeed
  split
  · split
    · exact .refl p
    · exact .single (.speedEnded p)
  · exact .refl p

/-- A dequeued item is handed over paused, held or played. -/
theorem startItem_effects (free : p.bufferGate = none)
    (fresh : scope.uuid ∉ p.rounds)
    (commanded : p.restoredFromStorage = false → scope.commanded)
    (frozen : p.restoredFromStorage = true → p.isPlaying = true → scope.frozen) :
    Effects scope p (p.startItem scope.uuid audience scope.now) := by
  unfold startItem
  split
  · rename_i restored
    exact .single (.handedOver p restored (frozen restored))
  · rename_i created
    have cause := commanded (by simpa using created)
    split
    · exact holdPlaybackForPreparation_effects p audience cause free fresh
    · split
      · exact .refl p
      · exact .single (.played p (Or.inl cause))

/-- The item of a play-now request is held or played. -/
theorem startItemNow_effects (free : p.bufferGate = none)
    (fresh : scope.uuid ∉ p.rounds) (commanded : scope.commanded) :
    Effects scope p (p.startItemNow scope.uuid audience scope.now) := by
  unfold startItemNow
  split
  · exact holdPlaybackForPreparation_effects p audience commanded free fresh
  · split
    · exact .refl p
    · exact .single (.played p (Or.inl commanded))

omit audience

/-- A restart leaves the source, sets it again and plays. -/
theorem restartSource_effects (source : QueueItem) (commanded : scope.commanded)
    (counts : p.CountsOnce scope.now ∨ scope.miscounts) :
    Effects scope p ((p.countWatched scope.now).restartSource source scope.now) := by
  have taken : Effects scope p
      ((p.countWatched scope.now).takeSource source.clearQueueItemTrim 0 scope.now) :=
    .single (.sourceLeft p _ 0 counts)
  unfold restartSource
  dsimp only
  split
  · exact taken
  · exact .tail taken (.played _ (Or.inl commanded))

/-- Playing from a resume intent that was cleared a moment before is playing from the
intent, up to the order of dirty properties. -/
theorem play_of_intent (now : Int) :
    ∃ pending, (({ p with resumeOnNextJoin := false }.markDirty .isPlaying).play now) =
      { p.play now with toPending := pending } := by
  obtain ⟨clock, ⟨round, resume, rounds, starts⟩, ⟨gate, exhausted, last, cooldown, events⟩,
    pending, source, restored, watched⟩ := p
  obtain ⟨playing, position, speed, start, temporary⟩ := clock
  cases round <;> cases resume <;> cases gate <;> cases playing <;> exact ⟨_, rfl⟩

/-- A join resumes from the saved intent or prepares a round. -/
theorem resumeForJoin_effects (reconnect mayPlay : Bool) (audience : Audience)
    (fresh : scope.uuid ∉ p.rounds) :
    Effects scope p (p.resumeForJoin reconnect mayPlay scope.uuid audience scope.now) := by
  unfold resumeForJoin
  split
  · rename_i resumes
    simp only [Bool.and_eq_true] at resumes
    dsimp only
    obtain ⟨pending, same⟩ := play_of_intent p scope.now
    rw [same]
    have played : Effects scope p (p.play scope.now) :=
      .single (.played p (Or.inr resumes.1.1.1.2))
    exact .tail (.tail played (.pending _ pending)) (.pending _ _)
  · exact prepareEmptyRoomPlayback_effects p audience fresh

/-- A round that loses an eligible viewer is built anew. -/
theorem rebuildRound_effects (clientId : ClientId) (audience : Audience)
    (fresh : scope.uuid ∉ p.rounds) :
    Effects scope p (p.rebuildRound scope.uuid clientId audience scope.now) := by
  unfold rebuildRound
  split
  · exact .refl p
  · rename_i preparation present
    split
    · refine .tail (.single (.intentKept p (by rw [present]; rfl))) (.prepared _ audience ?_)
      simpa [HeldStart.dropped] using fresh
    · exact .refl p

end Playback

end OpenTogetherTube
