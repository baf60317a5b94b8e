import OpenTogetherTube.Client.EveryViewer

/-!
# Hidden viewers

`finishPlaybackPreparation` drops a viewer that reports its tab to be hidden. No page ever
sends that report: one that is hidden does not go on with the round. So a viewer that hides
before it is acknowledged holds the start up until the deadline, whatever the others do.
-/

namespace OpenTogetherTube

open Lib

namespace Playback

section Tally

/-- The viewer takes part and has not been heard of. -/
def Missing (audience : Audience) (id : ClientId) (round : PlaybackPreparation) : Prop :=
  id ∈ audience.playbackEligibleIds round ∧ id ∉ round.readyIds

/-- Everybody who takes part has been heard of. -/
def Complete (audience : Audience) (round : PlaybackPreparation) : Prop :=
  ∀ id ∈ audience.playbackEligibleIds round, id ∈ round.readyIds

variable {audience : Audience} {round after : PlaybackPreparation} {id : ClientId}

theorem allEligibleReady_iff : allEligibleReady audience round = true ↔
    audience.playbackEligibleIds round ≠ [] ∧ Complete audience round := by
  unfold allEligibleReady Complete
  simp only [Bool.and_eq_true, Bool.not_eq_true', List.isEmpty_eq_false_iff, List.all_eq_true,
    decide_eq_true_eq]

theorem Missing.not_allEligibleReady (missing : Missing audience id round) :
    allEligibleReady audience round = false := by
  rw [← Bool.not_eq_true, allEligibleReady_iff]
  rintro ⟨_, complete⟩
  exact missing.2 (complete id missing.1)

/-- What a report or a look at the audience does to a round: it is about these viewers. -/
structure Recount (audience : Audience) (about : ClientId → Prop)
    (before after : PlaybackPreparation) : Prop where
  id : after.id = before.id
  startAt : after.startAt = before.startAt
  deadlineAt : after.deadlineAt = before.deadlineAt
  eligible : ∀ id ∈ audience.playbackEligibleIds after, id ∈ audience.playbackEligibleIds before
  stays : ∀ id ∈ audience.playbackEligibleIds before, ¬ about id →
    id ∈ audience.playbackEligibleIds after
  ready : ∀ id ∈ audience.playbackEligibleIds after, id ∈ before.readyIds → id ∈ after.readyIds
  unheard : ∀ id ∈ after.readyIds, ¬ about id → id ∈ before.readyIds

variable {about : ClientId → Prop}

theorem Missing.recount (missing : Missing audience id round)
    (recount : Recount audience about round after) (other : ¬ about id) :
    Missing audience id after :=
  ⟨recount.stays id missing.1 other, fun heard => missing.2 (recount.unheard id heard other)⟩

theorem Complete.recount (complete : Complete audience round)
    (recount : Recount audience about round after) : Complete audience after :=
  fun id member => recount.ready id member (complete id (recount.eligible id member))

theorem recount_withReport (audience : Audience) (round : PlaybackPreparation)
    (clientId : ClientId) (bufferAhead : Option Number) (now : Int) :
    Recount audience (· = clientId) round (withReport clientId bufferAhead now round) := by
  refine ⟨rfl, rfl, rfl, fun _ member => member, fun _ member _ => member, ?_, ?_⟩
  · intro id _ heard
    exact mem_readyIds_withReport.mpr (Or.inr heard)
  · intro id heard other
    exact (mem_readyIds_withReport.mp heard).resolve_left other

theorem recount_narrow (audience : Audience) (round : PlaybackPreparation)
    (keep : ClientId → Bool) (dropped : ∀ id ∈ audience.playbackEligibleIds round,
      ¬ about id → keep id = true) :
    Recount audience about round (withLeader { round with
      eligible := some (round.eligibleIds.filter keep)
      ready := some (round.reports.filter fun report => keep report.clientId) }) := by
  have led : ∀ leader : PlaybackPreparation, (withLeader leader).id = leader.id ∧
      (withLeader leader).startAt = leader.startAt ∧
      (withLeader leader).deadlineAt = leader.deadlineAt ∧
      (withLeader leader).eligible = leader.eligible ∧
      (withLeader leader).ready = leader.ready := by
    intro leader
    unfold withLeader
    split <;> exact ⟨rfl, rfl, rfl, rfl, rfl⟩
  obtain ⟨sameId, startAt, deadlineAt, eligible, ready⟩ := led { round with
    eligible := some (round.eligibleIds.filter keep)
    ready := some (round.reports.filter fun report => keep report.clientId) }
  have memEligible : ∀ id, id ∈ audience.playbackEligibleIds (withLeader { round with
        eligible := some (round.eligibleIds.filter keep)
        ready := some (round.reports.filter fun report => keep report.clientId) }) ↔
      id ∈ audience.playbackEligibleIds round ∧ keep id = true := by
    intro id
    unfold Audience.playbackEligibleIds
    rw [PlaybackPreparation.eligibleIds, eligible, Option.getD_some, List.mem_filter,
      List.mem_filter, List.mem_filter, and_right_comm]
  have memReady : ∀ id, id ∈ PlaybackPreparation.readyIds (withLeader { round with
        eligible := some (round.eligibleIds.filter keep)
        ready := some (round.reports.filter fun report => keep report.clientId) }) ↔
      id ∈ round.readyIds ∧ keep id = true := by
    intro id
    rw [PlaybackPreparation.readyIds, PlaybackPreparation.reports, ready, Option.getD_some,
      PlaybackPreparation.readyIds, List.mem_map, List.mem_map]
    constructor
    · rintro ⟨report, member, rfl⟩
      rw [List.mem_filter] at member
      exact ⟨⟨report, member.1, rfl⟩, member.2⟩
    · rintro ⟨⟨report, member, rfl⟩, kept⟩
      exact ⟨report, List.mem_filter.mpr ⟨member, kept⟩, rfl⟩
  refine ⟨sameId, startAt, deadlineAt, ?_, ?_, ?_, ?_⟩
  · intro id member
    exact ((memEligible id).mp member).1
  · intro id member other
    exact (memEligible id).mpr ⟨member, dropped id member other⟩
  · intro id member heard
    exact (memReady id).mpr ⟨heard, ((memEligible id).mp member).2⟩
  · intro id heard _
    exact ((memReady id).mp heard).1

end Tally

section Server

variable {p : Playback} {audience : Audience} {round : PlaybackPreparation} {id : ClientId}
  {now : Int}

/-- How both branches of `finishPlaybackPreparation` end. -/
def recounted (round : PlaybackPreparation) (audience : Audience) (now : Int) (p : Playback) :
    Playback :=
  if allEligibleReady audience round then (p.assignRound round).schedulePlaybackStart none audience now
  else p.assignRound round

theorem finishPlaybackPreparation_congr {others : Audience}
    (same : others.clientGranted .playPause = audience.clientGranted .playPause)
    (clientId : ClientId) (status : Option PlayerStatus) (prepared : Option PlaybackPrepared) :
    p.finishPlaybackPreparation clientId status prepared others now =
      p.finishPlaybackPreparation clientId status prepared audience now := by
  have ids : others.playbackEligibleIds = audience.playbackEligibleIds := by
    funext round
    unfold Audience.playbackEligibleIds
    rw [same]
  unfold finishPlaybackPreparation acceptsReport dropPlaybackParticipant allEligibleReady
    schedulePlaybackStart
  rw [ids]

/-- A report changes nothing, or is entered, or drops its viewer. -/
theorem finishPlaybackPreparation_cases (present : p.playbackPreparation = some round)
    (clientId : ClientId) (status : Option PlayerStatus) (prepared : PlaybackPrepared)
    (audience : Audience) (now : Int) :
    p.finishPlaybackPreparation clientId status (some prepared) audience now = p ∨
      prepared.id = round.id ∧ ∃ after, Recount audience (· = clientId) round after ∧
        p.finishPlaybackPreparation clientId status (some prepared) audience now =
          p.recounted after audience now := by
  unfold finishPlaybackPreparation
  rw [present]
  dsimp only
  split
  · exact Or.inl rfl
  · rename_i accepts
    have same : prepared.id = round.id := by
      unfold acceptsReport at accepts
      simp only [Bool.not_eq_true', Bool.not_eq_false, Bool.and_eq_true, decide_eq_true_eq]
        at accepts
      exact accepts.1.1.1.1
    split
    · -- The viewer is dropped, as is its report.
      unfold dropPlaybackParticipant
      rw [present]
      dsimp only
      split
      · exact Or.inl rfl
      · refine Or.inr ⟨same, withLeader (withoutParticipant clientId round), ?_, ?_⟩
        · refine recount_narrow audience round (fun id => decide (id ≠ clientId)) ?_
          intro other _ differs
          exact decide_eq_true differs
        · have redundant : (!(withLeader (withoutParticipant clientId round)).eligibleIds.isEmpty &&
              allEligibleReady audience (withLeader (withoutParticipant clientId round))) =
              allEligibleReady audience (withLeader (withoutParticipant clientId round)) := by
            cases ids : (withLeader (withoutParticipant clientId round)).eligibleIds with
            | nil =>
                unfold allEligibleReady Audience.playbackEligibleIds
                rw [ids]
                rfl
            | cons => rfl
          unfold recounted
          rw [redundant]
    · split
      · exact Or.inl rfl
      · exact Or.inr ⟨same, withReport clientId prepared.bufferAhead now round,
          recount_withReport audience round clientId prepared.bufferAhead now, rfl⟩

/-- The audience looked at again: the round is cancelled, or counted without those who are
gone. -/
theorem refreshPlaybackPreparation_recount (audience : Audience)
    (present : p.playbackPreparation = some round) :
    (audience.playbackEligibleIds round = [] ∧
        (p.refreshPlaybackPreparation audience).playbackPreparation = none) ∨
      ∃ after, (p.refreshPlaybackPreparation audience).playbackPreparation = some after ∧
        Recount audience (fun _ => False) round after := by
  unfold refreshPlaybackPreparation
  rw [present]
  dsimp only
  split
  · exact Or.inr ⟨round, present, rfl, rfl, rfl, fun _ member => member, fun _ member _ => member,
      fun _ _ heard => heard, fun _ heard _ => heard⟩
  · split
    · rename_i empty
      rw [Bool.and_eq_true, List.isEmpty_iff, List.isEmpty_iff] at empty
      exact Or.inl ⟨empty.1, by simp [HeldStart.dropped]⟩
    · refine Or.inr ⟨_, rfl, ?_⟩
      have kept : round.eligibleIds.filter (fun id =>
          decide (id ∈ audience.playbackEligibleIds round)) = audience.playbackEligibleIds round := by
        unfold Audience.playbackEligibleIds
        refine List.filter_congr ?_
        intro id member
        simp [List.mem_filter, member]
      have narrowed := @recount_narrow (fun _ => False) audience round
        (fun id => decide (id ∈ audience.playbackEligibleIds round))
        (fun id member _ => decide_eq_true member)
      rw [kept] at narrowed
      exact narrowed

/-- The deadline of the round, if there is one, is still to come. -/
def inTime (now : Int) (p : Playback) : Bool :=
  p.playbackPreparation.all fun round => round.deadlineAt.all fun deadline => decide (now < deadline)

theorem escalateRound_inTime (p : Playback) (audience : Audience)
    (inTime : (round.deadlineAt.all fun deadline => decide (now < deadline)) = true) :
    p.escalateRound audience now round =
      if allEligibleReady audience round then p.schedulePlaybackStart none audience now else p := by
  have early : (round.deadlineAt.any fun deadline => decide (now ≥ deadline)) = false := by
    cases deadlineAt : round.deadlineAt with
    | none => rfl
    | some deadline =>
        rw [deadlineAt, Option.all_some, decide_eq_true_eq] at inTime
        rw [Option.any_some, decide_eq_false_iff_not]
        omega
  unfold escalateRound
  rw [early]
  rfl

/-- A round has a start time exactly if everybody is ready. -/
def Waits (audience : Audience) (p : Playback) : Prop :=
  ∀ round, p.playbackPreparation = some round →
    (round.startAt = none → allEligibleReady audience round = false) ∧
    (round.startAt ≠ none → Complete audience round)

/-- The round waits for this viewer. -/
def BlockedBy (audience : Audience) (id : ClientId) (roundId : String) (p : Playback) : Prop :=
  ∃ round, p.playbackPreparation = some round ∧ round.id = roundId ∧ round.startAt = none ∧
    Missing audience id round

theorem Waits.of_none (ended : p.playbackPreparation = none) : p.Waits audience := by
  intro round present
  rw [ended] at present
  cases present

theorem Waits.of_some (present : p.playbackPreparation = some round)
    (unscheduled : round.startAt = none → allEligibleReady audience round = false)
    (scheduled : round.startAt ≠ none → Complete audience round) : p.Waits audience := by
  intro other there
  rw [present] at there
  cases there
  exact ⟨unscheduled, scheduled⟩

/-- Scheduling a round with everybody ready. -/
theorem Waits.schedulePlaybackStart (present : p.playbackPreparation = some round)
    (complete : Complete audience round) (fallback : Option Fallback) (others : Audience) (now : Int) :
    (p.schedulePlaybackStart fallback others now).Waits audience := by
  unfold Playback.schedulePlaybackStart
  rw [present]
  dsimp only
  split
  · rename_i set
    refine .of_some present ?_ fun _ => complete
    intro unset
    rw [unset] at set
    cases set
  · split
    · have started : StartedFrom { round with fallback, startAt := some now } now
          (p.assignRound { round with fallback, startAt := some now })
          ((p.assignRound { round with fallback, startAt := some now }).startPreparedPlayback now) :=
        startPreparedPlayback_startedFrom rfl rfl le_rfl
      exact .of_none started.ended
    · refine .of_some rfl (fun unset => ?_) fun _ => complete
      cases unset

theorem Waits.recounted {after : PlaybackPreparation}
    (scheduled : after.startAt ≠ none → Complete audience after) (p : Playback) (now : Int) :
    (p.recounted after audience now).Waits audience := by
  unfold Playback.recounted
  split
  · rename_i ready
    exact .schedulePlaybackStart rfl (allEligibleReady_iff.mp ready).2 none audience now
  · rename_i unready
    exact .of_some rfl (fun _ => (Bool.not_eq_true _).mp unready) scheduled

/-- A report keeps it so. -/
theorem Waits.finishPlaybackPreparation (waits : p.Waits audience) (clientId : ClientId)
    (status : Option PlayerStatus) (prepared : PlaybackPrepared) (now : Int) :
    (p.finishPlaybackPreparation clientId status (some prepared) audience now).Waits audience := by
  cases present : p.playbackPreparation with
  | none =>
      have same : p.finishPlaybackPreparation clientId status (some prepared) audience now = p := by
        unfold Playback.finishPlaybackPreparation
        rw [present]
      rw [same]
      exact waits
  | some round =>
      rcases finishPlaybackPreparation_cases present clientId status prepared audience now with
        same | ⟨_, after, recount, same⟩
      · rw [same]
        exact waits
      · rw [same]
        refine .recounted ?_ p now
        intro scheduled
        rw [recount.startAt] at scheduled
        exact ((waits round present).2 scheduled).recount recount

/-- `update` keeps it so until the deadline. -/
theorem Waits.updatePreparation (waits : p.Waits audience) (inTime : p.inTime now = true) :
    (p.updatePreparation audience now).Waits audience := by
  have settled : ∀ q : Playback, q.Waits audience →
      (if q.startDue now then q.startPreparedPlayback now else q).Waits audience := by
    intro q waits
    split
    · rename_i due
      unfold startDue at due
      obtain ⟨round, present, set⟩ := (Option.any_eq_true _ _).mp due
      obtain ⟨startAt, set, reached⟩ := (Option.any_eq_true _ _).mp set
      exact .of_none
        (startPreparedPlayback_startedFrom present set (of_decide_eq_true reached)).ended
    · exact waits
  unfold Playback.updatePreparation
  cases present : p.playbackPreparation with
  | none => exact waits
  | some round =>
      rw [if_neg (by simp)]
      refine settled _ ?_
      unfold escalatePreparation
      rcases refreshPlaybackPreparation_recount audience present with
        ⟨_, ended⟩ | ⟨after, there, recount⟩
      · rw [ended]
        exact .of_none ended
      · have early : (after.deadlineAt.all fun deadline => decide (now < deadline)) = true := by
          unfold Playback.inTime at inTime
          rw [present, Option.all_some] at inTime
          rw [recount.deadlineAt]
          exact inTime
        rw [there]
        dsimp only
        rw [escalateRound_inTime _ _ early]
        cases set : after.startAt with
        | some startAt =>
            have scheduled : round.startAt ≠ none := by
              rw [← recount.startAt, set]
              exact nofun
            refine .of_some there (fun unset => ?_) fun _ =>
              ((waits round present).2 scheduled).recount recount
            rw [set] at unset
            cases unset
        | none =>
            rw [if_pos Option.isNone_none]
            split
            · rename_i ready
              exact .schedulePlaybackStart there (allEligibleReady_iff.mp ready).2 none audience now
            · rename_i unready
              refine .of_some there (fun _ => (Bool.not_eq_true _).mp unready) fun scheduled => ?_
              exact absurd set scheduled

variable {roundId : String}

/-- What others report does not help. -/
theorem BlockedBy.finishPlaybackPreparation (blocked : p.BlockedBy audience id roundId)
    {clientId : ClientId} {prepared : PlaybackPrepared}
    (other : prepared.id = roundId → id ≠ clientId) (status : Option PlayerStatus) (now : Int) :
    (p.finishPlaybackPreparation clientId status (some prepared) audience now).BlockedBy audience id
      roundId := by
  obtain ⟨round, present, same, unscheduled, missing⟩ := blocked
  rcases finishPlaybackPreparation_cases present clientId status prepared audience now with
    unchanged | ⟨about, after, recount, changed⟩
  · rw [unchanged]
    exact ⟨round, present, same, unscheduled, missing⟩
  · have still := missing.recount recount (other (about.trans same))
    rw [changed]
    unfold recounted
    rw [still.not_allEligibleReady]
    exact ⟨after, rfl, recount.id.trans same, recount.startAt.trans unscheduled, still⟩

/-- Nor does `update`, until the deadline. -/
theorem BlockedBy.updatePreparation (blocked : p.BlockedBy audience id roundId)
    (inTime : p.inTime now = true) :
    (p.updatePreparation audience now).BlockedBy audience id roundId := by
  obtain ⟨round, present, same, unscheduled, missing⟩ := blocked
  rcases refreshPlaybackPreparation_recount audience present with
    ⟨nobody, _⟩ | ⟨after, there, recount⟩
  · have member := missing.1
    rw [nobody] at member
    cases member
  · have still := missing.recount recount not_false
    have unset := recount.startAt.trans unscheduled
    have early : (after.deadlineAt.all fun deadline => decide (now < deadline)) = true := by
      unfold Playback.inTime at inTime
      rw [present, Option.all_some] at inTime
      rw [recount.deadlineAt]
      exact inTime
    have kept : p.updatePreparation audience now = p.refreshPlaybackPreparation audience := by
      unfold Playback.updatePreparation escalatePreparation
      rw [present, if_neg (by simp), there]
      dsimp only
      rw [unset, if_pos Option.isNone_none, escalateRound_inTime _ _ early, still.not_allEligibleReady,
        if_neg Bool.false_ne_true]
      unfold startDue
      rw [there, Option.any_some, unset]
      rfl
    rw [kept]
    exact ⟨after, there, recount.id.trans same, unset, still⟩

end Server

end Playback

namespace Preparer

variable {preparer : Preparer} {tick : PreparationTick} {state : PreparationInput}

variable (hidden : state.visible = some false)

include hidden

theorem matches_hidden : preparer.matches state = false := by
  rw [← Bool.not_eq_true]
  intro same
  exact visible_of_matches same hidden

theorem current_hidden :
    preparer.current tick state = false := by
  unfold current
  rw [matches_hidden hidden, Bool.and_false]

theorem fail_hidden : preparer.fail state = preparer := by
  unfold fail
  rw [matches_hidden hidden]
  rfl

omit hidden in
@[simp] theorem release_sent : (preparer.release tick).1.sent = preparer.sent := by
  unfold release
  split <;> rfl

omit hidden in
@[simp] theorem reconcile_sent : (preparer.reconcile state).sent = preparer.sent := by
  unfold reconcile
  split <;> rfl

theorem abort_hidden :
    (preparer.abort tick state).1.sent = preparer.sent := by
  unfold abort
  rw [current_hidden hidden]
  exact release_sent

theorem thaw_hidden :
    (preparer.thaw tick state).1.sent = preparer.sent := by
  unfold thaw
  rw [current_hidden hidden]
  exact release_sent

omit hidden

/-- A hidden page sends nothing from an await on. -/
theorem resume_hidden (point : PreparerPoint) {answer : PreparerAnswer}
    (hidden : answer.state.visible = some false) :
    (preparer.resume point answer).1.sent = preparer.sent := by
  unfold resume
  split
  · exact abort_hidden hidden
  · cases point with
    | locating tick =>
        change (preparer.locate tick answer.state answer.position).1.sent = _
        unfold locate
        rw [current_hidden hidden]
        exact release_sent
    | halting tick =>
        dsimp only
        rw [current_hidden hidden]
        exact release_sent
    | seeking tick =>
        dsimp only
        rw [current_hidden hidden]
        exact release_sent
    | freezing tick =>
        dsimp only
        rw [current_hidden hidden]
        exact thaw_hidden hidden
    | confirming tick =>
        change (preparer.confirm tick answer.state answer.position).1.sent = _
        unfold confirm
        rw [current_hidden hidden]
        exact thaw_hidden hidden

/-- Nor does it at a call. -/
theorem call_hidden (asked : PreparerCall) {answer : PreparerAnswer}
    (hidden : answer.state.visible = some false) :
    (Preparer.call asked answer preparer).1.sent = preparer.sent := by
  cases asked with
  | tick =>
      change (preparer.tick answer.state).1.sent = _
      unfold Preparer.tick
      dsimp only
      split
      · exact reconcile_sent
      · split
        · exact reconcile_sent
        · exact reconcile_sent
  | retry =>
      change (preparer.retry answer.state).sent = _
      unfold retry
      dsimp only
      split
      · exact reconcile_sent
      · exact reconcile_sent
  | cancel => exact reconcile_sent
  | fail =>
      change (preparer.fail answer.state).sent = _
      rw [fail_hidden hidden]
  | dispose => exact reconcile_sent

end Preparer

/-- What the piece that a label runs sees. -/
def TaskLabel.seen : TaskLabel PreparerCall PreparerAnswer → PreparerAnswer
  | .call _ answer | .resume _ answer | .serve answer => answer

/-- A step of a hidden page sends nothing. -/
theorem Preparer.next_hidden {tasks : Tasks Preparer PreparerPoint Empty}
    {label : TaskLabel PreparerCall PreparerAnswer} (possible : Program.Enabled tasks label)
    (hidden : (TaskLabel.seen label).state.visible = some false) :
    (program.next label tasks).shared.sent = tasks.shared.sent := by
  rcases program.next_cases possible with ⟨asked, answer, rfl, next⟩ |
    ⟨earlier, point, later, answer, rfl, split, next⟩ | ⟨guarded, rest, answer, rfl, first, next⟩
  · rw [next, Tasks.park_shared]
    exact call_hidden asked hidden
  · rw [next, Tasks.park_shared]
    exact resume_hidden point hidden
  · exact guarded.elim

/-- A room and the pages of its viewers. -/
structure Screening where
  playback : Playback
  audience : Audience
  page : ClientId → Tasks Preparer PreparerPoint Empty
  /-- Whose tabs are hidden. -/
  hidden : ClientId → Bool

/-- A page takes a step, a tab is hidden or shown, a report arrives, or the room's timer runs. -/
inductive ScreeningLabel where
  | page (id : ClientId) (label : TaskLabel PreparerCall PreparerAnswer)
  | turn (id : ClientId) (hidden : Bool)
  | deliver (delivery : Delivery)
  | update (now : Int)

namespace Screening

/-- The screening after a step. -/
def next (label : ScreeningLabel) (screening : Screening) : Screening :=
  match label with
  | .page id label =>
      { screening with
        page := Function.update screening.page id (Preparer.program.next label (screening.page id)) }
  | .turn id hidden => { screening with hidden := Function.update screening.hidden id hidden }
  | .deliver delivery => { screening with playback := screening.playback.deliver delivery }
  | .update now =>
      { screening with playback := screening.playback.updatePreparation screening.audience now }

/-- A page sees its own id and whether its tab is hidden, and besides that anything. What
arrives was sent, while the same people may play. The room's deadline is still to come. -/
def Possible (screening : Screening) : ScreeningLabel → Prop
  | .page id label => Program.Enabled (screening.page id) label ∧
      (TaskLabel.seen label).state.clientId = id ∧
      (TaskLabel.seen label).state.visible = some (!screening.hidden id)
  | .turn _ _ => True
  | .deliver delivery =>
      delivery.report ∈ (screening.page delivery.clientId).shared.sent ∧
        delivery.audience.clientGranted .playPause = screening.audience.clientGranted .playPause ∧
        screening.playback.inTime delivery.now = true
  | .update now => screening.playback.inTime now = true

/-- A room holds a new round, and its viewers' pages are in any states they may be in. -/
def Begins (screening : Screening) : Prop :=
  (∃ state, roomSystem.Reachable state ∧ screening.playback = state.room.toPlayback ∧
    screening.audience = state.room.toAudience ∧ ∃ round,
      state.room.playbackPreparation = some round ∧ round.reports = [] ∧ round.startAt = none) ∧
  ∀ id, Preparer.system.Reachable (screening.page id)

/-- Every order of visibility changes, reports and steps of the pages, until the deadline. -/
def system : TransitionSystem Screening ScreeningLabel where
  Initial := Begins
  Step before label after := before.Possible label ∧ after = before.next label

variable {screening later : Screening} {round : PlaybackPreparation} {id : ClientId}

/-- Every eligible viewer whose tab is visible has been acknowledged. -/
def VisibleReady (round : PlaybackPreparation) (screening : Screening) : Prop :=
  ∀ id ∈ screening.audience.playbackEligibleIds round, screening.hidden id = false →
    id ∈ round.readyIds

/-- Every eligible viewer whose tab is hidden has been acknowledged. -/
def HiddenReady (round : PlaybackPreparation) (screening : Screening) : Prop :=
  ∀ id ∈ screening.audience.playbackEligibleIds round, screening.hidden id = true →
    id ∈ round.readyIds

/-- The round waits for a viewer that has sent nothing about it. -/
structure Blocks (id : ClientId) (roundId : String) (screening : Screening) : Prop where
  blocked : screening.playback.BlockedBy screening.audience id roundId
  silent : ∀ report ∈ (screening.page id).shared.sent, report.id ≠ roundId

/-- As long as its tab is hidden, one step of anybody leaves it so. -/
theorem Blocks.step {roundId : String} {label : ScreeningLabel}
    (blocks : screening.Blocks id roundId) (hidden : screening.hidden id = true)
    (possible : screening.Possible label) : (screening.next label).Blocks id roundId := by
  cases label with
  | page other label =>
      refine ⟨blocks.blocked, ?_⟩
      by_cases own : id = other
      · subst own
        obtain ⟨enabled, _, visible⟩ := possible
        have unseen : (TaskLabel.seen label).state.visible = some false := by
          rw [visible, hidden]
          rfl
        have same : ((screening.next (.page id label)).page id).shared.sent =
            (screening.page id).shared.sent := by
          change (Function.update screening.page id
            (Preparer.program.next label (screening.page id)) id).shared.sent = _
          rw [Function.update_self]
          exact Preparer.next_hidden enabled unseen
        rw [same]
        exact blocks.silent
      · have same : (screening.next (.page other label)).page id = screening.page id :=
          Function.update_of_ne own _ _
        rw [same]
        exact blocks.silent
  | turn other hidden => exact ⟨blocks.blocked, blocks.silent⟩
  | deliver delivery =>
      obtain ⟨sent, permitted, _⟩ := possible
      refine ⟨?_, blocks.silent⟩
      change (screening.playback.deliver delivery).BlockedBy screening.audience id roundId
      unfold Playback.deliver
      rw [Playback.finishPlaybackPreparation_congr permitted]
      refine blocks.blocked.finishPlaybackPreparation ?_ _ _
      rintro about rfl
      exact blocks.silent _ sent about
  | update now => exact ⟨blocks.blocked.updatePreparation possible, blocks.silent⟩

/-- And so does every run. -/
theorem Blocks.steps {roundId : String} (blocks : screening.Blocks id roundId)
    (run : (system.restrict fun before _ => before.hidden id = true).Steps screening later) :
    later.Blocks id roundId := by
  refine TransitionSystem.Steps.relates (Blocks id roundId) blocks ?_ run
  rintro before label after _ blocks ⟨hidden, possible, rfl⟩
  exact blocks.step hidden possible

/-- A round has a start time exactly if everybody is ready, in every order of steps. -/
theorem waits_of_reachable (reachable : system.Reachable screening) :
    screening.playback.Waits screening.audience := by
  have invariant : TransitionSystem.Inductive system fun screening =>
      screening.playback.Waits screening.audience := by
    refine ⟨?_, ?_⟩
    · rintro start ⟨⟨state, _, playback, audience, round, present, unheard, unscheduled⟩, _⟩
      rw [playback, audience]
      refine .of_some present (fun _ => ?_) fun scheduled => absurd unscheduled scheduled
      rw [← Bool.not_eq_true, Playback.allEligibleReady_iff]
      rintro ⟨someone, complete⟩
      obtain ⟨id, member⟩ := List.exists_mem_of_ne_nil _ someone
      have heard := complete id member
      unfold PlaybackPreparation.readyIds at heard
      rw [unheard] at heard
      cases heard
    · rintro before label after waits ⟨possible, rfl⟩
      cases label with
      | page id label => exact waits
      | turn id hidden => exact waits
      | deliver delivery =>
          change (before.playback.deliver delivery).Waits before.audience
          unfold Playback.deliver
          rw [Playback.finishPlaybackPreparation_congr possible.2.1]
          exact waits.finishPlaybackPreparation _ _ _ _
      | update now => exact waits.updatePreparation possible
  exact invariant.of_reachable reachable

/-- The pages take the steps of a page. -/
theorem page_reachable (reachable : system.Reachable screening) (id : ClientId) :
    Preparer.system.Reachable (screening.page id) := by
  have invariant : TransitionSystem.Inductive system fun screening =>
      ∀ id, Preparer.system.Reachable (screening.page id) := by
    refine ⟨fun start begins => begins.2, ?_⟩
    rintro before label after pages ⟨possible, rfl⟩ id
    cases label with
    | page other label =>
        by_cases own : id = other
        · subst own
          change Preparer.system.Reachable (Function.update before.page id _ id)
          rw [Function.update_self]
          have step : Preparer.system.Step (before.page id) label
              (Preparer.program.next label (before.page id)) := ⟨possible.1, rfl⟩
          exact (pages id).steps (TransitionSystem.Steps.single step)
        · change Preparer.system.Reachable (Function.update before.page other _ id)
          rw [Function.update_of_ne own]
          exact pages id
    | turn other hidden => exact pages id
    | deliver delivery => exact pages id
    | update now => exact pages id
  exact invariant.of_reachable reachable id

/-- In every order of visibility changes, reports and steps of the pages before the deadline: no
page reports that it is hidden; once the visible viewers are acknowledged the start is
scheduled exactly if the hidden ones were acknowledged too; and a hidden viewer that has sent
nothing about the round holds it up for as long as it stays hidden. -/
theorem hidden_viewers_iff (reachable : system.Reachable screening)
    (present : screening.playback.playbackPreparation = some round)
    (someone : screening.audience.playbackEligibleIds round ≠ []) :
    (∀ id, ∀ report ∈ (screening.page id).shared.sent, report.visible ≠ some false) ∧
    ((screening.VisibleReady round → round.startAt ≠ none) ↔
      (screening.VisibleReady round → screening.HiddenReady round)) ∧
    ∀ id ∈ screening.audience.playbackEligibleIds round, id ∉ round.readyIds →
      (∀ report ∈ (screening.page id).shared.sent, report.id ≠ round.id) →
      ∀ later, (system.restrict fun before _ => before.hidden id = true).Steps screening later →
        ∃ laterRound, later.playback.playbackPreparation = some laterRound ∧
          laterRound.id = round.id ∧ laterRound.startAt = none := by
  obtain ⟨unscheduled, scheduled⟩ := waits_of_reachable reachable round present
  refine ⟨?_, ?_, ?_⟩
  · intro id report sent hidden
    rw [Preparer.visible_of_reachable (page_reachable reachable id) report sent] at hidden
    cases hidden
  · constructor
    · intro starts visible id member _
      exact scheduled (starts visible) id member
    · intro ready visible unset
      have complete : Playback.Complete screening.audience round := by
        intro id member
        cases hidden : screening.hidden id with
        | true => exact ready visible id member hidden
        | false => exact visible id member hidden
      have all := Playback.allEligibleReady_iff.mpr ⟨someone, complete⟩
      rw [unscheduled unset] at all
      cases all
  · intro id member unheard silent later run
    have unset : round.startAt = none := by
      by_contra set
      exact unheard (scheduled set id member)
    have blocks : screening.Blocks id round.id :=
      ⟨⟨round, present, rfl, unset, member, unheard⟩, silent⟩
    obtain ⟨laterRound, there, same, still, _⟩ := (blocks.steps run).blocked
    exact ⟨laterRound, there, same, still⟩

end Screening

namespace Sample

/-- The two viewers, one of them with its tab hidden, before either has begun. -/
def screening (hidden : ClientId → Bool) : Screening where
  playback := heldForBoth.room.toPlayback
  audience := heldForBoth.room.toAudience
  page _ := { shared := {} }
  hidden := hidden

theorem screening_begins (hidden : ClientId → Bool) : (screening hidden).Begins := by
  have present : heldForBoth.room.playbackPreparation = some ledByViewer := by decide +kernel
  have playback : (screening hidden).playback = heldForBoth.room.toPlayback := by
    simp only [screening]
  have audience : (screening hidden).audience = heldForBoth.room.toAudience := by
    simp only [screening]
  have unheard : ledByViewer.reports = [] := rfl
  have unscheduled : ledByViewer.startAt = none := rfl
  exact ⟨⟨heldForBoth, heldForBoth_reachable, playback, audience, _, present, unheard,
    unscheduled⟩, showing_reachable⟩

/-- The tick of the viewer that leads the round. -/
def leaderTicks : List ScreeningLabel :=
  [.page "viewer" (.call .tick (atRound ledByViewer "viewer")),
    .page "viewer" (.resume 0 (atRound ledByViewer "viewer")),
    .page "viewer" (.resume 0 (atRound ledByViewer "viewer")),
    .page "viewer" (.resume 0 (atRound ledByViewer "viewer"))]

/-- Its report arrives. -/
def leaderReport : Delivery where
  clientId := "viewer"
  report := { id := "first", position := 0, firstFrame := some true, bufferAhead := some 100 }
  audience := heldForBoth.room.toAudience
  now := 10

/-- The leader is acknowledged; the tab of the other viewer was hidden all along. -/
def leaderReady : Screening :=
  (TransitionSystem.run Screening.next leaderTicks (screening fun id => decide (id = "guest"))).next
    (.deliver leaderReport)

/-- A page may take this step. -/
def pageSteps (screening : Screening) : ScreeningLabel → Bool
  | .page id label => decide (Program.Enabled (screening.page id) label) &&
      decide ((TaskLabel.seen label).state.clientId = id) &&
      decide ((TaskLabel.seen label).state.visible = some (!screening.hidden id))
  | _ => false

theorem leaderReady_reachable : Screening.system.Reachable leaderReady := by
  have ticks : Screening.system.Steps (screening fun id => decide (id = "guest"))
      (TransitionSystem.run Screening.next leaderTicks
        (screening fun id => decide (id = "guest"))) := by
    have taken : TransitionSystem.runs Screening.next (fun screening label =>
        pageSteps screening label = true) leaderTicks
        (screening fun id => decide (id = "guest")) = true := by decide +kernel
    refine TransitionSystem.steps_run ?_ leaderTicks _ taken
    intro screening label possible
    cases label with
    | page id label =>
        unfold pageSteps at possible
        simp only [Bool.and_eq_true, decide_eq_true_eq] at possible
        exact ⟨⟨possible.1.1, possible.1.2, possible.2⟩, rfl⟩
    | _ => cases possible
  have audience : (TransitionSystem.run Screening.next leaderTicks
      (screening fun id => decide (id = "guest"))).audience = leaderReport.audience := by
    decide +kernel
  have arrives : Screening.Possible (TransitionSystem.run Screening.next leaderTicks
      (screening fun id => decide (id = "guest"))) (.deliver leaderReport) := by
    refine ⟨by decide +kernel, ?_, by decide +kernel⟩
    rw [audience]
  exact ⟨_, screening_begins _, ticks.tail ⟨arrives, rfl⟩⟩

/-- The round as it is then. -/
def leaderRound : PlaybackPreparation :=
  { ledByViewer with ready := some [⟨"viewer", true, some 100, 10⟩] }

theorem leaderReady_present : leaderReady.playback.playbackPreparation = some leaderRound := by
  decide +kernel

end Sample

/-- The two viewers once the leader is acknowledged. -/
theorem Screening.hidden_viewers_leader :
    Sample.leaderReady.audience.playbackEligibleIds Sample.leaderRound ≠ [] ∧
    ((Sample.leaderReady.VisibleReady Sample.leaderRound → Sample.leaderRound.startAt ≠ none) ↔
      (Sample.leaderReady.VisibleReady Sample.leaderRound →
        Sample.leaderReady.HiddenReady Sample.leaderRound)) := by
  have someone : Sample.leaderReady.audience.playbackEligibleIds Sample.leaderRound ≠ [] := by
    decide +kernel
  exact ⟨someone, (hidden_viewers_iff Sample.leaderReady_reachable Sample.leaderReady_present
    someone).2.1⟩

/-- The one visible viewer is acknowledged, and the start is not scheduled, nor will it be
before the deadline for as long as the other stays hidden. -/
theorem Screening.hidden_viewer_holds_start :
    Screening.system.Reachable Sample.leaderReady ∧
    Sample.leaderReady.playback.playbackPreparation = some Sample.leaderRound ∧
    Sample.leaderReady.VisibleReady Sample.leaderRound ∧ Sample.leaderRound.startAt = none ∧
    ∀ later, (system.restrict fun before _ => before.hidden "guest" = true).Steps Sample.leaderReady
      later → ∃ round, later.playback.playbackPreparation = some round ∧ round.id = "first" ∧
        round.startAt = none := by
  have visible : ∀ id ∈ Sample.leaderReady.audience.playbackEligibleIds Sample.leaderRound,
      Sample.leaderReady.hidden id = false → id ∈ Sample.leaderRound.readyIds := by
    decide +kernel
  have blocks : Sample.leaderReady.Blocks "guest" "first" := by
    refine ⟨⟨Sample.leaderRound, Sample.leaderReady_present, rfl, rfl, ?_, ?_⟩, ?_⟩
    · decide +kernel
    · decide +kernel
    · decide +kernel
  refine ⟨Sample.leaderReady_reachable, Sample.leaderReady_present, visible, rfl, ?_⟩
  intro later run
  obtain ⟨round, there, same, still, _⟩ := (blocks.steps run).blocked
  exact ⟨round, there, same, still⟩

end OpenTogetherTube
