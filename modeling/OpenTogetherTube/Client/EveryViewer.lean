import OpenTogetherTube.Client.Acknowledgement
import OpenTogetherTube.Room.HeldStartEnds

/-!
# A round with every viewer ready

The two sides of a preparation round together: the pages of the eligible viewers, each with a
tick of its own, and the room that their reports arrive at. The room counts the reports in
any order; what it waits for in vain is the report of a page that does not lead the round.
-/

namespace OpenTogetherTube

open Lib

/-- A report of `sendReady` on its way: who sent it, and the room and the time it arrives at. -/
structure Delivery where
  clientId : ClientId
  report : PlaybackPrepared
  audience : Audience
  now : Int

namespace Playback

/-- The report arrives. -/
def deliver (p : Playback) (delivery : Delivery) : Playback :=
  p.finishPlaybackPreparation delivery.clientId (some .ready) (some delivery.report)
    delivery.audience delivery.now

/-- Playback began and the round is over. -/
def Started (p : Playback) : Prop := p.isPlaying = true ∧ p.playbackPreparation = none

/-- The room holds the round, with a report of each of these viewers. -/
structure Heard (round : PlaybackPreparation) (heard : List ClientId) (p : Playback) : Prop where
  held : ∃ later, p.playbackPreparation = some later ∧ later.id = round.id ∧
    later.video = round.video ∧ later.position = round.position ∧
    later.eligibleIds = round.eligibleIds ∧ ∀ id ∈ heard, id ∈ later.readyIds
  paused : p.isPlaying = false
  source : p.currentSource.map QueueItem.toVideoId = some round.video
  position : p.playbackPosition.strictEq round.position = true

variable {p : Playback} {round : PlaybackPreparation} {heard : List ClientId}

/-- A room that holds a round has heard of nobody yet, as far as this is about. -/
theorem HoldsRound.heard_nobody (holds : p.HoldsRound round)
    (present : p.playbackPreparation = some round) : p.Heard round [] := by
  refine ⟨⟨round, present, rfl, rfl, rfl, rfl, fun id member => by cases member⟩, holds.paused,
    holds.source, ?_⟩
  obtain ⟨value, finite, _⟩ := holds.nonneg
  rw [holds.position, finite]
  exact decide_eq_true rfl

/-- Another version of the round. -/
theorem Heard.assignRound {known : List ClientId} (before : p.Heard round heard)
    {later : PlaybackPreparation} (id : later.id = round.id) (video : later.video = round.video)
    (position : later.position = round.position)
    (eligible : later.eligibleIds = round.eligibleIds) (ready : ∀ id ∈ known, id ∈ later.readyIds) :
    (p.assignRound later).Heard round known :=
  ⟨⟨later, rfl, id, video, position, eligible, ready⟩, before.paused, before.source,
    before.position⟩

/-- Scheduling the start loses no report. -/
theorem Heard.schedulePlaybackStart (before : p.Heard round heard) (fallback : Option Fallback)
    (audience : Audience) (now : Int) :
    (p.schedulePlaybackStart fallback audience now).Heard round heard ∨
      (p.schedulePlaybackStart fallback audience now).Started := by
  obtain ⟨later, present, id, video, position, eligible, ready⟩ := before.held
  cases set : later.startAt with
  | some startAt =>
      have same : p.schedulePlaybackStart fallback audience now = p := by
        unfold Playback.schedulePlaybackStart
        rw [present]
        dsimp only
        rw [set]
        rfl
      rw [same]
      exact Or.inl before
  | none =>
      unfold Playback.schedulePlaybackStart
      rw [present]
      dsimp only
      rw [set, if_neg (by simp)]
      split
      · have started : StartedFrom { later with fallback, startAt := some now } now
            (p.assignRound { later with fallback, startAt := some now })
            ((p.assignRound { later with fallback, startAt := some now }).startPreparedPlayback
              now) :=
          startPreparedPlayback_startedFrom rfl rfl le_rfl
        exact Or.inr ⟨started.playing, started.ended⟩
      · exact Or.inl ⟨⟨_, rfl, id, video, position, eligible, ready⟩, before.paused, before.source,
          before.position⟩

/-- A viewer's report is in the round once it is entered, and the others stay. -/
theorem mem_readyIds_withReport {clientId other : ClientId} {bufferAhead : Option Number}
    {now : Int} : other ∈ (withReport clientId bufferAhead now round).readyIds ↔
      other = clientId ∨ other ∈ round.readyIds := by
  unfold withReport PlaybackPreparation.readyIds PlaybackPreparation.reports
  simp only [Option.getD_some, List.map_append, List.map_cons, List.map_nil, List.mem_append,
    List.mem_singleton, List.mem_map, List.mem_filter, decide_eq_true_eq]
  by_cases same : other = clientId
  · exact ⟨fun _ => Or.inl same, fun _ => Or.inr same⟩
  · constructor
    · rintro (⟨report, ⟨member, _⟩, rfl⟩ | own)
      · exact Or.inr ⟨report, member, rfl⟩
      · exact absurd own same
    · rintro (own | ⟨report, member, rfl⟩)
      · exact absurd own same
      · exact Or.inl ⟨report, ⟨member, same⟩, rfl⟩

/-- The room takes a report as the viewer's being ready. -/
def countsFor (round : PlaybackPreparation) (delivery : Delivery) : Bool :=
  decide (delivery.clientId ∈ delivery.audience.playbackEligibleIds round) &&
    decide (delivery.report.id = round.id) && isReadyReport (some .ready) delivery.report round

/-- A report that says the viewer is ready is counted, or the room does nothing with it. -/
theorem Heard.deliver (before : p.Heard round heard) {delivery : Delivery}
    (goes : delivery.clientId ∈ delivery.audience.playbackEligibleIds round →
      delivery.report.failed = false ∧ delivery.report.visible ≠ some false) :
    (p.deliver delivery).Heard round
        (if countsFor round delivery then delivery.clientId :: heard else heard) ∨
      (p.deliver delivery).Started := by
  obtain ⟨later, present, id, video, position, same, ready⟩ := before.held
  have accepts : p.acceptsReport delivery.clientId delivery.report delivery.audience later =
      (decide (delivery.clientId ∈ delivery.audience.playbackEligibleIds round) &&
        decide (delivery.report.id = round.id)) := by
    unfold acceptsReport Audience.playbackEligibleIds
    rw [id, video, position, same, decide_eq_true before.source, before.position, before.paused,
      Bool.and_true, Bool.not_false, Bool.and_true, Bool.and_true, Bool.and_comm]
  have isReady : isReadyReport (some .ready) delivery.report later =
      isReadyReport (some .ready) delivery.report round := by
    unfold isReadyReport readyBufferIsEnough
    rw [position, video]
  unfold Playback.deliver finishPlaybackPreparation countsFor
  rw [present]
  dsimp only
  rw [accepts, isReady]
  cases known : (decide (delivery.clientId ∈ delivery.audience.playbackEligibleIds round) &&
      decide (delivery.report.id = round.id)) with
  | false => exact Or.inl before
  | true =>
      rw [Bool.and_eq_true, decide_eq_true_eq, decide_eq_true_eq] at known
      obtain ⟨unfailed, visible⟩ := goes known.1
      rw [unfailed, decide_eq_false visible, Bool.true_and]
      cases isReadyReport (some .ready) delivery.report round with
      | false => exact Or.inl before
      | true =>
          simp only [Bool.not_true, Bool.or_self, Bool.false_eq_true, if_false, if_true]
          have entered : (p.assignRound (withReport delivery.clientId delivery.report.bufferAhead
              delivery.now later)).Heard round (delivery.clientId :: heard) := by
            refine before.assignRound id video position same ?_
            intro other member
            rw [mem_readyIds_withReport]
            exact (List.mem_cons.mp member).imp_right (ready other)
          split
          · exact entered.schedulePlaybackStart none delivery.audience delivery.now
          · exact Or.inl entered

/-- Nothing is left to do for a room that plays. -/
theorem Started.deliver (started : p.Started) (delivery : Delivery) :
    (p.deliver delivery).Started := by
  have same : p.deliver delivery = p := by
    unfold Playback.deliver finishPlaybackPreparation
    rw [started.2]
  rw [same]
  exact started

theorem Started.deliverAll (deliveries : List Delivery) (started : p.Started) :
    (deliveries.foldl Playback.deliver p).Started := by
  induction deliveries generalizing p with
  | nil => exact started
  | cons delivery rest ih => exact ih (started.deliver delivery)

/-- Reports in any order. -/
theorem Heard.deliverAll (deliveries : List Delivery) (before : p.Heard round heard)
    (goes : ∀ delivery ∈ deliveries,
      delivery.clientId ∈ delivery.audience.playbackEligibleIds round →
        delivery.report.failed = false ∧ delivery.report.visible ≠ some false) :
    (∃ known, (deliveries.foldl Playback.deliver p).Heard round known ∧
      (∀ id ∈ heard, id ∈ known) ∧
      ∀ delivery ∈ deliveries, countsFor round delivery = true → delivery.clientId ∈ known) ∨
    (deliveries.foldl Playback.deliver p).Started := by
  induction deliveries generalizing p heard with
  | nil =>
      refine Or.inl ⟨heard, before, fun _ member => member, ?_⟩
      intro delivery member
      cases member
  | cons delivery rest ih =>
      rw [List.foldl_cons]
      rcases before.deliver (goes delivery (List.mem_cons_self ..)) with after | started
      · rcases ih after
          (fun other member => goes other (List.mem_cons_of_mem _ member)) with
            ⟨known, holds, kept, counted⟩ | started
        · refine Or.inl ⟨known, holds, ?_, ?_⟩
          · intro id member
            refine kept id ?_
            split
            · exact List.mem_cons_of_mem _ member
            · exact member
          · intro other member counts
            rcases List.mem_cons.mp member with rfl | later
            · refine kept _ ?_
              rw [if_pos counts]
              exact List.mem_cons_self ..
            · exact counted other later counts
        · exact Or.inr started
      · exact Or.inr (started.deliverAll rest)

end Playback

/-- A round and its viewers: the page of each, what it sees as its tick begins, and the source
and the player it has. -/
structure Showing where
  round : PlaybackPreparation
  page : ClientId → Tasks Preparer PreparerPoint Empty
  answer : ClientId → PreparerAnswer
  source : ClientId → SourceObject
  player : ClientId → Option Nat

namespace Showing

/-- One of the viewers. -/
def view (showing : Showing) (id : ClientId) : Viewing :=
  ⟨id, showing.round, showing.source id, showing.player id⟩

/-- The viewer is ready in every respect as its tick begins. -/
def isReady (showing : Showing) (id : ClientId) : Bool :=
  (showing.view id).isReady (showing.page id).shared (showing.answer id)

/-- The page after its tick, which is complete, with the viewer ready all along; other ticks
may have begun or gone on. -/
def Ticked (showing : Showing) (id : ClientId) (later : Tasks Preparer PreparerPoint Empty) : Prop :=
  (showing.view id).readySystem.Steps
      (Preparer.program.next (.call .tick (showing.answer id)) (showing.page id)) later ∧
    Viewing.completed (showing.page id).shared.symbols later

/-- The viewer has sent a report that the room takes, or leads the round. -/
def answers (showing : Showing) (id : ClientId) : Bool :=
  (showing.view id).acknowledged (showing.page id).shared ||
    (showing.view id).leads (showing.answer id).state (showing.page id).shared

/-- What is delivered of the reports of these viewers: in any order and as often as one likes,
but everything that says that its viewer is ready. Who may play does not change meanwhile, and
what anybody else sends does not matter. -/
structure Delivers (showing : Showing) (audience : Audience)
    (later : ClientId → Tasks Preparer PreparerPoint Empty) (deliveries : List Delivery) : Prop where
  sent : ∀ delivery ∈ deliveries, delivery.clientId ∈ audience.playbackEligibleIds showing.round →
    delivery.report ∈ (later delivery.clientId).shared.sent ∧ delivery.report.failed = false
  permitted : ∀ delivery ∈ deliveries,
    delivery.audience.clientGranted .playPause = audience.clientGranted .playPause
  complete : ∀ id ∈ audience.playbackEligibleIds showing.round,
    ∀ report ∈ (later id).shared.sent, (showing.view id).isTaken report = true →
      ∃ delivery ∈ deliveries, delivery.clientId = id ∧ delivery.report = report

/-- The room counts everybody as ready, or has begun to play on it. -/
def AllReady (audience : Audience) (p : Playback) : Prop :=
  p.Started ∨ ∃ later, p.playbackPreparation = some later ∧
    Playback.allEligibleReady audience later = true

variable {showing : Showing} {audience : Audience} {p : Playback}
  {later : ClientId → Tasks Preparer PreparerPoint Empty} {deliveries : List Delivery}

/-- The reports of viewers that have all acknowledged the round set it going. -/
theorem allReady_of_acknowledged (heard : p.Heard showing.round [])
    (someone : audience.playbackEligibleIds showing.round ≠ [])
    (pages : ∀ id ∈ audience.playbackEligibleIds showing.round,
      Preparer.system.Reachable (later id))
    (acknowledged : ∀ id ∈ audience.playbackEligibleIds showing.round,
      (showing.view id).acknowledged (later id).shared = true)
    (delivers : showing.Delivers audience later deliveries) :
    AllReady audience (deliveries.foldl Playback.deliver p) := by
  have same : ∀ delivery ∈ deliveries, delivery.audience.playbackEligibleIds showing.round =
      audience.playbackEligibleIds showing.round := by
    intro delivery member
    unfold Audience.playbackEligibleIds
    rw [delivers.permitted delivery member]
  have goes : ∀ delivery ∈ deliveries,
      delivery.clientId ∈ delivery.audience.playbackEligibleIds showing.round →
        delivery.report.failed = false ∧ delivery.report.visible ≠ some false := by
    intro delivery member eligible
    rw [same delivery member] at eligible
    obtain ⟨sent, unfailed⟩ := delivers.sent delivery member eligible
    refine ⟨unfailed, ?_⟩
    rw [Preparer.visible_of_reachable (pages _ eligible) _ sent]
    exact nofun
  rcases heard.deliverAll deliveries goes with ⟨known, after, _, counted⟩ | started
  · obtain ⟨round, present, _, _, _, eligible, ready⟩ := after.held
    refine Or.inr ⟨round, present, ?_⟩
    have ids : audience.playbackEligibleIds round = audience.playbackEligibleIds showing.round := by
      unfold Audience.playbackEligibleIds
      rw [eligible]
    unfold Playback.allEligibleReady
    rw [ids]
    simp only [Bool.and_eq_true, Bool.not_eq_true', List.isEmpty_eq_false_iff, List.all_eq_true,
      decide_eq_true_eq]
    refine ⟨someone, ?_⟩
    intro id member
    obtain ⟨report, sent, taken⟩ := List.any_eq_true.mp (acknowledged id member)
    obtain ⟨delivery, delivered, rfl, rfl⟩ := delivers.complete id member report sent taken
    refine ready _ (counted delivery delivered ?_)
    unfold Viewing.isTaken at taken
    simp only [Bool.and_eq_true, decide_eq_true_eq] at taken
    have about : delivery.report.id = showing.round.id := taken.1.1.1
    unfold Playback.countsFor
    rw [same delivery delivered, decide_eq_true member, decide_eq_true about]
    exact taken.2
  · exact Or.inl started

/-- A tick of a ready viewer keeps its page reachable. -/
theorem Ticked.reachable {id : ClientId} {after : Tasks Preparer PreparerPoint Empty}
    (ticked : showing.Ticked id after) (page : Preparer.system.Reachable (showing.page id)) :
    Preparer.system.Reachable after := by
  have began : Preparer.system.Step (showing.page id) (.call .tick (showing.answer id))
      (Preparer.program.next (.call .tick (showing.answer id)) (showing.page id)) :=
    ⟨trivial, rfl⟩
  exact (page.steps (TransitionSystem.Steps.single began)).steps ticked.1.of_restrict

/-- Every eligible viewer acknowledges the round at a tick at which it is ready in every
respect, and the room then counts everybody as ready, exactly if somebody is eligible and each
viewer has acknowledged it before, or leads it. -/
theorem everyone_acknowledges_iff {state : RoomState} (reachable : roomSystem.Reachable state)
    (present : state.room.playbackPreparation = some showing.round)
    (pages : ∀ id ∈ showing.round.eligibleIds, Preparer.system.Reachable (showing.page id))
    (ready : ∀ id ∈ showing.round.eligibleIds, showing.isReady id = true) :
    ((∀ id ∈ showing.round.eligibleIds, ∀ later, showing.Ticked id later →
        (showing.view id).acknowledged later.shared = true) ∧
      ∀ later, (∀ id ∈ state.room.playbackEligibleIds showing.round,
          showing.Ticked id (later id)) →
        ∀ deliveries, showing.Delivers state.room.toAudience later deliveries →
          AllReady state.room.toAudience
            (deliveries.foldl Playback.deliver state.room.toPlayback)) ↔
    state.room.playbackEligibleIds showing.round ≠ [] ∧
      ∀ id ∈ showing.round.eligibleIds, showing.answers id = true := by
  have eligible : ∀ id ∈ state.room.playbackEligibleIds showing.round,
      id ∈ showing.round.eligibleIds := fun id member => List.mem_of_mem_filter member
  have acknowledges : ∀ id ∈ showing.round.eligibleIds,
      (∀ later, showing.Ticked id later →
        (showing.view id).acknowledged later.shared = true) ↔ showing.answers id = true := by
    intro id member
    refine Iff.trans ?_ (Viewing.acknowledges_iff (pages id member) (ready id member))
    exact ⟨fun holds later run ended => holds later ⟨run, ended⟩,
      fun holds later ticked => holds later ticked.1 ticked.2⟩
  constructor
  · rintro ⟨everyone, delivered⟩
    refine ⟨?_, fun id member => (acknowledges id member).mp (everyone id member)⟩
    intro nobody
    -- With nobody to wait for the room waits for ever.
    have nothing : showing.Delivers state.room.toAudience showing.page [] := by
      refine ⟨?_, ?_, ?_⟩
      · intro delivery member
        cases member
      · intro delivery member
        cases member
      · intro id member
        rw [nobody] at member
        cases member
    have vacuous : ∀ id ∈ state.room.playbackEligibleIds showing.round,
        showing.Ticked id (showing.page id) := by
      intro id member
      rw [nobody] at member
      cases member
    rcases delivered showing.page vacuous [] nothing with
      started | ⟨round, there, allReady⟩
    · have held := started.2
      rw [List.foldl_nil, present] at held
      cases held
    · rw [List.foldl_nil, present] at there
      cases there
      unfold Playback.allEligibleReady at allReady
      rw [nobody] at allReady
      cases allReady
  · rintro ⟨someone, answers⟩
    have everyone : ∀ id ∈ showing.round.eligibleIds, ∀ later, showing.Ticked id later →
        (showing.view id).acknowledged later.shared = true :=
      fun id member => (acknowledges id member).mpr (answers id member)
    refine ⟨everyone, ?_⟩
    intro later ticked deliveries delivers
    have heard := (RoomState.roundSafe reachable).held showing.round present
    exact allReady_of_acknowledged (heard.heard_nobody present) someone
      (fun id member => (ticked id member).reachable (pages id (eligible id member)))
      (fun id member => everyone id (eligible id member) _ (ticked id member)) delivers

end Showing

namespace Sample

/-- A second viewer. -/
def otherViewer : RoomRequestContext where
  role := .unregisteredUser
  clientId := some "guest"
  auth := some ⟨"other", some "guest"⟩

/-- Two viewers join, and the first asks for a video. -/
def joinBoth : List RoomLabel :=
  [⟨env 1 "first", .request (.join { id := "viewer", username := some "v" } false) viewer⟩,
    ⟨env 1 "first", .request (.join { id := "guest", username := some "g" } false) otherViewer⟩,
    ⟨env 2 "first", .request (.playNow { service := .direct, id := "video" }) viewer⟩]

/-- The room after that. -/
def heldForBoth : RoomState := RoomState.run joinBoth ⟨Room.new {} 0, 0⟩

theorem heldForBoth_reachable : roomSystem.Reachable heldForBoth := by
  have possible : RoomState.runs (fun _ _ => True) joinBoth ⟨Room.new {} 0, 0⟩ = true := by
    decide +kernel
  exact ⟨_, .created {} 0, (RoomState.steps_run _ _ _ possible).of_restrict⟩

/-- The round of both, which the first leads. -/
def ledByViewer : PlaybackPreparation where
  id := "first"
  clientId := "viewer"
  video := ⟨.direct, "video"⟩
  position := 0
  eligible := some ["viewer", "guest"]
  ready := some []
  deadlineAt := some 8002
  hardDeadlineAt := some 20002
  startAt := none
  fallback := none

/-- What a viewer's page feeds its preparation, with the player playing and a frame up. -/
def atRound (round : PlaybackPreparation) (id : ClientId) : PreparerAnswer where
  state :=
    { preparation := some round
      clientId := id
      source := some ⟨0, round.video⟩
      player := some 0
      loading := some { currentTime := some 0, bufferAhead := some 100 }
      visible := some true }

/-- The viewers of the round that each begin their first tick, ready in every respect. -/
def showing : Showing where
  round := ledByViewer
  page _ := { shared := {} }
  answer := atRound ledByViewer
  source _ := ⟨0, ledByViewer.video⟩
  player _ := some 0

theorem showing_reachable (id : ClientId) : Preparer.system.Reachable (showing.page id) :=
  TransitionSystem.Reachable.initial ⟨{}, rfl, rfl⟩

/-- The guest has reported before, when it led the round. -/
def reported (id : ClientId) : List (TaskLabel PreparerCall PreparerAnswer) :=
  let led := atRound { ledByViewer with clientId := "guest" } "guest"
  if id = "guest" then .call .tick led :: List.replicate 3 (.resume 0 led) else []

/-- The round of both viewers after that. -/
def showingBoth : Showing :=
  { showing with
    page := fun id => TransitionSystem.run Preparer.program.next (reported id) { shared := {} } }

theorem showingBoth_reachable (id : ClientId) : Preparer.system.Reachable (showingBoth.page id) := by
  have taken : TransitionSystem.runs Preparer.program.next Program.Enabled (reported id)
      { shared := {} } = true := by
    unfold reported
    split <;> decide +kernel
  refine ⟨_, ⟨{}, rfl, rfl⟩, TransitionSystem.steps_run ?_ _ _ taken⟩
  exact fun _ _ possible => ⟨possible, rfl⟩

end Sample

/-- Both viewers acknowledge the round, and the room begins. -/
theorem Showing.everyone_acknowledges_both :
    let showing := Sample.showingBoth
    Sample.heldForBoth.room.playbackPreparation = some showing.round ∧
    showing.round.eligibleIds = ["viewer", "guest"] ∧
    (∀ id ∈ showing.round.eligibleIds, ∀ later, showing.Ticked id later →
      (showing.view id).acknowledged later.shared = true) ∧
    ∀ later, (∀ id ∈ Sample.heldForBoth.room.playbackEligibleIds showing.round,
        showing.Ticked id (later id)) →
      ∀ deliveries, showing.Delivers Sample.heldForBoth.room.toAudience later deliveries →
        AllReady Sample.heldForBoth.room.toAudience
          (deliveries.foldl Playback.deliver Sample.heldForBoth.room.toPlayback) := by
  have present : Sample.heldForBoth.room.playbackPreparation = some Sample.showingBoth.round := by
    decide +kernel
  have ready : ∀ id ∈ Sample.showingBoth.round.eligibleIds, Sample.showingBoth.isReady id = true := by
    decide +kernel
  have someone : Sample.heldForBoth.room.playbackEligibleIds Sample.showingBoth.round ≠ [] := by
    decide +kernel
  have answers : ∀ id ∈ Sample.showingBoth.round.eligibleIds,
      Sample.showingBoth.answers id = true := by decide +kernel
  exact ⟨present, rfl, (everyone_acknowledges_iff Sample.heldForBoth_reachable present
    (fun id _ => Sample.showingBoth_reachable id) ready).mpr ⟨someone, answers⟩⟩

/-- Of two viewers that are both ready in every respect, the one that does not lead the round
completes its tick without a report. -/
theorem Showing.follower_stays_silent :
    let showing := Sample.showing
    roomSystem.Reachable Sample.heldForBoth ∧
    Sample.heldForBoth.room.playbackPreparation = some showing.round ∧
    "guest" ∈ Sample.heldForBoth.room.playbackEligibleIds showing.round ∧
    Preparer.system.Reachable (showing.page "guest") ∧ showing.isReady "guest" = true ∧
    ∃ later, showing.Ticked "guest" later ∧ later.shared.sent = [] := by
  let began := Preparer.program.next (.call .tick (Sample.showing.answer "guest"))
    (Sample.showing.page "guest")
  let goesOn : TaskLabel PreparerCall PreparerAnswer := .resume 0 (Sample.showing.answer "guest")
  have step : (Sample.showing.view "guest").readySystem.Step began goesOn
      (Preparer.program.next goesOn began) := by
    have still : (Sample.showing.view "guest").undisturbed began goesOn = true := by decide +kernel
    have possible : Program.Enabled began goesOn := by decide +kernel
    exact ⟨still, possible, rfl⟩
  have ended : ∀ point ∈ (Preparer.program.next goesOn began).ready,
      point.tick.request ≠ (Sample.showing.page "guest").shared.symbols := by
    decide +kernel
  exact ⟨Sample.heldForBoth_reachable, by decide +kernel, by decide +kernel,
    Sample.showing_reachable _, by decide +kernel, _,
    ⟨TransitionSystem.Steps.single step, ended⟩, by decide +kernel⟩

end OpenTogetherTube
