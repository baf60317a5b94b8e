import OpenTogetherTube.Client.Preparation
import OpenTogetherTube.Room.Preparation

/-!
# Who acknowledges a round

The server waits for every viewer in `eligible`. A viewer's page takes a round up when its id
is in `eligible`, but goes on with it only while the context it made then carries its own id,
and that is the id of the round's leader. `Viewing.acknowledges_iff` says which ticks of a viewer
that is ready in every respect end with a report the server takes.
-/

namespace OpenTogetherTube

open Lib

/-- A round and a viewer with the source and the player it has for it. -/
structure Viewing where
  clientId : ClientId
  round : PlaybackPreparation
  source : SourceObject
  player : Option Nat
deriving DecidableEq

namespace Viewing

/-- The page is connected, visible and at the round, and the viewer is eligible. -/
def sees (view : Viewing) (state : PreparationInput) : Bool :=
  state.connected && decide (state.visible ≠ some false) && !state.roomPlaying &&
    decide (state.clientId = view.clientId) && decide (view.clientId ≠ "") &&
    decide (state.source = some view.source) && decide (view.source.video = view.round.video) &&
    decide (state.player = view.player) && view.round.position.isFinite &&
    Number.le 0 view.round.position &&
    state.preparation.any fun preparation =>
      decide (preparation.id = view.round.id) &&
        decide (preparation.position = view.round.position) &&
        decide (preparation.video = view.round.video) &&
        decide (view.clientId ∈ preparation.eligibleIds)

/-- The player is ready and unblocked, with a frame up and, as far as it knows, enough
buffered. -/
def usable (state : PreparationInput) : Bool :=
  state.usable && !state.blocked && state.hasFrame && state.bufferAhead.all fun ahead =>
    Number.le (playbackReadyBufferSeconds (state.source.map fun source => source.video.service))
      ahead

/-- Where the player stands. -/
def near (view : Viewing) (position : Number) : Bool :=
  position.isFinite && !position.lt 0 &&
    !Number.farApart POSITION_TOLERANCE position view.round.position

/-- What a piece sees of a viewer that is ready in every respect. It plays, unless it was
frozen for its report. -/
def isReady (view : Viewing) (preparer : Preparer) (answer : PreparerAnswer) : Bool :=
  view.sees answer.state && usable answer.state && view.near answer.position && !answer.rejects &&
    (answer.state.playing || decide (preparer.phase = .waitingAck))

/-- A report that the server takes as ready. -/
def isTaken (view : Viewing) (report : PlaybackPrepared) : Bool :=
  decide (report.id = view.round.id) && !report.failed && decide (report.visible ≠ some false) &&
    Playback.isReadyReport (some .ready) report view.round

/-- The viewer has sent such a report. -/
def acknowledged (view : Viewing) (preparer : Preparer) : Bool :=
  preparer.sent.any view.isTaken

/-- Where a tick begins that ends with such a report: the page has taken the round up as its
leader and is not already at it, or it leads the round and takes it up now. -/
def leads (view : Viewing) (state : PreparationInput) (preparer : Preparer) : Bool :=
  if preparer.matches state then
    preparer.inFlight.isNone && decide (preparer.phase ≠ .failed) &&
      decide (preparer.phase ≠ .waitingAck)
  else
    !preparer.disposed && decide (preparer.cancelledId ≠ some view.round.id) &&
      state.preparation.any fun preparation => decide (preparation.clientId = view.clientId)

end Viewing

namespace Preparer

variable {preparer : Preparer} {point : PreparerPoint} {tick : PreparationTick}

section Stale

variable (stale : preparer.inFlight ≠ some tick.request)

include stale

/-- The `finally` of a tick that another has replaced. -/
theorem release_stale :
    preparer.release tick = (preparer, .done) := by
  unfold release
  rw [if_neg stale]

theorem current_stale (state : PreparationInput) :
    preparer.current tick state = false := by
  unfold current
  rw [decide_eq_false stale, Bool.and_false, Bool.false_and]

theorem abort_stale (state : PreparationInput) :
    preparer.abort tick state = (preparer, .done) := by
  unfold abort
  rw [current_stale stale]
  exact release_stale stale

theorem thaw_stale (state : PreparationInput) :
    preparer.thaw tick state = (preparer, .done) := by
  unfold thaw
  rw [current_stale stale]
  exact release_stale stale

omit stale

/-- A tick that another has replaced does nothing more. -/
theorem resume_stale (stale : preparer.inFlight ≠ some point.tick.request)
    (answer : PreparerAnswer) : preparer.resume point answer = (preparer, .done) := by
  unfold resume
  split
  · exact abort_stale stale answer.state
  · cases point with
    | locating tick =>
        change preparer.inFlight ≠ some tick.request at stale
        change preparer.locate tick answer.state answer.position = _
        unfold locate
        rw [current_stale stale]
        exact release_stale stale
    | halting tick =>
        change preparer.inFlight ≠ some tick.request at stale
        dsimp only
        rw [current_stale stale]
        exact release_stale stale
    | seeking tick =>
        change preparer.inFlight ≠ some tick.request at stale
        dsimp only
        rw [current_stale stale]
        exact release_stale stale
    | freezing tick =>
        change preparer.inFlight ≠ some tick.request at stale
        dsimp only
        rw [current_stale stale]
        exact thaw_stale stale answer.state
    | confirming tick =>
        change preparer.inFlight ≠ some tick.request at stale
        change preparer.confirm tick answer.state answer.position = _
        unfold confirm
        rw [current_stale stale]
        exact thaw_stale stale answer.state

end Stale

section Keeps

/-- What every piece keeps: what was sent stays sent, no report says that its viewer is
hidden, and the symbols of ticks are fresh. -/
structure Keeps (before : Preparer) (own : Option Nat) (result : Result) : Prop where
  sent : before.sent ⊆ result.1.sent
  visible : ∀ report ∈ result.1.sent, report ∈ before.sent ∨ report.visible = none
  symbols : before.symbols ≤ result.1.symbols
  request : ∀ next, result.2 = .point next →
    own = some next.tick.request ∨ next.tick.request < result.1.symbols

variable {own : Option Nat}

/-- A piece that sends nothing and makes no symbol. -/
theorem Keeps.of_same {result : Result} (sent : result.1.sent = preparer.sent)
    (symbols : result.1.symbols = preparer.symbols)
    (request : ∀ next, result.2 = .point next → own = some next.tick.request) :
    Keeps preparer own result := by
  refine ⟨?_, ?_, symbols.ge, fun next rests => Or.inl (request next rests)⟩
  · rw [sent]
    exact List.Subset.refl _
  · intro report member
    rw [sent] at member
    exact Or.inl member

theorem Keeps.of_done {after : Preparer} (sent : after.sent = preparer.sent)
    (symbols : after.symbols = preparer.symbols) : Keeps preparer own (after, .done) := by
  refine .of_same sent symbols ?_
  intro next rests
  cases rests

theorem Keeps.trans {middle : Preparer} {result : Result} (first : Keeps preparer own (middle, .done))
    (second : Keeps middle own result) : Keeps preparer own result := by
  refine ⟨?_, ?_, first.symbols.trans second.symbols, second.request⟩
  · exact List.Subset.trans first.sent second.sent
  · intro report member
    rcases second.visible report member with old | visible
    · exact first.visible report old
    · exact Or.inr visible

theorem release_keeps : Keeps preparer own (preparer.release tick) := by
  unfold release
  split <;> exact .of_done rfl rfl

variable (state : PreparationInput)

include state

theorem reconcile_keeps :
    Keeps preparer own (preparer.reconcile state, .done) := by
  unfold reconcile
  split <;> exact .of_done rfl rfl

theorem fail_keeps : Keeps preparer own (preparer.fail state, .done) := by
  unfold fail
  split
  · refine ⟨List.subset_append_right _ _, ?_, le_rfl, fun next rests => by cases rests⟩
    intro report member
    rcases List.mem_append.mp member with new | old
    · obtain ⟨preparation, _, rfl⟩ := Option.map_eq_some_iff.mp (Option.mem_toList.mp new)
      exact Or.inr rfl
    · exact Or.inl old
  · exact .of_done rfl rfl

theorem abort_keeps : Keeps preparer own (preparer.abort tick state) := by
  unfold abort
  split
  · exact (fail_keeps state).trans release_keeps
  · exact release_keeps

theorem thaw_keeps : Keeps preparer own (preparer.thaw tick state) := by
  unfold thaw
  split
  · have thawed : Keeps preparer own ({ preparer with phase := .preparing }, .done) :=
      .of_done rfl rfl
    exact thawed.trans release_keeps
  · exact release_keeps

omit state in
/-- A page that goes on with a round is visible. -/
theorem visible_of_matches {state : PreparationInput} (same : preparer.matches state = true) :
    state.visible ≠ some false := by
  unfold «matches» isOwner at same
  simp only [Bool.and_eq_true, decide_eq_true_eq] at same
  exact same.1.1.1.1.2

theorem confirm_keeps (position : Number) :
    Keeps preparer own (preparer.confirm tick state position) := by
  unfold confirm
  split
  · exact thaw_keeps state
  · rename_i goes
    split
    · have thawed : Keeps preparer own ({ preparer with phase := .preparing }, .done) :=
        .of_done rfl rfl
      exact thawed.trans release_keeps
    · have visible : state.visible ≠ some false := by
        unfold current at goes
        simp only [Bool.or_eq_true, Bool.not_eq_true', Bool.and_eq_false_iff, not_or] at goes
        exact visible_of_matches ((Bool.not_eq_false _).mp goes.1.1.2)
      have sends : Keeps preparer own
          ({ preparer with sent := readyReport tick state position :: preparer.sent }, .done) := by
        refine ⟨List.subset_cons_self _ _, ?_, le_rfl, fun next rests => by cases rests⟩
        intro report member
        rcases List.mem_cons.mp member with rfl | old
        · exact Or.inr (if_neg visible)
        · exact Or.inl old
      exact sends.trans release_keeps

theorem locate_keeps (position : Number) :
    Keeps preparer (some tick.request) (preparer.locate tick state position) := by
  have moved : ∀ (changed : Preparer), changed.sent = preparer.sent →
      changed.symbols = preparer.symbols → Keeps preparer (some tick.request) (changed, .done) :=
    fun changed sent symbols => .of_done sent symbols
  unfold locate
  split
  · exact release_keeps
  · split
    · exact abort_keeps state
    · split
      · split
        · exact (moved { preparer with realignments := preparer.realignments + 1 } rfl rfl).trans
            (abort_keeps state)
        · refine .of_same rfl rfl ?_
          rintro _ ⟨⟩
          rfl
      · dsimp only
        split
        · exact (moved { preparer with positioned := true, phase := .preparing } rfl rfl).trans
            release_keeps
        · refine .of_same rfl rfl ?_
          rintro _ ⟨⟩
          rfl

omit state in
theorem resume_keeps (point : PreparerPoint) (answer : PreparerAnswer) :
    Keeps preparer (some point.tick.request) (preparer.resume point answer) := by
  unfold resume
  split
  · exact abort_keeps answer.state
  · cases point with
    | locating tick => exact locate_keeps answer.state answer.position
    | halting tick =>
        dsimp only
        split
        · exact release_keeps
        · refine .of_same rfl rfl ?_
          rintro _ ⟨⟩
          rfl
    | seeking tick =>
        dsimp only
        split
        · exact release_keeps
        · have moved : Keeps preparer (some (PreparerPoint.seeking tick).tick.request)
              ({ preparer with positioned := true, phase := .preparing }, .done) :=
            .of_done rfl rfl
          exact moved.trans release_keeps
    | freezing tick =>
        dsimp only
        split
        · exact thaw_keeps answer.state
        · refine .of_same rfl rfl ?_
          rintro _ ⟨⟩
          rfl
    | confirming tick => exact confirm_keeps answer.state answer.position

theorem tick_keeps : Keeps preparer none (preparer.tick state) := by
  refine (reconcile_keeps state).trans ?_
  unfold Preparer.tick
  dsimp only
  split
  · exact .of_done rfl rfl
  · split
    · exact .of_done rfl rfl
    · refine ⟨List.Subset.refl _, fun _ member => Or.inl member, Nat.le_succ _, ?_⟩
      rintro _ ⟨⟩
      exact Or.inr (Nat.lt_succ_self _)

omit state

theorem call_keeps (asked : PreparerCall) (answer : PreparerAnswer) :
    Keeps preparer none (Preparer.call asked answer preparer) := by
  cases asked with
  | tick => exact tick_keeps answer.state
  | retry =>
      refine (reconcile_keeps answer.state).trans ?_
      change Keeps _ none (preparer.retry answer.state, .done)
      unfold retry
      dsimp only
      split <;> exact .of_done rfl rfl
  | cancel =>
      have noted : Keeps preparer none ({ preparer with
          cancelledId := answer.state.preparation.map PlaybackPreparation.id }, .done) :=
        .of_done rfl rfl
      exact noted.trans (reconcile_keeps answer.state)
  | fail => exact fail_keeps answer.state
  | dispose =>
      have noted : Keeps preparer none ({ preparer with disposed := true }, .done) :=
        .of_done rfl rfl
      exact noted.trans (reconcile_keeps answer.state)

/-- The ticks at an await have symbols of their own time. -/
def Fresh (tasks : Tasks Preparer PreparerPoint Empty) : Prop :=
  ∀ point ∈ tasks.ready, point.tick.request < tasks.shared.symbols

theorem Fresh.park {tasks others : Tasks Preparer PreparerPoint Empty} {result : Result}
    (fresh : ∀ point ∈ others.ready, point.tick.request < tasks.shared.symbols)
    (keeps : Keeps tasks.shared own result)
    (owns : ∀ request, own = some request → request < tasks.shared.symbols) :
    Fresh (others.park result) := by
  intro point member
  rw [Tasks.park_shared]
  rcases (Tasks.mem_park_ready _ _).mp member with old | new
  · exact (fresh point old).trans_le keeps.symbols
  · rcases keeps.request point new with own | made
    · exact (owns _ own).trans_le keeps.symbols
    · exact made

theorem fresh_of_reachable {tasks : Tasks Preparer PreparerPoint Empty}
    (reachable : system.Reachable tasks) : Fresh tasks := by
  refine TransitionSystem.Inductive.of_reachable ⟨?_, ?_⟩ reachable
  · rintro _ ⟨preparer, rfl, rfl⟩ point member
    cases member
  · rintro before label after fresh ⟨possible, rfl⟩
    rcases program.next_cases possible with ⟨asked, answer, rfl, next⟩ |
      ⟨earlier, point, later, answer, rfl, split, next⟩ | ⟨guarded, rest, answer, rfl, first, next⟩
    · rw [next]
      refine Fresh.park fresh (call_keeps asked answer) ?_
      intro request none
      cases none
    · rw [next]
      refine Fresh.park ?_ (resume_keeps point answer) ?_
      · intro other member
        refine fresh other ?_
        rw [split]
        exact List.mem_append.mpr ((List.mem_append.mp member).imp_right (List.mem_cons_of_mem _))
      · rintro _ ⟨⟩
        refine fresh point ?_
        rw [split]
        exact List.mem_append_right _ (List.mem_cons_self ..)
    · exact guarded.elim

/-- No page ever reports that it is hidden. -/
theorem visible_of_reachable {tasks : Tasks Preparer PreparerPoint Empty}
    (reachable : system.Reachable tasks) : ∀ report ∈ tasks.shared.sent, report.visible = none := by
  have invariant : TransitionSystem.Inductive system fun tasks =>
      ∀ report ∈ tasks.shared.sent, report.visible = none := by
    refine ⟨?_, ?_⟩
    · rintro _ ⟨preparer, rfl, rfl⟩ report member
      cases member
    · rintro before label after visible ⟨possible, rfl⟩ report member
      rcases program.next_cases possible with ⟨asked, answer, rfl, next⟩ |
        ⟨earlier, point, later, answer, rfl, split, next⟩ | ⟨guarded, rest, answer, rfl, first, next⟩
      · rw [next, Tasks.park_shared] at member
        rcases (call_keeps asked answer).visible report member with old | visible
        · exact visible report old
        · exact visible
      · rw [next, Tasks.park_shared] at member
        rcases (resume_keeps point answer).visible report member with old | visible
        · exact visible report old
        · exact visible
      · exact guarded.elim
  exact invariant.of_reachable reachable

end Keeps

end Preparer

namespace Viewing

variable {view : Viewing} {state : PreparationInput} {answer : PreparerAnswer}
  {preparer : Preparer} {tick : PreparationTick}

section Sees

/-- What it takes to be at a round, one by one. -/
structure Sees (view : Viewing) (state : PreparationInput) : Prop where
  connected : state.connected = true
  visible : state.visible ≠ some false
  paused : state.roomPlaying = false
  clientId : state.clientId = view.clientId
  named : view.clientId ≠ ""
  source : state.source = some view.source
  video : view.source.video = view.round.video
  player : state.player = view.player
  finite : view.round.position.isFinite = true
  nonneg : Number.le 0 view.round.position = true
  round : ∃ preparation, state.preparation = some preparation ∧ preparation.id = view.round.id ∧
    preparation.position = view.round.position ∧ preparation.video = view.round.video ∧
    view.clientId ∈ preparation.eligibleIds

theorem sees_iff : view.sees state = true ↔ view.Sees state := by
  unfold sees
  simp only [Bool.and_eq_true, decide_eq_true_eq, Bool.not_eq_true', Option.any_eq_true]
  constructor
  · rintro ⟨⟨⟨⟨⟨⟨⟨⟨⟨⟨connected, visible⟩, paused⟩, clientId⟩, named⟩, source⟩, video⟩, player⟩, finite⟩,
      nonneg⟩, preparation, there, ⟨⟨id, position⟩, same⟩, eligible⟩
    exact ⟨connected, visible, paused, clientId, named, source, video, player, finite, nonneg,
      preparation, there, id, position, same, eligible⟩
  · rintro ⟨connected, visible, paused, clientId, named, source, video, player, finite, nonneg,
      preparation, there, id, position, same, eligible⟩
    exact ⟨⟨⟨⟨⟨⟨⟨⟨⟨⟨connected, visible⟩, paused⟩, clientId⟩, named⟩, source⟩, video⟩, player⟩, finite⟩,
      nonneg⟩, preparation, there, ⟨⟨id, position⟩, same⟩, eligible⟩

/-- Such a viewer takes part, unless its page has given the round up. -/
theorem Sees.isOwner_iff (sees : view.Sees state) :
    preparer.isOwner state = true ↔
      preparer.disposed = false ∧ preparer.cancelledId ≠ some view.round.id := by
  obtain ⟨preparation, there, id, position, video, eligible⟩ := sees.round
  unfold Preparer.isOwner
  rw [sees.connected, sees.paused, sees.source, there, Option.any_some, id, position, video,
    sees.clientId, Option.map_some, sees.video, sees.finite, sees.nonneg]
  simp only [Bool.and_true, Bool.not_false, Bool.and_eq_true, Bool.not_eq_true',
    decide_eq_true_eq, sees.visible, sees.named, eligible, ne_eq, not_false_eq_true, decide_true]
  exact and_congr_right fun _ => not_congr eq_comm

/-- And its page goes on with what it has taken up as its own. -/
theorem Sees.matches_iff (sees : view.Sees state) :
    preparer.matches state = true ↔
      (preparer.disposed = false ∧ preparer.cancelledId ≠ some view.round.id) ∧
      ∃ context, preparer.context = some context ∧ context.id = view.round.id ∧
        context.clientId = view.clientId ∧ context.position = view.round.position ∧
        context.source = view.source ∧ context.player = view.player := by
  obtain ⟨preparation, there, id, position, video, eligible⟩ := sees.round
  unfold Preparer.matches
  rw [Bool.and_eq_true, sees.isOwner_iff, there]
  refine and_congr_right fun _ => ?_
  cases preparer.context with
  | none => simp
  | some context =>
      dsimp only
      rw [id, position, sees.clientId, sees.source, sees.player]
      simp only [Bool.and_eq_true, decide_eq_true_eq, Option.some.injEq]
      have finite : context.position.strictEq view.round.position = true ↔
          context.position = view.round.position := by
        constructor
        · exact Number.eq_of_strictEq
        · intro same
          have number := sees.finite
          rw [same]
          revert number
          cases view.round.position <;> simp [Number.strictEq, Number.isFinite]
      rw [finite]
      constructor
      · rintro ⟨⟨⟨⟨id, clientId⟩, position⟩, source⟩, player⟩
        exact ⟨context, rfl, id, clientId, position, source, player⟩
      · rintro ⟨_, rfl, id, clientId, position, source, player⟩
        exact ⟨⟨⟨⟨id, clientId⟩, position⟩, source⟩, player⟩

end Sees

section Working

/-- A tick at work on the round as its leader. -/
structure Working (view : Viewing) (preparer : Preparer) (tick : PreparationTick) : Prop where
  kept : preparer.disposed = false ∧ preparer.cancelledId ≠ some view.round.id
  context : preparer.context = some tick.preparation
  id : tick.preparation.id = view.round.id
  clientId : tick.preparation.clientId = view.clientId
  position : tick.preparation.position = view.round.position
  source : tick.preparation.source = view.source
  player : tick.preparation.player = view.player
  request : preparer.inFlight = some tick.request
  generation : preparer.generation = tick.generation

variable (working : view.Working preparer tick)

include working

theorem Working.matches (sees : view.Sees state) :
    preparer.matches state = true :=
  sees.matches_iff.mpr ⟨working.kept, tick.preparation, working.context, working.id,
    working.clientId, working.position, working.source, working.player⟩

theorem Working.current (sees : view.Sees state) :
    preparer.current tick state = true := by
  unfold Preparer.current
  rw [decide_eq_true working.generation, decide_eq_true working.request, working.matches sees]
  rfl

/-- Another tick finds the round taken care of. -/
theorem Working.another_tick (sees : view.Sees state) :
    preparer.tick state = (preparer, .done) := by
  have kept : preparer.reconcile state = preparer := by
    unfold Preparer.reconcile
    rw [if_pos (working.matches sees)]
  unfold Preparer.tick
  dsimp only
  rw [kept, working.context]
  dsimp only
  rw [working.request]
  rfl

/-- What a piece sees, one by one. -/
structure IsReady (view : Viewing) (preparer : Preparer) (answer : PreparerAnswer) : Prop where
  sees : view.Sees answer.state
  player : answer.state.usable = true
  unblocked : answer.state.blocked = false
  frame : answer.state.hasFrame = true
  buffer : ∀ ahead, answer.state.bufferAhead = some ahead →
    Number.le (playbackReadyBufferSeconds view.round.video.service) ahead = true
  finite : answer.position.isFinite = true
  nonneg : answer.position.lt 0 = false
  near : Number.farApart POSITION_TOLERANCE answer.position view.round.position = false
  resolves : answer.rejects = false
  playing : preparer.phase ≠ .waitingAck → answer.state.playing = true

omit working in
theorem isReady_iff : view.isReady preparer answer = true ↔ view.IsReady preparer answer := by
  unfold isReady usable Viewing.near
  rw [Bool.and_eq_true, Bool.and_eq_true, Bool.and_eq_true, Bool.and_eq_true, sees_iff]
  simp only [Bool.and_eq_true, Bool.not_eq_true', Bool.or_eq_true, decide_eq_true_eq]
  have buffer : ∀ (_ : view.Sees answer.state), ((answer.state.bufferAhead.all fun ahead =>
      Number.le (playbackReadyBufferSeconds
        (answer.state.source.map fun source => source.video.service)) ahead) = true) ↔
      ∀ ahead, answer.state.bufferAhead = some ahead →
        Number.le (playbackReadyBufferSeconds view.round.video.service) ahead = true := by
    intro sees
    rw [sees.source, Option.map_some, sees.video]
    cases answer.state.bufferAhead with
    | none => simp
    | some ahead => simp
  constructor
  · rintro ⟨⟨⟨⟨sees, ⟨⟨player, unblocked⟩, frame⟩, enough⟩, ⟨finite, nonneg⟩, near⟩, resolves⟩, playing⟩
    exact ⟨sees, player, unblocked, frame, (buffer sees).mp enough, finite, nonneg, near, resolves,
      fun other => playing.resolve_right other⟩
  · rintro ⟨sees, player, unblocked, frame, enough, finite, nonneg, near, resolves, playing⟩
    refine ⟨⟨⟨⟨sees, ⟨⟨player, unblocked⟩, frame⟩, (buffer sees).mpr enough⟩, ⟨finite, nonneg⟩, near⟩,
      resolves⟩, ?_⟩
    by_cases frozen : preparer.phase = .waitingAck
    · exact Or.inr frozen
    · exact Or.inl (playing frozen)

omit working in
theorem IsReady.bufferShort (ready : view.IsReady preparer answer) :
    answer.state.bufferShort = false := by
  unfold PreparationInput.bufferShort
  rw [ready.sees.source, Option.map_some, ready.sees.video]
  cases known : answer.state.bufferAhead with
  | none => rfl
  | some ahead => exact Number.lt_eq_false_of_le (ready.buffer ahead known)

theorem Working.locating
    (ready : view.IsReady preparer answer) (other : preparer.phase ≠ .waitingAck) :
    preparer.resume (.locating tick) answer =
      ({ preparer with positioned := true, phase := .waitingAck }, .point (.freezing tick)) := by
  have continues : Preparer.canContinue tick answer.state = true := by
    have positions : answer.state.canPosition = true := by
      have player := ready.player
      unfold PreparationInput.usable at player
      exact (Bool.and_eq_true _ _ ▸ player).1
    unfold Preparer.canContinue
    split
    · exact positions
    · exact ready.player
  unfold Preparer.resume
  rw [ready.resolves]
  change preparer.locate tick answer.state answer.position = _
  unfold Preparer.locate
  rw [working.current ready.sees, continues, ready.finite, ready.nonneg, working.position,
    ready.near, ready.player, ready.playing other, ready.unblocked, ready.frame, ready.bufferShort]
  rfl

theorem Working.freezing
    (ready : view.IsReady preparer answer) :
    preparer.resume (.freezing tick) answer = (preparer, .point (.confirming tick)) := by
  unfold Preparer.resume
  rw [ready.resolves]
  dsimp only
  rw [working.current ready.sees, ready.player, ready.unblocked]
  rfl

theorem Working.confirming
    (ready : view.IsReady preparer answer) :
    preparer.resume (.confirming tick) answer =
      ({ preparer with
          sent := Preparer.readyReport tick answer.state answer.position :: preparer.sent
          inFlight := none }, .done) := by
  unfold Preparer.resume
  rw [ready.resolves]
  change preparer.confirm tick answer.state answer.position = _
  unfold Preparer.confirm
  rw [working.current ready.sees, ready.player, ready.unblocked, ready.finite, working.position,
    ready.near]
  unfold Preparer.release
  change (if preparer.inFlight = some tick.request then _ else _, _) = _
  rw [if_pos working.request]

/-- The server takes what such a tick reports. -/
theorem Working.isTaken
    (ready : view.IsReady preparer answer) :
    view.isTaken (Preparer.readyReport tick answer.state answer.position) = true := by
  have enough : Playback.readyBufferIsEnough view.round
      (Preparer.readyReport tick answer.state answer.position) = true := by
    unfold Playback.readyBufferIsEnough
    rw [show (Preparer.readyReport tick answer.state answer.position).bufferAhead =
      answer.state.bufferAhead from rfl]
    cases known : answer.state.bufferAhead with
    | none => rfl
    | some ahead => exact ready.buffer ahead known
  have close : Number.farApart 1 answer.position view.round.position = false :=
    Number.farApart_mono (by decide +kernel) ready.near
  have visible : (Preparer.readyReport tick answer.state answer.position).visible = none :=
    if_neg ready.sees.visible
  unfold Viewing.isTaken Playback.isReadyReport
  rw [visible, enough]
  change (decide (tick.preparation.id = view.round.id) && true && true &&
    (true && true && answer.position.isFinite && !answer.position.lt 0 &&
      !Number.farApart 1 answer.position view.round.position && true)) = true
  rw [decide_eq_true working.id, ready.finite, ready.nonneg, close]
  rfl

end Working

section Begin

/-- A tick that has a round to itself and a player that is ready begins. -/
theorem IsReady.begins (ready : view.IsReady preparer answer) {context : PreparationContext}
    (taken : (preparer.reconcile answer.state).context = some context)
    (free : (preparer.reconcile answer.state).inFlight = none)
    (failed : (preparer.reconcile answer.state).phase ≠ .failed)
    (waiting : (preparer.reconcile answer.state).phase ≠ .waitingAck)
    (playing : (preparer.reconcile answer.state).positioned = true → answer.state.playing = true) :
    preparer.tick answer.state =
      ({ preparer.reconcile answer.state with
          inFlight := some (preparer.reconcile answer.state).symbols
          symbols := (preparer.reconcile answer.state).symbols + 1 },
        .point (.locating ⟨context, (preparer.reconcile answer.state).symbols,
          (preparer.reconcile answer.state).generation,
          !(preparer.reconcile answer.state).positioned⟩)) := by
  have positions : answer.state.canPosition = true := by
    have player := ready.player
    unfold PreparationInput.usable at player
    exact (Bool.and_eq_true _ _ ▸ player).1
  unfold Preparer.tick
  dsimp only
  rw [taken]
  dsimp only
  rw [free, decide_eq_false failed, decide_eq_false waiting, positions, ready.player, ready.frame,
    ready.unblocked]
  cases positioned : (preparer.reconcile answer.state).positioned with
  | false => rfl
  | true =>
      rw [playing positioned]
      rfl

/-- The context of a viewer that takes the round up now. -/
theorem Sees.reconcile_other (sees : view.Sees state) (other : preparer.matches state = false)
    (kept : preparer.disposed = false ∧ preparer.cancelledId ≠ some view.round.id) :
    ∃ preparation, state.preparation = some preparation ∧
      preparation.id = view.round.id ∧ preparation.position = view.round.position ∧
      preparer.reconcile state = { preparer with
        generation := preparer.generation + 1
        inFlight := none
        positioned := false
        realignments := 0
        context := some { preparation with source := view.source, player := view.player }
        phase := .aligning } := by
  obtain ⟨preparation, there, id, position, video, eligible⟩ := sees.round
  refine ⟨preparation, there, id, position, ?_⟩
  have context : preparer.newContext state =
      some { preparation with source := view.source, player := view.player } := by
    unfold Preparer.newContext
    rw [sees.isOwner_iff.mpr kept, there, sees.source, sees.player]
  unfold Preparer.reconcile
  rw [other, context]
  rfl

/-- Where a tick is at work, it is alone with its symbol. -/
def AtWork (view : Viewing) (request : Nat) (tasks : Tasks Preparer PreparerPoint Empty) : Prop :=
  ∃ tick point, tick.request = request ∧ view.Working tasks.shared tick ∧
    (tasks.ready.filter fun other => decide (other.tick.request = request)) = [point] ∧
    (point = .locating tick ∧ tasks.shared.phase ≠ .waitingAck ∨ point = .freezing tick ∨
      point = .confirming tick)

/-- The tick comes to its first await. -/
theorem AtWork.of_located {tasks : Tasks Preparer PreparerPoint Empty} {after : Preparer}
    (fresh : Preparer.Fresh tasks) (own : tick.request = tasks.shared.symbols)
    (working : view.Working after tick) (phase : after.phase ≠ .waitingAck) :
    view.AtWork tasks.shared.symbols (tasks.park (after, .point (.locating tick))) := by
  refine ⟨tick, .locating tick, own, ?_, ?_, Or.inl ⟨rfl, ?_⟩⟩
  · rw [Tasks.park_shared]
    exact working
  · have none : (tasks.ready.filter fun other =>
        decide (other.tick.request = tasks.shared.symbols)) = [] := by
      refine List.filter_eq_nil_iff.mpr ?_
      intro point member same
      exact absurd (of_decide_eq_true same) (fresh point member).ne
    rw [Tasks.park_ready, List.filter_append, none, List.nil_append]
    change List.filter _ [PreparerPoint.locating tick] = _
    have mine : decide ((PreparerPoint.locating tick).tick.request = tasks.shared.symbols) = true :=
      decide_eq_true own
    rw [List.filter_singleton, mine]
    rfl
  · rw [Tasks.park_shared]
    exact phase

theorem AtWork.begin {tasks : Tasks Preparer PreparerPoint Empty} (fresh : Preparer.Fresh tasks)
    (ready : view.IsReady tasks.shared answer) (leads : view.leads answer.state tasks.shared = true) :
    view.AtWork tasks.shared.symbols (Preparer.program.next (.call .tick answer) tasks) := by
  change view.AtWork _ (tasks.park (tasks.shared.tick answer.state))
  unfold Viewing.leads at leads
  cases same : tasks.shared.matches answer.state with
  | true =>
      rw [same, if_pos rfl, Bool.and_eq_true, Bool.and_eq_true, decide_eq_true_eq,
        decide_eq_true_eq, Option.isNone_iff_eq_none] at leads
      obtain ⟨⟨free, failed⟩, waiting⟩ := leads
      obtain ⟨kept, context, taken, id, clientId, position, source, player⟩ :=
        ready.sees.matches_iff.mp same
      have still : tasks.shared.reconcile answer.state = tasks.shared := by
        unfold Preparer.reconcile
        rw [if_pos same]
      have begins := ready.begins (by rw [still]; exact taken) (by rw [still]; exact free)
        (by rw [still]; exact failed) (by rw [still]; exact waiting)
        (fun _ => ready.playing waiting)
      rw [still] at begins
      rw [begins]
      exact AtWork.of_located fresh rfl
        ⟨kept, taken, id, clientId, position, source, player, rfl, rfl⟩ waiting
  | false =>
      rw [same, if_neg Bool.false_ne_true, Bool.and_eq_true, Bool.and_eq_true,
        Bool.not_eq_true', decide_eq_true_eq] at leads
      obtain ⟨kept, leader⟩ := leads
      obtain ⟨preparation, there, id, position, now⟩ := ready.sees.reconcile_other same kept
      have clientId : preparation.clientId = view.clientId := by
        rw [there] at leader
        exact of_decide_eq_true leader
      have begins := ready.begins (by rw [now]) (by rw [now])
        (by rw [now]; exact nofun) (by rw [now]; exact nofun) (by rw [now]; exact nofun)
      rw [now] at begins
      rw [begins]
      exact AtWork.of_located fresh rfl
        ⟨kept, rfl, id, clientId, position, rfl, rfl, rfl, rfl⟩ nofun

end Begin

section Runs

/-- Every piece sees the viewer ready, and nobody calls anything but `tick`. -/
def undisturbed (view : Viewing) (tasks : Tasks Preparer PreparerPoint Empty) :
    TaskLabel PreparerCall PreparerAnswer → Bool
  | .call .tick answer => view.isReady tasks.shared answer
  | .call _ _ => false
  | .resume _ answer => view.isReady tasks.shared answer
  | .serve _ => false

/-- The runs of a page whose viewer stays ready. -/
def readySystem (view : Viewing) : TransitionSystem (Tasks Preparer PreparerPoint Empty)
    (TaskLabel PreparerCall PreparerAnswer) :=
  Preparer.system.restrict fun tasks label => view.undisturbed tasks label = true

variable {request : Nat} {tasks others : Tasks Preparer PreparerPoint Empty}

theorem acknowledged_mono {after : Preparer} (sent : preparer.sent ⊆ after.sent)
    (acknowledged : view.acknowledged preparer = true) : view.acknowledged after = true := by
  obtain ⟨report, member, taken⟩ := List.any_eq_true.mp acknowledged
  exact List.any_eq_true.mpr ⟨report, sent member, taken⟩

theorem acknowledged_next {label : TaskLabel PreparerCall PreparerAnswer}
    (possible : Program.Enabled tasks label)
    (acknowledged : view.acknowledged tasks.shared = true) :
    view.acknowledged (Preparer.program.next label tasks).shared = true := by
  rcases Preparer.program.next_cases possible with ⟨asked, answer, rfl, next⟩ |
    ⟨earlier, point, later, answer, rfl, split, next⟩ | ⟨guarded, rest, answer, rfl, first, next⟩
  · rw [next, Tasks.park_shared]
    exact acknowledged_mono (Preparer.call_keeps asked answer).sent acknowledged
  · rw [next, Tasks.park_shared]
    exact acknowledged_mono (Preparer.resume_keeps point answer).sent acknowledged
  · exact guarded.elim

/-- The tick goes on to its next await, or reports. -/
theorem AtWork.resume (work : view.AtWork request tasks) {earlier later : List PreparerPoint}
    {point : PreparerPoint} (split : tasks.ready = earlier ++ point :: later)
    (ready : view.IsReady tasks.shared answer) :
    view.acknowledged ({ tasks with ready := earlier ++ later }.park
        (tasks.shared.resume point answer)).shared = true ∨
      view.AtWork request ({ tasks with ready := earlier ++ later }.park
        (tasks.shared.resume point answer)) := by
  obtain ⟨tick, own, mine, working, alone, stage⟩ := work
  have ownTick : own.tick = tick := by
    rcases stage with ⟨rfl, _⟩ | rfl | rfl
    · rfl
    · rfl
    · rfl
  rw [split, List.filter_append, List.filter_cons] at alone
  by_cases same : point.tick.request = request
  · -- This is the tick at work, and no other has its symbol.
    rw [if_pos (decide_eq_true same)] at alone
    have count := congrArg List.length alone
    rw [List.length_append, List.length_cons, List.length_singleton] at count
    have before := List.length_eq_zero_iff.mp (show (earlier.filter fun other =>
      decide (other.tick.request = request)).length = 0 by omega)
    have after := List.length_eq_zero_iff.mp (show (later.filter fun other =>
      decide (other.tick.request = request)).length = 0 by omega)
    rw [before, after] at alone
    obtain rfl : point = own := List.head_eq_of_cons_eq alone
    have rest : ∀ (shared : Preparer) (next : PreparerPoint), next.tick.request = request →
        (Tasks.park (shared, .point next) { tasks with ready := earlier ++ later }).ready.filter
          (fun other => decide (other.tick.request = request)) = [next] := by
      intro shared next own
      rw [Tasks.park_ready]
      change List.filter _ ((earlier ++ later) ++ [next]) = _
      rw [List.filter_append, List.filter_append, before, after, List.filter_singleton,
        decide_eq_true own]
      rfl
    rcases stage with ⟨rfl, phase⟩ | rfl | rfl
    · rw [working.locating ready phase]
      refine Or.inr ⟨tick, .freezing tick, mine, ?_, rest _ _ mine, Or.inr (Or.inl rfl)⟩
      rw [Tasks.park_shared]
      exact ⟨working.kept, working.context, working.id, working.clientId, working.position,
        working.source, working.player, working.request, working.generation⟩
    · rw [working.freezing ready]
      refine Or.inr ⟨tick, .confirming tick, mine, ?_, rest _ _ mine, Or.inr (Or.inr rfl)⟩
      rw [Tasks.park_shared]
      exact working
    · rw [working.confirming ready]
      refine Or.inl ?_
      rw [Tasks.park_shared]
      exact List.any_eq_true.mpr ⟨_, List.mem_cons_self .., working.isTaken ready⟩
  · -- A tick that has been replaced.
    have stale : tasks.shared.inFlight ≠ some point.tick.request := by
      rw [working.request, mine]
      intro equal
      exact same (Option.some.inj equal).symm
    rw [Preparer.resume_stale stale]
    rw [decide_eq_false same, if_neg Bool.false_ne_true, ← List.filter_append] at alone
    exact Or.inr ⟨tick, own, mine, working, alone, stage⟩

/-- One step of a page whose viewer stays ready. -/
theorem AtWork.next (work : view.AtWork request tasks)
    {label : TaskLabel PreparerCall PreparerAnswer} (possible : Program.Enabled tasks label)
    (still : view.undisturbed tasks label = true) :
    view.acknowledged (Preparer.program.next label tasks).shared = true ∨
      view.AtWork request (Preparer.program.next label tasks) := by
  rcases Preparer.program.next_cases possible with ⟨asked, answer, rfl, next⟩ |
    ⟨earlier, point, later, answer, rfl, split, next⟩ | ⟨guarded, rest, answer, rfl, first, next⟩
  · cases asked with
    | tick =>
        have ready := isReady_iff.mp still
        obtain ⟨tick, own, mine, working, rest⟩ := work
        have same : Preparer.program.call .tick answer tasks.shared = (tasks.shared, .done) :=
          working.another_tick ready.sees
        rw [next, same]
        exact Or.inr ⟨tick, own, mine, working, rest⟩
    | _ => cases still
  · rw [next]
    exact work.resume split (isReady_iff.mp still)
  · exact guarded.elim

/-- The tick has come to its end. -/
def completed (request : Nat) (tasks : Tasks Preparer PreparerPoint Empty) : Prop :=
  ∀ point ∈ tasks.ready, point.tick.request ≠ request

theorem stops_at_once (fresh : Preparer.Fresh tasks) {after : Preparer}
    (returns : tasks.shared.tick answer.state = (after, .done)) :
    ∃ later, view.readySystem.Steps (Preparer.program.next (.call .tick answer) tasks) later ∧
      completed tasks.shared.symbols later ∧ later.shared.sent = after.sent := by
  have ends : Preparer.program.next (.call .tick answer) tasks = { tasks with shared := after } := by
    change tasks.park (tasks.shared.tick answer.state) = _
    rw [returns]
    rfl
  rw [ends]
  refine ⟨_, TransitionSystem.Steps.refl _, ?_, rfl⟩
  intro point member
  exact (fresh point member).ne

/-- What a ready page sees next is the same, with the player playing. -/
def nextSeen (answer : PreparerAnswer) : PreparerAnswer :=
  { answer with state := { answer.state with playing := true } }

variable (ready : view.IsReady tasks.shared answer)

include ready

/-- A ready page stays ready, whatever comes of its tick. -/
theorem IsReady.seen (preparer : Preparer) :
    view.isReady preparer (nextSeen answer) = true := by
  refine isReady_iff.mpr ⟨⟨ready.sees.connected, ready.sees.visible, ready.sees.paused,
    ready.sees.clientId, ready.sees.named, ready.sees.source, ready.sees.video,
    ready.sees.player, ready.sees.finite, ready.sees.nonneg, ready.sees.round⟩, ready.player,
    ready.unblocked, ready.frame, ready.buffer, ready.finite, ready.nonneg, ready.near,
    ready.resolves, fun _ => rfl⟩

/-- A page that has not taken the round up as its leader leaves at the next await. -/
theorem IsReady.locating_foreign {taken : Preparer}
    {tick : PreparationTick} {clientId : ClientId} (other : clientId ≠ view.clientId)
    (context : ∀ context, taken.context = some context → context.clientId = clientId) :
    taken.resume (.locating tick) (nextSeen answer) = taken.release tick := by
  have foreign : taken.matches (nextSeen answer).state = false := by
    rw [← Bool.not_eq_true, (isReady_iff.mp (ready.seen taken)).sees.matches_iff]
    rintro ⟨_, held, there, _, own, _⟩
    exact other ((context held there).symm.trans own)
  unfold Preparer.resume
  rw [show (nextSeen answer).rejects = false from ready.resolves]
  change taken.locate tick (nextSeen answer).state (nextSeen answer).position = _
  unfold Preparer.locate Preparer.current
  rw [foreign, Bool.and_false]
  rfl

omit ready in
/-- A viewer that takes the round up without leading it finds, at its next await, that it is
not its own. -/
theorem stops_at_position (fresh : Preparer.Fresh tasks) (ready : view.IsReady tasks.shared answer)
    (other : tasks.shared.matches answer.state = false)
    (kept : tasks.shared.disposed = false ∧ tasks.shared.cancelledId ≠ some view.round.id)
    (follows : (answer.state.preparation.any fun preparation =>
      decide (preparation.clientId = view.clientId)) = false) :
    ∃ later, view.readySystem.Steps (Preparer.program.next (.call .tick answer) tasks) later ∧
      completed tasks.shared.symbols later ∧ later.shared.sent = tasks.shared.sent := by
  obtain ⟨preparation, there, id, position, now⟩ := ready.sees.reconcile_other other kept
  have clientId : preparation.clientId ≠ view.clientId := by
    rw [there] at follows
    exact of_decide_eq_false follows
  have begins := ready.begins (by rw [now]) (by rw [now]) (by rw [now]; exact nofun)
    (by rw [now]; exact nofun) (by rw [now]; exact nofun)
  rw [now] at begins
  obtain ⟨taken, tick, located, context, kept⟩ : ∃ taken tick,
      tasks.shared.tick answer.state = (taken, .point (.locating tick)) ∧
      (∀ context, taken.context = some context → context.clientId = preparation.clientId) ∧
      taken.sent = tasks.shared.sent := by
    refine ⟨_, _, begins, ?_, rfl⟩
    rintro _ ⟨⟩
    rfl
  have returns : taken.resume (.locating tick) (nextSeen answer) = taken.release tick :=
    ready.locating_foreign clientId context
  obtain ⟨possible, second⟩ := @Program.next_resume_last Preparer PreparerCall PreparerAnswer
    PreparerPoint Empty Preparer.program tasks taken (.locating tick) (nextSeen answer)
  have begun : Preparer.program.next (.call .tick answer) tasks =
      tasks.park (taken, .point (.locating tick)) := by
    change tasks.park (tasks.shared.tick answer.state) = _
    rw [located]
  have ended : Preparer.program.next (.resume tasks.ready.length (nextSeen answer))
      (tasks.park (taken, .point (.locating tick))) =
        { tasks with shared := (taken.release tick).1 } := by
    rw [second]
    change tasks.park (taken.resume (.locating tick) (nextSeen answer)) = _
    rw [returns]
    rfl
  have step : view.readySystem.Step (tasks.park (taken, .point (.locating tick)))
      (.resume tasks.ready.length (nextSeen answer)) { tasks with shared := (taken.release tick).1 } :=
    ⟨ready.seen _, possible, ended.symm⟩
  rw [begun]
  refine ⟨_, TransitionSystem.Steps.single step, ?_, ?_⟩
  · intro other member
    exact (fresh other member).ne
  · change (taken.release tick).1.sent = _
    unfold Preparer.release
    split
    · exact kept
    · exact kept

/-- A tick returns at once while the page is at the round, or has failed at it, or waits. -/
theorem tick_returns
    (same : tasks.shared.matches answer.state = true)
    (follows : view.leads answer.state tasks.shared = false) :
    tasks.shared.tick answer.state = (tasks.shared, .done) := by
  unfold leads at follows
  rw [same, if_pos rfl] at follows
  obtain ⟨_, context, taken, _⟩ := ready.sees.matches_iff.mp same
  have still : tasks.shared.reconcile answer.state = tasks.shared := by
    unfold Preparer.reconcile
    rw [if_pos same]
  unfold Preparer.tick
  dsimp only
  rw [still, taken]
  dsimp only
  refine if_pos ?_
  simp only [Bool.and_eq_false_iff, decide_eq_false_iff_not, not_not, Bool.or_eq_true,
    decide_eq_true_eq] at follows ⊢
  rcases follows with (busy | failed) | waiting
  · refine Or.inl (Or.inl (Or.inl (Or.inl ?_)))
    rwa [← Option.not_isNone, Bool.not_eq_true']
  · exact Or.inl (Or.inl (Or.inl (Or.inr failed)))
  · exact Or.inl (Or.inl (Or.inr waiting))

/-- A tick returns at once on a page that is closed or has cancelled the round. -/
theorem tick_disowned
    (same : tasks.shared.matches answer.state = false)
    (gone : ¬ (tasks.shared.disposed = false ∧ tasks.shared.cancelledId ≠ some view.round.id)) :
    tasks.shared.tick answer.state = (tasks.shared.reconcile answer.state, .done) := by
  have absent : tasks.shared.newContext answer.state = none := by
    have none : tasks.shared.isOwner answer.state = false := by
      rw [← Bool.not_eq_true, ready.sees.isOwner_iff]
      exact gone
    unfold Preparer.newContext
    rw [none]
  have dropped : (tasks.shared.reconcile answer.state).context = none := by
    unfold Preparer.reconcile
    rw [same]
    exact absent
  unfold Preparer.tick
  dsimp only
  rw [dropped]

omit ready

/-- Nothing new is sent by a tick whose viewer does not lead the round, or is at it already. -/
theorem stops_without_report (fresh : Preparer.Fresh tasks)
    (ready : view.IsReady tasks.shared answer)
    (follows : view.leads answer.state tasks.shared = false) :
    ∃ later, view.readySystem.Steps (Preparer.program.next (.call .tick answer) tasks) later ∧
      completed tasks.shared.symbols later ∧ later.shared.sent = tasks.shared.sent := by
  cases same : tasks.shared.matches answer.state with
  | true => exact stops_at_once fresh (tick_returns ready same follows)
  | false =>
      by_cases kept : tasks.shared.disposed = false ∧ tasks.shared.cancelledId ≠ some view.round.id
      · refine stops_at_position fresh ready same kept ?_
        unfold leads at follows
        rw [same, if_neg Bool.false_ne_true, kept.1, decide_eq_true kept.2] at follows
        exact follows
      · obtain ⟨later, run, ended, sent⟩ :=
          @stops_at_once view answer tasks fresh _ (tick_disowned ready same kept)
        refine ⟨later, run, ended, sent.trans ?_⟩
        unfold Preparer.reconcile
        split <;> rfl

/-- A tick that begins at a viewer that is ready in every respect, and stays so, ends with a
report that the server takes, in every interleaving with other ticks, exactly if there is one
already, or the page has taken the round up as its leader and is not yet at it, or it leads
the round and takes it up now. -/
theorem acknowledges_iff (reachable : Preparer.system.Reachable tasks)
    (ready : view.isReady tasks.shared answer = true) :
    (∀ later, view.readySystem.Steps (Preparer.program.next (.call .tick answer) tasks) later →
      completed tasks.shared.symbols later → view.acknowledged later.shared = true) ↔
    (view.acknowledged tasks.shared || view.leads answer.state tasks.shared) = true := by
  have fresh := Preparer.fresh_of_reachable reachable
  have ready := isReady_iff.mp ready
  rw [Bool.or_eq_true]
  constructor
  · intro ends
    by_contra neither
    rw [not_or, Bool.not_eq_true, Bool.not_eq_true] at neither
    obtain ⟨later, run, ended, sent⟩ := stops_without_report fresh ready neither.2
    have acknowledged := ends later run ended
    unfold Viewing.acknowledged at acknowledged
    rw [sent] at acknowledged
    exact Bool.false_ne_true (neither.1.symm.trans acknowledged)
  · intro either later run ended
    have tracked : view.acknowledged later.shared = true ∨
        view.AtWork tasks.shared.symbols later := by
      refine TransitionSystem.Steps.relates (fun tasks' : Tasks Preparer PreparerPoint Empty =>
        view.acknowledged tasks'.shared = true ∨ view.AtWork tasks.shared.symbols tasks') ?_ ?_ run
      · rcases either with acknowledged | leads
        · have possible : Program.Enabled tasks
              (.call .tick answer : TaskLabel PreparerCall PreparerAnswer) := trivial
          exact Or.inl (acknowledged_next possible acknowledged)
        · exact Or.inr (AtWork.begin fresh ready leads)
      · rintro before label after _ tracked ⟨still, possible, rfl⟩
        rcases tracked with acknowledged | work
        · exact Or.inl (acknowledged_next possible acknowledged)
        · exact work.next possible still
    rcases tracked with acknowledged | ⟨tick, point, mine, _, alone, stage⟩
    · exact acknowledged
    · have member : point ∈ later.ready.filter fun other =>
          decide (other.tick.request = tasks.shared.symbols) := by
        rw [alone]
        exact List.mem_singleton_self _
      obtain ⟨there, own⟩ := List.mem_filter.mp member
      exact absurd (of_decide_eq_true own) (ended point there)

end Runs

end Viewing

end OpenTogetherTube
