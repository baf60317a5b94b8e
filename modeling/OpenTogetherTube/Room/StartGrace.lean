import OpenTogetherTube.Room.GateBounds

/-!
# The gate's grace after a start

The gate does not begin a hold in the first two seconds after `lastPlayAt`. `play` and
`set currentSource` write that time; `startPreparedPlayback` starts playback without writing it.
Here the effects of a run are noted one by one: when playback starts, whether by a prepared start
or not, and when the gate begins a hold. Whatever the effects a step is made of, a hold that
follows any other start than a prepared one comes after the grace.
-/

namespace OpenTogetherTube

open Lib

/-- What the grace is about. -/
inductive PlayEvent where
  /-- Playback went from not playing to playing. -/
  | started (time : Int) (prepared : Bool)
  /-- The gate began a hold. -/
  | held (time : Int)
deriving DecidableEq

/-- The last start of a history, newest event first. -/
def lastStart : List PlayEvent → Option (Int × Bool)
  | [] => none
  | .started time prepared :: _ => some (time, prepared)
  | .held _ :: older => lastStart older

namespace Playback

/-- What an effect adds to the history. A start is a prepared one if it is on record. -/
def note (now : Int) (p q : Playback) : List PlayEvent :=
  if p.isPlaying = false ∧ q.isPlaying = true then [.started now (decide (q.starts ≠ p.starts))]
  else if p.bufferGate = none ∧ q.bufferGate ≠ none then [.held now]
  else []

end Playback

/-- An effect, with what it adds to the history. -/
def Noted (scope : Scope) (before after : Playback × List PlayEvent) : Prop :=
  Effect scope before.1 after.1 ∧ after.2 = before.1.note scope.now after.1 ++ before.2

/-- A room with the history of its starts and holds. -/
structure StartHistory where
  state : RoomState
  log : List PlayEvent := []
deriving DecidableEq

/-- The runs in which the clock does not go back, with their history. Each step is some sequence
of effects, each of which is noted. -/
def startSystem : TransitionSystem StartHistory RoomLabel where
  Initial history := history.state.Initial ∧ history.log = []
  Step before label after :=
    RoomState.forward.Step before.state label after.state ∧
      Relation.ReflTransGen (Noted (label.env.scope
          (label.action.Commands label.env before.state.room)
          (label.action.Freezes label.env before.state.room)))
        (before.state.room.toPlayback, before.log) (after.state.room.toPlayback, after.log)

/-- A sequence of effects has a history. -/
theorem noted_of_effects {scope : Scope} {p q : Playback} (effects : Effects scope p q)
    (log : List PlayEvent) :
    ∃ later, Relation.ReflTransGen (Noted scope) (p, log) (q, later) := by
  induction effects with
  | refl => exact ⟨log, .refl⟩
  | @tail middle last _ effect ih =>
      obtain ⟨later, noted⟩ := ih
      exact ⟨middle.note scope.now last ++ later, noted.tail ⟨effect, rfl⟩⟩

/-- Every run in which the clock does not go back has a history. -/
theorem StartHistory.exists_log {state : RoomState} (reachable : RoomState.forward.Reachable state) :
    ∃ log, startSystem.Reachable ⟨state, log⟩ := by
  obtain ⟨start, valid, run⟩ := reachable
  refine TransitionSystem.Steps.relates
    (fun state => ∃ log, startSystem.Reachable ⟨state, log⟩) ?_ ?_ run
  · exact ⟨[], .initial ⟨valid, rfl⟩⟩
  · rintro before label after _ ⟨log, reached⟩ step
    obtain ⟨later, noted⟩ := noted_of_effects (RoomState.step_effects step.2) log
    exact ⟨later, reached.steps (.single ⟨step, noted⟩)⟩

/-- A step of which the effects are known, the last of them on what is pending. -/
theorem StartHistory.step_of_effects {before after : RoomState} {label : RoomLabel}
    {log later : List PlayEvent} {p : Playback} (step : RoomState.forward.Step before label after)
    (noted : Relation.ReflTransGen (Noted (label.env.scope
          (label.action.Commands label.env before.room)
          (label.action.Freezes label.env before.room)))
        (before.room.toPlayback, log) (p, later))
    (last : after.room.toPlayback = { p with toPending := after.room.toPending }) :
    startSystem.Step ⟨before, log⟩ label ⟨after, later⟩ := by
  refine ⟨step, noted.tail ⟨?_, ?_⟩⟩
  · change Effect _ p after.room.toPlayback
    rw [last]
    exact .pending p _
  · change later = p.note _ after.room.toPlayback ++ later
    rw [last]
    unfold Playback.note
    have still : ¬ (p.isPlaying = false ∧ p.isPlaying = true) := by
      rintro ⟨stopped, playing⟩
      rw [stopped] at playing
      cases playing
    have kept : ¬ (p.bufferGate = none ∧ p.bufferGate ≠ none) := fun both => both.2 both.1
    rw [if_neg still, if_neg kept]
    rfl

/-- What an effect does to playing, the gate and the time the grace is measured from. -/
structure StartChange (now : Int) (p q : Playback) : Prop where
  /-- The time is kept or set. -/
  time : q.lastPlayAt = p.lastPlayAt ∨ q.lastPlayAt = some now
  /-- A start sets the time, or is a prepared one. -/
  start : p.isPlaying = false → q.isPlaying = true → q.lastPlayAt = some now ∨ q.starts ≠ p.starts
  /-- A hold begins outside the grace. -/
  hold : p.bufferGate = none → q.bufferGate ≠ none → p.inStartGrace now = false

namespace StartChange

variable {scope : Scope} {now : Int} {p q : Playback}

/-- The gate stays as it is and nothing starts. -/
theorem of_same (gate : q.toGateState = p.toGateState) (clock : q.isPlaying = true → p.isPlaying = true) :
    StartChange now p q := by
  refine ⟨Or.inl (by rw [gate]), fun stopped playing => ?_, fun free held => ?_⟩
  · rw [clock playing] at stopped
    cases stopped
  · rw [gate] at held
    exact absurd free held

/-- The gate opens, if it was closed, and nothing starts. -/
theorem of_open (time : q.lastPlayAt = p.lastPlayAt ∨ q.lastPlayAt = some now)
    (gate : q.bufferGate = none) (clock : q.isPlaying = true → p.isPlaying = true) :
    StartChange now p q := by
  refine ⟨time, fun stopped playing => ?_, fun _ held => absurd gate held⟩
  rw [clock playing] at stopped
  cases stopped

/-- `play` opens the gate, and sets the time if it starts. -/
theorem of_play (p : Playback) : StartChange now p (p.play now) := by
  obtain ⟨clock, _, gate, _⟩ := Playback.play_frame p now
  have time : (p.play now).lastPlayAt = if p.isPlaying then p.lastPlayAt else some now := by
    rw [gate]
  refine ⟨?_, fun stopped _ => Or.inl ?_, fun _ held => ?_⟩
  · rw [time]
    split
    · exact Or.inl rfl
    · exact Or.inr rfl
  · rw [time, stopped]
    rfl
  · rw [gate] at held
    exact absurd (GateState.continued_bufferGate _ _) held

theorem after_open {r : Playback} (first : StartChange now p q)
    (same : q.isPlaying = p.isPlaying) (starts : q.starts = p.starts)
    (second : StartChange now q r) (closed : r.bufferGate = none) : StartChange now p r := by
  refine ⟨?_, fun stopped playing => ?_, fun _ held => absurd closed held⟩
  · rcases second.time with kept | set
    · rw [kept]
      exact first.time
    · exact Or.inr set
  · rw [← starts]
    exact second.start (same ▸ stopped) playing

theorem of_effect (effect : Effect scope p q) : StartChange scope.now p q := by
  cases effect with
  | pending pending => exact of_same rfl fun playing => playing
  | speedEnded => exact of_same (by simp) (by simp)
  | speedChanged speed nonneg counts => exact of_same (by simp) (by simp)
  | spedUp clientId gestureId playing plain source => exact of_same (by simp) (by simp)
  | speedReset plain still => exact of_same (by simp) (by simp)
  | played cause => exact of_play p
  | released timedOut audience due =>
      rcases Playback.releaseBufferGate_cases p scope.now timedOut audience with
        ⟨_, same⟩ | ⟨gate, _, same | ⟨_, _, _, same⟩⟩
      · rw [same]
        exact of_same rfl fun playing => playing
      · rw [same]
        exact of_open (Or.inl (by simp [GateState.released])) (by simp [GateState.released])
          (by simp)
      · rw [same]
        have cleared : StartChange scope.now p (p.clearBufferGate gate timedOut audience scope.now) :=
          of_open (Or.inl (by simp [GateState.released])) (by simp [GateState.released]) (by simp)
        exact cleared.after_open (by simp) (by simp) (of_play _) (by simp)
  | waited gate waitingOn held armed =>
      refine ⟨Or.inl rfl, fun stopped playing => ?_, fun free => ?_⟩
      · change p.isPlaying = true at playing
        rw [stopped] at playing
        cases playing
      · rw [free] at held
        cases held
  | engaged waitingOn free playing plain noRound source settled cool armed =>
      refine ⟨Or.inl (by simp), fun stopped => ?_, fun _ _ => settled⟩
      rw [playing] at stopped
      cases stopped
  | recovered clientId =>
      refine ⟨Or.inl (by simp), fun stopped playing => ?_, fun free held => ?_⟩
      · rw [(Playback.noteRecovery_frame p clientId).1, stopped] at playing
        cases playing
      · rw [(Playback.noteRecovery_frame p clientId).2.2.1] at held
        exact absurd free held
  | paused =>
      exact of_open (Or.inl (by simp [GateState.opened])) (by simp [GateState.opened]) (by simp)
  | stopped => exact of_same (by simp) (by simp)
  | sourceTaken item position =>
      exact of_open (Or.inr (by simp [GateState.sourceSet])) (by simp [GateState.sourceSet])
        (by simp)
  | sourceLeft item position counts =>
      exact of_open (Or.inr (by simp [GateState.sourceSet])) (by simp [GateState.sourceSet])
        (by simp)
  | sourceEnded cause counts =>
      obtain ⟨stopped, _, _, gate, _⟩ := Playback.clearSource_frame (p.countWatched scope.now) scope.now
      refine of_open (Or.inr (by rw [gate]; rfl)) (by rw [gate]; rfl) fun playing => ?_
      rw [stopped] at playing
      cases playing
  | sourceDropped cause =>
      exact of_open (Or.inr (by simp [GateState.sourceSet])) (by simp [GateState.sourceSet])
        (by simp)
  | sourceRetimed source startAt current => exact of_same rfl fun playing => playing
  | handedOver restored playing => exact of_same rfl fun playing => playing
  | clockHeld cause free => exact of_same (by simp) (by simp)
  | prepared audience fresh =>
      rcases Playback.prepareEmptyRoomPlayback_cases p scope.now scope.uuid audience with
        same | ⟨source, leader, others, _, _, _, _, _, _, _, same⟩
      · rw [same]
        exact of_same rfl fun playing => playing
      · rw [same]
        exact of_same rfl fun playing => playing
  | roundEdited before after present edit => exact of_same (by simp) (by simp)
  | scheduled before fallback startAt present unscheduled later soon => exact of_same (by simp) (by simp)
  | started onTime =>
      rcases Playback.startPreparedPlayback_cases p scope.now with
        same | ⟨round, startAt, _, _, _, _, held, gate, _, _⟩
      · rw [same]
        exact of_same rfl fun playing => playing
      · refine ⟨Or.inl (by rw [gate]), fun _ _ => Or.inr ?_, fun free closed => ?_⟩
        · rw [held]
          exact List.cons_ne_self _ _
        · rw [gate] at closed
          exact absurd free closed
  | cancelled => exact of_same (by simp) (by simp)
  | sought value counts => exact of_same (by simp) (by simp)
  | emptied audience nobody =>
      obtain ⟨clock, _, gate, _, _⟩ := Playback.emptyRoom_frame p scope.now audience nobody
      have stopped : (p.emptyRoom audience scope.now).isPlaying = true → p.isPlaying = true := by
        rw [clock]
        simp
      split at gate
      · exact of_open (Or.inl (by rw [gate]; rfl)) (by rw [gate]; rfl) stopped
      · exact of_same gate stopped
  | intentKept round => exact of_same (by simp) (by simp)
  | heldForJoin skipForReconnect audience =>
      rcases Playback.holdEmptyPlaybackForJoin_cases p scope.now skipForReconnect audience with
        same | ⟨_, clock, _, gate, _, _⟩
      · rw [same]
        exact of_same rfl fun playing => playing
      · refine of_open (Or.inl (by rw [gate]; rfl)) (by rw [gate]; rfl) fun playing => ?_
        rw [clock] at playing
        simp at playing

end StartChange

/-- The last start was another one than a prepared start, and the grace is measured from then. -/
def Measured (now : Int) (p : Playback) (log : List PlayEvent) : Prop :=
  ∀ time, lastStart log = some (time, false) → time ≤ now ∧
    ∃ since, p.lastPlayAt = some since ∧ time ≤ since

/-- Every hold that follows another start than a prepared one comes after the grace. -/
def Graced : List PlayEvent → Prop
  | [] => True
  | .started _ _ :: older => Graced older
  | .held time :: older =>
      (∀ start, lastStart older = some (start, false) → start + BUFFER_GATE_START_GRACE_MS ≤ time) ∧
        Graced older

/-- A part of a history in which the grace is kept. -/
theorem Graced.suffix {newer older : List PlayEvent} (graced : Graced (newer ++ older)) :
    Graced older := by
  induction newer with
  | nil => exact graced
  | cons event rest ih =>
      cases event with
      | started _ _ => exact ih graced
      | held _ => exact ih graced.2

/-- What one effect preserves. -/
theorem Measured.effect {scope : Scope} {p q : Playback} {log : List PlayEvent}
    (effect : Effect scope p q) (measured : Measured scope.now p log) (graced : Graced log) :
    Measured scope.now q (p.note scope.now q ++ log) ∧ Graced (p.note scope.now q ++ log) := by
  have change := StartChange.of_effect effect
  have later : ∀ time since, time ≤ scope.now → p.lastPlayAt = some since → time ≤ since →
      ∃ since, q.lastPlayAt = some since ∧ time ≤ since := by
    intro time since past set order
    rcases change.time with kept | now
    · exact ⟨since, kept.trans set, order⟩
    · exact ⟨scope.now, now, past⟩
  unfold Playback.note
  split
  · rename_i starts
    refine ⟨fun time last => ?_, graced⟩
    change some (scope.now, decide (q.starts ≠ p.starts)) = some (time, false) at last
    rw [Option.some.injEq, Prod.mk.injEq, decide_eq_false_iff_not, not_not] at last
    obtain ⟨rfl, unprepared⟩ := last
    rcases change.start starts.1 starts.2 with set | prepared
    · exact ⟨le_rfl, scope.now, set, le_rfl⟩
    · exact absurd unprepared prepared
  · split
    · rename_i begins
      refine ⟨fun time last => ?_, fun start last => ?_, graced⟩
      · obtain ⟨past, since, set, order⟩ := measured time last
        exact ⟨past, later time since past set order⟩
      · obtain ⟨_, since, set, order⟩ := measured start last
        have settled := change.hold begins.1 begins.2
        unfold GateState.inStartGrace at settled
        rw [set, Option.any_some, decide_eq_false_iff_not] at settled
        omega
    · refine ⟨fun time last => ?_, graced⟩
      obtain ⟨past, since, set, order⟩ := measured time last
      exact ⟨past, later time since past set order⟩

namespace Sample

/-- A sole viewer joins, plays a video that needs no preparation, and buffers. -/
def bufferLate : List RoomLabel :=
  [⟨env 1 "first", .request (.join { id := "viewer", username := some "v" } false) viewer⟩,
    ⟨env 2 "first", .request (.playNow { service := .youtube, id := "video" }) viewer⟩,
    ⟨env 5000 "first", .request (.updateUser { id := "viewer", status := some .buffering } none)
      viewer⟩]

/-- A room after some of these steps. -/
def buffering (steps : Nat) : RoomState := RoomState.run (bufferLate.take steps) ⟨Room.new {} 0, 0⟩

/-- The viewer has the first frame of a video that was held for them, and buffers at once. -/
def preparedAndBuffering : List RoomLabel :=
  joinAndPlay ++ [⟨env 3000 "second", .request (.updateUser { id := "viewer", status := some .ready }
      (some { id := "first", position := 0, bufferAhead := some 100, firstFrame := some true })) viewer⟩,
    ⟨env 3100 "third", .request (.updateUser { id := "viewer", status := some .buffering } none)
      viewer⟩]

/-- A room after some of these steps. -/
def preparing (steps : Nat) : RoomState :=
  RoomState.run (preparedAndBuffering.take steps) ⟨Room.new {} 0, 0⟩

end Sample

namespace StartHistory

variable {history : StartHistory}

/-- The grace is kept in every run. -/
theorem measured_graced (reached : startSystem.Reachable history) :
    Measured history.state.clock history.state.room.toPlayback history.log ∧
      Graced history.log := by
  have invariant : startSystem.Inductive fun history =>
      Measured history.state.clock history.state.room.toPlayback history.log ∧
        Graced history.log := by
    refine ⟨?_, ?_⟩
    · rintro ⟨state, log⟩ ⟨_, rfl⟩
      exact ⟨fun time => by rintro ⟨⟩, trivial⟩
    · rintro before label ⟨after, log⟩ ⟨measured, graced⟩ ⟨⟨forward, _, _, rfl⟩, noted⟩
      have clock : max before.state.clock label.env.now = label.env.now := max_eq_right forward
      change Measured (max before.state.clock label.env.now) _ log ∧ Graced log
      rw [clock]
      have begun : Measured label.env.now before.state.room.toPlayback before.log ∧
          Graced before.log := by
        refine ⟨fun time last => ?_, graced⟩
        obtain ⟨past, set⟩ := measured time last
        exact ⟨past.trans forward, set⟩
      have kept : ∀ p : Playback × List PlayEvent,
          Relation.ReflTransGen (Noted (label.env.scope
              (label.action.Commands label.env before.state.room)
              (label.action.Freezes label.env before.state.room)))
            (before.state.room.toPlayback, before.log) p →
          Measured label.env.now p.1 p.2 ∧ Graced p.2 := by
        intro p effects
        induction effects with
        | refl => exact begun
        | tail _ effect ih =>
            obtain ⟨effect, log⟩ := effect
            rw [log]
            exact ih.1.effect effect ih.2
      exact kept _ noted
  exact invariant.of_reachable reached

/-- In every run in which the clock does not go back, a hold that the gate begins comes at least
two seconds after the last start of playback, if that was not a prepared start. -/
theorem start_grace (reached : startSystem.Reachable history) {newer older : List PlayEvent}
    {time start : Int} (held : history.log = newer ++ .held time :: older)
    (last : lastStart older = some (start, false)) : start + 2000 ≤ time := by
  have graced := (measured_graced reached).2
  rw [held] at graced
  exact graced.suffix.1 start last

/-- A video that starts at 2 and holds at 5000. -/
theorem start_grace_played : ∃ history, startSystem.Reachable history ∧
    history.state = Sample.buffering 3 ∧
    history.log = [.held 5000, .started 2 false] ∧ (2 : Int) + 2000 ≤ 5000 := by
  have joins : startSystem.Step ⟨Sample.buffering 0, []⟩
      ⟨Sample.env 1 "first", .request (.join { id := "viewer", username := some "v" } false)
        Sample.viewer⟩ ⟨Sample.buffering 1, []⟩ := by
    refine step_of_effects (p := (Sample.buffering 0).room.toPlayback)
      ⟨by decide +kernel, by decide +kernel, by decide +kernel, rfl⟩ .refl (by decide +kernel)
  have plays : startSystem.Step ⟨Sample.buffering 1, []⟩
      ⟨Sample.env 2 "first", .request (.playNow { service := .youtube, id := "video" })
        Sample.viewer⟩ ⟨Sample.buffering 2, [.started 2 false]⟩ := by
    let item : QueueItem := { service := .youtube, id := "video", length := some 100 }
    refine step_of_effects (p := ((Sample.buffering 1).room.toPlayback.takeSource item 0 2).play 2)
      ⟨by decide +kernel, by decide +kernel, by decide +kernel, rfl⟩ ?_ (by decide +kernel)
    have silent : (Sample.buffering 1).room.toPlayback.note 2
        ((Sample.buffering 1).room.toPlayback.takeSource item 0 2) = [] := by
      decide +kernel
    have starts : ((Sample.buffering 1).room.toPlayback.takeSource item 0 2).note 2
        (((Sample.buffering 1).room.toPlayback.takeSource item 0 2).play 2) = [.started 2 false] := by
      decide +kernel
    have taken : ∀ scope : Scope, scope.now = 2 → Noted scope
        ((Sample.buffering 1).room.toPlayback, [])
        ((Sample.buffering 1).room.toPlayback.takeSource item 0 2, []) := by
      rintro ⟨_, _, _, _⟩ rfl
      exact ⟨.sourceTaken _ item 0, (congrArg (· ++ []) silent).symm⟩
    have played : ∀ scope : Scope, scope.now = 2 → scope.commanded → Noted scope
        ((Sample.buffering 1).room.toPlayback.takeSource item 0 2, [])
        (((Sample.buffering 1).room.toPlayback.takeSource item 0 2).play 2, [.started 2 false]) := by
      rintro ⟨_, _, _, _⟩ rfl cause
      exact ⟨.played _ (Or.inl cause), (congrArg (· ++ []) starts).symm⟩
    exact (Relation.ReflTransGen.single (taken _ rfl)).tail (played _ rfl rfl)
  have holds : startSystem.Step ⟨Sample.buffering 2, [.started 2 false]⟩
      ⟨Sample.env 5000 "first",
        .request (.updateUser { id := "viewer", status := some .buffering } none) Sample.viewer⟩
      ⟨Sample.buffering 3, [.held 5000, .started 2 false]⟩ := by
    refine step_of_effects
      (p := (Sample.buffering 2).room.toPlayback.engageBufferGate ["viewer"] 5000)
      ⟨by decide +kernel, by decide +kernel, by decide +kernel, rfl⟩ ?_ (by decide +kernel)
    have begins : (Sample.buffering 2).room.toPlayback.note 5000
        ((Sample.buffering 2).room.toPlayback.engageBufferGate ["viewer"] 5000) = [.held 5000] := by
      decide +kernel
    have settled : (Sample.buffering 2).room.inStartGrace 5000 = false := by decide +kernel
    have cool : (Sample.buffering 2).room.inGateCooldown 5000 = false := by decide +kernel
    have armed : ∀ id ∈ ["viewer"], id ∉ (Sample.buffering 2).room.bufferGateExhausted := by
      decide +kernel
    have playing : (Sample.buffering 2).room.isPlaying = true := by decide +kernel
    have free : (Sample.buffering 2).room.bufferGate = none := by decide +kernel
    have plain : (Sample.buffering 2).room.temporarySpeed = none := by decide +kernel
    have noRound : (Sample.buffering 2).room.playbackPreparation = none := by decide +kernel
    have source : (Sample.buffering 2).room.currentSource.isSome = true := by decide +kernel
    generalize (Sample.buffering 2).room.toPlayback = p at *
    have engaged : ∀ scope : Scope, scope.now = 5000 → Noted scope (p, [.started 2 false])
        (p.engageBufferGate ["viewer"] 5000, [.held 5000, .started 2 false]) := by
      rintro ⟨_, _, _, _⟩ rfl
      exact ⟨.engaged p ["viewer"] free playing plain noRound source settled cool armed,
        (congrArg (· ++ [PlayEvent.started 2 false]) begins).symm⟩
    exact .single (engaged _ rfl)
  have reached : startSystem.Reachable ⟨Sample.buffering 3, [.held 5000, .started 2 false]⟩ :=
    ⟨_, ⟨.created {} 0, rfl⟩, ((TransitionSystem.Steps.single joins).tail plays).tail holds⟩
  exact ⟨_, reached, rfl, rfl, start_grace reached (show _ = [] ++ _ from rfl) rfl⟩

/-- A video that was prepared starts at 3000, and the gate begins a hold at 3100. -/
theorem prepared_start_without_grace : RoomState.forward.Reachable (Sample.preparing 4) ∧
    (Sample.preparing 2).room.isPlaying = false ∧
    Sample.preparing 3 = (Sample.preparing 2).next
      ⟨Sample.env 3000 "second", .request (.updateUser { id := "viewer", status := some .ready }
        (some { id := "first", position := 0, bufferAhead := some 100, firstFrame := some true }))
          Sample.viewer⟩ ∧
    (Sample.preparing 3).room.isPlaying = true ∧
    (Sample.preparing 3).room.bufferGate = none ∧
    (Sample.preparing 4).room.bufferGate = some ⟨3100, ["viewer"], true⟩ := by
  have possible : RoomState.runs (fun state label => state.clock ≤ label.env.now)
      (Sample.preparedAndBuffering.take 4) ⟨Room.new {} 0, 0⟩ = true := by
    decide +kernel
  exact ⟨⟨_, .created {} 0, RoomState.steps_run _ _ _ possible⟩, by decide +kernel, rfl,
    by decide +kernel, by decide +kernel, by decide +kernel⟩

end StartHistory

end OpenTogetherTube
