import OpenTogetherTube.Room.Rounds

/-!
# The buffer gate over whole runs

The gate's history is a trace, newest event first. Each effect adds at most one event and
moves the cooldown and the exhausted viewers with it, so that both can be read off the
trace; the bounds on the gate are bounds on the trace. The clock does not go back here.
-/

namespace OpenTogetherTube

open Lib Lib.Handler

namespace GateEvent

/-- The viewers a hold waits for. -/
def waitsFor : GateEvent → List ClientId
  | .engaged _ waitingOn => waitingOn
  | .waiting _ waitingOn => waitingOn
  | _ => []

/-- The sole viewer a hold was given up on. -/
def givesUpOn : GateEvent → List ClientId
  | .released _ true exhausted => exhausted
  | _ => []

/-- When a cooldown began: a release on timeout, or a viewer who plays during a hold. -/
def coolsFrom : GateEvent → Option Int
  | .released time true _ => some time
  | .continued time => some time
  | _ => none

/-- The event makes the viewer count again. -/
def Rearms (id : ClientId) : GateEvent → Prop
  | .recovered clientId => clientId = id
  | .sourceSet _ => True
  | _ => False

/-- A hold that begins keeps the cooldown of an older event. -/
def Spaced (newer older : GateEvent) : Prop :=
  ∀ time waitingOn begun, newer = .engaged time waitingOn → older.coolsFrom = some begun →
    begun + BUFFER_GATE_COOLDOWN_MS ≤ time

end GateEvent

/-- A viewer whose wait ran out and who has not been re-armed since. -/
def Exhausted (id : ClientId) : List GateEvent → Prop
  | [] => False
  | event :: older => id ∈ event.givesUpOn ∨ ¬ event.Rearms id ∧ Exhausted id older

/-- No hold of the trace waits for an exhausted viewer. -/
def NeverRewaits : List GateEvent → Prop
  | [] => True
  | event :: older => (∀ id ∈ event.waitsFor, ¬ Exhausted id older) ∧ NeverRewaits older

/-- What one effect can do to the gate's history. -/
inductive GateChange (scope : Scope) (p q : GateState) : Prop
  | kept (trace : q.gateTrace = p.gateTrace) (exhausted : q.bufferGateExhausted = p.bufferGateExhausted)
      (cooldown : q.bufferGateCooldownUntil = p.bufferGateCooldownUntil)
  | sourceSet (source : Option VideoId) (trace : q.gateTrace = .sourceSet source :: p.gateTrace)
      (exhausted : q.bufferGateExhausted = [])
      (cooldown : q.bufferGateCooldownUntil = p.bufferGateCooldownUntil)
  | continued (trace : q.gateTrace = .continued scope.now :: p.gateTrace)
      (exhausted : q.bufferGateExhausted = p.bufferGateExhausted)
      (cooldown : q.bufferGateCooldownUntil = some (scope.now + BUFFER_GATE_COOLDOWN_MS))
  | timedOut (viewers : List ClientId)
      (trace : q.gateTrace = .released scope.now true viewers :: p.gateTrace)
      (exhausted : q.bufferGateExhausted = p.bufferGateExhausted.addAll viewers)
      (cooldown : q.bufferGateCooldownUntil = some (scope.now + BUFFER_GATE_COOLDOWN_MS))
  | released (trace : q.gateTrace = .released scope.now false [] :: p.gateTrace)
      (exhausted : q.bufferGateExhausted = p.bufferGateExhausted)
      (cooldown : q.bufferGateCooldownUntil = p.bufferGateCooldownUntil)
  | waiting (waitingOn : List ClientId)
      (trace : q.gateTrace = .waiting scope.now waitingOn :: p.gateTrace)
      (armed : ∀ id ∈ waitingOn, id ∉ p.bufferGateExhausted)
      (exhausted : q.bufferGateExhausted = p.bufferGateExhausted)
      (cooldown : q.bufferGateCooldownUntil = p.bufferGateCooldownUntil)
  | engaged (waitingOn : List ClientId)
      (trace : q.gateTrace = .engaged scope.now waitingOn :: p.gateTrace)
      (armed : ∀ id ∈ waitingOn, id ∉ p.bufferGateExhausted)
      (cool : p.inGateCooldown scope.now = false)
      (exhausted : q.bufferGateExhausted = p.bufferGateExhausted)
      (cooldown : q.bufferGateCooldownUntil = p.bufferGateCooldownUntil)
  | recovered (clientId : ClientId) (trace : q.gateTrace = .recovered clientId :: p.gateTrace)
      (exhausted : q.bufferGateExhausted = p.bufferGateExhausted.remove clientId)
      (cooldown : q.bufferGateCooldownUntil = p.bufferGateCooldownUntil)

namespace GateChange

variable {scope : Scope} {p q : Playback}

/-- The gate is untouched. -/
theorem same (gate : q.toGateState = p.toGateState) :
    GateChange scope p.toGateState q.toGateState :=
  .kept (by rw [gate]) (by rw [gate]) (by rw [gate])

/-- The current source was set. -/
theorem of_sourceSet {source : Option VideoId}
    (gate : q.toGateState = p.toGateState.sourceSet source scope.now) :
    GateChange scope p.toGateState q.toGateState :=
  .sourceSet source (by rw [gate]; rfl) (by rw [gate]; rfl) (by rw [gate]; rfl)

/-- A release: on timeout it exhausts viewers and begins a cooldown. -/
theorem of_released (timedOut : Bool) (viewers : List ClientId)
    (none_early : timedOut = false → viewers = [])
    (trace : q.gateTrace = .released scope.now timedOut viewers :: p.gateTrace)
    (exhausted : q.bufferGateExhausted = p.bufferGateExhausted.addAll viewers)
    (cooldown : q.bufferGateCooldownUntil =
      if timedOut then some (scope.now + BUFFER_GATE_COOLDOWN_MS)
      else p.bufferGateCooldownUntil) :
    GateChange scope p.toGateState q.toGateState := by
  cases timedOut with
  | true => exact .timedOut viewers trace exhausted cooldown
  | false =>
      rw [none_early rfl] at trace exhausted
      exact .released trace exhausted cooldown

theorem of_effect (effect : Effect scope p q) : GateChange scope p.toGateState q.toGateState := by
  cases effect with
  | pending pending => exact .same rfl
  | speedEnded => exact .same (by simp)
  | speedChanged speed nonneg counts => exact .same (by simp)
  | spedUp clientId gestureId playing plain source => exact .same (by simp)
  | speedReset plain still => exact .same (by simp)
  | played cause =>
      have gate := (Playback.play_frame p scope.now).2.2.1
      cases held : p.bufferGate with
      | none =>
          refine .kept ?_ ?_ ?_ <;> rw [gate] <;> simp [GateState.continued, held]
      | some hold =>
          refine .continued ?_ ?_ ?_ <;> rw [gate] <;> simp [GateState.continued, held]
  | released timedOut audience due =>
      rcases Playback.releaseBufferGate_cases p scope.now timedOut audience with
        ⟨_, same⟩ | ⟨gate, _, same | ⟨_, _, _, same⟩⟩
      · exact .same (by rw [same])
      · rw [same]
        refine .of_released timedOut (if timedOut && decide (audience.realusers.length = 1) then
          gate.waitingOn else []) ?_ ?_ ?_ ?_
        · intro early
          simp [early]
        · simp [GateState.released]
        · simp [GateState.released]
        · simp [GateState.released]
      · rw [same]
        refine .of_released timedOut (if timedOut && decide (audience.realusers.length = 1) then
          gate.waitingOn else []) ?_ ?_ ?_ ?_
        · intro early
          simp [early]
        · simp [GateState.released, GateState.continued]
        · simp [GateState.released]
        · simp [GateState.released, GateState.continued]
  | waited gate waitingOn held armed => exact .waiting waitingOn rfl armed rfl rfl
  | engaged waitingOn free playing plain noRound source settled cool armed =>
      exact .engaged waitingOn (by simp) armed cool (by simp) (by simp)
  | recovered clientId => exact .recovered clientId (by simp) (by simp) (by simp)
  | paused =>
      refine .kept ?_ ?_ ?_
      · simp [GateState.opened]
      · simp [GateState.opened]
      · simp [GateState.opened]
  | stopped => exact .same (by simp)
  | sourceTaken item position => exact .of_sourceSet (Playback.takeSource_frame p _ _ _).2.2.1
  | sourceLeft item position counts =>
      exact .of_sourceSet (Playback.takeSource_frame (p.countWatched scope.now) _ _ _).2.2.1
  | sourceEnded cause counts =>
      exact .of_sourceSet (Playback.clearSource_frame (p.countWatched scope.now) scope.now).2.2.2.1
  | sourceDropped cause =>
      exact .of_sourceSet (Playback.assignCurrentSource_frame p scope.now none).2.2.1
  | sourceRetimed source startAt current => exact .same rfl
  | handedOver restored playing => exact .same rfl
  | clockHeld cause free => exact .same (by simp)
  | prepared audience fresh =>
      rcases Playback.prepareEmptyRoomPlayback_cases p scope.now scope.uuid audience with
        same | ⟨source, leader, others, _, _, _, _, _, _, _, same⟩
      · exact .same (by rw [same])
      · exact .same (by rw [same]; rfl)
  | roundEdited before after present edit => exact .same (by simp)
  | scheduled before fallback startAt present unscheduled later soon => exact .same (by simp)
  | started onTime =>
      rcases Playback.startPreparedPlayback_cases p scope.now with
        same | ⟨round, startAt, _, _, _, _, _, gate, _, _⟩
      · exact .same (by rw [same])
      · exact .same gate
  | cancelled => exact .same (by simp)
  | sought value counts => exact .same (by simp)
  | emptied audience nobody =>
      obtain ⟨_, _, gate, _, _⟩ := Playback.emptyRoom_frame p scope.now audience nobody
      split at gate
      · refine .of_released false [] (fun _ => rfl) ?_ ?_ ?_
        · rw [gate]
          rfl
        · rw [gate]
          rfl
        · rw [gate]
          rfl
      · exact .same gate
  | intentKept round => exact .same (by simp)
  | heldForJoin skipForReconnect audience =>
      rcases Playback.holdEmptyPlaybackForJoin_cases p scope.now skipForReconnect audience with
        same | ⟨_, _, _, gate, _, _⟩
      · exact .same (by rw [same])
      · exact .kept (by rw [gate]; rfl) (by rw [gate]; rfl) (by rw [gate]; rfl)

end GateChange

namespace GateState

/-- The trace explains the gate: who is exhausted, when the cooldown ends, and that both
were respected. -/
structure Explained (now : Int) (gate : GateState) : Prop where
  exhausted : ∀ id, id ∈ gate.bufferGateExhausted ↔ Exhausted id gate.gateTrace
  neverRewaits : NeverRewaits gate.gateTrace
  past : ∀ event ∈ gate.gateTrace, ∀ begun, event.coolsFrom = some begun → begun ≤ now
  cooled : ∀ event ∈ gate.gateTrace, ∀ begun, event.coolsFrom = some begun →
    ∃ ends, gate.bufferGateCooldownUntil = some ends ∧ begun + BUFFER_GATE_COOLDOWN_MS ≤ ends
  spaced : gate.gateTrace.Pairwise GateEvent.Spaced

variable {scope : Scope} {now later : Int} {p q : GateState}

/-- The trace of a new room has nothing to explain. -/
theorem Explained.of_untouched {p : Playback} (fresh : Room.Untouched p) :
    p.Explained now := by
  have idle : ∀ event ∈ p.gateTrace, event.coolsFrom = none := by
    intro event member
    obtain ⟨source, rfl⟩ := fresh.traced event member
    rfl
  have rearmed : ∀ id, ∀ trace : List GateEvent, (∀ event ∈ trace, ∃ source,
      event = .sourceSet source) → ¬ Exhausted id trace ∧ NeverRewaits trace := by
    intro id trace sources
    induction trace with
    | nil => exact ⟨not_false, trivial⟩
    | cons event rest ih =>
        obtain ⟨source, rfl⟩ := sources event List.mem_cons_self
        obtain ⟨_, never⟩ := ih fun other member =>
          sources other (List.mem_cons_of_mem _ member)
        refine ⟨?_, ?_, never⟩
        · rintro (gaveUp | ⟨armed, _⟩)
          · cases gaveUp
          · exact armed trivial
        · intro other waited
          cases waited
  refine ⟨?_, (rearmed "" _ fresh.traced).2, ?_, ?_, ?_⟩
  · intro id
    rw [fresh.armed]
    exact iff_of_false List.not_mem_nil (rearmed id _ fresh.traced).1
  · intro event member begun cools
    rw [idle event member] at cools
    cases cools
  · intro event member begun cools
    rw [idle event member] at cools
    cases cools
  · refine List.pairwise_of_forall_mem_list ?_
    intro newer _ older member time waitingOn begun _ cools
    rw [idle older member] at cools
    cases cools

/-- Time may pass. -/
theorem Explained.mono (explained : p.Explained now) (forward : now ≤ later) :
    p.Explained later := by
  refine ⟨explained.exhausted, explained.neverRewaits, ?_, explained.cooled, explained.spaced⟩
  intro event member begun cools
  have before := explained.past event member begun cools
  omega

/-- One more event, with what it does to the exhausted viewers and to the cooldown. -/
theorem Explained.cons (explained : p.Explained now) (event : GateEvent)
    (trace : q.gateTrace = event :: p.gateTrace)
    (exhausted : ∀ id, id ∈ q.bufferGateExhausted ↔
      id ∈ event.givesUpOn ∨ ¬ event.Rearms id ∧ id ∈ p.bufferGateExhausted)
    (armed : ∀ id ∈ event.waitsFor, id ∉ p.bufferGateExhausted)
    (cooldown : event.coolsFrom = none ∧ q.bufferGateCooldownUntil = p.bufferGateCooldownUntil ∨
      event.coolsFrom = some now ∧
        q.bufferGateCooldownUntil = some (now + BUFFER_GATE_COOLDOWN_MS))
    (cool : ∀ time waitingOn, event = .engaged time waitingOn →
      time = now ∧ p.inGateCooldown now = false) : q.Explained now := by
  refine ⟨?_, ?_, ?_, ?_, ?_⟩
  · intro id
    rw [exhausted, trace, explained.exhausted]
    rfl
  · rw [trace]
    refine ⟨?_, explained.neverRewaits⟩
    intro id waited
    rw [← explained.exhausted]
    exact armed id waited
  · rw [trace]
    intro other member begun cools
    rcases List.mem_cons.mp member with rfl | older
    · rcases cooldown with ⟨never, _⟩ | ⟨since, _⟩
      · rw [never] at cools
        cases cools
      · rw [since] at cools
        cases cools
        exact le_rfl
    · exact explained.past other older begun cools
  · rw [trace]
    intro other member begun cools
    rcases cooldown with ⟨never, kept⟩ | ⟨since, set⟩
    · rcases List.mem_cons.mp member with rfl | older
      · rw [never] at cools
        cases cools
      · rw [kept]
        exact explained.cooled other older begun cools
    · refine ⟨_, set, ?_⟩
      rcases List.mem_cons.mp member with rfl | older
      · rw [since] at cools
        cases cools
        exact le_rfl
      · have before := explained.past other older begun cools
        omega
  · rw [trace, List.pairwise_cons]
    refine ⟨?_, explained.spaced⟩
    intro older member time waitingOn begun engages cools
    obtain ⟨rfl, ended⟩ := cool time waitingOn engages
    obtain ⟨ends, set, bound⟩ := explained.cooled older member begun cools
    simp only [inGateCooldown, set, Option.any_some, decide_eq_false_iff_not] at ended
    omega

theorem Explained.change (change : GateChange scope p q) (explained : p.Explained scope.now) :
    q.Explained scope.now := by
  cases change with
  | kept trace exhausted cooldown =>
      refine ⟨?_, ?_, ?_, ?_, ?_⟩
      · rw [trace, exhausted]
        exact explained.exhausted
      · rw [trace]
        exact explained.neverRewaits
      · rw [trace]
        exact explained.past
      · rw [trace, cooldown]
        exact explained.cooled
      · rw [trace]
        exact explained.spaced
  | sourceSet source trace exhausted cooldown =>
      refine explained.cons _ trace ?_ ?_ (Or.inl ⟨rfl, cooldown⟩) ?_
      · intro id
        simp [exhausted, GateEvent.givesUpOn, GateEvent.Rearms]
      · simp [GateEvent.waitsFor]
      · simp
  | continued trace exhausted cooldown =>
      refine explained.cons _ trace ?_ ?_ (Or.inr ⟨rfl, cooldown⟩) ?_
      · intro id
        simp [exhausted, GateEvent.givesUpOn, GateEvent.Rearms]
      · simp [GateEvent.waitsFor]
      · simp
  | timedOut viewers trace exhausted cooldown =>
      refine explained.cons _ trace ?_ ?_ (Or.inr ⟨rfl, cooldown⟩) ?_
      · intro id
        simp [exhausted, GateEvent.givesUpOn, GateEvent.Rearms, or_comm]
      · simp [GateEvent.waitsFor]
      · simp
  | released trace exhausted cooldown =>
      refine explained.cons _ trace ?_ ?_ (Or.inl ⟨rfl, cooldown⟩) ?_
      · intro id
        simp [exhausted, GateEvent.givesUpOn, GateEvent.Rearms]
      · simp [GateEvent.waitsFor]
      · simp
  | waiting waitingOn trace armed exhausted cooldown =>
      refine explained.cons _ trace ?_ armed (Or.inl ⟨rfl, cooldown⟩) ?_
      · intro id
        simp [exhausted, GateEvent.givesUpOn, GateEvent.Rearms]
      · simp
  | engaged waitingOn trace armed cool exhausted cooldown =>
      refine explained.cons _ trace ?_ armed (Or.inl ⟨rfl, cooldown⟩) ?_
      · intro id
        simp [exhausted, GateEvent.givesUpOn, GateEvent.Rearms]
      · intro time viewers same
        cases same
        exact ⟨rfl, cool⟩
  | recovered clientId trace exhausted cooldown =>
      refine explained.cons _ trace ?_ ?_ (Or.inl ⟨rfl, cooldown⟩) ?_
      · intro id
        rw [exhausted, OrderedSet.mem_remove]
        simp only [GateEvent.givesUpOn, GateEvent.Rearms, List.not_mem_nil, false_or]
        constructor
        · rintro ⟨inside, other⟩
          exact ⟨fun same => other same.symm, inside⟩
        · rintro ⟨other, inside⟩
          exact ⟨inside, fun same => other same.symm⟩
      · simp [GateEvent.waitsFor]
      · simp

end GateState

/-- A viewer who was given up on is exhausted until something re-arms them. -/
theorem exhausted_of_release {id : ClientId} {release : GateEvent} {between older : List GateEvent}
    (gaveUp : id ∈ release.givesUpOn) (still : ∀ event ∈ between, ¬ event.Rearms id) :
    Exhausted id (between ++ release :: older) := by
  induction between with
  | nil => exact Or.inl gaveUp
  | cons event rest ih =>
      refine Or.inr ⟨still event List.mem_cons_self, ?_⟩
      exact ih fun other member => still other (List.mem_cons_of_mem _ member)

/-- A suffix of a trace that never waits again does not either. -/
theorem NeverRewaits.suffix {newer older : List GateEvent} (never : NeverRewaits (newer ++ older)) :
    NeverRewaits older := by
  induction newer with
  | nil => exact never
  | cons event rest ih => exact ih never.2

namespace RoomState

/-- The runs in which the clock does not go back. -/
def forward : TransitionSystem RoomState RoomLabel :=
  roomSystem.restrict fun state label => state.clock ≤ label.env.now

/-- The trace explains the gate in every state such a run reaches. -/
theorem explained {state : RoomState} (reachable : forward.Reachable state) :
    state.room.Explained state.clock := by
  have invariant : forward.Inductive fun state => state.room.Explained state.clock := by
    refine ⟨?_, ?_⟩
    · intro state valid
      exact .of_untouched (RoomState.Initial.untouched valid)
    · intro before label after current step
      have effects := step_effects step.2
      obtain ⟨later, _, _, rfl⟩ := step
      have clock : max before.clock label.env.now = label.env.now := by omega
      change (label.action.apply label.env before.room).Explained (max before.clock label.env.now)
      rw [clock]
      exact effects.preserves (fun p => p.Explained label.env.now)
        (fun _ _ effect => GateState.Explained.change (.of_effect effect)) (current.mono later)
  exact invariant.of_reachable reachable

/-- A gate whose wait has run out opens at the next evaluation. -/
theorem evaluateBufferGate_opens {room : Room} {gate : BufferGate} {now : Int}
    (held : room.bufferGate = some gate) (due : gate.startedAt + 15000 ≤ now) :
    (room.evaluateBufferGate now).bufferGate = none := by
  have expired : room.gateExpired now = true := by
    simp only [GateState.gateExpired, held, Option.any_some, decide_eq_true_eq]
    unfold BUFFER_GATE_MAX_WAIT_MS
    omega
  change (Playback.evaluateBufferGate _ _ now room.toPlayback).bufferGate = none
  unfold Playback.evaluateBufferGate
  rw [if_pos expired]
  exact (Playback.releaseBufferGate_frame room.toPlayback true room.toAudience now).1

end RoomState

namespace Sample

/-- A tick. -/
def tick (now : Int) : RoomLabel := ⟨env now "first", .update⟩

/-- A sole viewer buffers for good while a video plays, until the wait runs out. -/
def bufferForGood : List RoomLabel :=
  [⟨env 1 "first", .request (.join { id := "viewer", username := some "v" } false) viewer⟩,
    ⟨env 2 "first", .request (.playNow { service := .youtube, id := "video" }) viewer⟩,
    ⟨env 5000 "first", .request (.updateUser { id := "viewer", status := some .buffering } none)
      viewer⟩,
    tick 20000]

/-- The room of a DJ, which plays its item again. -/
def dj : RoomState := ⟨Room.new { queueMode := some .dj } 0, 0⟩

/-- The item ends and starts again, and the gate closes once more. -/
def rewaited : RoomState := dj.run (bufferForGood ++ [tick 120000, tick 125000])

end Sample

namespace RoomState

end RoomState

end OpenTogetherTube
