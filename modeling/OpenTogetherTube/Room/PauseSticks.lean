import OpenTogetherTube.Room.Rounds

/-!
# A pause sticks

A room in which nothing waits to play stays paused until a request to play, to play an
item now, to skip or to undo. The step lemma says that no other action commands playback
in such a room; the effects of a step that commands nothing keep it quiet.
-/

namespace OpenTogetherTube

open Lib Lib.Handler

namespace Playback

/-- Nothing plays and nothing waits to play: no gate, no round, no intent to resume, and
either a current source or the mark of a room restored from storage, so that the next tick
starts nothing. -/
structure Quiet (p : Playback) : Prop where
  paused : p.isPlaying = false
  noGate : p.bufferGate = none
  noRound : p.playbackPreparation = none
  noIntent : p.resumeOnNextJoin = false
  settled : p.currentSource.isSome = true ∨ p.restoredFromStorage = true

variable {scope : Scope} {p q : Playback}

/-- A change of the clock and of the source that starts nothing. -/
theorem Quiet.keep (quiet : p.Quiet) (paused : p.isPlaying = false → q.isPlaying = false)
    (gate : p.bufferGate = none → q.bufferGate = none)
    (held : q.toHeldStart = p.toHeldStart ∨ q.toHeldStart = p.toHeldStart.dropped)
    (source : p.currentSource.isSome = true → q.currentSource.isSome = true)
    (restored : q.restoredFromStorage = p.restoredFromStorage) : q.Quiet := by
  refine ⟨paused quiet.paused, gate quiet.noGate, ?_, ?_, ?_⟩
  · rcases held with same | dropped
    · rw [same]
      exact quiet.noRound
    · rw [dropped]
      rfl
  · rcases held with same | dropped
    · rw [same]
      exact quiet.noIntent
    · rw [dropped]
      rfl
  · rcases quiet.settled with present | marked
    · exact Or.inl (source present)
    · exact Or.inr (restored.trans marked)

/-- Without a command every effect keeps a quiet room quiet. -/
theorem Quiet.effect (uncommanded : ¬ scope.commanded) (effect : Effect scope p q)
    (quiet : p.Quiet) : q.Quiet := by
  have notPlaying : ¬ p.isPlaying = true := by simp [quiet.paused]
  have notHeld : ¬ p.bufferingGateHeld = true := by
    simp [GateState.bufferingGateHeld, quiet.noGate]
  cases effect with
  | pending pending => exact quiet.keep id id (Or.inl rfl) id rfl
  | speedEnded => exact quiet.keep (by simp) (by simp) (Or.inl (by simp)) (by simp) (by simp)
  | speedChanged speed nonneg counts =>
      exact quiet.keep (by simp) (by simp) (Or.inl (by simp)) (by simp) (by simp)
  | spedUp clientId gestureId playing plain source => exact absurd playing notPlaying
  | speedReset plain still => exact quiet.keep (by simp) (by simp) (Or.inl (by simp)) (by simp) (by simp)
  | played cause =>
      rcases cause with commanded | intent
      · exact absurd commanded uncommanded
      · rw [quiet.noIntent] at intent
        cases intent
  | released timedOut audience due =>
      rw [releaseBufferGate_of_free p timedOut audience scope.now quiet.noGate]
      exact quiet
  | waited gate waitingOn held armed =>
      rw [quiet.noGate] at held
      cases held
  | engaged waitingOn free playing plain noRound source settled cool armed =>
      exact absurd playing notPlaying
  | recovered clientId => exact quiet.keep (by simp) (by simp) (Or.inl (by simp)) (by simp) (by simp)
  | paused =>
      exact quiet.keep (by simp) (by simp [GateState.opened]) (Or.inr (by simp)) (by simp)
        (by simp)
  | stopped => exact quiet.keep (by simp) (by simp) (Or.inl (by simp)) (by simp) (by simp)
  | sourceTaken item position =>
      exact quiet.keep (by simp) (by simp [GateState.sourceSet]) (Or.inr (by simp)) (by simp)
        (by simp)
  | sourceLeft item position counts =>
      exact quiet.keep (by simp) (by simp [GateState.sourceSet]) (Or.inr (by simp)) (by simp)
        (by simp)
  | sourceEnded cause counts => exact absurd cause uncommanded
  | sourceDropped cause => exact absurd cause uncommanded
  | sourceRetimed source startAt current =>
      exact quiet.keep id id (Or.inl rfl) (fun _ => rfl) rfl
  | handedOver restored playing => exact quiet.keep id id (Or.inl rfl) id rfl
  | clockHeld cause free => exact absurd cause uncommanded
  | prepared audience fresh =>
      rcases prepareEmptyRoomPlayback_cases p scope.now scope.uuid audience with
        same | ⟨source, leader, others, _, _, resumes, _, _, _, _, _⟩
      · rw [same]
        exact quiet
      · rw [quiet.noIntent] at resumes
        cases resumes
  | roundEdited before after present edit =>
      rw [quiet.noRound] at present
      cases present
  | scheduled before fallback startAt present unscheduled later soon =>
      rw [quiet.noRound] at present
      cases present
  | started onTime =>
      rcases startPreparedPlayback_cases p scope.now with
        same | ⟨round, startAt, present, _, _, _, _, _, _, _⟩
      · rw [same]
        exact quiet
      · rw [quiet.noRound] at present
        cases present
  | cancelled => exact quiet.keep (by simp) (by simp) (Or.inr (by simp)) (by simp) (by simp)
  | sought value counts => exact quiet.keep (by simp) (by simp) (Or.inr (by simp)) (by simp) (by simp)
  | emptied audience nobody =>
      obtain ⟨clock, ⟨resume, held, why⟩, gate, source, restored⟩ :=
        emptyRoom_frame p scope.now audience nobody
      have still : resume = false := by
        cases resume with
        | false => rfl
        | true =>
            rcases why rfl with playing | gated | round | intent
            · exact absurd playing notPlaying
            · exact absurd gated notHeld
            · rw [quiet.noRound] at round
              cases round
            · rw [quiet.noIntent] at intent
              cases intent
      refine quiet.keep ?_ ?_ (Or.inr ?_) (by rw [source]; exact id) restored
      · intro _
        rw [clock]
        simp
      · intro free
        rw [gate, free]
        exact free
      · rw [held, still]
        rfl
  | intentKept round =>
      rw [quiet.noRound] at round
      cases round
  | heldForJoin skipForReconnect audience =>
      rcases holdEmptyPlaybackForJoin_cases p scope.now skipForReconnect audience with
        same | ⟨playing | gated, _, _, _, _, _⟩
      · rw [same]
        exact quiet
      · exact absurd playing notPlaying
      · exact absurd gated notHeld

end Playback

/-- The actions that may end a pause. -/
def RoomAction.commands : RoomAction → Bool
  | .request asked _ => asked.commands
  | _ => false

namespace RoomState

/-- In a quiet room no other action commands playback; in particular the tick has no item
to move on to, or hands it over paused. -/
theorem commands_of_quiet {env : Env} {action : RoomAction} {room : Room}
    (quiet : room.Quiet) (other : action.commands = false) : ¬ action.Commands env room := by
  intro commanded
  cases action with
  | request asked context =>
      change asked.commands = true at commanded
      rw [show asked.commands = false from other] at commanded
      cases commanded
  | update =>
      obtain ⟨wanted, notPaused⟩ := commanded
      have settled : (room.settlePlayback env).Quiet :=
        (Room.settlePlayback_related env room (Or.inr trivial) : Room.Related (env.scope False False) _ _).preserves
          Playback.Quiet (fun _ _ => Playback.Quiet.effect id) quiet
      unfold Room.wantsNext at wanted
      rw [Bool.or_eq_true, Bool.and_eq_true] at wanted
      rcases wanted with ⟨idle, _⟩ | ended
      · rw [Option.isNone_iff_eq_none] at idle
        rcases settled.settled with present | marked
        · rw [idle] at present
          cases present
        · exact notPaused ⟨marked, idle, settled.noGate⟩
      · unfold Playback.currentEnded at ended
        rw [settled.paused] at ended
        split at ended
        · cases ended
        · cases ended
  | _ => exact commanded

theorem quiet_steps {start state : RoomState} (quiet : start.room.Quiet)
    (run : (roomSystem.restrict fun _ label => label.action.commands = false).Steps start state) :
    state.room.Quiet := by
  refine TransitionSystem.Steps.relates (fun state => state.room.Quiet) quiet ?_ run
  intro before label after _ current step
  exact (step_effects step.2).preserves Playback.Quiet
    (fun _ _ => Playback.Quiet.effect (commands_of_quiet current step.1)) current

/-- A room rebuilt from its database row waits for nothing. -/
theorem quiet_of_restored (options : RoomOptions) (now : Int) (idle : options.isPlaying = none)
    (still : options.resumeOnNextJoin = false) :
    ((Room.new options now).restoreFromStorage).Quiet := by
  have waits : (Room.new options now).isPlaying = false ∧
      (Room.new options now).resumeOnNextJoin = false := by
    refine Room.new_preserves (fun p => p.isPlaying = false ∧ p.resumeOnNextJoin = false) options
      now ⟨rfl, rfl⟩ ?_ ?_ ?_ ?_ ?_ ?_ ?_ ?_
    · intro p pending quiet
      exact quiet
    · intro p value quiet
      simp [quiet.1, HeldStart.dropped]
    · intro p value quiet
      exact quiet
    · intro p value given
      rw [idle] at given
      cases given
    · intro p value quiet
      exact quiet
    · intro p quiet
      exact ⟨quiet.1, still⟩
    · intro p quiet
      exact quiet
    · intro p quiet
      exact quiet
  have untouched := Room.new_untouched options now
  exact ⟨waits.1, untouched.noGate, untouched.noRound, waits.2, Or.inr rfl⟩

theorem quiet_of_paused {room : Room} {env : Env} {context : RoomRequestContext}
    (granted : room.grants.granted context.role .playPause = true)
    (source : room.currentSource.isSome = true) :
    ((Room.processRequest env (.playback false) context).after room).Quiet := by
  have checked : (Room.checkSome context.role
      (Room.requestPermission (RoomRequest.playback false).type)).outcome room = .ok () := by
    change (Room.check context.role .playPause).outcome room = .ok ()
    unfold Room.check
    rw [outcome_get_bind, if_pos granted]
    rfl
  have paused : ((Room.processRequest env (.playback false) context).after room).toPlayback =
      room.toPlayback.pause false env.now := by
    unfold Room.processRequest
    rw [after_bind, checked, Room.checkSome_after]
    dsimp only
    change ((Room.playback env false context).after room).toPlayback = _
    unfold Room.playback
    rw [after_modify_bind, after_modify, Room.publishRoomEvent_toPlayback]
    rfl
  rw [paused]
  refine ⟨by simp, by simp [GateState.opened], by simp [HeldStart.dropped],
    by simp [HeldStart.dropped], Or.inl ?_⟩
  simpa using source

/-- The states a pause sticks from: a room with a source in which nothing waits to play,
in particular one that was just paused, and a room rebuilt from its database row. -/
inductive Paused : RoomState → Prop
  | quiet (state : RoomState) (paused : state.room.isPlaying = false)
      (noGate : state.room.bufferGate = none) (noRound : state.room.playbackPreparation = none)
      (noIntent : state.room.resumeOnNextJoin = false) (source : state.room.currentSource ≠ none) :
      Paused state
  | requested (state : RoomState) (env : Env) (context : RoomRequestContext)
      (granted : state.room.grants.granted context.role .playPause = true)
      (source : state.room.currentSource ≠ none) :
      Paused (state.next ⟨env, .request (.playback false) context⟩)
  | restored (options : RoomOptions) (now : Int) (idle : options.isPlaying = none)
      (still : options.resumeOnNextJoin = false) :
      Paused ⟨(Room.new options now).restoreFromStorage, now⟩

/-- A pause sticks: in every run without a request to play, to play an item now, to skip
or to undo, the room stays paused and creates no round. -/
theorem pause_sticks {start state : RoomState} (paused : Paused start)
    (run : (roomSystem.restrict fun _ label => label.action.commands = false).Steps start state) :
    state.room.isPlaying = false ∧ state.room.playbackPreparation = none := by
  have begins : start.room.Quiet := by
    cases paused with
    | quiet _ still noGate noRound noIntent source =>
        exact ⟨still, noGate, noRound, noIntent, Or.inl (Option.isSome_iff_ne_none.mpr source)⟩
    | requested state env context granted source =>
        exact quiet_of_paused granted (Option.isSome_iff_ne_none.mpr source)
    | restored options now idle still => exact quiet_of_restored options now idle still
  have quiet := quiet_steps begins run
  exact ⟨quiet.paused, quiet.noRound⟩

end RoomState

namespace Sample

/-- A room rebuilt from its database row with a queue. -/
def library : RoomState :=
  ⟨(Room.new { prevQueue := some (some [{ service := .direct, id := "video", length := some 100 }]) }
    0).restoreFromStorage, 0⟩

/-- Its first tick and its first viewer. -/
def tickAndJoin : List RoomLabel :=
  [⟨env 1 "first", .update⟩,
    ⟨env 2 "first", .request (.join { id := "viewer", username := some "v" } false) viewer⟩]

end Sample

/-- The first tick makes the queued item current, and the room stays paused. -/
theorem RoomState.pause_sticks_library :
    (Sample.library.run Sample.tickAndJoin).room.currentSource.isSome = true ∧
      (Sample.library.run Sample.tickAndJoin).room.isPlaying = false := by
  have possible : RoomState.runs (fun _ label => label.action.commands = false) Sample.tickAndJoin
      Sample.library = true := by
    decide +kernel
  have run := RoomState.steps_run _ _ _ possible
  have source : (Sample.library.run Sample.tickAndJoin).room.currentSource.isSome = true := by
    decide +kernel
  exact ⟨source, (RoomState.pause_sticks (.restored _ 0 rfl rfl) run).1⟩

end OpenTogetherTube
