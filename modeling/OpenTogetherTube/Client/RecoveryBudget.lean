import Mathlib.Data.List.Count
import OpenTogetherTube.Client.MediaRecovery

/-!
# The budget of a recovery

Every error passes through `handleError`, whichever callback brings it. So a single case
analysis says what an error can lead to, and the restarts that are made or scheduled stay
within the attempts that are counted. A controller that has failed or is disposed has no
timer left.
-/

namespace OpenTogetherTube.MediaRecovery

/-- The automatic restarts for errors of a type so far. -/
def automaticRestarts (recovery : MediaRecovery) (type : MediaErrorType) : Nat :=
  recovery.called.countP fun
    | .restart error false => error.type = type
    | _ => false

/-- The attempts that are counted for errors of a type. -/
def attempts (recovery : MediaRecovery) : MediaErrorType → Nat
  | .network => recovery.networkAttempts
  | .decode => recovery.decodeAttempts
  | _ => 0

/-- The automatic restarts that a source gets for errors of a type. -/
def restartLimit : MediaErrorType → Nat
  | .network => 3
  | .decode => 1
  | _ => 0

/-- The restart that is scheduled, when it is for errors of the type. -/
def upcoming (recovery : MediaRecovery) (type : MediaErrorType) : Nat :=
  if recovery.phase = .scheduled ∧ recovery.lastError.type = type then 1 else 0

variable {page : PlayerPage} {recovery after : MediaRecovery} {error : MediaPlayerError}

/-- The parts of a controller that decide about attempts, left alone. -/
structure Keeps (before after : MediaRecovery) : Prop where
  phase : after.phase = before.phase
  timer : after.timer = before.timer
  networkAttempts : after.networkAttempts = before.networkAttempts
  decodeAttempts : after.decodeAttempts = before.decodeAttempts
  lastError : after.lastError = before.lastError
  called : after.called = before.called

theorem Keeps.refl (recovery : MediaRecovery) : Keeps recovery recovery :=
  ⟨rfl, rfl, rfl, rfl, rfl, rfl⟩

theorem Keeps.attempts (keeps : Keeps recovery after) (type : MediaErrorType) :
    after.attempts type = recovery.attempts type := by
  cases type <;> simp [MediaRecovery.attempts, keeps.networkAttempts, keeps.decodeAttempts]

theorem Keeps.automaticRestarts (keeps : Keeps recovery after) (type : MediaErrorType) :
    after.automaticRestarts type = recovery.automaticRestarts type := by
  rw [MediaRecovery.automaticRestarts, keeps.called, MediaRecovery.automaticRestarts]

theorem Keeps.upcoming (keeps : Keeps recovery after) (type : MediaErrorType) :
    after.upcoming type = recovery.upcoming type := by
  simp only [MediaRecovery.upcoming, keeps.phase, keeps.lastError]

theorem capture_keeps : Keeps recovery (recovery.capture page) := by
  unfold capture
  split
  · exact .refl recovery
  · exact ⟨rfl, rfl, rfl, rfl, rfl, rfl⟩

theorem seek_keeps (recovery : MediaRecovery) (media : MediaElement) (position : ℚ) :
    Keeps recovery (recovery.seek media position).1 := by
  unfold seek
  split_ifs <;> exact ⟨rfl, rfl, rfl, rfl, rfl, rfl⟩

theorem seekReady_keeps (recovery : MediaRecovery) (media : MediaElement) :
    Keeps recovery (recovery.seekReady media).1 := by
  unfold seekReady
  split
  · exact .refl recovery
  · split
    · exact .refl recovery
    · split <;> exact ⟨rfl, rfl, rfl, rfl, rfl, rfl⟩

theorem seekRestored_keeps (recovery : MediaRecovery) (media : MediaElement)
    (snapshot : PlaybackSnapshot) :
    Keeps recovery (recovery.seekRestored media snapshot).1 := by
  unfold seekRestored
  dsimp only
  split
  · exact seek_keeps recovery media _
  · exact .refl recovery

theorem restoreMetadata_keeps (page : PlayerPage) (recovery : MediaRecovery) :
    Keeps recovery (recovery.restoreMetadata page).1 := by
  unfold restoreMetadata
  split
  · exact .refl recovery
  · next media _ =>
      split
      · exact .refl recovery
      · split
        · exact .refl recovery
        · next snapshot _ =>
            have kept := seekRestored_keeps recovery media snapshot
            split
            · next sought equal => rwa [equal] at kept
            · next sought held equal =>
                rw [equal] at kept
                split <;> exact kept

theorem setPosition_keeps (position : Lib.Number) :
    Keeps recovery (recovery.setPosition page position) := by
  unfold setPosition
  split
  · next position =>
      split
      · exact .refl recovery
      · split
        · exact ⟨rfl, rfl, rfl, rfl, rfl, rfl⟩
        · next media _ _ => exact seek_keeps recovery media position
        · exact .refl recovery
  · exact .refl recovery

theorem startStallWatch_keeps (page : PlayerPage) (recovery : MediaRecovery) :
    Keeps recovery (recovery.startStallWatch page) := by
  unfold startStallWatch
  split
  · exact .refl recovery
  · split <;> exact ⟨rfl, rfl, rfl, rfl, rfl, rfl⟩

theorem Keeps.trans {middle : MediaRecovery} (first : Keeps recovery middle)
    (second : Keeps middle after) : Keeps recovery after where
  phase := second.phase.trans first.phase
  timer := second.timer.trans first.timer
  networkAttempts := second.networkAttempts.trans first.networkAttempts
  decodeAttempts := second.decodeAttempts.trans first.decodeAttempts
  lastError := second.lastError.trans first.lastError
  called := second.called.trans first.called

/-- `canPlay` keeps everything, or ends an attempt. -/
theorem canPlay_cases (page : PlayerPage) (recovery : MediaRecovery) :
    Keeps recovery (recovery.canPlay page).1 ∨
      recovery.phase ∉ [.scheduled, .failed, .disposed] ∧
        Keeps { recovery with phase := .ready, timer := none } (recovery.canPlay page).1 := by
  unfold canPlay
  split
  · exact .inl (.refl recovery)
  · next open_ =>
      have kept := restoreMetadata_keeps page recovery
      split
      · next restored _ equal => exact .inl (by rwa [equal] at kept)
      · next restored equal => exact .inl (by rwa [equal] at kept)
      · next restored media equal =>
          rw [equal] at kept
          have held := kept.trans (seekReady_keeps restored media)
          split
          · next ready equal => exact .inl (by rwa [equal] at held)
          · next ready equal =>
              rw [equal] at held
              refine .inr ⟨fun listed => open_ (.inl listed), ?_⟩
              have started := startStallWatch_keeps { page with media := some media }
                { ready with snapshot := none, phase := .ready }.clearTimer
              exact
                { phase := started.phase
                  timer := started.timer
                  networkAttempts := started.networkAttempts.trans held.networkAttempts
                  decodeAttempts := started.decodeAttempts.trans held.decodeAttempts
                  lastError := started.lastError.trans held.lastError
                  called := started.called.trans held.called }

/-- The controller has failed, with no restart on the way. -/
structure Fails (before after : MediaRecovery) : Prop where
  phase : after.phase = .failed
  timer : after.timer = none
  attempts : ∀ type, before.attempts type ≤ after.attempts type
  automaticRestarts : ∀ type, after.automaticRestarts type = before.automaticRestarts type

/-- One more attempt is counted and scheduled, with no restart yet. -/
structure Schedules (before : MediaRecovery) (error : MediaPlayerError) (after : MediaRecovery) :
    Prop where
  phase : after.phase = .scheduled
  timer : ∃ delay, after.timer = some (.retry delay)
  lastError : after.lastError = error
  attempts : ∀ type,
    after.attempts type = before.attempts type + if error.type = type then 1 else 0
  automaticRestarts : ∀ type, after.automaticRestarts type = before.automaticRestarts type

/-- What an error can lead to. -/
inductive Handled (before : MediaRecovery) (error : MediaPlayerError) (after : MediaRecovery) :
    Prop where
  | ignored (closed : before.phase = .disposed ∨ before.phase = .failed) (same : after = before)
  | repeated (retries : error.retries = true) (scheduled : before.phase = .scheduled)
      (keeps : Keeps before after)
  | failed (ends : error.retries = false ∨
        before.phase ≠ .scheduled ∧ restartLimit error.type ≤ before.attempts error.type)
      (fails : Fails before after)
  | scheduled (retries : error.retries = true)
      (left_ : before.attempts error.type < restartLimit error.type)
      (schedules : Schedules before error after)

theorem automaticRestarts_call (recovery : MediaRecovery) {callback : RecoveryCallback}
    (other : ∀ error, callback ≠ .restart error false) (type : MediaErrorType) :
    (recovery.call callback).automaticRestarts type = recovery.automaticRestarts type := by
  rw [automaticRestarts, call, List.countP_append, automaticRestarts]
  cases callback with
  | restart error manual =>
      cases manual with
      | false => exact absurd rfl (other error)
      | true => rfl
  | onRecovering => rfl
  | onError error => rfl
  | onStallSkip skipped => rfl

theorem fail_fails {before : MediaRecovery}
    (attempts : ∀ type, before.attempts type ≤ recovery.attempts type)
    (called : recovery.called = before.called) : Fails before (recovery.fail error) where
  phase := rfl
  timer := rfl
  attempts := attempts
  automaticRestarts type := by
    rw [fail, automaticRestarts_call _ (by simp)]
    simp only [automaticRestarts, stopStallWatch, clearTimer, called]

theorem network_or_decode (retries : error.retries = true) :
    error.type = .network ∨ error.type = .decode := by
  simp only [MediaPlayerError.retries, Bool.and_eq_true, decide_eq_true_eq] at retries
  simpa using retries.2

/-- An attempt is counted whether or not it has a delay, and has one below the limit. -/
theorem nextAttempt_spec (recovery : MediaRecovery) {type : MediaErrorType}
    (retried : type = .network ∨ type = .decode) :
    ((recovery.nextAttempt type).1.isSome ↔ recovery.attempts type < restartLimit type) ∧
      (∀ other, (recovery.nextAttempt type).2.attempts other =
        recovery.attempts other + if type = other then 1 else 0) ∧
      (recovery.nextAttempt type).2.called = recovery.called ∧
      (recovery.nextAttempt type).2.lastError = recovery.lastError := by
  rcases retried with rfl | rfl
  · refine ⟨?_, ?_, rfl, rfl⟩
    · simp [nextAttempt, attempts, restartLimit, networkRetryDelaysMs]
    · intro other
      cases other <;> rfl
  · refine ⟨?_, ?_, rfl, rfl⟩
    · by_cases first : recovery.decodeAttempts = 0
      · simp [nextAttempt, attempts, restartLimit, first]
      · simp [nextAttempt, attempts, restartLimit, first]
    · intro other
      cases other <;> rfl

theorem handleError_cases (page : PlayerPage) (recovery : MediaRecovery)
    (error : MediaPlayerError) : Handled recovery error (recovery.handleError page error) := by
  have kept : Keeps recovery (recovery.capture page) := capture_keeps
  unfold handleError
  dsimp only
  split
  · next closed => exact .ignored closed rfl
  · split
    · next final =>
        refine .failed (.inl (by simpa using final)) (fail_fails ?_ kept.called)
        exact fun type => (kept.attempts type).ge
    · next retries =>
        have retries : error.retries = true := by simpa using retries
        split
        · next scheduled => exact .repeated retries (kept.phase.symm.trans scheduled) kept
        · next unscheduled =>
            rw [kept.phase] at unscheduled
            obtain ⟨delayed, counts, called, lastError⟩ :=
              nextAttempt_spec { recovery.capture page with lastError := error }.clearTimer
                (network_or_decode retries)
            split
            · next counted equal =>
                rw [equal] at delayed counts called
                have used := mt delayed.mpr (by simp)
                refine .failed (.inr ⟨unscheduled, ?_⟩) (fail_fails ?_ (called.trans kept.called))
                · exact (not_lt.mp used).trans (kept.attempts error.type).le
                · intro type
                  rw [counts]
                  exact (kept.attempts type).ge.trans (Nat.le_add_right _ _)
            · next delay counted equal =>
                rw [equal] at delayed counts called lastError
                have left_ := delayed.mp rfl
                refine .scheduled retries (lt_of_eq_of_lt (kept.attempts error.type).symm left_) ?_
                exact
                  { phase := rfl
                    timer := ⟨delay, rfl⟩
                    lastError := lastError
                    attempts := fun type => (counts type).trans
                      (congrArg (· + _) (kept.attempts type))
                    automaticRestarts := fun type => by
                      have other (error : MediaPlayerError) :
                          RecoveryCallback.onRecovering ≠ .restart error false := by simp
                      refine (automaticRestarts_call counted other type).trans ?_
                      rw [automaticRestarts, called]
                      exact kept.automaticRestarts type }

end OpenTogetherTube.MediaRecovery
