import OpenTogetherTube.Client.RecoveryBudget

/-!
# Recovery is bounded

In a run without a reset, a manual retry and a stall, the restarts that were made or are
scheduled stay within the counted attempts and within the limit of their type. A controller
that has failed or is disposed is silent until something revives it.
-/

namespace OpenTogetherTube.MediaRecovery

variable {page : PlayerPage} {recovery after : MediaRecovery} {error : MediaPlayerError}
  {base : MediaErrorType → Nat}

/-- A pending timer belongs to the phase it was set in. -/
structure Timed (recovery : MediaRecovery) : Prop where
  retry : ∀ delay, recovery.timer = some (.retry delay) → recovery.phase = .scheduled
  timeout : recovery.timer = some .timeout → recovery.phase = .recovering

theorem Timed.of_none (idle : recovery.timer = none) : recovery.Timed :=
  ⟨fun delay pending => by simp [idle] at pending, fun pending => by simp [idle] at pending⟩

theorem Timed.of_keeps (timed : recovery.Timed) (keeps : Keeps recovery after) : after.Timed where
  retry delay pending := keeps.phase.trans (timed.retry delay (keeps.timer.symm.trans pending))
  timeout pending := keeps.phase.trans (timed.timeout (keeps.timer.symm.trans pending))

theorem Timed.timer_eq_none (timed : recovery.Timed) (unscheduled : recovery.phase ≠ .scheduled)
    (idle : recovery.phase ≠ .recovering) : recovery.timer = none := by
  cases pending : recovery.timer with
  | none => rfl
  | some timer =>
      cases timer with
      | retry delay => exact absurd (timed.retry delay pending) unscheduled
      | timeout => exact absurd (timed.timeout pending) idle

/-- The restarts made and on the way stay within the attempts and the limit of their type. -/
structure Within (base : MediaErrorType → Nat) (recovery : MediaRecovery) : Prop where
  counted : ∀ type,
    recovery.automaticRestarts type + recovery.upcoming type ≤ base type + recovery.attempts type
  limited : ∀ type,
    recovery.automaticRestarts type + recovery.upcoming type ≤ base type + restartLimit type

theorem Within.mono (within : recovery.Within base)
    (attempts : ∀ type, recovery.attempts type ≤ after.attempts type)
    (restarts : ∀ type, after.automaticRestarts type + after.upcoming type ≤
      recovery.automaticRestarts type + recovery.upcoming type) : after.Within base where
  counted type :=
    ((restarts type).trans (within.counted type)).trans (Nat.add_le_add_left (attempts type) _)
  limited type := (restarts type).trans (within.limited type)

theorem Within.of_keeps (within : recovery.Within base) (keeps : Keeps recovery after) :
    after.Within base :=
  within.mono (fun type => (keeps.attempts type).ge) fun type => by
    rw [keeps.automaticRestarts, keeps.upcoming]

theorem upcoming_of_unscheduled (unscheduled : recovery.phase ≠ .scheduled)
    (type : MediaErrorType) : recovery.upcoming type = 0 :=
  if_neg fun scheduled => unscheduled scheduled.1

/-- Leaving the schedule drops what was on the way. -/
theorem Within.of_unscheduled (within : recovery.Within base)
    (unscheduled : after.phase ≠ .scheduled)
    (attempts : ∀ type, recovery.attempts type ≤ after.attempts type)
    (restarts : ∀ type, after.automaticRestarts type = recovery.automaticRestarts type) :
    after.Within base :=
  within.mono attempts fun type => by
    rw [upcoming_of_unscheduled unscheduled, restarts]
    omega

theorem handleError_timed (timed : recovery.Timed) : (recovery.handleError page error).Timed := by
  cases handleError_cases page recovery error with
  | ignored closed same => rwa [same]
  | repeated retries scheduled keeps => exact timed.of_keeps keeps
  | failed ends fails => exact .of_none fails.timer
  | scheduled retries left_ schedules =>
      obtain ⟨delay, pending⟩ := schedules.timer
      refine ⟨fun _ _ => schedules.phase, fun timeout => ?_⟩
      simp [pending] at timeout

theorem handleError_within (within : recovery.Within base) :
    (recovery.handleError page error).Within base := by
  cases handleError_cases page recovery error with
  | ignored closed same => rwa [same]
  | repeated retries scheduled keeps => exact within.of_keeps keeps
  | failed ends fails =>
      refine within.of_unscheduled ?_ fails.attempts fails.automaticRestarts
      rw [fails.phase]
      decide
  | scheduled retries left_ schedules =>
      have upcoming (type : MediaErrorType) :
          (recovery.handleError page error).upcoming type = if error.type = type then 1 else 0 := by
        simp [MediaRecovery.upcoming, schedules.phase, schedules.lastError]
      constructor
      · intro type
        have counted := within.counted type
        rw [schedules.automaticRestarts, upcoming, schedules.attempts]
        omega
      · intro type
        have counted := within.counted type
        have limited := within.limited type
        rw [schedules.automaticRestarts, upcoming]
        split
        · next same =>
            subst same
            omega
        · omega

theorem restarted_automaticRestarts (type : MediaErrorType) :
    (recovery.restarted false).automaticRestarts type =
      recovery.automaticRestarts type + if recovery.lastError.type = type then 1 else 0 := by
  rw [automaticRestarts, restarted, call, List.countP_append, List.countP_singleton]
  simp only [automaticRestarts, clearTimer, decide_eq_true_eq]

theorem restarted_within (within : recovery.Within base) (scheduled : recovery.phase = .scheduled) :
    (recovery.restarted false).Within base := by
  refine within.mono (fun type => le_rfl) fun type => ?_
  have unscheduled : (recovery.restarted false).phase ≠ .scheduled := by
    simp [restarted, call]
  rw [upcoming_of_unscheduled unscheduled, restarted_automaticRestarts]
  simp [upcoming, scheduled]

theorem runRecovery_within (within : recovery.Within base)
    (scheduled : recovery.phase = .scheduled) :
    (recovery.runRecovery page false).Within base := by
  have restarts := restarted_within within scheduled
  unfold runRecovery
  dsimp only
  split
  · exact handleError_within restarts
  · exact restarts.of_keeps ⟨rfl, rfl, rfl, rfl, rfl, rfl⟩

theorem runRecovery_timed (manual : Bool) : (recovery.runRecovery page manual).Timed := by
  have restarts : (recovery.restarted manual).Timed := by
    refine ⟨fun delay pending => ?_, fun _ => rfl⟩
    simp [restarted, call] at pending
  unfold runRecovery
  dsimp only
  split
  · exact handleError_timed restarts
  · exact restarts.of_keeps ⟨rfl, rfl, rfl, rfl, rfl, rfl⟩

theorem canPlay_timed (timed : recovery.Timed) : (recovery.canPlay page).1.Timed := by
  rcases canPlay_cases page recovery with keeps | ⟨open_, keeps⟩
  · exact timed.of_keeps keeps
  · exact .of_none keeps.timer

theorem canPlay_within (within : recovery.Within base) : (recovery.canPlay page).1.Within base := by
  rcases canPlay_cases page recovery with keeps | ⟨open_, keeps⟩
  · exact within.of_keeps keeps
  · refine within.of_unscheduled ?_ (fun type => (keeps.attempts type).ge) keeps.automaticRestarts
    simp [keeps.phase]

theorem noteStallProgress_keeps (media : MediaElement) :
    Keeps recovery (recovery.noteStallProgress page media) :=
  ⟨rfl, rfl, rfl, rfl, rfl, rfl⟩

theorem noteStall_keeps (media : MediaElement) :
    Keeps recovery (recovery.noteStall page media) :=
  ⟨rfl, rfl, rfl, rfl, rfl, rfl⟩

theorem movePlayhead_timed (timed : recovery.Timed) (media : MediaElement) :
    (recovery.movePlayhead media).Timed := by
  unfold movePlayhead
  dsimp only
  generalize media.currentTime + _ = position
  have kept := seek_keeps recovery media position
  split
  · next sought equal =>
      rw [equal] at kept
      exact timed.of_keeps kept
  · next sought held equal =>
      rw [equal] at kept
      have sound := timed.of_keeps kept
      split
      · exact ⟨sound.retry, sound.timeout⟩
      · exact sound

theorem recoverFromStall_timed (timed : recovery.Timed) (media : MediaElement) :
    (recovery.recoverFromStall page media).Timed := by
  have noted : (recovery.noteStall page media).Timed := timed.of_keeps (noteStall_keeps media)
  unfold recoverFromStall
  dsimp only
  split_ifs
  · exact runRecovery_timed false
  · exact noted
  · exact movePlayhead_timed noted media

/-- Whether the check of the stall watch will act. -/
def triggersStall (page : PlayerPage) (recovery : MediaRecovery) : Bool :=
  recovery.stallWatch && decide (recovery.phase = .ready) && page.media.any (recovery.stalls page)

theorem checkStall_timed (timed : recovery.Timed) : (recovery.checkStall page).Timed := by
  unfold checkStall
  split
  · exact timed
  · next media _ =>
      split_ifs
      · exact timed
      · exact timed.of_keeps (noteStallProgress_keeps media)
      · exact recoverFromStall_timed timed media
      · exact timed

/-- A check that does not act keeps everything. -/
theorem checkStall_keeps (watched : recovery.stallWatch = true)
    (calm : recovery.triggersStall page = false) : Keeps recovery (recovery.checkStall page) := by
  unfold checkStall
  split
  · exact .refl recovery
  · next media present =>
      split_ifs with unready advances stalled
      · exact .refl recovery
      · exact noteStallProgress_keeps media
      · have ready := not_not.mp unready
        simp [triggersStall, watched, ready, present, stalled] at calm
      · exact .refl recovery

theorem dispose_within (within : recovery.Within base) : recovery.dispose.Within base :=
  within.of_unscheduled (by simp [dispose, clearTimer, stopStallWatch]) (fun _ => le_rfl)
    fun _ => rfl

theorem next_timed (timed : recovery.Timed) (call : RecoveryCall) :
    (recovery.next page call).Timed := by
  cases call with
  | reset => exact .of_none rfl
  | retry =>
      simp only [next, retry]
      split
      · exact timed
      · exact runRecovery_timed true
  | handleError error => exact handleError_timed timed
  | restoreMetadata => exact timed.of_keeps (restoreMetadata_keeps page recovery)
  | canPlay => exact canPlay_timed timed
  | setPosition position => exact timed.of_keeps (setPosition_keeps position)
  | setPlaybackRate rate => exact timed.of_keeps ⟨rfl, rfl, rfl, rfl, rfl, rfl⟩
  | dispose => exact .of_none rfl
  | timer =>
      simp only [next]
      split
      · exact timed
      · exact runRecovery_timed false
      · exact handleError_timed (.of_none rfl)
  | checkStall =>
      simp only [next]
      split
      · exact checkStall_timed timed
      · exact timed
  | rejected generation =>
      have settled : { recovery with
          restarting := recovery.restarting.erase generation }.Timed :=
        timed.of_keeps ⟨rfl, rfl, rfl, rfl, rfl, rfl⟩
      simp only [next]
      split_ifs
      · exact handleError_timed settled
      · exact settled
      · exact timed

/-- Neither a reset nor a manual retry nor a stall that the watch acts on. -/
structure Undisturbed (recovery : MediaRecovery) (label : RecoveryCall × PlayerPage) : Prop where
  unreset : label.1 ≠ .reset
  unretried : label.1 ≠ .retry
  unstalled : label.1 = .checkStall → recovery.triggersStall label.2 = false

instance (recovery : MediaRecovery) (label : RecoveryCall × PlayerPage) :
    Decidable (recovery.Undisturbed label) :=
  decidable_of_iff
    (label.1 ≠ .reset ∧ label.1 ≠ .retry ∧
      (label.1 = .checkStall → recovery.triggersStall label.2 = false))
    ⟨fun ⟨unreset, unretried, unstalled⟩ => ⟨unreset, unretried, unstalled⟩,
      fun ⟨unreset, unretried, unstalled⟩ => ⟨unreset, unretried, unstalled⟩⟩

theorem next_within (timed : recovery.Timed) (within : recovery.Within base) {call : RecoveryCall}
    (undisturbed : recovery.Undisturbed (call, page)) : (recovery.next page call).Within base := by
  cases call with
  | reset => exact absurd rfl undisturbed.unreset
  | retry => exact absurd rfl undisturbed.unretried
  | handleError error => exact handleError_within within
  | restoreMetadata => exact within.of_keeps (restoreMetadata_keeps page recovery)
  | canPlay => exact canPlay_within within
  | setPosition position => exact within.of_keeps (setPosition_keeps position)
  | setPlaybackRate rate => exact within.of_keeps ⟨rfl, rfl, rfl, rfl, rfl, rfl⟩
  | dispose => exact dispose_within within
  | timer =>
      simp only [next]
      split
      · exact within
      · next delay pending => exact runRecovery_within within (timed.retry delay pending)
      · exact handleError_within ⟨within.counted, within.limited⟩
  | checkStall =>
      simp only [next]
      split
      · next watched => exact within.of_keeps (checkStall_keeps watched (undisturbed.unstalled rfl))
      · exact within
  | rejected generation =>
      have settled : { recovery with
          restarting := recovery.restarting.erase generation }.Within base :=
        within.of_keeps ⟨rfl, rfl, rfl, rfl, rfl, rfl⟩
      simp only [next]
      split_ifs
      · exact handleError_within settled
      · exact settled
      · exact within

theorem next_of_reported {call : RecoveryCall} {at_ : MediaRecovery}
    (reports : recovery.reported page call = some (at_, error)) :
    recovery.next page call = at_.handleError page error := by
  cases call with
  | handleError reported =>
      cases reports
      rfl
  | timer =>
      simp only [reported] at reports
      split at reports
      · cases reports
      · next pending =>
          cases reports
          simp only [next, pending]
      · next delay pending =>
          split at reports
          · next throws =>
              cases reports
              simp only [next, pending, runRecovery, throws, if_true]
          · cases reports
  | rejected generation =>
      simp only [reported] at reports
      split at reports
      · next settles =>
          cases reports
          simp only [next, settles.1, settles.2, if_true, ne_eq, not_false_eq_true, and_self]
      · cases reports
  | reset | retry | restoreMetadata | canPlay | setPosition | setPlaybackRate | dispose
  | checkStall => cases reports

/-- What holds of the restarts before a call holds where the call reports its error. -/
theorem reported_within (timed : recovery.Timed) (within : recovery.Within base)
    {call : RecoveryCall} {at_ : MediaRecovery}
    (reports : recovery.reported page call = some (at_, error)) : at_.Within base := by
  cases call with
  | handleError reported =>
      cases reports
      exact within
  | timer =>
      simp only [reported] at reports
      split at reports
      · cases reports
      · cases reports
        exact ⟨within.counted, within.limited⟩
      · next delay pending =>
          split at reports
          · cases reports
            exact restarted_within within (timed.retry delay pending)
          · cases reports
  | rejected generation =>
      simp only [reported] at reports
      split at reports
      · cases reports
        exact ⟨within.counted, within.limited⟩
      · cases reports
  | reset | retry | restoreMetadata | canPlay | setPosition | setPlaybackRate | dispose
  | checkStall => cases reports

theorem handleError_fails_of_final (live : recovery.phase ≠ .disposed)
    (final : error.retries = false) : (recovery.handleError page error).phase = .failed := by
  cases handleError_cases page recovery error with
  | ignored closed same =>
      rw [same]
      exact closed.resolve_left live
  | repeated retries _ _ => simp [final] at retries
  | failed _ fails => exact fails.phase
  | scheduled retries _ _ => simp [final] at retries

theorem handleError_fails_of_exhausted (live : recovery.phase ≠ .disposed)
    (unscheduled : recovery.phase ≠ .scheduled) (within : recovery.Within base)
    (exhausted : base error.type + restartLimit error.type ≤
      recovery.automaticRestarts error.type) :
    (recovery.handleError page error).phase = .failed := by
  cases handleError_cases page recovery error with
  | ignored closed same =>
      rw [same]
      exact closed.resolve_left live
  | repeated _ scheduled _ => exact absurd scheduled unscheduled
  | failed _ fails => exact fails.phase
  | scheduled _ left_ _ =>
      have counted := within.counted error.type
      omega

theorem handleError_scheduled (scheduled : recovery.phase = .scheduled)
    (retries : error.retries = true) : (recovery.handleError page error).phase = .scheduled := by
  cases handleError_cases page recovery error with
  | ignored closed same =>
      rw [same]
      exact scheduled
  | repeated _ _ keeps => exact keeps.phase.trans scheduled
  | failed ends _ =>
      rcases ends with final | ⟨unscheduled, _⟩
      · simp [final] at retries
      · exact absurd scheduled unscheduled
  | scheduled _ _ schedules => exact schedules.phase

/-- A controller that has failed or is disposed, with no timer pending. -/
structure Silent (recovery : MediaRecovery) : Prop where
  closed : recovery.phase = .failed ∨ recovery.phase = .disposed
  idle : recovery.timer = none

/-- A silent controller stays so, with the phase it has unless it is disposed, and calls
nothing. -/
structure StaysSilent (before after : MediaRecovery) : Prop where
  silent : after.Silent
  disposed : before.phase = .disposed → after.phase = .disposed
  called : after.called = before.called

theorem Silent.stays_of_keeps (silent : recovery.Silent) (keeps : Keeps recovery after) :
    StaysSilent recovery after where
  silent := ⟨keeps.phase ▸ silent.closed, keeps.timer.trans silent.idle⟩
  disposed := keeps.phase.trans
  called := keeps.called

theorem Silent.handleError_eq (silent : recovery.Silent) :
    recovery.handleError page error = recovery := by
  unfold handleError
  exact if_pos silent.closed.symm

theorem Silent.canPlay_eq (silent : recovery.Silent) : (recovery.canPlay page).1 = recovery := by
  unfold canPlay
  rw [if_pos]
  rcases silent.closed with failed | disposed
  · simp [failed]
  · simp [disposed]

theorem Silent.next (silent : recovery.Silent) {call : RecoveryCall} (unreset : call ≠ .reset)
    (unretried : call = .retry → recovery.phase = .disposed) :
    StaysSilent recovery (recovery.next page call) := by
  have stays := silent.stays_of_keeps (.refl recovery)
  cases call with
  | reset => exact absurd rfl unreset
  | retry =>
      simp only [MediaRecovery.next, retry, unretried rfl, if_true]
      exact stays
  | handleError error =>
      simp only [MediaRecovery.next, silent.handleError_eq]
      exact stays
  | restoreMetadata => exact silent.stays_of_keeps (restoreMetadata_keeps page recovery)
  | canPlay =>
      simp only [MediaRecovery.next, silent.canPlay_eq]
      exact stays
  | setPosition position => exact silent.stays_of_keeps (setPosition_keeps position)
  | setPlaybackRate rate => exact silent.stays_of_keeps ⟨rfl, rfl, rfl, rfl, rfl, rfl⟩
  | dispose => exact ⟨⟨.inr rfl, rfl⟩, fun _ => rfl, rfl⟩
  | timer =>
      simp only [MediaRecovery.next, silent.idle]
      exact stays
  | checkStall =>
      simp only [MediaRecovery.next]
      split
      · next watched =>
          refine silent.stays_of_keeps (checkStall_keeps watched ?_)
          rcases silent.closed with failed | disposed
          · simp [triggersStall, failed]
          · simp [triggersStall, disposed]
      · exact stays
  | rejected generation =>
      have settled : Silent { recovery with
          restarting := recovery.restarting.erase generation } := ⟨silent.closed, silent.idle⟩
      simp only [MediaRecovery.next]
      split_ifs
      · rw [settled.handleError_eq]
        exact ⟨settled, id, rfl⟩
      · exact ⟨settled, id, rfl⟩
      · exact stays

/-- A controller that was just created or reset. -/
inductive Started : MediaRecovery → Prop where
  | created : Started {}
  | reset (page : PlayerPage) {earlier : MediaRecovery} (reachable : system.Reachable earlier) :
      Started (earlier.reset page)

theorem timed_inductive : Lib.TransitionSystem.Inductive system Timed where
  initial recovery initial := by
    cases initial
    exact .of_none rfl
  preserved timed step := by
    cases step
    exact next_timed timed _

theorem Started.reachable {start : MediaRecovery} (started : Started start) :
    system.Reachable start := by
  cases started with
  | created => exact .initial rfl
  | @reset page earlier reachable =>
      have step : system.Step earlier (.reset, page) (earlier.reset page) := rfl
      exact reachable.steps (Lib.TransitionSystem.Steps.single step)

theorem Started.within {start : MediaRecovery} (started : Started start) :
    start.Within start.automaticRestarts := by
  have loading : start.phase = .loading := by
    cases started <;> rfl
  have unscheduled : start.phase ≠ .scheduled := by simp [loading]
  have upcoming := upcoming_of_unscheduled unscheduled
  refine ⟨fun type => ?_, fun type => ?_⟩
  · rw [upcoming]
    omega
  · rw [upcoming]
    omega

/-- What holds along a run that nothing disturbs. -/
theorem Started.of_steps {start : MediaRecovery} (started : Started start)
    (run : (system.restrict Undisturbed).Steps start after) :
    after.Timed ∧ after.Within start.automaticRestarts := by
  have timed := timed_inductive.of_reachable started.reachable
  refine run.relates (fun state => state.Timed ∧ state.Within start.automaticRestarts)
    ⟨timed, started.within⟩ ?_
  rintro before ⟨call, page⟩ next _ ⟨timed, within⟩ ⟨undisturbed, step⟩
  cases step
  exact ⟨next_timed timed call, next_within timed within undisturbed⟩

/-- A silent controller calls nothing in a run without what revives it. -/
theorem Silent.of_steps {start : MediaRecovery} (silent : start.Silent)
    {condition : MediaRecovery → RecoveryCall × PlayerPage → Prop}
    (unreset : ∀ {before label}, condition before label → label.1 ≠ .reset)
    (unretried : ∀ {before label}, condition before label → label.1 = .retry →
      start.phase = .disposed)
    (run : (system.restrict condition).Steps start after) : StaysSilent start after := by
  refine run.relates (StaysSilent start) (silent.stays_of_keeps (.refl start)) ?_
  rintro before ⟨call, page⟩ next _ prior ⟨allowed, step⟩
  cases step
  have stays : StaysSilent before (before.next page call) :=
    prior.silent.next (unreset allowed) fun retries => prior.disposed (unretried allowed retries)
  exact ⟨stays.silent, fun disposed => stays.disposed (prior.disposed disposed),
    stays.called.trans prior.called⟩

/-- In a run from a new or reset controller, without a reset, a manual retry or a stall, the
automatic restarts for errors of one type stay within three for the network, one for decoding
and none for the rest. An error that is not retried, or whose type has used up its restarts,
makes the controller fail, unless it is disposed or already waits for a scheduled retry: then
an error that would be retried is taken for the same failure. What has failed calls nothing
until a reset or a manual retry, and what is disposed calls nothing until a reset. -/
theorem bounded_recovery {start : MediaRecovery} (started : Started start) :
    (∀ after, (system.restrict Undisturbed).Steps start after → ∀ type,
      after.automaticRestarts type ≤ start.automaticRestarts type + restartLimit type) ∧
    (∀ before, (system.restrict Undisturbed).Steps start before →
      ∀ page call at_ error, before.reported page call = some (at_, error) →
        at_.phase ≠ .disposed →
        (error.retries = false → (before.next page call).phase = .failed) ∧
        (at_.phase ≠ .scheduled →
          start.automaticRestarts error.type + restartLimit error.type ≤
            at_.automaticRestarts error.type →
          (before.next page call).phase = .failed) ∧
        (at_.phase = .scheduled → error.retries = true →
          (before.next page call).phase = .scheduled)) ∧
    (∀ failed, system.Reachable failed → failed.phase = .failed → ∀ after,
      (system.restrict fun _ label => label.1 ≠ .reset ∧ label.1 ≠ .retry).Steps failed after →
      after.called = failed.called) ∧
    (∀ disposed, system.Reachable disposed → disposed.phase = .disposed → ∀ after,
      (system.restrict fun _ label => label.1 ≠ .reset).Steps disposed after →
      after.called = disposed.called) := by
  refine ⟨?_, ?_, ?_, ?_⟩
  · intro after run type
    have limited := (started.of_steps run).2.limited type
    omega
  · intro before run page call at_ error reports live
    obtain ⟨timed, within⟩ := started.of_steps run
    rw [next_of_reported reports]
    have within := reported_within timed within reports
    exact ⟨handleError_fails_of_final live,
      fun unscheduled => handleError_fails_of_exhausted live unscheduled within,
      handleError_scheduled⟩
  · intro failed reachable isFailed after run
    have timed := timed_inductive.of_reachable reachable
    have silent : failed.Silent :=
      ⟨.inl isFailed, timed.timer_eq_none (by simp [isFailed]) (by simp [isFailed])⟩
    exact (silent.of_steps (fun allowed => allowed.1)
      (fun allowed retries => absurd retries allowed.2) run).called
  · intro disposed reachable isDisposed after run
    have timed := timed_inductive.of_reachable reachable
    have silent : disposed.Silent :=
      ⟨.inr isDisposed, timed.timer_eq_none (by simp [isDisposed]) (by simp [isDisposed])⟩
    exact (silent.of_steps (fun allowed => allowed) (fun _ _ => isDisposed) run).called

/-- The controller after calls on one page. -/
def afterCalls (calls : List RecoveryCall) : MediaRecovery :=
  Lib.TransitionSystem.run (fun label state => state.next label.2 label.1)
    (calls.map fun call => (call, {})) {}

/-- Three network errors, each followed by its retry. -/
def threeRetries : List RecoveryCall :=
  let failure := [.handleError { type := .network }, .timer]
  failure ++ failure ++ failure

theorem steps_afterCalls (calls : List RecoveryCall)
    (undisturbed : Lib.TransitionSystem.runs (fun label state => state.next label.2 label.1)
      Undisturbed (calls.map fun call => (call, {})) {} = true) :
    (system.restrict Undisturbed).Steps {} (afterCalls calls) := by
  have step : ∀ (before : MediaRecovery) (label : RecoveryCall × PlayerPage),
      before.Undisturbed label →
      (system.restrict Undisturbed).Step before label (before.next label.2 label.1) :=
    fun _ _ allowed => ⟨allowed, rfl⟩
  exact Lib.TransitionSystem.steps_run step _ _ undisturbed

/-- The fourth network error is the last. -/
theorem bounded_recovery_sample :
    (afterCalls threeRetries).automaticRestarts .network ≤ 3 ∧
      ((afterCalls threeRetries).next {} (.handleError { type := .network })).phase = .failed := by
  have run := steps_afterCalls threeRetries (by decide)
  obtain ⟨limited, ends, _⟩ := bounded_recovery Started.created
  have failed := ends _ run {} (.handleError { type := .network }) _ _ rfl (by decide)
  exact ⟨limited _ run .network, failed.2.1 (by decide) (by decide)⟩

/-- After three restarts for the network, a network error that comes while a retry for a
decode error is scheduled does not make the controller fail. -/
theorem bounded_recovery_scheduled :
    let scheduled := afterCalls (threeRetries ++ [.handleError { type := .decode }])
    (system.restrict Undisturbed).Steps {} scheduled ∧
      scheduled.automaticRestarts .network = 3 ∧
      (scheduled.next {} (.handleError { type := .network })).phase ≠ .failed := by
  refine ⟨steps_afterCalls _ ?_, ?_, ?_⟩
  · decide
  · decide
  · decide

end OpenTogetherTube.MediaRecovery
