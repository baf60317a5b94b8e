import OpenTogetherTube.Client.RateBend

/-!
# Drift correction is bounded

Automatic seeks keep their distance from the seek before, and a longer one after buffering, where
every call that reads of buffering keeps it in mind; the rates written stay near a base speed, and a
bend does not outlive its deadline.
-/

namespace OpenTogetherTube

open Lib

/-- What an event is for the cooldown of automatic seeks. -/
def SyncEvent.mark : SyncEvent → Option (CooldownMark Nat)
  | .buffering => some .strained
  | .reset => some .restarted
  | .sought at_ reason _ strained => some (.used at_ reason.isAutomatic strained)
  | _ => none

namespace PlaybackSync

variable {options : PlaybackSyncOptions} {sync : PlaybackSync} {rate base drift : ℚ}
  {request : Option Nat}

def marks (sync : PlaybackSync) : List (CooldownMark Nat) := sync.trace.filterMap SyncEvent.mark

/-- What the seeks depend on, and what there was of them. -/
def pace (sync : PlaybackSync) : Bool × Cooldown Nat × List (CooldownMark Nat) :=
  (sync.disposed, sync.cooldown, sync.marks)

structure Paced (pace : Bool × Cooldown Nat × List (CooldownMark Nat)) : Prop where
  spaced : CooldownMark.Spaced 2000 8000 pace.2.2
  tracks : pace.2.1.Tracks pace.2.2

/-- The rates are what they should be, and the cooldown knows of what there was. -/
structure Sound (sync : PlaybackSync) : Prop where
  rated : sync.rates.Rated
  paced : Paced sync.pace

/-- Buffering is kept in mind, if there is a seek that it matters to. -/
def Minds (sync : PlaybackSync) (state : PlaybackSyncState) : Prop :=
  state.buffering = true → sync.cooldown.last.isSome = true → sync.cooldown.slow = true

theorem Minds.of_pace {other : PlaybackSync} {state : PlaybackSyncState}
    (same : other.pace = sync.pace) (minds : sync.Minds state) : other.Minds state := by
  unfold Minds
  rw [show other.cooldown = sync.cooldown from congrArg (·.2.1) same]
  exact minds

theorem awaitEnd_pace : (sync.awaitEnd request).pace = sync.pace := by
  cases request <;> rfl

theorem writeRate_pace (succeeds : options.setLocalRate ≠ .threw) :
    (sync.writeRate options rate request).pace = sync.pace := by
  have set : (sync.setRate options rate request).pace = sync.pace := by
    unfold setRate
    dsimp only
    split
    · exact awaitEnd_pace
    · cases reply : options.setLocalRate with
      | returned => exact awaitEnd_pace
      | promised => rfl
      | threw => exact absurd reply succeeds
  unfold writeRate
  split
  · split
    · exact awaitEnd_pace
    · exact set
  · exact set

theorem cancelBend_pace (succeeds : options.setLocalRate ≠ .threw) :
    (sync.cancelBend options).pace = sync.pace := by
  change (sync.restoreRate options).pace = sync.pace
  unfold restoreRate
  split
  · rfl
  · dsimp only
    split
    · exact writeRate_pace succeeds
    · rfl

theorem finish_pace (request : Nat) : (sync.finish request).pace = sync.pace := by
  unfold finish
  split <;> rfl

theorem holdBend_pace (request : Nat) (succeeds : options.setLocalRate ≠ .threw) :
    (sync.holdBend options base drift request).pace = sync.pace := by
  unfold holdBend
  split
  · exact writeRate_pace succeeds
  · dsimp only
    split
    · exact writeRate_pace succeeds
    · split
      · unfold growBend
        dsimp only
        split
        · exact writeRate_pace succeeds
        · exact finish_pace request
      · split
        · exact writeRate_pace succeeds
        · exact finish_pace request

theorem Sound.cancelBend (sound : sync.Sound) (succeeds : options.setLocalRate ≠ .threw) :
    (sync.cancelBend options).Sound :=
  ⟨cancelBend_rated sound.rated succeeds, by rw [cancelBend_pace succeeds]; exact sound.paced⟩

theorem Sound.finish (sound : sync.Sound) (request : Nat) : (sync.finish request).Sound :=
  ⟨by rw [finish_rates]; exact sound.rated, by rw [finish_pace]; exact sound.paced⟩

theorem Sound.finishRequest (sound : sync.Sound) : (sync.finishRequest request).Sound := by
  cases request with
  | none => exact sound
  | some request => exact sound.finish request

theorem onError_bendStartedAt (generation : Nat) :
    (sync.onError generation).bendStartedAt = sync.bendStartedAt := by
  unfold onError
  split <;> rfl

theorem Sound.onError (sound : sync.Sound) (generation : Nat) : (sync.onError generation).Sound := by
  unfold PlaybackSync.onError
  split
  · exact ⟨sound.rated.quiet trivial, sound.paced⟩
  · exact sound

theorem Sound.awaitEnd (sound : sync.Sound) : (sync.awaitEnd request).Sound :=
  ⟨by rw [awaitEnd_rates]; exact sound.rated, by rw [awaitEnd_pace]; exact sound.paced⟩

theorem Sound.read {state : PlaybackSyncState} (sound : sync.Sound) (minds : sync.Minds state) :
    (sync.read state).Sound := by
  unfold PlaybackSync.read
  split
  case isTrue buffering =>
    exact ⟨sound.rated.quiet trivial, sound.paced.spaced, sound.paced.tracks.strained (minds buffering)⟩
  case isFalse => exact sound

/-- A seek that comes when it may. It ends the bend. -/
theorem seek_sound {state : PlaybackSyncState} {reason : SeekReason} (rated : sync.rates.Rated)
    (spaced : CooldownMark.Spaced 2000 8000
      (.used options.now reason.isAutomatic state.buffering :: sync.marks))
    (succeeds : options.setLocalRate ≠ .threw) :
    (sync.seek options state reason request).Sound ∧
      (sync.seek options state reason request).bendStartedAt = none := by
  have cancelled : ∀ counted : PlaybackSync, counted.rates = sync.rates → counted.pace = sync.pace →
      ({ counted.cancelBend options with
        lastSeekAt := some options.now
        bufferedSinceLastSeek := state.buffering }.record
          (.sought options.now reason state.position state.buffering)).Sound := by
    intro counted sameRates samePace
    have marks : (counted.cancelBend options).marks = sync.marks :=
      congrArg (·.2.2) ((cancelBend_pace succeeds).trans samePace)
    refine ⟨(cancelBend_rated (sameRates ▸ rated) succeeds).quiet trivial, ?_, ?_⟩
    · change CooldownMark.Spaced 2000 8000 (_ :: (counted.cancelBend options).marks)
      rw [marks]
      exact spaced
    · exact .used _ _ _ _
  unfold seek
  have sought := cancelled (if reason.text = "bend-deadline" then
    { sync with deadlineSeeks := sync.deadlineSeeks + 1 } else sync) (by split <;> rfl)
    (by split <;> rfl)
  cases options.setPosition with
  | returned => exact ⟨sought.awaitEnd, by cases request <;> rfl⟩
  | promised => exact ⟨⟨sought.rated, sought.paced⟩, rfl⟩
  | threw =>
      exact ⟨(sought.onError _).awaitEnd, by cases request <;> exact onError_bendStartedAt _⟩

/-- An automatic seek keeps its distance. -/
theorem automatic_sound {state : PlaybackSyncState} (sound : sync.Sound) (reason : SeekReason)
    (request : Option Nat) (may : sync.canSeekNow options state = true)
    (succeeds : options.setLocalRate ≠ .threw) :
    (sync.seek options state reason request).Sound ∧
      (sync.seek options state reason request).bendStartedAt = none := by
  refine seek_sound sound.rated ?_ succeeds
  refine sound.paced.tracks.spaced sound.paced.spaced (by decide) (fun last isLast => ?_) _ _
  unfold canSeekNow at may
  rw [show sync.lastSeekAt = some last from isLast, Bool.and_eq_true, decide_eq_true_eq] at may
  exact may.2

/-- A seek that was asked for needs no distance. -/
theorem asked_sound {state : PlaybackSyncState} (rated : sync.rates.Rated)
    (spaced : CooldownMark.Spaced 2000 8000 sync.marks) (reason : String)
    (succeeds : options.setLocalRate ≠ .threw) :
    (sync.seek options state (.asked reason) request).Sound :=
  (seek_sound rated (Cooldown.spaced_ungated spaced _) succeeds).1

/-- The bend that began at a time is past its deadline. -/
def Overdue (sync : PlaybackSync) (now began : Nat) : Prop :=
  sync.bendStartedAt = some began ∧ sync.bendDeadlineAt ≤ now ∧ began < now

theorem finish_bendStartedAt (request : Nat) :
    (sync.finish request).bendStartedAt = sync.bendStartedAt :=
  congrArg RateView.bendStartedAt (finish_rates request)

/-- An outcome of a call: nothing gets out of step, and what is overdue is over. -/
structure Settled (before : PlaybackSync) (now : Nat) (after : PlaybackSync) : Prop where
  sound : after.Sound
  ends : ∀ began, before.Overdue now began → after.bendStartedAt ≠ some began

theorem Settled.of_none {after : PlaybackSync} {now : Nat} (sound : after.Sound)
    (none : after.bendStartedAt = none) : sync.Settled now after :=
  ⟨sound, fun _ _ => by rw [none]; exact nofun⟩

theorem Settled.ite {condition : Prop} [Decidable condition] {now : Nat} {first second : PlaybackSync}
    (positive : condition → sync.Settled now first)
    (negative : ¬ condition → sync.Settled now second) :
    sync.Settled now (if condition then first else second) := by
  split
  · exact positive ‹_›
  · exact negative ‹_›

/-- A bend is given up. -/
theorem Settled.cancelled {before : PlaybackSync} (sound : sync.Sound) (request now : Nat)
    (succeeds : options.setLocalRate ≠ .threw) :
    before.Settled now ((sync.cancelBend options).finish request) :=
  .of_none ((sound.cancelBend succeeds).finish request) (finish_bendStartedAt request)

theorem bend_settled (latest : PlaybackSyncState) (sound : sync.Sound)
    (isBase : sync.getBendBase options = some base) (measured : drift ∈ bendDrifts sync.trace)
    (request : Nat) (succeeds : options.setLocalRate ≠ .threw) :
    sync.Settled options.now (sync.bend options latest base drift request) := by
  obtain ⟨takes, positive⟩ := getBendBase_spec isBase
  unfold bend
  dsimp only
  generalize now : (if sync.bendBase.isSome ∧ sync.bendBase ≠ some base then sync.cancelBend options
    else sync) = current
  obtain ⟨currentSound, currentTakes, sameBase, currentMeasured, overdue⟩ : current.Sound ∧
      current.takesRate = true ∧ (∀ other ∈ current.bendBase, other = base) ∧
      (current.bendStartedAt.isSome = true → drift ∈ bendDrifts current.trace) ∧
      ∀ began, sync.Overdue options.now began → current.bendStartedAt.isSome = true →
        current.Overdue options.now began := by
    rw [← now]
    split
    · have takes := (cancelBend_rates sound.rated succeeds).2.2.trans takes
      exact ⟨sound.cancelBend succeeds, takes, nofun, nofun, fun _ _ => nofun⟩
    · rename_i same
      refine ⟨sound, takes, fun other isOther => ?_, fun _ => measured, fun _ late _ => late⟩
      by_contra differs
      rw [isOther] at same
      exact same ⟨rfl, fun equal => differs (Option.some.inj equal)⟩
  have cancelled := currentSound.cancelBend succeeds
  refine .ite (fun _ => .cancelled currentSound request _ succeeds) fun _ => .ite (fun _ => ?_)
    fun early => ?_
  · refine .ite (fun may => ?_) fun _ => .cancelled currentSound request _ succeeds
    have sought := automatic_sound cancelled .bendDeadline (some request)
      (Bool.and_eq_true_iff.mp may).1 succeeds
    exact .of_none sought.1 sought.2
  · obtain ⟨rated, startedAt⟩ :=
      holdBend_rates currentSound.rated currentTakes positive sameBase currentMeasured request succeeds
    refine ⟨⟨rated, by rw [holdBend_pace request succeeds]; exact currentSound.paced⟩, ?_⟩
    intro began isOverdue
    rw [startedAt]
    cases began_eq : current.bendStartedAt with
    | none => exact fun now => absurd (Option.some.inj now) isOverdue.2.2.ne'
    | some =>
        have here : current.bendStartedAt.isSome = true := by rw [began_eq]; rfl
        exact absurd ⟨here, (overdue began isOverdue here).2.1⟩ early

theorem correct_settled (latest : PlaybackSyncState) (sound : sync.Sound) (drift : ℚ) (request : Nat)
    (succeeds : options.setLocalRate ≠ .threw) :
    sync.Settled options.now (sync.correct options latest drift request) := by
  have measured : ({ sync with maxAbsDrift := sync.maxAbsDrift.maximum (.fin |drift|) }.record
      (.measured drift)).Sound := ⟨sound.rated.quiet trivial, sound.paced⟩
  unfold correct
  refine .ite (fun may => ?_) fun _ => ?_
  · have sought := automatic_sound measured .driftLarge (some request) may.2.1 succeeds
    exact .of_none sought.1 sought.2
  · split
    · exact .cancelled measured request _ succeeds
    · rename_i base isBase
      split at isBase
      · have bent := bend_settled latest measured isBase List.mem_cons_self request succeeds
        exact ⟨bent.sound, bent.ends⟩
      · cases isBase

theorem observed_settled (sound : sync.Sound) (minds : sync.Minds options.getState)
    (request generation : Nat) (source player : Option Nat) (position : Number)
    (succeeds : options.setLocalRate ≠ .threw) :
    (sync.observed options request generation source player position).Sound ∧
      (sync.isCurrent options request generation source player → sync.Settled options.now
        (sync.observed options request generation source player position)) := by
  have read := sound.read minds
  have same : (sync.read options.getState).isCurrent options request generation source player ↔
      sync.isCurrent options request generation source player := by
    unfold PlaybackSync.read
    split <;> exact .rfl
  have kept : ∀ after, (sync.read options.getState).Settled options.now after →
      sync.Settled options.now after := by
    refine fun after settled => ⟨settled.sound, fun began overdue => settled.ends began ?_⟩
    unfold PlaybackSync.read
    split <;> exact overdue
  unfold observed
  dsimp only
  split
  · rename_i stale
    exact ⟨read.finish request, fun current => absurd (same.mpr current) stale⟩
  · suffices settled : (sync.read options.getState).Settled options.now _ from
      ⟨settled.sound, fun _ => kept _ settled⟩
    split
    · exact .ite (fun _ => correct_settled _ read _ request succeeds)
        fun _ => .cancelled read request _ succeeds
    · exact .cancelled read request _ succeeds

/-- `seekTolerated` goes on to seek. -/
def Seeks (options : PlaybackSyncOptions) (sync : PlaybackSync) (position : Number) : Prop :=
  sync.givesUp options.getState = false ∧ sync.driftIsLarge options position = true

theorem seekTolerated_sound (sound : sync.Sound) (reason : String) (position : Number)
    (minds : ¬ Seeks options sync position → sync.Minds options.getState)
    (succeeds : options.setLocalRate ≠ .threw) :
    (sync.seekTolerated options reason position).Sound := by
  have rated : (sync.read options.getState).rates.Rated := by
    unfold PlaybackSync.read
    split
    · exact sound.rated.quiet trivial
    · exact sound.rated
  have spaced : CooldownMark.Spaced 2000 8000 (sync.read options.getState).marks := by
    unfold PlaybackSync.read
    split <;> exact sound.paced.spaced
  have givesUp : (sync.read options.getState).givesUp options.getState =
      sync.givesUp options.getState := by
    unfold PlaybackSync.read
    split <;> rfl
  have driftIsLarge : ∀ maxAbsDrift, ({ sync.read options.getState with
      maxAbsDrift } : PlaybackSync).driftIsLarge options position =
        sync.driftIsLarge options position := by
    unfold PlaybackSync.read
    split <;> exact fun _ => rfl
  unfold seekTolerated
  dsimp only
  rw [givesUp, driftIsLarge]
  split
  · rename_i gaveUp
    exact sound.read (minds fun seeks => by rw [seeks.1] at gaveUp; cases gaveUp)
  · split
    · refine asked_sound ?_ ?_ reason succeeds
      · exact rated
      · exact spaced
    · rename_i small
      have kept := sound.read (minds fun seeks => small seeks.2)
      exact ⟨kept.rated, kept.paced⟩

theorem invalidateRate_sound (sound : sync.Sound) (succeeds : options.setLocalRate ≠ .threw) :
    (sync.invalidateRate options).Sound :=
  Sound.cancelBend ⟨sound.rated, sound.paced⟩ succeeds

theorem reset_sound (sound : sync.Sound) (succeeds : options.setLocalRate ≠ .threw) :
    (sync.reset options).Sound := by
  have invalid := invalidateRate_sound sound succeeds
  exact ⟨invalid.rated.quiet trivial, invalid.paced.spaced, .restarted _ _⟩

theorem seekPending_sound {state : PlaybackSyncState} (sound : sync.Sound)
    (minds : sync.Minds options.getState) (succeeds : options.setLocalRate ≠ .threw) :
    (sync.seekPending options state).Sound := by
  have taken : ({ sync with
      pendingSeek := false
      pendingSeekToleratesDrift := false } : PlaybackSync).Sound := ⟨sound.rated, sound.paced⟩
  unfold seekPending
  dsimp only
  split
  · unfold seekIfDriftIsLarge
    cases options.getPosition with
    | returned position => exact seekTolerated_sound taken _ position (fun _ => minds) succeeds
    | promised => exact ⟨taken.rated, taken.paced⟩
    | threw => exact taken
  · exact asked_sound taken.rated taken.paced.spaced _ succeeds

theorem observe_sound (sound : sync.Sound) (state : PlaybackSyncState) :
    (sync.observe options state).Sound := by
  have asked : ∀ requests inFlight,
      ({ sync with requests, inFlight } : PlaybackSync).Sound := fun _ _ => ⟨sound.rated, sound.paced⟩
  unfold observe
  dsimp only
  split
  · exact ((asked _ _).onError _).finish _
  · exact ⟨sound.rated, sound.paced⟩

/-- A tick keeps in mind the buffering that it reads of, unless playback is live. -/
theorem tick_sound (sound : sync.Sound)
    (minds : sync.disposed = false → options.getState.live = true → sync.Minds options.getState)
    (succeeds : options.setLocalRate ≠ .threw) : (sync.tick options).Sound := by
  unfold tick
  split
  · exact sound
  · rename_i open_
    obtain ⟨followed, minds⟩ : (sync.follow options options.getState).Sound ∧
        (options.getState.live = true →
          (sync.follow options options.getState).Minds options.getState) := by
      unfold follow
      split
      · exact ⟨reset_sound ⟨sound.rated, sound.paced⟩ succeeds, fun _ _ => nofun⟩
      · exact ⟨sound, minds (by simpa using open_)⟩
    dsimp only
    generalize sync.follow options options.getState = current at followed minds ⊢
    split
    · rename_i live
      exact (followed.read (minds live)).cancelBend succeeds
    · have noted : ({ current.read options.getState with
          bufferedSinceLastSeek := (current.read options.getState).bufferedSinceLastSeek ||
            options.getState.buffering } : PlaybackSync).Sound := by
        have slowed : Cooldown.Tracks
            ⟨_, current.bufferedSinceLastSeek || options.getState.buffering⟩ current.marks :=
          followed.paced.tracks.slowed fun slow => Bool.or_eq_true_iff.mpr (.inl slow)
        unfold PlaybackSync.read
        split
        · rename_i buffering
          exact ⟨followed.rated.quiet trivial, followed.paced.spaced,
            slowed.strained fun _ => Bool.or_eq_true_iff.mpr (.inr buffering)⟩
        · exact ⟨followed.rated, followed.paced.spaced, slowed⟩
      have minds : ({ current.read options.getState with
          bufferedSinceLastSeek := (current.read options.getState).bufferedSinceLastSeek ||
            options.getState.buffering } : PlaybackSync).Minds options.getState :=
        fun buffering _ => Bool.or_eq_true_iff.mpr (.inr buffering)
      generalize ({ current.read options.getState with
        bufferedSinceLastSeek := (current.read options.getState).bufferedSinceLastSeek ||
          options.getState.buffering } : PlaybackSync) = current at noted minds ⊢
      have steady : ∀ pausing : Bool,
          (if pausing then current.cancelBend options else current).Sound ∧
            (if pausing then current.cancelBend options else current).Minds options.getState := by
        intro pausing
        cases pausing with
        | false => exact ⟨noted, minds⟩
        | true => exact ⟨noted.cancelBend succeeds, Minds.of_pace (cancelBend_pace succeeds) minds⟩
      obtain ⟨sound, minds⟩ := steady (!current.canObserve options.getState ||
        !options.getState.playing || options.getState.temporarySpeed)
      generalize (if !current.canObserve options.getState || !options.getState.playing ||
        options.getState.temporarySpeed then current.cancelBend options else current) = current
        at sound minds ⊢
      split
      · exact sound
      · split
        · exact seekPending_sound sound minds succeeds
        · split
          · exact sound
          · exact observe_sound sound _

/-- The call reads of buffering, if there is any, and does not keep it in mind. -/
def Overlooks (options : PlaybackSyncOptions) (sync : PlaybackSync) : SyncCall → Prop
  | .tick | .requestSeek _ _ => sync.disposed = false ∧ options.getState.live = true
  | .settle (.observed _ _ _ _) (.resolved _) => True
  | .settle (.tolerated _) (.resolved position) => ¬ Seeks options sync position
  | _ => False

/-- A rate write is found to have failed. -/
def isRejectedWrite : SyncCall → Bool
  | .settle (.rateWritten _ _) .rejected => true
  | _ => false

/-- The rate writes succeed. -/
def Succeeds (label : SyncCall × PlaybackSyncOptions) : Prop :=
  label.2.setLocalRate ≠ .threw ∧ isRejectedWrite label.1 = false

/-- Buffering is only read of where it is kept in mind. -/
def Recorded (sync : PlaybackSync) (label : SyncCall × PlaybackSyncOptions) : Prop :=
  sync.Overlooks label.2 label.1 → sync.Minds label.2.getState

theorem next_sound {call : SyncCall} (sound : sync.Sound) (succeeds : Succeeds (call, options))
    (recorded : sync.Recorded (call, options)) : (sync.next options call).Sound := by
  obtain ⟨succeeds, accepted⟩ := succeeds
  cases call with
  | tick => exact tick_sound sound (fun open_ live => recorded ⟨open_, live⟩) succeeds
  | requestSeek reason tolerateSmallDrift =>
      have invalid : ({ sync with
          pendingSeek := true
          pendingSeekToleratesDrift := tolerateSmallDrift
          pendingSeekReason := reason }.invalidateRate options).Sound :=
        invalidateRate_sound ⟨sound.rated, sound.paced⟩ succeeds
      have same : ({ sync with
          pendingSeek := true
          pendingSeekToleratesDrift := tolerateSmallDrift
          pendingSeekReason := reason }.invalidateRate options).pace = sync.pace :=
        cancelBend_pace succeeds
      refine tick_sound ⟨invalid.rated, invalid.paced⟩ (fun open_ live => ?_) succeeds
      exact Minds.of_pace same (recorded ⟨(congrArg (·.1) same).symm.trans open_, live⟩)
  | invalidateRate => exact invalidateRate_sound sound succeeds
  | reset => exact reset_sound sound succeeds
  | dispose =>
      have ended := sound.cancelBend succeeds
      exact ⟨ended.rated, ended.paced.spaced, ended.paced.tracks⟩
  | resetMetrics => exact ⟨sound.rated, sound.paced⟩
  | settle awaited settlement =>
      have settled : ({ sync with awaiting := sync.awaiting.erase awaited } : PlaybackSync).Sound :=
        ⟨sound.rated, sound.paced⟩
      cases awaited with
      | observed request generation source player =>
          cases settlement with
          | resolved position =>
              exact (observed_settled settled (recorded trivial) request generation source player
                position succeeds).1
          | rejected => exact (settled.onError generation).finish request
      | tolerated reason =>
          cases settlement with
          | resolved position => exact seekTolerated_sound settled reason position recorded succeeds
          | rejected => exact settled
      | positionSet generation request =>
          cases settlement with
          | resolved => exact settled.finishRequest
          | rejected => exact (settled.onError generation).finishRequest
      | rateWritten generation request =>
          cases settlement with
          | resolved => exact settled.finishRequest
          | rejected => cases accepted
      | ended request => cases settlement <;> exact settled.finish request

/-- The steps in which the rate writes succeed and buffering is kept in mind. -/
abbrev carefulSystem : TransitionSystem PlaybackSync (SyncCall × PlaybackSyncOptions) :=
  system.restrict fun sync label => Succeeds label ∧ sync.Recorded label

theorem sound_inductive : TransitionSystem.Inductive carefulSystem Sound where
  initial := by
    rintro _ ⟨takesRate, rfl⟩
    exact ⟨⟨nofun, .inl ⟨rfl, rfl, rfl, rfl, nofun⟩⟩, trivial, .none false⟩
  preserved := by
    rintro before ⟨call, options⟩ after sound ⟨⟨succeeds, recorded⟩, _, rfl⟩
    exact next_sound sound succeeds recorded

/-- The seeks keep their distances, every rate was near a base speed, and without a bend the player
has one. -/
structure Bounded (sync : PlaybackSync) : Prop where
  spaced : CooldownMark.Spaced 2000 8000 sync.marks
  inRange : RatesInRange sync.trace
  atBase : sync.bendStartedAt = none → AtBase sync.trace

/-- The call completes an observation thirty seconds or more after a bend began, whose drift has
kept its sign. -/
def Outlasts (options : PlaybackSyncOptions) (sync : PlaybackSync) (began : Nat) : SyncCall → Prop
  | .settle (.observed request generation source player) (.resolved _) =>
      sync.isCurrent options request generation source player ∧ sync.bendStartedAt = some began ∧
        began + 30000 ≤ options.now ∧ KeptSign sync.trace
  | _ => False

theorem next_over {call : SyncCall} {began : Nat} (sound : sync.Sound)
    (succeeds : Succeeds (call, options)) (recorded : sync.Recorded (call, options))
    (outlasts : Outlasts options sync began call) :
    (sync.next options call).bendStartedAt ≠ some began := by
  match call, outlasts with
  | .settle (.observed request generation source player) (.resolved position),
      ⟨current, startedAt, late, kept⟩ =>
    change began + 30000 ≤ options.now at late
    have settled : ({ sync with
        awaiting := sync.awaiting.erase (.observed request generation source player) } :
          PlaybackSync).Sound := ⟨sound.rated, sound.paced⟩
    refine ((observed_settled settled (recorded trivial) request generation source player position
      succeeds.1).2 current).ends began ⟨startedAt, ?_, by change began < options.now; omega⟩
    rcases sound.rated.bend with idle | ⟨_, _, _, bent⟩
    · cases startedAt.symm.trans idle.bendStartedAt
    · cases Option.some.inj (startedAt.symm.trans bent.bendStartedAt)
      exact (bent.deadline kept).trans (by exact_mod_cast late)

theorem drift_correction_bounded (reachable : carefulSystem.Reachable sync) :
    sync.Bounded ∧ ∀ call options after began, carefulSystem.Step sync (call, options) after →
      Outlasts options sync began call → after.bendStartedAt ≠ some began := by
  have sound := sound_inductive.of_reachable reachable
  refine ⟨⟨sound.paced.spaced, sound.rated.inRange, fun none => ?_⟩, ?_⟩
  · rcases sound.rated.bend with idle | ⟨_, _, _, bent⟩
    · exact idle.atBase
    · cases none.symm.trans bent.bendStartedAt
  · rintro call options _ began ⟨⟨succeeds, recorded⟩, _, rfl⟩ outlasts
    exact next_over sound succeeds recorded outlasts

instance (sync : PlaybackSync) (call : SyncCall) : Decidable (sync.Possible call) :=
  match call with
  | .settle awaited _ => inferInstanceAs (Decidable (awaited ∈ sync.awaiting))
  | .tick | .requestSeek _ _ | .invalidateRate | .reset | .dispose | .resetMetrics => isTrue trivial

instance (label : SyncCall × PlaybackSyncOptions) : Decidable (Succeeds label) :=
  inferInstanceAs (Decidable (_ ∧ _))

/-- A player that buffers or not, with the room at second 100 and the plain speed. -/
def sampleOptions (now : Nat) (buffering : Bool) : PlaybackSyncOptions where
  getState := { source := some 0, player := some 0, position := 100, buffering }
  getBendBase := some 1
  now := now

/-- An observation of the sample player is completed. -/
def sampleObserved (request : Nat) (position : Number) : SyncCall :=
  .settle (.observed request 1 (some 0) (some 0)) (.resolved position)

def afterCalls (calls : List (SyncCall × PlaybackSyncOptions)) : PlaybackSync :=
  TransitionSystem.run (fun label sync => sync.next label.2 label.1) calls {}

/-- The start, and a second by which the player is late. -/
def gentleCalls : List (SyncCall × PlaybackSyncOptions) :=
  [(.tick, sampleOptions 0 false), (.tick, sampleOptions 2000 false),
    (sampleObserved 0 99, sampleOptions 2100 false),
    (.settle (.ended 0) (.resolved 0), sampleOptions 2100 false), (.tick, sampleOptions 40000 false)]

/-- The bend of the second is over when it is observed again, half a minute later. -/
theorem drift_correction_bounded_gentle :
    (afterCalls gentleCalls).Bounded ∧ (afterCalls gentleCalls).bendStartedAt = some 2100 ∧
      ((afterCalls gentleCalls).next (sampleOptions 40100 false)
        (sampleObserved 1 99)).bendStartedAt ≠ some 2100 := by
  have step : ∀ (sync : PlaybackSync) (label : SyncCall × PlaybackSyncOptions),
      Succeeds label ∧ sync.Possible label.1 ∧ label.2.getState.buffering = false →
        carefulSystem.Step sync label (sync.next label.2 label.1) :=
    fun _ _ ⟨succeeds, possible, calm⟩ =>
      ⟨⟨succeeds, fun _ buffering => by rw [calm] at buffering; cases buffering⟩, possible, rfl⟩
  obtain ⟨bounded, ends⟩ := @drift_correction_bounded (afterCalls gentleCalls)
    ⟨_, ⟨true, rfl⟩, TransitionSystem.steps_run step gentleCalls {} (by decide +kernel)⟩
  refine ⟨bounded, by decide +kernel, ends _ _ _ 2100 (step _ _ (by decide +kernel)) ?_⟩
  refine ⟨by decide +kernel, by decide +kernel, by decide, ?_⟩
  unfold KeptSign
  decide +kernel

/-- The rate writes succeed, nothing is reset, and source, player and base speed stay the same. -/
def Unbroken (label : SyncCall × PlaybackSyncOptions) : Prop :=
  Succeeds label ∧ label.1 ≠ .reset ∧ label.2.getState.source = some 0 ∧
    label.2.getState.player = some 0 ∧ label.2.getBendBase = some 1

instance (label : SyncCall × PlaybackSyncOptions) : Decidable (Unbroken label) :=
  inferInstanceAs (Decidable (_ ∧ _))

/-- Buffering that an observation finds is forgotten: the seek that follows comes after 3.1 s. -/
theorem drift_correction_forgets_buffering :
    ¬ ∀ sync, (system.restrict fun _ label => Unbroken label).Reachable sync →
      CooldownMark.Spaced 2000 8000 sync.marks := by
  intro spaced
  have step : ∀ (sync : PlaybackSync) (label : SyncCall × PlaybackSyncOptions),
      Unbroken label ∧ sync.Possible label.1 →
        (system.restrict fun _ label => Unbroken label).Step sync label
          (sync.next label.2 label.1) :=
    fun _ _ ⟨unbroken, possible⟩ => ⟨unbroken, possible, rfl⟩
  have reached := spaced _ ⟨_, ⟨true, rfl⟩, TransitionSystem.steps_run step
    [(.tick, sampleOptions 0 false), (.tick, sampleOptions 2000 false),
      (sampleObserved 0 50, sampleOptions 2100 true), (.tick, sampleOptions 3000 false),
      (sampleObserved 1 50, sampleOptions 3100 false)] {} (by decide +kernel)⟩
  rw [show PlaybackSync.marks _ = [.used 3100 true false, .strained, .used 0 false false, .restarted]
    by decide +kernel] at reached
  exact absurd ((reached.1 rfl 0 rfl).2 rfl) (by decide)

end PlaybackSync

end OpenTogetherTube
