import Mathlib.Algebra.Order.Ring.Abs
import Mathlib.Tactic.Linarith
import Mathlib.Tactic.NormNum
import OpenTogetherTube.Client.PlaybackSync

/-!
# The bent rate

While no bend is in progress the player has been given a base speed last; while one is, the rate it
has been given lies within the largest bend of the base, and the bend's deadline no more than thirty
seconds after it began, as long as the drift has kept its sign. Each function that writes a rate
keeps this, where the writes succeed.
-/

namespace OpenTogetherTube

/-- The last rate that was written. -/
def lastRate : List SyncEvent → Option ℚ
  | [] => none
  | .wroteRate rate _ :: _ => some rate
  | _ :: earlier => lastRate earlier

/-- The base speeds when a bend was over last. -/
def lastOver : List SyncEvent → Option BaseSpeeds
  | [] => none
  | .bendOver speeds :: _ => some speeds
  | _ :: earlier => lastOver earlier

/-- The drifts measured since the last bend began, with the one it began at. -/
def bendDrifts : List SyncEvent → List ℚ
  | [] => []
  | .bendBegan _ drift :: _ => [drift]
  | .measured drift :: earlier => drift :: bendDrifts earlier
  | _ :: earlier => bendDrifts earlier

/-- The drift has had one sign since the last bend began. -/
def KeptSign (trace : List SyncEvent) : Prop :=
  ∀ drift ∈ bendDrifts trace, ∀ other ∈ bendDrifts trace, SignType.sign drift = SignType.sign other

/-- A rate within 15% of the base speed of the moment, or of the one the bend is using. -/
def BaseSpeeds.Allow (speeds : BaseSpeeds) (rate : ℚ) : Prop :=
  ∃ base, speeds.Has base ∧ 85 / 100 * base ≤ rate ∧ rate ≤ 115 / 100 * base

def RatesInRange (trace : List SyncEvent) : Prop :=
  ∀ rate speeds, .wroteRate rate speeds ∈ trace → speeds.Allow rate

/-- The last rate is within 0.002 of a base speed of when a bend was over last. -/
def AtBase (trace : List SyncEvent) : Prop :=
  ∀ rate ∈ lastRate trace, ∃ speeds ∈ lastOver trace, ∃ base, speeds.Has base ∧
    |rate - base| ≤ 2 / 1000

/-- An event that is neither the writing of a rate nor the begin or the end of a bend. -/
def SyncEvent.IsQuiet : SyncEvent → Prop
  | .wroteRate _ _ => False
  | .bendBegan _ _ => False
  | .bendOver _ => False
  | _ => True

section Trace

variable {event : SyncEvent} {trace : List SyncEvent}

theorem lastRate_quiet (quiet : event.IsQuiet) (trace : List SyncEvent) :
    lastRate (event :: trace) = lastRate trace := by
  cases event <;> first | rfl | exact quiet.elim

theorem lastOver_quiet (quiet : event.IsQuiet) (trace : List SyncEvent) :
    lastOver (event :: trace) = lastOver trace := by
  cases event <;> first | rfl | exact quiet.elim

theorem bendDrifts_subset_quiet (quiet : event.IsQuiet) (trace : List SyncEvent) :
    bendDrifts trace ⊆ bendDrifts (event :: trace) := by
  cases event with
  | measured drift => exact List.subset_cons_self drift _
  | wroteRate => exact quiet.elim
  | bendBegan => exact quiet.elim
  | bendOver => exact quiet.elim
  | _ => exact List.Subset.refl _

theorem RatesInRange.cons (inRange : RatesInRange trace)
    (allowed : ∀ rate speeds, event = .wroteRate rate speeds → speeds.Allow rate) :
    RatesInRange (event :: trace) := by
  intro rate speeds listed
  rcases List.mem_cons.mp listed with first | rest
  · exact allowed rate speeds first.symm
  · exact inRange rate speeds rest

theorem KeptSign.anti {later : List SyncEvent} (kept : KeptSign later)
    (fewer : bendDrifts trace ⊆ bendDrifts later) : KeptSign trace :=
  fun drift listed other also => kept drift (fewer listed) other (fewer also)

end Trace

/-- What the rates depend on. -/
structure RateView where
  takesRate : Bool
  bendStartedAt : Option Nat
  bendBase : Option ℚ
  bendOffset : Option ℚ
  appliedRate : Option ℚ
  bendDeadlineAt : ℚ
  trace : List SyncEvent

namespace RateView

structure Idle (view : RateView) : Prop where
  bendStartedAt : view.bendStartedAt = none
  bendBase : view.bendBase = none
  bendOffset : view.bendOffset = none
  appliedRate : view.appliedRate = none
  atBase : AtBase view.trace

structure Bent (view : RateView) (began : Nat) (base offset : ℚ) : Prop where
  bendStartedAt : view.bendStartedAt = some began
  bendBase : view.bendBase = some base
  bendOffset : view.bendOffset = some offset
  takesRate : view.takesRate = true
  positive : 0 < base
  bounded : |offset| ≤ catchupMaxBend
  applied : ∀ rate ∈ view.appliedRate, lastRate view.trace = some rate
  directed : ∃ drift ∈ bendDrifts view.trace, SignType.sign drift = SignType.sign offset
  deadline : KeptSign view.trace → view.bendDeadlineAt ≤ began + 30000

/-- The rates written are in range, and the player has the rate that it should have. -/
structure Rated (view : RateView) : Prop where
  inRange : RatesInRange view.trace
  bend : view.Idle ∨ ∃ began base offset, view.Bent began base offset

variable {view : RateView} {event : SyncEvent} {began : Nat} {base offset : ℚ}

/-- Nothing changes for the rates with an event that is quiet about them. -/
theorem Rated.quiet (rated : view.Rated) (quiet : event.IsQuiet) :
    Rated { view with trace := event :: view.trace } where
  inRange := rated.inRange.cons fun rate speeds isWrite => by
    rw [isWrite] at quiet
    exact quiet.elim
  bend := by
    have rate := lastRate_quiet quiet view.trace
    have sameEnd := lastOver_quiet quiet view.trace
    have more := bendDrifts_subset_quiet quiet view.trace
    rcases rated.bend with idle | ⟨began, base, offset, bent⟩
    · refine .inl ⟨idle.bendStartedAt, idle.bendBase, idle.bendOffset, idle.appliedRate, ?_⟩
      rw [AtBase, rate, sameEnd]
      exact idle.atBase
    · obtain ⟨drift, listed, same⟩ := bent.directed
      refine .inr ⟨began, base, offset, ?_⟩
      exact
        { bent with
          applied := by rw [rate]; exact bent.applied
          directed := ⟨drift, more listed, same⟩
          deadline := fun kept => bent.deadline (kept.anti more) }

end RateView

theorem bendCeiling_pos (magnitude : ℚ) : 0 < bendCeiling magnitude := by
  unfold bendCeiling
  split
  case isTrue => norm_num [maxBend]
  case isFalse large =>
    have past : 0 ≤ min magnitude hardSeekDrift - catchupFull := by
      have above : catchupFull ≤ hardSeekDrift := by norm_num [catchupFull, hardSeekDrift]
      exact sub_nonneg.mpr (le_min (not_le.mp large).le above)
    rw [catchupFull, hardSeekDrift] at past
    norm_num only [maxBend, catchupMaxBend, catchupFull, hardSeekDrift]
    linarith

theorem bendCeiling_le (magnitude : ℚ) : bendCeiling magnitude ≤ catchupMaxBend := by
  unfold bendCeiling
  split
  case isTrue => norm_num [maxBend, catchupMaxBend]
  case isFalse =>
    have most : min magnitude 3 ≤ (3 : ℚ) := min_le_right magnitude 3
    norm_num only [maxBend, catchupMaxBend, catchupFull, hardSeekDrift]
    linarith

/-- No drift is given more than thirty seconds. -/
theorem bendDeadlineMs_le (magnitude ceiling : ℚ) : bendDeadlineMs magnitude ceiling ≤ 30000 :=
  min_le_left _ _

theorem sign_bendOffset (drift : ℚ) :
    SignType.sign (SignType.sign drift * bendCeiling |drift|) = SignType.sign drift := by
  rw [sign_mul, sign_pos (bendCeiling_pos |drift|), mul_one]
  rcases lt_trichotomy drift 0 with negative | zero | positive
  · rw [sign_neg negative]
    rfl
  · rw [zero, sign_zero]
    rfl
  · rw [sign_pos positive]
    rfl

theorem abs_bendOffset_le (drift : ℚ) :
    |SignType.sign drift * bendCeiling (abs drift)| ≤ catchupMaxBend := by
  have positive := bendCeiling_pos |drift|
  have unit : |(SignType.sign drift : ℚ)| ≤ 1 := by
    cases SignType.sign drift <;> norm_num
  calc |SignType.sign drift * bendCeiling (abs drift)|
      = |(SignType.sign drift : ℚ)| * bendCeiling |drift| := by
        rw [abs_mul, abs_of_pos positive]
    _ ≤ 1 * bendCeiling |drift| := mul_le_mul_of_nonneg_right unit positive.le
    _ ≤ catchupMaxBend := by
        rw [one_mul]
        exact bendCeiling_le |drift|

/-- A bent rate is in range. -/
theorem BaseSpeeds.Has.allow {speeds : BaseSpeeds} {base offset : ℚ} (has : speeds.Has base)
    (positive : 0 < base) (bounded : |offset| ≤ catchupMaxBend) :
    speeds.Allow (base * (1 + offset)) := by
  obtain ⟨lower, upper⟩ := abs_le.mp bounded
  rw [catchupMaxBend] at lower upper
  refine ⟨base, has, ?_, ?_⟩
  · nlinarith
  · nlinarith

namespace PlaybackSync

variable {options : PlaybackSyncOptions} {sync : PlaybackSync} {rate base drift : ℚ}
  {request : Option Nat}

def rates (sync : PlaybackSync) : RateView where
  takesRate := sync.takesRate
  bendStartedAt := sync.bendStartedAt
  bendBase := sync.bendBase
  bendOffset := sync.bendOffset
  appliedRate := sync.appliedRate
  bendDeadlineAt := sync.bendDeadlineAt
  trace := sync.trace

theorem awaitEnd_rates : (sync.awaitEnd request).rates = sync.rates := by
  cases request <;> rfl

theorem finish_rates (request : Nat) : (sync.finish request).rates = sync.rates := by
  unfold finish
  split <;> rfl

theorem getBendBase_spec (isBase : sync.getBendBase options = some base) :
    sync.takesRate = true ∧ 0 < base := by
  unfold getBendBase at isBase
  grind

theorem setRate_rates (takes : sync.takesRate = true) (succeeds : options.setLocalRate ≠ .threw) :
    (sync.setRate options rate request).rates =
      { sync.rates with
        appliedRate := some rate
        trace := .wroteRate rate (sync.baseSpeeds options) :: sync.trace } := by
  unfold setRate
  dsimp only
  rw [if_neg (by simp [takes])]
  cases reply : options.setLocalRate with
  | returned => exact awaitEnd_rates
  | promised => rfl
  | threw => exact absurd reply succeeds

/-- A rate is written, or the applied rate is close to it already. -/
theorem writeRate_rates (takes : sync.takesRate = true) (succeeds : options.setLocalRate ≠ .threw) :
    (sync.writeRate options rate request).rates =
        { sync.rates with
          appliedRate := some rate
          trace := .wroteRate rate (sync.baseSpeeds options) :: sync.trace } ∨
      (sync.writeRate options rate request).rates = sync.rates ∧
        ∃ applied, sync.appliedRate = some applied ∧ |rate - applied| ≤ rateWriteThreshold := by
  unfold writeRate
  split
  case h_1 applied isApplied =>
    split
    case isTrue close => exact .inr ⟨awaitEnd_rates, applied, isApplied, close⟩
    case isFalse => exact .inl (setRate_rates takes succeeds)
  case h_2 => exact .inl (setRate_rates takes succeeds)

/-- A bend goes on at the rate that it asks for. -/
theorem writeRate_bent {began : Nat} {offset : ℚ} (bent : sync.rates.Bent began base offset)
    (inRange : RatesInRange sync.trace) (succeeds : options.setLocalRate ≠ .threw) :
    (sync.writeRate options (base * (1 + offset)) request).rates.Bent began base offset ∧
      RatesInRange (sync.writeRate options (base * (1 + offset)) request).rates.trace := by
  have allowed : (sync.baseSpeeds options).Allow (base * (1 + offset)) :=
    BaseSpeeds.Has.allow (.inr bent.bendBase) bent.positive bent.bounded
  rcases @writeRate_rates options sync (base * (1 + offset)) request bent.takesRate succeeds with
    written | ⟨same, -⟩
  · rw [written]
    refine ⟨{ bent with applied := fun rate isRate => isRate }, inRange.cons ?_⟩
    rintro rate speeds ⟨⟩
    exact allowed
  · rw [same]
    exact ⟨bent, inRange⟩

/-- A bend that is cancelled leaves the player at a base speed. -/
theorem cancelBend_rates (rated : sync.rates.Rated) (succeeds : options.setLocalRate ≠ .threw) :
    (sync.cancelBend options).rates.Idle ∧ RatesInRange (sync.cancelBend options).rates.trace ∧
      (sync.cancelBend options).rates.takesRate = sync.takesRate := by
  suffices restored : AtBase (sync.restoreRate options).rates.trace ∧
      RatesInRange (sync.restoreRate options).rates.trace ∧
        (sync.restoreRate options).rates.takesRate = sync.takesRate from
    ⟨⟨rfl, rfl, rfl, rfl, restored.1⟩, restored.2⟩
  unfold restoreRate
  rcases rated.bend with idle | ⟨began, bendBase, offset, bent⟩
  · rw [show sync.bendStartedAt = none from idle.bendStartedAt]
    exact ⟨idle.atBase, rated.inRange, rfl⟩
  · rw [show sync.bendStartedAt = some began from bent.bendStartedAt,
      show sync.bendBase = some bendBase from bent.bendBase]
    obtain ⟨base, isBase, positive, has⟩ : ∃ base,
        (sync.getBendBase options).or (some bendBase) = some base ∧ 0 < base ∧
          (sync.baseSpeeds options).Has base := by
      cases current : sync.getBendBase options with
      | none => exact ⟨bendBase, rfl, bent.positive, .inr bent.bendBase⟩
      | some base => exact ⟨base, rfl, (getBendBase_spec current).2, .inl current⟩
    rw [isBase]
    dsimp only
    have inRange : RatesInRange (.bendOver (sync.baseSpeeds options) :: sync.trace) :=
      rated.inRange.cons nofun
    rcases @writeRate_rates options (sync.record (.bendOver (sync.baseSpeeds options))) base none
      bent.takesRate succeeds with written | ⟨same, applied, isApplied, close⟩
    · rw [written]
      refine ⟨?_, inRange.cons ?_, rfl⟩
      · rintro rate ⟨⟩
        exact ⟨_, rfl, base, has, by norm_num⟩
      · rintro rate speeds ⟨⟩
        have allowed := @BaseSpeeds.Has.allow _ _ 0 has positive (by norm_num [catchupMaxBend])
        rwa [add_zero, mul_one] at allowed
    · rw [same]
      refine ⟨fun rate isRate => ⟨_, rfl, base, has, ?_⟩, inRange, rfl⟩
      have last : lastRate sync.rates.trace = some rate := isRate
      rw [bent.applied applied isApplied, Option.some_inj] at last
      rw [← last, abs_sub_comm]
      exact close

theorem cancelBend_rated (rated : sync.rates.Rated) (succeeds : options.setLocalRate ≠ .threw) :
    (sync.cancelBend options).rates.Rated :=
  ⟨(cancelBend_rates rated succeeds).2.1, .inl (cancelBend_rates rated succeeds).1⟩

/-- A bend that begins or goes on. What it began at stays, unless there was none. -/
theorem holdBend_rates (rated : sync.rates.Rated) (takes : sync.takesRate = true)
    (positive : 0 < base) (same : ∀ other ∈ sync.bendBase, other = base)
    (measured : sync.bendStartedAt.isSome = true → drift ∈ bendDrifts sync.trace)
    (request : Nat) (succeeds : options.setLocalRate ≠ .threw) :
    (sync.holdBend options base drift request).rates.Rated ∧
      (sync.holdBend options base drift request).bendStartedAt =
        some (sync.bendStartedAt.getD options.now) := by
  have bounded := abs_bendOffset_le drift
  suffices held : ∃ offset, (sync.holdBend options base drift request).rates.Bent
      (sync.bendStartedAt.getD options.now) base offset ∧
        RatesInRange (sync.holdBend options base drift request).rates.trace by
    obtain ⟨offset, bent, inRange⟩ := held
    exact ⟨⟨inRange, .inr ⟨_, base, offset, bent⟩⟩, bent.bendStartedAt⟩
  have short := bendDeadlineMs_le |drift| (bendCeiling |drift|)
  unfold holdBend
  rcases rated.bend with idle | ⟨began, bendBase, offset, bent⟩
  · rw [show sync.bendStartedAt = none from idle.bendStartedAt]
    refine ⟨_, writeRate_bent ⟨rfl, rfl, rfl, takes, positive, bounded, ?_, ?_, ?_⟩
      (rated.inRange.cons nofun) succeeds⟩
    · intro rate isRate
      cases idle.appliedRate.symm.trans isRate
    · exact ⟨drift, List.mem_singleton_self drift, (sign_bendOffset drift).symm⟩
    · exact fun _ => add_le_add_right short _
  · cases same bendBase bent.bendBase
    rw [show sync.bendStartedAt.getD options.now = began from
      congrArg (Option.getD · options.now) bent.bendStartedAt]
    have measured := measured (congrArg Option.isSome bent.bendStartedAt)
    have isOffset : ∀ other ∈ sync.bendOffset, other = offset := fun other isOther =>
      Option.some.inj (isOther.symm.trans bent.bendOffset)
    split
    case h_1 none => cases none.symm.trans bent.bendStartedAt
    case h_2 _ started =>
      cases Option.some.inj (started.symm.trans bent.bendStartedAt)
      dsimp only
      split
      case isTrue turned =>
        obtain ⟨other, isOther, turned⟩ := turned
        rw [isOffset other isOther] at turned
        refine ⟨_, writeRate_bent { bent with
          bendBase := rfl, bendOffset := rfl, bounded, directed := ?_, deadline := ?_ } rated.inRange
          succeeds⟩
        · exact ⟨drift, measured, (sign_bendOffset drift).symm⟩
        · intro kept
          obtain ⟨other, listed, directed⟩ := bent.directed
          exact absurd (directed.symm.trans (kept other listed drift measured)) turned
      case isFalse =>
        split
        case isTrue =>
          have late : (began : ℚ) + bendDeadlineMs |drift| (bendCeiling |drift|) ≤ began + 30000 :=
            add_le_add_right short _
          unfold growBend
          dsimp only
          split
          case isTrue =>
            exact ⟨_, writeRate_bent { bent with
              bendBase := rfl, bendOffset := rfl, bounded, deadline := fun _ => late
              directed := ⟨drift, measured, (sign_bendOffset drift).symm⟩ } rated.inRange succeeds⟩
          case isFalse =>
            rw [finish_rates]
            exact ⟨offset, { bent with bendBase := rfl, deadline := fun _ => late }, rated.inRange⟩
        case isFalse =>
          have held : ({ sync with bendBase := some base } : PlaybackSync).rates.Bent began base
            offset := { bent with bendBase := rfl }
          split
          case h_1 isRetried =>
            rw [isOffset _ isRetried]
            exact ⟨offset, writeRate_bent held rated.inRange succeeds⟩
          case h_2 =>
            rw [finish_rates]
            exact ⟨offset, held, rated.inRange⟩

end PlaybackSync

end OpenTogetherTube
