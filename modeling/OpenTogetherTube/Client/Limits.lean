import OpenTogetherTube.Client.Schedule
import OpenTogetherTube.Lib.Admissions

/-!
# The limits of a tick

What one tick lets onto the picture: never more than the settings allow at once, never more
than they allow within a second, and never two comments into one slot.
-/

namespace OpenTogetherTube.Danmaku.DanmakuEngine

open Lib

variable {measure : String → ℚ → ℚ≥0} {engine : DanmakuEngine} {now : ℚ}

/-- The slots of a side. -/
def slots (engine : DanmakuEngine) (mode : DanmakuMode) : List (Option (WithTop ℚ)) :=
  if mode = .top then engine.topSlots else engine.bottomSlots

/-- What the loop of `spawn` does with a comment that is due. -/
inductive Offering (measure : String → ℚ → ℚ≥0) (engine : DanmakuEngine) (now : ℚ)
    (item : DanmakuItem) (after : DanmakuEngine) : Prop where
  | dropped (same : after = engine)
  | launched (passes : ¬ engine.passedOver item) (scrolls : item.mode = .scroll) (textW v : ℚ≥0)
      (lane : Nat) (launched : after = engine.launched now item textW v lane)
  | pinned (passes : ¬ engine.passedOver item) (fixed : item.mode ≠ .scroll) (textW : ℚ≥0)
      (index : Nat) (free : ∃ expireAt, (engine.slots item.mode)[index]? = some expireAt ∧
        ∀ held ∈ expireAt, held ≤ (now : WithTop ℚ))
      (pinned : after = engine.pinned now item textW index)

theorem offered_cases (measure : String → ℚ → ℚ≥0) (engine : DanmakuEngine) (now : ℚ)
    (item : DanmakuItem) :
    Offering measure engine now item (engine.offered measure now item) := by
  unfold offered
  split
  · exact .dropped rfl
  next passes =>
    dsimp only
    split
    · next scrolls =>
        split
        · exact .dropped rfl
        · next lane _ => exact .launched passes scrolls _ _ lane rfl
    · next fixed =>
        split
        · exact .dropped rfl
        · next index found =>
            obtain ⟨inside, free, _⟩ := List.findIdx?_eq_some_iff_getElem.mp found
            refine .pinned passes fixed _ index ⟨_, List.getElem?_eq_getElem inside, ?_⟩ rfl
            intro held same
            rw [same] at free
            exact of_decide_eq_true free

/-- What counting a comment and offering it keep, the loop of `spawn` keeps. -/
theorem spawnFrom_keeps (holds : DanmakuEngine → Prop)
    (kept : ∀ {engine} (item : DanmakuItem), holds engine →
      holds (offered measure { engine with scheduleIndex := engine.scheduleIndex + 1 } now item))
    (items : List DanmakuItem) (start : holds engine) :
    holds (spawnFrom measure now items engine) := by
  induction items generalizing engine with
  | nil => exact start
  | cons item rest ih =>
      unfold spawnFrom
      split
      · exact start
      · exact ih (kept item start)

/-! ## At once -/

/-- A comment is let in only below the limit. -/
theorem offered_active_le {limit : Nat} {item : DanmakuItem}
    (capped : engine.config.maxOnScreen ≤ ((limit : ℚ) : WithTop ℚ)) :
    (engine.offered measure now item).active.length ≤ max engine.active.length limit := by
  have room (passes : ¬ engine.passedOver item) : engine.active.length < limit := by
    have below := not_le.mp (not_or.mp passes).1
    exact Nat.cast_lt.mp (WithTop.coe_lt_coe.mp (below.trans_le capped))
  cases offered_cases measure engine now item with
  | dropped same =>
      rw [same]
      exact le_max_left _ _
  | launched passes scrolls textW v lane after =>
      rw [after]
      simp only [launched, List.length_append, List.length_singleton]
      exact le_max_of_le_right (room passes)
  | pinned passes fixed textW index free after =>
      rw [after]
      simp only [pinned, List.length_append, List.length_singleton]
      exact le_max_of_le_right (room passes)

/-- No tick brings the comments on the picture above the limit of the settings. -/
theorem tick_active_le (engine : DanmakuEngine) (now : ℚ) {limit : Nat}
    (capped : engine.config.maxOnScreen ≤ ((limit : ℚ) : WithTop ℚ)) :
    (engine.tick measure now).2.active.length ≤ max engine.active.length limit := by
  have anchored : (engine.anchored now).active.length ≤ engine.active.length := by
    cases engine.anchoring now with
    | first unknown anchored clock => rw [anchored]
    | sought last known jumps anchored clock =>
        rw [anchored]
        exact Nat.zero_le _
    | held last known back anchored clock => rw [anchored]
    | onward last known order anchored clock => rw [anchored]
  let Bounded (state : DanmakuEngine) : Prop :=
    state.config = engine.config ∧ state.active.length ≤ max engine.active.length limit
  have start : Bounded ((engine.anchored now).thinned (engine.clock now)) :=
    ⟨anchored_config engine now, anchored.trans (le_max_left _ _)⟩
  have spawned : Bounded (spawn measure (engine.clock now) (engine.anchored now)) := by
    refine spawnFrom_keeps Bounded (fun item bounded => ?_) _ start
    obtain ⟨config, bound⟩ := bounded
    refine ⟨(offered_config item).trans config, ?_⟩
    refine (offered_active_le (config ▸ capped)).trans ?_
    exact max_le bound (le_max_right _ _)
  exact (List.length_filter_le _ _).trans spawned.2

/-! ## Within a second -/

/-- The number of comments that a tick lets in. -/
def admits (measure : String → ℚ → ℚ≥0) (engine : DanmakuEngine) (now : ℚ) : Nat :=
  (spawn measure (engine.clock now) (engine.anchored now)).active.length -
    (engine.anchored now).active.length

variable {limit : Nat} {log : List ℚ}

/-- What has been let in at a time since there was a number of comments. -/
def Admitting (limit : Nat) (log : List ℚ) (before : DanmakuEngine) (now : ℚ)
    (engine : DanmakuEngine) : Prop :=
  engine.config = before.config ∧ before.active.length ≤ engine.active.length ∧
    Admissions 1 limit
      (log ++ List.replicate (engine.active.length - before.active.length) now)
      engine.spawnTimes now

theorem Admitting.offered {before : DanmakuEngine}
    (capped : before.config.maxPerSecond ≤ ((limit : ℚ) : WithTop ℚ))
    (admitting : Admitting limit log before now engine) (item : DanmakuItem) :
    Admitting limit log before now
      (engine.offered measure now item) := by
  obtain ⟨config, grown, admissions⟩ := admitting
  have room (passes : ¬ engine.passedOver item) : engine.spawnTimes.length < limit := by
    have below := not_not.mp (not_or.mp (not_or.mp passes).2).1
    rw [config] at below
    exact Nat.cast_lt.mp (WithTop.coe_lt_coe.mp (below.trans_le capped))
  have one : log ++ List.replicate (engine.active.length + 1 - before.active.length) now =
      log ++ List.replicate (engine.active.length - before.active.length) now ++ [now] := by
    rw [Nat.sub_add_comm grown, List.replicate_succ', List.append_assoc]
  refine ⟨(offered_config item).trans config, ?_⟩
  cases offered_cases measure engine now item with
  | dropped same =>
      rw [same]
      exact ⟨grown, admissions⟩
  | launched passes scrolls textW v lane after =>
      rw [after]
      simp only [launched, List.length_append, List.length_singleton]
      rw [one]
      exact ⟨by omega, admissions.admit (room passes)⟩
  | pinned passes fixed textW index free after =>
      rw [after]
      simp only [pinned, List.length_append, List.length_singleton]
      rw [one]
      exact ⟨by omega, admissions.admit (room passes)⟩

variable (measure) in
/-- The loop of `spawn` keeps to the limit of the settings. -/
theorem spawn_admissions (capped : engine.config.maxPerSecond ≤ ((limit : ℚ) : WithTop ℚ))
    (admissions : Admissions 1 limit log engine.spawnTimes now) :
    Admissions 1 limit
      (log ++ List.replicate ((spawn measure now engine).active.length - engine.active.length) now)
      (spawn measure now engine).spawnTimes now := by
  have start : Admitting limit log engine now (engine.thinned now) := by
    refine ⟨rfl, le_rfl, ?_⟩
    rw [thinned, Nat.sub_self, List.replicate_zero, List.append_nil]
    exact admissions.forget
  have kept : ∀ {state : DanmakuEngine} (item : DanmakuItem), Admitting limit log engine now state →
      Admitting limit log engine now
        (offered measure { state with scheduleIndex := state.scheduleIndex + 1 } now item) := by
    intro state item admitting
    have counted : Admitting limit log engine now
        { state with scheduleIndex := state.scheduleIndex + 1 } := admitting
    exact counted.offered capped item
  exact (spawnFrom_keeps (Admitting limit log engine now) kept _ start).2.2

/-! ## In a slot -/

/-- Two comments that are fixed in one slot. -/
def ShareSlot (first second : ActiveItem) : Prop :=
  ¬ first.scrolls ∧ first.item.mode = second.item.mode ∧ first.lane = second.lane

/-- A comment takes a slot only when the one before it has left. -/
structure Slotted (engine : DanmakuEngine) (now : ℚ) : Prop where
  pairs : engine.active.Pairwise fun earlier later =>
    ShareSlot earlier later → earlier.expireAt ≤ (later.startTime : WithTop ℚ)
  held : ∀ active ∈ engine.active, ¬ active.scrolls →
    ∃ expireAt, (engine.slots active.item.mode)[active.lane]? = some (some expireAt) ∧
      active.expireAt ≤ expireAt
  started : ∀ active ∈ engine.active, active.startTime ≤ now

theorem slotted_of_empty (empty : engine.active = []) : engine.Slotted now := by
  refine ⟨?_, ?_, ?_⟩ <;> rw [empty]
  · exact .nil
  · exact nofun
  · exact nofun

theorem Slotted.advance (slotted : engine.Slotted now) {later : ℚ} (elapsed : now ≤ later) :
    engine.Slotted later where
  pairs := slotted.pairs
  held := slotted.held
  started active listed := (slotted.started active listed).trans elapsed

/-- One more comment, in a slot that all before it have left. -/
theorem Slotted.joined (slotted : engine.Slotted now) {after : DanmakuEngine}
    {latest : ActiveItem} (joined : after.active = engine.active ++ [latest])
    (begins : latest.startTime = now)
    (left_ : ∀ active ∈ engine.active, ShareSlot active latest →
      active.expireAt ≤ (now : WithTop ℚ))
    (held : ∀ active ∈ engine.active ++ [latest], ¬ active.scrolls →
      ∃ expireAt, (after.slots active.item.mode)[active.lane]? = some (some expireAt) ∧
        active.expireAt ≤ expireAt) : after.Slotted now where
  pairs := by
    rw [joined]
    refine List.pairwise_append.mpr ⟨slotted.pairs, List.pairwise_singleton _ _, ?_⟩
    intro active listed last same shared
    obtain rfl := List.mem_singleton.mp same
    rw [begins]
    exact left_ active listed shared
  held := by
    rw [joined]
    exact held
  started := by
    rw [joined]
    intro active listed
    rcases List.mem_append.mp listed with before | last
    · exact slotted.started active before
    · rw [List.mem_singleton.mp last, begins]

theorem pinned_slots (engine : DanmakuEngine) (item : DanmakuItem) (textW : ℚ≥0) (index : Nat)
    (mode : DanmakuMode) : (engine.pinned now item textW index).slots mode =
      if (mode = .top ↔ item.mode = .top) then
        (engine.slots mode).set index (some ((now + FIXED_DURATION : ℚ) : WithTop ℚ))
      else engine.slots mode := by
  unfold slots pinned
  by_cases side : mode = .top <;> by_cases own : item.mode = .top <;> simp [side, own]

/-- The sides of fixed comments. -/
theorem mode_eq_iff {first second : DanmakuMode} (fixed : first ≠ .scroll)
    (other : second ≠ .scroll) : first = second ↔ (first = .top ↔ second = .top) := by
  revert fixed other
  cases first <;> cases second <;> decide

theorem Slotted.offered (slotted : engine.Slotted now) (item : DanmakuItem) :
    (engine.offered measure now item).Slotted now := by
  cases offered_cases measure engine now item with
  | dropped same =>
      rw [same]
      exact slotted
  | launched passes scrolls textW v lane after =>
      rw [after]
      refine slotted.joined rfl rfl (fun active listed shared => ?_) fun active listed fixed => ?_
      · exact absurd (shared.2.1.trans scrolls) shared.1
      · rcases List.mem_append.mp listed with before | last
        · exact slotted.held active before fixed
        · obtain rfl := List.mem_singleton.mp last
          exact absurd scrolls fixed
  | pinned passes fixed textW index free after =>
      rw [after]
      obtain ⟨expireAt, found, passed⟩ := free
      have inside := (List.getElem?_eq_some_iff.mp found).1
      have left_ : ∀ active ∈ engine.active, ¬ active.scrolls → active.item.mode = item.mode →
          active.lane = index → active.expireAt ≤ (now : WithTop ℚ) := by
        intro active listed still same lane
        obtain ⟨held, at_, within⟩ := slotted.held active listed still
        rw [same, lane, found] at at_
        cases at_
        exact within.trans (passed held rfl)
      have later : (now : WithTop ℚ) ≤ ((now + FIXED_DURATION : ℚ) : WithTop ℚ) :=
        WithTop.coe_le_coe.mpr (le_add_of_nonneg_right (by decide +kernel))
      refine slotted.joined rfl rfl (fun active listed shared => ?_) fun active listed still => ?_
      · exact left_ active listed shared.1 shared.2.1 shared.2.2
      · rcases List.mem_append.mp listed with before | last
        · obtain ⟨held, at_, within⟩ := slotted.held active before still
          rw [pinned_slots]
          split
          · next side =>
              have same := (mode_eq_iff still fixed).mpr side
              by_cases lane : active.lane = index
              · refine ⟨_, ?_, (left_ active before still same lane).trans later⟩
                rw [lane, same]
                exact List.getElem?_set_self inside
              · exact ⟨held, (List.getElem?_set_ne (Ne.symm lane)).trans at_, within⟩
          · exact ⟨held, at_, within⟩
        · obtain rfl := List.mem_singleton.mp last
          rw [pinned_slots]
          dsimp only
          rw [if_pos Iff.rfl]
          exact ⟨_, List.getElem?_set_self inside, le_rfl⟩

theorem Slotted.spawn (slotted : engine.Slotted now) : (spawn measure now engine).Slotted now := by
  have start : (engine.thinned now).Slotted now :=
    ⟨slotted.pairs, slotted.held, slotted.started⟩
  have kept : ∀ {state : DanmakuEngine} (item : DanmakuItem), Slotted state now →
      Slotted (DanmakuEngine.offered measure
        { state with scheduleIndex := state.scheduleIndex + 1 } now item) now := by
    intro state item slotted
    have counted : Slotted { state with scheduleIndex := state.scheduleIndex + 1 } now :=
      ⟨slotted.pairs, slotted.held, slotted.started⟩
    exact counted.offered item
  exact spawnFrom_keeps (fun state => Slotted state now) kept _ start

/-- No two of the comments that are drawn are fixed in one slot. -/
theorem Slotted.render (slotted : engine.Slotted now) :
    (engine.render now).2.Slotted now ∧
      (engine.render now).2.active.Pairwise fun first second => ¬ ShareSlot first second := by
  have left_ : (engine.render now).2.Slotted now :=
    ⟨slotted.pairs.sublist List.filter_sublist,
      fun active listed => slotted.held active (List.mem_of_mem_filter listed),
      fun active listed => slotted.started active (List.mem_of_mem_filter listed)⟩
  refine ⟨left_, left_.pairs.imp_of_mem fun {first second} drawn listed apart shared => ?_⟩
  have present := (List.mem_filter.mp drawn).2
  rw [onScreen, if_neg shared.1, decide_eq_true_eq] at present
  have started : (second.startTime : WithTop ℚ) ≤ (now : WithTop ℚ) :=
    WithTop.coe_le_coe.mpr (left_.started second listed)
  exact absurd ((apart shared).trans started) (not_le.mpr present)

end OpenTogetherTube.Danmaku.DanmakuEngine
