import Mathlib.Order.CompletePartialOrder
import Mathlib.Order.Interval.Set.Disjoint
import OpenTogetherTube.Client.Danmaku
import OpenTogetherTube.Lib.Transition

/-!
# Comments that share a lane

In a lane that keeps its order, each comment keeps clear of those behind it. The lane test of the engine
is half of that: it says when the one behind does not catch up, but not whether the one ahead has left the
edge where the other begins, and a new geometry is not tested at all. What is missing is the condition
here: with it no tick draws two comments of a lane over each other.
-/

namespace OpenTogetherTube.Danmaku

open Lib

/-! ## Comments as movers -/

namespace ScrollOccupant

/-- The left edge as it moves. -/
def head (occupant : ScrollOccupant) (width : ℚ≥0) (now : ℚ) : Mover ℚ :=
  ⟨occupant.x width now, occupant.v⟩

/-- The right edge as it moves. -/
def back (occupant : ScrollOccupant) (width : ℚ≥0) (now : ℚ) : Mover ℚ :=
  ⟨occupant.tail width now, occupant.v⟩

/-- The one behind is not over the one ahead, and not at the left end before that one has left. -/
def KeepsClear (width : ℚ≥0) (now : ℚ) (ahead behind : ScrollOccupant) : Prop :=
  ahead.tail width now ≤ 0 ∨ ahead.tail width now ≤ behind.x width now ∧
    ahead.tail width now * behind.v ≤ behind.x width now * ahead.v

instance (width : ℚ≥0) (now : ℚ) (ahead behind : ScrollOccupant) :
    Decidable (KeepsClear width now ahead behind) :=
  inferInstanceAs (Decidable (_ ∨ _ ∧ _))

variable {width : ℚ≥0} {now : ℚ} {ahead middle behind : ScrollOccupant}

theorem keepsClear_iff :
    KeepsClear width now ahead behind ↔ (ahead.back width now).ClearOf (behind.head width now) := by
  have slow : 0 ≤ (ahead.back width now).speed := ahead.v.2
  have test : (ahead.back width now).ClearOf (behind.head width now) ↔ _ := Mover.clearOf_iff slow
  exact test.symm

theorem head_after (occupant : ScrollOccupant) (time : ℚ) :
    (occupant.head width now).after time = occupant.head width (now + time) := by
  unfold head x Mover.after
  congr 1
  dsimp only
  ring

theorem back_after (occupant : ScrollOccupant) (time : ℚ) :
    (occupant.back width now).after time = occupant.back width (now + time) := by
  unfold back tail x Mover.after
  congr 1
  dsimp only
  ring

theorem KeepsClear.later (clear : KeepsClear width now ahead behind) {later : ℚ}
    (elapsed : now ≤ later) : KeepsClear width later ahead behind := by
  have moved := (keepsClear_iff.mp clear).after (sub_nonneg.mpr elapsed)
  rw [head_after, back_after, add_sub_cancel] at moved
  exact keepsClear_iff.mpr moved

theorem x_le_tail (occupant : ScrollOccupant) : occupant.x width now ≤ occupant.tail width now :=
  le_add_of_nonneg_right occupant.textW.2

theorem KeepsClear.trans (first : KeepsClear width now ahead middle)
    (second : KeepsClear width now middle behind) : KeepsClear width now ahead behind := by
  have length : (middle.head width now).position ≤ (middle.back width now).position :=
    middle.x_le_tail
  exact keepsClear_iff.mpr
    ((keepsClear_iff.mp first).trans length rfl (keepsClear_iff.mp second))

/-- What keeps clear is not over the other as long as that one is there. -/
theorem KeepsClear.tail_le (clear : KeepsClear width now ahead behind)
    (present : 0 < ahead.tail width now) : ahead.tail width now ≤ behind.x width now :=
  (keepsClear_iff.mp clear).position_le present

/-- The test of the engine, behind a comment that is on the picture as a whole. -/
theorem keepsClear_of_leavesRoom {textW v : ℚ≥0}
    (room : DanmakuEngine.leavesRoom width ahead now v) (entered : ahead.tail width now ≤ width) :
    KeepsClear width now ahead { startTime := now, textW, v } := by
  have begins : x { startTime := now, textW, v } width now = width := by
    unfold x
    rw [sub_self, mul_zero, sub_zero]
  refine .inr ⟨begins ▸ entered, ?_⟩
  rw [begins]
  have moving : (0 : ℚ) < v := NNRat.coe_pos.mpr (pos_of_ne_zero room.1)
  have slower := mul_le_mul_of_nonneg_right room.2 moving.le
  rwa [mul_assoc, div_mul_cancel₀ _ moving.ne'] at slower

end ScrollOccupant

/-! ## Lanes in order -/

/-- Two comments that scroll in one lane. -/
def ShareLane (first second : ActiveItem) : Prop :=
  first.scrolls ∧ second.scrolls ∧ first.lane = second.lane

instance (first second : ActiveItem) : Decidable (ShareLane first second) :=
  inferInstanceAs (Decidable (_ ∧ _ ∧ _))

namespace DanmakuEngine

/-- In each lane the comments keep clear of those behind them, and of the one the lane remembers. -/
structure Orderly (engine : DanmakuEngine) (now : ℚ) : Prop where
  pairs : engine.active.Pairwise fun ahead behind => ShareLane ahead behind →
    ScrollOccupant.KeepsClear engine.config.width now ahead.occupant behind.occupant
  remembered : ∀ active ∈ engine.active, active.scrolls →
    ∃ occupant, engine.scrollLanes[active.lane]? = some (some occupant) ∧
      (active.occupant = occupant ∨
        ScrollOccupant.KeepsClear engine.config.width now active.occupant occupant)

variable {engine : DanmakuEngine} {now : ℚ}

theorem Orderly.later (orderly : engine.Orderly now) {later : ℚ} (elapsed : now ≤ later) :
    engine.Orderly later where
  pairs := orderly.pairs.imp fun clear shared => (clear shared).later elapsed
  remembered := by
    intro active flying scrolls
    obtain ⟨occupant, lane, same | clear⟩ := orderly.remembered active flying scrolls
    · exact ⟨occupant, lane, .inl same⟩
    · exact ⟨occupant, lane, .inr (clear.later elapsed)⟩

/-- A comment in a lane keeps clear of whatever the one that the lane remembers keeps clear of. -/
theorem Orderly.behind_remembered (orderly : engine.Orderly now) {active : ActiveItem}
    {behind occupant : ScrollOccupant} (flying : active ∈ engine.active) (scrolls : active.scrolls)
    (lane : engine.scrollLanes[active.lane]? = some (some occupant))
    (clear : ScrollOccupant.KeepsClear engine.config.width now occupant behind) :
    ScrollOccupant.KeepsClear engine.config.width now active.occupant behind := by
  obtain ⟨known, found, rest⟩ := orderly.remembered active flying scrolls
  rw [lane] at found
  cases found
  rcases rest with same | ahead
  · rw [same]
    exact clear
  · exact ahead.trans clear

/-- A comment begins in a lane where what it remembers keeps clear of it. -/
theorem Orderly.launched (orderly : engine.Orderly now) {item : DanmakuItem} {textW v : ℚ≥0}
    {lane : Nat} (inside : lane < engine.scrollLanes.length)
    (clear : ∀ occupant, engine.scrollLanes[lane]? = some (some occupant) →
      ScrollOccupant.KeepsClear engine.config.width now occupant { startTime := now, textW, v }) :
    (engine.launched now item textW v lane).Orderly now := by
  have set_ : (engine.scrollLanes.set lane (some { startTime := now, textW, v }))[lane]? =
      some (some { startTime := now, textW, v }) := by
    rw [List.getElem?_set_self inside]
  have ahead : ∀ active ∈ engine.active, active.scrolls → active.lane = lane →
      ScrollOccupant.KeepsClear engine.config.width now active.occupant
        { startTime := now, textW, v } := by
    rintro active flying scrolls rfl
    obtain ⟨occupant, found, -⟩ := orderly.remembered active flying scrolls
    exact orderly.behind_remembered flying scrolls found (clear occupant found)
  refine ⟨List.pairwise_append.mpr ⟨orderly.pairs, List.pairwise_singleton _ _, ?_⟩, ?_⟩
  · intro active flying last latest shared
    obtain rfl := List.mem_singleton.mp latest
    exact ahead active flying shared.1 shared.2.2
  · intro active flying scrolls
    rcases List.mem_append.mp flying with before | latest
    · by_cases same : active.lane = lane
      · exact ⟨_, same ▸ set_, .inr (ahead active before scrolls same)⟩
      · obtain ⟨occupant, found, rest⟩ := orderly.remembered active before scrolls
        refine ⟨occupant, ?_, rest⟩
        exact (List.getElem?_set_ne (Ne.symm same)).trans found
    · obtain rfl := List.mem_singleton.mp latest
      exact ⟨_, set_, .inl rfl⟩

/-- A comment that is pinned is in nobody's way. -/
theorem Orderly.pinned (orderly : engine.Orderly now) {item : DanmakuItem} {textW : ℚ≥0}
    {index : Nat} (fixed : item.mode ≠ .scroll) : (engine.pinned now item textW index).Orderly now := by
  refine ⟨List.pairwise_append.mpr ⟨orderly.pairs, List.pairwise_singleton _ _, ?_⟩, ?_⟩
  · intro active _ last latest shared
    obtain rfl := List.mem_singleton.mp latest
    exact absurd shared.2.1 fixed
  · intro active flying scrolls
    rcases List.mem_append.mp flying with before | latest
    · exact orderly.remembered active before scrolls
    · obtain rfl := List.mem_singleton.mp latest
      exact absurd scrolls fixed

/-! ## Comments that fly -/

section Measured

variable (measure : String → ℚ → ℚ≥0)

/-- The comment that the next one would begin behind, if that one gets a lane with something in it. -/
def inFront (engine : DanmakuEngine) (now : ℚ) (item : DanmakuItem) : Option ScrollOccupant :=
  if engine.passedOver item ∨ item.mode ≠ .scroll then none
  else
    (engine.findScrollLane now (engine.config.velocity (measure item.text engine.config.fontPx))).bind
      fun lane => engine.scrollLanes[lane]?.join

/-- That comment is on the picture as a whole. -/
def Entered (engine : DanmakuEngine) (now : ℚ) (item : DanmakuItem) : Prop :=
  ∀ occupant ∈ engine.inFront measure now item,
    occupant.tail engine.config.width now ≤ engine.config.width

instance (engine : DanmakuEngine) (now : ℚ) (item : DanmakuItem) :
    Decidable (engine.Entered measure now item) :=
  inferInstanceAs (Decidable (∀ occupant ∈ engine.inFront measure now item, _ ≤ _))

/-- It is so for each comment that the loop of `spawn` lets in. -/
def SpawnsEntered (now : ℚ) : List DanmakuItem → DanmakuEngine → Prop
  | [], _ => True
  | item :: rest, engine =>
      item.time ≤ now →
        let next := { engine with scheduleIndex := engine.scheduleIndex + 1 }
        next.Entered measure now item ∧ SpawnsEntered now rest (next.offered measure now item)

instance decidableSpawnsEntered (now : ℚ) : (items : List DanmakuItem) → (engine : DanmakuEngine) →
    Decidable (SpawnsEntered measure now items engine)
  | [], _ => .isTrue trivial
  | item :: rest, engine =>
      let next : DanmakuEngine := { engine with scheduleIndex := engine.scheduleIndex + 1 }
      have := decidableSpawnsEntered now rest (next.offered measure now item)
      inferInstanceAs (Decidable (item.time ≤ now → next.Entered measure now item ∧ _))

/-- The comments on the picture, scrolling or not, as a tick or a new configuration finds them. -/
structure Flying (engine : DanmakuEngine) (now : ℚ) : Prop where
  widths : ∀ active ∈ engine.active, active.scrolls →
    active.textW = measure active.item.text engine.config.fontPx
  started : ∀ active ∈ engine.active, active.startTime ≤ now
  sorted : engine.active.Pairwise fun first second => first.startTime ≤ second.startTime
  orderly : engine.config.antiCollision = true → engine.Orderly now

variable {measure}

theorem flying_of_empty (empty : engine.active = []) : engine.Flying measure now := by
  refine ⟨?_, ?_, ?_, fun _ => ⟨?_, ?_⟩⟩ <;> rw [empty]
  · exact nofun
  · exact nofun
  · exact .nil
  · exact .nil
  · exact nofun

theorem Flying.later (flying : engine.Flying measure now) {later : ℚ} (elapsed : now ≤ later) :
    engine.Flying measure later where
  widths := flying.widths
  started active listed := (flying.started active listed).trans elapsed
  sorted := flying.sorted
  orderly on := (flying.orderly on).later elapsed

theorem findScrollLaneFrom_spec {v : ℚ≥0} {index lane : Nat} {oldest : Option Nat}
    {lanes : List (Option ScrollOccupant)} (on : engine.config.antiCollision = true)
    (found : engine.findScrollLaneFrom now v index oldest lanes = some lane) :
    ∃ further < lanes.length, lane = index + further ∧
      ∀ occupant, lanes[further]? = some (some occupant) →
        leavesRoom engine.config.width occupant now v := by
  induction lanes generalizing index with
  | nil =>
      rw [findScrollLaneFrom, if_pos on] at found
      cases found
  | cons first rest ih =>
      cases first with
      | none =>
          rw [findScrollLaneFrom] at found
          cases found
          exact ⟨0, Nat.succ_pos _, rfl, nofun⟩
      | some occupant =>
          rw [findScrollLaneFrom, if_pos on] at found
          split at found
          · next room =>
              cases found
              refine ⟨0, Nat.succ_pos _, rfl, fun other same => ?_⟩
              cases same
              exact room
          · obtain ⟨further, inside, rfl, room⟩ := ih found
            exact ⟨further + 1, Nat.succ_lt_succ inside, by omega, room⟩

/-- With anti-collision on, the lane is free or what it remembers leaves room. -/
theorem findScrollLane_spec {v : ℚ≥0} {lane : Nat} (on : engine.config.antiCollision = true)
    (found : engine.findScrollLane now v = some lane) :
    lane < engine.scrollLanes.length ∧ ∀ occupant,
      engine.scrollLanes[lane]? = some (some occupant) →
        leavesRoom engine.config.width occupant now v := by
  obtain ⟨further, inside, same, room⟩ := findScrollLaneFrom_spec on found
  obtain rfl : lane = further := by omega
  exact ⟨inside, room⟩

/-- One more comment flies. -/
theorem Flying.joined (flying : engine.Flying measure now) {next : DanmakuEngine}
    {latest : ActiveItem} (joined : next.active = engine.active ++ [latest])
    (config : next.config = engine.config) (begins : latest.startTime = now)
    (width : latest.textW = measure latest.item.text engine.config.fontPx)
    (orderly : engine.config.antiCollision = true → next.Orderly now) :
    next.Flying measure now where
  widths := by
    rw [joined, config]
    intro active listed scrolls
    rcases List.mem_append.mp listed with before | last
    · exact flying.widths active before scrolls
    · obtain rfl := List.mem_singleton.mp last
      exact width
  started := by
    rw [joined]
    intro active listed
    rcases List.mem_append.mp listed with before | last
    · exact flying.started active before
    · obtain rfl := List.mem_singleton.mp last
      exact begins.le
  sorted := by
    rw [joined]
    refine List.pairwise_append.mpr ⟨flying.sorted, List.pairwise_singleton _ _, ?_⟩
    intro active before last listed
    obtain rfl := List.mem_singleton.mp listed
    rw [begins]
    exact flying.started active before
  orderly on := orderly (config ▸ on)

/-- One round of `spawn`. -/
theorem Flying.offered (flying : engine.Flying measure now) {item : DanmakuItem}
    (entered : engine.config.antiCollision = true → engine.Entered measure now item) :
    (engine.offered measure now item).Flying measure now := by
  unfold DanmakuEngine.offered
  split
  · exact flying
  next taken =>
    dsimp only
    split
    · next scrolls =>
        split
        · exact flying
        · next lane found =>
            refine flying.joined rfl rfl rfl rfl fun on => ?_
            obtain ⟨inside, room⟩ := findScrollLane_spec on found
            refine (flying.orderly on).launched inside fun occupant remembered => ?_
            have front : engine.inFront measure now item = some occupant := by
              unfold inFront
              rw [if_neg (not_or.mpr ⟨taken, not_not.mpr scrolls⟩), found, Option.bind_some,
                remembered, Option.join_some]
            exact ScrollOccupant.keepsClear_of_leavesRoom (room occupant remembered)
              (entered on occupant front)
    · next fixed =>
        split
        · exact flying
        · exact flying.joined rfl rfl rfl rfl fun on => (flying.orderly on).pinned fixed

theorem offered_config (item : DanmakuItem) :
    (engine.offered measure now item).config = engine.config := by
  unfold DanmakuEngine.offered
  split
  · rfl
  · dsimp only
    split <;> split <;> rfl

/-- The loop of `spawn`. -/
theorem Flying.spawnFrom {items : List DanmakuItem} (flying : engine.Flying measure now)
    (entered : engine.config.antiCollision = true → SpawnsEntered measure now items engine) :
    (spawnFrom measure now items engine).Flying measure now := by
  induction items generalizing engine with
  | nil => exact flying
  | cons item rest ih =>
      unfold DanmakuEngine.spawnFrom
      split
      · exact flying
      next due =>
        have counted : DanmakuEngine.Flying measure
            { engine with scheduleIndex := engine.scheduleIndex + 1 } now :=
          ⟨flying.widths, flying.started, flying.sorted, fun on =>
            ⟨(flying.orderly on).pairs, (flying.orderly on).remembered⟩⟩
        refine ih (counted.offered fun on => ?_) fun on => ?_
        · exact (entered on (not_lt.mp due)).1
        · rw [offered_config] at on
          exact (entered on (not_lt.mp due)).2

/-! ## Ticks -/

/-- What flies after the last tick, or nothing when there was none. -/
structure Aloft (measure : String → ℚ → ℚ≥0) (engine : DanmakuEngine) : Prop where
  still : engine.lastTime = none → engine.active = []
  flying : ∀ last, engine.lastTime = some last → engine.Flying measure last

theorem aloft_of_empty (empty : engine.active = []) : engine.Aloft measure :=
  ⟨fun _ => empty, fun _ _ => flying_of_empty empty⟩

/-- Before the loop of `spawn`: either nothing flies, or what does has flown on. -/
theorem Aloft.anchored (aloft : engine.Aloft measure) (now : ℚ) :
    (engine.anchored now).Flying measure (engine.clock now) := by
  unfold DanmakuEngine.anchored clock
  cases last : engine.lastTime with
  | none => exact flying_of_empty (aloft.still last)
  | some last_ =>
      have flying := aloft.flying last_ last
      dsimp only
      by_cases back : now < last_
      · rw [if_pos back]
        by_cases far : BACKWARD_TOLERANCE_SECONDS < last_ - now
        · rw [if_pos far]
          exact flying_of_empty rfl
        · rw [if_neg far, if_pos ⟨back, not_lt.mp far⟩]
          exact flying
      · have moved : ¬ (now < last_ ∧ last_ - now ≤ BACKWARD_TOLERANCE_SECONDS) :=
          fun held => back held.1
        rw [if_neg back, if_neg moved]
        split
        · exact flying_of_empty rfl
        · exact flying.later (not_lt.mp back)

/-- What is left on the picture. -/
theorem Flying.render (flying : engine.Flying measure now) :
    (engine.render now).2.Flying measure now where
  widths active listed := flying.widths active (List.mem_of_mem_filter listed)
  started active listed := flying.started active (List.mem_of_mem_filter listed)
  sorted := flying.sorted.sublist List.filter_sublist
  orderly on :=
    ⟨(flying.orderly on).pairs.sublist List.filter_sublist, fun active listed =>
      (flying.orderly on).remembered active (List.mem_of_mem_filter listed)⟩

/-- In the loop of a tick each comment begins behind one that is on the picture as a whole. -/
def TickEntered (measure : String → ℚ → ℚ≥0) (engine : DanmakuEngine) (now : ℚ) : Prop :=
  let anchored := engine.anchored now
  let time := engine.clock now
  SpawnsEntered measure time (anchored.items.drop anchored.scheduleIndex) (anchored.thinned time)

instance (measure : String → ℚ → ℚ≥0) (engine : DanmakuEngine) (now : ℚ) :
    Decidable (engine.TickEntered measure now) :=
  inferInstanceAs (Decidable (SpawnsEntered measure _ _ _))

theorem anchored_config (engine : DanmakuEngine) (now : ℚ) :
    (engine.anchored now).config = engine.config := by
  unfold DanmakuEngine.anchored
  split
  · rfl
  · split
    · split <;> rfl
    · split <;> rfl

theorem spawnFrom_config (items : List DanmakuItem) (engine : DanmakuEngine) :
    (spawnFrom measure now items engine).config = engine.config := by
  induction items generalizing engine with
  | nil => rfl
  | cons item rest ih =>
      unfold DanmakuEngine.spawnFrom
      split
      · rfl
      · rw [ih, offered_config]

theorem tick_config (engine : DanmakuEngine) :
    (engine.tick measure now).2.config = engine.config :=
  (spawnFrom_config _ _).trans (anchored_config engine now)

theorem Aloft.tick (aloft : engine.Aloft measure)
    (entered : engine.config.antiCollision = true → engine.TickEntered measure now) :
    (engine.tick measure now).2.Flying measure (engine.clock now) := by
  have anchored := aloft.anchored now
  have thinned : ((engine.anchored now).thinned (engine.clock now)).Flying measure
      (engine.clock now) :=
    ⟨anchored.widths, anchored.started, anchored.sorted, fun on =>
      ⟨(anchored.orderly on).pairs, (anchored.orderly on).remembered⟩⟩
  have spawned := thinned.spawnFrom fun on => entered ((anchored_config engine now) ▸ on)
  have timed : DanmakuEngine.Flying measure
      { spawn measure (engine.clock now) (engine.anchored now) with
        lastTime := some (engine.clock now) } (engine.clock now) :=
    ⟨spawned.widths, spawned.started, spawned.sorted, fun on =>
      ⟨(spawned.orderly on).pairs, (spawned.orderly on).remembered⟩⟩
  exact timed.render

/-! ## Pictures -/

/-- The horizontal extent of what is drawn of a comment. -/
def extent (measure : String → ℚ → ℚ≥0) (engine : DanmakuEngine) (now : ℚ) (active : ActiveItem) :
    Set ℚ :=
  Set.Ico (engine.drawn now active).x
    ((engine.drawn now active).x + measure active.item.text engine.config.fontPx)

/-- No two comments that scroll in one lane are drawn over each other. -/
def Apart (measure : String → ℚ → ℚ≥0) (engine : DanmakuEngine) (now : ℚ) : Prop :=
  engine.active.Pairwise fun first second => ShareLane first second →
    Disjoint (engine.extent measure now first) (engine.extent measure now second)

instance (measure : String → ℚ → ℚ≥0) (engine : DanmakuEngine) (now : ℚ)
    (first second : ActiveItem) :
    Decidable (Disjoint (engine.extent measure now first) (engine.extent measure now second)) :=
  decidable_of_iff _ Set.Ico_disjoint_Ico.symm

instance (measure : String → ℚ → ℚ≥0) (engine : DanmakuEngine) (now : ℚ) :
    Decidable (engine.Apart measure now) :=
  inferInstanceAs (Decidable (List.Pairwise _ _))

theorem Flying.apart (flying : engine.Flying measure now)
    (visible : ∀ active ∈ engine.active, engine.onScreen now active = true)
    (on : engine.config.antiCollision = true) : engine.Apart measure now := by
  refine (flying.orderly on).pairs.imp_of_mem fun {ahead behind} first second clear shared => ?_
  have present : 0 < ahead.occupant.tail engine.config.width now := by
    have shown := visible ahead first
    rw [onScreen, if_pos shared.1] at shown
    exact of_decide_eq_true shown
  have apart := (clear shared).tail_le present
  have width := flying.widths ahead first shared.1
  refine Set.disjoint_left.mpr fun point inFirst inSecond => ?_
  have right : point < ahead.occupant.tail engine.config.width now := by
    have below := inFirst.2
    rw [drawn, if_pos shared.1, ← width] at below
    exact below
  have left : behind.occupant.x engine.config.width now ≤ point := by
    have above := inSecond.1
    rw [drawn, if_pos shared.2.1] at above
    exact above
  exact absurd (right.trans_le (apart.trans left)) (lt_irrefl point)

end Measured

end DanmakuEngine

end OpenTogetherTube.Danmaku
