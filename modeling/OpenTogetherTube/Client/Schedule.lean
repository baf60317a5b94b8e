import OpenTogetherTube.Client.Collisions
import OpenTogetherTube.Lib.Cut

/-!
# The schedule of the comments

The items are sorted by time, so a time cuts the list. After a tick the cursor is the cut
behind the items of that time, while a replacement searches for the one before them.
-/

namespace OpenTogetherTube.Danmaku

open Lib

/-- The items are sorted by time. -/
def SortedByTime (items : List DanmakuItem) : Prop :=
  items.Pairwise fun earlier later => earlier.time ≤ later.time

variable {items : List DanmakuItem} {time now : ℚ}

theorem SortedByTime.falling_lt (sorted : SortedByTime items) (time : ℚ) :
    Falling (·.time < time) items :=
  sorted.imp fun order before => order.trans_lt before

theorem SortedByTime.falling_le (sorted : SortedByTime items) (time : ℚ) :
    Falling (·.time ≤ time) items :=
  sorted.imp fun order before => order.trans before

/-- The loop keeps the cut between its bounds. -/
theorem lowerBoundFrom_cut (sorted : SortedByTime items) {distance low high : Nat}
    (order : low ≤ high) (inside : high ≤ items.length) (enough : high ≤ low + distance)
    (before : ∀ {index item}, items[index]? = some item → index < low → item.time < time)
    (after : ∀ {index item}, items[index]? = some item → high ≤ index → ¬ item.time < time) :
    Cut (·.time < time) items (lowerBoundFrom items time distance low high) := by
  induction distance generalizing low high with
  | zero =>
      obtain rfl : low = high := by omega
      exact ⟨inside, before, after⟩
  | succ distance ih =>
      unfold lowerBoundFrom
      split
      · next open_ =>
          dsimp only
          generalize middle : (low + high) / 2 = mid
          have inMid : mid < items.length := by omega
          have atMid := List.getElem?_eq_getElem inMid
          rw [atMid, Option.any_some]
          split
          · next less =>
              refine ih (by omega) inside (by omega) ?_ after
              intro index item at_ low_
              have holds : items[mid].time < time := of_decide_eq_true less
              exact (sorted.falling_lt time).earlier (by omega) at_ atMid holds
          · next notLess =>
              refine ih (by omega) (by omega) (by omega) before ?_
              intro index item at_ high_ holds
              have earlier : items[mid].time < time :=
                (sorted.falling_lt time).earlier high_ atMid at_ holds
              exact notLess (decide_eq_true earlier)
      · obtain rfl : low = high := by omega
        exact ⟨inside, before, after⟩

theorem lowerBound_cut (sorted : SortedByTime items) (time : ℚ) :
    Cut (·.time < time) items (lowerBound items time) := by
  refine lowerBoundFrom_cut sorted (Nat.zero_le _) le_rfl (Nat.zero_add _).ge nofun ?_
  intro index item at_ past
  exact absurd (List.getElem?_eq_some_iff.mp at_).1 (not_lt.mpr past)

namespace DanmakuEngine

section Measured

variable {measure : String → ℚ → ℚ≥0} {engine : DanmakuEngine}

theorem offered_schedule (measure : String → ℚ → ℚ≥0) (engine : DanmakuEngine) (now : ℚ)
    (item : DanmakuItem) :
    (engine.offered measure now item).items = engine.items ∧
      (engine.offered measure now item).scheduleIndex = engine.scheduleIndex := by
  unfold offered
  split
  · exact ⟨rfl, rfl⟩
  · dsimp only
    split <;> split <;> exact ⟨rfl, rfl⟩

variable (measure) in
/-- The loop of `spawn` ends behind the items that are due. -/
theorem spawnFrom_cut (engine : DanmakuEngine) (sorted : SortedByTime engine.items)
    (within : engine.scheduleIndex ≤ engine.items.length)
    (before : ∀ {index item}, engine.items[index]? = some item → index < engine.scheduleIndex →
      item.time ≤ now) :
    (spawnFrom measure now (engine.items.drop engine.scheduleIndex) engine).items = engine.items ∧
      Cut (·.time ≤ now) engine.items
        (spawnFrom measure now (engine.items.drop engine.scheduleIndex) engine).scheduleIndex := by
  generalize left_ : engine.items.drop engine.scheduleIndex = rest
  induction rest generalizing engine with
  | nil =>
      refine ⟨rfl, (sorted.falling_le now).cut within before fun item at_ => ?_⟩
      have ended := List.drop_eq_nil_iff.mp left_
      exact absurd (List.getElem?_eq_some_iff.mp at_).1 (not_lt.mpr ended)
  | cons item rest ih =>
      have at_ : engine.items[engine.scheduleIndex]? = some item := by
        rw [← List.head?_drop, left_, List.head?_cons]
      unfold spawnFrom
      split
      · next late =>
          refine ⟨rfl, (sorted.falling_le now).cut within before fun other same => ?_⟩
          rw [at_] at same
          cases same
          exact not_le.mpr late
      · next due =>
          let counted : DanmakuEngine := { engine with scheduleIndex := engine.scheduleIndex + 1 }
          obtain ⟨same, cursor⟩ := offered_schedule measure counted now item
          have inside := (List.getElem?_eq_some_iff.mp at_).1
          have further := ih (counted.offered measure now item)
          rw [same, cursor] at further
          refine further sorted inside ?_ ?_
          · intro index other at_' less
            rcases Nat.lt_succ_iff_lt_or_eq.mp less with earlier | rfl
            · exact before at_' earlier
            · rw [at_] at at_'
              cases at_'
              exact not_lt.mp due
          · rw [← List.drop_drop, left_, List.drop_one, List.tail_cons]

/-- After a tick the cursor is the cut behind the items of the last time. -/
def Scheduled (engine : DanmakuEngine) : Prop :=
  ∀ last, engine.lastTime = some last → Cut (·.time ≤ last) engine.items engine.scheduleIndex

theorem anchored_items (engine : DanmakuEngine) (now : ℚ) :
    (engine.anchored now).items = engine.items := by
  unfold anchored
  split
  · rfl
  · split_ifs <;> rfl

/-- What a tick makes of its time. -/
inductive Anchoring (engine : DanmakuEngine) (now : ℚ) : Prop where
  | first (unknown : engine.lastTime = none)
      (anchored :
        engine.anchored now = { engine with scheduleIndex := lowerBound engine.items now })
      (clock : engine.clock now = now)
  | sought (last : ℚ) (known : engine.lastTime = some last)
      (jumps : BACKWARD_TOLERANCE_SECONDS < last - now ∨ SEEK_GAP_SECONDS < now - last)
      (anchored : engine.anchored now = engine.seekTo now) (clock : engine.clock now = now)
  | held (last : ℚ) (known : engine.lastTime = some last) (back : now < last)
      (anchored : engine.anchored now = engine) (clock : engine.clock now = last)
  | onward (last : ℚ) (known : engine.lastTime = some last) (order : last ≤ now)
      (anchored : engine.anchored now = engine) (clock : engine.clock now = now)

theorem anchoring (engine : DanmakuEngine) (now : ℚ) : engine.Anchoring now := by
  cases known : engine.lastTime with
  | none => exact .first known (by simp only [anchored, known]) (by simp only [clock, known])
  | some last =>
      by_cases back : now < last
      · by_cases far : BACKWARD_TOLERANCE_SECONDS < last - now
        · refine .sought last known (.inl far) ?_ ?_
          · simp only [anchored, known, if_pos back, if_pos far]
          · simp only [clock, known, if_neg (not_and_of_not_right _ (not_le.mpr far))]
        · refine .held last known back ?_ ?_
          · simp only [anchored, known, if_pos back, if_neg far]
          · simp only [clock, known, if_pos (And.intro back (not_lt.mp far))]
      · have moved : engine.clock now = now := by
          simp only [clock, known, if_neg (not_and_of_not_left _ back)]
        by_cases gap : SEEK_GAP_SECONDS < now - last
        · refine .sought last known (.inr gap) ?_ moved
          simp only [anchored, known, if_neg back, if_pos gap]
        · refine .onward last known (not_lt.mp back) ?_ moved
          simp only [anchored, known, if_neg back, if_neg gap]

/-- What lies before the cursor is due at the time of the tick. -/
theorem Scheduled.anchored (scheduled : engine.Scheduled) (sorted : SortedByTime engine.items)
    (now : ℚ) : (engine.anchored now).scheduleIndex ≤ engine.items.length ∧
      ∀ {index item}, engine.items[index]? = some item →
        index < (engine.anchored now).scheduleIndex → item.time ≤ engine.clock now := by
  have sought := lowerBound_cut sorted now
  cases engine.anchoring now with
  | first unknown anchored clock =>
      rw [anchored, clock]
      exact ⟨sought.within, fun at_ less => (sought.before at_ less).le⟩
  | sought last known jumps anchored clock =>
      rw [anchored, clock]
      exact ⟨sought.within, fun at_ less => (sought.before at_ less).le⟩
  | held last known back anchored clock =>
      rw [anchored, clock]
      exact ⟨(scheduled last known).within, (scheduled last known).before⟩
  | onward last known order anchored clock =>
      have cut := scheduled last known
      rw [anchored, clock]
      exact ⟨cut.within, fun at_ less => (cut.before at_ less).trans order⟩

variable (measure) in
/-- A tick moves the cursor behind the items that are due. -/
theorem Scheduled.tick (scheduled : engine.Scheduled) (sorted : SortedByTime engine.items)
    (now : ℚ) : (engine.tick measure now).2.items = engine.items ∧
      Cut (·.time ≤ engine.clock now) engine.items (engine.tick measure now).2.scheduleIndex := by
  have same := anchored_items engine now
  obtain ⟨within, before⟩ := scheduled.anchored sorted now
  rw [← same] at sorted within before ⊢
  exact spawnFrom_cut measure ((engine.anchored now).thinned (engine.clock now)) sorted within
    before

theorem Scheduled.next_tick (scheduled : engine.Scheduled) (sorted : SortedByTime engine.items)
    (now : ℚ) : (engine.tick measure now).2.Scheduled := by
  obtain ⟨items, cut⟩ := scheduled.tick measure sorted now
  intro last known
  obtain rfl : engine.clock now = last := Option.some.inj known
  rw [items]
  exact cut

variable (measure) in
theorem configure_schedule (engine : DanmakuEngine) (changes : PartialConfig) :
    (engine.configure measure changes).items = engine.items ∧
      (engine.configure measure changes).scheduleIndex = engine.scheduleIndex := by
  have settles (actives : List ActiveItem) : ∀ grid : DanmakuEngine,
      (actives.foldl (fun grid active => grid.settle active) grid).items = grid.items ∧
        (actives.foldl (fun grid active => grid.settle active) grid).scheduleIndex =
          grid.scheduleIndex := by
    induction actives with
    | nil => exact fun grid => ⟨rfl, rfl⟩
    | cons active rest ih =>
        intro grid
        obtain ⟨items, cursor⟩ := ih (grid.settle active)
        rw [List.foldl_cons, items, cursor]
        unfold settle
        cases active.item.mode <;> exact ⟨rfl, rfl⟩
  unfold configure
  dsimp only
  split
  · exact settles _ _
  · exact ⟨rfl, rfl⟩

/-- A replacement by the same items moves the cursor back to the cut before the last time. -/
theorem Scheduled.replaceItems_eq (scheduled : engine.Scheduled)
    (sorted : SortedByTime engine.items)
    (unmet : ∀ item ∈ engine.items, engine.lastTime ≠ some item.time) :
    engine.replaceItems engine.items = engine := by
  have moved : engine.lastTime.elim engine.scheduleIndex (lowerBound engine.items) =
      engine.scheduleIndex := by
    cases known : engine.lastTime with
    | none => rfl
    | some last =>
        have agree : ∀ item ∈ engine.items, item.time < last ↔ item.time ≤ last := by
          intro item listed
          have other : item.time ≠ last := fun same => unmet item listed (same ▸ known)
          exact ⟨le_of_lt, fun order => order.lt_of_ne other⟩
        exact (lowerBound_cut sorted last).eq_of_iff (scheduled last known) agree
  unfold replaceItems
  rw [moved]

variable (measure) in
/-- What the ticks among some calls draw. -/
def rendered : List DanmakuCall → DanmakuEngine → List (List DanmakuRenderItem)
  | [], _ => []
  | .tick now :: rest, engine =>
      (engine.tick measure now).1 :: rendered rest (next measure (.tick now) engine)
  | call :: rest, engine => rendered rest (next measure call engine)

/-- A tick, a new configuration, or a replacement by the same items at a time of none of
them. -/
def Unseen (items : List DanmakuItem) (engine : DanmakuEngine) : DanmakuCall → Prop
  | .tick _ | .configure _ => True
  | .replaceItems replacement =>
      replacement = items ∧ ∀ item ∈ items, engine.lastTime ≠ some item.time
  | _ => False

theorem scheduled_of_steps {start : DanmakuEngine} (sorted : SortedByTime items)
    (run : ((system measure).restrict (Unseen items)).Steps (start.setItems items) engine) :
    engine.items = items ∧ engine.Scheduled := by
  refine run.relates (fun engine => engine.items = items ∧ engine.Scheduled) ⟨rfl, nofun⟩ ?_
  rintro before call _ _ ⟨same, scheduled⟩ ⟨unseen, rfl⟩
  subst same
  cases call with
  | tick now => exact ⟨(scheduled.tick measure sorted now).1, scheduled.next_tick sorted now⟩
  | configure changes =>
      obtain ⟨items, cursor⟩ := configure_schedule measure before changes
      refine ⟨items, fun last known => ?_⟩
      have cut := scheduled last ((configure_lastTime changes).symm.trans known)
      rw [← items, ← cursor] at cut
      exact cut
  | replaceItems replacement =>
      obtain ⟨rfl, unmet⟩ := unseen
      have unmoved : next measure (.replaceItems before.items) before = before :=
        scheduled.replaceItems_eq sorted unmet
      rw [unmoved]
      exact ⟨rfl, scheduled⟩
  | setItems items => exact unseen.elim
  | seekTo now => exact unseen.elim
  | reset => exact unseen.elim

/-- In a run over sorted items, replacing them by themselves changes nothing that is drawn
later, if none of them has the time the engine is at, there or at an earlier replacement. -/
theorem replaceItems_unseen {start : DanmakuEngine} (sorted : SortedByTime items)
    (run : ((system measure).restrict (Unseen items)).Steps (start.setItems items) engine)
    (unmet : ∀ item ∈ items, engine.lastTime ≠ some item.time) (later : List DanmakuCall) :
    rendered measure later (engine.replaceItems items) = rendered measure later engine := by
  obtain ⟨rfl, scheduled⟩ := scheduled_of_steps sorted run
  rw [scheduled.replaceItems_eq sorted unmet]

end Measured

/-- Nine lanes. -/
def tallConfig : DanmakuEngineConfig := { sampleConfig with height := 220 }

/-- The engine after a tick over one comment. -/
def tallEngine (now : ℚ) : DanmakuEngine :=
  ((new tallConfig).setItems [sampleItem 0 "abc"] |>.tick sampleMeasure now).2

theorem replaceItems_unseen_sample :
    rendered sampleMeasure [.tick 1] ((tallEngine (1 / 2)).replaceItems [sampleItem 0 "abc"]) =
      rendered sampleMeasure [.tick 1] (tallEngine (1 / 2)) := by
  have sorted : SortedByTime [sampleItem 0 "abc"] := List.pairwise_singleton _ _
  have step : ((system sampleMeasure).restrict (Unseen [sampleItem 0 "abc"])).Step
      ((new tallConfig).setItems [sampleItem 0 "abc"]) (.tick (1 / 2)) (tallEngine (1 / 2)) :=
    ⟨trivial, rfl⟩
  have last : (tallEngine (1 / 2)).lastTime = some (1 / 2) := by decide +kernel
  refine replaceItems_unseen sorted (.single step) (fun item listed => ?_) _
  rw [List.mem_singleton.mp listed, last]
  decide +kernel

/-- A comment at the time of the tick is drawn twice after the replacement. -/
theorem replaceItems_repeats :
    (rendered sampleMeasure [.tick 0] ((tallEngine 0).replaceItems [sampleItem 0 "abc"])).map
        List.length = [2] ∧
      (rendered sampleMeasure [.tick 0] (tallEngine 0)).map List.length = [1] := by
  decide +kernel

end DanmakuEngine

end OpenTogetherTube.Danmaku
