import Mathlib.Data.List.Pairwise
import OpenTogetherTube.Client.DanmakuLanes

/-!
# Runs of the danmaku engine

Ticks, new configurations, new tracks and seeks in any order. A new geometry puts the comments that fly
into the lanes there are now; they have to keep clear of each other there.
-/

namespace OpenTogetherTube.Danmaku

open Lib

/-- If the two share a lane, the one that started later keeps clear of the other. -/
def InOrder (width : ℚ≥0) (now : ℚ) (first second : ActiveItem) : Prop :=
  ShareLane first second →
    (first.startTime ≤ second.startTime →
      ScrollOccupant.KeepsClear width now first.occupant second.occupant) ∧
    (second.startTime ≤ first.startTime →
      ScrollOccupant.KeepsClear width now second.occupant first.occupant)

instance (width : ℚ≥0) (now : ℚ) : Std.Symm (InOrder width now) where
  symm _ _ ordered shared := (ordered ⟨shared.2.1, shared.1, shared.2.2.symm⟩).symm

/-! ## Lanes of a new geometry -/

namespace DanmakuEngine

/-- Each lane remembers one of its comments, and none that started later is there. -/
structure Remembered (settled : List ActiveItem) (lanes : List (Option ScrollOccupant)) : Prop where
  kept : ∀ index occupant, lanes[index]? = some (some occupant) →
    ∃ active ∈ settled, active.scrolls ∧ active.lane = index ∧ active.occupant = occupant
  latest : ∀ active ∈ settled, active.scrolls →
    ∃ occupant, lanes[active.lane]? = some (some occupant) ∧ active.startTime ≤ occupant.startTime

variable {engine : DanmakuEngine} {settled : List ActiveItem} {lanes : List (Option ScrollOccupant)}

/-- A comment that takes over its lane is the latest in it. -/
theorem Remembered.replaced (remembered : Remembered settled lanes) {active : ActiveItem}
    (scrolls : active.scrolls) (inside : active.lane < lanes.length)
    (later : ∀ occupant, lanes[active.lane]? = some (some occupant) →
      occupant.startTime ≤ active.startTime) :
    Remembered (settled ++ [active]) (lanes.set active.lane (some active.occupant)) := by
  refine ⟨fun index occupant found => ?_, fun other listed flies => ?_⟩
  · by_cases same : active.lane = index
    · rw [← same, List.getElem?_set_self inside] at found
      cases found
      exact ⟨active, List.mem_concat_self, scrolls, same, rfl⟩
    · rw [List.getElem?_set_ne same] at found
      obtain ⟨before, listed, rest⟩ := remembered.kept index occupant found
      exact ⟨before, List.mem_append_left _ listed, rest⟩
  · by_cases same : active.lane = other.lane
    · refine ⟨active.occupant, ?_, ?_⟩
      · rw [← same, List.getElem?_set_self inside]
      · rcases List.mem_append.mp listed with before | last
        · obtain ⟨occupant, found, least⟩ := remembered.latest other before flies
          exact least.trans (later occupant (same ▸ found))
        · obtain rfl := List.mem_singleton.mp last
          exact le_rfl
    · rcases List.mem_append.mp listed with before | last
      · obtain ⟨occupant, found, least⟩ := remembered.latest other before flies
        exact ⟨occupant, (List.getElem?_set_ne same).trans found, least⟩
      · obtain rfl := List.mem_singleton.mp last
        exact absurd rfl same

theorem Remembered.occupy (remembered : Remembered settled lanes) {active : ActiveItem}
    (scrolls : active.scrolls) (inside : active.lane < lanes.length) :
    Remembered (settled ++ [active]) (occupy active lanes) := by
  unfold DanmakuEngine.occupy
  split
  · next free =>
      refine remembered.replaced scrolls inside fun occupant found => ?_
      rw [found] at free
      cases free
  · next current found =>
      have there : lanes[active.lane]? = some (some current) := Option.join_eq_some_iff.mp found
      split
      · next older =>
          refine remembered.replaced scrolls inside fun occupant other => ?_
          rw [there] at other
          cases other
          exact older.le
      · next latest =>
          refine ⟨fun index occupant kept => ?_, fun other listed flies => ?_⟩
          · obtain ⟨before, listed, rest⟩ := remembered.kept index occupant kept
            exact ⟨before, List.mem_append_left _ listed, rest⟩
          · rcases List.mem_append.mp listed with before | last
            · exact remembered.latest other before flies
            · obtain rfl := List.mem_singleton.mp last
              exact ⟨current, there, not_lt.mp latest⟩

theorem occupy_length (active : ActiveItem) (lanes : List (Option ScrollOccupant)) :
    (occupy active lanes).length = lanes.length := by
  unfold DanmakuEngine.occupy
  split
  · exact List.length_set
  · split
    · exact List.length_set
    · rfl

/-- The tables after the comments took their places. -/
theorem foldl_settle (actives : List ActiveItem) (engine : DanmakuEngine) :
    (actives.foldl (fun engine active => engine.settle active) engine).active = engine.active ∧
      (actives.foldl (fun engine active => engine.settle active) engine).config = engine.config ∧
      (actives.foldl (fun engine active => engine.settle active) engine).lastTime =
        engine.lastTime := by
  induction actives generalizing engine with
  | nil => exact ⟨rfl, rfl, rfl⟩
  | cons active rest ih =>
      obtain ⟨flying, config, last⟩ := ih (engine.settle active)
      rw [List.foldl_cons, flying, config, last]
      unfold settle
      cases active.item.mode <;> exact ⟨rfl, rfl, rfl⟩

theorem foldl_settle_remembered {actives : List ActiveItem}
    (remembered : Remembered settled engine.scrollLanes)
    (inside : ∀ active ∈ actives, active.scrolls → active.lane < engine.scrollLanes.length) :
    Remembered (settled ++ actives)
      (actives.foldl (fun engine active => engine.settle active) engine).scrollLanes := by
  induction actives generalizing settled engine with
  | nil =>
      rw [List.append_nil]
      exact remembered
  | cons active rest ih =>
      rw [List.foldl_cons, List.append_cons]
      have next : Remembered (settled ++ [active]) (engine.settle active).scrollLanes ∧
          (engine.settle active).scrollLanes.length = engine.scrollLanes.length := by
        by_cases scrolls : active.scrolls
        · have same : (engine.settle active).scrollLanes = occupy active engine.scrollLanes := by
            unfold settle
            rw [show active.item.mode = .scroll from scrolls]
          rw [same, occupy_length]
          exact ⟨remembered.occupy scrolls (inside active List.mem_cons_self scrolls), rfl⟩
        · have same : (engine.settle active).scrollLanes = engine.scrollLanes := by
            unfold settle
            cases mode : active.item.mode with
            | scroll => exact absurd mode scrolls
            | top => rfl
            | bottom => rfl
          rw [same]
          refine ⟨⟨fun index occupant kept => ?_, fun other listed flies => ?_⟩, rfl⟩
          · obtain ⟨before, listed, rest⟩ := remembered.kept index occupant kept
            exact ⟨before, List.mem_append_left _ listed, rest⟩
          · rcases List.mem_append.mp listed with before | last
            · exact remembered.latest other before flies
            · obtain rfl := List.mem_singleton.mp last
              exact absurd flies scrolls
      refine ih next.1 fun other listed flies => ?_
      rw [next.2]
      exact inside other (List.mem_cons_of_mem _ listed) flies

/-- Where each of two comments of a lane keeps clear of the earlier one, the lanes are in order. -/
theorem orderly_of_inOrder {now : ℚ} (remembered : Remembered engine.active engine.scrollLanes)
    (sorted : engine.active.Pairwise fun first second => first.startTime ≤ second.startTime)
    (ordered : engine.active.Pairwise (InOrder engine.config.width now)) : engine.Orderly now where
  pairs := (sorted.and ordered).imp fun both shared => (both.2 shared).1 both.1
  remembered := by
    intro active flying scrolls
    obtain ⟨occupant, found, least⟩ := remembered.latest active flying scrolls
    obtain ⟨latest, listed, flies, lane, rfl⟩ := remembered.kept active.lane occupant found
    refine ⟨latest.occupant, found, ?_⟩
    by_cases same : active = latest
    · exact .inl (same ▸ rfl)
    · exact .inr ((ordered.forall flying listed same ⟨scrolls, flies, lane.symm⟩).1 least)

/-! ## New configurations -/

variable {measure : String → ℚ → ℚ≥0} {now : ℚ}

/-- The comments that fly, in the lanes and with the speeds of a new geometry. -/
def replaced (measure : String → ℚ → ℚ≥0) (engine : DanmakuEngine) (config : DanmakuEngineConfig) :
    List ActiveItem :=
  engine.active.map ((rebuildLanes { engine with config }).remapped measure)

/-- A new configuration that leaves anti-collision on finds the comments that fly clear of each other:
where it changes the geometry, as they are placed there; where it turns anti-collision on, as they are. -/
def Fits (measure : String → ℚ → ℚ≥0) (engine : DanmakuEngine) (changes : PartialConfig) : Prop :=
  let config := engine.config.with_ changes
  config.antiCollision = true → ∀ last, engine.lastTime = some last →
    if geometryChanged config engine.config then
      (engine.replaced measure config).Pairwise (InOrder config.width last)
    else engine.config.antiCollision = false → engine.Orderly last

theorem remapped_startTime (active : ActiveItem) :
    (engine.remapped measure active).startTime = active.startTime := by
  unfold remapped
  dsimp only
  split <;> rfl

theorem remapped_item (active : ActiveItem) :
    (engine.remapped measure active).item = active.item := by
  unfold remapped
  dsimp only
  split <;> rfl

theorem remapped_scrolls_iff (active : ActiveItem) :
    (engine.remapped measure active).scrolls ↔ active.scrolls := by
  unfold ActiveItem.scrolls
  rw [remapped_item]

theorem remapped_textW {active : ActiveItem} (scrolls : active.scrolls) :
    (engine.remapped measure active).textW = measure active.item.text engine.config.fontPx := by
  unfold remapped
  rw [if_pos scrolls]

theorem remapped_lane {active : ActiveItem} (scrolls : active.scrolls) :
    (engine.remapped measure active).lane ≤ engine.scrollLanes.length - 1 := by
  unfold remapped
  rw [if_pos scrolls]
  exact min_le_right _ _

/-- There is a lane, and none remembers anything yet. -/
theorem rebuildLanes_empty (engine : DanmakuEngine) :
    0 < (rebuildLanes engine).scrollLanes.length ∧
      Remembered [] (rebuildLanes engine).scrollLanes := by
  unfold rebuildLanes
  dsimp only
  refine ⟨?_, fun index occupant found => ?_, nofun⟩
  · rw [List.length_replicate]
    have one := le_max_left (1 : ℤ)
    omega
  · rw [List.getElem?_replicate] at found
    split at found
    · cases found
    · cases found

variable (measure) in
/-- What `remapActive` leaves, but for the tables. -/
theorem remapActive_fields (grid : DanmakuEngine) :
    (grid.remapActive measure).active = grid.active.map (grid.remapped measure) ∧
      (grid.remapActive measure).config = grid.config ∧
      (grid.remapActive measure).lastTime = grid.lastTime :=
  foldl_settle _ { grid with active := grid.active.map (grid.remapped measure) }

variable (measure) in
theorem remapActive_remembered {grid : DanmakuEngine} (one : 0 < grid.scrollLanes.length)
    (empty : Remembered [] grid.scrollLanes) :
    Remembered (grid.active.map (grid.remapped measure)) (grid.remapActive measure).scrollLanes := by
  have inside : ∀ active ∈ grid.active.map (grid.remapped measure), active.scrolls →
      active.lane < grid.scrollLanes.length := by
    intro active listed flies
    obtain ⟨before, -, rfl⟩ := List.mem_map.mp listed
    have lane : (grid.remapped measure before).lane ≤ grid.scrollLanes.length - 1 :=
      remapped_lane ((remapped_scrolls_iff before).mp flies)
    omega
  have start : Remembered []
      { grid with active := grid.active.map (grid.remapped measure) }.scrollLanes := empty
  exact foldl_settle_remembered start inside

/-- The comments that fly in a new geometry. -/
theorem Flying.remapActive {config : DanmakuEngineConfig} (flying : engine.Flying measure now)
    (ordered : config.antiCollision = true →
      (engine.replaced measure config).Pairwise (InOrder config.width now)) :
    ((rebuildLanes { engine with config }).remapActive measure).Flying measure now := by
  obtain ⟨one, empty⟩ := rebuildLanes_empty { engine with config }
  have remembered := remapActive_remembered measure one empty
  obtain ⟨active, kept, -⟩ :=
    remapActive_fields measure (rebuildLanes { engine with config })
  have sorted : (engine.replaced measure config).Pairwise fun first second =>
      first.startTime ≤ second.startTime := by
    refine List.pairwise_map.mpr (flying.sorted.imp fun {first second} order => ?_)
    rw [remapped_startTime, remapped_startTime]
    exact order
  refine ⟨?_, ?_, ?_, fun on => orderly_of_inOrder ?_ ?_ ?_⟩
  · rw [active, kept]
    intro active listed flies
    obtain ⟨before, -, rfl⟩ := List.mem_map.mp listed
    rw [remapped_item]
    exact remapped_textW ((remapped_scrolls_iff before).mp flies)
  · rw [active]
    intro active listed
    obtain ⟨before, flown, rfl⟩ := List.mem_map.mp listed
    rw [remapped_startTime]
    exact flying.started before flown
  · rw [active]
    exact sorted
  · rw [active]
    exact remembered
  · rw [active]
    exact sorted
  · rw [kept] at on ⊢
    rw [active]
    exact ordered on

theorem Flying.configure (flying : engine.Flying measure now) {changes : PartialConfig}
    (last : engine.lastTime = some now) (fits : engine.Fits measure changes) :
    (engine.configure measure changes).Flying measure now := by
  unfold Fits at fits
  dsimp only at fits
  unfold DanmakuEngine.configure
  dsimp only
  by_cases changed : geometryChanged (engine.config.with_ changes) engine.config
  · rw [if_pos changed]
    refine flying.remapActive fun on => ?_
    have ordered := fits on now last
    rw [if_pos changed] at ordered
    exact ordered
  · rw [if_neg changed]
    obtain ⟨width, -, font, -⟩ : (engine.config.with_ changes).width = engine.config.width ∧
        (engine.config.with_ changes).height = engine.config.height ∧
        (engine.config.with_ changes).fontPx = engine.config.fontPx ∧
        (engine.config.with_ changes).area = engine.config.area := by
      simpa only [geometryChanged, not_or, not_not] using changed
    refine ⟨?_, flying.started, flying.sorted, fun on => ?_⟩
    · dsimp only
      rw [font]
      exact flying.widths
    · have orderly : engine.Orderly now := by
        cases off : engine.config.antiCollision with
        | true => exact flying.orderly off
        | false =>
            have clear := fits on now last
            rw [if_neg changed] at clear
            exact clear off
      refine ⟨?_, ?_⟩
      · dsimp only
        rw [width]
        exact orderly.pairs
      · dsimp only
        rw [width]
        exact orderly.remembered

/-! ## Runs -/

/-- A call of the engine. -/
inductive DanmakuCall where
  | tick (now : ℚ)
  | configure (changes : PartialConfig)
  | setItems (items : List DanmakuItem)
  | replaceItems (items : List DanmakuItem)
  | seekTo (now : ℚ)
  | reset

section Runs

variable (measure : String → ℚ → ℚ≥0)

/-- The engine after a call. -/
def next : DanmakuCall → DanmakuEngine → DanmakuEngine
  | .tick now, engine => (engine.tick measure now).2
  | .configure changes, engine => engine.configure measure changes
  | .setItems items, engine => engine.setItems items
  | .replaceItems items, engine => engine.replaceItems items
  | .seekTo now, engine => engine.seekTo now
  | .reset, engine => engine.reset

/-- An engine of any configuration and any calls. -/
def system : TransitionSystem DanmakuEngine DanmakuCall where
  Initial engine := ∃ config, engine = new config
  Step before call after := after = next measure call before

/-- With anti-collision on, each comment begins behind one that is on the picture as a whole, and a new
configuration finds the comments that fly clear of each other. -/
def Spaced (engine : DanmakuEngine) : DanmakuCall → Prop
  | .tick now => engine.config.antiCollision = true → engine.TickEntered measure now
  | .configure changes => engine.Fits measure changes
  | _ => True

variable {measure}

theorem configure_lastTime (changes : PartialConfig) :
    (engine.configure measure changes).lastTime = engine.lastTime := by
  unfold DanmakuEngine.configure
  dsimp only
  split
  · exact (remapActive_fields measure _).2.2
  · rfl

theorem configure_active (changes : PartialConfig) (empty : engine.active = []) :
    (engine.configure measure changes).active = [] := by
  unfold DanmakuEngine.configure
  dsimp only
  split
  · rw [(remapActive_fields measure _).1]
    show engine.active.map _ = []
    rw [empty, List.map_nil]
  · exact empty

theorem Aloft.next (aloft : engine.Aloft measure) {call : DanmakuCall}
    (spaced : engine.Spaced measure call) : (next measure call engine).Aloft measure := by
  cases call with
  | tick now =>
      refine ⟨nofun, fun last same => ?_⟩
      cases same
      exact aloft.tick spaced
  | configure changes =>
      refine ⟨fun none_ => ?_, fun last same => ?_⟩
      · exact configure_active changes (aloft.still ((configure_lastTime changes).symm.trans none_))
      · have last_ := (configure_lastTime changes).symm.trans same
        exact (aloft.flying last last_).configure last_ spaced
  | setItems items => exact aloft_of_empty rfl
  | replaceItems items =>
      refine ⟨aloft.still, fun last same => ?_⟩
      have flying := aloft.flying last same
      exact ⟨flying.widths, flying.started, flying.sorted, fun on =>
        ⟨(flying.orderly on).pairs, (flying.orderly on).remembered⟩⟩
  | seekTo now => exact aloft_of_empty rfl
  | reset => exact aloft_of_empty rfl

theorem aloft_of_reachable (reachable : ((system measure).restrict (Spaced measure)).Reachable engine) :
    engine.Aloft measure := by
  have invariant : TransitionSystem.Inductive ((system measure).restrict (Spaced measure))
      (Aloft measure) :=
    { initial := by
        rintro _ ⟨config, rfl⟩
        exact aloft_of_empty rfl
      preserved := by
        rintro before call _ aloft ⟨spaced, rfl⟩
        exact aloft.next spaced }
  exact invariant.of_reachable reachable

theorem reachable_next (reachable : ((system measure).restrict (Spaced measure)).Reachable engine)
    (call : DanmakuCall) (spaced : engine.Spaced measure call) :
    ((system measure).restrict (Spaced measure)).Reachable (next measure call engine) :=
  reachable.steps (.single ⟨spaced, rfl⟩)

end Runs

/-- Six tenths of the font size for each character. -/
def sampleMeasure (text : String) (fontPx : ℚ) : ℚ≥0 := (text.length * fontPx * (3 / 5)).toNNRat

/-- One lane of 120 pixels, crossed in eight seconds. -/
def sampleConfig : DanmakuEngineConfig where
  width := 120
  height := 44
  fontPx := 20
  scrollDuration := ⟨8, by decide⟩
  speed := 1
  antiCollision := true
  maxOnScreen := (100 : ℚ)
  blockScroll := false
  blockTop := false
  blockBottom := false
  blockColored := false
  area := .full
  maxPerSecond := ⊤

-- 198 / (12 * 1.1) is fifteen, and just below it in doubles
example : (new { sampleConfig with fontPx := 12, height := 198 }).scrollLanes.length = 13 := by
  decide +kernel

/-- A white comment that scrolls. -/
def sampleItem (time : ℚ) (text : String) : DanmakuItem := ⟨time, .scroll, "#ffffff", text⟩

/-- The engine after some calls. -/
def sampleRun (calls : List DanmakuCall) : DanmakuEngine :=
  TransitionSystem.run (next sampleMeasure) calls (new sampleConfig)

-- two lanes become one, and both comments are put into it
example :
    ¬ ((sampleRun [.setItems [sampleItem 0 "a", sampleItem 0 "b"],
        .configure { height := some 66 }, .tick 0, .configure { height := some 44 }]).tick
      sampleMeasure (1 / 2)).2.Apart sampleMeasure (1 / 2) := by
  decide +kernel

end DanmakuEngine

end OpenTogetherTube.Danmaku
