import OpenTogetherTube.Client.Limits

/-!
# The scheduling of the comments

Ticks that follow the media clock, with steps forward of a second at most and none further
back than half a second behind the latest: the engine never seeks, so its cursor passes each
item once, and the limits of a tick add up over the run. Times are exact: the source subtracts
doubles, and `now - spawnTimes[0] >= 1` may hold of two that are less than a second apart, as of
`1.2` and `0.2`.
-/

namespace OpenTogetherTube.Danmaku.DanmakuEngine

open Lib

variable {measure : String → ℚ → ℚ≥0} {engine : DanmakuEngine} {items : List DanmakuItem}
  {latest : Option ℚ} {now : ℚ}

/-- The latest time of the ticks so far. -/
def latestWith (latest : Option ℚ) (now : ℚ) : ℚ := latest.elim now (max now)

/-- A tick is at most a second ahead of the latest time so far, and at most half a second
behind it. -/
def InStep (latest : Option ℚ) (now : ℚ) : Prop :=
  ∀ last ∈ latest, now ≤ last + 1 ∧ last ≤ now + 1 / 2

variable (measure) in
/-- Ticks in such steps, and between them new configurations that keep the geometry. -/
def Steady : Option ℚ → List DanmakuCall → DanmakuEngine → Prop
  | _, [], _ => True
  | latest, .tick now :: rest, engine =>
      InStep latest now ∧
        Steady (some (latestWith latest now)) rest (next measure (.tick now) engine)
  | latest, .configure changes :: rest, engine =>
      ¬ geometryChanged (engine.config.with_ changes) engine.config ∧
        Steady latest rest (next measure (.configure changes) engine)
  | _, _ :: _, _ => False

variable (measure) in
/-- The loop of a tick looks at the item of an index. -/
def Considers (engine : DanmakuEngine) (now : ℚ) (index : Nat) : Prop :=
  (engine.anchored now).scheduleIndex ≤ index ∧
    index < (engine.tick measure now).2.scheduleIndex

instance (now : ℚ) (index : Nat) : Decidable (engine.Considers measure now index) :=
  inferInstanceAs (Decidable (_ ∧ _))

variable (measure) in
/-- The number of the ticks among some calls that look at the item of an index. -/
def timesConsidered (index : Nat) : List DanmakuCall → DanmakuEngine → Nat
  | [], _ => 0
  | .tick now :: rest, engine =>
      (if engine.Considers measure now index then 1 else 0) +
        timesConsidered index rest (next measure (.tick now) engine)
  | call :: rest, engine => timesConsidered index rest (next measure call engine)

variable (measure) in
/-- The times of the ticks among some calls, once for each comment that they let in. -/
def admitted : List DanmakuCall → DanmakuEngine → List ℚ
  | [], _ => []
  | .tick now :: rest, engine =>
      List.replicate (engine.admits measure now) now ++
        admitted rest (next measure (.tick now) engine)
  | call :: rest, engine => admitted rest (next measure call engine)

/-- What holds between the calls. -/
structure Underway (items : List DanmakuItem) (latest : Option ℚ) (engine : DanmakuEngine) :
    Prop where
  items : engine.items = items
  time : engine.lastTime = latest
  scheduled : engine.Scheduled
  still : latest = none → engine.active = [] ∧ engine.spawnTimes = []
  slotted : ∀ last ∈ latest, engine.Slotted last

theorem underway_setItems (start : DanmakuEngine) (items : List DanmakuItem) :
    (start.setItems items).Underway items none where
  items := rfl
  time := rfl
  scheduled := nofun
  still _ := ⟨rfl, rfl⟩
  slotted := nofun

/-- Where a tick starts: the engine seeks in the first one only. -/
inductive Start (engine : DanmakuEngine) (now : ℚ) : Option ℚ → Prop where
  | first (anchored : engine.anchored now =
      { engine with scheduleIndex := lowerBound engine.items now }) : Start engine now none
  | onward (last : ℚ) (anchored : engine.anchored now = engine) : Start engine now (some last)

variable (underway : engine.Underway items latest)

include underway

theorem Underway.start (steps : InStep latest now) :
    engine.clock now = latestWith latest now ∧ engine.Start now latest := by
  cases engine.anchoring now with
  | first unknown anchored clock =>
      obtain rfl := underway.time.symm.trans unknown
      exact ⟨clock, .first anchored⟩
  | sought last known jumps anchored clock =>
      obtain rfl := underway.time.symm.trans known
      obtain ⟨ahead, behind⟩ := steps last rfl
      unfold BACKWARD_TOLERANCE_SECONDS SEEK_GAP_SECONDS at jumps
      rcases jumps with back | gap
      · linarith
      · linarith
  | held last known back anchored clock =>
      obtain rfl := underway.time.symm.trans known
      exact ⟨clock.trans (max_eq_right back.le).symm, .onward last anchored⟩
  | onward last known order anchored clock =>
      obtain rfl := underway.time.symm.trans known
      exact ⟨clock.trans (max_eq_left order).symm, .onward last anchored⟩

variable (measure) in
theorem Underway.tick (sorted : SortedByTime items)
    (steps : InStep latest now) :
    (next measure (.tick now) engine).Underway items (some (latestWith latest now)) ∧
      (engine.tick measure now).2.active.Pairwise fun first second => ¬ ShareSlot first second := by
  obtain ⟨clock, start⟩ := underway.start steps
  rw [← underway.items] at sorted
  obtain ⟨same, cut⟩ := underway.scheduled.tick measure sorted now
  have anchored : (engine.anchored now).Slotted (engine.clock now) := by
    cases start with
    | first anchored =>
        rw [anchored]
        exact slotted_of_empty (underway.still rfl).1
    | onward last anchored =>
        rw [anchored, clock]
        exact (underway.slotted last rfl).advance (le_max_right _ _)
  have spawned : Slotted (spawn measure (engine.clock now) (engine.anchored now))
      (engine.clock now) := anchored.spawn
  have timed : Slotted
      { spawn measure (engine.clock now) (engine.anchored now) with
        lastTime := some (engine.clock now) } (engine.clock now) :=
    ⟨spawned.pairs, spawned.held, spawned.started⟩
  obtain ⟨slotted, apart⟩ := timed.render
  refine ⟨?_, apart⟩
  exact
    { items := same.trans underway.items
      time := congrArg some clock
      scheduled := underway.scheduled.next_tick sorted now
      still := nofun
      slotted := by
        intro last known
        rw [← Option.some.inj known, ← clock]
        exact slotted }

variable (measure) in
theorem Underway.configure {changes : PartialConfig}
    (steady : ¬ geometryChanged (engine.config.with_ changes) engine.config) :
    (next measure (.configure changes) engine).Underway items latest := by
  have kept : next measure (.configure changes) engine =
      { engine with config := engine.config.with_ changes } := if_neg steady
  rw [kept]
  exact
    { items := underway.items
      time := underway.time
      scheduled := underway.scheduled
      still := underway.still
      slotted := fun last known =>
        have slotted := underway.slotted last known
        ⟨slotted.pairs, slotted.held, slotted.started⟩ }

/-! ## Each item once -/

variable (measure) in
/-- A tick looks at what became due since the latest time so far; the first one at what is due
at its own time. -/
theorem Underway.considers_iff
    (sorted : SortedByTime items) (steps : InStep latest now) {index : Nat} {item : DanmakuItem}
    (at_ : items[index]? = some item) :
    engine.Considers measure now index ↔
      latest.elim (now ≤ item.time) (· < item.time) ∧ item.time ≤ latestWith latest now := by
  obtain ⟨clock, start⟩ := underway.start steps
  obtain rfl := underway.items
  obtain ⟨-, after⟩ := underway.scheduled.tick measure sorted now
  rw [clock] at after
  unfold Considers
  cases start with
  | first anchored =>
      rw [anchored, (lowerBound_cut sorted now).between_iff after at_]
      exact and_congr_left' not_lt
  | onward last anchored =>
      rw [anchored, (underway.scheduled last underway.time).between_iff after at_]
      exact and_congr_left' not_le

omit underway in
/-- From a time on, an item that is due later is looked at once if some tick reaches it. -/
theorem timesConsidered_onward {last : ℚ} {calls : List DanmakuCall} {index : Nat}
    {item : DanmakuItem} (sorted : SortedByTime items) (at_ : items[index]? = some item)
    (underway : engine.Underway items (some last))
    (steady : Steady measure (some last) calls engine) :
    (item.time ≤ last → timesConsidered measure index calls engine = 0) ∧
      (∀ reached, .tick reached ∈ calls → item.time ≤ reached → last < item.time →
        timesConsidered measure index calls engine = 1) := by
  induction calls generalizing last engine with
  | nil => exact ⟨fun _ => rfl, nofun⟩
  | cons call rest ih =>
      cases call with
      | tick now =>
          obtain ⟨steps, further⟩ := steady
          have considers := underway.considers_iff measure sorted steps at_
          obtain ⟨past, due⟩ :=
            ih (underway.tick measure sorted steps).1 further
          have onward : last ≤ latestWith (some last) now := le_max_right now last
          unfold timesConsidered
          refine ⟨fun early => ?_, fun reached listed within later => ?_⟩
          · rw [if_neg fun looked => not_lt.mpr early (considers.mp looked).1,
              past (early.trans onward)]
          · by_cases now_ : item.time ≤ latestWith (some last) now
            · rw [if_pos (considers.mpr ⟨later, now_⟩), past now_]
            · rw [if_neg fun looked => now_ (considers.mp looked).2, Nat.zero_add]
              refine due reached ?_ within (not_le.mp now_)
              rcases List.mem_cons.mp listed with same | further
              · cases same
                exact absurd (within.trans (le_max_left now last)) now_
              · exact further
      | configure changes =>
          obtain ⟨kept, further⟩ := steady
          obtain ⟨past, due⟩ := ih (underway.configure measure kept) further
          refine ⟨past, fun reached listed => due reached ?_⟩
          exact (List.mem_cons.mp listed).resolve_left nofun
      | setItems | replaceItems | seekTo | reset => exact steady.elim

/-- The time of the first tick. -/
def firstTick : List DanmakuCall → Option ℚ
  | [] => none
  | .tick now :: _ => some now
  | _ :: rest => firstTick rest

omit underway in
/-- An item between the first tick and some other is looked at once. -/
theorem timesConsidered_eq_one {calls : List DanmakuCall} {index : Nat} {item : DanmakuItem}
    (sorted : SortedByTime items) (at_ : items[index]? = some item)
    (underway : engine.Underway items none) (steady : Steady measure none calls engine)
    {first : ℚ} (starts : firstTick calls = some first) (from_ : first ≤ item.time) {reached : ℚ}
    (listed : .tick reached ∈ calls) (within : item.time ≤ reached) :
    timesConsidered measure index calls engine = 1 := by
  induction calls generalizing engine with
  | nil => cases starts
  | cons call rest ih =>
      cases call with
      | tick now =>
          cases starts
          obtain ⟨steps, further⟩ := steady
          have considers := underway.considers_iff measure sorted steps at_
          obtain ⟨past, due⟩ := timesConsidered_onward sorted at_
            (underway.tick measure sorted steps).1 further
          unfold timesConsidered
          by_cases due_ : item.time ≤ first
          · rw [if_pos (considers.mpr ⟨from_, due_⟩), past due_]
          · rw [if_neg fun looked => due_ (considers.mp looked).2, Nat.zero_add]
            refine due reached ?_ within (not_le.mp due_)
            rcases List.mem_cons.mp listed with same | later
            · cases same
              exact absurd within due_
            · exact later
      | configure changes =>
          obtain ⟨kept, further⟩ := steady
          refine ih (underway.configure measure kept) further starts ?_
          exact (List.mem_cons.mp listed).resolve_left nofun
      | setItems | replaceItems | seekTo | reset => exact steady.elim

/-! ## The density -/

omit underway in
/-- A tick that is held back lets nothing in. -/
theorem admits_of_held (scheduled : engine.Scheduled) {last : ℚ}
    (known : engine.lastTime = some last) (anchored : engine.anchored now = engine)
    (clock : engine.clock now = last) :
    engine.admits measure now = 0 := by
  have cut := scheduled last known
  unfold admits
  rw [anchored, clock]
  have nothing : spawn measure last engine = engine.thinned last := by
    unfold spawn
    cases left_ : engine.items.drop engine.scheduleIndex with
    | nil => rfl
    | cons item rest =>
        have at_ : engine.items[engine.scheduleIndex]? = some item := by
          rw [← List.head?_drop, left_, List.head?_cons]
        exact if_pos (not_le.mp (cut.after at_ le_rfl))
  rw [nothing]
  exact Nat.sub_self _

variable {limit : Nat} {log : List ℚ}

variable (measure) in
/-- One tick within the limit of the settings. -/
theorem Underway.admissions
    (steps : InStep latest now)
    (capped : engine.config.maxPerSecond ≤ ((limit : ℚ) : WithTop ℚ))
    (before : ∀ last ∈ latest, Admissions 1 limit log engine.spawnTimes last)
    (empty : latest = none → log = []) :
    Admissions 1 limit (log ++ List.replicate (engine.admits measure now) now)
      (next measure (.tick now) engine).spawnTimes (latestWith latest now) := by
  obtain ⟨clock, start⟩ := underway.start steps
  have config : (engine.anchored now).config = engine.config := anchored_config engine now
  have anchored : Admissions 1 limit log (engine.anchored now).spawnTimes (engine.clock now) := by
    cases start with
    | first anchored =>
        rw [anchored, empty rfl]
        dsimp only
        rw [(underway.still rfl).2]
        exact .none _ _ _
    | onward last anchored =>
        rw [anchored, clock]
        exact (before last rfl).advance (le_max_right now last)
  have spawned := spawn_admissions measure (config ▸ capped) anchored
  rw [← clock]
  have same : List.replicate (engine.admits measure now) now =
      List.replicate (engine.admits measure now) (engine.clock now) := by
    cases engine.anchoring now with
    | first unknown anchored clock => rw [clock]
    | sought last known jumps anchored clock => rw [clock]
    | held last known back anchored clock =>
        rw [admits_of_held underway.scheduled known anchored clock]
        rfl
    | onward last known order anchored clock => rw [clock]
  rw [same]
  exact spawned

omit underway

/-- No window of a second holds more comments than the settings allow. -/
theorem countP_admitted_le {calls : List DanmakuCall} (sorted : SortedByTime items)
    (underway : engine.Underway items latest) (steady : Steady measure latest calls engine)
    (capped : ∀ prior, prior <+: calls →
      (TransitionSystem.run (next measure) prior engine).config.maxPerSecond ≤
        ((limit : ℚ) : WithTop ℚ))
    (before : ∀ last ∈ latest, Admissions 1 limit log engine.spawnTimes last)
    (empty : latest = none → log = []) (start : ℚ) :
    (log ++ admitted measure calls engine).countP
        (fun time => start ≤ time ∧ time < start + 1) ≤ limit ∧
      (log ++ admitted measure calls engine).countP
        (fun time => start < time ∧ time ≤ start + 1) ≤ limit := by
  induction calls generalizing latest engine log with
  | nil =>
      rw [admitted, List.append_nil]
      cases latest with
      | none =>
          rw [empty rfl]
          exact ⟨Nat.zero_le _, Nat.zero_le _⟩
      | some last => exact ⟨(before last rfl).fromStart start, (before last rfl).toEnd start⟩
  | cons call rest ih =>
      have further : ∀ prior, prior <+: rest →
          (TransitionSystem.run (next measure) prior
            (next measure call engine)).config.maxPerSecond ≤ ((limit : ℚ) : WithTop ℚ) :=
        fun prior begins => capped (call :: prior) (List.cons_prefix_cons.mpr ⟨rfl, begins⟩)
      cases call with
      | tick now =>
          obtain ⟨steps, onward⟩ := steady
          have own := capped [] List.nil_prefix
          have admissions := underway.admissions measure steps own before empty
          rw [admitted, ← List.append_assoc]
          refine ih (underway.tick measure sorted steps).1 onward further ?_ nofun
          intro last known
          rw [← Option.some.inj known]
          exact admissions
      | configure changes =>
          obtain ⟨kept, onward⟩ := steady
          have same : next measure (.configure changes) engine =
              { engine with config := engine.config.with_ changes } := if_neg kept
          refine ih (underway.configure measure kept) onward further ?_ empty
          rw [same]
          exact before
      | setItems | replaceItems | seekTo | reset => exact steady.elim

/-! ## Runs -/

/-- What holds before some of the calls, and what they still have to meet. -/
theorem Underway.run {prior rest : List DanmakuCall} (sorted : SortedByTime items)
    (underway : engine.Underway items latest)
    (steady : Steady measure latest (prior ++ rest) engine) :
    ∃ reached, (TransitionSystem.run (next measure) prior engine).Underway items reached ∧
      Steady measure reached rest (TransitionSystem.run (next measure) prior engine) := by
  induction prior generalizing latest engine with
  | nil => exact ⟨latest, underway, steady⟩
  | cons call prior ih =>
      cases call with
      | tick now =>
          obtain ⟨steps, further⟩ := steady
          exact ih (underway.tick measure sorted steps).1 further
      | configure changes =>
          obtain ⟨kept, further⟩ := steady
          exact ih (underway.configure measure kept) further
      | setItems | replaceItems | seekTo | reset => exact steady.elim

/-- In a steady run over sorted items each item between the first tick and some other is
looked at by one tick, no tick brings the comments on the picture above the limit, no window
of a second lets in more than the limit, and no two of the comments that a tick draws are
fixed in one slot. Where a limit of the settings is no whole number it is rounded up. -/
theorem steady_scheduling (sorted : SortedByTime items) (start : DanmakuEngine)
    {calls : List DanmakuCall} (steady : Steady measure none calls (start.setItems items)) :
    (∀ index item first reached, items[index]? = some item → firstTick calls = some first →
      .tick reached ∈ calls → first ≤ item.time → item.time ≤ reached →
        timesConsidered measure index calls (start.setItems items) = 1) ∧
    (∀ prior now rest, calls = prior ++ .tick now :: rest →
      let before := TransitionSystem.run (next measure) prior (start.setItems items)
      (∀ limit : Nat, before.config.maxOnScreen ≤ ((limit : ℚ) : WithTop ℚ) →
        (before.tick measure now).2.active.length ≤ max before.active.length limit) ∧
      (before.tick measure now).2.active.Pairwise fun first second =>
        ¬ ShareSlot first second) ∧
    (∀ limit : Nat, (∀ prior, prior <+: calls →
        (TransitionSystem.run (next measure) prior (start.setItems items)).config.maxPerSecond ≤
          ((limit : ℚ) : WithTop ℚ)) →
      ∀ begins,
        (admitted measure calls (start.setItems items)).countP
          (fun time => begins ≤ time ∧ time < begins + 1) ≤ limit ∧
        (admitted measure calls (start.setItems items)).countP
          (fun time => begins < time ∧ time ≤ begins + 1) ≤ limit) := by
  have underway := underway_setItems start items
  refine ⟨?_, ?_, ?_⟩
  · intro index item first reached at_ starts listed from_ within
    exact timesConsidered_eq_one sorted at_ underway steady starts from_ listed within
  · rintro prior now rest rfl
    obtain ⟨latest, before, ⟨steps, _⟩⟩ := underway.run sorted steady
    exact ⟨fun limit capped => tick_active_le _ now capped,
      (before.tick measure sorted steps).2⟩
  · intro limit capped begins
    have none_ : ∀ last ∈ (none : Option ℚ),
        Admissions 1 limit [] (start.setItems items).spawnTimes last := nofun
    exact countP_admitted_le sorted underway steady capped none_ (fun _ => rfl) begins

/-- A short comment is looked at once though the clock goes back in between. -/
theorem steady_scheduling_sample :
    timesConsidered sampleMeasure 0 [.tick 0, .tick (1 / 2), .tick (1 / 4), .tick 1]
      ((new sampleConfig).setItems [sampleItem (1 / 3) "abc"]) = 1 := by
  have sorted : SortedByTime [sampleItem (1 / 3) "abc"] := List.pairwise_singleton _ _
  have steady : Steady sampleMeasure none [.tick 0, .tick (1 / 2), .tick (1 / 4), .tick 1]
      ((new sampleConfig).setItems [sampleItem (1 / 3) "abc"]) := by
    refine ⟨nofun, ?_, ?_, ?_, trivial⟩
    all_goals
      rintro last known
      rw [← Option.some.inj known]
      decide +kernel
  exact (steady_scheduling sorted (new sampleConfig) steady).1 0 _ 0 1 rfl rfl (by simp)
    (by decide +kernel) (by decide +kernel)

/-- Two small steps back in a row make the engine seek, so an item is looked at twice; and a
limit that is no whole number is passed. -/
theorem scheduling_fails :
    ([19 / 2, 10, 48 / 5, 46 / 5, 10] : List ℚ).IsChain
        (fun earlier later => later ≤ earlier + 1 ∧ earlier ≤ later + 1 / 2) ∧
      timesConsidered sampleMeasure 0
        (([19 / 2, 10, 48 / 5, 46 / 5, 10] : List ℚ).map .tick)
        ((new sampleConfig).setItems [sampleItem (49 / 5) "abc"]) = 2 ∧
      (((new { tallConfig with maxOnScreen := ((5 / 2 : ℚ) : WithTop ℚ) }).setItems
        (List.replicate 3 (sampleItem 0 "abc"))).tick sampleMeasure 0).2.active.length = 3 := by
  decide +kernel

end OpenTogetherTube.Danmaku.DanmakuEngine
