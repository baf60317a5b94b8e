import Mathlib.Data.Rat.Floor
import Mathlib.Data.NNRat.Floor
import Mathlib.Order.WithBot
import Mathlib.Data.NNRat.Lemmas
import OpenTogetherTube.Lib.Pursuit
import OpenTogetherTube.Lib.Rounding

/-!
# The danmaku engine

Embeds `client/src/util/danmaku/engine.ts`: comments are scheduled into lanes and fly from right to left.
The number of lanes is the floor of a quotient, so the heights are rounded as the doubles of the source are.
Times, speeds and positions are exact rationals: where the source compares differences of them, as in
`now - spawnTimes[0] >= 1`, its rounding can decide a tie the other way. Sizes and measured widths are not
negative, and a comment takes some time to cross the picture.
-/

namespace OpenTogetherTube.Danmaku

open Lib

inductive DanmakuMode where
  | scroll
  | top
  | bottom
deriving DecidableEq

structure DanmakuItem where
  time : ℚ
  mode : DanmakuMode
  color : String
  text : String

inductive DanmakuArea where
  | full
  | top
  | bottom
deriving DecidableEq

structure DanmakuRenderItem where
  text : String
  color : String
  x : ℚ
  y : ℚ

/-- `DanmakuEngineConfig`. The top of the numbers is infinity. -/
structure DanmakuEngineConfig where
  width : ℚ≥0
  height : ℚ
  fontPx : ℚ
  scrollDuration : { seconds : ℚ≥0 // 0 < seconds }
  speed : ℚ
  antiCollision : Bool
  maxOnScreen : WithTop ℚ
  blockScroll : Bool
  blockTop : Bool
  blockBottom : Bool
  blockColored : Bool
  area : DanmakuArea
  maxPerSecond : WithTop ℚ

/-- `Partial<DanmakuEngineConfig>`. -/
structure PartialConfig where
  width : Option ℚ≥0 := none
  height : Option ℚ := none
  fontPx : Option ℚ := none
  scrollDuration : Option { seconds : ℚ≥0 // 0 < seconds } := none
  speed : Option ℚ := none
  antiCollision : Option Bool := none
  maxOnScreen : Option (WithTop ℚ) := none
  blockScroll : Option Bool := none
  blockTop : Option Bool := none
  blockBottom : Option Bool := none
  blockColored : Option Bool := none
  area : Option DanmakuArea := none
  maxPerSecond : Option (WithTop ℚ) := none

/-- `{ ...previous, ...partial }`. -/
def DanmakuEngineConfig.with_ (previous : DanmakuEngineConfig) (changes : PartialConfig) :
    DanmakuEngineConfig where
  width := changes.width.getD previous.width
  height := changes.height.getD previous.height
  fontPx := changes.fontPx.getD previous.fontPx
  scrollDuration := changes.scrollDuration.getD previous.scrollDuration
  speed := changes.speed.getD previous.speed
  antiCollision := changes.antiCollision.getD previous.antiCollision
  maxOnScreen := changes.maxOnScreen.getD previous.maxOnScreen
  blockScroll := changes.blockScroll.getD previous.blockScroll
  blockTop := changes.blockTop.getD previous.blockTop
  blockBottom := changes.blockBottom.getD previous.blockBottom
  blockColored := changes.blockColored.getD previous.blockColored
  area := changes.area.getD previous.area
  maxPerSecond := changes.maxPerSecond.getD previous.maxPerSecond

def AREA_BANDS : DanmakuArea → ℚ × ℚ
  | .full => (0, 1)
  | .top => (0, 1 / 2)
  | .bottom => (1 / 2, 1)

def FIXED_DURATION : ℚ := 5

/-- The double that the source's `1.1` is. -/
def LANE_HEIGHT_RATIO : ℚ := binary64.nearest (11 / 10)

def SEEK_GAP_SECONDS : ℚ := 1

def BACKWARD_TOLERANCE_SECONDS : ℚ := 1 / 2

/-- `config.scrollDuration / Math.max(config.speed, 0.1)`. -/
def DanmakuEngineConfig.duration (config : DanmakuEngineConfig) : ℚ≥0 :=
  config.scrollDuration / (max config.speed (1 / 10)).toNNRat

/-- `(width + textW) / duration`. -/
def DanmakuEngineConfig.velocity (config : DanmakuEngineConfig) (textW : ℚ≥0) : ℚ≥0 :=
  (config.width + textW) / config.duration

structure ScrollOccupant where
  startTime : ℚ
  textW : ℚ≥0
  v : ℚ≥0

/-- The left edge of a comment that flies over a picture of a width. -/
def ScrollOccupant.x (occupant : ScrollOccupant) (width : ℚ≥0) (now : ℚ) : ℚ :=
  width - occupant.v * (now - occupant.startTime)

/-- `tail`, the right edge. -/
def ScrollOccupant.tail (occupant : ScrollOccupant) (width : ℚ≥0) (now : ℚ) : ℚ :=
  occupant.x width now + occupant.textW

structure ActiveItem where
  item : DanmakuItem
  startTime : ℚ
  textW : ℚ≥0
  v : ℚ≥0
  y : ℚ
  lane : Nat
  expireAt : WithTop ℚ

/-- What a lane keeps of a comment. -/
def ActiveItem.occupant (active : ActiveItem) : ScrollOccupant where
  startTime := active.startTime
  textW := active.textW
  v := active.v

/-- The comment scrolls. -/
def ActiveItem.scrolls (active : ActiveItem) : Prop := active.item.mode = .scroll

instance (active : ActiveItem) : Decidable active.scrolls := inferInstanceAs (Decidable (_ = _))

/-- `DanmakuEngine`, but for the function that measures. -/
structure DanmakuEngine where
  items : List DanmakuItem
  config : DanmakuEngineConfig
  active : List ActiveItem
  scheduleIndex : Nat
  lastTime : Option ℚ
  laneHeight : ℚ
  bandTop : ℚ
  bandHeight : ℚ
  scrollLanes : List (Option ScrollOccupant)
  topSlots : List (Option (WithTop ℚ))
  bottomSlots : List (Option (WithTop ℚ))
  spawnTimes : List ℚ

/-- The loop of `lowerBound`, which the distance of its bounds bounds. -/
def lowerBoundFrom (items : List DanmakuItem) (time : ℚ) : Nat → Nat → Nat → Nat
  | 0, low, _ => low
  | distance + 1, low, high =>
      if low < high then
        let mid := (low + high) / 2
        if (items[mid]?).any (·.time < time) then lowerBoundFrom items time distance (mid + 1) high
        else lowerBoundFrom items time distance low mid
      else low

def lowerBound (items : List DanmakuItem) (time : ℚ) : Nat :=
  lowerBoundFrom items time items.length 0 items.length

namespace DanmakuEngine

def rebuildLanes (engine : DanmakuEngine) : DanmakuEngine :=
  let laneHeight := max 1 (binary64.nearest (engine.config.fontPx * LANE_HEIGHT_RATIO))
  let band := AREA_BANDS engine.config.area
  -- The part of the height is one or a half, without rounding.
  let bandHeight := max laneHeight (binary64.nearest (engine.config.height * (band.2 - band.1)))
  let lanes := (max 1 (⌊binary64.nearest (bandHeight / laneHeight)⌋ - 1)).toNat
  { engine with
    laneHeight
    bandTop := binary64.nearest (engine.config.height * band.1)
    bandHeight
    scrollLanes := List.replicate lanes none
    topSlots := List.replicate lanes none
    bottomSlots := List.replicate lanes none }

/-- The constructor. -/
def new (config : DanmakuEngineConfig) : DanmakuEngine :=
  rebuildLanes
    { items := [], config, active := [], scheduleIndex := 0, lastTime := none, laneHeight := 1,
      bandTop := 0, bandHeight := 0, scrollLanes := [], topSlots := [], bottomSlots := [],
      spawnTimes := [] }

def seekTo (now : ℚ) (engine : DanmakuEngine) : DanmakuEngine :=
  { engine with
    active := []
    scrollLanes := engine.scrollLanes.map fun _ => none
    topSlots := engine.topSlots.map fun _ => none
    bottomSlots := engine.bottomSlots.map fun _ => none
    spawnTimes := []
    scheduleIndex := lowerBound engine.items now
    lastTime := some now }

def reset (engine : DanmakuEngine) : DanmakuEngine := { engine.seekTo 0 with lastTime := none }

def setItems (items : List DanmakuItem) (engine : DanmakuEngine) : DanmakuEngine :=
  reset { engine with items }

def replaceItems (items : List DanmakuItem) (engine : DanmakuEngine) : DanmakuEngine :=
  { engine with
    items
    scheduleIndex := engine.lastTime.elim engine.scheduleIndex (lowerBound items) }

def laneY (engine : DanmakuEngine) (index : Nat) : ℚ :=
  engine.bandTop + (index + 1) * engine.laneHeight

def slotY (engine : DanmakuEngine) (mode : DanmakuMode) (index : Nat) : ℚ :=
  let pitch := (index + 1) * engine.laneHeight
  if mode = .top then engine.bandTop + pitch else engine.bandTop + engine.bandHeight - pitch

section Measured

variable (measure : String → ℚ → ℚ≥0)

/-- A comment in the new geometry: the first half of the loop of `remapActive`. -/
def remapped (engine : DanmakuEngine) (active : ActiveItem) : ActiveItem :=
  if active.scrolls then
    let textW := measure active.item.text engine.config.fontPx
    let lane := min active.lane (engine.scrollLanes.length - 1)
    { active with textW, v := engine.config.velocity textW, lane, y := engine.laneY lane }
  else
    let slots := if active.item.mode = .top then engine.topSlots else engine.bottomSlots
    let lane := min active.lane (slots.length - 1)
    { active with lane, y := engine.slotY active.item.mode lane }

/-- The lane of a comment that may be its latest. -/
def occupy (active : ActiveItem) (lanes : List (Option ScrollOccupant)) :
    List (Option ScrollOccupant) :=
  match lanes[active.lane]?.join with
  | none => lanes.set active.lane (some active.occupant)
  | some current =>
      if current.startTime < active.startTime then lanes.set active.lane (some active.occupant)
      else lanes

/-- `slots[lane] = Math.max(slots[lane] ?? 0, expireAt)`. -/
def hold (active : ActiveItem) (slots : List (Option (WithTop ℚ))) : List (Option (WithTop ℚ)) :=
  slots.set active.lane (some (max (slots[active.lane]?.join.getD 0) active.expireAt))

/-- A comment takes its lane or slot: the second half of the loop of `remapActive`. -/
def settle (active : ActiveItem) (engine : DanmakuEngine) : DanmakuEngine :=
  match active.item.mode with
  | .scroll => { engine with scrollLanes := occupy active engine.scrollLanes }
  | .top => { engine with topSlots := hold active engine.topSlots }
  | .bottom => { engine with bottomSlots := hold active engine.bottomSlots }

/-- `remapActive`. The tables are empty when it is called. -/
def remapActive (engine : DanmakuEngine) : DanmakuEngine :=
  let active := engine.active.map (engine.remapped measure)
  active.foldl (fun engine active => engine.settle active) { engine with active }

/-- The geometry of a configuration. -/
def geometryChanged (config previous : DanmakuEngineConfig) : Prop :=
  config.width ≠ previous.width ∨ config.height ≠ previous.height ∨
    config.fontPx ≠ previous.fontPx ∨ config.area ≠ previous.area

instance (config previous : DanmakuEngineConfig) : Decidable (geometryChanged config previous) :=
  inferInstanceAs (Decidable (_ ∨ _ ∨ _ ∨ _))

def configure (changes : PartialConfig) (engine : DanmakuEngine) : DanmakuEngine :=
  let config := engine.config.with_ changes
  if geometryChanged config engine.config then
    (rebuildLanes { engine with config }).remapActive measure
  else { engine with config }

/-- The test of `findScrollLane`. Over zero it is not met. -/
def leavesRoom (width : ℚ≥0) (occupant : ScrollOccupant) (now : ℚ) (v : ℚ≥0) : Prop :=
  v ≠ 0 ∧ occupant.tail width now ≤ width * (occupant.v / v)

instance (width : ℚ≥0) (occupant : ScrollOccupant) (now : ℚ) (v : ℚ≥0) :
    Decidable (leavesRoom width occupant now v) :=
  inferInstanceAs (Decidable (_ ∧ _))

/-- The loop of `findScrollLane` from a lane on. -/
def findScrollLaneFrom (engine : DanmakuEngine) (now : ℚ) (v : ℚ≥0) (index : Nat)
    (oldestLane : Option Nat) : List (Option ScrollOccupant) → Option Nat
  | [] => if engine.config.antiCollision then none else oldestLane
  | none :: _ => some index
  | some occupant :: rest =>
      if engine.config.antiCollision then
        if leavesRoom engine.config.width occupant now v then some index
        else findScrollLaneFrom engine now v (index + 1) oldestLane rest
      else
        let oldest := oldestLane.bind fun lane => engine.scrollLanes[lane]?.join
        let older := oldest.all fun oldest => occupant.startTime < oldest.startTime
        findScrollLaneFrom engine now v (index + 1) (if older then some index else oldestLane) rest

def findScrollLane (engine : DanmakuEngine) (now : ℚ) (v : ℚ≥0) : Option Nat :=
  engine.findScrollLaneFrom now v 0 none engine.scrollLanes

/-- A comment that the loop of `spawn` passes over. -/
def passedOver (engine : DanmakuEngine) (item : DanmakuItem) : Prop :=
  engine.config.maxOnScreen ≤ ((engine.active.length : ℚ) : WithTop ℚ) ∨
    ¬ ((engine.spawnTimes.length : ℚ) : WithTop ℚ) < engine.config.maxPerSecond ∨
    (item.mode = .scroll ∧ engine.config.blockScroll) ∨
    (item.mode = .top ∧ engine.config.blockTop) ∨
    (item.mode = .bottom ∧ engine.config.blockBottom) ∨
    (engine.config.blockColored ∧ item.color.toLower ≠ "#ffffff")

instance (engine : DanmakuEngine) (item : DanmakuItem) : Decidable (engine.passedOver item) :=
  inferInstanceAs (Decidable (_ ∨ _ ∨ _ ∨ _ ∨ _ ∨ _))

/-- A comment begins to fly in a lane. -/
def launched (engine : DanmakuEngine) (now : ℚ) (item : DanmakuItem) (textW v : ℚ≥0) (lane : Nat) :
    DanmakuEngine :=
  { engine with
    scrollLanes := engine.scrollLanes.set lane (some { startTime := now, textW, v })
    active := engine.active ++
      [{ item, startTime := now, textW, v, y := engine.laneY lane, lane, expireAt := ⊤ }]
    spawnTimes := engine.spawnTimes ++ [now] }

/-- A comment is pinned to a slot. -/
def pinned (engine : DanmakuEngine) (now : ℚ) (item : DanmakuItem) (textW : ℚ≥0) (index : Nat) :
    DanmakuEngine :=
  let expireAt : WithTop ℚ := ((now + FIXED_DURATION : ℚ) : WithTop ℚ)
  { engine with
    topSlots := if item.mode = .top then engine.topSlots.set index (some expireAt) else engine.topSlots
    bottomSlots :=
      if item.mode = .top then engine.bottomSlots else engine.bottomSlots.set index (some expireAt)
    active := engine.active ++
      [{ item, startTime := now, textW, v := 0, y := engine.slotY item.mode index, lane := index,
         expireAt }]
    spawnTimes := engine.spawnTimes ++ [now] }

/-- One round of the loop of `spawn` for a comment that is due. -/
def offered (engine : DanmakuEngine) (now : ℚ) (item : DanmakuItem) : DanmakuEngine :=
  if engine.passedOver item then engine
  else
    let textW := measure item.text engine.config.fontPx
    if item.mode = .scroll then
      let v := engine.config.velocity textW
      match engine.findScrollLane now v with
      | none => engine
      | some lane => engine.launched now item textW v lane
    else
      let slots := if item.mode = .top then engine.topSlots else engine.bottomSlots
      match slots.findIdx? fun expireAt => expireAt.all (· ≤ (now : WithTop ℚ)) with
      | none => engine
      | some index => engine.pinned now item textW index

/-- The loop of `spawn` over the comments that are left. -/
def spawnFrom (now : ℚ) : List DanmakuItem → DanmakuEngine → DanmakuEngine
  | [], engine => engine
  | item :: rest, engine =>
      if now < item.time then engine
      else
        spawnFrom now rest
          (offered measure { engine with scheduleIndex := engine.scheduleIndex + 1 } now item)

/-- Only the comments of the last second count against the density. -/
def thinned (now : ℚ) (engine : DanmakuEngine) : DanmakuEngine :=
  { engine with spawnTimes := engine.spawnTimes.dropWhile fun spawned => 1 ≤ now - spawned }

def spawn (now : ℚ) (engine : DanmakuEngine) : DanmakuEngine :=
  spawnFrom measure now (engine.items.drop engine.scheduleIndex) (engine.thinned now)

/-- The comment is still on the picture. -/
def onScreen (engine : DanmakuEngine) (now : ℚ) (active : ActiveItem) : Bool :=
  if active.scrolls then decide (0 < active.occupant.tail engine.config.width now)
  else decide ((now : WithTop ℚ) < active.expireAt)

/-- What is drawn of a comment. -/
def drawn (engine : DanmakuEngine) (now : ℚ) (active : ActiveItem) : DanmakuRenderItem where
  text := active.item.text
  color := active.item.color
  x :=
    if active.scrolls then active.occupant.x engine.config.width now
    else (engine.config.width - active.textW) / 2
  y := active.y

/-- `render`: the loop goes from the latest comment to the first. -/
def render (now : ℚ) (engine : DanmakuEngine) : List DanmakuRenderItem × DanmakuEngine :=
  let active := engine.active.filter (engine.onScreen now)
  ((active.reverse.map (engine.drawn now)), { engine with active })

/-- The media time a tick is for: a small step back holds the last one. -/
def clock (engine : DanmakuEngine) (now : ℚ) : ℚ :=
  match engine.lastTime with
  | none => now
  | some last => if now < last ∧ last - now ≤ BACKWARD_TOLERANCE_SECONDS then last else now

/-- The engine once the tick has seen its time: a jump is a seek. -/
def anchored (engine : DanmakuEngine) (now : ℚ) : DanmakuEngine :=
  match engine.lastTime with
  | none => { engine with scheduleIndex := lowerBound engine.items now }
  | some last =>
      if now < last then if BACKWARD_TOLERANCE_SECONDS < last - now then engine.seekTo now else engine
      else if SEEK_GAP_SECONDS < now - last then engine.seekTo now
      else engine

def tick (now : ℚ) (engine : DanmakuEngine) : List DanmakuRenderItem × DanmakuEngine :=
  let time := engine.clock now
  let spawned := spawn measure time (engine.anchored now)
  render time { spawned with lastTime := some time }

end Measured

end DanmakuEngine

end OpenTogetherTube.Danmaku
