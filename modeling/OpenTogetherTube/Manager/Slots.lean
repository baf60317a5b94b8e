import OpenTogetherTube.Lib.Claims

/-!
# Bounded pools

Embeds `withPasswordHashSlot` of `server/room-password.ts` and `withProbeSlot` of
`server/ffprobe.ts`: how many bodies run at once. A body that ends gives its slot back and wakes
the first call in line, which counts itself only when it goes on. A call that begins in between
finds the slot free.
-/

namespace OpenTogetherTube

open Lib

/-- The counter and the line of a pool. -/
structure SlotPool (Run Outcome : Type) where
  active : Nat := 0
  /-- Who waits to be woken. -/
  waiters : List Run := []
  /-- History: the calls that are over, with what they returned or threw. -/
  ended : List (Run × Outcome) := []
deriving DecidableEq

/-- Where a call waits that is not in line. -/
inductive SlotPoint (Run : Type) where
  /-- Its body runs. -/
  | running (run : Run)
  /-- It was woken and has not gone on. -/
  | woken (run : Run)
deriving DecidableEq

namespace SlotPoint

variable {Run : Type}

def isRunning : SlotPoint Run → Bool
  | .running _ => true
  | .woken _ => false

def isWoken : SlotPoint Run → Bool
  | .running _ => false
  | .woken _ => true

end SlotPoint

namespace SlotPool

variable {Run Outcome : Type}

/-- The call counts itself and starts its body. -/
def enter (run : Run) (pool : SlotPool Run Outcome) : SlotPool Run Outcome × Rest (SlotPoint Run) Empty :=
  ({ pool with active := pool.active + 1 }, .point (.running run))

/-- A call up to its body or to its place in line. -/
def arrive (limit : Nat) (run : Run) (pool : SlotPool Run Outcome) :
    SlotPool Run Outcome × Rest (SlotPoint Run) Empty :=
  if pool.active ≥ limit then ({ pool with waiters := pool.waiters ++ [run] }, .done)
  else pool.enter run

/-- The body is over, well or not. The task that is left is the call it wakes, if one waits. -/
def settle (run : Run) (outcome : Outcome) (pool : SlotPool Run Outcome) :
    SlotPool Run Outcome × Rest (SlotPoint Run) Empty :=
  let pool := { pool with active := pool.active - 1, ended := (run, outcome) :: pool.ended }
  match pool.waiters with
  | [] => (pool, .done)
  | first :: rest => ({ pool with waiters := rest }, .point (.woken first))

end SlotPool

/-- The calls of a pool with so many slots. -/
def slotProgram (Run Outcome : Type) (limit : Nat) :
    Program (SlotPool Run Outcome) Run Outcome (SlotPoint Run) Empty where
  call run _ pool := pool.arrive limit run
  resume point outcome pool :=
    match point with
    | .running run => pool.settle run outcome
    | .woken run => pool.enter run
  serve guarded := nomatch guarded

def MAX_CONCURRENT_PASSWORD_HASHES : Nat := 2

def PROBE_CONCURRENCY : Nat := 4

def withPasswordHashSlot (Run Outcome : Type) :
    Program (SlotPool Run Outcome) Run Outcome (SlotPoint Run) Empty :=
  slotProgram Run Outcome MAX_CONCURRENT_PASSWORD_HASHES

def withProbeSlot (Run Outcome : Type) :
    Program (SlotPool Run Outcome) Run Outcome (SlotPoint Run) Empty :=
  slotProgram Run Outcome PROBE_CONCURRENCY

/-- The calls of a pool on their way. -/
abbrev SlotCalls (Run Outcome : Type) := Tasks (SlotPool Run Outcome) (SlotPoint Run) Empty

variable {Run Outcome : Type} {limit : Nat}

/-- The bodies that run. -/
def SlotCalls.bodies (calls : SlotCalls Run Outcome) : Nat :=
  calls.ready.countP SlotPoint.isRunning

/-- The wake-ups that are pending. -/
def SlotCalls.wakeUps (calls : SlotCalls Run Outcome) : Nat :=
  calls.ready.countP SlotPoint.isWoken

/-- Whoever is not in line holds a slot or was promised one. -/
def slotClaims (Run Outcome : Type) : Claims (SlotPool Run Outcome) (SlotPoint Run) where
  stored _ := 0
  claims _ := true

/-- A call that was woken is yet to count itself. -/
def wakeUpClaims (Run Outcome : Type) : Claims (SlotPool Run Outcome) (SlotPoint Run) where
  stored := SlotPool.active
  claims := SlotPoint.isWoken

/-- A call that does not wait takes a slot. -/
def takesSlot (Run Outcome : Type) (limit : Nat) :
    Guard (SlotPool Run Outcome) Run Outcome (SlotPoint Run) Empty where
  call _ _ pool := decide (pool.active < limit)
  resume _ _ _ := false
  serve guarded := nomatch guarded

/-- A call that takes a slot leaves one for each call that was woken. -/
def SlotCalls.Spare (limit : Nat) : SlotCalls Run Outcome → TaskLabel Run Outcome → Prop :=
  (wakeUpClaims Run Outcome).Spare (takesSlot Run Outcome limit) limit

/-- Every interleaving, from an empty pool. -/
def slotSystem (program : Program (SlotPool Run Outcome) Run Outcome (SlotPoint Run) Empty) :
    TransitionSystem (SlotCalls Run Outcome) (TaskLabel Run Outcome) :=
  program.system fun pool => pool = {}

namespace SlotCalls

/-- What holds of the calls of a pool whoever comes when: the counter counts the bodies, and while
someone waits the slots are taken or promised to a call that was woken. -/
structure Sound (limit : Nat) (calls : SlotCalls Run Outcome) : Prop where
  counted : calls.shared.active = calls.bodies
  taken : calls.shared.waiters ≠ [] → limit ≤ calls.bodies + calls.wakeUps

variable {calls : SlotCalls Run Outcome}

theorem bodies_park (result : SlotPool Run Outcome × Rest (SlotPoint Run) Empty)
    (calls : SlotCalls Run Outcome) :
    bodies (calls.park result) = calls.bodies + result.2.points.countP SlotPoint.isRunning := by
  unfold bodies
  rw [Tasks.park_ready, List.countP_append]

theorem wakeUps_park (result : SlotPool Run Outcome × Rest (SlotPoint Run) Empty)
    (calls : SlotCalls Run Outcome) :
    wakeUps (calls.park result) = calls.wakeUps + result.2.points.countP SlotPoint.isWoken := by
  unfold wakeUps
  rw [Tasks.park_ready, List.countP_append]

theorem bodies_split {earlier later : List (SlotPoint Run)} {point : SlotPoint Run}
    (split : calls.ready = earlier ++ point :: later) :
    calls.bodies = bodies { calls with ready := earlier ++ later } +
      if point.isRunning then 1 else 0 := by
  rw [bodies, split, Claims.countP_split]
  rfl

theorem wakeUps_split {earlier later : List (SlotPoint Run)} {point : SlotPoint Run}
    (split : calls.ready = earlier ++ point :: later) :
    calls.wakeUps = wakeUps { calls with ready := earlier ++ later } +
      if point.isWoken then 1 else 0 := by
  rw [wakeUps, split, Claims.countP_split]
  rfl

/-- A call that counts itself adds a body. -/
theorem Sound.enter {others : SlotCalls Run Outcome} (run : Run)
    (counted : others.shared.active = others.bodies)
    (taken : others.shared.waiters ≠ [] → limit ≤ others.bodies + 1 + others.wakeUps) :
    Sound limit (others.park (others.shared.enter run)) := by
  refine ⟨?_, fun waits => ?_⟩
  · rw [bodies_park, Tasks.park_shared]
    exact congrArg (· + 1) counted
  · rw [Tasks.park_shared] at waits
    rw [bodies_park, wakeUps_park]
    exact taken waits

/-- A body that ends gives its slot to the call it wakes. -/
theorem Sound.settle {others : SlotCalls Run Outcome} (run : Run) (outcome : Outcome)
    (counted : others.shared.active = others.bodies + 1)
    (taken : others.shared.waiters ≠ [] → limit ≤ others.bodies + 1 + others.wakeUps) :
    Sound limit (others.park (others.shared.settle run outcome)) := by
  have released : others.shared.active - 1 = others.bodies := by omega
  unfold SlotPool.settle
  dsimp only
  cases line : others.shared.waiters with
  | nil =>
      refine ⟨?_, fun waits => ?_⟩
      · rw [bodies_park, Tasks.park_shared]
        exact released
      · rw [Tasks.park_shared] at waits
        exact absurd rfl waits
  | cons first rest =>
      rw [line] at taken
      refine ⟨?_, fun _ => ?_⟩
      · rw [bodies_park, Tasks.park_shared]
        exact released
      · have enough := taken (List.cons_ne_nil first rest)
        rw [bodies_park, wakeUps_park]
        change limit ≤ others.bodies + 0 + (others.wakeUps + 1)
        omega

theorem Sound.next (sound : Sound limit calls) {label : TaskLabel Run Outcome}
    (possible : Program.Enabled calls label) :
    Sound limit ((slotProgram Run Outcome limit).next label calls) := by
  rcases (slotProgram Run Outcome limit).next_cases possible with ⟨run, outcome, rfl, next⟩ |
    ⟨earlier, point, later, outcome, rfl, split, next⟩ | ⟨guarded, _⟩
  · rw [next]
    change Sound limit (calls.park (calls.shared.arrive limit run))
    unfold SlotPool.arrive
    split
    · rename_i full
      refine ⟨?_, fun _ => ?_⟩
      · rw [bodies_park, Tasks.park_shared]
        exact sound.counted
      · rw [bodies_park, wakeUps_park]
        exact Nat.le_add_right_of_le (sound.counted ▸ full)
    · refine .enter run sound.counted fun waits => ?_
      have taken := sound.taken waits
      omega
  · have counted := sound.counted
    have taken := sound.taken
    rw [bodies_split split] at counted taken
    rw [wakeUps_split split] at taken
    rw [next]
    cases point with
    | running run =>
        exact @Sound.settle _ _ _ { calls with ready := earlier ++ later } run outcome counted taken
    | woken run =>
        refine @Sound.enter _ _ _ { calls with ready := earlier ++ later } run counted fun waits => ?_
        have enough := taken waits
        change limit ≤ bodies _ + 0 + (wakeUps _ + 1) at enough
        omega
  · exact nomatch guarded

theorem sound {limit : Nat} (reachable : (slotSystem (slotProgram Run Outcome limit)).Reachable calls) :
    Sound limit calls := by
  have invariant : TransitionSystem.Inductive (slotSystem (slotProgram Run Outcome limit))
      (Sound limit) := by
    refine ⟨?_, ?_⟩
    · rintro _ ⟨pool, rfl, rfl⟩
      exact ⟨rfl, fun waits => absurd rfl waits⟩
    · rintro before label _ sound ⟨possible, rfl⟩
      exact sound.next possible
  exact invariant.of_reachable reachable

/-- Whoever waits is woken by a body that runs, or someone has been woken already. -/
theorem attended (positive : limit ≠ 0)
    (reachable : (slotSystem (slotProgram Run Outcome limit)).Reachable calls)
    (waits : calls.shared.waiters ≠ []) : 0 < calls.bodies ∨ 0 < calls.wakeUps := by
  have taken := (sound reachable).taken waits
  omega

/-- By the counter there are as many slots taken or promised as there are calls outside the line. -/
theorem Sound.total_eq (sound : Sound limit calls) :
    (slotClaims Run Outcome).total calls = (wakeUpClaims Run Outcome).total calls := by
  have parts : calls.ready.length = calls.bodies +
      calls.ready.countP (fun point => decide ¬point.isRunning = true) :=
    List.length_eq_countP_add_countP _
  have woken : calls.ready.countP (fun point => decide ¬point.isRunning = true) = calls.wakeUps := by
    refine List.countP_congr fun point _ => ?_
    cases point with
    | running run => exact ⟨nofun, nofun⟩
    | woken run => exact ⟨fun _ => rfl, fun _ => rfl⟩
  have counted : (wakeUpClaims Run Outcome).total calls = calls.bodies + calls.wakeUps :=
    congrArg (· + _) sound.counted
  rw [counted, ← woken]
  change 0 + calls.ready.countP (fun _ => true) = _
  rw [List.countP_true, Nat.zero_add]
  exact parts

end SlotCalls

/-- Only a call that takes a slot adds to what is taken and promised. -/
theorem slotClaims_accounts (Run Outcome : Type) (limit : Nat) :
    (slotClaims Run Outcome).Accounts (slotProgram Run Outcome limit)
      (takesSlot Run Outcome limit) where
  call run outcome pool := by
    change (slotClaims Run Outcome).left (pool.arrive limit run) ≤
      0 + if decide (pool.active < limit) then 1 else 0
    unfold SlotPool.arrive
    split
    · exact Nat.zero_le _
    · rename_i free
      rw [if_pos (decide_eq_true (Nat.lt_of_not_le free))]
      exact Nat.le_refl _
  resume point outcome pool := by
    cases point with
    | running run =>
        change (slotClaims Run Outcome).left (pool.settle run outcome) ≤ 1
        unfold SlotPool.settle
        dsimp only
        split
        · exact Nat.zero_le _
        · exact Nat.le_refl _
    | woken run => exact Nat.le_refl _
  serve guarded := nomatch guarded

namespace SlotCalls

variable {calls : SlotCalls Run Outcome}

/-- With a spare slot for each call that was woken no more bodies run than there are slots. -/
theorem bodies_le {limit : Nat} (reachable :
      ((slotSystem (slotProgram Run Outcome limit)).restrict (Spare limit)).Reachable calls) :
    calls.bodies ≤ limit := by
  have invariant : TransitionSystem.Inductive
      ((slotSystem (slotProgram Run Outcome limit)).restrict (Spare limit))
      fun calls => Sound limit calls ∧ (slotClaims Run Outcome).total calls ≤ limit := by
    refine ⟨?_, ?_⟩
    · rintro _ ⟨pool, rfl, rfl⟩
      exact ⟨⟨rfl, fun waits => absurd rfl waits⟩, Nat.zero_le _⟩
    · rintro before label _ ⟨sound, within⟩ ⟨spare, possible, rfl⟩
      refine ⟨sound.next possible, ?_⟩
      refine (slotClaims_accounts Run Outcome limit).total_next_le possible (fun takes => ?_) within
      rw [sound.total_eq]
      exact spare takes
  have within := invariant.of_reachable reachable
  rw [within.1.total_eq] at within
  have counted := within.1.counted
  exact counted ▸ Nat.le_trans (Nat.le_add_right _ _) within.2

/-- What the pools promise: no more bodies than slots, and nobody waits for nothing. -/
def Orderly (limit : Nat) (calls : SlotCalls Run Outcome) : Prop :=
  calls.bodies ≤ limit ∧
    (calls.shared.waiters ≠ [] → 0 < calls.bodies ∨ 0 < calls.wakeUps)

/-- In every run in which a call that takes a slot leaves one for each call that was woken, at most
two hash bodies and at most four probes run at once, and whoever is in line is attended to. -/
theorem slots_within_limit {hashes probes : SlotCalls Run Outcome}
    (hashing : ((slotSystem (withPasswordHashSlot Run Outcome)).restrict
      (Spare MAX_CONCURRENT_PASSWORD_HASHES)).Reachable hashes)
    (probing : ((slotSystem (withProbeSlot Run Outcome)).restrict
      (Spare PROBE_CONCURRENCY)).Reachable probes) :
    hashes.Orderly 2 ∧ probes.Orderly 4 :=
  ⟨⟨bodies_le hashing, attended (by decide) hashing.of_restrict⟩,
    bodies_le probing, attended (by decide) probing.of_restrict⟩

end SlotCalls

namespace Sample

/-- One call more than there are slots, and the first body ends. The woken call goes on at once or
after another call. -/
def overtaking (limit : Nat) (overtakes : Bool) : List (TaskLabel Nat Unit) :=
  (List.range (limit + 1)).map (fun run => .call run ()) ++ .resume 0 () ::
    if overtakes then [.call (limit + 1) (), .resume (limit - 1) ()]
    else [.resume (limit - 1) (), .call (limit + 1) ()]

/-- The calls after it. -/
def overtaken (limit : Nat) (overtakes : Bool) : SlotCalls Nat Unit :=
  TransitionSystem.run (slotProgram Nat Unit limit).next (overtaking limit overtakes) { shared := {} }

end Sample

namespace SlotCalls

instance (limit : Nat) (calls : SlotCalls Nat Unit) (label : TaskLabel Nat Unit) :
    Decidable (Spare limit calls label) :=
  inferInstanceAs (Decidable (_ → _))

/-- A call that comes after the woken one waits in line. -/
theorem slots_within_limit_waiting : ((Sample.overtaken 2 false).bodies = 2 ∧
      (Sample.overtaken 4 false).bodies = 4) ∧
    (Sample.overtaken 2 false).Orderly 2 ∧ (Sample.overtaken 4 false).Orderly 4 := by
  have hashing := (slotProgram Nat Unit 2).steps_run (fun pool => pool = {}) (Spare 2)
    (Sample.overtaking 2 false) { shared := {} } (by decide +kernel)
  have probing := (slotProgram Nat Unit 4).steps_run (fun pool => pool = {}) (Spare 4)
    (Sample.overtaking 4 false) { shared := {} } (by decide +kernel)
  exact ⟨by decide +kernel,
    slots_within_limit ⟨_, ⟨_, rfl, rfl⟩, hashing⟩ ⟨_, ⟨_, rfl, rfl⟩, probing⟩⟩

/-- A call that comes before the woken one goes on takes its slot. -/
theorem slots_exceeded :
    (¬ ∀ hashes : SlotCalls Nat Unit, (slotSystem (withPasswordHashSlot Nat Unit)).Reachable hashes →
      hashes.Orderly 2) ∧
    ¬ ∀ probes : SlotCalls Nat Unit, (slotSystem (withProbeSlot Nat Unit)).Reachable probes →
      probes.Orderly 4 := by
  have run : ∀ limit : Nat, TransitionSystem.runs (slotProgram Nat Unit limit).next
      (fun calls label => Program.Enabled calls label ∧ True) (Sample.overtaking limit true)
      { shared := {} } = true → (slotSystem (slotProgram Nat Unit limit)).Reachable
        (Sample.overtaken limit true) := fun limit possible =>
    ⟨_, ⟨_, rfl, rfl⟩, ((slotProgram Nat Unit limit).steps_run (fun pool => pool = {})
      (fun _ _ => True) _ _ possible).of_restrict⟩
  constructor
  · intro orderly
    have within := (orderly (Sample.overtaken 2 true) (run 2 (by decide +kernel))).1
    revert within
    decide +kernel
  · intro orderly
    have within := (orderly (Sample.overtaken 4 true) (run 4 (by decide +kernel))).1
    revert within
    decide +kernel

end SlotCalls

end OpenTogetherTube
