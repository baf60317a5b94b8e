import OpenTogetherTube.Room.System

/-!
# Load epochs

`addRoom` pushes a room before it asks Redis for the room's load epoch, and until the answer the
epoch is `-1`. `Loaded` and the gossip carry the epochs of the rooms to the balancer, which reads
them as `u32` and a message as a whole. Here `addRoom` is cut at its awaits. Redis and its counter
are shared with other monoliths, and the answer to a command may fail to come.
-/

namespace OpenTogetherTube

open Lib

/-- `RoomListItem`, as the messages to a balancer carry it. -/
structure RoomListItem where
  name : String
  title : String
  description : String
  isTemporary : Bool
  visibility : Visibility
  queueMode : QueueMode
  currentSource : Option QueueItem
  users : Nat
deriving DecidableEq

/-- The entry of a room in a message. -/
structure LoadEntry where
  room : RoomListItem
  loadEpoch : Int
deriving DecidableEq

/-- The messages to a balancer that carry load epochs. -/
inductive MsgM2B where
  | loaded (entry : LoadEntry)
  | gossip (rooms : List LoadEntry)
deriving DecidableEq

/-- The entries of a message. -/
def MsgM2B.entries : MsgM2B → List LoadEntry
  | .loaded entry => [entry]
  | .gossip rooms => rooms

/-- How `serde_json` reads a `u32`. -/
def decodeU32 (value : Int) : Option UInt32 :=
  if 0 ≤ value ∧ value < 2 ^ 32 then some (UInt32.ofNat value.toNat) else none

/-- The epochs the balancer reads, if it can read all of them. -/
def MsgM2B.decode (message : MsgM2B) : Option (List UInt32) :=
  message.entries.mapM fun entry => decodeU32 entry.loadEpoch

/-- A `Room` object with its `loadEpoch`. -/
structure EpochRoom where
  room : Room
  loadEpoch : Int := -1
deriving DecidableEq

/-- The entry both messages make of a room. -/
def EpochRoom.entry (object : EpochRoom) : LoadEntry where
  room :=
    { name := object.room.name
      title := object.room.title
      description := object.room.description
      isTemporary := object.room.isTemporary
      visibility := object.room.visibility
      queueMode := object.room.queueMode
      currentSource := object.room.currentSource
      users := object.room.realusers.length }
  loadEpoch := object.loadEpoch

/-- An `addRoom` at an await. -/
inductive AddRoom where
  /-- `INCR` is on its way to Redis. -/
  | counting (room : Nat)
  /-- Redis has answered the `INCR`. -/
  | counted (room : Nat) (epoch : Nat)
  /-- `SET` is on its way to Redis. -/
  | resetting (room : Nat)
  /-- Redis has answered the `SET`. -/
  | reset (room : Nat)
deriving DecidableEq

/-- The room that is added. -/
def AddRoom.room : AddRoom → Nat
  | .counting room | .counted room _ | .resetting room | .reset room => room

/-- The command is the `INCR`. -/
def AddRoom.counts : AddRoom → Bool
  | .counting _ => true
  | _ => false

/-- The room manager and the balancer connections of a monolith, with the counter in Redis. -/
structure Numbering where
  /-- Every `Room` object there has been. -/
  objects : List EpochRoom := []
  rooms : List Nat := []
  /-- The value under `LOAD_EPOCH_KEY`. -/
  counter : Nat := 0
  adding : List AddRoom := []
  /-- The calls of `onRoomLoad` that have found their room. -/
  informing : List Nat := []
  /-- History: the objects that have been given their epoch. -/
  numbered : List Nat := []
  /-- History: the messages sent, newest first. -/
  sent : List MsgM2B := []
deriving DecidableEq

/-- What can happen next. -/
inductive NumberingLabel where
  /-- `getRoom` or `createRoom` has a room to add. -/
  | addRoom (room : Room)
  /-- Redis runs the command of an `addRoom`. -/
  | redis (index : Nat)
  /-- The answer arrives. -/
  | resume (index : Nat)
  /-- The command fails. -/
  | reject (index : Nat)
  /-- An `onRoomLoad` goes on. -/
  | inform (index : Nat)
  | gossip
  /-- `unloadRoom` takes a room out. -/
  | unload (room : Nat)
  | act (room : Nat) (label : RoomLabel)
  /-- Another monolith counts a load. -/
  | countElsewhere
  /-- Another monolith resets the counter. -/
  | resetElsewhere

namespace Numbering

/-- From here on the counter is reset. -/
def LOAD_EPOCH_LIMIT : Nat := 2147483640

variable (toLowerCase : String → String)

/-- `getRoom` with `mustAlreadyBeLoaded`. -/
def findRoom (roomName : String) (numbering : Numbering) : Option Nat :=
  numbering.rooms.find? fun number => numbering.objects[number]?.any fun object =>
    decide (toLowerCase object.room.name = toLowerCase roomName)

/-- The listener of `load`: `onRoomLoad` up to its await. -/
def emitLoad (number : Nat) (numbering : Numbering) : Numbering :=
  match numbering.objects[number]? with
  | none => numbering
  | some object =>
      match numbering.findRoom toLowerCase object.room.name with
      | none => numbering
      | some found => { numbering with informing := numbering.informing ++ [found] }

/-- `addRoom` up to its first await. -/
def addRoom (room : Room) (numbering : Numbering) : Numbering :=
  { numbering with
    objects := numbering.objects ++ [{ room }]
    rooms := numbering.rooms ++ [numbering.objects.length]
    adding := numbering.adding ++ [.counting numbering.objects.length] }

/-- Redis runs a command. -/
def runCommand (index : Nat) (numbering : Numbering) : Numbering :=
  match numbering.adding[index]? with
  | some (.counting room) =>
      { numbering with
        counter := numbering.counter + 1
        adding := numbering.adding.set index (.counted room (numbering.counter + 1)) }
  | some (.resetting room) =>
      { numbering with
        counter := 0
        adding := numbering.adding.set index (.reset room) }
  | _ => numbering

/-- `addRoom` from an await on. -/
def resume (index : Nat) (numbering : Numbering) : Numbering :=
  match numbering.adding[index]? with
  | some (.counted room epoch) =>
      let numbering :=
        { numbering with
          objects := numbering.objects.modify room fun object => { object with loadEpoch := epoch }
          numbered := room :: numbering.numbered }
      if LOAD_EPOCH_LIMIT ≤ epoch then
        { numbering with adding := numbering.adding.set index (.resetting room) }
      else emitLoad toLowerCase room { numbering with adding := numbering.adding.eraseIdx index }
  | some (.reset room) =>
      emitLoad toLowerCase room { numbering with adding := numbering.adding.eraseIdx index }
  | _ => numbering

def buildGossipMessage (numbering : Numbering) : MsgM2B :=
  .gossip ((numbering.rooms.filterMap fun number => numbering.objects[number]?).map EpochRoom.entry)

/-- `onRoomLoad` from its await on. -/
def inform (index : Nat) (numbering : Numbering) : Numbering :=
  match numbering.informing[index]? with
  | none => numbering
  | some room =>
      match numbering.objects[room]? with
      | none => numbering
      | some object =>
          { numbering with
            informing := numbering.informing.eraseIdx index
            sent := .loaded object.entry :: numbering.sent }

/-- The state after a step. -/
def next (label : NumberingLabel) (numbering : Numbering) : Numbering :=
  match label with
  | .addRoom room => numbering.addRoom room
  | .redis index => numbering.runCommand index
  | .resume index => numbering.resume toLowerCase index
  | .reject index => { numbering with adding := numbering.adding.eraseIdx index }
  | .inform index => numbering.inform index
  | .gossip => { numbering with sent := numbering.buildGossipMessage :: numbering.sent }
  | .unload room => { numbering with rooms := numbering.rooms.erase room }
  | .act room label =>
      { numbering with
        objects := numbering.objects.modify room fun object =>
          { object with room := label.action.apply label.env object.room } }
  | .countElsewhere => { numbering with counter := numbering.counter + 1 }
  | .resetElsewhere => { numbering with counter := 0 }

/-- An `INCR` leaves the counter below 2^32. -/
def Bounded (numbering : Numbering) : NumberingLabel → Prop
  | .redis index => ∀ phase ∈ numbering.adding[index]?, phase.counts = true →
      numbering.counter + 1 < 2 ^ 32
  | .countElsewhere => numbering.counter + 1 < 2 ^ 32
  | _ => True

/-- The same, and a message is built only of rooms that have been given their epoch. -/
def Counted (numbering : Numbering) : NumberingLabel → Prop
  | .gossip => ∀ room ∈ numbering.rooms, room ∈ numbering.numbered
  | .inform index => ∀ room ∈ numbering.informing[index]?, room ∈ numbering.numbered
  | label => numbering.Bounded label

instance (numbering : Numbering) : ∀ label, Decidable (numbering.Counted label)
  | .redis index => inferInstanceAs (Decidable (∀ phase ∈ numbering.adding[index]?, _))
  | .countElsewhere => inferInstanceAs (Decidable (_ < _))
  | .gossip => inferInstanceAs (Decidable (∀ room ∈ numbering.rooms, _))
  | .inform index => inferInstanceAs (Decidable (∀ room ∈ numbering.informing[index]?, _))
  | .addRoom _ => .isTrue trivial
  | .resume _ => .isTrue trivial
  | .reject _ => .isTrue trivial
  | .unload _ => .isTrue trivial
  | .act _ _ => .isTrue trivial
  | .resetElsewhere => .isTrue trivial

theorem Counted.bounded {numbering : Numbering} {label : NumberingLabel}
    (counted : numbering.Counted label) : numbering.Bounded label := by
  cases label with
  | gossip => trivial
  | inform _ => trivial
  | _ => exact counted

end Numbering

/-- Every run of a monolith that starts without rooms, whatever the counter is then. -/
def numberingSystem (toLowerCase : String → String) :
    TransitionSystem Numbering NumberingLabel where
  Initial numbering := ∃ counter, numbering = { counter }
  Step before label after := after = before.next toLowerCase label

/-- The balancer reads a number exactly if it is in range. -/
theorem decodeU32_isSome_iff {value : Int} :
    (decodeU32 value).isSome = true ↔ 0 ≤ value ∧ value < 2 ^ 32 := by
  unfold decodeU32
  split
  · rename_i inside
    exact iff_of_true rfl inside
  · rename_i outside
    exact iff_of_false Bool.false_ne_true outside

/-- The balancer reads a message exactly if it can read every entry. -/
theorem MsgM2B.decode_isSome_iff (message : MsgM2B) :
    message.decode.isSome = true ↔
      ∀ entry ∈ message.entries, (decodeU32 entry.loadEpoch).isSome = true := by
  unfold MsgM2B.decode
  induction message.entries with
  | nil => exact iff_of_true rfl fun _ => by rintro ⟨⟩
  | cons entry rest ih =>
      rw [List.forall_mem_cons, ← ih, List.mapM_cons]
      cases decodeU32 entry.loadEpoch with
      | none => exact iff_of_false Bool.false_ne_true fun both => Bool.false_ne_true both.1
      | some epoch =>
          cases rest.mapM fun entry => decodeU32 entry.loadEpoch with
          | none => exact iff_of_false Bool.false_ne_true fun both => Bool.false_ne_true both.2
          | some epochs => exact iff_of_true rfl ⟨rfl, rfl⟩

namespace Numbering

variable {toLowerCase : String → String} {numbering : Numbering}

/-- The objects that have been given an epoch have one in range, the others have none. -/
structure Sound (numbering : Numbering) : Prop where
  numbered : ∀ room ∈ numbering.numbered, ∀ object ∈ numbering.objects[room]?,
    (decodeU32 object.loadEpoch).isSome = true
  unnumbered : ∀ room, room ∉ numbering.numbered → ∀ object ∈ numbering.objects[room]?,
    object.loadEpoch = -1
  counted : ∀ room epoch, .counted room epoch ∈ numbering.adding → epoch < 2 ^ 32
  given : ∀ room ∈ numbering.numbered, room < numbering.objects.length
  begun : ∀ phase ∈ numbering.adding, phase.room < numbering.objects.length
  listed : ∀ room ∈ numbering.rooms, room < numbering.objects.length

/-- The gossip can be read exactly if every room in it has been given its epoch. -/
theorem gossip_decodes_iff (sound : Sound numbering) :
    numbering.buildGossipMessage.decode.isSome = true ↔
      ∀ room ∈ numbering.rooms, room ∈ numbering.numbered := by
  rw [MsgM2B.decode_isSome_iff]
  constructor
  · intro decodes room listed
    by_contra missing
    obtain ⟨object, there⟩ : ∃ object, numbering.objects[room]? = some object :=
      ⟨_, List.getElem?_eq_getElem (sound.listed room listed)⟩
    have entry := decodes _ (List.mem_map_of_mem (List.mem_filterMap.mpr ⟨room, listed, there⟩))
    have epoch := sound.unnumbered room missing object there
    change (decodeU32 object.loadEpoch).isSome = true at entry
    rw [epoch] at entry
    cases entry
  · intro complete entry member
    obtain ⟨object, held, rfl⟩ := List.mem_map.mp member
    obtain ⟨room, listed, there⟩ := List.mem_filterMap.mp held
    exact sound.numbered room (complete room listed) object there

namespace Sound

variable (sound : Sound numbering)

include sound

/-- The calls in progress become fewer, or go on without an answer out of range. -/
theorem adding {adding : List AddRoom} {counter : Nat}
    {informing : List Nat} {sent : List MsgM2B}
    (answers : ∀ room epoch, .counted room epoch ∈ adding → epoch < 2 ^ 32)
    (begun : ∀ phase ∈ adding, phase.room < numbering.objects.length) :
    Sound { numbering with adding, counter, informing, sent } :=
  ⟨sound.numbered, sound.unnumbered, answers, sound.given, begun, sound.listed⟩

/-- A call that goes on to another await. -/
theorem set {index : Nat} {phase : AddRoom} {counter : Nat}
    (inside : phase.room < numbering.objects.length)
    (answer : ∀ room epoch, phase = .counted room epoch → epoch < 2 ^ 32) :
    Sound { numbering with adding := numbering.adding.set index phase, counter } := by
  refine sound.adding (fun room epoch member => ?_) fun other member => ?_
  · rcases List.mem_or_eq_of_mem_set member with old | new
    · exact sound.counted room epoch old
    · exact answer room epoch new.symm
  · rcases List.mem_or_eq_of_mem_set member with old | rfl
    · exact sound.begun other old
    · exact inside

/-- A call that ends. -/
theorem eraseIdx (index : Nat) :
    Sound { numbering with adding := numbering.adding.eraseIdx index } :=
  sound.adding (fun room epoch member => sound.counted room epoch (List.mem_of_mem_eraseIdx member))
    fun phase member => sound.begun phase (List.mem_of_mem_eraseIdx member)

theorem emitLoad (number : Nat) :
    Sound (numbering.emitLoad toLowerCase number) := by
  unfold Numbering.emitLoad
  split
  · exact sound
  · split
    · exact sound
    · exact sound.adding sound.counted sound.begun

/-- A room that is new has no epoch. -/
theorem addRoom (room : Room) : Sound (numbering.addRoom room) := by
  let object : EpochRoom := { room }
  have longer : (numbering.objects ++ [object]).length = numbering.objects.length + 1 := by
    rw [List.length_append, List.length_singleton]
  have before : ∀ {number}, number < numbering.objects.length →
      (numbering.objects ++ [object])[number]? = numbering.objects[number]? :=
    fun inside => List.getElem?_append_left inside
  refine ⟨?_, ?_, ?_, ?_, ?_, ?_⟩
  · intro number given other held
    change other ∈ (numbering.objects ++ [object])[number]? at held
    rw [before (sound.given number given)] at held
    exact sound.numbered number given other held
  · intro number missing other held
    change other ∈ (numbering.objects ++ [object])[number]? at held
    rcases Nat.lt_or_ge number numbering.objects.length with inside | outside
    · rw [before inside] at held
      exact sound.unnumbered number missing other held
    · rw [List.getElem?_append_right outside] at held
      rw [List.mem_singleton.mp (List.mem_of_getElem? held)]
  · intro number epoch member
    rcases List.mem_append.mp member with old | new
    · exact sound.counted number epoch old
    · cases List.mem_singleton.mp new
  · exact fun number member => longer ▸ Nat.lt_succ_of_lt (sound.given number member)
  · intro phase member
    change phase.room < (numbering.objects ++ [object]).length
    rw [longer]
    rcases List.mem_append.mp member with old | new
    · exact Nat.lt_succ_of_lt (sound.begun phase old)
    · rw [List.mem_singleton.mp new]
      exact Nat.lt_succ_self _
  · intro number member
    change number < (numbering.objects ++ [object]).length
    rw [longer]
    rcases List.mem_append.mp member with old | new
    · exact Nat.lt_succ_of_lt (sound.listed number old)
    · rw [List.mem_singleton.mp new]
      exact Nat.lt_succ_self _

omit sound in
/-- Reading an object after a change of one. -/
theorem modify_read {objects : List EpochRoom} {room number : Nat} {update : EpochRoom → EpochRoom}
    {object : EpochRoom} (held : object ∈ (objects.modify room update)[number]?) :
    ∃ old ∈ objects[number]?, object = if room = number then update old else old := by
  rw [List.getElem?_modify, Option.mem_def, Option.map_eq_map, Option.map_eq_some_iff] at held
  obtain ⟨old, there, same⟩ := held
  exact ⟨old, there, same.symm⟩

theorem number {room epoch : Nat}
    (inside : room < numbering.objects.length) (range : epoch < 2 ^ 32) :
    Sound { numbering with
      objects := numbering.objects.modify room fun object => { object with loadEpoch := epoch }
      numbered := room :: numbering.numbered } := by
  have length : (numbering.objects.modify room fun object =>
      { object with loadEpoch := epoch }).length = numbering.objects.length :=
    List.length_modify _ _ _
  refine ⟨?_, ?_, sound.counted, ?_, fun phase member => ?_, fun number member => ?_⟩
  · intro number given object held
    obtain ⟨old, there, rfl⟩ := modify_read held
    by_cases this : room = number
    · rw [if_pos this]
      have bound : (epoch : Int) < 2 ^ 32 := by exact_mod_cast range
      exact decodeU32_isSome_iff.mpr ⟨Int.natCast_nonneg _, bound⟩
    · rw [if_neg this]
      rcases List.mem_cons.mp given with same | before
      · exact absurd same.symm this
      · exact sound.numbered number before old there
  · intro number missing object held
    obtain ⟨old, there, rfl⟩ := modify_read held
    have other : room ≠ number := fun same => missing (same ▸ List.mem_cons_self)
    rw [if_neg other]
    exact sound.unnumbered number (fun member => missing (List.mem_cons_of_mem _ member)) old there
  · intro number given
    change number < (numbering.objects.modify room _).length
    rw [length]
    rcases List.mem_cons.mp given with rfl | before
    · exact inside
    · exact sound.given number before
  · change phase.room < (numbering.objects.modify room _).length
    rw [length]
    exact sound.begun phase member
  · change number < (numbering.objects.modify room _).length
    rw [length]
    exact sound.listed number member

/-- A room that goes on keeps its epoch. -/
theorem act (room : Nat) (label : RoomLabel) :
    Sound (numbering.next toLowerCase (.act room label)) := by
  have length : (numbering.objects.modify room fun object =>
      { object with room := label.action.apply label.env object.room }).length =
        numbering.objects.length :=
    List.length_modify _ _ _
  have epochs : ∀ (number : Nat) (object : EpochRoom),
      object ∈ (numbering.next toLowerCase (.act room label)).objects[number]? →
        ∃ old : EpochRoom, old ∈ numbering.objects[number]? ∧ object.loadEpoch = old.loadEpoch := by
    intro number object held
    obtain ⟨old, there, rfl⟩ := modify_read held
    refine ⟨old, there, ?_⟩
    split <;> rfl
  refine ⟨?_, ?_, sound.counted, ?_, ?_, ?_⟩
  · intro number given object held
    obtain ⟨old, there, same⟩ := epochs number object held
    exact same ▸ sound.numbered number given old there
  · intro number missing object held
    obtain ⟨old, there, same⟩ := epochs number object held
    exact same ▸ sound.unnumbered number missing old there
  · exact fun number given => length ▸ sound.given number given
  · exact fun phase member => length ▸ sound.begun phase member
  · exact fun number member => length ▸ sound.listed number member

/-- What a step preserves while the counter is in range. -/
theorem next {label : NumberingLabel}
    (bounded : numbering.Bounded label) : Sound (numbering.next toLowerCase label) := by
  cases label with
  | addRoom room => exact sound.addRoom room
  | redis index =>
      unfold Numbering.next runCommand
      dsimp only
      split
      · rename_i room found
        have inside := sound.begun _ (List.mem_of_getElem? found)
        refine sound.set inside ?_
        rintro _ _ ⟨⟩
        exact bounded _ found rfl
      · rename_i room found
        have inside := sound.begun _ (List.mem_of_getElem? found)
        refine sound.set inside ?_
        rintro _ _ ⟨⟩
      · exact sound
  | resume index =>
      unfold Numbering.next Numbering.resume
      dsimp only
      split
      · rename_i room epoch found
        have member := List.mem_of_getElem? found
        have inside := sound.begun _ member
        have numbered := sound.number inside (sound.counted room epoch member)
        split
        · refine numbered.set ?_ ?_
          · exact (List.length_modify _ _ _).symm ▸ inside
          · rintro _ _ ⟨⟩
        · exact (numbered.eraseIdx index).emitLoad room
      · exact (sound.eraseIdx index).emitLoad _
      · exact sound
  | reject index => exact sound.eraseIdx index
  | inform index =>
      unfold Numbering.next Numbering.inform
      dsimp only
      split
      · exact sound
      · split
        · exact sound
        · exact sound.adding sound.counted sound.begun
  | gossip => exact sound.adding sound.counted sound.begun
  | unload room =>
      exact ⟨sound.numbered, sound.unnumbered, sound.counted, sound.given, sound.begun,
        fun number member => sound.listed number (List.mem_of_mem_erase member)⟩
  | act room label => exact sound.act room label
  | countElsewhere => exact sound.adding sound.counted sound.begun
  | resetElsewhere => exact sound.adding sound.counted sound.begun

end Sound

/-- The epochs are sound in every run in which the counter stays in range. -/
theorem sound_inductive :
    TransitionSystem.Inductive ((numberingSystem toLowerCase).restrict Bounded) Sound where
  initial := by
    rintro _ ⟨counter, rfl⟩
    exact ⟨fun _ member => absurd member List.not_mem_nil, fun _ _ _ => by rintro ⟨⟩,
      fun _ _ member => absurd member List.not_mem_nil,
      fun _ member => absurd member List.not_mem_nil,
      fun _ member => absurd member List.not_mem_nil,
      fun _ member => absurd member List.not_mem_nil⟩
  preserved := by
    rintro before label _ sound ⟨bounded, rfl⟩
    exact sound.next bounded

/-- What a step sends can be read if it is built only of rooms that have their epoch. -/
theorem sent_decodes (sound : Sound numbering) {label : NumberingLabel}
    (counted : numbering.Counted label)
    (before : ∀ message ∈ numbering.sent, message.decode.isSome = true) :
    ∀ message ∈ (numbering.next toLowerCase label).sent, message.decode.isSome = true := by
  cases label with
  | gossip =>
      rintro message (_ | ⟨_, member⟩)
      · exact (gossip_decodes_iff sound).mpr counted
      · exact before message member
  | inform index =>
      unfold next inform
      dsimp only
      split
      · exact before
      · rename_i room found
        split
        · exact before
        · rename_i object there
          rintro message (_ | ⟨_, member⟩)
          · refine (MsgM2B.decode_isSome_iff _).mpr fun entry member => ?_
            rw [List.mem_singleton.mp member]
            exact sound.numbered room (counted room found) object there
          · exact before message member
  | addRoom room => exact before
  | redis index =>
      unfold next runCommand
      dsimp only
      split <;> exact before
  | resume index =>
      have emitted : ∀ (state : Numbering) number,
          (state.emitLoad toLowerCase number).sent = state.sent := by
        intro state number
        unfold emitLoad
        split
        · rfl
        · split <;> rfl
      unfold next resume
      dsimp only
      split
      · split
        · exact before
        · rw [emitted]
          exact before
      · rw [emitted]
        exact before
      · exact before
  | reject index => exact before
  | unload room => exact before
  | act room label => exact before
  | countElsewhere => exact before
  | resetElsewhere => exact before

/-- In every run in which every message is built of rooms that have been given their epoch, and
every `INCR` leaves the counter below 2^32, the balancer can read every message. -/
theorem epochs_decode
    (reached : ((numberingSystem toLowerCase).restrict Counted).Reachable numbering) :
    ∀ message ∈ numbering.sent, message.decode.isSome = true := by
  have invariant : TransitionSystem.Inductive ((numberingSystem toLowerCase).restrict Counted)
      fun numbering => Sound numbering ∧
        ∀ message ∈ numbering.sent, message.decode.isSome = true := by
    refine ⟨fun start initial => ⟨sound_inductive.initial start initial, ?_⟩, ?_⟩
    · obtain ⟨counter, rfl⟩ := initial
      exact fun _ member => absurd member List.not_mem_nil
    · rintro before label _ ⟨sound, decodes⟩ ⟨counted, rfl⟩
      exact ⟨sound.next counted.bounded, sent_decodes sound counted decodes⟩
  exact (invariant.of_reachable reached).2

section Sample

/-- A room is added and announced, and is in the gossip after that. -/
def addedFirst : List NumberingLabel :=
  [.addRoom { name := "theatre" }, .redis 0, .resume 0, .inform 0, .gossip]

/-- Another room is being added when the gossip is built. -/
def addedMeanwhile : List NumberingLabel :=
  addedFirst ++ [.addRoom { name := "lounge" }, .gossip]

/-- The room is unloaded before it has its epoch, and loaded again. -/
def addedAgain : List NumberingLabel :=
  [.addRoom { name := "theatre" }, .unload 0, .addRoom { name := "theatre" }, .redis 0, .resume 0,
    .inform 0]

end Sample

/-- One room. -/
theorem epochs_decode_first :
    (TransitionSystem.run (next id) addedFirst {}).sent ≠ [] ∧
      (TransitionSystem.run (next id) addedFirst {}).sent.all (·.decode.isSome) = true := by
  have step : ∀ (numbering : Numbering) label, numbering.Counted label →
      ((numberingSystem id).restrict Counted).Step numbering label (numbering.next id label) :=
    fun _ _ counted => ⟨counted, rfl⟩
  have taken : TransitionSystem.runs (next id) (fun numbering label => numbering.Counted label)
      addedFirst {} = true := by
    decide +kernel
  have decodes := epochs_decode ⟨{}, ⟨0, rfl⟩, TransitionSystem.steps_run step _ _ taken⟩
  exact ⟨by decide +kernel, List.all_eq_true.mpr decodes⟩

/-- A gossip that is built while a room waits for its epoch cannot be read, although it has the
entry of the other room, and neither can the `Loaded` of a room that was unloaded and loaded
again. -/
theorem unnumbered_room_undecodable :
    (numberingSystem id).Reachable (TransitionSystem.run (next id) addedMeanwhile {}) ∧
      (TransitionSystem.run (next id) addedMeanwhile {}).sent.map MsgM2B.decode =
        [none, some [1], some [1]] ∧
      (numberingSystem id).Reachable (TransitionSystem.run (next id) addedAgain {}) ∧
      (TransitionSystem.run (next id) addedAgain {}).sent.map MsgM2B.decode = [none] := by
  have step : ∀ (numbering : Numbering) label, True →
      (numberingSystem id).Step numbering label (numbering.next id label) := fun _ _ _ => rfl
  have meanwhile : TransitionSystem.runs (next id) (fun _ _ => True) addedMeanwhile {} = true := rfl
  have again : TransitionSystem.runs (next id) (fun _ _ => True) addedAgain {} = true := rfl
  exact ⟨⟨{}, ⟨0, rfl⟩, TransitionSystem.steps_run step _ _ meanwhile⟩, by decide +kernel,
    ⟨{}, ⟨0, rfl⟩, TransitionSystem.steps_run step _ _ again⟩, by decide +kernel⟩

end Numbering

end OpenTogetherTube
