import OpenTogetherTube.Manager.PasswordReload

/-!
# Names in different spellings

The loaded rooms and the rows are found by the name in lower case, a snapshot by the very
name that is asked for. So two spellings of a name find the same room unless one of them has
a snapshot and no room of the name is loaded. Names match `ROOM_NAME_REGEX`: letters of ASCII,
digits, `_` and `-`, where `toLower` is the source's `toLowerCase`.
-/

namespace OpenTogetherTube

open Lib

structure RoomNameTakenException where
  name : String
deriving DecidableEq

namespace Room

theorem assignOptions_lastPlayAt (options : RoomOptions) (now : Int) (room : Room) :
    (room.assignOptions options now).lastPlayAt =
      if options.currentSource.isSome then some now else room.lastPlayAt := by
  unfold assignOptions
  dsimp only
  iterate 11 rw [applySetting_frame fun room : Room => room.lastPlayAt]
  rw [applySetting_project (fun room : Room => room.lastPlayAt) _ options.currentSource _
    (fun _ _ => some now) fun _ room => by simp [onPlayback, GateState.sourceSet]]
  iterate 7 rw [applySetting_frame fun room : Room => room.lastPlayAt]
  · cases options.currentSource <;> rfl
  all_goals intro value room
  all_goals first
    | rfl
    | simp [onPlayback]
    | exact assignPrevQueue_frame (fun room : Room => room.lastPlayAt) room value fun _ _ _ => rfl

/-- A source among the options, even an empty one, is a source that was just set. -/
theorem new_lastPlayAt (options : RoomOptions) (now : Int) :
    (Room.new options now).lastPlayAt =
      if options.currentSource.isSome then some now else none := by
  obtain ⟨room, same, made⟩ := new_frame (fun room : Room => room.lastPlayAt) options now
    fun _ _ _ _ _ _ _ => rfl
  rw [made]
  exact same.trans (assignOptions_lastPlayAt options now _)

end Room

namespace ManagerState

/-- What `createRoom` asks before it makes the room. -/
def checkName (name : String) (state : ManagerState) : Except RoomNameTakenException Unit :=
  if name.toLower ∈ state.rooms then .error ⟨name⟩
  else if name ∈ state.redis then .error ⟨name⟩
  else if name.toLower ∈ state.storage then .error ⟨name⟩
  else .ok ()

/-- What `getRoom` resolves to; `none` is no room or a rejection. -/
def findRoom (requested : String) (storageAnswers : Bool) (now : Int) (state : ManagerState) :
    Option Room :=
  match state.rooms.lookup requested.toLower with
  | some loaded => some loaded.room
  | none => state.buildRoom requested storageAnswers now

/-- A store has a room under the name. -/
def Holds (name : String) (state : ManagerState) : Prop :=
  name.toLower ∈ state.rooms ∨ name ∈ state.redis ∨ name.toLower ∈ state.storage

instance (name : String) (state : ManagerState) : Decidable (state.Holds name) :=
  inferInstanceAs (Decidable (_ ∨ _))

/-- Both names find the same room, whenever they are asked for, and neither can be taken by a
new room while there is one under the other. -/
structure NamesAgree (first second : String) (state : ManagerState) : Prop where
  found : ∀ storageAnswers now,
    state.findRoom first storageAnswers now = state.findRoom second storageAnswers now
  firstTaken : state.Holds second → state.checkName first = .error ⟨first⟩
  secondTaken : state.Holds first → state.checkName second = .error ⟨second⟩

/-- A room of the name is loaded, or the two are spelled alike, or neither spelling has a
snapshot. -/
def SpellingIrrelevant (first second : String) (state : ManagerState) : Prop :=
  first.toLower ∈ state.rooms ∨ first = second ∨ first ∉ state.redis ∧ second ∉ state.redis

/-- Every snapshot is the one of the room it is named for. -/
def SnapshotsNamed (state : ManagerState) : Prop :=
  ∀ name stored, state.redis.lookup name = some stored → stored.name = name

variable {state : ManagerState} {name : String}

theorem checkName_eq_error_iff : state.checkName name = .error ⟨name⟩ ↔ state.Holds name := by
  unfold checkName Holds
  split
  · rename_i loaded
    exact iff_of_true rfl (Or.inl loaded)
  · rename_i unloaded
    split
    · rename_i saved
      exact iff_of_true rfl (Or.inr (Or.inl saved))
    · rename_i unsaved
      split
      · rename_i stored
        exact iff_of_true rfl (Or.inr (Or.inr stored))
      · rename_i unstored
        refine iff_of_false nofun ?_
        rintro (loaded | saved | stored)
        · exact unloaded loaded
        · exact unsaved saved
        · exact unstored stored

/-- A room built from a snapshot has the name in the snapshot, and its source, or none, has
just been set. -/
theorem buildRoom_of_snapshot {requested : String} {stored : StoredState} (now : Int)
    (saved : state.redis.lookup requested = some stored) :
    ∃ room, state.buildRoom requested true now = some room ∧ room.name = stored.name ∧
      room.lastPlayAt = some now := by
  have named : ∀ options : RoomOptions, options.name = some stored.name →
      options.currentSource.isSome = true → (Room.new options now).name = stored.name ∧
        (Room.new options now).lastPlayAt = some now := by
    intro options name source
    constructor
    · refine (congrArg RoomIdentity.name (Room.new_identity options now)).trans ?_
      exact congrArg (Option.getD · "") name
    · rw [Room.new_lastPlayAt, if_pos source]
  unfold buildRoom
  rw [saved]
  dsimp only
  split
  · exact ⟨_, rfl, named _ rfl rfl⟩
  · exact ⟨_, rfl, named _ rfl rfl⟩

/-- A room built from a row has had no source set. -/
theorem buildRoom_of_row {requested : String} {room : Room} {now : Int}
    (unsaved : state.redis.lookup requested = none)
    (built : state.buildRoom requested true now = some room) : room.lastPlayAt = none := by
  unfold buildRoom at built
  rw [unsaved] at built
  dsimp only at built
  rw [if_pos rfl] at built
  cases row : state.storage.lookup requested.toLower with
  | none =>
      rw [row] at built
      cases built
  | some found =>
      rw [row] at built
      cases built
      exact Room.new_lastPlayAt (dbToRoomArgs found) now

theorem findRoom_of_unloaded {requested : String} (unloaded : requested.toLower ∉ state.rooms)
    (storageAnswers : Bool) (now : Int) :
    state.findRoom requested storageAnswers now = state.buildRoom requested storageAnswers now := by
  unfold findRoom
  rw [AList.lookup_eq_none.mpr unloaded]

/-- A spelling that has a snapshot finds another room than any other spelling. -/
theorem findRoom_of_snapshot (named : state.SnapshotsNamed) {first second : String}
    (different : first ≠ second) (firstUnloaded : first.toLower ∉ state.rooms)
    (secondUnloaded : second.toLower ∉ state.rooms) (saved : first ∈ state.redis) :
    state.findRoom first true 0 ≠ state.findRoom second true 0 := by
  rw [findRoom_of_unloaded firstUnloaded, findRoom_of_unloaded secondUnloaded]
  obtain ⟨stored, found⟩ : ∃ stored, state.redis.lookup first = some stored :=
    Option.isSome_iff_exists.mp (AList.lookup_isSome.mpr saved)
  obtain ⟨room, built, name, set⟩ := buildRoom_of_snapshot 0 found
  rw [built]
  intro same
  cases read : state.redis.lookup second with
  | some other =>
      obtain ⟨otherRoom, otherBuilt, otherName, _⟩ := buildRoom_of_snapshot 0 read
      rw [otherBuilt] at same
      cases same
      exact different ((named first stored found).symm.trans
        (name.symm.trans (otherName.trans (named second other read))))
  | none =>
      cases set.symm.trans (buildRoom_of_row read same.symm)

/-- What a room saves goes under its own name. -/
theorem act_snapshotsNamed (named : state.SnapshotsNamed) (key : String) (label : RoomLabel)
    (other : label.action.setsPassword = false) : (state.act key label).SnapshotsNamed := by
  unfold act
  split
  · exact named
  · rename_i loaded found
    obtain ⟨name, _, _⟩ := apply_kept loaded.room other
    have stored := @apply_stored label loaded.room
    dsimp only
    generalize label.action.apply label.env { loaded.room with saved := none } = room
      at name stored ⊢
    intro other snapshot read
    cases saved : room.saved with
    | none =>
        rw [saved] at read
        exact named other snapshot read
    | some written =>
        rw [saved] at read
        rcases Table.lookup_insert_cases read with ⟨rfl, rfl⟩ | ⟨_, before⟩
        · exact (stored saved).1.trans name.symm
        · exact named other snapshot before

theorem createRoom_redis (env : Env) (name : String) (options : RoomOptions)
    (hash : Option String) : (state.createRoom env name options hash).redis = state.redis := by
  unfold createRoom
  split
  · rfl
  · dsimp only
    generalize Room.new { options with name := some name, passwordHash := none } env.now = created
    generalize (if hash.isSome then created.setPasswordHash hash else created) = room
    have stored : (if room.isTemporary then state else { state with
        storage := state.storage.insert name.toLower
          { roomToDb created with passwordHash := hash } }).redis = state.redis := by
      split <;> rfl
    split
    · exact stored
    · exact stored

/-- Only a room that acts writes a snapshot. -/
theorem next_redis {label : ManagerLabel} (idle : ∀ key act, label ≠ .act key act)
    {stored : StoredState} (read : (state.next label).redis.lookup name = some stored) :
    state.redis.lookup name = some stored := by
  cases label with
  | act key label => exact absurd rfl (idle key label)
  | createRoom env roomName options hash =>
      change (state.createRoom env roomName options hash).redis.lookup name = _ at read
      rw [createRoom_redis] at read
      exact read
  | storePassword key epoch isTemporary hash =>
      change (state.storePassword key epoch isTemporary hash).redis.lookup name = _ at read
      unfold storePassword at read
      split at read
      · exact read
      · split at read <;> exact read
  | finishPassword index =>
      change (state.finishPassword index).redis.lookup name = _ at read
      unfold finishPassword at read
      split at read
      · exact read
      · dsimp only at read
        split at read
        · exact read
        · split at read <;> exact read
  | updateRoom key written =>
      change (state.updateRoom key written).redis.lookup name = _ at read
      unfold updateRoom at read
      split at read <;> exact read
  | deleteRoom key => exact read
  | unloadRoom key reason =>
      change (state.unloadRoom key reason).redis.lookup name = _ at read
      unfold unloadRoom at read
      split at read
      · exact read
      · split at read
        · exact read
        · exact (Table.lookup_erase_cases read).2
  | crash => exact read
  | expire expired => exact (Table.lookup_erase_cases read).2
  | getRoom requested storageAnswers now =>
      change (state.getRoom requested storageAnswers now).redis.lookup name = _ at read
      unfold getRoom at read
      split at read
      · exact read
      · split at read <;> exact read

/-- Snapshots stay under the names of their rooms in every run. -/
theorem snapshotsNamed_of_reachable (reachable : managerSystem.Reachable state) :
    state.SnapshotsNamed := by
  have invariant : TransitionSystem.Inductive managerSystem SnapshotsNamed := by
    constructor
    · rintro _ rfl name stored read
      cases read
    · rintro before label after named ⟨enabled, rfl⟩
      cases label with
      | act key label =>
          obtain ⟨_, _, _, _, other⟩ := enabled
          exact act_snapshotsNamed named key label other
      | _ =>
          refine fun name stored read => named name stored (next_redis ?_ read)
          intro key label same
          cases same
  exact invariant.of_reachable reachable

/-- Two spellings of a name are one name to the three stores where the spelling is irrelevant,
and only there if the snapshots are named for their rooms, as they are in every run. -/
theorem namesAgree_iff_spellingIrrelevant (state : ManagerState) (first second : String)
    (alike : first.toLower = second.toLower) :
    (state.SpellingIrrelevant first second → state.NamesAgree first second) ∧
      (state.SnapshotsNamed → state.NamesAgree first second →
        state.SpellingIrrelevant first second) := by
  constructor
  · rintro (loaded | rfl | ⟨firstUnsaved, secondUnsaved⟩)
    · have otherLoaded : second.toLower ∈ state.rooms := alike ▸ loaded
      refine ⟨fun storageAnswers now => ?_, fun _ => checkName_eq_error_iff.mpr (Or.inl loaded),
        fun _ => checkName_eq_error_iff.mpr (Or.inl otherLoaded)⟩
      obtain ⟨room, found⟩ : ∃ room, state.rooms.lookup first.toLower = some room :=
        Option.isSome_iff_exists.mp (AList.lookup_isSome.mpr loaded)
      unfold findRoom
      rw [← alike, found]
    · exact ⟨fun _ _ => rfl, checkName_eq_error_iff.mpr, checkName_eq_error_iff.mpr⟩
    · -- neither spelling has a snapshot, so only the stores that fold case have a say
      refine ⟨fun storageAnswers now => ?_, fun held => ?_, fun held => ?_⟩
      · unfold findRoom buildRoom
        rw [AList.lookup_eq_none.mpr firstUnsaved, AList.lookup_eq_none.mpr secondUnsaved, alike]
      · rw [checkName_eq_error_iff]
        rcases held with loaded | saved | stored
        · exact Or.inl (alike ▸ loaded)
        · exact absurd saved secondUnsaved
        · exact Or.inr (Or.inr (alike ▸ stored))
      · rw [checkName_eq_error_iff]
        rcases held with loaded | saved | stored
        · exact Or.inl (alike ▸ loaded)
        · exact absurd saved firstUnsaved
        · exact Or.inr (Or.inr (alike ▸ stored))
  · intro named agree
    by_contra relevant
    unfold SpellingIrrelevant at relevant
    push Not at relevant
    obtain ⟨unloaded, different, saved⟩ := relevant
    have otherUnloaded : second.toLower ∉ state.rooms := alike ▸ unloaded
    by_cases firstSaved : first ∈ state.redis
    · exact findRoom_of_snapshot named different unloaded otherUnloaded firstSaved
        (agree.found true 0)
    · exact findRoom_of_snapshot named different.symm otherUnloaded unloaded (saved firstSaved)
        (agree.found true 0).symm

namespace Spelled

/-- A room named with a capital saves and is lost with its process. -/
def labels : List ManagerLabel :=
  [.createRoom { now := 0 } "Cinema" { isTemporary := some true } none,
    .act "cinema" ⟨{ now := 5000 }, .save⟩, .crash]

end Spelled

/-- With only the snapshot of `Cinema` left, `cinema` finds no room and is free. -/
theorem namesAgree_fails :
    managerSystem.Reachable (run Spelled.labels) ∧ "Cinema".toLower = "cinema".toLower ∧
      ¬ (run Spelled.labels).NamesAgree "Cinema" "cinema" := by
  have reachable : managerSystem.Reachable (run Spelled.labels) := by
    refine (run_reachable (fun _ _ => True) _ ?_).of_restrict
    decide +kernel
  refine ⟨reachable, by decide +kernel, fun agree => ?_⟩
  have found : ((run Spelled.labels).findRoom "Cinema" true 0).isSome = true := by
    decide +kernel
  have missing : ((run Spelled.labels).findRoom "cinema" true 0).isSome = false := by
    decide +kernel
  rw [agree.found true 0, missing] at found
  cases found

/-- With the room loaded both spellings are the same. -/
theorem namesAgree_iff_spellingIrrelevant_loaded :
    (run (Spelled.labels.take 2)).NamesAgree "Cinema" "cinema" :=
  (namesAgree_iff_spellingIrrelevant (run (Spelled.labels.take 2)) "Cinema" "cinema"
    (by decide +kernel)).1 (Or.inl (by decide +kernel))

end ManagerState

end OpenTogetherTube
