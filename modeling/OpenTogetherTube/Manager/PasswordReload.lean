import OpenTogetherTube.Manager.RoomManager
import OpenTogetherTube.Room.Identity

/-!
# A password across a reload

The snapshot of a room has no password. `getRoom` fetches the password of a permanent room
from its row; a temporary room has no row and comes back open. `GuardedAt` is what the
stores agree on for one name; every step is local to one name, so each of them is looked at
there only.
-/

namespace OpenTogetherTube

open Lib Lib.Handler

/-- The room object is the one the change was made for. -/
def PasswordChange.For (change : PasswordChange) (key : String) (loaded : LoadedRoom) : Prop :=
  change.key = key ∧ change.epoch = loaded.epoch

instance (change : PasswordChange) (key : String) (loaded : LoadedRoom) :
    Decidable (change.For key loaded) :=
  inferInstanceAs (Decidable (_ ∧ _))

namespace ManagerState

/-- What the stores say about a loaded room. The row of a permanent room has its password,
or the one that a change in progress is about to set. -/
structure LoadedAt (state : ManagerState) (key : String) (loaded : LoadedRoom) : Prop where
  keyed : loaded.room.name.toLower = key
  snapshot : ∀ stored, state.redis.lookup loaded.room.name = some stored →
    stored.isTemporary = loaded.room.isTemporary
  row : ∀ row, state.storage.lookup key = some row → loaded.room.name = row.name →
    loaded.room.isTemporary = false
  changing : loaded.room.isTemporary = false → ∀ change ∈ state.changes, change.For key loaded →
    state.getRoomPasswordHash key = change.hash
  settled : loaded.room.isTemporary = false → (∀ change ∈ state.changes, ¬ change.For key loaded) →
    state.getRoomPasswordHash key = loaded.room.passwordHash

/-- What the stores say about a locked room that was dropped. -/
structure UnloadedAt (state : ManagerState) (key : String) (loaded : LoadedRoom) : Prop where
  absent : key ∉ state.rooms
  permanent : loaded.room.isTemporary = false
  password : state.getRoomPasswordHash key = loaded.room.passwordHash
  keyed : loaded.room.name.toLower = key
  snapshot : ∀ stored, state.redis.lookup loaded.room.name = some stored →
    stored.isTemporary = false ∧ stored.owner = loaded.room.owner.map User.id

/-- Only the loaded rooms, the snapshots and the passwords of the rows matter. -/
theorem UnloadedAt.frame {before after : ManagerState} {key : String} {loaded : LoadedRoom}
    (sound : before.UnloadedAt key loaded) (rooms : after.rooms = before.rooms)
    (password : after.getRoomPasswordHash key = before.getRoomPasswordHash key)
    (redis : after.redis = before.redis) : after.UnloadedAt key loaded := by
  constructor
  · rw [rooms]
    exact sound.absent
  · exact sound.permanent
  · rw [password]
    exact sound.password
  · exact sound.keyed
  · rw [redis]
    exact sound.snapshot

/-- What the stores agree on for one name. -/
structure GuardedAt (state : ManagerState) (key : String) : Prop where
  named : ∀ name stored, name.toLower = key → state.redis.lookup name = some stored →
    stored.name = name
  old : ∀ change ∈ state.changes, change.key = key → change.epoch < state.nextEpoch
  row : ∀ row, state.storage.lookup key = some row → row.name.toLower = key ∧
    ∀ stored, state.redis.lookup row.name = some stored → stored.isTemporary = false
  loaded : ∀ loaded, state.rooms.lookup key = some loaded → state.LoadedAt key loaded
  unloaded : ∀ loaded, state.unloaded.lookup key = some loaded →
    loaded.room.passwordHash ≠ none → state.UnloadedAt key loaded

/-- The stores agree on every name. -/
def Guarded (state : ManagerState) : Prop :=
  ∀ key, state.GuardedAt key

/-- Nothing changed under any other name. -/
structure Elsewhere (key : String) (before after : ManagerState) : Prop where
  rooms : ∀ other, other ≠ key → after.rooms.lookup other = before.rooms.lookup other
  storage : ∀ other, other ≠ key → after.storage.lookup other = before.storage.lookup other
  unloaded : ∀ other, other ≠ key → after.unloaded.lookup other = before.unloaded.lookup other
  redis : ∀ name : String, name.toLower ≠ key → after.redis.lookup name = before.redis.lookup name
  changes : ∀ change : PasswordChange, change.key ≠ key →
    (change ∈ after.changes ↔ change ∈ before.changes)
  epoch : before.nextEpoch ≤ after.nextEpoch

/-- What holds under one name is not disturbed by what happens under another. -/
theorem GuardedAt.elsewhere {key other : String} {before after : ManagerState}
    (guarded : before.GuardedAt other) (different : other ≠ key)
    (same : Elsewhere key before after) : after.GuardedAt other := by
  have hash : after.getRoomPasswordHash other = before.getRoomPasswordHash other := by
    unfold getRoomPasswordHash
    rw [same.storage other different]
  have snapshots : ∀ name : String, name.toLower = other →
      after.redis.lookup name = before.redis.lookup name :=
    fun name keyed => same.redis name (keyed ▸ different)
  have changes : ∀ change : PasswordChange, change.key = other →
      (change ∈ after.changes ↔ change ∈ before.changes) :=
    fun change keyed => same.changes change (keyed ▸ different)
  constructor
  · intro name stored keyed read
    rw [snapshots name keyed] at read
    exact guarded.named name stored keyed read
  · intro change held keyed
    exact Nat.lt_of_lt_of_le (guarded.old change ((changes change keyed).mp held) keyed) same.epoch
  · intro row found
    rw [same.storage other different] at found
    obtain ⟨keyed, kind⟩ := guarded.row row found
    rw [snapshots row.name keyed]
    exact ⟨keyed, kind⟩
  · intro loaded found
    rw [same.rooms other different] at found
    have sound := guarded.loaded loaded found
    constructor
    · exact sound.keyed
    · rw [snapshots loaded.room.name sound.keyed]
      exact sound.snapshot
    · rw [same.storage other different]
      exact sound.row
    · intro permanent change held made
      rw [hash]
      exact sound.changing permanent change ((changes change made.1).mp held) made
    · intro permanent none
      rw [hash]
      refine sound.settled permanent fun change held made => ?_
      exact none change ((changes change made.1).mpr held) made
  · intro loaded found locked
    rw [same.unloaded other different] at found
    have sound := guarded.unloaded loaded found locked
    constructor
    · rw [← AList.lookup_eq_none, same.rooms other different, AList.lookup_eq_none]
      exact sound.absent
    · exact sound.permanent
    · rw [hash]
      exact sound.password
    · exact sound.keyed
    · rw [snapshots loaded.room.name sound.keyed]
      exact sound.snapshot

/-- A step that is local to a name keeps the agreement if it does so there. -/
theorem Guarded.of_local {key : String} {before after : ManagerState} (guarded : before.Guarded)
    (same : Elsewhere key before after) (here : after.GuardedAt key) : after.Guarded := by
  intro other
  by_cases equal : other = key
  · rw [equal]
    exact here
  · exact (guarded other).elsewhere equal same

section Steps

variable {state : ManagerState}

theorem addRoom_elsewhere (state : ManagerState) (room : Room) :
    Elsewhere room.name.toLower state (state.addRoom room) where
  rooms _ different := AList.lookup_insert_ne different
  storage _ _ := rfl
  unloaded _ different := AList.lookup_erase_ne different
  redis _ _ := rfl
  changes _ _ := Iff.rfl
  epoch := Nat.le_succ _

theorem started_identity (env : Env) (room : Room) :
    ((do Room.update env; Room.sync env : RoomM Unit).after room).identity = room.identity :=
  (Keeps.bind (Room.stays_core.update env room) fun _ _ => Room.stays_core.sync env _).1

theorem created_identity (env : Env) (name : String) (options : RoomOptions)
    (hash : Option String) :
    (if hash.isSome then
        (Room.new { options with name := some name, passwordHash := none } env.now).setPasswordHash
          hash
      else Room.new { options with name := some name, passwordHash := none } env.now).identity =
      ⟨name, options.isTemporary.getD false, hash, options.owner.getD none⟩ := by
  have created := Room.new_identity { options with name := some name, passwordHash := none } env.now
  cases hash with
  | none => exact created
  | some hash =>
      exact congrArg (fun identity : RoomIdentity => { identity with passwordHash := some hash })
        created

/-- What a loaded room saves is a snapshot of it. -/
theorem apply_stored {label : RoomLabel} {room : Room} {stored : StoredState}
    (saved : (label.action.apply label.env { room with saved := none }).saved = some stored) :
    stored.name = room.name ∧ stored.isTemporary = room.isTemporary := by
  rcases (label.action.apply_identity label.env { room with saved := none }).2 with
    unsaved | ⟨now, saver, written, same⟩
  · rw [unsaved] at saved
    cases saved
  · rw [written] at saved
    cases saved
    exact ⟨congrArg RoomIdentity.name same, congrArg RoomIdentity.isTemporary same⟩

/-- An action of a loaded room other than a new password keeps name, kind and password. -/
theorem apply_kept {label : RoomLabel} (room : Room)
    (other : label.action.setsPassword = false) :
    (label.action.apply label.env { room with saved := none }).name = room.name ∧
      (label.action.apply label.env { room with saved := none }).isTemporary = room.isTemporary ∧
      (label.action.apply label.env { room with saved := none }).passwordHash =
        room.passwordHash := by
  have identity := (label.action.apply_identity label.env { room with saved := none }).1
  have kept : ∀ identity : RoomIdentity,
      (label.action.identityAfter identity).name = identity.name ∧
        (label.action.identityAfter identity).isTemporary = identity.isTemporary ∧
        (label.action.identityAfter identity).passwordHash = identity.passwordHash := by
    intro identity
    unfold RoomAction.identityAfter
    split
    · exact ⟨rfl, rfl, rfl⟩
    · rename_i hash set
      rw [set] at other
      cases other
    · exact ⟨rfl, rfl, rfl⟩
  obtain ⟨name, kind, password⟩ := kept { room with saved := none }.identity
  exact ⟨(congrArg RoomIdentity.name identity).trans name,
    (congrArg RoomIdentity.isTemporary identity).trans kind,
    (congrArg RoomIdentity.passwordHash identity).trans password⟩

/-- The Redis keys after a step: the room's own, if it saved, and the others as before. -/
theorem lookup_saved {room : Room} {redis : Table String StoredState} {name : String}
    {snapshot : StoredState} (read : (match room.saved with
      | some stored => redis.insert room.name stored
      | none => redis).lookup name = some snapshot) :
    name = room.name ∧ room.saved = some snapshot ∨ redis.lookup name = some snapshot := by
  cases saved : room.saved with
  | none =>
      rw [saved] at read
      exact .inr read
  | some stored =>
      rw [saved] at read
      rcases Table.lookup_insert_cases read with ⟨rfl, rfl⟩ | ⟨_, before⟩
      · exact .inl ⟨rfl, rfl⟩
      · exact .inr before

/-- The identity of a room rebuilt from its snapshot, with the password that was fetched. -/
theorem restored_identity (stored : StoredState) (hash : Option (Option String)) (now : Int) :
    (Room.new { redisStateToState stored with passwordHash := hash } now).identity =
      ⟨stored.name, stored.isTemporary, hash.getD none, stored.owner.map fun id => ⟨id, ""⟩⟩ :=
  Room.new_identity { redisStateToState stored with passwordHash := hash } now

/-- Which store a rebuilt room comes from, and what it is. -/
theorem buildRoom_identity {requested : String} {storageAnswers : Bool} {now : Int} {room : Room}
    (built : state.buildRoom requested storageAnswers now = some room) :
    (∃ stored, state.redis.lookup requested = some stored ∧ room.identity =
      ⟨stored.name, stored.isTemporary,
        if stored.isTemporary then none else state.getRoomPasswordHash stored.name.toLower,
        stored.owner.map fun id => ⟨id, ""⟩⟩) ∨
    state.redis.lookup requested = none ∧
      ∃ row, state.storage.lookup requested.toLower = some row ∧ room.identity =
        ⟨row.name, false, row.passwordHash, row.owner⟩ := by
  unfold buildRoom at built
  cases read : state.redis.lookup requested with
  | some stored =>
      rw [read] at built
      refine Or.inl ⟨stored, rfl, ?_⟩
      cases temporary : stored.isTemporary with
      | true =>
          simp only [temporary, if_true, Option.some.injEq] at built
          rw [← built]
          have identity := restored_identity stored none now
          rw [temporary] at identity
          exact identity
      | false =>
          simp only [temporary, Bool.false_eq_true, if_false] at built
          split at built
          · cases built
            have identity := restored_identity stored
              (some (state.getRoomPasswordHash stored.name.toLower)) now
            rw [temporary] at identity
            exact identity
          · cases built
  | none =>
      rw [read] at built
      dsimp only at built
      split at built
      · obtain ⟨row, found, rfl⟩ := Option.map_eq_some_iff.mp built
        exact Or.inr ⟨rfl, row, found, Room.new_identity (dbToRoomArgs row) now⟩
      · cases built

variable (guarded : state.Guarded)

include guarded

theorem addRoom_guarded {room : Room}
    (snapshot : ∀ stored, state.redis.lookup room.name = some stored →
      stored.isTemporary = room.isTemporary)
    (row : ∀ row, state.storage.lookup room.name.toLower = some row → room.name = row.name →
      room.isTemporary = false)
    (password : room.isTemporary = false →
      state.getRoomPasswordHash room.name.toLower = room.passwordHash) :
    (state.addRoom room).Guarded := by
  have here := guarded room.name.toLower
  refine guarded.of_local (addRoom_elsewhere state room) ?_
  constructor
  · exact here.named
  · intro change held keyed
    exact Nat.lt_succ_of_lt (here.old change held keyed)
  · exact here.row
  · intro loaded found
    rw [addRoom, AList.lookup_insert] at found
    cases found
    constructor
    · rfl
    · exact snapshot
    · exact row
    · intro _ change held made
      -- the epoch of the new object is later than that of any change in progress
      exact absurd made.2 (Nat.ne_of_lt (here.old change held made.1))
    · intro permanent _
      exact password permanent
  · intro loaded found _
    rw [addRoom, AList.lookup_erase] at found
    cases found

/-- A new row under a free name disturbs nothing. -/
theorem insertRow_guarded {name : String} {row : DbRoom}
    (named : row.name = name) (unloaded : name.toLower ∉ state.rooms) (unsaved : name ∉ state.redis)
    (unstored : name.toLower ∉ state.storage) :
    { state with storage := state.storage.insert name.toLower row }.Guarded := by
  have here := guarded name.toLower
  have elsewhere : Elsewhere name.toLower state
      { state with storage := state.storage.insert name.toLower row } :=
    ⟨fun _ _ => rfl, fun _ different => AList.lookup_insert_ne different, fun _ _ => rfl,
      fun _ _ => rfl, fun _ _ => Iff.rfl, le_rfl⟩
  refine guarded.of_local elsewhere ?_
  constructor
  · exact here.named
  · exact here.old
  · intro found read
    rw [AList.lookup_insert] at read
    cases read
    rw [named]
    refine ⟨rfl, fun stored kept => ?_⟩
    rw [AList.lookup_eq_none.mpr unsaved] at kept
    cases kept
  · intro loaded found
    rw [AList.lookup_eq_none.mpr unloaded] at found
    cases found
  · intro loaded found locked
    have sound := here.unloaded loaded found locked
    have missing : state.getRoomPasswordHash name.toLower = none := by
      unfold getRoomPasswordHash
      rw [AList.lookup_eq_none.mpr unstored]
      rfl
    exact absurd (sound.password.symm.trans missing) locked

theorem createRoom_guarded (env : Env) (name : String)
    (options : RoomOptions) (hash : Option String) :
    (state.createRoom env name options hash).Guarded := by
  unfold createRoom
  split
  · exact guarded
  · rename_i free
    obtain ⟨unloaded, unsaved, unstored⟩ : name.toLower ∉ state.rooms ∧ name ∉ state.redis ∧
        name.toLower ∉ state.storage := by
      push Not at free
      exact free
    dsimp only
    have createdName : (Room.new { options with name := some name, passwordHash := none }
        env.now).name = name :=
      congrArg RoomIdentity.name
        (Room.new_identity { options with name := some name, passwordHash := none } env.now)
    have identity := created_identity env name options hash
    generalize Room.new { options with name := some name, passwordHash := none } env.now =
      created at createdName identity ⊢
    generalize (if hash.isSome then created.setPasswordHash hash else created) = room at identity ⊢
    have started := (started_identity env room).trans identity
    have kind : room.isTemporary = options.isTemporary.getD false :=
      congrArg RoomIdentity.isTemporary identity
    have rowGuarded : (if room.isTemporary then state else { state with
        storage := state.storage.insert name.toLower
          { roomToDb created with passwordHash := hash } }).Guarded := by
      split
      · exact guarded
      · exact insertRow_guarded guarded createdName unloaded unsaved unstored
    split
    · generalize (do Room.update env; Room.sync env : RoomM Unit).after room = final at started ⊢
      have finalName : final.name = name := congrArg RoomIdentity.name started
      have finalKind : final.isTemporary = room.isTemporary :=
        (congrArg RoomIdentity.isTemporary started).trans kind.symm
      have finalHash : final.passwordHash = hash := congrArg RoomIdentity.passwordHash started
      refine addRoom_guarded rowGuarded ?_ ?_ ?_
      · intro stored kept
        have missing : state.redis.lookup final.name = none := by
          rw [finalName]
          exact AList.lookup_eq_none.mpr unsaved
        split at kept <;> cases missing.symm.trans kept
      · intro row found _
        rw [finalKind]
        cases temporary : room.isTemporary with
        | false => rfl
        | true =>
            rw [temporary, finalName] at found
            cases (AList.lookup_eq_none.mpr unstored).symm.trans found
      · intro permanent
        rw [finalKind] at permanent
        rw [permanent, finalName, finalHash]
        unfold getRoomPasswordHash
        simp
    · exact rowGuarded

theorem act_guarded (key : String) (label : RoomLabel)
    (other : label.action.setsPassword = false) : (state.act key label).Guarded := by
  unfold act
  split
  · exact guarded
  · rename_i loaded found
    have here := guarded key
    have sound := here.loaded loaded found
    obtain ⟨name, kind, password⟩ := apply_kept loaded.room other
    have stored := @apply_stored label loaded.room
    dsimp only
    generalize label.action.apply label.env { loaded.room with saved := none } = room
      at name kind password stored ⊢
    refine @Guarded.of_local key _ _ guarded ?_ ?_
    · constructor
      · exact fun _ different => AList.lookup_insert_ne different
      · exact fun _ _ => rfl
      · exact fun _ _ => rfl
      · intro other different
        cases room.saved with
        | none => rfl
        | some written =>
            refine AList.lookup_insert_ne ?_
            rintro rfl
            exact different (name ▸ sound.keyed)
      · exact fun _ _ => Iff.rfl
      · exact le_rfl
    · constructor
      · intro other snapshot keyed read
        rcases lookup_saved read with ⟨rfl, saved⟩ | before
        · exact (stored saved).1.trans name.symm
        · exact here.named other snapshot keyed before
      · exact here.old
      · intro row permanent
        refine ⟨(here.row row permanent).1, fun snapshot read => ?_⟩
        rcases lookup_saved read with ⟨same, saved⟩ | before
        · exact (stored saved).2.trans (sound.row row permanent (same.trans name).symm)
        · exact (here.row row permanent).2 snapshot before
      · intro current read
        rw [AList.lookup_insert] at read
        cases read
        constructor
        · rw [name]
          exact sound.keyed
        · intro snapshot read
          rw [kind]
          rcases lookup_saved read with ⟨_, saved⟩ | before
          · exact (stored saved).2
          · exact sound.snapshot snapshot (name ▸ before)
        · intro row stored
          rw [name, kind]
          exact sound.row row stored
        · rw [kind]
          exact sound.changing
        · rw [kind, password]
          exact sound.settled
      · intro gone read locked
        have absent := (here.unloaded gone read locked).absent
        exact absurd found (by rw [AList.lookup_eq_none.mpr absent]; exact nofun)

omit guarded in
/-- The changes under another key stay what they were. -/
theorem mem_changes_elsewhere {key : String} {epoch : Nat} {hash : Option String}
    (change : PasswordChange) (different : change.key ≠ key) :
    change ∈ (⟨key, epoch, hash⟩ : PasswordChange) :: state.changes ↔ change ∈ state.changes := by
  constructor
  · intro held
    rcases List.mem_cons.mp held with rfl | before
    · exact absurd rfl different
    · exact before
  · exact List.mem_cons_of_mem _

omit guarded in
/-- The changes under a key are of rooms that have been loaded. -/
theorem GuardedAt.old_cons {key : String} {epoch : Nat} {hash : Option String}
    (here : state.GuardedAt key) (known : epoch < state.nextEpoch) :
    ∀ change ∈ (⟨key, epoch, hash⟩ : PasswordChange) :: state.changes,
      change.key = key → change.epoch < state.nextEpoch := by
  intro change held keyed
  rcases List.mem_cons.mp held with rfl | before
  · exact known
  · exact here.old change before keyed

/-- A temporary room has no row to write. -/
theorem storeTemporary_guarded {key : String} {epoch : Nat}
    {hash : Option String} (known : epoch < state.nextEpoch)
    (kind : ∀ loaded ∈ state.rooms.lookup key,
      loaded.epoch = epoch → loaded.room.isTemporary = true) :
    (state.storePassword key epoch true hash).Guarded := by
  have here := guarded key
  unfold storePassword
  simp only [if_true]
  refine @Guarded.of_local key _ _ guarded ⟨fun _ _ => rfl, fun _ _ => rfl, fun _ _ => rfl,
    fun _ _ => rfl, mem_changes_elsewhere, le_rfl⟩ ?_
  constructor
  · exact here.named
  · exact here.old_cons known
  · exact here.row
  · intro loaded found
    have sound := here.loaded loaded found
    refine ⟨sound.keyed, sound.snapshot, sound.row, ?_, ?_⟩
    · intro permanent change held made
      rcases List.mem_cons.mp held with rfl | before
      · rw [kind loaded found made.2.symm] at permanent
        cases permanent
      · exact sound.changing permanent change before made
    · intro permanent none
      exact sound.settled permanent fun change held => none change (List.mem_cons_of_mem _ held)
  · exact fun loaded found locked => (here.unloaded loaded found locked).frame rfl rfl rfl

/-- The row of a loaded room is written, and the room waits for the new password. -/
theorem storePermanent_guarded {key : String} {hash : Option String}
    {current : LoadedRoom} (known : current.epoch < state.nextEpoch)
    (found : current ∈ state.rooms.lookup key)
    (idle : ∀ change ∈ state.changes, ¬ change.For key current) :
    (state.storePassword key current.epoch false hash).Guarded := by
  have here := guarded key
  unfold storePassword
  simp only [Bool.false_eq_true, if_false]
  split
  · exact guarded
  · rename_i row stored
    refine @Guarded.of_local key _ _ guarded ⟨fun _ _ => rfl,
      fun _ different => AList.lookup_insert_ne different, fun _ _ => rfl, fun _ _ => rfl,
      mem_changes_elsewhere, le_rfl⟩ ?_
    have password : getRoomPasswordHash key { state with
        storage := state.storage.insert key { row with passwordHash := hash }
        changes := ⟨key, current.epoch, hash⟩ :: state.changes } = hash := by
      unfold getRoomPasswordHash
      rw [AList.lookup_insert]
      rfl
    constructor
    · exact here.named
    · exact here.old_cons known
    · intro found read
      rw [AList.lookup_insert] at read
      cases read
      exact here.row row stored
    · intro loaded read
      cases found.symm.trans read
      have sound := here.loaded current found
      refine ⟨sound.keyed, sound.snapshot, ?_, ?_, ?_⟩
      · intro found read named
        rw [AList.lookup_insert] at read
        cases read
        exact sound.row row stored named
      · intro _ change held made
        rcases List.mem_cons.mp held with rfl | before
        · exact password
        · exact absurd made (idle change before)
      · intro _ none
        exact absurd ⟨rfl, rfl⟩ (none _ List.mem_cons_self)
    · intro gone read locked
      have absent := (here.unloaded gone read locked).absent
      rw [Option.mem_def, AList.lookup_eq_none.mpr absent] at found
      cases found

/-- The password of a loaded permanent room is changed by one call at a time. -/
theorem storePassword_guarded {key : String} {epoch : Nat}
    {isTemporary : Bool} {hash : Option String} (known : epoch < state.nextEpoch)
    (kind : ∀ loaded ∈ state.rooms.lookup key,
      loaded.epoch = epoch → loaded.room.isTemporary = isTemporary)
    (alone : isTemporary = false → ∃ loaded ∈ state.rooms.lookup key, loaded.epoch = epoch ∧
      ∀ change ∈ state.changes, ¬ change.For key loaded) :
    (state.storePassword key epoch isTemporary hash).Guarded := by
  cases isTemporary with
  | true => exact storeTemporary_guarded guarded known kind
  | false =>
      obtain ⟨current, found, rfl, idle⟩ := alone rfl
      exact storePermanent_guarded guarded known found idle

theorem dropChange_guarded {changes : List PasswordChange}
    (change : PasswordChange) (fewer : ∀ other ∈ changes, other ∈ state.changes)
    (others : ∀ other : PasswordChange, other ≠ change →
      (other ∈ changes ↔ other ∈ state.changes))
    (stale : ∀ loaded, state.rooms.lookup change.key = some loaded →
      loaded.epoch ≠ change.epoch) : { state with changes := changes }.Guarded := by
  have here := guarded change.key
  refine @Guarded.of_local change.key _ _ guarded ⟨fun _ _ => rfl, fun _ _ => rfl,
    fun _ _ => rfl, fun _ _ => rfl, ?_, le_rfl⟩ ?_
  · intro other different
    refine others other ?_
    rintro rfl
    exact different rfl
  · constructor
    · exact here.named
    · exact fun other held => here.old other (fewer other held)
    · exact here.row
    · intro loaded found
      have sound := here.loaded loaded found
      refine ⟨sound.keyed, sound.snapshot, sound.row, ?_, ?_⟩
      · exact fun permanent other held => sound.changing permanent other (fewer other held)
      · intro permanent none
        refine sound.settled permanent fun other held made => ?_
        refine none other ((others other ?_).mpr held) made
        rintro rfl
        exact stale loaded found made.2.symm
    · exact fun loaded found locked => (here.unloaded loaded found locked).frame rfl rfl rfl

/-- The second write of a password change gives the room what its row has. -/
theorem finishPassword_guarded (index : Nat) :
    (state.finishPassword index).Guarded := by
  unfold finishPassword
  split
  · exact guarded
  · rename_i change picked
    have here := guarded change.key
    have fewer : ∀ other, other ∈ state.changes.eraseIdx index → other ∈ state.changes :=
      fun _ held => List.mem_of_mem_eraseIdx held
    have others : ∀ other : PasswordChange, other ≠ change →
        (other ∈ state.changes.eraseIdx index ↔ other ∈ state.changes) := by
      intro other different
      refine ⟨fewer other, fun held => ?_⟩
      obtain ⟨position, found⟩ := List.mem_iff_getElem?.mp held
      have elsewhere : position ≠ index := by
        rintro rfl
        rw [picked] at found
        cases found
        exact different rfl
      exact List.mem_eraseIdx_iff_getElem?.mpr ⟨position, elsewhere, found⟩
    dsimp only
    split
    · rename_i missing
      refine dropChange_guarded guarded change fewer others fun loaded found => ?_
      rw [missing] at found
      cases found
    · rename_i loaded found
      split
      · rename_i same
        have sound := here.loaded loaded found
        have made : change.For change.key loaded := ⟨rfl, same.symm⟩
        have held : change ∈ state.changes := List.mem_of_getElem? picked
        refine @Guarded.of_local change.key _ _ guarded
          ⟨fun _ different => AList.lookup_insert_ne different, fun _ _ => rfl,
            fun _ _ => rfl, fun _ _ => rfl, ?_, le_rfl⟩ ?_
        · intro other different
          refine others other ?_
          rintro rfl
          exact different rfl
        · constructor
          · exact here.named
          · exact fun other held => here.old other (fewer other held)
          · exact here.row
          · intro current read
            rw [AList.lookup_insert] at read
            cases read
            refine ⟨sound.keyed, sound.snapshot, sound.row, ?_, ?_⟩
            · exact fun permanent other held => sound.changing permanent other (fewer other held)
            · exact fun permanent _ => sound.changing permanent change held made
          · intro gone read locked
            have absent := (here.unloaded gone read locked).absent
            rw [AList.lookup_eq_none.mpr absent] at found
            cases found
      · rename_i different
        refine dropChange_guarded guarded change fewer others fun current read => ?_
        rw [found] at read
        cases read
        exact different

theorem updateRoom_guarded (key : String) (written : DbRoom) :
    (state.updateRoom key written).Guarded := by
  unfold updateRoom
  split
  · exact guarded
  · rename_i row stored
    have here := guarded key
    refine @Guarded.of_local key _ _ guarded ⟨fun _ _ => rfl,
      fun _ different => AList.lookup_insert_ne different, fun _ _ => rfl, fun _ _ => rfl,
      fun _ _ => Iff.rfl, le_rfl⟩ ?_
    have password : getRoomPasswordHash key { state with
        storage := state.storage.insert key
          { written with name := row.name, passwordHash := row.passwordHash } } =
        state.getRoomPasswordHash key := by
      unfold getRoomPasswordHash
      rw [AList.lookup_insert, stored]
      rfl
    constructor
    · exact here.named
    · exact here.old
    · intro found read
      rw [AList.lookup_insert] at read
      cases read
      exact here.row row stored
    · intro loaded found
      have sound := here.loaded loaded found
      refine ⟨sound.keyed, sound.snapshot, ?_, ?_, ?_⟩
      · intro found read
        rw [AList.lookup_insert] at read
        cases read
        exact sound.row row stored
      · rw [password]
        exact sound.changing
      · rw [password]
        exact sound.settled
    · exact fun loaded found locked => (here.unloaded loaded found locked).frame rfl password rfl

/-- A row may go when no room of its name is loaded or waits for a reload. -/
theorem deleteRow_guarded {key : String} (absent : key ∉ state.rooms)
    (forgotten : key ∉ state.unloaded) :
    { state with storage := state.storage.erase key }.Guarded := by
  have here := guarded key
  refine @Guarded.of_local key _ _ guarded ⟨fun _ _ => rfl,
    fun _ different => AList.lookup_erase_ne different, fun _ _ => rfl, fun _ _ => rfl,
    fun _ _ => Iff.rfl, le_rfl⟩ ?_
  constructor
  · exact here.named
  · exact here.old
  · intro row read
    rw [AList.lookup_erase] at read
    cases read
  · intro loaded found
    rw [AList.lookup_eq_none.mpr absent] at found
    cases found
  · intro loaded found
    rw [AList.lookup_eq_none.mpr forgotten] at found
    cases found

/-- A locked room may be dropped when it is permanent, no change of its password is under
way and its snapshot, if there is one, has its owner. -/
def Droppable (state : ManagerState) (key : String) (loaded : LoadedRoom) : Prop :=
  loaded.room.passwordHash ≠ none →
    loaded.room.isTemporary = false ∧ (∀ change ∈ state.changes, ¬ change.For key loaded) ∧
      ∀ stored ∈ state.redis.lookup loaded.room.name,
        stored.owner = loaded.room.owner.map User.id

instance (state : ManagerState) (key : String) (loaded : LoadedRoom) :
    Decidable (state.Droppable key loaded) :=
  inferInstanceAs (Decidable (_ → _))

omit guarded in
/-- What is known of a loaded room stays known when it is dropped. -/
theorem LoadedAt.dropped {after : ManagerState} {key : String} {loaded : LoadedRoom}
    (sound : state.LoadedAt key loaded) (droppable : state.Droppable key loaded)
    (locked : loaded.room.passwordHash ≠ none) (absent : key ∉ after.rooms)
    (storage : after.storage = state.storage) (redis : after.redis = state.redis) :
    after.UnloadedAt key loaded := by
  obtain ⟨permanent, idle, owner⟩ := droppable locked
  constructor
  · exact absent
  · exact permanent
  · unfold getRoomPasswordHash
    rw [storage]
    exact sound.settled permanent idle
  · exact sound.keyed
  · rw [redis]
    exact fun stored read => ⟨(sound.snapshot stored read).trans permanent, owner stored read⟩

theorem unloadRoom_guarded {key : String} {reason : UnloadReason}
    (droppable : reason.preservesRedis = true →
      ∀ loaded ∈ state.rooms.lookup key, state.Droppable key loaded) :
    (state.unloadRoom key reason).Guarded := by
  unfold unloadRoom
  split
  · exact guarded
  · rename_i loaded found
    have here := guarded key
    have sound := here.loaded loaded found
    have gone : key ∉ state.rooms.erase key := by
      rw [AList.mem_erase]
      exact fun held => held.1 rfl
    split
    · rename_i kept
      refine @Guarded.of_local key _ _ guarded
        ⟨fun _ different => AList.lookup_erase_ne different, fun _ _ => rfl,
          fun _ different => AList.lookup_insert_ne different, fun _ _ => rfl,
          fun _ _ => Iff.rfl, le_rfl⟩ ?_
      constructor
      · exact here.named
      · exact here.old
      · exact here.row
      · intro current read
        rw [AList.lookup_erase] at read
        cases read
      · intro current read locked
        rw [AList.lookup_insert] at read
        cases read
        exact sound.dropped (droppable kept loaded found) locked gone rfl rfl
    · have erased : ∀ (name : String) (stored : StoredState),
          (state.redis.erase loaded.room.name).lookup name = some stored →
          state.redis.lookup name = some stored :=
        fun _ _ read => (Table.lookup_erase_cases read).2
      refine @Guarded.of_local key _ _ guarded
        ⟨fun _ different => AList.lookup_erase_ne different, fun _ _ => rfl,
          fun _ different => AList.lookup_erase_ne different, ?_, fun _ _ => Iff.rfl, le_rfl⟩ ?_
      · intro name different
        refine AList.lookup_erase_ne ?_
        rintro rfl
        exact different sound.keyed
      · constructor
        · exact fun name stored keyed read => here.named name stored keyed (erased name stored read)
        · exact here.old
        · exact fun row stored => ⟨(here.row row stored).1, fun snapshot read =>
            (here.row row stored).2 snapshot (erased _ snapshot read)⟩
        · intro current read
          rw [AList.lookup_erase] at read
          cases read
        · intro current read
          rw [AList.lookup_erase] at read
          cases read

theorem crash_guarded
    (droppable : ∀ key, ∀ loaded ∈ state.rooms.lookup key, state.Droppable key loaded) :
    state.crash.Guarded := by
  intro key
  have here := guarded key
  constructor
  · exact here.named
  · exact fun change held => absurd held List.not_mem_nil
  · exact here.row
  · intro loaded found
    cases found
  · intro loaded found locked
    have absent : key ∉ state.crash.rooms := AList.notMem_empty key
    rcases AList.mem_lookup_union.mp found with live | ⟨missing, gone⟩
    · exact (here.loaded loaded live).dropped (droppable key loaded live) locked absent rfl rfl
    · have sound := here.unloaded loaded gone locked
      exact ⟨absent, sound.permanent, sound.password, sound.keyed, sound.snapshot⟩

theorem expire_guarded (name : String) :
    (state.next (.expire name)).Guarded := by
  have erased : ∀ (other : String) (stored : StoredState),
      (state.redis.erase name).lookup other = some stored →
      state.redis.lookup other = some stored :=
    fun _ _ read => (Table.lookup_erase_cases read).2
  intro key
  have here := guarded key
  constructor
  · exact fun other stored keyed read => here.named other stored keyed (erased other stored read)
  · exact here.old
  · exact fun row stored => ⟨(here.row row stored).1, fun snapshot read =>
      (here.row row stored).2 snapshot (erased _ snapshot read)⟩
  · intro loaded found
    have sound := here.loaded loaded found
    exact ⟨sound.keyed, fun stored read => sound.snapshot stored (erased _ stored read),
      sound.row, sound.changing, sound.settled⟩
  · intro loaded found locked
    have sound := here.unloaded loaded (Table.lookup_retain.mp found).1 locked
    exact ⟨sound.absent, sound.permanent, sound.password, sound.keyed, fun stored read =>
      sound.snapshot stored (erased _ stored read)⟩

theorem getRoom_guarded (requested : String) (storageAnswers : Bool)
    (now : Int) : (state.getRoom requested storageAnswers now).Guarded := by
  unfold getRoom
  split
  · exact guarded
  · split
    · rename_i room built
      rcases buildRoom_identity built with
        ⟨stored, read, identity⟩ | ⟨_, row, found, identity⟩
      · have here := guarded requested.toLower
        have same : stored.name = requested := here.named requested stored rfl read
        have name : room.name = requested := (congrArg RoomIdentity.name identity).trans same
        have kind : room.isTemporary = stored.isTemporary :=
          congrArg RoomIdentity.isTemporary identity
        refine addRoom_guarded guarded ?_ ?_ ?_
        · intro snapshot kept
          rw [name, read] at kept
          cases kept
          exact kind.symm
        · intro row found named
          rw [name] at found named
          rw [kind]
          exact (here.row row found).2 stored (named ▸ read)
        · intro permanent
          rw [kind] at permanent
          have password := congrArg RoomIdentity.passwordHash identity
          rw [permanent, same] at password
          rw [name]
          exact password.symm
      · have here := guarded requested.toLower
        obtain ⟨keyed, snapshots⟩ := here.row row found
        have name : room.name = row.name := congrArg RoomIdentity.name identity
        have kind : room.isTemporary = false := congrArg RoomIdentity.isTemporary identity
        refine addRoom_guarded guarded ?_ (fun _ _ _ => kind) ?_
        · intro snapshot kept
          rw [name] at kept
          exact (snapshots snapshot kept).trans kind.symm
        · intro _
          unfold getRoomPasswordHash
          rw [name, keyed, found]
          exact (congrArg RoomIdentity.passwordHash identity).symm
    · exact guarded

end Steps

/-- What a step must not do to a locked room: change the password or the row of a room in
ways that pass its object by, or drop a room whose lock the stores do not have. -/
def Lawful (state : ManagerState) : ManagerLabel → Prop
  | .storePassword key epoch isTemporary _ =>
      isTemporary = false → ∃ loaded ∈ state.rooms.lookup key, loaded.epoch = epoch ∧
        ∀ change ∈ state.changes, ¬ change.For key loaded
  | .deleteRoom key => key ∉ state.rooms ∧ key ∉ state.unloaded
  | .unloadRoom key reason => reason.preservesRedis = true →
      ∀ loaded ∈ state.rooms.lookup key, state.Droppable key loaded
  | .crash => ∀ key ∈ state.rooms.keys, ∀ loaded ∈ state.rooms.lookup key,
      state.Droppable key loaded
  | _ => True

instance (state : ManagerState) : ∀ label, Decidable (state.Lawful label)
  | .storePassword _ _ _ _ => inferInstanceAs (Decidable (_ → _))
  | .deleteRoom _ => inferInstanceAs (Decidable (_ ∧ _))
  | .unloadRoom _ _ => inferInstanceAs (Decidable (_ → _))
  | .crash => inferInstanceAs (Decidable (∀ key ∈ _, _))
  | .createRoom _ _ _ _ => .isTrue trivial
  | .act _ _ => .isTrue trivial
  | .finishPassword _ => .isTrue trivial
  | .updateRoom _ _ => .isTrue trivial
  | .expire _ => .isTrue trivial
  | .getRoom _ _ _ => .isTrue trivial

theorem next_guarded {state : ManagerState} (guarded : state.Guarded) {label : ManagerLabel}
    (enabled : state.Enabled label) (lawful : state.Lawful label) : (state.next label).Guarded := by
  cases label with
  | createRoom env name options hash => exact createRoom_guarded guarded env name options hash
  | act key label =>
      obtain ⟨_, _, _, _, other⟩ := enabled
      exact act_guarded guarded key label other
  | storePassword key epoch isTemporary hash =>
      exact storePassword_guarded guarded enabled.1 enabled.2 lawful
  | finishPassword index => exact finishPassword_guarded guarded index
  | updateRoom key written => exact updateRoom_guarded guarded key written
  | deleteRoom key => exact deleteRow_guarded guarded lawful.1 lawful.2
  | unloadRoom key reason => exact unloadRoom_guarded guarded lawful
  | crash =>
      refine crash_guarded guarded fun key loaded found => ?_
      exact lawful key (AList.mem_keys.mp (AList.lookup_isSome.mp (Option.isSome_of_mem found)))
        loaded found
  | expire name => exact expire_guarded guarded name
  | getRoom requested storageAnswers now => exact getRoom_guarded guarded requested storageAnswers now

theorem initial_guarded : ({} : ManagerState).Guarded := by
  intro key
  constructor
  · exact fun name stored _ read => nomatch read
  · exact fun change held => absurd held List.not_mem_nil
  · exact fun row found => nomatch found
  · exact fun loaded found => nomatch found
  · exact fun loaded found => nomatch found

/-- In every run of lawful steps, a locked room that was dropped with its snapshot kept comes
back with its password, and its door opens for the same visitors. -/
theorem password_survives_reload {state : ManagerState}
    (reachable : (managerSystem.restrict Lawful).Reachable state) {key : String}
    {loaded : LoadedRoom} (gone : state.unloaded.lookup key = some loaded)
    (locked : loaded.room.passwordHash ≠ none) {stored : StoredState}
    (kept : state.redis.lookup loaded.room.name = some stored) (now : Int) :
    ∃ rebuilt, (state.getRoom loaded.room.name true now).rooms.lookup key = some rebuilt ∧
      rebuilt.room.passwordHash = loaded.room.passwordHash ∧
      ∀ store token session, rebuilt.room.hasRoomAccess store token session =
        loaded.room.hasRoomAccess store token session := by
  have invariant : (managerSystem.restrict Lawful).Inductive Guarded := by
    constructor
    · rintro _ rfl
      exact initial_guarded
    · rintro before label _ guarded ⟨lawful, enabled, rfl⟩
      exact next_guarded guarded enabled lawful
  have here := invariant.of_reachable reachable key
  have sound := here.unloaded loaded gone locked
  obtain ⟨permanent, owner⟩ := sound.snapshot stored kept
  have named : stored.name = loaded.room.name := here.named _ stored sound.keyed kept
  have absent : ¬ loaded.room.name.toLower ∈ state.rooms := by
    rw [sound.keyed]
    exact sound.absent
  obtain ⟨room, built⟩ : ∃ room, state.buildRoom loaded.room.name true now = some room := by
    unfold buildRoom
    simp only [kept, permanent, Bool.false_eq_true, if_false, if_true]
    exact ⟨_, rfl⟩
  have identity : room.identity = ⟨loaded.room.name, false, loaded.room.passwordHash,
      stored.owner.map fun id => ⟨id, ""⟩⟩ := by
    rcases buildRoom_identity built with ⟨found, read, identity⟩ | ⟨missing, _⟩
    · cases kept.symm.trans read
      rw [permanent, named, sound.keyed] at identity
      rw [← sound.password]
      exact identity
    · cases kept.symm.trans missing
  have name : room.name = loaded.room.name := congrArg RoomIdentity.name identity
  have password : room.passwordHash = loaded.room.passwordHash :=
    congrArg RoomIdentity.passwordHash identity
  have owners : room.owner.map User.id = loaded.room.owner.map User.id := by
    have same : room.owner = stored.owner.map fun id => ⟨id, ""⟩ :=
      congrArg RoomIdentity.owner identity
    rw [same, ← owner, Option.map_map]
    exact Option.map_id'
  refine ⟨⟨room, state.nextEpoch⟩, ?_, password, fun store token session =>
    Room.hasRoomAccess_congr name password owners store token session⟩
  have placed : room.name.toLower = key := by
    rw [name]
    exact sound.keyed
  unfold getRoom
  rw [if_neg absent, built, ← placed]
  exact AList.lookup_insert _

section Sample

/-- A room is created with a password, saved and unloaded on command. -/
def lockedAndUnloaded (isTemporary : Bool) : List ManagerLabel :=
  [.createRoom { now := 0 } "cinema" { isTemporary := some isTemporary } (some "hash"),
    .act "cinema" ⟨{ now := 1 }, .save⟩,
    .unloadRoom "cinema" .commanded]

end Sample

/-- The permanent room comes back locked. -/
theorem password_survives_reload_permanent :
    ∃ rebuilt, ((run (lockedAndUnloaded false)).getRoom "cinema" true 2).rooms.lookup "cinema" =
      some rebuilt ∧ rebuilt.room.passwordHash = some "hash" := by
  have reachable : (managerSystem.restrict Lawful).Reachable (run (lockedAndUnloaded false)) := by
    refine run_reachable Lawful _ ?_
    decide +kernel
  have gone : ((run (lockedAndUnloaded false)).unloaded.lookup "cinema").any (fun loaded =>
      decide (loaded.room.name = "cinema" ∧ loaded.room.passwordHash = some "hash")) = true := by
    decide +kernel
  have kept : ((run (lockedAndUnloaded false)).redis.lookup "cinema").isSome = true := by
    decide +kernel
  obtain ⟨loaded, found, same⟩ := (Option.any_eq_true _ _).mp gone
  obtain ⟨name, locked⟩ := of_decide_eq_true same
  obtain ⟨stored, saved⟩ := Option.isSome_iff_exists.mp kept
  rw [← name] at saved
  obtain ⟨rebuilt, read, password, _⟩ :=
    password_survives_reload reachable found (by rw [locked]; exact nofun) saved 2
  rw [name] at read
  exact ⟨rebuilt, read, password.trans locked⟩

/-- A temporary room comes back open: a guest without a grant was refused and is let in. -/
theorem temporary_password_lost :
    managerSystem.Reachable (run (lockedAndUnloaded true)) ∧
      ((run (lockedAndUnloaded true)).redis.lookup "cinema").isSome = true ∧
      ((run (lockedAndUnloaded true)).unloaded.lookup "cinema").map (fun loaded =>
        (loaded.room.passwordHash, loaded.room.hasRoomAccess ⟨id, fun _ => false⟩ none none)) =
        some (some "hash", false) ∧
      (((run (lockedAndUnloaded true)).getRoom "cinema" true 2).rooms.lookup "cinema").map
        (fun loaded =>
          (loaded.room.passwordHash, loaded.room.hasRoomAccess ⟨id, fun _ => false⟩ none none)) =
        some (none, true) := by
  have reachable : managerSystem.Reachable (run (lockedAndUnloaded true)) := by
    refine (run_reachable (fun _ _ => True) _ ?_).of_restrict
    decide +kernel
  refine ⟨reachable, ?_, ?_, ?_⟩
  · decide +kernel
  · decide +kernel
  · decide +kernel

end ManagerState

end OpenTogetherTube
