import Mathlib.Algebra.Order.Group.Multiset
import Mathlib.Data.Multiset.UnionInter
import OpenTogetherTube.Lib.Tasks
import OpenTogetherTube.Manager.RoomManager

/-!
# The room manager between its awaits

`Manager.RoomManager` runs `getRoom` and `createRoom` in one piece. Here they are cut at
every `await`, together with `unloadRoom`: the lookup among the loaded rooms is one piece and
the push that follows it another, with Redis and the database in between. What these answer
comes from outside, so the rooms are objects with a name only.
-/

namespace OpenTogetherTube

open Lib

/-- A `Room` object; two objects of one name differ in their number. -/
structure RoomObject where
  number : Nat
  name : String
deriving DecidableEq

/-- What `createRoom` reads of its options. -/
structure CreateOptions where
  name : String
  isTemporary : Bool := true
  password : Bool := false
deriving DecidableEq

/-- The first argument of `unloadRoom`. -/
inductive RoomArgument where
  | name (roomName : String)
  | object (room : RoomObject)
deriving DecidableEq

/-- What `redisClient.get` finds. -/
inductive SnapshotRead where
  | missing
  | corrupt
  | found (name : String) (isTemporary : Bool)
deriving DecidableEq

/-- What the awaited call answers. -/
structure StoreAnswer where
  /-- It rejects. -/
  rejects : Bool := false
  /-- `redisClient.exists`, `isRoomNameTaken`. -/
  taken : Bool := false
  /-- `saveRoom`. -/
  saved : Bool := true
  /-- `redisClient.get`. -/
  snapshot : SnapshotRead := .missing
  /-- The name in the row of `getRoomByName`. -/
  row : Option String := none
deriving DecidableEq

/-- The exported functions. -/
inductive LoadCall where
  | createRoom (options : CreateOptions)
  | getRoom (roomName : String) (mustAlreadyBeLoaded : Bool)
  | unloadRoom (room : RoomArgument) (reason : UnloadReason) (preserveRedis : Bool)
deriving DecidableEq

/-- The awaits. -/
inductive LoadPoint where
  /-- `createRoom`, at `redisClient.exists`. -/
  | findingSnapshot (options : CreateOptions)
  /-- `createRoom`, at `isRoomNameTaken`. -/
  | findingRow (options : CreateOptions)
  /-- `createRoom`, at `saveRoom`. -/
  | saving (room : RoomObject) (password : Bool)
  /-- `createRoom`, at `setRoomPassword`. -/
  | settingPassword (room : RoomObject)
  /-- `createRoom`, at `room.update()`. -/
  | updating (room : RoomObject)
  /-- `createRoom`, at `room.sync()`. -/
  | syncing (room : RoomObject)
  /-- `getRoom`, at `redisClient.get`. -/
  | readingSnapshot (roomName : String)
  /-- `getRoom`, at `redisClient.del` of a snapshot it cannot parse. -/
  | discardingSnapshot (roomName : String)
  /-- `getRoom`, at `getRoomPasswordHash`. -/
  | readingPassword (name : String)
  /-- `getRoom`, at `getRoomByName`. -/
  | readingRow (roomName : String)
  /-- `addRoom`, at `redisClient.incr`. -/
  | counting
  /-- `unloadRoom`, at `onBeforeUnload`. -/
  | stopping (room : RoomObject) (preserveRedis : Bool)
  /-- `unloadRoom`, at `redisClient.del`. -/
  | deleting
deriving DecidableEq

/-- `rooms`, and how many objects there have been. -/
structure Loading where
  rooms : List RoomObject := []
  created : Nat := 0
deriving DecidableEq

namespace Loading

/-- Where a function goes on from. -/
abbrev Result := Loading × Rest LoadPoint Empty

def newRoom (name : String) (loading : Loading) : Loading × RoomObject :=
  ({ loading with created := loading.created + 1 }, ⟨loading.created, name⟩)

/-- `addRoom` up to its first await. -/
def addRoom (room : RoomObject) (loading : Loading) : Result :=
  ({ loading with rooms := loading.rooms ++ [room] }, .point .counting)

/-- `new Room` and `addRoom`. -/
def load (name : String) (loading : Loading) : Result :=
  let (loading, room) := loading.newRoom name
  loading.addRoom room

/-- `unloadRoom` once the room has stopped: the object is looked up again. -/
def splice (room : RoomObject) (preserveRedis : Bool) (loading : Loading) : Result :=
  if room ∈ loading.rooms then
    ({ loading with rooms := loading.rooms.erase room },
      if preserveRedis then .done else .point .deleting)
  else (loading, .done)

section Program

variable (toLowerCase : String → String)

/-- The loaded room of a name. -/
def findRoom (roomName : String) (loading : Loading) : Option RoomObject :=
  loading.rooms.find? fun room => decide (toLowerCase room.name = toLowerCase roomName)

/-- The first piece of `unloadRoom`. A commanded unload does not let the room stop. -/
def unloadRoom (room : RoomArgument) (reason : UnloadReason) (preserveRedis : Bool)
    (loading : Loading) : Result :=
  let found :=
    match room with
    | .name roomName => loading.findRoom toLowerCase roomName
    | .object room => some room
  match found with
  | none => (loading, .done)
  | some room =>
      if reason = .commanded then loading.splice room preserveRedis
      else (loading, .point (.stopping room preserveRedis))

/-- The first piece of each function. -/
def call (call : LoadCall) (_ : StoreAnswer) (loading : Loading) : Result :=
  match call with
  | .createRoom options =>
      if (loading.findRoom toLowerCase options.name).isSome then (loading, .done)
      else (loading, .point (.findingSnapshot options))
  | .getRoom roomName mustAlreadyBeLoaded =>
      if (loading.findRoom toLowerCase roomName).isSome || mustAlreadyBeLoaded then (loading, .done)
      else (loading, .point (.readingSnapshot roomName))
  | .unloadRoom room reason preserveRedis =>
      loading.unloadRoom toLowerCase room reason preserveRedis

/-- `createRoom` once the room has its row. -/
def setPassword (room : RoomObject) (password : Bool) (loading : Loading) : Result :=
  (loading, .point (if password then .settingPassword room else .updating room))

/-- What a function does when the call it awaits has returned. -/
def proceed (point : LoadPoint) (answer : StoreAnswer) (loading : Loading) : Result :=
  match point with
  | .findingSnapshot options =>
      if answer.taken then (loading, .done) else (loading, .point (.findingRow options))
  | .findingRow options =>
      if answer.taken then (loading, .done)
      else
        let (loading, room) := loading.newRoom options.name
        if options.isTemporary then loading.setPassword room options.password
        else (loading, .point (.saving room options.password))
  | .saving room password =>
      if answer.saved then loading.setPassword room password else (loading, .done)
  | .settingPassword room => (loading, .point (.updating room))
  | .updating room => (loading, .point (.syncing room))
  | .syncing room => loading.addRoom room
  | .readingSnapshot roomName =>
      match answer.snapshot with
      | .missing => (loading, .point (.readingRow roomName))
      | .corrupt => (loading, .point (.discardingSnapshot roomName))
      | .found name true => loading.load name
      | .found name false => (loading, .point (.readingPassword name))
  | .discardingSnapshot roomName => (loading, .point (.readingRow roomName))
  | .readingPassword name => loading.load name
  | .readingRow _ =>
      match answer.row with
      | none => (loading, .done)
      | some name => loading.load name
  | .counting => (loading, .done)
  | .stopping room preserveRedis => loading.splice room preserveRedis
  | .deleting => (loading, .done)

/-- What a function does from an await on; a rejection ends it. -/
def resume (point : LoadPoint) (answer : StoreAnswer) (loading : Loading) : Result :=
  if answer.rejects then (loading, .done) else loading.proceed point answer

/-- The functions of the manager as tasks. -/
def program : Program Loading LoadCall StoreAnswer LoadPoint Empty where
  call := call toLowerCase
  resume := resume
  serve guarded _ _ := guarded.elim

/-- No two loaded rooms have one name. -/
def Distinct (loading : Loading) : Prop :=
  (loading.rooms.map fun room => toLowerCase room.name).Nodup

instance (loading : Loading) : Decidable (loading.Distinct toLowerCase) :=
  inferInstanceAs (Decidable (List.Nodup _))

/-- The name of the room that the next piece puts in. -/
def pushed (point : LoadPoint) (answer : StoreAnswer) : Option String :=
  if answer.rejects then none
  else
    match point with
    | .syncing room => some room.name
    | .readingSnapshot _ =>
        match answer.snapshot with
        | .found name true => some name
        | _ => none
    | .readingPassword name => some name
    | .readingRow _ => answer.row
    | _ => none

/-- A room is put in only where none of its name is loaded. -/
def absent : Guard Loading LoadCall StoreAnswer LoadPoint Empty where
  resume point answer loading :=
    (pushed point answer).all fun name => (loading.findRoom toLowerCase name).isNone

end Program

section Pieces

variable {toLowerCase : String → String} {loading : Loading}

theorem findRoom_isNone_iff {name : String} :
    (loading.findRoom toLowerCase name).isNone = true ↔
      toLowerCase name ∉ loading.rooms.map fun room => toLowerCase room.name := by
  unfold findRoom
  rw [Option.isNone_iff_eq_none, List.find?_eq_none, List.mem_map]
  constructor
  · rintro absent ⟨room, member, same⟩
    exact absent room member (decide_eq_true same)
  · intro absent room member same
    exact absent ⟨room, member, of_decide_eq_true same⟩

theorem splice_rooms (room : RoomObject) (preserveRedis : Bool) :
    (loading.splice room preserveRedis).1.rooms = loading.rooms.erase room := by
  unfold splice
  split
  · rfl
  · rename_i gone
    exact (List.erase_of_not_mem gone).symm

/-- A first piece puts no room in. -/
theorem call_rooms (asked : LoadCall) (answer : StoreAnswer) :
    (Loading.call toLowerCase asked answer loading).1.rooms.Sublist loading.rooms := by
  cases asked with
  | createRoom options =>
      unfold Loading.call
      dsimp only
      split <;> exact List.Sublist.refl _
  | getRoom roomName mustAlreadyBeLoaded =>
      unfold Loading.call
      dsimp only
      split <;> exact List.Sublist.refl _
  | unloadRoom room reason preserveRedis =>
      change (loading.unloadRoom toLowerCase room reason preserveRedis).1.rooms.Sublist _
      unfold unloadRoom
      dsimp only
      split
      · exact List.Sublist.refl _
      · split
        · rw [splice_rooms]
          exact List.erase_sublist
        · exact List.Sublist.refl _

/-- A later piece puts in the room that `pushed` names, or none. -/
theorem resume_rooms (point : LoadPoint) (answer : StoreAnswer) :
    (∃ name number, pushed point answer = some name ∧
      (loading.resume point answer).1.rooms = loading.rooms ++ [⟨number, name⟩]) ∨
    pushed point answer = none ∧
      (loading.resume point answer).1.rooms.Sublist loading.rooms := by
  unfold resume pushed
  split
  · exact Or.inr ⟨rfl, List.Sublist.refl _⟩
  · cases point with
    | findingSnapshot options =>
        refine Or.inr ⟨rfl, ?_⟩
        unfold proceed
        dsimp only
        split <;> exact List.Sublist.refl _
    | findingRow options =>
        refine Or.inr ⟨rfl, ?_⟩
        unfold proceed
        dsimp only
        split
        · exact List.Sublist.refl _
        · split <;> exact List.Sublist.refl _
    | saving room password =>
        refine Or.inr ⟨rfl, ?_⟩
        unfold proceed
        dsimp only
        split <;> exact List.Sublist.refl _
    | syncing room => exact Or.inl ⟨room.name, room.number, rfl, rfl⟩
    | readingSnapshot roomName =>
        unfold proceed
        cases answer.snapshot with
        | missing => exact Or.inr ⟨rfl, List.Sublist.refl _⟩
        | corrupt => exact Or.inr ⟨rfl, List.Sublist.refl _⟩
        | found name isTemporary =>
            cases isTemporary with
            | false => exact Or.inr ⟨rfl, List.Sublist.refl _⟩
            | true => exact Or.inl ⟨name, loading.created, rfl, rfl⟩
    | readingPassword name => exact Or.inl ⟨name, loading.created, rfl, rfl⟩
    | readingRow roomName =>
        unfold proceed
        cases answer.row with
        | none => exact Or.inr ⟨rfl, List.Sublist.refl _⟩
        | some name => exact Or.inl ⟨name, loading.created, rfl, rfl⟩
    | stopping room preserveRedis =>
        refine Or.inr ⟨rfl, ?_⟩
        change (loading.splice room preserveRedis).1.rooms.Sublist _
        rw [splice_rooms]
        exact List.erase_sublist
    | _ => exact Or.inr ⟨rfl, List.Sublist.refl _⟩

theorem Distinct.of_sublist {fewer : Loading} (distinct : loading.Distinct toLowerCase)
    (sublist : fewer.rooms.Sublist loading.rooms) : fewer.Distinct toLowerCase :=
  List.Nodup.sublist (sublist.map _) distinct

/-- Rooms stay distinct through a piece exactly if it puts in a name that is absent. -/
theorem Distinct.resume_iff (distinct : loading.Distinct toLowerCase) (point : LoadPoint)
    (answer : StoreAnswer) :
    (loading.resume point answer).1.Distinct toLowerCase ↔
      (absent toLowerCase).resume point answer loading = true := by
  change _ ↔ ((pushed point answer).all fun name =>
    (loading.findRoom toLowerCase name).isNone) = true
  rcases resume_rooms point answer with ⟨name, number, pushes, rooms⟩ | ⟨pushes, fewer⟩
  · rw [pushes, Option.all_some, findRoom_isNone_iff]
    unfold Distinct
    rw [rooms, List.map_append, List.map_singleton, List.nodup_append_comm, List.singleton_append,
      List.nodup_cons]
    exact and_iff_left distinct
  · rw [pushes]
    exact iff_of_true (distinct.of_sublist fewer) rfl

/-- The same, of a step. -/
theorem Distinct.next_iff {tasks : Tasks Loading LoadPoint Empty}
    (distinct : tasks.shared.Distinct toLowerCase) {label : TaskLabel LoadCall StoreAnswer}
    (possible : Program.Enabled tasks label) :
    ((program toLowerCase).next label tasks).shared.Distinct toLowerCase ↔
      (absent toLowerCase).allows tasks label = true := by
  rcases (program toLowerCase).next_cases possible with ⟨call, answer, rfl, next⟩ |
    ⟨earlier, point, later, answer, rfl, split, next⟩ | ⟨guarded, rest, answer, rfl, first, next⟩
  · rw [next, Tasks.park_shared]
    exact iff_of_true (distinct.of_sublist (call_rooms call answer)) rfl
  · rw [next, Tasks.park_shared, Guard.allows_resume _ split]
    exact distinct.resume_iff point answer
  · exact guarded.elim

end Pieces

section Alone

/-- The name that a call on its way to a push is about. -/
def nameOf : LoadPoint → Option String
  | .findingSnapshot options | .findingRow options => some options.name
  | .saving room _ | .settingPassword room | .updating room | .syncing room => some room.name
  | .readingSnapshot name | .discardingSnapshot name | .readingPassword name
  | .readingRow name => some name
  | .counting | .stopping _ _ | .deleting => none

variable (toLowerCase : String → String)

/-- The names of the loaded rooms. -/
def names (loading : Loading) : Multiset String :=
  Multiset.ofList (loading.rooms.map fun room => toLowerCase room.name)

/-- The names of the calls at the given points. -/
def underWay (ready : List LoadPoint) : Multiset String :=
  Multiset.ofList (ready.filterMap fun point => (nameOf point).map toLowerCase)

/-- What the stores answer is about the name they were asked for. -/
def answersFor (point : LoadPoint) (answer : StoreAnswer) : Bool :=
  match point with
  | .readingSnapshot roomName =>
      match answer.snapshot with
      | .found name _ => decide (toLowerCase name = toLowerCase roomName)
      | _ => true
  | .readingRow roomName => answer.row.all fun name => decide (toLowerCase name = toLowerCase roomName)
  | _ => true

/-- No call for a name begins while another is on its way to a push. -/
def alone (tasks : Tasks Loading LoadPoint Empty) : TaskLabel LoadCall StoreAnswer → Bool
  | .call (.createRoom options) _ =>
      decide (toLowerCase options.name ∉ underWay toLowerCase tasks.ready)
  | .call (.getRoom roomName false) _ =>
      decide (toLowerCase roomName ∉ underWay toLowerCase tasks.ready)
  | .call _ _ => true
  | .resume index answer => tasks.ready[index]?.all fun point => answersFor toLowerCase point answer
  | .serve _ => true

variable {toLowerCase} {loading : Loading}

theorem names_nodup_iff : (loading.names toLowerCase).Nodup ↔ loading.Distinct toLowerCase :=
  Multiset.coe_nodup

theorem underWay_append (first second : List LoadPoint) :
    underWay toLowerCase (first ++ second) =
      underWay toLowerCase first + underWay toLowerCase second := by
  unfold underWay
  rw [List.filterMap_append, Multiset.coe_add]

section Names

variable {result : Result} {point next : LoadPoint}

/-- A call that ends drops its name; so does a room that goes. -/
theorem names_of_dropped (fewer : result.1.rooms.Sublist loading.rooms)
    (ends : underWay toLowerCase result.2.points = 0) :
    result.1.names toLowerCase + underWay toLowerCase result.2.points ≤
      loading.names toLowerCase + underWay toLowerCase [point] := by
  have subset : result.1.names toLowerCase ≤ loading.names toLowerCase :=
    Multiset.coe_le.mpr (fewer.map _).subperm
  rw [ends, add_zero]
  exact subset.trans (Multiset.le_add_right _ _)

/-- A call that goes on keeps its name. -/
theorem names_of_moved (same : result.1.rooms = loading.rooms) (rests : result.2 = .point next)
    (about : (nameOf next).map toLowerCase = (nameOf point).map toLowerCase) :
    result.1.names toLowerCase + underWay toLowerCase result.2.points ≤
      loading.names toLowerCase + underWay toLowerCase [point] := by
  unfold names underWay
  rw [same, rests]
  change _ + Multiset.ofList (List.filterMap _ [next]) ≤ _
  rw [List.filterMap_cons, List.filterMap_cons, about]

/-- A call that puts a room in hands its name on. -/
theorem names_of_pushed {room : RoomObject} {name : String}
    (rooms : result.1.rooms = loading.rooms ++ [room]) (rests : result.2 = .point .counting)
    (about : nameOf point = some name) (same : toLowerCase room.name = toLowerCase name) :
    result.1.names toLowerCase + underWay toLowerCase result.2.points ≤
      loading.names toLowerCase + underWay toLowerCase [point] := by
  have counting : underWay toLowerCase result.2.points = 0 := by
    rw [rests]
    rfl
  have own : underWay toLowerCase [point] = Multiset.ofList [toLowerCase room.name] := by
    unfold underWay
    rw [List.filterMap_cons, about, same]
    rfl
  rw [counting, own, add_zero]
  unfold names
  rw [rooms, List.map_append, List.map_singleton, Multiset.coe_add]

end Names

/-- A name goes from a call under way to the room it puts in, or is dropped. -/
theorem resume_names (point : LoadPoint) (answer : StoreAnswer)
    (about : answersFor toLowerCase point answer = true) :
    (loading.resume point answer).1.names toLowerCase +
        underWay toLowerCase (loading.resume point answer).2.points ≤
      loading.names toLowerCase + underWay toLowerCase [point] := by
  unfold resume
  split
  · exact names_of_dropped (List.Sublist.refl _) rfl
  · cases point with
    | findingSnapshot options =>
        unfold proceed
        dsimp only
        split
        · exact names_of_dropped (List.Sublist.refl _) rfl
        · exact names_of_moved rfl rfl rfl
    | findingRow options =>
        unfold proceed
        dsimp only
        split
        · exact names_of_dropped (List.Sublist.refl _) rfl
        · split
          · cases options.password with
            | false => exact names_of_moved rfl rfl rfl
            | true => exact names_of_moved rfl rfl rfl
          · exact names_of_moved rfl rfl rfl
    | saving room password =>
        unfold proceed
        dsimp only
        split
        · cases password with
          | false => exact names_of_moved rfl rfl rfl
          | true => exact names_of_moved rfl rfl rfl
        · exact names_of_dropped (List.Sublist.refl _) rfl
    | settingPassword room => exact names_of_moved rfl rfl rfl
    | updating room => exact names_of_moved rfl rfl rfl
    | syncing room => exact names_of_pushed rfl rfl rfl rfl
    | readingSnapshot roomName =>
        unfold answersFor at about
        unfold proceed
        cases read : answer.snapshot with
        | missing => exact names_of_moved rfl rfl rfl
        | corrupt => exact names_of_moved rfl rfl rfl
        | found name isTemporary =>
            rw [read] at about
            have same : toLowerCase name = toLowerCase roomName := of_decide_eq_true about
            cases isTemporary with
            | false => exact names_of_moved rfl rfl (congrArg some same)
            | true => exact names_of_pushed rfl rfl rfl same
    | discardingSnapshot roomName => exact names_of_moved rfl rfl rfl
    | readingPassword name => exact names_of_pushed rfl rfl rfl rfl
    | readingRow roomName =>
        unfold answersFor at about
        unfold proceed
        cases read : answer.row with
        | none => exact names_of_dropped (List.Sublist.refl _) rfl
        | some name =>
            rw [read] at about
            exact names_of_pushed rfl rfl rfl (of_decide_eq_true about)
    | counting => exact names_of_dropped (List.Sublist.refl _) rfl
    | stopping room preserveRedis =>
        refine names_of_dropped ?_ ?_
        · change (loading.splice room preserveRedis).1.rooms.Sublist _
          rw [splice_rooms]
          exact List.erase_sublist
        · change underWay toLowerCase (loading.splice room preserveRedis).2.points = 0
          unfold splice
          split
          · cases preserveRedis with
            | false => rfl
            | true => rfl
          · rfl
    | deleting => exact names_of_dropped (List.Sublist.refl _) rfl

/-- A first piece takes up the name it found absent, or none. -/
theorem call_names (asked : LoadCall) (answer : StoreAnswer) :
    underWay toLowerCase (Loading.call toLowerCase asked answer loading).2.points = 0 ∨
    (Loading.call toLowerCase asked answer loading).1 = loading ∧
    ∃ name, (asked = .getRoom name false ∨ ∃ options, asked = .createRoom options ∧
        options.name = name) ∧
      toLowerCase name ∉ loading.names toLowerCase ∧
      underWay toLowerCase (Loading.call toLowerCase asked answer loading).2.points =
        Multiset.ofList [toLowerCase name] := by
  cases asked with
  | createRoom options =>
      unfold Loading.call
      dsimp only
      split
      · exact Or.inl rfl
      · rename_i absent
        rw [Option.not_isSome_iff_eq_none, ← Option.isNone_iff_eq_none, findRoom_isNone_iff] at absent
        exact Or.inr ⟨rfl, options.name, Or.inr ⟨options, rfl, rfl⟩, absent, rfl⟩
  | getRoom roomName mustAlreadyBeLoaded =>
      unfold Loading.call
      dsimp only
      split
      · exact Or.inl rfl
      · rename_i goes
        rw [Bool.or_eq_true, not_or, Option.not_isSome_iff_eq_none, ← Option.isNone_iff_eq_none,
          findRoom_isNone_iff, Bool.not_eq_true] at goes
        obtain ⟨absent, rfl⟩ := goes
        exact Or.inr ⟨rfl, roomName, Or.inl rfl, absent, rfl⟩
  | unloadRoom room reason preserveRedis =>
      refine Or.inl ?_
      change underWay toLowerCase (loading.unloadRoom toLowerCase room reason
        preserveRedis).2.points = 0
      unfold unloadRoom
      dsimp only
      split
      · rfl
      · split
        · unfold splice
          split
          · cases preserveRedis with
            | false => rfl
            | true => rfl
          · rfl
        · rfl

/-- Loaded rooms and calls on their way to a push have names of their own. -/
def Apart (toLowerCase : String → String) (tasks : Tasks Loading LoadPoint Empty) : Prop :=
  (tasks.shared.names toLowerCase + underWay toLowerCase tasks.ready).Nodup

theorem Apart.next {tasks : Tasks Loading LoadPoint Empty} (apart : Apart toLowerCase tasks)
    {label : TaskLabel LoadCall StoreAnswer} (possible : Program.Enabled tasks label)
    (alone : alone toLowerCase tasks label = true) :
    Apart toLowerCase ((program toLowerCase).next label tasks) := by
  unfold Apart at apart ⊢
  rcases (program toLowerCase).next_cases possible with ⟨asked, answer, rfl, next⟩ |
    ⟨earlier, point, later, answer, rfl, split, next⟩ | ⟨guarded, rest, answer, rfl, first, next⟩
  · rw [next, Tasks.park_shared, Tasks.park_ready, underWay_append]
    change ((Loading.call toLowerCase asked answer tasks.shared).1.names toLowerCase +
      (underWay toLowerCase tasks.ready + underWay toLowerCase
        (Loading.call toLowerCase asked answer tasks.shared).2.points)).Nodup
    rcases call_names asked answer with none | ⟨same, name, asks, absent, one⟩
    · rw [none, add_zero]
      have fewer : (Loading.call toLowerCase asked answer tasks.shared).1.names toLowerCase ≤
          tasks.shared.names toLowerCase :=
        Multiset.coe_le.mpr ((call_rooms asked answer).map _).subperm
      exact Multiset.nodup_of_le (add_le_add_left fewer _) apart
    · have free : toLowerCase name ∉ underWay toLowerCase tasks.ready := by
        rcases asks with rfl | ⟨options, rfl, rfl⟩
        · exact of_decide_eq_true alone
        · exact of_decide_eq_true alone
      rw [same, one, ← add_assoc, Multiset.nodup_add]
      refine ⟨apart, Multiset.coe_nodup.mpr (List.nodup_singleton _), ?_⟩
      rw [Multiset.disjoint_left]
      intro other member own
      rw [Multiset.mem_coe, List.mem_singleton] at own
      subst own
      rcases Multiset.mem_add.mp member with loaded | going
      · exact absent loaded
      · exact free going
  · rw [next, Tasks.park_shared, Tasks.park_ready, underWay_append]
    have about : answersFor toLowerCase point answer = true := by
      unfold Loading.alone at alone
      dsimp only at alone
      rw [split, List.getElem?_append_right (Nat.le_refl _), Nat.sub_self,
        List.getElem?_cons_zero] at alone
      exact alone
    have moved := @resume_names toLowerCase tasks.shared point answer about
    have ready : underWay toLowerCase tasks.ready =
        underWay toLowerCase [point] + underWay toLowerCase (earlier ++ later) := by
      rw [split, underWay_append, ← List.singleton_append, underWay_append, underWay_append]
      exact add_left_comm _ _ _
    rw [ready, ← add_assoc] at apart
    refine Multiset.nodup_of_le ?_ apart
    calc (Loading.resume point answer tasks.shared).1.names toLowerCase +
          (underWay toLowerCase (earlier ++ later) +
            underWay toLowerCase (Loading.resume point answer tasks.shared).2.points)
        = (Loading.resume point answer tasks.shared).1.names toLowerCase +
            underWay toLowerCase (Loading.resume point answer tasks.shared).2.points +
            underWay toLowerCase (earlier ++ later) := by
          rw [add_assoc, add_comm (underWay toLowerCase (earlier ++ later))]
      _ ≤ tasks.shared.names toLowerCase + underWay toLowerCase [point] +
            underWay toLowerCase (earlier ++ later) := add_le_add_left moved _
  · exact guarded.elim

end Alone

/-- Every interleaving of the manager's functions, from rooms that are distinct. -/
def system (toLowerCase : String → String) :
    TransitionSystem (Tasks Loading LoadPoint Empty) (TaskLabel LoadCall StoreAnswer) :=
  (program toLowerCase).system (Distinct toLowerCase)

/-- In every interleaving in which a room is put in only where none of its name is loaded, no
two loaded rooms have one name; and a step from there keeps it so exactly if it does the
same. -/
theorem rooms_stay_distinct (toLowerCase : String → String)
    {tasks : Tasks Loading LoadPoint Empty}
    (reachable : ((system toLowerCase).restrict fun tasks label =>
      (absent toLowerCase).allows tasks label = true).Reachable tasks) :
    tasks.shared.Distinct toLowerCase ∧
      ∀ label, Program.Enabled tasks label →
        (((program toLowerCase).next label tasks).shared.Distinct toLowerCase ↔
          (absent toLowerCase).allows tasks label = true) := by
  have distinct : tasks.shared.Distinct toLowerCase := by
    have invariant : TransitionSystem.Inductive ((system toLowerCase).restrict fun tasks label =>
        (absent toLowerCase).allows tasks label = true)
        (fun tasks => tasks.shared.Distinct toLowerCase) := by
      refine ⟨?_, ?_⟩
      · rintro _ ⟨loading, distinct, rfl⟩
        exact distinct
      · rintro before label after distinct ⟨absent, possible, rfl⟩
        exact (distinct.next_iff possible).mpr absent
    exact invariant.of_reachable reachable
  exact ⟨distinct, fun label possible => distinct.next_iff possible⟩

/-- In every interleaving in which no call for a name begins while another is on its way to a
push, no two loaded rooms have one name. -/
theorem rooms_distinct_of_alone (toLowerCase : String → String)
    {tasks : Tasks Loading LoadPoint Empty}
    (reachable : ((system toLowerCase).restrict fun tasks label =>
      alone toLowerCase tasks label = true).Reachable tasks) :
    tasks.shared.Distinct toLowerCase := by
  have apart : Apart toLowerCase tasks := by
    refine TransitionSystem.Inductive.of_reachable ⟨?_, ?_⟩ reachable
    · rintro _ ⟨loading, distinct, rfl⟩
      unfold Apart
      exact (add_zero (loading.names toLowerCase)).symm ▸ names_nodup_iff.mpr distinct
    · rintro before label after apart ⟨alone, possible, rfl⟩
      exact apart.next possible alone
  exact names_nodup_iff.mp (Multiset.nodup_of_le (Multiset.le_add_right _ _) apart)

end Loading

namespace Sample

/-- `toLowerCase` on the characters a room name may have. -/
def toLowerCase (name : String) : String := String.ofList (name.toList.map Char.toLower)

/-- The database has the room. -/
def savedAs (name : String) : StoreAnswer := { row := some name }

/-- A room is loaded, found again under another spelling, and unloaded. -/
def loadAndUnload : List (TaskLabel LoadCall StoreAnswer) :=
  [.call (.getRoom "Lounge" false) {}, .resume 0 {}, .resume 0 (savedAs "lounge"), .resume 0 {},
    .call (.getRoom "LOUNGE" false) {}, .call (.unloadRoom (.name "Lounge") .keepalive false) {},
    .resume 0 {}, .resume 0 {}, .call (.createRoom { name := "lounge" }) {}, .resume 0 {},
    .resume 0 {}, .resume 0 {}, .resume 0 {}]

/-- Two viewers come to a room that is not loaded. -/
def loadTwice : List (TaskLabel LoadCall StoreAnswer) :=
  [.call (.getRoom "lounge" false) {}, .call (.getRoom "lounge" false) {}, .resume 0 {},
    .resume 0 {}, .resume 0 (savedAs "lounge"), .resume 0 (savedAs "lounge")]

end Sample

namespace Loading

/-- Both find it absent, and both load it. -/
theorem overlapping_loads_duplicate :
    (system Sample.toLowerCase).Reachable
      (TransitionSystem.run (program Sample.toLowerCase).next Sample.loadTwice { shared := {} }) ∧
    ¬ (TransitionSystem.run (program Sample.toLowerCase).next Sample.loadTwice
      { shared := {} }).shared.Distinct Sample.toLowerCase := by
  have run : (system Sample.toLowerCase).Steps { shared := {} }
      (TransitionSystem.run (program Sample.toLowerCase).next Sample.loadTwice { shared := {} }) := by
    have taken : TransitionSystem.runs (program Sample.toLowerCase).next
        (fun tasks label => Program.Enabled tasks label) Sample.loadTwice { shared := {} } = true := by
      decide +kernel
    have step : ∀ tasks label, Program.Enabled tasks label →
        (system Sample.toLowerCase).Step tasks label ((program Sample.toLowerCase).next label tasks) := by
      intro tasks label possible
      exact ⟨possible, rfl⟩
    exact TransitionSystem.steps_run step Sample.loadTwice { shared := {} } taken
  refine ⟨⟨_, ⟨{}, List.nodup_nil, rfl⟩, run⟩, ?_⟩
  decide +kernel

/-- Calls that wait for one another. -/
theorem rooms_stay_distinct_reloaded :
    (TransitionSystem.run (program Sample.toLowerCase).next Sample.loadAndUnload
      { shared := {} }).shared.Distinct Sample.toLowerCase := by
  have run : ((system Sample.toLowerCase).restrict fun tasks label =>
      (absent Sample.toLowerCase).allows tasks label = true).Steps { shared := {} }
        (TransitionSystem.run (program Sample.toLowerCase).next Sample.loadAndUnload
          { shared := {} }) := by
    have taken : TransitionSystem.runs (program Sample.toLowerCase).next (fun tasks label =>
        Program.Enabled tasks label ∧ (absent Sample.toLowerCase).allows tasks label = true)
        Sample.loadAndUnload { shared := {} } = true := by
      decide +kernel
    exact (program Sample.toLowerCase).steps_run (Distinct Sample.toLowerCase)
      (fun tasks label => (absent Sample.toLowerCase).allows tasks label = true)
      Sample.loadAndUnload { shared := {} } taken
  exact (rooms_stay_distinct Sample.toLowerCase ⟨_, ⟨{}, List.nodup_nil, rfl⟩, run⟩).1

end Loading

end OpenTogetherTube
