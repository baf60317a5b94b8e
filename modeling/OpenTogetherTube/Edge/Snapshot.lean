import OpenTogetherTube.Common.Models
import OpenTogetherTube.Common.Permissions

/-!
# Edge rooms: records

The records of `ott-edge`: queue items, sessions, members, the stored snapshot of a room,
the commands of `commandSchema` and the messages a room sends. Every number the edge
backend takes in is checked to be finite, so positions, lengths and speeds are rationals.
-/

namespace OpenTogetherTube.Edge

open Lib

/-- An optional property of an object: its key may be missing, or be there with the value
`undefined`. -/
inductive Property (α : Type) where
  | missing
  | undefined
  | value (given : α)
deriving DecidableEq

namespace Property

variable {α : Type}

/-- What reading the property gives. -/
def get : Property α → Option α
  | .value given => some given
  | _ => none

/-- The property in `{ ...old, ...new }`: a key of `new` counts even when it is undefined. -/
def spread (old : Property α) : Property α → Property α
  | .missing => old
  | new => new

end Property

/-- `QueueItem`. The keys of the metadata that no rule reads are kept as JSON texts; an
undefined one has none. -/
structure QueueItem extends VideoId where
  length : Property ℚ := .missing
  startAt : Property ℚ := .missing
  endAt : Property ℚ := .missing
  subtitleUrl : Property String := .missing
  metadata : OrderedMap String (Option String) := []
deriving DecidableEq

namespace QueueItem

/-- `endAt ?? length`. -/
def mediaEnd (item : QueueItem) : Option ℚ := item.endAt.get <|> item.length.get

/-- `{ ...old, ...new }`. -/
def spread (old new : QueueItem) : QueueItem where
  toVideoId := new.toVideoId
  length := old.length.spread new.length
  startAt := old.startAt.spread new.startAt
  endAt := old.endAt.spread new.endAt
  subtitleUrl := old.subtitleUrl.spread new.subtitleUrl
  metadata := new.metadata.foldl (fun known entry => known.set entry.1 entry.2) old.metadata

end QueueItem

structure VideoAdd extends VideoId where
  startAt : Option ℚ := none
  endAt : Option ℚ := none
  subtitleUrl : Option String := none
deriving DecidableEq

/-- `videoAdd` without the video. -/
structure ItemUpdate where
  startAt : Option ℚ := none
  endAt : Option ℚ := none
  subtitleUrl : Option String := none
deriving DecidableEq

def sameVideo (a b : Option VideoId) : Bool :=
  match a, b with
  | some a, some b => decide (a = b)
  | _, _ => false

def keyFor (video : VideoId) : String := video.service.name ++ video.id

structure GuestSession where
  identityId : String
  username : String := ""
  expiresAt : Int := 0
  tokenHash : String := ""
deriving DecidableEq

structure Member where
  id : ClientId
  session : GuestSession
  status : PlayerStatus := .none
deriving DecidableEq

/-- The `members` map: in the order of first entry, each member under its own id. -/
abbrev Members := List Member

namespace Members

def get (members : Members) (id : ClientId) : Option Member :=
  members.find? fun member => decide (member.id = id)

def has (members : Members) (id : ClientId) : Bool := (members.get id).isSome

/-- `members.set(member.id, member)`. -/
def set (members : Members) (member : Member) : Members :=
  if members.has member.id then
    members.map fun other => if other.id = member.id then member else other
  else members ++ [member]

def delete (members : Members) (id : ClientId) : Members :=
  members.filter fun member => decide (member.id ≠ id)

variable {members : Members} {member other : Member} {id : ClientId}

theorem mem_of_get (found : members.get id = some member) : member ∈ members ∧ member.id = id :=
  ⟨List.mem_of_find?_eq_some found, by simpa using List.find?_some found⟩

theorem has_iff : members.has id = true ↔ ∃ member ∈ members, member.id = id := by
  simp [has, get]

theorem mem_of_set (inside : other ∈ members.set member) : other = member ∨ other ∈ members := by
  unfold set at inside
  split at inside
  · obtain ⟨old, known, written⟩ := List.mem_map.mp inside
    split at written
    · exact Or.inl written.symm
    · exact Or.inr (written ▸ known)
  · rcases List.mem_append.mp inside with known | new
    · exact Or.inr known
    · exact Or.inl (List.mem_singleton.mp new)

theorem has_set : (members.set member).has id = true ↔ id = member.id ∨ members.has id = true := by
  unfold set
  split
  · rename_i known
    rw [has_iff] at known ⊢
    rw [has_iff]
    constructor
    · rintro ⟨_, inside, rfl⟩
      obtain ⟨old, present, written⟩ := List.mem_map.mp inside
      split at written
      · exact Or.inl (written ▸ rfl)
      · exact Or.inr ⟨old, present, written ▸ rfl⟩
    · rintro (rfl | ⟨old, present, rfl⟩)
      · obtain ⟨old, present, same⟩ := known
        exact ⟨member, List.mem_map.mpr ⟨old, present, if_pos same⟩, rfl⟩
      · by_cases same : old.id = member.id
        · exact ⟨member, List.mem_map.mpr ⟨old, present, if_pos same⟩, same.symm⟩
        · exact ⟨old, List.mem_map.mpr ⟨old, present, if_neg same⟩, rfl⟩
  · rw [has_iff, has_iff]
    simp only [List.mem_append, List.mem_singleton]
    constructor
    · rintro ⟨known, inside | rfl, rfl⟩
      · exact Or.inr ⟨known, inside, rfl⟩
      · exact Or.inl rfl
    · rintro (rfl | ⟨known, inside, rfl⟩)
      · exact ⟨member, Or.inr rfl, rfl⟩
      · exact ⟨known, Or.inl inside, rfl⟩

theorem set_ne_nil : members.set member ≠ [] := by
  have inside : (members.set member).has member.id = true := has_set.mpr (Or.inl rfl)
  intro none
  rw [none] at inside
  cases inside

theorem has_delete {key : ClientId} : (members.delete id).has key = true ↔
    key ≠ id ∧ members.has key = true := by
  rw [has_iff, has_iff]
  simp only [delete, List.mem_filter, decide_eq_true_eq]
  constructor
  · rintro ⟨known, ⟨inside, different⟩, same⟩
    exact ⟨same ▸ different, known, inside, same⟩
  · rintro ⟨different, known, inside, same⟩
    exact ⟨known, ⟨inside, same ▸ different⟩, same⟩

theorem mem_of_foldl_set {kept : List Member} {start : Members}
    (inside : other ∈ kept.foldl set start) : other ∈ kept ∨ other ∈ start := by
  induction kept generalizing start with
  | nil => exact Or.inr inside
  | cons member rest ih =>
      rcases ih inside with later | here
      · exact Or.inl (List.mem_cons_of_mem _ later)
      · rcases mem_of_set here with rfl | before
        · exact Or.inl List.mem_cons_self
        · exact Or.inr before

end Members

/-- `Snapshot["preparation"]`. -/
structure Preparation where
  id : String
  clientId : ClientId
  video : VideoId
  position : ℚ
  expiresAt : Int
deriving DecidableEq

/-- `Snapshot["temporarySpeed"]`. -/
structure TemporarySpeed where
  clientId : ClientId
  gestureId : String
  previousSpeed : ℚ
  expiresAt : Int
deriving DecidableEq

/-- The part of a snapshot that says what plays. -/
structure Playback where
  currentSource : Option QueueItem
  isPlaying : Bool
  position : ℚ
  anchorAt : Int
  playbackSpeed : ℚ
  resumeOnNextJoin : Bool
  preparation : Option Preparation
  temporarySpeed : Option TemporarySpeed
deriving DecidableEq

/-- The part of a snapshot that says who may do what. -/
structure Access where
  ownerId : String
  roles : OrderedMap String Role
  grants : OrderedMap Role Nat
deriving DecidableEq

structure Snapshot extends Playback, Access where
  name : String
  title : String
  description : String
  isTemporary : Bool
  visibility : Visibility
  queueMode : QueueMode
  queue : List QueueItem
  emptySince : Option Int
  votes : OrderedMap String (List ClientId)
  votesToSkip : List ClientId
  enableVoteSkip : Bool
  createdAt : Int
deriving DecidableEq

/-- What `createSnapshot` is given. -/
structure RoomOptions where
  name : String
  title : Option String := none
  description : Option String := none
  isTemporary : Option Bool := none
  visibility : Option Visibility := none
  queueMode : Option QueueMode := none
deriving DecidableEq

/-- `createSnapshot`. An empty title counts as none. -/
def createSnapshot (options : RoomOptions) (owner : GuestSession) (now : Int) : Snapshot where
  name := options.name
  title := (options.title.filter (· ≠ "")).getD options.name
  description := options.description.getD ""
  isTemporary := options.isTemporary.getD true
  visibility := options.visibility.getD .unlisted
  queueMode := options.queueMode.getD .manual
  ownerId := owner.identityId
  roles := []
  grants := Grants.defaultPermissions.masks
  currentSource := none
  queue := []
  isPlaying := false
  position := 0
  anchorAt := now
  playbackSpeed := 1
  resumeOnNextJoin := false
  emptySince := some now
  preparation := none
  temporarySpeed := none
  votes := []
  votesToSkip := []
  enableVoteSkip := false
  createdAt := now

/-- The settings of an `ApplySettingsRequest`. -/
structure Settings where
  title : Option String := none
  description : Option String := none
  visibility : Option Visibility := none
  queueMode : Option QueueMode := none
  grants : Option (List (Role × Nat)) := none
  autoSkipSegmentCategories : Option (List Category) := none
  restoreQueueBehavior : Option BehaviorOption := none
  enableVoteSkip : Option Bool := none
  bufferGateMode : Option BufferGateMode := none
  danmakuSource : Option (Option RoomDanmakuSource) := none
deriving DecidableEq

/-- The keys settings may have. -/
inductive SettingsKey where
  | title
  | description
  | visibility
  | queueMode
  | grants
  | autoSkipSegmentCategories
  | restoreQueueBehavior
  | enableVoteSkip
  | bufferGateMode
  | danmakuSource
deriving DecidableEq

/-- `Object.keys(settings)`: the keys that are there, in the order of the schema. -/
def Settings.keys (settings : Settings) : List SettingsKey :=
  (settings.title.map fun _ => .title).toList ++
    (settings.description.map fun _ => .description).toList ++
    (settings.visibility.map fun _ => .visibility).toList ++
    (settings.queueMode.map fun _ => .queueMode).toList ++
    (settings.grants.map fun _ => .grants).toList ++
    (settings.autoSkipSegmentCategories.map fun _ => .autoSkipSegmentCategories).toList ++
    (settings.restoreQueueBehavior.map fun _ => .restoreQueueBehavior).toList ++
    (settings.enableVoteSkip.map fun _ => .enableVoteSkip).toList ++
    (settings.bufferGateMode.map fun _ => .bufferGateMode).toList ++
    (settings.danmakuSource.map fun _ => .danmakuSource).toList

/-- The `action` of a temporary-speed command. -/
inductive GestureAction where
  | start
  | renew
  | stop
deriving DecidableEq

inductive Command where
  | playback (state : Bool)
  | skip
  | seek (value : ℚ)
  | add (video : Option VideoAdd) (videos : Option (List VideoAdd)) (url : Option String)
  | remove (video : VideoId)
  | order (fromIdx toIdx : Nat)
  | vote (video : VideoId) (add : Bool)
  | promote (targetClientId : ClientId) (role : Role)
  | chat (text : String)
  | applySettings (settings : Settings)
  | playNow (video : VideoAdd)
  | shuffle
  | playbackSpeed (speed : ℚ)
  | restoreQueue (discard : Option Bool)
  | kick (clientId : ClientId)
  | updateQueueItem (video : VideoId) (update : ItemUpdate)
  | temporaryPlaybackSpeed (action : GestureAction) (gestureId : String) (video : VideoId)
deriving DecidableEq

def commandPermissions : Command → Option Permission
  | .playback _ => some .playPause
  | .skip => some .skip
  | .seek _ => some .seek
  | .add _ _ _ => some .queueAdd
  | .remove _ => some .queueRemove
  | .order _ _ => some .queueOrder
  | .vote _ _ => some .queueVote
  | .chat _ => some .chat
  | .playNow _ => some .queuePlayNow
  | .shuffle => some .queueOrder
  | .playbackSpeed _ => some .speed
  | .restoreQueue _ => some .queueAdd
  | .kick _ => some .kick
  | .updateQueueItem _ _ => some .queueEdit
  | .temporaryPlaybackSpeed _ _ _ => some .speed
  | .promote _ _ | .applySettings _ => none

structure RoomUserInfo where
  id : ClientId
  name : String
  isLoggedIn : Bool
  status : PlayerStatus
  role : Role
deriving DecidableEq

/-- The request a room event is about. -/
inductive EventRequest where
  | join (id : ClientId) (username : String)
  | leave
  | command (command : Command)
deriving DecidableEq

/-- What a room event adds to its request. -/
inductive Additional where
  | nothing
  | user (user : RoomUserInfo)
  | moved (prevPosition : ℚ)
  | skipped (video : Option QueueItem) (prevPosition : ℚ)
  | added (videos : List QueueItem)
  | removed (video : Option QueueItem) (queueIdx : Nat)
deriving DecidableEq

/-- `ServerMessage`, the kinds the room rules push. -/
inductive ServerMessage where
  | userUpdate (value : RoomUserInfo)
  | userRemove (value : ClientId)
  | chat (sender : RoomUserInfo) (text : String)
  | event (request : EventRequest) (userName : String) (additional : Additional)
deriving DecidableEq

/-- The keys of `ServerMessageSync` that are marked dirty. -/
inductive SyncKey where
  | title
  | description
  | visibility
  | queueMode
  | isPlaying
  | playbackPosition
  | playbackSpeed
  | currentSource
  | queue
  | grants
  | voteCounts
  | votesToSkip
  | enableVoteSkip
  | playbackPreparation
  | temporaryPlaybackSpeed
deriving DecidableEq

structure ApiError where
  status : Nat
  message : String
  name : String := "OttException"
deriving DecidableEq

/-- What the runtime answers while one handler runs. The clock stands still between two
suspensions of a handler, so a handler sees one time. -/
structure Host where
  now : Int
  randomUUID : String := ""
  /-- `randomInt` for each bound. -/
  randomInt : Nat → Nat := fun _ => 0

end OpenTogetherTube.Edge
