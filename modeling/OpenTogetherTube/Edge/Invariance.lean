import OpenTogetherTube.Edge.Departures
import OpenTogetherTube.Edge.RoomObject

/-!
# Edge rooms: invariants

The induction over the steps of a room object, once: what every operation of a room keeps
holds of every reachable room, and of the room a restart would find in storage.
-/

namespace OpenTogetherTube.Edge

open Lib

/-- A property of rooms that each operation keeps. Commands come from a room with members
or over HTTP, and a restart keeps some of the members. -/
structure RoomInvariant (holds : RoomState → Prop) : Prop where
  created : ∀ options owner now, holds { snapshot := createSnapshot options owner now }
  joined : ∀ {room} member host, holds room → holds (room.join member host)
  left : ∀ {room} id host, holds room → holds (room.leave id host)
  applied : ∀ {room after host member command}, holds room →
    room.members ≠ [] ∨ command.overHttp = true →
    Applied host member room command after → holds after
  reported : ∀ {room id member} status prepared now, holds room →
    room.members.get id = some member → holds (room.status member status prepared now)
  ticked : ∀ {room} host, holds room → holds (room.tick host)
  persisted : ∀ {room} now, holds room → holds (room.persisted now)
  drained : ∀ {room}, holds room → holds room.drained
  recovered : ∀ {room} (kept : List Member) host, holds room → (∀ member ∈ kept, member ∈ room.members) →
    holds (({ snapshot := room.snapshot, members := kept.foldl Members.set [] } :
      RoomState).recover host)

namespace RoomObject

/-- The room in storage, with the members at the last commit. -/
def checkpoint (object : RoomObject) : RoomState :=
  { snapshot := object.stored, members := object.committed }

end RoomObject

/-- A property of rooms that each operation keeps, in runs whose restarts are allowed. What a
command does is given by `apply` itself. -/
structure CommandInvariant (jsonBytes : QueueItem → Nat) (allowed : RoomObject → Step → Prop)
    (holds : RoomState → Prop) : Prop where
  created : ∀ options owner now, holds { snapshot := createSnapshot options owner now }
  joined : ∀ {room} member host, holds room → holds (room.join member host)
  left : ∀ {room} id host, holds room → holds (room.leave id host)
  applied : ∀ {room : RoomState} {member : Member} {command : Command} resolved host, holds room →
    room.members.has member.id = true ∨ command.overHttp = true ∧ command.isVote = false →
    holds (Handler.after (RoomState.apply jsonBytes host command member resolved) room)
  reported : ∀ {room id member} status prepared now, holds room →
    room.members.get id = some member → holds (room.status member status prepared now)
  ticked : ∀ {room} host, holds room → holds (room.tick host)
  persisted : ∀ {room} now, holds room → holds (room.persisted now)
  drained : ∀ {room}, holds room → holds room.drained
  recovered : ∀ {object} (kept : List Member) host, holds (object.checkpoint) →
    (∀ member ∈ kept, member ∈ object.committed) → allowed object ⟨host, .restart kept⟩ →
    holds ((object.restored kept).recover host)

namespace RoomObject

/-- What a commit stores is what it leaves in memory. -/
theorem commit_checkpoint (checkpoint : Bool) (now : Int) (object : RoomObject) :
    (object.commit checkpoint now).checkpoint = (object.commit checkpoint now).room := by
  unfold commit RoomObject.checkpoint
  dsimp only
  split
  · rfl
  · rename_i unchanged
    have same : object.room.snapshot = object.stored := by
      by_contra different
      exact unchanged (by simp [different])
    change RoomState.mk object.stored _ _ _ _ = _
    rw [← same]
    rfl

variable {jsonBytes : QueueItem → Nat} {holds : RoomState → Prop}

/-- A command that is carried out makes one of the changes a command can make. -/
theorem command_applied (host : Host) (command : Command) (member : Member)
    (resolved : List QueueItem) (object : RoomObject) :
    Applied host member object.room command
      (object.command jsonBytes host command member resolved).room :=
  RoomState.apply_applied command resolved

/-- A member that is there is found. -/
theorem get_of_has {members : Members} {id : ClientId} (present : members.has id = true) :
    ∃ member, members.get id = some member ∧ members ≠ [] := by
  obtain ⟨member, found⟩ := Option.isSome_iff_exists.mp present
  refine ⟨member, found, ?_⟩
  rintro rfl
  cases present

/-- The invariant of the object: the room and the room in storage. -/
theorem command_invariant {allowed : RoomObject → Step → Prop}
    (kept : CommandInvariant jsonBytes allowed holds) :
    TransitionSystem.Inductive ((system jsonBytes).restrict allowed) fun object =>
      holds object.room ∧ holds object.checkpoint where
  initial := by
    rintro object ⟨options, owner, now, rfl⟩
    exact ⟨kept.created options owner now, kept.created options owner now⟩
  preserved := by
    rintro before ⟨host, event⟩ after ⟨inside, stored⟩ ⟨allows, possible, rfl⟩
    cases event with
    | join member => exact ⟨kept.joined member host inside, stored⟩
    | leave id => exact ⟨kept.left id host inside, stored⟩
    | request id command resolved =>
        obtain ⟨member, found, _⟩ := get_of_has possible
        unfold next
        simp only [found]
        refine ⟨kept.applied resolved host inside (Or.inl ?_), stored⟩
        exact Members.has_iff.mpr ⟨member, (Members.mem_of_get found).1, rfl⟩
    | http session command resolved =>
        refine ⟨kept.applied resolved host inside ?_, stored⟩
        cases votes : command.isVote with
        | true => exact Or.inl (possible.2 votes)
        | false => exact Or.inr ⟨possible.1, rfl⟩
    | status id status prepared =>
        obtain ⟨member, found, _⟩ := get_of_has possible
        unfold next
        simp only [found]
        exact ⟨kept.reported status prepared host.now inside found, stored⟩
    | tick => exact ⟨kept.ticked host inside, stored⟩
    | commit checkpoint =>
        have written : holds (before.commit checkpoint host.now).room := by
          apply kept.drained
          split
          · exact kept.persisted host.now inside
          · exact inside
        refine ⟨written, ?_⟩
        change holds (before.commit checkpoint host.now).checkpoint
        rw [commit_checkpoint]
        exact written
    | restart survivors => exact ⟨kept.recovered survivors host stored possible allows, stored⟩

/-- What the changes of commands keep, commands keep. -/
theorem command_invariant_of_applied (kept : RoomInvariant holds) :
    CommandInvariant jsonBytes (fun _ _ => True) holds where
  created := kept.created
  joined := kept.joined
  left := kept.left
  applied {room member command} resolved host inside sent := by
    refine kept.applied inside ?_ (RoomState.apply_applied command resolved)
    rcases sent with present | ⟨routed, _⟩
    · refine Or.inl ?_
      intro nobody
      rw [nobody] at present
      cases present
    · exact Or.inr routed
  reported := kept.reported
  ticked := kept.ticked
  persisted := kept.persisted
  drained := kept.drained
  recovered kept' host inside possible _ := kept.recovered kept' host inside possible

/-- Every run is one whose restarts are allowed when all are. -/
theorem invariant_of_command (kept : CommandInvariant jsonBytes (fun _ _ => True) holds) :
    TransitionSystem.Inductive (system jsonBytes) fun object =>
      holds object.room ∧ holds object.checkpoint where
  initial := (command_invariant kept).initial
  preserved inside step := (command_invariant kept).preserved inside ⟨trivial, step⟩

theorem invariant (kept : RoomInvariant holds) :
    TransitionSystem.Inductive (system jsonBytes) fun object =>
      holds object.room ∧ holds object.checkpoint :=
  invariant_of_command (command_invariant_of_applied kept)

/-- The rule: what every operation keeps holds in every reachable room. -/
theorem holds_of_reachable (kept : RoomInvariant holds) {object : RoomObject}
    (reachable : (system jsonBytes).Reachable object) :
    holds object.room ∧ holds object.checkpoint :=
  (invariant kept).of_reachable reachable

end RoomObject

end OpenTogetherTube.Edge
