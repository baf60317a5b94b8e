import OpenTogetherTube.Edge.Commands
import OpenTogetherTube.Lib.Transition

/-!
# Edge rooms as a transition system

The durable object around a room: its storage, and what a restart makes of it. A command
reaches the room from a member over its socket or from any session over HTTP, the room
is written to storage by `commit`, and a restart continues from what was written, with
those members whose sockets lived on. The steps come in any order and each has its own
clock reading.
-/

namespace OpenTogetherTube.Edge

open Lib

/-- `idleMilliseconds`, of the number `ROOM_IDLE_SECONDS` reads as. -/
def idleMilliseconds (seconds : Number) : ℚ :=
  match seconds with
  | .fin seconds => if 1 ≤ seconds ∧ seconds ≤ 86400 then seconds * 1000 else 300000
  | _ => 300000

/-- The commands the HTTP routes build. -/
def Command.overHttp : Command → Bool
  | .applySettings _ | .add _ _ _ | .remove _ | .updateQueueItem _ _ | .vote _ _ => true
  | _ => false

/-- `Command` is a vote. -/
def Command.isVote : Command → Bool
  | .vote _ _ => true
  | _ => false

/-- `RoomObject.member`: the client that holds the session, or one that stands for it. -/
def RoomState.memberFor (session : GuestSession) (room : RoomState) : Member :=
  (room.members.find? fun member => decide (member.session.tokenHash = session.tokenHash)).getD
    { id := "http:" ++ session.identityId, session }

/-- `RoomObject`: the room, the snapshot in storage and the members at the last commit. -/
structure RoomObject where
  room : RoomState
  stored : Snapshot
  committed : Members
deriving DecidableEq

namespace RoomObject

def expired (idleSeconds : Number) (now : Int) (object : RoomObject) : Bool :=
  object.room.snapshot.isTemporary &&
    object.room.snapshot.emptySince.any fun (since : Int) =>
      decide ((since : ℚ) + idleMilliseconds idleSeconds ≤ now)

/-- `commit`: write the snapshot at a checkpoint or when it may have changed. -/
def commit (checkpoint : Bool) (now : Int) (object : RoomObject) : RoomObject :=
  let write := checkpoint || !object.room.dirty.isEmpty ||
    decide (object.room.snapshot ≠ object.stored)
  let room := if write then object.room.persisted now else object.room
  { room := room.drained
    stored := if write then room.snapshot else object.stored
    committed := room.members }

/-- The room the constructor finds: the stored snapshot and the members whose sockets lived
on. -/
def restored (kept : List Member) (object : RoomObject) : RoomState where
  snapshot := object.stored
  members := kept.foldl Members.set []

/-- The constructor. -/
def restart (kept : List Member) (host : Host) (object : RoomObject) : RoomObject :=
  { object with room := (object.restored kept).recover host }

/-- `initialize`. -/
def create (options : RoomOptions) (owner : GuestSession) (now : Int) : RoomObject :=
  let snapshot := createSnapshot options owner now
  { room := { snapshot }, stored := snapshot, committed := [] }

end RoomObject

/-- What happens to a room. -/
inductive RoomEvent where
  | join (member : Member)
  | leave (id : ClientId)
  /-- A command of the member `id`, over its socket. -/
  | request (id : ClientId) (command : Command) (resolved : List QueueItem)
  /-- A command of a session, over HTTP. -/
  | http (session : GuestSession) (command : Command) (resolved : List QueueItem)
  | status (id : ClientId) (status : PlayerStatus) (prepared : Option PlaybackPrepared)
  | tick
  | commit (checkpoint : Bool)
  | restart (kept : List Member)
deriving DecidableEq

/-- An event and what the runtime answers while it is handled. -/
structure Step where
  host : Host
  event : RoomEvent

/-- Who acts, where the event is a command. -/
def RoomEvent.actor (room : RoomState) : RoomEvent → Option (Member × Command)
  | .request id command _ => (room.members.get id).map fun member => (member, command)
  | .http session command _ => some (room.memberFor session, command)
  | _ => none

namespace RoomObject

/-- Apply a command, whatever it returns or throws. -/
def command (jsonBytes : QueueItem → Nat) (host : Host) (command : Command) (member : Member)
    (resolved : List QueueItem) (object : RoomObject) : RoomObject :=
  { object with
    room := Handler.after (RoomState.apply jsonBytes host command member resolved) object.room }

/-- Whether the event can happen: sockets speak for members, HTTP routes build some
commands only and take no votes from outside, and a restart loses members but gains none. -/
def Possible (object : RoomObject) (step : Step) : Prop :=
  match step.event with
  | .request id _ _ | .status id _ _ => object.room.members.has id = true
  | .http session command _ =>
      command.overHttp = true ∧
        (command.isVote = true →
          object.room.members.has (object.room.memberFor session).id = true)
  | .restart kept => ∀ member ∈ kept, member ∈ object.committed
  | _ => True

instance (object : RoomObject) (step : Step) : Decidable (Possible object step) := by
  unfold Possible
  split <;> infer_instance

/-- The object after the event. -/
def next (jsonBytes : QueueItem → Nat) (step : Step) (object : RoomObject) : RoomObject :=
  match step.event with
  | .join member => { object with room := object.room.join member step.host }
  | .leave id => { object with room := object.room.leave id step.host }
  | .request id command resolved =>
      match object.room.members.get id with
      | some member => object.command jsonBytes step.host command member resolved
      | none => object
  | .http session command resolved =>
      object.command jsonBytes step.host command (object.room.memberFor session) resolved
  | .status id status prepared =>
      match object.room.members.get id with
      | some member => { object with
          room := object.room.status member status prepared step.host.now }
      | none => object
  | .tick => { object with room := object.room.tick step.host }
  | .commit checkpoint => object.commit checkpoint step.host.now
  | .restart kept => object.restart kept step.host

/-- The room an event starts from: the one in memory, or the one a restart finds. -/
def origin (event : RoomEvent) (object : RoomObject) : RoomState :=
  match event with
  | .restart kept => object.restored kept
  | _ => object.room

/-- Edge rooms from their creation on. -/
def system (jsonBytes : QueueItem → Nat) : TransitionSystem RoomObject Step where
  Initial object := ∃ options owner now, object = create options owner now
  Step before step after := before.Possible step ∧ after = before.next jsonBytes step

/-- The object after a series of steps. -/
def after (jsonBytes : QueueItem → Nat) (steps : List Step) (object : RoomObject) : RoomObject :=
  TransitionSystem.run (next jsonBytes) steps object

/-- Whether each of the steps is possible where it comes up. -/
def runs (jsonBytes : QueueItem → Nat) (steps : List Step) (object : RoomObject) : Bool :=
  TransitionSystem.runs (next jsonBytes) Possible steps object

theorem step_next {jsonBytes : QueueItem → Nat} {object : RoomObject} {step : Step}
    (possible : object.Possible step) :
    (system jsonBytes).Step object step (object.next jsonBytes step) :=
  ⟨possible, rfl⟩

/-- Steps that are possible one after the other lead to a reachable object. -/
theorem reachable_after {jsonBytes : QueueItem → Nat} (options : RoomOptions)
    (owner : GuestSession) (now : Int) (steps : List Step)
    (taken : runs jsonBytes steps (create options owner now) = true) :
    (system jsonBytes).Reachable (after jsonBytes steps (create options owner now)) := by
  have created : (system jsonBytes).Initial (create options owner now) :=
    ⟨options, owner, now, rfl⟩
  exact (TransitionSystem.Reachable.initial created).steps
    (TransitionSystem.steps_run (fun _ _ possible => step_next possible) steps _ taken)

end RoomObject

/-! ### A small room -/

/-- A room of the session `ann`. -/
def smallOptions : RoomOptions where
  name := "den"

def annSession : GuestSession where
  identityId := "ann"
  username := "Ann"

def bobSession : GuestSession where
  identityId := "bob"
  username := "Bob"

def ann : Member where
  id := "a"
  session := annSession

def bob : Member where
  id := "b"
  session := bobSession

/-- Two minutes of video. -/
def clip : QueueItem where
  service := .direct
  id := "clip"
  length := .value 120

end OpenTogetherTube.Edge
