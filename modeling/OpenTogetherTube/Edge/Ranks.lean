import OpenTogetherTube.Edge.Invariance

/-!
# Edge rooms: who may change whom

Roles belong to identities and commands name clients. A role changes only by somebody who
outranks the old role and the new one, a client is kicked only by somebody who outranks it,
grants are the owner's to change and the owner stays the owner.
-/

namespace OpenTogetherTube.Edge

open Lib

namespace RoomState

/-- The same members, kicks and access. -/
structure Peers (before after : RoomState) : Prop where
  members : after.members = before.members
  kicks : after.kicks = before.kicks
  access : after.snapshot.toAccess = before.snapshot.toAccess

instance : IsPreorder RoomState Peers where
  refl _ := ⟨rfl, rfl, rfl⟩
  trans _ _ _ first second :=
    ⟨second.members.trans first.members, second.kicks.trans first.kicks,
      second.access.trans first.access⟩

namespace Peers

variable {a b c room : RoomState}

theorem trans' (first : Peers a b) (second : Peers b c) : Peers a c :=
  IsTrans.trans _ _ _ first second

theorem quiet (same : Quiet a b) : Peers a b := ⟨same.members, same.kicks, same.access⟩

/-- A change of the playback. -/
theorem onPlayback {update : Playback → Playback} (made : Quiet (a.onPlayback update) b) :
    Peers a b :=
  ⟨made.members, made.kicks, made.access⟩

theorem clearPreparation : Peers room room.clearPreparation :=
  onPlayback room.clearPreparation_quiet

theorem prepare (exclude : Option ClientId) (host : Host) :
    Peers room (room.prepare exclude host) :=
  onPlayback (room.prepare_quiet exclude host)

theorem reprepares : Reprepares (Peers a) where
  clear same := same.trans' clearPreparation
  prepare exclude host same := same.trans' (prepare exclude host)

theorem tick (host : Host) : Peers room (room.tick host) := by
  have expired : Peers room ((room.expireTemporarySpeed host.now).expirePreparation host) :=
    reprepares.expirePreparation host (onPlayback (room.expireTemporarySpeed_quiet host.now))
  unfold RoomState.tick
  dsimp only
  split
  · obtain ⟨video, made⟩ := next_quiet
      ((room.expireTemporarySpeed host.now).expirePreparation host) host.now
    exact expired.trans' (onPlayback made)
  · exact expired

theorem settleAfterLeave (host : Host) : Peers room (room.settleAfterLeave host) := by
  unfold RoomState.settleAfterLeave
  split
  · exact ⟨rfl, rfl, rfl⟩
  · exact prepare none host

/-- Leaving takes the client out and changes nothing else of the kind. -/
theorem leave {id : ClientId} {member : Member} (host : Host)
    (found : room.members.get id = some member) :
    Peers (room.removeMember id) (room.leave id host) := by
  have dropped : Peers (room.removeMember id)
      ((room.removeMember id).onPlayback (Playback.dropClient id host.now)) := ⟨rfl, rfl, rfl⟩
  exact (dropped.trans' (settleAfterLeave host)).trans' (quiet (room.leave_quiet host found))

theorem recover (host : Host) : Peers room (room.recover host) := by
  unfold RoomState.recover
  split
  · dsimp only
    split
    · exact ⟨rfl, rfl, rfl⟩
    · exact ⟨rfl, rfl, rfl⟩
  · split
    · exact refl room
    · split
      · exact refl room
      · exact reprepares.prepare none host clearPreparation

/-- New grants: the access with the masks written. -/
theorem assignGrants (grants : List (Role × Nat)) (host : Host) :
    Peers (room.onAccess fun access => { access with grants := (grantsOf grants).masks })
      (room.assignGrants grants host) := by
  unfold RoomState.assignGrants
  refine (quiet (quiet_mark _ [.grants])).trans' (trans' ?_ (prepare none host))
  split
  · exact clearPreparation
  · exact refl _

theorem role (same : Peers a b) (session : GuestSession) : b.role session = a.role session :=
  role_of_access same.access session

end Peers

/-- What a command makes of members, kicks and access: nothing, a promotion, a kick or new
grants. -/
inductive Reached (member : Member) (before : RoomState) : RoomState → Prop
  | peers {after : RoomState} (same : Peers before after) : Reached member before after
  | promoted {targetClientId : ClientId} {target : Member} {role : Role} {after : RoomState}
      (found : before.members.get targetClientId = some target)
      (may : before.mayPromote target role member = true)
      (same : Peers (before.assignRole target.session.identityId role) after) :
      Reached member before after
  | kicked {clientId : ClientId} {target : Member} {after : RoomState}
      (found : before.members.get clientId = some target)
      (outranked : rank (before.role target.session) < rank (before.role member.session))
      (same : Peers
        (({ before with kicks := before.kicks ++ [target.id] } : RoomState).removeMember target.id)
        after) : Reached member before after
  | regranted {grants : OrderedMap Role Nat} {after : RoomState}
      (owner : before.role member.session = .owner)
      (same : Peers (before.onAccess fun access => { access with grants }) after) :
      Reached member before after

variable {room after : RoomState} {host : Host} {member : Member} {command : Command}

theorem reached (change : Applied host member room command after) : Reached member room after := by
  cases change with
  | quiet made => exact .peers (.quiet made)
  | played source made => exact .peers (.onPlayback made)
  | @sought value _ made =>
      have anchored : Peers room (room.onPlayback (Playback.anchorTo value host.now)) :=
        ⟨rfl, rfl, rfl⟩
      exact .peers ((Peers.reprepares.reprepare host anchored).trans' (.quiet made))
  | started video starts made => exact .peers (.onPlayback made)
  | speeded made => exact .peers (.onPlayback made)
  | gestureStarted playing free made => exact .peers (.onPlayback made)
  | gestureRenewed made => exact .peers (.onPlayback made)
  | gestureStopped made => exact .peers (.onPlayback made)
  | @promoted _ role target _ found may made =>
      have handed := Peers.reprepares.reprepareFor target host
        (refl (room.assignRole target.session.identityId role))
      exact .promoted found may (handed.trans' (.quiet made))
  | @kicked _ target _ found outranked made =>
      have same : target.id = _ := (Members.mem_of_get found).2
      rw [← same] at found
      have left : Peers
          (({ room with kicks := room.kicks ++ [target.id] } : RoomState).removeMember target.id)
          (({ room with kicks := room.kicks ++ [target.id] } : RoomState).leave target.id host) :=
        Peers.leave host found
      exact .kicked found outranked (left.trans' (.quiet made))
  | regranted given owner made =>
      exact .regranted owner ((Peers.assignGrants _ host).trans' (.quiet made))

/-! ### What follows for roles, grants, kicks and the owner -/

theorem rank_le (role : Role) : rank role ≤ 100 := by
  cases role <;> decide

theorem role_congr {s t : GuestSession} (same : s.identityId = t.identityId) (room : RoomState) :
    room.role s = room.role t := by
  unfold role
  rw [same]

theorem role_owner {session : GuestSession} (owns : session.identityId = room.snapshot.ownerId) :
    room.role session = .owner :=
  if_pos owns

theorem role_assignRole (identityId : String) (new : Role) (session : GuestSession)
    (other : session.identityId ≠ room.snapshot.ownerId) :
    (room.assignRole identityId new).role session =
      if session.identityId = identityId then new else room.role session := by
  change (if session.identityId = room.snapshot.ownerId then Role.owner
    else ((room.snapshot.roles.set identityId new).get session.identityId).getD
      .unregisteredUser) = _
  rw [if_neg other, OrderedMap.get_set]
  unfold role
  rw [if_neg other]
  split <;> rfl

/-- The guard of a promotion. -/
theorem mayPromote_iff {target : Member} {new : Role} :
    room.mayPromote target new member = true ↔
      new ≠ .owner ∧ room.role target.session ≠ .owner ∧
        rank (room.role target.session) < rank (room.role member.session) ∧
        rank new < rank (room.role member.session) := by
  unfold mayPromote
  rw [Bool.and_eq_true, Bool.and_eq_true, decide_eq_true_eq, decide_eq_true_eq,
    decide_eq_true_eq, max_lt_iff, and_assoc]

/-- The actor may kick the client: it is there, it is not the owner and it is outranked. -/
def MayKick (member : Member) (id : ClientId) (room : RoomState) : Prop :=
  ∃ target, room.members.get id = some target ∧
    target.session.identityId ≠ room.snapshot.ownerId ∧
    rank (room.role target.session) < rank (room.role member.session)

theorem mayKick_of_outranked {id : ClientId} {target : Member}
    (found : room.members.get id = some target)
    (outranked : rank (room.role target.session) < rank (room.role member.session)) :
    room.MayKick member id := by
  refine ⟨target, found, fun owns => ?_, outranked⟩
  rw [role_owner owns] at outranked
  exact absurd (rank_le (room.role member.session)) (not_le.mpr outranked)

namespace Reached

variable (reached : Reached member room after)

include reached

theorem ownerId :
    after.snapshot.ownerId = room.snapshot.ownerId := by
  cases reached with
  | peers same => exact congrArg Access.ownerId same.access
  | promoted found may same => exact (congrArg Access.ownerId same.access).trans rfl
  | kicked found outranked same => exact (congrArg Access.ownerId same.access).trans rfl
  | regranted owner same => exact (congrArg Access.ownerId same.access).trans rfl

/-- A role that changes was below the actor's and stays below it. -/
theorem role_changes {session : GuestSession}
    (changed : after.role session ≠ room.role session) :
    rank (room.role session) < rank (room.role member.session) ∧
      rank (after.role session) < rank (room.role member.session) := by
  cases reached with
  | peers same => exact absurd (same.role session) changed
  | kicked found outranked same => exact absurd ((same.role session).trans rfl) changed
  | regranted owner same => exact absurd ((same.role session).trans rfl) changed
  | @promoted _ target new _ found may same =>
      obtain ⟨_, _, below, newBelow⟩ := mayPromote_iff.mp may
      rw [same.role session] at changed ⊢
      by_cases owns : session.identityId = room.snapshot.ownerId
      · have owner : (room.assignRole target.session.identityId new).role session = .owner :=
          role_owner owns
        exact absurd (owner.trans (role_owner owns).symm) changed
      · rw [role_assignRole _ _ _ owns] at changed ⊢
        by_cases targeted : session.identityId = target.session.identityId
        · rw [if_pos targeted, role_congr targeted]
          exact ⟨below, newBelow⟩
        · rw [if_neg targeted] at changed
          exact absurd rfl changed

theorem grants_change
    (changed : after.snapshot.grants ≠ room.snapshot.grants) :
    room.role member.session = .owner := by
  cases reached with
  | peers same => exact absurd (congrArg Access.grants same.access) changed
  | promoted found may same =>
      exact absurd ((congrArg Access.grants same.access).trans rfl) changed
  | kicked found outranked same =>
      exact absurd ((congrArg Access.grants same.access).trans rfl) changed
  | regranted owner same => exact owner

/-- A command kicks nobody, or one client the actor may kick. -/
theorem kicks :
    after.kicks = room.kicks ∨ ∃ id, after.kicks = room.kicks ++ [id] ∧ room.MayKick member id := by
  cases reached with
  | peers same => exact Or.inl same.kicks
  | promoted found may same => exact Or.inl same.kicks
  | regranted owner same => exact Or.inl same.kicks
  | @kicked clientId target _ found outranked same =>
      refine Or.inr ⟨target.id, same.kicks, ?_⟩
      rw [(Members.mem_of_get found).2]
      exact mayKick_of_outranked found outranked

/-- A client that a command takes out of the room is one the actor may kick. -/
theorem gone {id : ClientId}
    (present : room.members.has id = true) (missing : after.members.has id = false) :
    room.MayKick member id := by
  cases reached with
  | peers same =>
      rw [same.members, present] at missing
      cases missing
  | promoted found may same =>
      rw [same.members] at missing
      exact Bool.noConfusion (missing.symm.trans present)
  | regranted owner same =>
      rw [same.members] at missing
      exact Bool.noConfusion (missing.symm.trans present)
  | @kicked clientId target _ found outranked same =>
      rw [same.members] at missing
      by_cases targeted : id = target.id
      · rw [targeted, (Members.mem_of_get found).2]
        exact mayKick_of_outranked found outranked
      · have stays : (room.members.delete target.id).has id = true :=
          Members.has_delete.mpr ⟨targeted, present⟩
        exact Bool.noConfusion (missing.symm.trans stays)

end Reached

/-- No stored role is the owner's. -/
def NoOwnerRole (room : RoomState) : Prop := ∀ entry ∈ room.snapshot.roles, entry.2 ≠ .owner

theorem Peers.noOwnerRole {a b : RoomState} (same : Peers a b) (none : NoOwnerRole a) :
    NoOwnerRole b := by
  have roles : b.snapshot.roles = a.snapshot.roles := congrArg Access.roles same.access
  unfold NoOwnerRole
  rw [roles]
  exact none

theorem Reached.noOwnerRole (reached : Reached member room after) (none : NoOwnerRole room) :
    NoOwnerRole after := by
  cases reached with
  | peers same => exact same.noOwnerRole none
  | kicked found outranked same => exact same.noOwnerRole none
  | regranted owner same => exact same.noOwnerRole none
  | @promoted _ target new _ found may same =>
      refine same.noOwnerRole ?_
      intro entry inside
      rcases OrderedMap.mem_of_set inside with rfl | old
      · exact (mayPromote_iff.mp may).1
      · exact none entry old

/-- Joining changes no role. -/
theorem access_join (member : Member) (host : Host) :
    (room.join member host).snapshot.toAccess = room.snapshot.toAccess :=
  (room.join_quiet member host).access.trans (Peers.prepare none host).access

theorem access_leave (id : ClientId) (host : Host) :
    (room.leave id host).snapshot.toAccess = room.snapshot.toAccess := by
  cases found : room.members.get id with
  | none => rw [room.leave_missing host found]
  | some member => exact (Peers.leave host found).access.trans rfl

theorem access_status (member : Member) (status : PlayerStatus)
    (report : Option PlaybackPrepared) (now : Int) :
    (room.status member status report now).snapshot.toAccess = room.snapshot.toAccess := by
  unfold RoomState.status
  dsimp only
  split
  · rfl
  · split
    · exact (play_quiet _ true now).access
    · rfl

/-- The same access has the same roles. -/
theorem NoOwnerRole.of_access {a b : RoomState}
    (access : b.snapshot.toAccess = a.snapshot.toAccess) (none : NoOwnerRole a) :
    NoOwnerRole b := by
  have roles : b.snapshot.roles = a.snapshot.roles := congrArg Access.roles access
  unfold NoOwnerRole
  rw [roles]
  exact none

theorem noOwnerRole_invariant : RoomInvariant NoOwnerRole where
  created _ _ _ := nofun
  joined member host := .of_access (access_join member host)
  left id host := .of_access (access_leave id host)
  applied none _ change := (reached change).noOwnerRole none
  reported status report now none _ := none.of_access (access_status _ status report now)
  ticked host none := none.of_access (Peers.tick host).access
  persisted _ none := none
  drained none := none
  recovered {room} _ host none := fun _ =>
    NoOwnerRole.of_access (a := room) (Peers.recover host).access none

end RoomState

namespace RoomObject

open RoomState

variable {jsonBytes : QueueItem → Nat}

/-- What a step that is a command makes of roles, grants, kicks and members. -/
theorem reached_step {object after : RoomObject} {step : Step} {member : Member}
    {command : Command} (taken : (system jsonBytes).Step object step after)
    (acts : step.event.actor object.room = some (member, command)) :
    Reached member object.room after.room := by
  obtain ⟨_, rfl⟩ := taken
  obtain ⟨host, event⟩ := step
  cases event with
  | request id command resolved =>
      obtain ⟨actor, found, same⟩ := Option.map_eq_some_iff.mp acts
      cases same
      unfold next
      simp only [found]
      exact reached (command_applied ..)
  | http session command resolved =>
      cases acts
      exact reached (command_applied ..)
  | _ => cases acts

/-- No step changes the owner, in memory or in storage. -/
theorem ownerId_step {object after : RoomObject} {step : Step}
    (taken : (system jsonBytes).Step object step after)
    (same : object.stored.ownerId = object.room.snapshot.ownerId) :
    after.room.snapshot.ownerId = object.room.snapshot.ownerId ∧
      after.stored.ownerId = object.room.snapshot.ownerId := by
  obtain ⟨possible, rfl⟩ := taken
  obtain ⟨host, event⟩ := step
  cases event with
  | join member => exact ⟨congrArg Access.ownerId (access_join member host), same⟩
  | leave id => exact ⟨congrArg Access.ownerId (access_leave id host), same⟩
  | request id command resolved =>
      obtain ⟨member, found, _⟩ := get_of_has possible
      unfold next
      simp only [found]
      exact ⟨(reached (command_applied ..)).ownerId, same⟩
  | http session command resolved => exact ⟨(reached (command_applied ..)).ownerId, same⟩
  | status id status prepared =>
      obtain ⟨member, found, _⟩ := get_of_has possible
      unfold next
      simp only [found]
      exact ⟨congrArg Access.ownerId (access_status ..), same⟩
  | tick => exact ⟨congrArg Access.ownerId (Peers.tick host).access, same⟩
  | commit checkpoint =>
      unfold next commit
      dsimp only
      split
      · exact ⟨rfl, rfl⟩
      · exact ⟨rfl, same⟩
  | restart kept =>
      exact ⟨(congrArg Access.ownerId (Peers.recover host).access).trans same, same⟩

/-- Memory and storage name the same owner. -/
theorem stored_ownerId {object : RoomObject} (reachable : (system jsonBytes).Reachable object) :
    object.stored.ownerId = object.room.snapshot.ownerId := by
  have invariant : TransitionSystem.Inductive (system jsonBytes) fun object =>
      object.stored.ownerId = object.room.snapshot.ownerId := by
    refine ⟨?_, fun same taken => ?_⟩
    · rintro object ⟨options, owner, now, rfl⟩
      rfl
    · obtain ⟨room, stored⟩ := ownerId_step taken same
      exact stored.trans room.symm
  exact invariant.of_reachable reachable

theorem ownerId_run {object later : RoomObject} (reachable : (system jsonBytes).Reachable object)
    (run : (system jsonBytes).Steps object later) :
    later.room.snapshot.ownerId = object.room.snapshot.ownerId := by
  refine TransitionSystem.Steps.relates
    (fun later => later.room.snapshot.ownerId = object.room.snapshot.ownerId) rfl ?_ run
  intro before step after prior same taken
  have stored := stored_ownerId (reachable.steps prior)
  exact (ownerId_step taken stored).1.trans same

/-- In every reachable room, whoever acts: a role that changes was and is below the actor's,
only the owner changes grants, the actor outranks whom it kicks and takes nobody else out,
and never the owner; the owner stays the owner and no stored role is the owner's. -/
theorem rank_safety {object : RoomObject} (reachable : (system jsonBytes).Reachable object) :
    (∀ step after member command, (system jsonBytes).Step object step after →
      step.event.actor object.room = some (member, command) →
      (∀ session, after.room.role session ≠ object.room.role session →
        rank (object.room.role session) < rank (object.room.role member.session) ∧
          rank (after.room.role session) < rank (object.room.role member.session)) ∧
      (after.room.snapshot.grants ≠ object.room.snapshot.grants →
        object.room.role member.session = .owner) ∧
      (after.room.kicks = object.room.kicks ∨
        ∃ id, after.room.kicks = object.room.kicks ++ [id] ∧ object.room.MayKick member id) ∧
      (∀ id, object.room.members.has id = true → after.room.members.has id = false →
        object.room.MayKick member id)) ∧
    (∀ later, (system jsonBytes).Steps object later →
      later.room.snapshot.ownerId = object.room.snapshot.ownerId) ∧
    (∀ entry ∈ object.room.snapshot.roles, entry.2 ≠ .owner) := by
  refine ⟨?_, fun later => ownerId_run reachable,
    (holds_of_reachable noOwnerRole_invariant reachable).1⟩
  intro step after member command taken acts
  have reached := reached_step taken acts
  exact ⟨fun session => reached.role_changes, reached.grants_change, reached.kicks,
    fun id => reached.gone⟩

/-- Ann and Bob are in Ann's room. -/
def pairRoom : RoomObject :=
  after (fun _ => 0) [⟨{ now := 1000 }, .join ann⟩, ⟨{ now := 2000 }, .join bob⟩]
    (create smallOptions annSession 0)

/-- Ann makes Bob a moderator. -/
def annPromotes : Step where
  host := { now := 3000 }
  event := .request "a" (.promote "b" .moderator) []

theorem rank_safety_promotion :
    (pairRoom.next (fun _ => 0) annPromotes).room.role bobSession = .moderator ∧
      rank .moderator < rank (pairRoom.room.role annSession) ∧
      (pairRoom.next (fun _ => 0) annPromotes).room.snapshot.ownerId = "ann" := by
  have reachable : (system fun _ => 0).Reachable pairRoom :=
    reachable_after smallOptions annSession 0 _ (by decide +kernel)
  have taken : (system fun _ => 0).Step pairRoom annPromotes
      (pairRoom.next (fun _ => 0) annPromotes) := step_next (by decide +kernel)
  obtain ⟨commands, owner, _⟩ := rank_safety reachable
  have promoted : (pairRoom.next (fun _ => 0) annPromotes).room.role bobSession = .moderator := by
    decide +kernel
  have ranks := (commands annPromotes _ ann (.promote "b" .moderator) taken
    (by decide +kernel)).1 bobSession (by decide +kernel)
  rw [promoted] at ranks
  exact ⟨promoted, ranks.2, (owner _ (TransitionSystem.Steps.single taken)).trans
    (by decide +kernel)⟩

end RoomObject

end OpenTogetherTube.Edge
