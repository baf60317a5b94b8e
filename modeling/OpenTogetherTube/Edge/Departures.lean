import OpenTogetherTube.Edge.Applied

/-!
# Edge rooms: what the other steps do

Joining, leaving, status reports, ticks and recovery, up to quiet differences, as changes
of the members and of the playback.
-/

namespace OpenTogetherTube.Edge

open Lib

namespace Playback

/-- A temporary speed of the client ends. -/
def endGestureOf (id : ClientId) (now : Int) (s : Playback) : Playback :=
  if s.temporarySpeed.map TemporarySpeed.clientId = some id then s.clearTemporarySpeed now else s

/-- A preparation by the client is dropped. -/
def dropPreparationOf (id : ClientId) (s : Playback) : Playback :=
  if s.preparation.map Preparation.clientId = some id then s.clearPreparation else s

/-- What a client leaves behind: neither its temporary speed nor its preparation. -/
def dropClient (id : ClientId) (now : Int) (s : Playback) : Playback :=
  (s.endGestureOf id now).dropPreparationOf id

/-- The first part of a tick. -/
def expireSpeed (now : Int) (s : Playback) : Playback :=
  if s.temporarySpeed.any fun speed => decide (speed.expiresAt ≤ now) then
    s.clearTemporarySpeed now
  else s

variable (s : Playback)

@[simp] theorem dropClient_isPlaying (id : ClientId) (now : Int) :
    (s.dropClient id now).isPlaying = s.isPlaying := by
  unfold dropClient dropPreparationOf endGestureOf
  split <;> split <;> simp [clearPreparation]

@[simp] theorem dropClient_currentSource (id : ClientId) (now : Int) :
    (s.dropClient id now).currentSource = s.currentSource := by
  unfold dropClient dropPreparationOf endGestureOf
  split <;> split <;> simp [clearPreparation]

@[simp] theorem expireSpeed_isPlaying (now : Int) :
    (s.expireSpeed now).isPlaying = s.isPlaying := by
  unfold expireSpeed
  split <;> simp

@[simp] theorem expireSpeed_currentSource (now : Int) :
    (s.expireSpeed now).currentSource = s.currentSource := by
  unfold expireSpeed
  split <;> simp

end Playback

namespace RoomState

variable {a b : RoomState}

theorem Quiet.emptiedAt (same : Quiet a b) (since : Int) :
    Quiet (a.emptiedAt since) (b.emptiedAt since) :=
  ⟨same.members, same.kicks, same.access, same.playback, rfl⟩

theorem Quiet.settleAfterLeave (same : Quiet a b) (host : Host) :
    Quiet (a.settleAfterLeave host) (b.settleAfterLeave host) := by
  unfold RoomState.settleAfterLeave
  rw [same.members]
  split
  · exact (((same.onPlayback _).onPlayback _).mark _).emptiedAt _
  · exact same.prepare none host

theorem Quiet.removeMember (same : Quiet a b) (id : ClientId) :
    Quiet (a.removeMember id) (b.removeMember id) :=
  ⟨congrArg (Members.delete · id) same.members, same.kicks, same.access, same.playback,
    same.emptySince⟩

variable (room : RoomState)

theorem quiet_ite (condition : Playback → Prop) [DecidablePred condition]
    {update : Playback → Playback} {changed : RoomState}
    (made : Quiet (room.onPlayback update) changed) :
    Quiet (room.onPlayback fun s => if condition s then update s else s)
      (if condition room.snapshot.toPlayback then changed else room) := by
  split
  · rename_i holds
    exact ⟨made.members, made.kicks, made.access, made.playback.trans (if_pos holds).symm,
      made.emptySince⟩
  · rename_i fails
    exact ⟨rfl, rfl, rfl, (if_neg fails).symm, rfl⟩

theorem endGestureOf_quiet (id : ClientId) (now : Int) :
    Quiet (room.onPlayback (Playback.endGestureOf id now)) (room.endGestureOf id now) :=
  room.quiet_ite (fun s => s.temporarySpeed.map TemporarySpeed.clientId = some id)
    (room.clearTemporarySpeed_quiet now)

theorem dropPreparationOf_quiet (id : ClientId) :
    Quiet (room.onPlayback (Playback.dropPreparationOf id)) (room.dropPreparationOf id) :=
  room.quiet_ite (fun s => s.preparation.map Preparation.clientId = some id)
    room.clearPreparation_quiet

/-- A client that is not in the room leaves nothing. -/
theorem leave_missing {id : ClientId} (host : Host) (missing : room.members.get id = none) :
    room.leave id host = room := by
  unfold leave
  rw [missing]

theorem leave_quiet {id : ClientId} {member : Member} (host : Host)
    (found : room.members.get id = some member) :
    Quiet (((room.removeMember id).onPlayback (Playback.dropClient id host.now)).settleAfterLeave
      host) (room.leave id host) := by
  unfold leave
  rw [found]
  refine Quiet.settleAfterLeave ?_ host
  have left := (room.quiet_event .leave member (.user (room.info member))).removeMember id
  have told := left.trans' ((quiet_push _ (.userRemove id)).trans'
    ((quiet_dropVotes _ id).trans' (quiet_orderVotes _)))
  have ended := (told.onPlayback _).trans' (endGestureOf_quiet _ id host.now)
  exact (ended.onPlayback _).trans' (dropPreparationOf_quiet _ id)

theorem join_quiet (member : Member) (host : Host) :
    Quiet ((room.enter member).prepare none host) (room.join member host) :=
  ((quiet_push _ _).trans' (quiet_event _ _ _ _)).prepare none host

theorem expireTemporarySpeed_quiet (now : Int) :
    Quiet (room.onPlayback (Playback.expireSpeed now)) (room.expireTemporarySpeed now) :=
  room.quiet_ite
    (fun s => (s.temporarySpeed.any fun speed => decide (speed.expiresAt ≤ now)) = true)
    (room.clearTemporarySpeed_quiet now)

theorem sameVideo_iff {a b : Option VideoId} :
    sameVideo a b = true ↔ ∃ video, a = some video ∧ b = some video := by
  cases a <;> cases b <;> simp [sameVideo, eq_comm]

/-- What a report that completes a preparation is. -/
structure Completes (preparation : Preparation) (member : Member) (status : PlayerStatus)
    (prepared : Option PlaybackPrepared) (now : Int) (room : RoomState) : Prop where
  client : preparation.clientId = member.id
  ready : status = .ready
  unexpired : now < preparation.expiresAt
  video : room.snapshot.currentSource.map QueueItem.toVideoId = some preparation.video
  allowed : room.can member.session .playPause = true
  report : ∃ report position, prepared = some report ∧ report.id = preparation.id ∧
    report.position = .fin position ∧ |position - preparation.position| ≤ 3 / 2

theorem completes_iff {preparation : Preparation} {member : Member} {status : PlayerStatus}
    {prepared : Option PlaybackPrepared} {now : Int} :
    room.completes preparation member status prepared now = true ↔
      Completes preparation member status prepared now room := by
  unfold completes
  cases prepared with
  | none =>
      refine ⟨nofun, fun complete => ?_⟩
      obtain ⟨_, _, absent, _⟩ := complete.report
      cases absent
  | some report =>
      simp only [Bool.and_eq_true, decide_eq_true_eq, Bool.not_eq_true', sameVideo_iff]
      constructor
      · rintro ⟨⟨⟨⟨⟨⟨⟨client, id⟩, ready⟩, unexpired⟩, finite⟩, near⟩, video, source, same⟩, allowed⟩
        cases position : report.position with
        | fin value =>
            rw [position] at near
            refine ⟨client, ready, unexpired, source.trans same.symm, allowed, report, value, rfl,
              id, position, ?_⟩
            simpa [Number.farApart] using near
        | nan => rw [position] at finite; cases finite
        | negInf => rw [position] at finite; cases finite
        | posInf => rw [position] at finite; cases finite
      · rintro ⟨client, ready, unexpired, video, allowed, _, value, ⟨⟩, id, position, near⟩
        rw [position]
        refine ⟨⟨⟨⟨⟨⟨⟨client, id⟩, ready⟩, unexpired⟩, rfl⟩, ?_⟩, _, video, rfl⟩, allowed⟩
        simpa [Number.farApart] using near

/-- A property that outlasts changes of the preparation. -/
structure Reprepares (holds : RoomState → Prop) : Prop where
  clear : ∀ {a : RoomState}, holds a → holds a.clearPreparation
  prepare : ∀ {a : RoomState} exclude host, holds a → holds (a.prepare exclude host)

namespace Reprepares

variable {holds : RoomState → Prop} {room : RoomState}

theorem reprepare (prepares : Reprepares holds) (host : Host) (before : holds room) :
    holds (room.reprepare host) := by
  unfold RoomState.reprepare
  split
  · exact prepares.prepare none host (prepares.clear before)
  · exact before

theorem reprepareFor (prepares : Reprepares holds) (target : Member) (host : Host)
    (before : holds room) : holds (room.reprepareFor target host) := by
  unfold RoomState.reprepareFor
  split
  · exact prepares.prepare none host (prepares.clear before)
  · exact before

theorem expirePreparation (prepares : Reprepares holds) (host : Host) (before : holds room) :
    holds (room.expirePreparation host) := by
  unfold RoomState.expirePreparation
  split
  · exact before
  · split
    · exact prepares.prepare _ host (prepares.clear before)
    · exact before

end Reprepares

/-- A property that outlasts quiet changes, new permissions and changes of the
preparation. -/
structure Lasting (holds : RoomState → Prop) : Prop extends Reprepares holds where
  quiet : ∀ {a b : RoomState}, Quiet a b → holds a → holds b
  access : ∀ {a : RoomState} update, holds a → holds (a.onAccess update)

namespace Lasting

variable {holds : RoomState → Prop} {room : RoomState}

theorem assignRole (lasting : Lasting holds) (identityId : String) (role : Role)
    (before : holds room) : holds (room.assignRole identityId role) := by
  have written := lasting.access (fun access =>
    { access with roles := access.roles.set identityId role }) before
  refine lasting.quiet ?_ written
  exact ⟨rfl, rfl, rfl, rfl, rfl⟩

theorem assignGrants (lasting : Lasting holds) (grants : List (Role × Nat)) (host : Host)
    (before : holds room) : holds (room.assignGrants grants host) := by
  unfold RoomState.assignGrants
  have written := lasting.quiet (quiet_mark _ [.grants])
    (lasting.access (fun access => { access with grants := (grantsOf grants).masks }) before)
  refine lasting.prepare none host ?_
  split
  · exact lasting.clear written
  · exact written

end Lasting

end RoomState

end OpenTogetherTube.Edge
