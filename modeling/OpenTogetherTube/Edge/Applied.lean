import OpenTogetherTube.Edge.Commands
import OpenTogetherTube.Lib.Atomic

/-!
# Edge rooms: what a command does

`Quiet` relates two rooms that differ in nothing but queue, votes, texts and what is to
be sent: everything the later results are about is the same. `Applied` sums up all
commands: each one is quiet or makes one of ten changes, and nothing else.
-/

namespace OpenTogetherTube.Edge

open Lib

namespace RoomState

/-- A role is read off the access. -/
theorem role_of_access {a b : RoomState} (same : b.snapshot.toAccess = a.snapshot.toAccess)
    (session : GuestSession) : b.role session = a.role session := by
  have owner : b.snapshot.ownerId = a.snapshot.ownerId := congrArg Access.ownerId same
  have roles : b.snapshot.roles = a.snapshot.roles := congrArg Access.roles same
  unfold RoomState.role
  rw [owner, roles]

/-- Same members, kicks, access, playback and time of emptiness. -/
structure Quiet (before after : RoomState) : Prop where
  members : after.members = before.members
  kicks : after.kicks = before.kicks
  access : after.snapshot.toAccess = before.snapshot.toAccess
  playback : after.snapshot.toPlayback = before.snapshot.toPlayback
  emptySince : after.snapshot.emptySince = before.snapshot.emptySince

namespace Quiet

instance : IsPreorder RoomState Quiet where
  refl _ := ⟨rfl, rfl, rfl, rfl, rfl⟩
  trans _ _ _ first second :=
    ⟨second.members.trans first.members, second.kicks.trans first.kicks,
      second.access.trans first.access, second.playback.trans first.playback,
      second.emptySince.trans first.emptySince⟩

variable {a b c : RoomState}

theorem trans' (first : Quiet a b) (second : Quiet b c) : Quiet a c :=
  IsTrans.trans _ _ _ first second

variable (same : Quiet a b)

include same

theorem symm : Quiet b a :=
  ⟨same.members.symm, same.kicks.symm, same.access.symm, same.playback.symm,
    same.emptySince.symm⟩

theorem onPlayback (update : Playback → Playback) :
    Quiet (a.onPlayback update) (b.onPlayback update) where
  members := same.members
  kicks := same.kicks
  access := same.access
  playback := congrArg update same.playback
  emptySince := same.emptySince

theorem onAccess (update : Access → Access) :
    Quiet (a.onAccess update) (b.onAccess update) where
  members := same.members
  kicks := same.kicks
  access := congrArg update same.access
  playback := same.playback
  emptySince := same.emptySince

theorem mark (keys : List SyncKey) : Quiet (a.mark keys) (b.mark keys) :=
  ⟨same.members, same.kicks, same.access, same.playback, same.emptySince⟩

theorem role (session : GuestSession) : b.role session = a.role session :=
  role_of_access same.access session

theorem can (session : GuestSession) (permission : Permission) :
    b.can session permission = a.can session permission := by
  have grants : b.snapshot.grants = a.snapshot.grants := congrArg Access.grants same.access
  unfold RoomState.can RoomState.grants
  rw [same.role, grants]

theorem preparer (exclude : Option ClientId) :
    b.preparer exclude = a.preparer exclude := by
  unfold RoomState.preparer
  rw [same.members]
  simp only [same.can]

end Quiet

section Operations

variable (room : RoomState)

theorem quiet_mark (keys : List SyncKey) : Quiet room (room.mark keys) :=
  ⟨rfl, rfl, rfl, rfl, rfl⟩

theorem quiet_push (message : ServerMessage) : Quiet room (room.push message) :=
  ⟨rfl, rfl, rfl, rfl, rfl⟩

theorem quiet_event (request : EventRequest) (member : Member) (additional : Additional) :
    Quiet room (room.event request member additional) :=
  ⟨rfl, rfl, rfl, rfl, rfl⟩

theorem quiet_withQueue (queue : List QueueItem) : Quiet room (room.withQueue queue) :=
  ⟨rfl, rfl, rfl, rfl, rfl⟩

theorem quiet_deleteVotes (video : VideoId) : Quiet room (room.deleteVotes video) :=
  ⟨rfl, rfl, rfl, rfl, rfl⟩

theorem quiet_writeVotes (video : VideoId) (ids : List ClientId) :
    Quiet room (room.writeVotes video ids) :=
  ⟨rfl, rfl, rfl, rfl, rfl⟩

theorem quiet_dropVotes (id : ClientId) : Quiet room (room.dropVotes id) :=
  ⟨rfl, rfl, rfl, rfl, rfl⟩

theorem quiet_voteToSkip (member : Member) : Quiet room (room.voteToSkip member) :=
  ⟨rfl, rfl, rfl, rfl, rfl⟩

theorem quiet_orderVotes : Quiet room room.orderVotes := by
  unfold orderVotes
  split
  · exact ⟨rfl, rfl, rfl, rfl, rfl⟩
  · exact refl room

theorem quiet_requeue : Quiet room room.requeue := by
  unfold requeue
  split
  · exact ⟨rfl, rfl, rfl, rfl, rfl⟩
  · exact refl room

theorem quiet_shift : Quiet room room.shift.2 := by
  unfold shift
  split
  · exact refl room
  · exact ⟨rfl, rfl, rfl, rfl, rfl⟩

theorem quiet_assign {α : Type} (key : SyncKey) (value : Option α)
    (write : α → Snapshot → Snapshot)
    (access : ∀ value s, (write value s).toAccess = s.toAccess)
    (playback : ∀ value s, (write value s).toPlayback = s.toPlayback)
    (emptySince : ∀ value s, (write value s).emptySince = s.emptySince) :
    Quiet room (room.assign key value write) := by
  unfold assign
  cases value with
  | none => exact refl room
  | some value => exact ⟨rfl, rfl, access _ _, playback _ _, emptySince _ _⟩

theorem quiet_assignSettings (settings : Settings) :
    Quiet room (room.assignSettings settings) := by
  unfold assignSettings
  refine Quiet.trans' ?_ (quiet_assign _ _ _ _ (fun _ _ => rfl) (fun _ _ => rfl) fun _ _ => rfl)
  refine Quiet.trans' ?_ (quiet_assign _ _ _ _ (fun _ _ => rfl) (fun _ _ => rfl) fun _ _ => rfl)
  refine Quiet.trans' ?_ (quiet_assign _ _ _ _ (fun _ _ => rfl) (fun _ _ => rfl) fun _ _ => rfl)
  refine Quiet.trans' ?_ (quiet_assign _ _ _ _ (fun _ _ => rfl) (fun _ _ => rfl) fun _ _ => rfl)
  exact quiet_assign _ _ _ _ (fun _ _ => rfl) (fun _ _ => rfl) fun _ _ => rfl

/-! ### What each operation does to the playback -/

theorem clearPreparation_quiet :
    Quiet (room.onPlayback Playback.clearPreparation) room.clearPreparation := by
  unfold clearPreparation
  split
  · exact quiet_mark _ _
  · rename_i missing
    have absent : room.snapshot.preparation = none := by simpa using missing
    refine ⟨rfl, rfl, rfl, ?_, rfl⟩
    change room.snapshot.toPlayback = { room.snapshot.toPlayback with preparation := none }
    rw [← absent]

theorem clearTemporarySpeed_quiet (now : Int) :
    Quiet (room.onPlayback (Playback.clearTemporarySpeed now)) (room.clearTemporarySpeed now) := by
  unfold clearTemporarySpeed
  split
  · exact quiet_mark _ _
  · rename_i missing
    have absent : room.snapshot.temporarySpeed = none := by simpa using missing
    refine ⟨rfl, rfl, rfl, ?_, rfl⟩
    change room.snapshot.toPlayback = room.snapshot.toPlayback.clearTemporarySpeed now
    unfold Playback.clearTemporarySpeed
    rw [absent]

theorem prepare_quiet (exclude : Option ClientId) (host : Host) :
    Quiet (room.onPlayback (Playback.prepare (room.preparer exclude) host))
      (room.prepare exclude host) := by
  unfold prepare
  dsimp only
  split
  · exact quiet_mark _ _
  · rename_i missing
    have absent : room.snapshot.nextPreparation (room.preparer exclude) host = none := by
      simpa using missing
    refine ⟨rfl, rfl, rfl, ?_, rfl⟩
    change room.snapshot.toPlayback = room.snapshot.toPlayback.prepare (room.preparer exclude) host
    unfold Playback.prepare
    rw [absent]

theorem play_quiet (value : Bool) (now : Int) :
    Quiet (room.onPlayback (Playback.play value now)) (room.play value now) :=
  ((room.clearPreparation_quiet.onPlayback Playback.forgetResume).onPlayback
    (Playback.playing value now)).trans' (quiet_mark _ _)

theorem start_quiet (video : Option QueueItem) (now : Int) :
    Quiet (room.onPlayback (Playback.start video (!room.members.isEmpty) now))
      (room.start video now) := by
  have cleared := ((room.clearTemporarySpeed_quiet now).onPlayback
    Playback.clearPreparation).trans' (clearPreparation_quiet _)
  unfold start
  rw [← show ((room.clearTemporarySpeed now).clearPreparation).members = room.members from
    cleared.members]
  refine (cleared.onPlayback _).trans' (Quiet.trans' ?_ (quiet_mark _ _))
  exact ⟨rfl, rfl, rfl, rfl, rfl⟩

theorem next_quiet (now : Int) :
    ∃ video, Quiet (room.onPlayback (Playback.start video (!room.members.isEmpty) now))
      (room.next now) := by
  have shifted := room.quiet_requeue.trans' (quiet_shift _)
  refine ⟨room.requeue.shift.1, ?_⟩
  rw [← shifted.members]
  exact (shifted.onPlayback _).trans' ((start_quiet _ _ _).trans' (quiet_mark _ _))

end Operations

/-! ### Operations on rooms that differ quietly -/

variable {a b : RoomState}

variable (same : Quiet a b)

include same

theorem Quiet.next (now : Int) :
    ∃ video, Quiet (a.onPlayback (Playback.start video (!a.members.isEmpty) now))
      (b.next now) := by
  obtain ⟨video, made⟩ := b.next_quiet now
  rw [same.members] at made
  exact ⟨video, (same.onPlayback _).trans' made⟩

theorem Quiet.prepare (exclude : Option ClientId) (host : Host) :
    Quiet (a.prepare exclude host) (b.prepare exclude host) := by
  have right := b.prepare_quiet exclude host
  rw [same.preparer] at right
  exact (a.prepare_quiet exclude host).symm.trans' ((same.onPlayback _).trans' right)

theorem Quiet.clearPreparation :
    Quiet a.clearPreparation b.clearPreparation :=
  a.clearPreparation_quiet.symm.trans' ((same.onPlayback _).trans' b.clearPreparation_quiet)

theorem Quiet.preparation :
    b.snapshot.preparation = a.snapshot.preparation :=
  congrArg Playback.preparation same.playback

theorem Quiet.reprepare (host : Host) :
    Quiet (a.reprepare host) (b.reprepare host) := by
  unfold RoomState.reprepare
  rw [same.preparation]
  split
  · exact same.clearPreparation.prepare none host
  · exact same

theorem Quiet.assignGrants (grants : List (Role × Nat)) (host : Host) :
    Quiet (a.assignGrants grants host) (b.assignGrants grants host) := by
  have written := ((same.onAccess fun access =>
    { access with grants := (grantsOf grants).masks }).mark [.grants])
  unfold RoomState.assignGrants
  refine Quiet.prepare ?_ none host
  rw [written.members, written.preparation]
  simp only [written.can]
  split
  · exact written.clearPreparation
  · exact written

end RoomState

open RoomState

/-- Whether a command that is carried out starts a source: a skip, an addition to an idle
room, the playing of another video. -/
def Command.Starts (room : RoomState) : Command → Prop
  | .skip => True
  | .add _ _ _ => room.snapshot.currentSource = none
  | .playNow video =>
      sameVideo (room.snapshot.currentSource.map QueueItem.toVideoId) (some video.toVideoId) = false
  | _ => False

/-- What a command of `member` makes of the room, returned or thrown. -/
inductive Applied (host : Host) (member : Member) (before : RoomState) :
    Command → RoomState → Prop
  | quiet {command : Command} {after : RoomState} (made : Quiet before after) :
      Applied host member before command after
  | played {state : Bool} {after : RoomState}
      (source : before.snapshot.currentSource.isSome = true)
      (made : Quiet (before.onPlayback (Playback.play state host.now)) after) :
      Applied host member before (.playback state) after
  | sought {value : ℚ} {after : RoomState}
      (made : Quiet
        ((before.onPlayback (Playback.anchorTo value host.now)).reprepare host) after) :
      Applied host member before (.seek value) after
  | started {command : Command} {after : RoomState} (video : Option QueueItem)
      (starts : command.Starts before)
      (made : Quiet
        (before.onPlayback (Playback.start video (!before.members.isEmpty) host.now)) after) :
      Applied host member before command after
  | speeded {speed : ℚ} {after : RoomState}
      (made : Quiet (before.onPlayback (Playback.setSpeed speed host.now)) after) :
      Applied host member before (.playbackSpeed speed) after
  | gestureStarted {gestureId : String} {video : VideoId} {after : RoomState}
      (playing : before.snapshot.isPlaying = true)
      (free : before.snapshot.temporarySpeed = none)
      (made : Quiet
        (before.onPlayback (Playback.startTemporarySpeed member.id gestureId host.now)) after) :
      Applied host member before (.temporaryPlaybackSpeed .start gestureId video) after
  | gestureRenewed {gestureId : String} {video : VideoId} {after : RoomState}
      (made : Quiet (before.onPlayback (Playback.renewTemporarySpeed host.now)) after) :
      Applied host member before (.temporaryPlaybackSpeed .renew gestureId video) after
  | gestureStopped {gestureId : String} {video : VideoId} {after : RoomState}
      (made : Quiet (before.onPlayback (Playback.clearTemporarySpeed host.now)) after) :
      Applied host member before (.temporaryPlaybackSpeed .stop gestureId video) after
  | promoted {targetClientId : ClientId} {role : Role} {target : Member} {after : RoomState}
      (found : before.members.get targetClientId = some target)
      (may : before.mayPromote target role member = true)
      (made : Quiet
        ((before.assignRole target.session.identityId role).reprepareFor target host) after) :
      Applied host member before (.promote targetClientId role) after
  | kicked {clientId : ClientId} {target : Member} {after : RoomState}
      (found : before.members.get clientId = some target)
      (outranked : rank (before.role target.session) < rank (before.role member.session))
      (made : Quiet
        (({ before with kicks := before.kicks ++ [target.id] } : RoomState).leave target.id host)
        after) :
      Applied host member before (.kick clientId) after
  | regranted {settings : Settings} {grants : List (Role × Nat)} {after : RoomState}
      (given : settings.grants = some grants)
      (owner : before.role member.session = .owner)
      (made : Quiet (before.assignGrants grants host) after) :
      Applied host member before (.applySettings settings) after

/-- What is quiet after a command's change belongs to it. -/
theorem Applied.then {host : Host} {member : Member} {command : Command}
    {before middle after : RoomState}
    (applied : Applied host member before command middle) (rest : Quiet middle after) :
    Applied host member before command after := by
  cases applied with
  | quiet made => exact .quiet (made.trans' rest)
  | played source made => exact .played source (made.trans' rest)
  | sought made => exact .sought (made.trans' rest)
  | started video starts made => exact .started video starts (made.trans' rest)
  | speeded made => exact .speeded (made.trans' rest)
  | gestureStarted playing free made => exact .gestureStarted playing free (made.trans' rest)
  | gestureRenewed made => exact .gestureRenewed (made.trans' rest)
  | gestureStopped made => exact .gestureStopped (made.trans' rest)
  | promoted found may made => exact .promoted found may (made.trans' rest)
  | kicked found outranked made => exact .kicked found outranked (made.trans' rest)
  | regranted given owner made => exact .regranted given owner (made.trans' rest)

namespace RoomState

open Handler

variable {jsonBytes : QueueItem → Nat} {host : Host} {member : Member} {room : RoomState}

/-! ### Checks change nothing -/

theorem check_inspects (session : GuestSession) (permission : Permission) :
    Inspects (check session permission) := by
  unfold check
  exact .get_bind fun _ => .ite (.pure _) (.throw _)

theorem checkSome_inspects (session : GuestSession) (permission : Option Permission) :
    Inspects (checkSome session permission) := by
  unfold checkSome
  cases permission with
  | none => exact .pure _
  | some permission => exact check_inspects session permission

theorem checkCommand_inspects (command : Command) (member : Member) :
    Inspects (checkCommand command member) := by
  unfold checkCommand
  split
  · exact check_inspects _ _
  · exact .pure _

theorem checkQueueSize_inspects (jsonBytes : QueueItem → Nat) (queue : List QueueItem)
    (current : Option QueueItem) : Inspects (checkQueueSize jsonBytes queue current) :=
  .ite (.throw _) (.pure _)

theorem checkKey_inspects (changed : Bool) (member : Member) (key : SettingsKey) :
    Inspects (checkKey changed member key) := by
  unfold checkKey
  exact .get_bind fun _ => .ite (.ite (.throw _) (.pure _)) (check_inspects _ _)

theorem checkKeys_inspects (changed : Bool) (member : Member) (keys : List SettingsKey) :
    Inspects (checkKeys changed member keys) := by
  induction keys with
  | nil => exact .pure _
  | cons key rest ih =>
      exact .bind (checkKey_inspects changed member key) fun _ => ih

/-! ### The branches -/

theorem chat_applied (text : String) :
    Applied host member room (.chat text) ((chat text member).after room) :=
  .quiet (quiet_push room _)

theorem playback_applied (state : Bool) :
    Applied host member room (.playback state) ((playback host state).after room) := by
  unfold playback
  rw [after_get_bind, after_ite]
  split
  · exact .quiet (refl room)
  · rename_i source
    rw [after_modify_bind]
    refine .played ?_ (room.play_quiet state host.now)
    simpa [Option.isSome_iff_ne_none] using source

theorem seek_applied (value : ℚ) :
    Applied host member room (.seek value) ((seek host value).after room) := by
  unfold seek
  rw [after_get_bind]
  split
  · exact .quiet (refl room)
  · rw [after_ite]
    split
    · exact .quiet (refl room)
    · dsimp only
      rw [after_modify_bind, after_modify_bind, after_modify_bind]
      exact .sought ((quiet_mark _ _).reprepare host)

theorem skipNow_applied {before : RoomState} (same : Quiet before room) :
    Applied host member before .skip ((skipNow host).after room) := by
  obtain ⟨video, made⟩ := same.next host.now
  exact .started video trivial made

theorem skip_applied : Applied host member room .skip ((skip host member).after room) := by
  unfold skip
  rw [after_get_bind, after_ite]
  split
  · rw [after_modify_bind, after_get_bind, after_ite]
    split
    · exact .quiet (quiet_voteToSkip room member)
    · exact skipNow_applied (quiet_voteToSkip room member)
  · exact skipNow_applied (refl room)

theorem add_applied (resolved : List QueueItem) (video : Option VideoAdd)
    (videos : Option (List VideoAdd)) (url : Option String) :
    Applied host member room (.add video videos url)
      ((add jsonBytes host resolved).after room) := by
  unfold add
  rw [after_get_bind, after_ite]
  split
  · exact .quiet (refl room)
  · rw [after_bind, checkQueueSize_inspects _ _ _ _]
    split
    · rw [after_modify_bind, after_modify_bind, after_modify_bind, after_modify_bind, after_pure]
      have queued := (quiet_withQueue room (room.snapshot.queue ++ resolved)).trans'
        ((quiet_mark _ [.queue]).trans' (quiet_orderVotes _))
      unfold advanceIdle
      split
      · rename_i idle
        obtain ⟨video, made⟩ := queued.next host.now
        refine .started video ?_ made
        have same := congrArg Playback.currentSource queued.playback
        rw [Option.isNone_iff_eq_none] at idle
        exact same.symm.trans idle
      · exact .quiet queued
    · exact .quiet (refl room)

theorem remove_applied (video : VideoId) :
    Applied host member room (.remove video) ((remove video).after room) := by
  unfold remove
  rw [after_get_bind]
  split
  · exact .quiet (refl room)
  · rw [after_modify_bind, after_modify_bind, after_modify_bind]
    exact .quiet ((quiet_withQueue room _).trans'
      ((quiet_deleteVotes _ video).trans' (quiet_mark _ _)))

theorem order_applied (fromIdx toIdx : Nat) :
    Applied host member room (.order fromIdx toIdx) ((order fromIdx toIdx).after room) := by
  unfold order
  rw [after_get_bind, after_ite]
  split
  · exact .quiet (refl room)
  · exact .quiet ((quiet_withQueue room _).trans' (quiet_mark _ _))

theorem vote_applied (video : VideoId) (add : Bool) :
    Applied host member room (.vote video add) ((vote video add member).after room) := by
  unfold vote
  rw [after_get_bind, after_ite]
  split
  · exact .quiet (refl room)
  · dsimp only
    rw [after_modify_bind, after_modify_bind, after_modify_bind]
    exact .quiet ((quiet_writeVotes room video _).trans'
      ((quiet_mark _ _).trans' (quiet_orderVotes _)))

theorem playNow_applied (video : VideoAdd) (resolved : List QueueItem) :
    Applied host member room (.playNow video)
      ((playNow jsonBytes host video resolved).after room) := by
  unfold playNow
  rw [after_get_bind, after_ite]
  split
  · exact .quiet (refl room)
  · rename_i different
    split
    · exact .quiet (refl room)
    · rename_i item found
      dsimp only
      rw [after_bind, checkQueueSize_inspects _ _ _ _]
      split
      · rw [after_modify_bind, after_modify_bind, after_modify_bind, after_modify_bind]
        have queued := (quiet_withQueue room (room.snapshot.currentSource.toList ++
          room.snapshot.queue.filter fun other =>
            !sameVideo (some other.toVideoId) (some video.toVideoId))).trans'
          (quiet_deleteVotes _ video.toVideoId)
        refine .started (some item) (by simpa [Command.Starts] using different) ?_
        rw [← queued.members]
        exact (queued.onPlayback _).trans' ((start_quiet _ _ _).trans' (quiet_mark _ _))
      · exact .quiet (refl room)

theorem shuffle_applied :
    Applied host member room .shuffle ((shuffle host).after room) :=
  .quiet ((quiet_withQueue room _).trans' (quiet_mark _ _))

theorem playbackSpeed_applied (speed : ℚ) :
    Applied host member room (.playbackSpeed speed) ((playbackSpeed host speed).after room) := by
  unfold playbackSpeed
  rw [after_modify_bind, after_modify_bind, after_modify_bind, after_modify_bind]
  have cleared := room.clearTemporarySpeed_quiet host.now
  have anchored := cleared.onPlayback (Playback.anchor host.now)
  exact .speeded ((anchored.onPlayback (Playback.assignSpeed speed)).trans' (quiet_mark _ _))

theorem updateQueueItem_applied (video : VideoId) (update : ItemUpdate)
    (resolved : List QueueItem) :
    Applied host member room (.updateQueueItem video update)
      ((updateQueueItem jsonBytes video resolved).after room) := by
  unfold updateQueueItem
  rw [after_get_bind]
  split
  · dsimp only
    rw [after_bind, checkQueueSize_inspects _ _ _ _]
    split
    · exact .quiet ((quiet_withQueue room _).trans' (quiet_mark _ _))
    · exact .quiet (refl room)
  · exact .quiet (refl room)

theorem temporaryPlaybackSpeed_applied (action : GestureAction) (gestureId : String)
    (video : VideoId) :
    Applied host member room (.temporaryPlaybackSpeed action gestureId video)
      ((temporaryPlaybackSpeed host action gestureId video member).after room) := by
  unfold temporaryPlaybackSpeed
  rw [after_get_bind, after_ite]
  split
  · exact .quiet (refl room)
  · cases action with
    | stop =>
        rw [after_ite]
        split
        · exact .gestureStopped (room.clearTemporarySpeed_quiet host.now)
        · exact .quiet (refl room)
    | renew =>
        rw [after_ite]
        split
        · exact .gestureRenewed (refl _)
        · exact .quiet (refl room)
    | start =>
        rw [after_ite]
        split
        · rename_i free
          rw [Bool.and_eq_true, Option.isNone_iff_eq_none] at free
          exact .gestureStarted free.1 free.2 (quiet_mark _ _)
        · exact .quiet (refl room)

theorem promote_applied (targetClientId : ClientId) (role : Role) :
    Applied host member room (.promote targetClientId role)
      ((promote host targetClientId role member).after room) := by
  unfold promote
  rw [after_get_bind]
  split
  · exact .quiet (refl room)
  · rename_i target found
    rw [after_ite]
    split
    · exact .quiet (refl room)
    · rename_i may
      rw [after_bind, checkSome_inspects _ _ _]
      split
      · rw [after_bind, checkSome_inspects _ _ _]
        split
        · rw [after_ite]
          split
          · exact .quiet (refl room)
          · exact .promoted found (by simpa using may) (refl _)
        · exact .quiet (refl room)
      · exact .quiet (refl room)

theorem kick_applied (clientId : ClientId) :
    Applied host member room (.kick clientId) ((kick host clientId member).after room) := by
  unfold kick
  rw [after_get_bind]
  split
  · exact .quiet (refl room)
  · rename_i target found
    rw [after_ite]
    split
    · exact .quiet (refl room)
    · rename_i outranked
      exact .kicked found (not_le.mp outranked) (refl _)

theorem checkKeys_owner {keys : List SettingsKey} (changes : SettingsKey.grants ∈ keys)
    (passed : (checkKeys true member keys).outcome room = .ok ()) :
    room.role member.session = .owner := by
  induction keys with
  | nil => cases changes
  | cons key rest ih =>
      unfold checkKeys at passed
      rw [outcome_bind, checkKey_inspects _ _ _ _] at passed
      split at passed
      · rename_i first
        rcases List.mem_cons.mp changes with same | later
        · unfold checkKey at first
          by_contra other
          rw [outcome_get_bind, if_pos same.symm, if_pos ⟨rfl, other⟩, outcome_throw] at first
          cases first
        · exact ih later passed
      · cases passed

theorem mem_keys_of_grants {settings : Settings} {grants : List (Role × Nat)}
    (given : settings.grants = some grants) : SettingsKey.grants ∈ settings.keys := by
  unfold Settings.keys
  rw [given]
  simp

theorem settings_applied (given : Settings) :
    Applied host member room (.applySettings given) ((settings host given member).after room) := by
  unfold settings
  rw [after_get_bind]
  dsimp only
  rw [after_bind, checkKeys_inspects _ _ _ _]
  split
  · rename_i passed
    rw [after_ite]
    split
    · exact .quiet (refl room)
    · rw [after_modify_bind, after_modify_bind, after_modify_bind, after_pure]
      have assigned := room.quiet_assignSettings given
      split
      · rename_i grants changed given
        rw [changed] at passed
        have owner := checkKeys_owner (mem_keys_of_grants given) passed
        exact .regranted given owner ((assigned.assignGrants grants host).trans'
          (quiet_orderVotes _))
      · exact .quiet (assigned.trans' (quiet_orderVotes _))
  · exact .quiet (refl room)

/-- Each branch makes one of the changes. -/
theorem branch_applied (command : Command) (resolved : List QueueItem) :
    Applied host member room command
      ((branch jsonBytes host command member resolved).after room) := by
  cases command with
  | chat text => exact chat_applied text
  | playback state => exact playback_applied state
  | seek value => exact seek_applied value
  | skip => exact skip_applied
  | add video videos url => exact add_applied resolved video videos url
  | remove video => exact remove_applied video
  | order fromIdx toIdx => exact order_applied fromIdx toIdx
  | vote video add => exact vote_applied video add
  | playNow video => exact playNow_applied video resolved
  | shuffle => exact shuffle_applied
  | playbackSpeed speed => exact playbackSpeed_applied speed
  | temporaryPlaybackSpeed action gestureId video =>
      exact temporaryPlaybackSpeed_applied action gestureId video
  | updateQueueItem video update => exact updateQueueItem_applied video update resolved
  | promote targetClientId role => exact promote_applied targetClientId role
  | kick clientId => exact kick_applied clientId
  | applySettings given => exact settings_applied given
  | restoreQueue discard => exact .quiet (refl room)

/-- Every command makes one of the changes, whether it returns or throws. -/
theorem apply_applied (command : Command) (resolved : List QueueItem) :
    Applied host member room command
      ((apply jsonBytes host command member resolved).after room) := by
  unfold apply
  rw [after_bind, checkCommand_inspects _ _ _]
  split
  · rw [after_bind]
    split
    · split
      · exact (branch_applied command resolved).then (quiet_event _ _ _ _)
      · exact branch_applied command resolved
    · exact branch_applied command resolved
  · exact .quiet (refl room)

end RoomState

end OpenTogetherTube.Edge
