import OpenTogetherTube.Manager.Connection

/-!
# The password gate

Access to a locked room is decided once, on the way of a join. The requests of a client come in
by another way that does not ask for the verdict: it looks at the join status, which says that
the token was accepted. So the gate holds for a client that sends nothing before it has been let
in, and for no longer.
-/

namespace OpenTogetherTube

open Lib

/-- The part of a connection that a handler belongs to. -/
inductive HandlerKind where
  /-- Authentication and the join up to its verdict. -/
  | gate
  | message
  | other
deriving DecidableEq

/-- The handler of a request. -/
def Asked.kind (asked : Asked) : HandlerKind :=
  match asked.asker with
  | .message => .message
  | .join => .other

/-- The handler at an await. -/
def ConnectionPoint.kind : ConnectionPoint → HandlerKind
  | .authenticating _ | .joining _ _ | .checking _ _ => .gate
  | .finding asked | .identifying asked _ _ | .naming asked _ _ _ | .processing asked _ _ =>
      asked.kind
  | .deciding _ | .selecting _ | .renewing => .message
  | _ => .other

theorem Asked.kind_ne_gate (asked : Asked) : asked.kind ≠ .gate := by
  obtain ⟨request, asker⟩ := asked
  cases asker <;> exact nofun

namespace Connection

variable {connection : Connection} {own : HandlerKind}

/-- What every piece but the verdict keeps: what was resolved, a token once there is one, and
the handler it belongs to. -/
structure Keeps (before : Connection) (own : HandlerKind) (result : Result) : Prop where
  access : result.1.access = before.access
  token : before.client.token.isSome = true → result.1.client.token.isSome = true
  kind : ∀ next, result.2 = .point next → next.kind = own

theorem Keeps.of_done {after : Connection} (access : after.access = connection.access)
    (client : after.client = connection.client) : Keeps connection own (after, .done) := by
  refine ⟨access, fun present => ?_, fun next rests => by cases rests⟩
  rw [client]
  exact present

theorem Keeps.of_point {after : Connection} {point : ConnectionPoint}
    (access : after.access = connection.access) (client : after.client = connection.client)
    (kind : point.kind = own) : Keeps connection own (after, .point point) := by
  refine ⟨access, fun present => ?_, ?_⟩
  · rw [client]
    exact present
  · rintro _ ⟨⟩
    exact kind

theorem Keeps.trans {middle : Connection} {result : Result}
    (first : Keeps connection own (middle, .done)) (second : Keeps middle own result) :
    Keeps connection own result :=
  ⟨second.access.trans first.access, fun present => second.token (first.token present), second.kind⟩

theorem failJoin_keeps : Keeps connection own connection.failJoin := by
  unfold failJoin
  refine .of_done ?_ ?_
  · dsimp only
    split <;> rfl
  · dsimp only
    split <;> rfl

theorem settle_keeps (asked : Asked) : Keeps connection asked.kind (connection.settle asked) := by
  obtain ⟨request, asker⟩ := asked
  cases asker with
  | message => exact .of_done rfl rfl
  | join =>
      change Keeps connection .other (if connection.connected then _ else _)
      split
      · exact .of_point rfl rfl rfl
      · exact .of_done rfl rfl

theorem makeRoomRequest_keeps (asked : Asked) :
    Keeps connection asked.kind (connection.makeRoomRequest asked) := by
  unfold makeRoomRequest
  split
  · exact .of_point rfl rfl rfl
  · split
    · exact .of_done rfl rfl
    · exact settle_keeps asked

theorem derive_keeps (asked : Asked) (getRoom : Option Nat) :
    Keeps connection asked.kind (connection.derive asked getRoom) := by
  unfold derive
  dsimp only
  split
  · split
    · exact .of_point rfl rfl rfl
    · exact .of_point rfl rfl rfl
  · exact settle_keeps asked

theorem deriveFromSession_keeps (asked : Asked) (object : Nat) (auth : RoomRequestAuthorization)
    (username : String) (userId : Option Nat) :
    Keeps connection asked.kind (connection.deriveFromSession asked object auth username userId) := by
  unfold deriveFromSession
  split
  · exact .of_point rfl rfl rfl
  · exact settle_keeps asked

theorem process_keeps (env : Env) (asked : Asked) (object : Nat) (context : RoomRequestContext) :
    Keeps connection asked.kind (connection.process env asked object context) := by
  have changed : Keeps connection asked.kind
      (connection.onRoom object (Room.processRequest env asked.request context).after, .done) :=
    .of_done rfl rfl
  exact changed.trans (settle_keeps asked)

theorem settleVoice_keeps {select : String → ConnectionPoint} {rest : Rest ConnectionPoint Empty}
    (object : Nat) (selects : ∀ room, (select room).kind = own)
    (rests : ∀ next, rest = .point next → next.kind = own) :
    Keeps connection own (connection.settleVoice object select rest) := by
  unfold settleVoice
  dsimp only
  refine ⟨rfl, fun present => present, ?_⟩
  intro next leads
  dsimp only at leads
  split at leads
  · cases leads
    exact selects _
  · exact rests next leads

theorem setVoicePresence_keeps (joined enabled : Bool) :
    Keeps connection .message (connection.setVoicePresence joined enabled) := by
  have settles : ∀ (after : Connection) (object : Nat), after.access = connection.access →
      after.client = connection.client →
        Keeps connection .message (after.settleVoice object .selecting .done) := by
    intro after object access client
    have written : Keeps connection .message (after, .done) := .of_done access client
    exact written.trans (settleVoice_keeps object (fun _ => rfl) fun next rests => by cases rests)
  unfold setVoicePresence
  split
  · exact .of_done rfl rfl
  · dsimp only
    split
    · exact .of_point rfl rfl rfl
    · exact settles _ _ rfl rfl

theorem decideVoice_keeps (object : Nat) (allowed : Bool) :
    Keeps connection .message (connection.decideVoice object allowed) := by
  unfold decideVoice
  dsimp only
  split
  · exact .of_done rfl rfl
  · have written : Keeps connection .message ({ connection with
        voice := connection.voice.write object (OrderedSet.add (connection.voice.members object)
          connection.client.id) }, .done) := .of_done rfl rfl
    exact written.trans (settleVoice_keeps object (fun _ => rfl) fun next rests => by cases rests)

theorem onData_keeps (message : ClientMessage) (answer : ConnectionAnswer) :
    Keeps connection .message (connection.onData message answer) := by
  unfold onData
  split
  · unfold onClientMessage
    dsimp only
    split
    · exact .of_done rfl rfl
    · split
      · exact .of_done rfl rfl
      · exact .of_done rfl rfl
      · exact makeRoomRequest_keeps ⟨_, .message⟩
      · exact makeRoomRequest_keeps ⟨_, .message⟩
      · exact .of_done rfl rfl
      · split
        · exact .of_done rfl rfl
        · split
          · exact .of_done rfl rfl
          · exact makeRoomRequest_keeps ⟨_, .message⟩
      · exact setVoicePresence_keeps _ _
      · exact .of_done rfl rfl
      · exact .of_point rfl rfl rfl
  · exact .of_done rfl rfl

theorem selectRelay_keeps (roomName : String) (relay : Option String) :
    Keeps connection own (connection.selectRelay roomName relay, .done) := by
  unfold selectRelay
  split
  · exact .of_done rfl rfl
  · exact .of_done rfl rfl

theorem onClientDisconnect_keeps : Keeps connection .other connection.onClientDisconnect := by
  have gone : Keeps connection .other ({ connection with connected := false }, .done) :=
    .of_done rfl rfl
  unfold onClientDisconnect
  dsimp only
  split
  · split
    · refine gone.trans ?_
      have written : ∀ voice, Keeps { connection with connected := false } .other
          ({ connection with connected := false, voice }, .done) := fun _ => .of_done rfl rfl
      refine (written _).trans (settleVoice_keeps _ (fun _ => rfl) ?_)
      rintro _ ⟨⟩
      rfl
    · exact .of_point rfl rfl rfl
  · exact .of_point rfl rfl rfl

/-- Every piece but those of the gate stays with its handler. -/
theorem resume_keeps {point : ConnectionPoint} (inside : point.kind ≠ .gate)
    (answer : ConnectionAnswer) : Keeps connection point.kind (connection.resume point answer) := by
  cases point with
  | authenticating token => exact absurd rfl inside
  | joining token session => exact absurd rfl inside
  | checking object verdict => exact absurd rfl inside
  | greeting =>
      change Keeps connection .other (if answer.rejects then _ else _)
      split
      · exact failJoin_keeps
      · exact .of_done rfl rfl
  | finding asked =>
      change Keeps connection asked.kind (if answer.rejects then _ else _)
      split
      · exact settle_keeps asked
      · exact derive_keeps asked answer.getRoom
  | identifying asked object auth =>
      unfold resume
      dsimp only
      split
      · exact settle_keeps asked
      · exact deriveFromSession_keeps asked object auth _ none
      · exact .of_point rfl rfl rfl
  | naming asked object auth userId =>
      unfold resume
      dsimp only
      split
      · exact settle_keeps asked
      · exact deriveFromSession_keeps asked object auth _ (some userId)
  | processing asked object context =>
      exact process_keeps answer.env asked object context
  | deciding object => exact decideVoice_keeps object answer.allowed
  | selecting roomName => exact selectRelay_keeps roomName answer.relay
  | renewing =>
      change Keeps connection .message (connection.renewUser answer.session)
      unfold renewUser
      split
      · exact .of_done rfl rfl
      · have renewed : ∀ session, Keeps connection .message
            ({ connection with client := { connection.client with session } }, .done) :=
          fun _ => ⟨rfl, fun present => present, fun next rests => by cases rests⟩
        exact (renewed _).trans (makeRoomRequest_keeps ⟨_, .message⟩)
  | reauthenticating token =>
      change Keeps connection .other (connection.acceptReauth token answer.session)
      unfold acceptReauth
      split
      · exact .of_done rfl rfl
      · refine ⟨rfl, fun _ => rfl, ?_⟩
        rintro _ ⟨⟩
        rfl
  | reseating token =>
      change Keeps connection .other (connection.reseat token answer, .done)
      unfold reseat
      split
      · exact .of_done rfl rfl
      · exact .of_done rfl rfl
  | unselecting roomName =>
      have selected : Keeps connection .other (connection.selectRelay roomName answer.relay, .done) :=
        selectRelay_keeps roomName answer.relay
      refine ⟨selected.access, selected.token, ?_⟩
      rintro _ ⟨⟩
      rfl
  | awaitingJoin =>
      change Keeps connection .other connection.awaitJoin
      unfold awaitJoin
      split
      · exact .of_point rfl rfl rfl
      · split
        · exact .of_done rfl rfl
        · exact .of_point rfl rfl rfl
  | leaving =>
      change Keeps connection .other (connection.leave answer, .done)
      unfold leave
      split
      · exact .of_done rfl rfl
      · exact .of_done rfl rfl

/-- How much of the one way through the gate is left: a token may still be taken, or a verdict
was given. -/
def spent (connection : Connection) : Nat :=
  (if connection.client.token.isNone then 1 else 0) + if connection.access.isSome then 1 else 0

/-- How many handlers are on their way through the gate. -/
def gates (points : List ConnectionPoint) : Nat :=
  (points.filter fun point => decide (point.kind = .gate)).length

theorem gates_append (first second : List ConnectionPoint) :
    gates (first ++ second) = gates first + gates second := by
  unfold gates
  rw [List.filter_append, List.length_append]

theorem gates_cons (point : ConnectionPoint) (points : List ConnectionPoint) :
    gates (point :: points) = (if point.kind = .gate then 1 else 0) + gates points := by
  unfold gates
  rw [List.filter_cons]
  by_cases inside : point.kind = .gate
  · rw [if_pos (decide_eq_true inside), if_pos inside, List.length_cons, Nat.add_comm]
  · rw [if_neg (by rw [decide_eq_true_eq]; exact inside), if_neg inside, Nat.zero_add]

/-- Nobody goes through the gate twice. -/
structure Gated (tasks : Tasks Connection ConnectionPoint Empty) : Prop where
  single : gates tasks.ready + tasks.shared.spent ≤ 1
  granted : ∀ point ∈ tasks.ready, point.kind = .message → tasks.shared.access = some true

theorem Keeps.spent_le {result : Result} (keeps : Keeps connection own result) :
    result.1.spent ≤ connection.spent := by
  unfold spent
  rw [keeps.access]
  cases present : connection.client.token with
  | none =>
      rw [if_pos Option.isNone_none]
      split <;> omega
  | some token =>
      have still := keeps.token (by rw [present]; rfl)
      rw [if_neg (by rw [← Option.not_isSome, still]; exact Bool.false_ne_true)]
      omega

theorem Keeps.gates_le {result : Result} (keeps : Keeps connection own result) :
    gates result.2.points ≤ if own = .gate then 1 else 0 := by
  cases rests : result.2 with
  | point next =>
      change gates [next] ≤ _
      rw [gates_cons, keeps.kind next rests]
      exact le_rfl
  | done => exact Nat.zero_le _
  | locked guarded => exact guarded.elim

/-- A piece that is not the verdict. A piece of the gate has the one way through it. -/
theorem Gated.park {others : Tasks Connection ConnectionPoint Empty} {result : Result}
    (single : gates others.ready + (if own = .gate then 1 else 0) + connection.spent ≤ 1)
    (granted : ∀ point ∈ others.ready, point.kind = .message → connection.access = some true)
    (keeps : Keeps connection own result)
    (admitted : own = .message → (∃ next, result.2 = .point next) →
      connection.access = some true) :
    Gated (others.park result) := by
  refine ⟨?_, ?_⟩
  · have opened := keeps.gates_le
    have left := keeps.spent_le
    rw [Tasks.park_ready, Tasks.park_shared, gates_append]
    omega
  · intro point member kind
    rw [Tasks.park_shared, keeps.access]
    rcases (Tasks.mem_park_ready _ _).mp member with old | new
    · exact granted point old kind
    · exact admitted ((keeps.kind point new).symm.trans kind) ⟨point, new⟩

theorem acceptSession_keeps (token : AuthToken) (session : Option SessionInfo) :
    Keeps connection .gate (connection.acceptSession token session) := by
  unfold acceptSession
  split
  · exact .of_done rfl rfl
  · refine ⟨rfl, fun present => present, ?_⟩
    rintro _ ⟨⟩
    rfl

theorem checkAccess_keeps (token : AuthToken) (session : SessionInfo) (answer : ConnectionAnswer) :
    Keeps connection .gate (connection.checkAccess token session answer) := by
  unfold checkAccess
  split
  · exact .of_done rfl rfl
  · split
    · exact .of_done rfl rfl
    · exact .of_point rfl rfl rfl

theorem join_leaves (object : Nat) (verdict : Bool) (now : Int) :
    (connection.join object verdict now).1.access = some verdict ∧
    (connection.client.token.isSome = true →
      (connection.join object verdict now).1.client.token.isSome = true) ∧
    ∀ next, (connection.join object verdict now).2 = .point next → next.kind = .other := by
  unfold join
  dsimp only
  split
  · exact ⟨rfl, fun present => present, fun next rests => by cases rests⟩
  · have asks := @makeRoomRequest_keeps
      ({ connection with
          access := some verdict
          client := { connection.client with
            room := (connection.objects[object]?.map Room.name).getD connection.client.room }
          }.onRoom object fun room =>
            room.holdEmptyPlaybackForJoin connection.client.isReconnect now)
      ⟨.join { connection.client with
          room := (connection.objects[object]?.map Room.name).getD connection.client.room
          }.getClientInfo connection.client.isReconnect, .join⟩
    exact ⟨asks.access, asks.token, asks.kind⟩

end Connection

/-- The message makes a request of the room or touches its voice state. -/
def ClientMessage.reaches : ClientMessage → Bool
  | .ping | .kickme _ | .signal _ => false
  | _ => true

namespace Connection

/-- Such a message begins only for a client that has been let in. -/
def admits : Guard Connection ConnectionCall ConnectionAnswer ConnectionPoint Empty where
  call asked _ connection :=
    match asked with
    | .message message =>
        !(message.reaches && connection.listens) || decide (connection.access = some true)
    | _ => true

variable {connection : Connection} {tasks : Tasks Connection ConnectionPoint Empty}
  {label : TaskLabel ConnectionCall ConnectionAnswer}

/-- A message that does not reach the room, or is not listened to, is over at once. -/
theorem onData_unreaching {message : ClientMessage}
    (idle : (message.reaches && connection.listens) = false) (answer : ConnectionAnswer) :
    (connection.onData message answer).2 = .done ∧
      (connection.onData message answer).1.objects = connection.objects ∧
      (connection.onData message answer).1.voice = connection.voice := by
  unfold onData
  split
  · rename_i listens
    rw [listens, Bool.and_true] at idle
    unfold onClientMessage
    dsimp only
    split
    · exact ⟨rfl, rfl, rfl⟩
    · cases message with
      | ping => exact ⟨rfl, rfl, rfl⟩
      | kickme reason => exact ⟨rfl, rfl, rfl⟩
      | signal recipient => exact ⟨rfl, rfl, rfl⟩
      | _ => cases idle
  · exact ⟨rfl, rfl, rfl⟩

/-- A token is taken: the one way through the gate is spent on it. -/
theorem Gated.auth (gated : Gated tasks) (token : AuthToken) :
    Gated (tasks.park (tasks.shared.auth token)) := by
  unfold Connection.auth
  split
  · have refused : Keeps tasks.shared .other (tasks.shared.kick .missingToken, .done) :=
      .of_done rfl rfl
    exact .park (by simpa using gated.single) gated.granted refused fun same => by cases same
  · rename_i accepted
    rw [not_or, not_or, not_not] at accepted
    have before := gated.single
    unfold spent at before
    rw [accepted.2.2, if_pos Option.isNone_none] at before
    refine ⟨?_, ?_⟩
    · rw [Tasks.park_ready, Tasks.park_shared, gates_append]
      change gates tasks.ready + 1 + (0 + if tasks.shared.access.isSome then 1 else 0) ≤ 1
      omega
    · intro point member kind
      rw [Tasks.park_shared]
      rcases (Tasks.mem_park_ready _ _).mp member with old | new
      · exact gated.granted point old kind
      · cases new
        cases kind

/-- An event begins. -/
theorem Gated.call (gated : Gated tasks) {asked : ConnectionCall} {answer : ConnectionAnswer}
    (met : admits.call asked answer tasks.shared = true) :
    Gated (tasks.park (program.call asked answer tasks.shared)) := by
  have outside : ∀ result : Result, Keeps tasks.shared .other result →
      Gated (tasks.park result) := by
    intro result keeps
    exact .park (by simpa using gated.single) gated.granted keeps fun same => by cases same
  cases asked with
  | auth token => exact gated.auth token
  | reauthenticate token =>
      refine outside _ ?_
      change Keeps tasks.shared .other (tasks.shared.reauthenticate token)
      unfold reauthenticate
      split
      · exact .of_done rfl rfl
      · exact .of_point rfl rfl rfl
  | message message =>
      have keeps : Keeps tasks.shared .message (tasks.shared.onData message answer) :=
        onData_keeps message answer
      refine .park (by simpa using gated.single) gated.granted keeps ?_
      rintro _ ⟨point, rests⟩
      have admitted : (!(message.reaches && tasks.shared.listens) ||
          decide (tasks.shared.access = some true)) = true := met
      rw [Bool.or_eq_true, Bool.not_eq_true', decide_eq_true_eq] at admitted
      refine admitted.resolve_left fun idle => ?_
      have ended : (program.call (.message message) answer tasks.shared).2 = .done :=
        (onData_unreaching idle answer).1
      rw [ended] at rests
      cases rests
  | kick code => exact outside _ (.of_done rfl rfl)
  | disconnect => exact outside _ onClientDisconnect_keeps
  | outside => exact outside _ (.of_done rfl rfl)

/-- With a way through the gate open nothing was resolved yet, and the token is there. -/
theorem unspent (nothing : connection.spent = 0) :
    connection.access = none ∧ connection.client.token.isSome = true := by
  unfold spent at nothing
  constructor
  · cases resolved : connection.access with
    | none => rfl
    | some earlier =>
        rw [resolved, if_pos (show (some earlier).isSome = true from rfl)] at nothing
        omega
  · cases held : connection.client.token with
    | none =>
        rw [held, if_pos Option.isNone_none] at nothing
        omega
    | some token => rfl

/-- The verdict: it is the first one, so no message was on its way, and it closes the gate. -/
theorem Gated.join {others : Tasks Connection ConnectionPoint Empty} (object : Nat) (verdict : Bool)
    (now : Int) (single : gates others.ready + 1 + connection.spent ≤ 1)
    (granted : ∀ point ∈ others.ready, point.kind = .message → connection.access = some true) :
    Gated (others.park (connection.join object verdict now)) := by
  obtain ⟨access, token, kind⟩ := @join_leaves connection object verdict now
  have nothing : connection.spent = 0 := by omega
  obtain ⟨unresolved, present⟩ := unspent nothing
  refine ⟨?_, ?_⟩
  · have passed : gates (connection.join object verdict now).2.points = 0 := by
      cases rests : (connection.join object verdict now).2 with
      | point next =>
          change gates [next] = 0
          rw [gates_cons, kind next rests, if_neg nofun]
          rfl
      | done => rfl
      | locked guarded => exact guarded.elim
    have closed : (connection.join object verdict now).1.spent = 1 := by
      unfold spent
      rw [access, ← Option.not_isSome, token present]
      rfl
    rw [Tasks.park_ready, Tasks.park_shared, gates_append, passed, closed]
    omega
  · intro other member message
    rcases (Tasks.mem_park_ready _ _).mp member with old | new
    · have before := granted other old message
      rw [unresolved] at before
      cases before
    · rw [kind other new] at message
      cases message

/-- A handler in the gate goes on. -/
theorem Gated.within {others : Tasks Connection ConnectionPoint Empty} {point : ConnectionPoint}
    (inside : point.kind = .gate) (answer : ConnectionAnswer)
    (single : gates others.ready + 1 + connection.spent ≤ 1)
    (granted : ∀ point ∈ others.ready, point.kind = .message → connection.access = some true) :
    Gated (others.park (connection.resume point answer)) := by
  have passed : ∀ result : Result, Keeps connection .gate result →
      Gated (others.park result) := by
    intro result keeps
    exact .park (by rw [if_pos rfl]; exact single) granted keeps fun same => by cases same
  cases point with
  | authenticating token => exact passed _ (acceptSession_keeps token answer.session)
  | joining token session =>
      refine passed _ ?_
      change Keeps connection .gate (if answer.rejects then _ else _)
      split
      · exact failJoin_keeps
      · exact checkAccess_keeps token session answer
  | checking object verdict =>
      change Gated (others.park (if answer.rejects then connection.failJoin
        else connection.join object verdict answer.env.now))
      split
      · exact passed _ failJoin_keeps
      · exact .join object verdict answer.env.now single granted
  | finding asked => exact absurd inside asked.kind_ne_gate
  | identifying asked object auth => exact absurd inside asked.kind_ne_gate
  | naming asked object auth userId => exact absurd inside asked.kind_ne_gate
  | processing asked object context => exact absurd inside asked.kind_ne_gate
  | _ => cases inside

theorem Gated.next (gated : Gated tasks) (possible : Program.Enabled tasks label)
    (met : admits.allows tasks label = true) : Gated (program.next label tasks) := by
  rcases program.next_cases possible with ⟨asked, answer, rfl, next⟩ |
    ⟨earlier, point, later, answer, rfl, split, next⟩ | ⟨guarded, rest, answer, rfl, first, next⟩
  · rw [next]
    exact gated.call met
  · rw [next]
    have single := gated.single
    have granted := gated.granted
    rw [split, gates_append, gates_cons] at single
    have others : gates (earlier ++ later) = gates earlier + gates later :=
      gates_append earlier later
    have grantedOthers : ∀ other ∈ earlier ++ later, other.kind = .message →
        tasks.shared.access = some true := by
      intro other member
      refine granted other ?_
      rw [split]
      exact List.mem_append.mpr ((List.mem_append.mp member).imp_right (List.mem_cons_of_mem _))
    by_cases inside : point.kind = .gate
    · rw [if_pos inside] at single
      have left : gates (earlier ++ later) + 1 + tasks.shared.spent ≤ 1 := by omega
      exact .within inside answer left grantedOthers
    · have left : gates (earlier ++ later) + (if point.kind = .gate then 1 else 0) +
          tasks.shared.spent ≤ 1 := by omega
      refine .park left grantedOthers (resume_keeps inside answer) ?_
      intro same _
      refine granted point ?_ same
      rw [split]
      exact List.mem_append_right _ (List.mem_cons_self ..)
  · exact guarded.elim

theorem gated_of_reachable
    (reachable : (system.restrict fun tasks label => admits.allows tasks label = true).Reachable
      tasks) : Gated tasks := by
  refine TransitionSystem.Inductive.of_reachable ⟨?_, ?_⟩ reachable
  · rintro _ ⟨connection, fresh, rfl⟩
    refine ⟨?_, fun point member => by cases member⟩
    change 0 + connection.spent ≤ 1
    unfold spent
    rw [fresh.token, fresh.access]
    exact le_rfl
  · rintro before label after gated ⟨met, possible, rfl⟩
    exact gated.next possible met

/-- The label runs a piece of `onClientMessage`. -/
def runsMessage (tasks : Tasks Connection ConnectionPoint Empty) :
    TaskLabel ConnectionCall ConnectionAnswer → Bool
  | .call (.message _) _ => true
  | .resume index _ => tasks.ready[index]?.any fun point => decide (point.kind = .message)
  | _ => false

/-- No message changes a room or the voice state before access was granted, or after it was
refused, as long as those that reach the room begin once it was granted. -/
theorem no_message_before_access
    (reachable : (system.restrict fun tasks label => admits.allows tasks label = true).Reachable
      tasks)
    (possible : Program.Enabled tasks label) (met : admits.allows tasks label = true)
    (ofMessage : runsMessage tasks label = true) (outside : tasks.shared.access ≠ some true) :
    (program.next label tasks).shared.objects = tasks.shared.objects ∧
      (program.next label tasks).shared.voice = tasks.shared.voice := by
  have gated := gated_of_reachable reachable
  rcases program.next_cases possible with ⟨asked, answer, rfl, next⟩ |
    ⟨earlier, point, later, answer, rfl, split, next⟩ | ⟨guarded, rest, answer, rfl, first, next⟩
  · cases asked with
    | message message =>
        have admitted : (!(message.reaches && tasks.shared.listens) ||
            decide (tasks.shared.access = some true)) = true := met
        rw [decide_eq_false outside, Bool.or_false, Bool.not_eq_true'] at admitted
        rw [next, Tasks.park_shared]
        exact (onData_unreaching admitted answer).2
    | _ => cases ofMessage
  · have there : point ∈ tasks.ready := by
      rw [split]
      exact List.mem_append_right _ (List.mem_cons_self ..)
    have kind : point.kind = .message := by
      unfold runsMessage at ofMessage
      dsimp only at ofMessage
      rw [split, List.getElem?_append_right (Nat.le_refl _), Nat.sub_self,
        List.getElem?_cons_zero] at ofMessage
      exact of_decide_eq_true ofMessage
    exact absurd (gated.granted point there kind) outside
  · exact guarded.elim

end Connection

namespace Sample

/-- A locked room, loaded, and a client without a grant that has just connected to it. -/
def newcomer : Tasks Connection ConnectionPoint Empty where
  shared :=
    { client := { id := "guest", room := "lounge" }
      objects := [Room.new { name := some "lounge", passwordHash := some (some "hash") } 0] }

theorem newcomer_reachable (condition : Tasks Connection ConnectionPoint Empty →
    TaskLabel ConnectionCall ConnectionAnswer → Prop) :
    (Connection.system.restrict condition).Reachable newcomer :=
  TransitionSystem.Reachable.initial ⟨_, ⟨rfl, rfl, rfl, rfl, rfl, rfl⟩, rfl⟩

/-- The client authenticates and at once asks the room to play. -/
def playAtOnce : List (TaskLabel ConnectionCall ConnectionAnswer) :=
  [.call (.auth "token") {}, .resume 0 { session := some (.guest "anonymous") },
    .call (.message (.req (some (.playback true)))) {}, .resume 1 { getRoom := some 0 },
    .resume 1 { session := some (.guest "anonymous") }]

/-- The same after the room was found and the client refused; its socket is still open. -/
def playAnyway : List (TaskLabel ConnectionCall ConnectionAnswer) :=
  [.call (.auth "token") {}, .resume 0 { session := some (.guest "anonymous") },
    .resume 0 { getRoom := some 0 }, .resume 0 {},
    .call (.message (.req (some (.playback true)))) {}, .resume 0 { getRoom := some 0 },
    .resume 0 { session := some (.guest "anonymous") }]

/-- The state such a run ends in. -/
def newcomerAfter (labels : List (TaskLabel ConnectionCall ConnectionAnswer)) :
    Tasks Connection ConnectionPoint Empty :=
  TransitionSystem.run Connection.program.next labels newcomer

theorem newcomerAfter_reachable {labels : List (TaskLabel ConnectionCall ConnectionAnswer)}
    (possible : TransitionSystem.runs Connection.program.next
      (fun tasks label => Program.Enabled tasks label ∧ True) labels newcomer = true) :
    Connection.system.Reachable (newcomerAfter labels) := by
  have run := Connection.program.steps_run Connection.Fresh (fun _ _ => True) labels newcomer possible
  exact ((newcomer_reachable fun _ _ => True).steps run).of_restrict

end Sample

/-- A message of a client that has not authenticated closes it and leaves the room alone. -/
theorem Connection.no_message_before_auth :
    let label : TaskLabel ConnectionCall ConnectionAnswer :=
      .call (.message (.req (some (.playback true)))) {}
    (program.next label Sample.newcomer).shared.kicks = [.missingToken] ∧
    (program.next label Sample.newcomer).shared.objects = Sample.newcomer.shared.objects ∧
    (program.next label Sample.newcomer).shared.voice = Sample.newcomer.shared.voice :=
  ⟨rfl, no_message_before_access (Sample.newcomer_reachable _) trivial (by decide +kernel)
    (by decide +kernel) (by decide +kernel)⟩

/-- A request of a client without a grant starts the locked room, before its access is decided and
after it was refused. -/
theorem Connection.stranger_plays_locked_room :
    (∀ labels ∈ [Sample.playAtOnce, Sample.playAnyway],
      system.Reachable (Sample.newcomerAfter labels)) ∧
    (Sample.newcomerAfter Sample.playAtOnce).shared.access = none ∧
    (Sample.newcomerAfter Sample.playAnyway).shared.access = some false ∧
    ∃ early late : TaskLabel ConnectionCall ConnectionAnswer,
      Program.Enabled (Sample.newcomerAfter Sample.playAtOnce) early ∧
      runsMessage (Sample.newcomerAfter Sample.playAtOnce) early = true ∧
      ((program.next early (Sample.newcomerAfter Sample.playAtOnce)).shared.objects.map
        fun room => room.isPlaying) = [true] ∧
      ((Sample.newcomerAfter Sample.playAtOnce).shared.objects.map fun room => room.isPlaying) =
        [false] ∧
      Program.Enabled (Sample.newcomerAfter Sample.playAnyway) late ∧
      runsMessage (Sample.newcomerAfter Sample.playAnyway) late = true ∧
      ((program.next late (Sample.newcomerAfter Sample.playAnyway)).shared.objects.map
        fun room => room.isPlaying) = [true] ∧
      ((Sample.newcomerAfter Sample.playAnyway).shared.objects.map fun room => room.isPlaying) =
        [false] := by
  refine ⟨?_, by decide +kernel, by decide +kernel, .resume 1 {}, .resume 0 {},
    by decide +kernel, by decide +kernel, by decide +kernel, by decide +kernel,
    by decide +kernel, by decide +kernel, by decide +kernel, by decide +kernel⟩
  intro labels member
  refine Sample.newcomerAfter_reachable ?_
  revert labels
  decide +kernel

end OpenTogetherTube
