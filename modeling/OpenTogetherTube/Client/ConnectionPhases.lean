import Mathlib.Logic.Basic
import OpenTogetherTube.Client.RoomConnection

/-!
# The phases of a room connection

A connection is idle, waits for its socket, waits for the next retry, or has joined. Each
phase fixes the socket and the two timers, so a connection that is wanted and not there has
a timer that will bring it back.
-/

namespace OpenTogetherTube.OttRoomConnection

/-- The phases of a connection. -/
inductive Phase (connection : OttRoomConnection) : Prop where
  | idle (active : connection.active = false) (connected : connection.connected = false)
      (socket : connection.socket = none) (connectTimeout : connection.connectTimeout = none)
      (reconnectTimeout : connection.reconnectTimeout = none)
  | connecting (present : Nat) (active : connection.active = true)
      (connected : connection.connected = false) (socket : connection.socket = some present)
      (connectTimeout : connection.connectTimeout = some present)
      (reconnectTimeout : connection.reconnectTimeout = none)
  | waiting (delay : ℤ) (active : connection.active = true)
      (connected : connection.connected = false) (socket : connection.socket = none)
      (connectTimeout : connection.connectTimeout = none)
      (reconnectTimeout : connection.reconnectTimeout = some delay)
  | joined (present : Nat) (active : connection.active = true)
      (connected : connection.connected = true) (socket : connection.socket = some present)
      (connectTimeout : connection.connectTimeout = none)
      (reconnectTimeout : connection.reconnectTimeout = none)

variable {browser : Browser} {connection : OttRoomConnection}

/-- The phase reads nothing but the two flags, the socket and the timers. -/
theorem Phase.of_same {after : OttRoomConnection} (phase : connection.Phase)
    (active : after.active = connection.active) (connected : after.connected = connection.connected)
    (socket : after.socket = connection.socket)
    (connectTimeout : after.connectTimeout = connection.connectTimeout)
    (reconnectTimeout : after.reconnectTimeout = connection.reconnectTimeout) : after.Phase := by
  cases phase with
  | idle wasActive wasConnected hadSocket hadConnect hadReconnect =>
      exact .idle (active.trans wasActive) (connected.trans wasConnected) (socket.trans hadSocket)
        (connectTimeout.trans hadConnect) (reconnectTimeout.trans hadReconnect)
  | connecting present wasActive wasConnected hadSocket hadConnect hadReconnect =>
      exact .connecting present (active.trans wasActive) (connected.trans wasConnected)
        (socket.trans hadSocket) (connectTimeout.trans hadConnect)
        (reconnectTimeout.trans hadReconnect)
  | waiting delay wasActive wasConnected hadSocket hadConnect hadReconnect =>
      exact .waiting delay (active.trans wasActive) (connected.trans wasConnected)
        (socket.trans hadSocket) (connectTimeout.trans hadConnect)
        (reconnectTimeout.trans hadReconnect)
  | joined present wasActive wasConnected hadSocket hadConnect hadReconnect =>
      exact .joined present (active.trans wasActive) (connected.trans wasConnected)
        (socket.trans hadSocket) (connectTimeout.trans hadConnect)
        (reconnectTimeout.trans hadReconnect)

/-- A failure leads to the next retry, or to rest where no connection is wanted. -/
theorem failConnection_phase (issue : ConnectionIssue) :
    (connection.failConnection browser issue).Phase := by
  unfold failConnection
  dsimp only
  split
  · next active => exact .waiting _ active rfl rfl rfl rfl
  · next inactive => exact .idle (Bool.eq_false_iff.mpr inactive) rfl rfl rfl rfl

/-- An attempt waits for its socket, or for the next retry where none can be made. -/
theorem doConnect_phase (active : connection.active = true) (resumes : Bool) :
    (connection.doConnect browser resumes).Phase := by
  unfold doConnect
  dsimp only
  split
  · exact .connecting _ active rfl rfl rfl rfl
  · exact failConnection_phase .network

theorem disconnect_phase : connection.disconnect.Phase := .idle rfl rfl rfl rfl rfl

/-- The first probe after joining finds none unanswered. -/
theorem startLatencyProbes_phase {present : Nat} (active : connection.active = true)
    (connected : connection.connected = true) (socket : connection.socket = some present)
    (connectTimeout : connection.connectTimeout = none)
    (reconnectTimeout : connection.reconnectTimeout = none) :
    (connection.startLatencyProbes browser).Phase := by
  unfold startLatencyProbes sendLatencyProbe maxUnansweredProbes
  split
  · split
    · next many => cases many
    · split
      · exact .joined present active connected socket connectTimeout reconnectTimeout
      · exact .joined present active connected socket connectTimeout reconnectTimeout
  · exact .joined present active connected socket connectTimeout reconnectTimeout

variable (phase : connection.Phase)

include phase

theorem Phase.active_of_socket {present : Nat}
    (socket : connection.socket = some present) : connection.active = true := by
  cases phase with
  | idle _ _ none_ => exact absurd (none_.symm.trans socket) (by simp)
  | connecting _ active => exact active
  | waiting _ active => exact active
  | joined _ active => exact active

theorem connect_phase (roomName : String) :
    (connection.connect browser roomName).Phase := by
  unfold connect
  split
  · exact phase
  · exact doConnect_phase rfl false

theorem reconnect_phase : (connection.reconnect browser).Phase := by
  unfold reconnect
  split
  · next active =>
      refine doConnect_phase ?_ true
      exact active
  · exact phase

theorem onOpen_phase : (connection.onOpen browser).Phase := by
  unfold onOpen
  split
  · exact phase
  · exact failConnection_phase .network

omit phase in
theorem onClose_phase (active : connection.active = true) (code : Nat) :
    (connection.onClose browser code).Phase := by
  unfold onClose
  dsimp only
  split
  · split
    · exact .waiting _ active rfl rfl rfl rfl
    · exact .idle rfl rfl rfl rfl rfl
  · exact failConnection_phase .network

theorem sendLatencyProbe_phase :
    (connection.sendLatencyProbe browser).Phase := by
  unfold sendLatencyProbe
  split
  · split
    · exact failConnection_phase .network
    · split
      · -- Only the count of probes is new.
        exact phase.of_same rfl rfl rfl rfl rfl
      · exact phase
  · exact phase

theorem onMessage_phase {present : Nat}
    (socket : connection.socket = some present) (data : ServerData) :
    (connection.onMessage browser data).Phase := by
  unfold onMessage
  split
  · exact phase.of_same rfl rfl rfl rfl rfl
  · split
    · exact phase
    · have active : connection.active = true := phase.active_of_socket socket
      exact startLatencyProbes_phase active rfl socket rfl rfl
  all_goals exact phase

theorem onSocket_phase (socket : Nat) (event : SocketEvent) :
    (connection.onSocket browser socket event).Phase := by
  unfold onSocket
  split
  · next present =>
      cases event with
      | opened => exact onOpen_phase phase
      | closed code => exact onClose_phase (phase.active_of_socket present) code
      | message data => exact onMessage_phase phase present data
      | error => exact failConnection_phase .network
  · exact phase

theorem onOnline_phase : (connection.onOnline browser).Phase := by
  unfold onOnline
  split
  · exact reconnect_phase phase
  · exact phase

theorem onOffline_phase : (connection.onOffline browser).Phase := by
  unfold onOffline
  split
  · exact failConnection_phase .network
  · exact phase

theorem onVisibilityChange_phase :
    (connection.onVisibilityChange browser).Phase := by
  unfold onVisibilityChange
  split
  · exact reconnect_phase phase
  · exact phase

/-- The connect timer is set for the present socket, so it leads to the next retry. -/
theorem connectTimeout_phase :
    (connection.next browser .connectTimeout).Phase := by
  simp only [next]
  split
  · exact phase
  · next socket pending =>
      split
      · exact failConnection_phase .timeout
      · next replaced =>
          cases phase with
          | idle _ _ _ none_ => exact absurd (none_.symm.trans pending) (by simp)
          | connecting present _ _ own set_ =>
              have same : present = socket := Option.some.inj (set_.symm.trans pending)
              exact absurd (own.trans (congrArg some same)) replaced
          | waiting _ _ _ _ none_ => exact absurd (none_.symm.trans pending) (by simp)
          | joined _ _ _ _ none_ => exact absurd (none_.symm.trans pending) (by simp)

/-- A pending retry is one of a connection that is wanted. -/
theorem reconnectTimeout_phase :
    (connection.next browser .reconnectTimeout).Phase := by
  simp only [next]
  split
  · exact phase
  · next delay pending =>
      have active : connection.active = true := by
        cases phase with
        | idle _ _ _ _ none_ => exact absurd (none_.symm.trans pending) (by simp)
        | connecting _ active => exact active
        | waiting _ active => exact active
        | joined _ active => exact active
      unfold reconnect
      rw [if_pos active]
      refine doConnect_phase ?_ true
      exact active

/-- Every call keeps the connection in one of the phases. -/
theorem next_phase (call : RoomConnectionCall) :
    (connection.next browser call).Phase := by
  have guarded {condition : Prop} [Decidable condition] {after : OttRoomConnection}
      (kept : after.Phase) : (if condition then after else connection).Phase := by
    split
    · exact kept
    · exact phase
  cases call with
  | connect roomName => exact connect_phase phase roomName
  | disconnect => exact disconnect_phase
  | reconnect => exact reconnect_phase phase
  | socket socket event => exact onSocket_phase phase socket event
  | connectTimeout => exact connectTimeout_phase phase
  | reconnectTimeout => exact reconnectTimeout_phase phase
  | latencyTimer => exact guarded (sendLatencyProbe_phase phase)
  | online => exact guarded (onOnline_phase phase)
  | offline => exact guarded (onOffline_phase phase)
  | visibilityChange => exact guarded (onVisibilityChange_phase phase)

omit phase

theorem phase_inductive : system.Inductive Phase where
  initial _ start := start ▸ .idle rfl rfl rfl rfl rfl
  preserved phase step := step ▸ next_phase phase _

/-- A connection that is wanted is there or has exactly one timer that will try again, and an
event of a socket that was replaced changes nothing. -/
theorem never_stuck (reachable : system.Reachable connection) :
    (connection.connected = true → connection.active = true ∧ connection.socket.isSome ∧
        connection.connectTimeout = none ∧ connection.reconnectTimeout = none) ∧
      (connection.active = true → connection.connected = false →
        Xor connection.connectTimeout.isSome connection.reconnectTimeout.isSome) ∧
      (connection.active = false →
        connection.connectTimeout = none ∧ connection.reconnectTimeout = none) ∧
      ∀ socket, connection.socket ≠ some socket → ∀ event browser,
        connection.next browser (.socket socket event) = connection := by
  have phase := phase_inductive.of_reachable reachable
  refine ⟨fun joined => ?_, fun wanted apart => ?_, fun unwanted => ?_,
    fun socket replaced event browser => if_neg replaced⟩
  · cases phase with
    | idle _ apart => exact absurd (apart.symm.trans joined) (by decide)
    | connecting _ _ apart => exact absurd (apart.symm.trans joined) (by decide)
    | waiting _ _ apart => exact absurd (apart.symm.trans joined) (by decide)
    | joined present active _ socket connectTimeout reconnectTimeout =>
        exact ⟨active, socket ▸ rfl, connectTimeout, reconnectTimeout⟩
  · cases phase with
    | idle unwanted => exact absurd (unwanted.symm.trans wanted) (by decide)
    | connecting present _ _ _ connectTimeout reconnectTimeout =>
        rw [connectTimeout, reconnectTimeout]
        exact Or.inl ⟨rfl, by decide⟩
    | waiting delay _ _ _ connectTimeout reconnectTimeout =>
        rw [connectTimeout, reconnectTimeout]
        exact Or.inr ⟨rfl, by decide⟩
    | joined _ _ joined => exact absurd (joined.symm.trans apart) (by decide)
  · cases phase with
    | idle _ _ _ connectTimeout reconnectTimeout => exact ⟨connectTimeout, reconnectTimeout⟩
    | connecting _ wanted => exact absurd (wanted.symm.trans unwanted) (by decide)
    | waiting _ wanted => exact absurd (wanted.symm.trans unwanted) (by decide)
    | joined _ wanted => exact absurd (wanted.symm.trans unwanted) (by decide)

/-- A room is joined, the network fails, and the retry opens a second socket. -/
def sampleCalls : List (RoomConnectionCall × Browser) :=
  [(.connect "room", {}), (.socket 0 .opened, {}), (.socket 0 (.message (.sync true)), {}),
    (.socket 0 .error, {}), (.reconnectTimeout, {})]

def sampleConnection : OttRoomConnection :=
  Lib.TransitionSystem.run (fun label before => before.next label.2 label.1) sampleCalls {}

theorem sampleConnection_reachable : system.Reachable sampleConnection := by
  have step : ∀ (before : OttRoomConnection) (label : RoomConnectionCall × Browser), True →
      system.Step before label (before.next label.2 label.1) := fun _ _ _ => rfl
  exact ⟨{}, rfl, Lib.TransitionSystem.steps_run step sampleCalls _ rfl⟩

theorem never_stuck_sample :
    sampleConnection.socket = some 1 ∧
      Xor sampleConnection.connectTimeout.isSome sampleConnection.reconnectTimeout.isSome ∧
      sampleConnection.next {} (.socket 0 (.closed 4005)) = sampleConnection := by
  have holds := never_stuck sampleConnection_reachable
  exact ⟨by decide +kernel, holds.2.1 (by decide +kernel) (by decide +kernel),
    holds.2.2.2 0 (by decide +kernel) _ _⟩

end OpenTogetherTube.OttRoomConnection
