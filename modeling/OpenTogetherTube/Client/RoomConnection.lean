import Mathlib.Data.Rat.Floor
import OpenTogetherTube.Lib.Transition

/-!
# The client's connection to a room

Embeds `OttRoomConnectionReal` of `client/src/plugins/connection.ts`. Sockets are numbered in
the order in which they are opened. A timer field holds the timer while it is pending: what
the source still has in it after the timer fired is read by `clearTimeout` only. Handlers of
dispatched events return. A message handler comes last in `onMessage`, so a call it makes
into the connection is a call that follows.
-/

namespace OpenTogetherTube

/-- Why there is no connection at present. -/
inductive ConnectionIssue where
  | timeout
  | network
deriving DecidableEq

inductive ConnectionEvent where
  | connected
  | disconnected
  | kicked (reason : Nat)
deriving DecidableEq

/-- What a socket is opened for. -/
structure SocketUrl where
  roomName : String
  resumes : Bool
deriving DecidableEq

/-- What a message of the server is to `onMessage`. -/
inductive ServerData where
  | binary
  | unreadable
  | pong
  | sync (named : Bool)
  | other
deriving DecidableEq

/-- What the browser does during a call: whether a new socket can be made, whether the socket
is open and sends, whether the page is hidden, and the random number of a delay. -/
structure Browser where
  opens : Bool := true
  isOpen : Bool := true
  sends : Bool := true
  hidden : Bool := false
  random : ℚ := 1 / 2

/-- `OttWebsocketError.UNKNOWN`. -/
def unknownError : Nat := 4000

def maxUnknownReconnects : Nat := 2

def maxUnansweredProbes : Nat := 2

def getReconnectDelayMs (reconnectAttempts reconnectDelay reconnectDelayIncrease : Nat)
    (randomValue : ℚ) : ℤ :=
  let baseDelay : ℚ := reconnectDelay + reconnectDelayIncrease * reconnectAttempts
  min 30000 ⌊baseDelay * (1 / 2 + randomValue) + 1 / 2⌋

/-- `OttRoomConnectionReal`. -/
structure OttRoomConnection where
  active : Bool := false
  reconnecting : Bool := false
  connected : Bool := false
  roomName : String := ""
  reconnectAttempts : Nat := 0
  kickReason : Option Nat := none
  issue : Option ConnectionIssue := none
  /-- The present socket. -/
  socket : Option Nat := none
  /-- The sockets opened so far. -/
  sockets : List SocketUrl := []
  /-- The delay of the pending retry. -/
  reconnectTimeout : Option ℤ := none
  /-- The socket that the pending connect timer was set for. -/
  connectTimeout : Option Nat := none
  latencyTimer : Bool := false
  unansweredProbes : Nat := 0
  /-- Whether the window listeners are set. -/
  listening : Bool := false
  dispatched : List ConnectionEvent := []
deriving DecidableEq

namespace OttRoomConnection

variable (browser : Browser) (connection : OttRoomConnection)

def dispatchEvent (event : ConnectionEvent) : OttRoomConnection :=
  { connection with dispatched := connection.dispatched ++ [event] }

def clearTimers : OttRoomConnection :=
  { connection with connectTimeout := none, reconnectTimeout := none }

def stopLatencyProbes : OttRoomConnection := { connection with latencyTimer := false }

def closeSocket : OttRoomConnection :=
  { connection.stopLatencyProbes with socket := none }

def removeWindowListeners : OttRoomConnection := { connection with listening := false }

def getReconnectDelay : ℤ :=
  getReconnectDelayMs connection.reconnectAttempts 1000 2000 browser.random

/-- Sets the timer of the next retry. -/
def scheduleReconnect : OttRoomConnection :=
  { connection with reconnectTimeout := some (connection.getReconnectDelay browser) }

def failConnection (issue : ConnectionIssue) : OttRoomConnection :=
  let closed := { connection.clearTimers.closeSocket with connected := false }
  if closed.active then
    ({ closed with issue := some issue, reconnecting := true }.dispatchEvent
      .disconnected).scheduleReconnect browser
  else closed

def doConnect (resumes : Bool) : OttRoomConnection :=
  let closed := { connection.clearTimers.closeSocket with connected := false }
  if browser.opens then
    { closed with
      socket := some closed.sockets.length
      sockets := closed.sockets ++ [⟨closed.roomName, resumes⟩]
      connectTimeout := some closed.sockets.length }
  else closed.failConnection browser .network

def connect (roomName : String) : OttRoomConnection :=
  if connection.active then connection
  else
    doConnect browser
      { connection with
        roomName
        active := true
        kickReason := none
        issue := none
        reconnectAttempts := 0
        listening := true }
      false

def reconnect : OttRoomConnection :=
  if connection.active then
    doConnect browser { connection with reconnectAttempts := connection.reconnectAttempts + 1 } true
  else connection

def disconnect : OttRoomConnection :=
  let stopped :=
    { connection with active := false, connected := false, reconnecting := false, issue := none }
  { stopped.clearTimers.closeSocket.removeWindowListeners with roomName := "" }

def onOpen : OttRoomConnection :=
  if browser.sends then connection else connection.failConnection browser .network

def onClose (code : Nat) : OttRoomConnection :=
  if code ≥ 4000 then
    let closed := { connection.closeSocket with connected := false }
    if code = unknownError ∧ closed.reconnectAttempts < maxUnknownReconnects then
      ({ closed.clearTimers with issue := some .network, reconnecting := true }.dispatchEvent
        .disconnected).scheduleReconnect browser
    else
      let kicked :=
        { closed.clearTimers with
          reconnecting := false, issue := none, kickReason := some code, active := false }
      (kicked.removeWindowListeners.dispatchEvent .disconnected).dispatchEvent (.kicked code)
  else if connection.active then connection.failConnection browser .network
  else connection

def sendLatencyProbe : OttRoomConnection :=
  if connection.active ∧ connection.connected ∧ connection.socket.isSome ∧ browser.isOpen then
    if connection.unansweredProbes ≥ maxUnansweredProbes then
      connection.failConnection browser .network
    else if browser.sends then
      { connection with unansweredProbes := connection.unansweredProbes + 1 }
    else connection
  else connection

def startLatencyProbes : OttRoomConnection :=
  { sendLatencyProbe browser { connection.stopLatencyProbes with unansweredProbes := 0 } with
    latencyTimer := true }

def onMessage (data : ServerData) : OttRoomConnection :=
  match data with
  | .pong => { connection with unansweredProbes := 0 }
  | .sync true =>
      if connection.connected then connection
      else
        let joined :=
          { connection.clearTimers with
            connected := true, reconnecting := false, reconnectAttempts := 0, issue := none }
        (joined.dispatchEvent .connected).startLatencyProbes browser
  | .binary | .unreadable | .sync false | .other => connection

def onOnline : OttRoomConnection :=
  if connection.active ∧ ¬ connection.connected then connection.reconnect browser else connection

def onOffline : OttRoomConnection :=
  if connection.active then connection.failConnection browser .network else connection

def onVisibilityChange : OttRoomConnection :=
  if ¬ browser.hidden ∧ connection.active ∧ ¬ connection.connected ∧ connection.issue.isSome then
    connection.reconnect browser
  else connection

end OttRoomConnection

/-- What a socket reports. -/
inductive SocketEvent where
  | opened
  | closed (code : Nat)
  | message (data : ServerData)
  | error

/-- What reaches the connection from outside. -/
inductive RoomConnectionCall where
  | connect (roomName : String)
  | disconnect
  | reconnect
  | socket (socket : Nat) (event : SocketEvent)
  | connectTimeout
  | reconnectTimeout
  | latencyTimer
  | online
  | offline
  | visibilityChange

namespace OttRoomConnection

variable (browser : Browser) (connection : OttRoomConnection)

/-- The listeners that `doConnect` adds to a socket. -/
def onSocket (socket : Nat) (event : SocketEvent) : OttRoomConnection :=
  if connection.socket = some socket then
    match event with
    | .opened => connection.onOpen browser
    | .closed code => connection.onClose browser code
    | .message data => connection.onMessage browser data
    | .error => connection.failConnection browser .network
  else connection

/-- The connection after a call. A timer that is not pending does nothing, and neither does an
event of the window that is not listened to. -/
def next : RoomConnectionCall → OttRoomConnection
  | .connect roomName => connection.connect browser roomName
  | .disconnect => connection.disconnect
  | .reconnect => connection.reconnect browser
  | .socket socket event => connection.onSocket browser socket event
  | .connectTimeout =>
      match connection.connectTimeout with
      | none => connection
      | some socket =>
          let fired := { connection with connectTimeout := none }
          if fired.socket = some socket then fired.failConnection browser .timeout else fired
  | .reconnectTimeout =>
      match connection.reconnectTimeout with
      | none => connection
      | some _ => reconnect browser { connection with reconnectTimeout := none }
  | .latencyTimer =>
      if connection.latencyTimer then connection.sendLatencyProbe browser else connection
  | .online => if connection.listening then connection.onOnline browser else connection
  | .offline => if connection.listening then connection.onOffline browser else connection
  | .visibilityChange =>
      if connection.listening then connection.onVisibilityChange browser else connection

/-- The connection in its surroundings, from its construction on. -/
def system : Lib.TransitionSystem OttRoomConnection (RoomConnectionCall × Browser) where
  Initial connection := connection = {}
  Step before label after := after = before.next label.2 label.1

end OttRoomConnection

end OpenTogetherTube
