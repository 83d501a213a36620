import WebrtcDemo.Client.Interface
import WebrtcDemo.Lib.Timer

/-!
# JanusWebSocket.cpp

The socket with its two timers, and the client behind it, in discrete time. A timer fires
when it is due and time waits for it; two that are due at one instant fire in either
order. What the client asks of its socket while it handles an event is done in the order
it is asked. With each keepalive that was sent and not acknowledged goes the instant it was
sent at, and every run of `onPingTimeout` is recorded.
-/

namespace WebrtcDemo

/-- `QAbstractSocket::SocketState`, as far as a web socket shows it. -/
inductive SocketState where
  | UnconnectedState
  | ConnectingState
  | ConnectedState
  | ClosingState
  deriving DecidableEq

structure JanusWebSocket where
  state : SocketState := .UnconnectedState
  pPingTimer : Timer := {}
  pPingTimeOutTimer : Timer := {}
  deriving DecidableEq

namespace JanusWebSocket

/-- Milliseconds between two pings. -/
def pingInterval : Nat := 25000

/-- Milliseconds until a ping has failed. -/
def pingTimeout : Nat := 60000

section
variable (w : JanusWebSocket) (now : Nat)

/-- `QWebSocket::close`, unless the socket is unconnected. The end of the connection is
reported later. -/
def closeSocket : JanusWebSocket :=
  if w.state ≠ .UnconnectedState then { w with state := .ClosingState } else w

def Open : JanusWebSocket :=
  { w with
    state := .ConnectingState
    pPingTimer := w.pPingTimer.start now pingInterval }

def Close : JanusWebSocket :=
  let w := w.closeSocket
  { w with
    pPingTimer := w.pPingTimer.stop
    pPingTimeOutTimer := w.pPingTimeOutTimer.stop }

def ResetTimer : JanusWebSocket :=
  { w with pPingTimeOutTimer := w.pPingTimeOutTimer.stop.restart now }

/-- `onPingTimer`, and whether it calls the client for a keepalive. -/
def onPingTimer : JanusWebSocket × Bool :=
  if w.state = .ConnectedState then
    (if w.pPingTimeOutTimer.isActive then w
      else { w with pPingTimeOutTimer := w.pPingTimeOutTimer.start now pingTimeout }, true)
  else ({ w with pPingTimeOutTimer := w.pPingTimeOutTimer.stop }, false)

/-- `onPingTimeout`; nobody registers to be called back. -/
def onPingTimeout : JanusWebSocket :=
  let w := w.closeSocket
  { w with
    pPingTimer := w.pPingTimer.stop
    pPingTimeOutTimer := w.pPingTimeOutTimer.stop }

/-- What an effect of the client asks of the socket. -/
def heed (e : Effect) : JanusWebSocket :=
  match e with
  | .resetTimer => w.ResetTimer now
  | _ => w

end

end JanusWebSocket

/-- The transaction of a keepalive that was sent. -/
def Effect.keepalive? : Effect → Option String
  | .sent _ m => if m.request = .keepalive then some m.transaction else none
  | _ => none

/-- The transaction that a message acknowledges. -/
def Input.acked? : Input → Option String
  | .receivedMessage (some object) =>
    if object.text "janus" = "ack" then some (object.text "transaction") else none
  | _ => none

/-- The events that the socket tells the client of. -/
def Input.isSocket : Input → Bool
  | .socketConnected | .heartBeatMessage | .receivedMessage _ => true
  | _ => false

/-- A socket and its client. -/
structure Link where
  now : Nat := 0
  socket : JanusWebSocket := {}
  client : Client
  unacked : List (String × Nat) := []
  timeouts : List Nat := []

/-- What can happen: the socket is opened or closed, it reports, time passes, a timer fires,
or the client is told something else. -/
inductive LinkInput where
  | Open
  | Close
  | connected
  | disconnected
  | elapse (duration : Nat)
  | pingTimer
  | pingTimeout
  | message (message : Option Json)
  | told (i : Input)

def LinkInput.isOpen : LinkInput → Bool
  | .Open => true
  | _ => false

namespace Link

/-- A socket just constructed, with its client. -/
def initial (env : Env) : Link := { client := Client.initial env }

section
variable (env : Env) (l : Link)

/-- What the client does when it handles an event. -/
def effects (i : Input) : List Effect := (step env l.client i).log.drop l.client.log.length

/-- The client handles an event, and the socket does what it is asked. -/
def handle (i : Input) : Link :=
  { l with
    client := WebrtcDemo.step env l.client i
    socket := (l.effects env i).foldl (fun w e => w.heed l.now e) l.socket
    unacked := l.unacked.filter (fun sent => i.acked? ≠ some sent.1) ++
      ((l.effects env i).filterMap Effect.keepalive?).map (·, l.now) }

/-- The web socket is connected, if it was about to. -/
def onConnected : Link :=
  if l.socket.state = .ConnectingState then
    handle env { l with socket := { l.socket with state := .ConnectedState } } .socketConnected
  else l

/-- The client does nothing when the connection ends. -/
def onDisconnected : Link := { l with socket := { l.socket with state := .UnconnectedState } }

/-- Time passes, unless a timer is due first. -/
def elapse (duration : Nat) : Link :=
  if l.socket.pPingTimer.Waits (l.now + duration) ∧
      l.socket.pPingTimeOutTimer.Waits (l.now + duration) then
    { l with now := l.now + duration }
  else l

/-- The ping timer fires if it is due, and runs on. -/
def firePing : Link :=
  if l.socket.pPingTimer.fires l.now then
    let socket := { l.socket with pPingTimer := l.socket.pPingTimer.restart l.now }
    let (socket, keepalive) := socket.onPingTimer l.now
    let l := { l with socket }
    if keepalive then l.handle env .heartBeatMessage else l
  else l

/-- The timeout timer fires if it is due. -/
def fireTimeout : Link :=
  if l.socket.pPingTimeOutTimer.fires l.now then
    { l with
      socket := l.socket.onPingTimeout
      timeouts := l.timeouts ++ [l.now] }
  else l

/-- Handle one event. -/
def step : LinkInput → Link
  | .Open => { l with socket := l.socket.Open l.now }
  | .Close => { l with socket := l.socket.Close }
  | .connected => l.onConnected env
  | .disconnected => l.onDisconnected
  | .elapse duration => l.elapse duration
  | .pingTimer => l.firePing env
  | .pingTimeout => l.fireTimeout
  | .message message => l.handle env (.receivedMessage message)
  | .told i => if i.isSocket then l else l.handle env i

end

end Link

end WebrtcDemo
