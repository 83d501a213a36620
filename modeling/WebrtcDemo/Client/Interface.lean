import WebrtcDemo.Client.Manager
import WebrtcDemo.Lib.Machine

/-!
# WebrtcInterface.cpp, and the events of a run

What can happen to a client from outside: the user's operations, what the socket
reports, and what the WebRTC library reports of its streams. `step` handles one
event; a run is a list of them, handled in order by the one thread of the
program.
-/

namespace WebrtcDemo

namespace WebRTCInterface

section
variable (env : Env) (s : Client)

def LeaveVideoRoom : Client :=
  JanusVideoRoomManager.LeaveVideoRoom (ConferenceManager.LeaveVideoRoom s)

def JoinDataChannelRoom (dataChannelRoomID : Int32) (userName : String) : Client :=
  JanusVideoRoomManager.JoinTextRoom env
    (ConferenceManager.SetTextRoomIDAndDisplayName s dataChannelRoomID userName) dataChannelRoomID

/-- Send on the local data channel, through a reference that may be null. -/
def SendMessage (message : String) : Client :=
  let transaction := env.random s.draws
  let s := s.drawn
  match s.conference.LocalStream_DataChannels with
  | some stream =>
    WebrtcStreamDataChannels.SendDataViaDataChannel s stream
      (.message transaction s.conference.mTextRoomID message)
  | none => { s with fault := some .nullPointer }

end

end WebRTCInterface

/-- One event. `leaveTextRoom` is the manager's own operation; the interface does not
call it. -/
inductive Input where
  | socketConnected
  | heartBeatMessage
  | receivedMessage (message : Option Json)
  | setVideoWindows (remoteWindowID : List WindowId)
  | joinVideoRoom (videoRoomID : Int32) (userName : String)
  | leaveVideoRoom
  | joinDataChannelRoom (dataChannelRoomID : Int32) (userName : String)
  | leaveTextRoom
  | createVideoRoom (roomId : Int32)
  | createTextRoom (roomId : Int32)
  | destoryVideoRoom (roomId : Int32)
  | destoryTextRoom (roomId : Int32)
  | sendMessage (message : String)
  | localSDP (id : Int) (sdp type : String)
  | localIceCandidate (id : Int) (candidate : iceCandidate)
  | iceGatheringComplete (id : Int)
  | dataChannelOpen (stream : Ptr)

/-- Handle one event. -/
def step (env : Env) (s : Client) : Input → Client
  | .socketConnected => JanusVideoRoomManager.onSocketConnected env s
  | .heartBeatMessage => JanusVideoRoomManager.onWebSocketHeartBeatMessage env s
  | .receivedMessage message => JanusVideoRoomManager.onWebSocketReceivedMessage env s message
  | .setVideoWindows remoteWindowID => ConferenceManager.SetVideoWindows s remoteWindowID
  | .joinVideoRoom videoRoomID userName =>
    JanusVideoRoomManager.JoinVideoRoom env s videoRoomID userName
  | .leaveVideoRoom => WebRTCInterface.LeaveVideoRoom s
  | .joinDataChannelRoom dataChannelRoomID userName =>
    WebRTCInterface.JoinDataChannelRoom env s dataChannelRoomID userName
  | .leaveTextRoom => JanusVideoRoomManager.LeaveTextRoom s
  | .createVideoRoom roomId => JanusVideoRoomManager.CreateVideoRoom env s roomId
  | .createTextRoom roomId => JanusVideoRoomManager.CreateTextRoom env s roomId
  | .destoryVideoRoom roomId => JanusVideoRoomManager.DestoryVideoRoom env s roomId
  | .destoryTextRoom roomId => JanusVideoRoomManager.DestoryTextRoom env s roomId
  | .sendMessage message => WebRTCInterface.SendMessage env s message
  | .localSDP id sdp type => ConferenceManager.onLocalSDP env s id sdp type
  | .localIceCandidate id candidate => ConferenceManager.onLocalIceCandidate env s id candidate
  | .iceGatheringComplete id => ConferenceManager.onIceGatheringComplete env s id
  | .dataChannelOpen stream => WebrtcStreamDataChannels.OnStateChange env s stream

/-- The state after a run from the start. -/
abbrev after (env : Env) (is : List Input) : Client :=
  Machine.run (step env) (Client.initial env) is

theorem after_append (env : Env) (is js : List Input) :
    after env (is ++ js) = Machine.run (step env) (after env is) js :=
  Machine.run_append _ _ _ _

theorem after_concat (env : Env) (is : List Input) (i : Input) :
    after env (is ++ [i]) = step env (after env is) i :=
  after_append env is [i]

end WebrtcDemo
