import WebrtcDemo.Client.Logout

/-!
# The user's operations on the one client of the process

`ConferenceManager::GetInstance` constructs the client where there is none, and `Logout`
deletes it. The operations of WebrtcInterface.cpp reach the manager of the peers and the
local data-channel stream through pointers of that client; every use of one is recorded
with whether there was an object behind it.
-/

namespace WebrtcDemo

/-- The objects behind the pointers that the user's operations follow. -/
inductive Pointee where
  | ConferenceManager
  | JanusVideoRoomManager
  | LocalStream_DataChannels
  deriving DecidableEq

/-- The process: the client, whether `ConferenceManager::instance` and the client's
`pJanusVideoRoomManager` are set, and the uses of pointers so far. -/
structure Process where
  client : Client
  conferenceInstance : Bool := false
  pJanusVideoRoomManager : Bool := false
  calls : List (Pointee × Bool) := []

/-- What can happen: an operation of the user, or something reported to the client. -/
inductive ProcessInput where
  | Login
  | Logout
  | SetVideoWindows (remoteWindowID : List WindowId)
  | JoinVideoRoom (videoRoomID : Int32) (userName : String)
  | LeaveVideoRoom
  | JoinDataChannelRoom (dataChannelRoomID : Int32) (userName : String)
  | LeaveDataChannelRoom
  | CreateVideoRoom (roomId : Int32)
  | CreateTextRoom (roomId : Int32)
  | DestoryVideoRoom (roomId : Int32)
  | DestoryTextRoom (roomId : Int32)
  | SendMessage (message : String)
  | reported (i : Input)

/-- The events that are not operations: what the socket and the streams report. -/
def Input.isReport : Input → Bool
  | .socketConnected | .heartBeatMessage | .receivedMessage _ | .localSDP _ _ _
  | .localIceCandidate _ _ | .iceGatheringComplete _ | .dataChannelOpen _ => true
  | _ => false

namespace Process

/-- Before the first operation there is no client. -/
def initial (env : Env) : Process := { client := Client.initial env }

section
variable (env : Env) (p : Process)

/-- Whether there is an object behind a pointer. -/
def exists? : Pointee → Bool
  | .ConferenceManager => p.conferenceInstance
  | .JanusVideoRoomManager => p.pJanusVideoRoomManager
  | .LocalStream_DataChannels => p.client.conference.LocalStream_DataChannels.isSome

/-- Invoke a member of an object. -/
def invoke (pointee : Pointee) : Process :=
  { p with calls := p.calls ++ [(pointee, p.exists? pointee)] }

/-- `GetInstance`: where there is no client one is constructed, with its manager. -/
def GetInstance : Process :=
  if p.conferenceInstance then p
  else { p with
    client := { p.client with janus := {}, conference := { mTextRoomID := env.junkTextRoomID } }
    conferenceInstance := true
    pJanusVideoRoomManager := true }

/-- A member of `GetInstance()`. -/
def onInstance : Process := (p.GetInstance env).invoke .ConferenceManager

/-- A member of `GetInstance()->pJanusVideoRoomManager`. -/
def onManager : Process := (p.onInstance env).invoke .JanusVideoRoomManager

/-- The client handles an event. -/
def handled (i : Input) : Process := { p with client := WebrtcDemo.step env p.client i }

/-- `ConferenceManager::Login` opens the socket of the manager. -/
def Login : Process := p.onManager env

/-- `delete` of what `GetInstance` returns, the pointers set null by the destructor. -/
def Logout : Process :=
  let p := p.GetInstance env
  { p with
    client := WebRTCInterface.Logout p.client
    conferenceInstance := false
    pJanusVideoRoomManager := false }

def SetVideoWindows (remoteWindowID : List WindowId) : Process :=
  (p.onInstance env).handled env (.setVideoWindows remoteWindowID)

def JoinVideoRoom (videoRoomID : Int32) (userName : String) : Process :=
  (p.onManager env).handled env (.joinVideoRoom videoRoomID userName)

/-- First the conference manager leaves, then the manager of the peers. -/
def LeaveVideoRoom : Process := ((p.onInstance env).onManager env).handled env .leaveVideoRoom

/-- First the conference manager keeps room and name, then the manager joins. -/
def JoinDataChannelRoom (dataChannelRoomID : Int32) (userName : String) : Process :=
  ((p.onInstance env).onManager env).handled env (.joinDataChannelRoom dataChannelRoomID userName)

def LeaveDataChannelRoom : Process := p

def CreateVideoRoom (roomId : Int32) : Process :=
  (p.onManager env).handled env (.createVideoRoom roomId)

def CreateTextRoom (roomId : Int32) : Process :=
  (p.onManager env).handled env (.createTextRoom roomId)

def DestoryVideoRoom (roomId : Int32) : Process :=
  (p.onManager env).handled env (.destoryVideoRoom roomId)

def DestoryTextRoom (roomId : Int32) : Process :=
  (p.onManager env).handled env (.destoryTextRoom roomId)

/-- `GetTextRoomID`, then `GetLocalWebrtcStream_DataChannels`, and a member of what that
returns. -/
def SendMessage (message : String) : Process :=
  (((p.onInstance env).onInstance env).invoke .LocalStream_DataChannels).handled env
    (.sendMessage message)

/-- Only a client that exists is told what the socket and the streams report. -/
def reported (i : Input) : Process :=
  if p.conferenceInstance ∧ i.isReport then p.handled env i else p

/-- Handle one event. -/
def step : ProcessInput → Process
  | .Login => p.Login env
  | .Logout => p.Logout env
  | .SetVideoWindows remoteWindowID => p.SetVideoWindows env remoteWindowID
  | .JoinVideoRoom videoRoomID userName => p.JoinVideoRoom env videoRoomID userName
  | .LeaveVideoRoom => p.LeaveVideoRoom env
  | .JoinDataChannelRoom dataChannelRoomID userName =>
    p.JoinDataChannelRoom env dataChannelRoomID userName
  | .LeaveDataChannelRoom => p.LeaveDataChannelRoom
  | .CreateVideoRoom roomId => p.CreateVideoRoom env roomId
  | .CreateTextRoom roomId => p.CreateTextRoom env roomId
  | .DestoryVideoRoom roomId => p.DestoryVideoRoom env roomId
  | .DestoryTextRoom roomId => p.DestoryTextRoom env roomId
  | .SendMessage message => p.SendMessage env message
  | .reported i => p.reported env i

end

end Process

end WebrtcDemo
