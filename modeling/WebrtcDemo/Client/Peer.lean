import WebrtcDemo.Client.State
import Mathlib.Logic.Function.Basic

/-!
# JanusPeerConnection.cpp

A member function takes the peer it is called on and reads it through
`withPeer`, so a call on a deleted peer is a fault. The six requests that attach
to a plugin differ in the plugin, the room field they set and the continuation
they register, and the four messages that create or destroy a room differ in as
little: each is one function with parameters, applied to its own values.
-/

namespace WebrtcDemo

namespace Client

/-! ## Small steps on the state -/

def emit (s : Client) (e : Effect) : Client := { s with log := s.log ++ [e] }

/-- One more random string has been drawn. -/
def drawn (s : Client) : Client := { s with draws := s.draws + 1 }

/-- Write the fields of a peer. -/
def setPeer (s : Client) (p : Ptr) (this : JanusPeerConnection) : Client :=
  { s with peers := Function.update s.peers p (some this) }

/-- Run a member function of the peer `p`. -/
def withPeer (s : Client) (p : Ptr) (body : JanusPeerConnection → Client) : Client :=
  match s.peers p with
  | some this => body this
  | none => { s with fault := some (.deadPeer p) }

end Client

def JanusWebSocket.SendMessage (s : Client) (sender : Option Ptr) (m : Message) : Client :=
  s.emit (.sent sender m)

namespace JanusVideoRoomManager

def AddMessageSuccessCallback (s : Client) (tran : String) (func : Continuation) : Client :=
  { s with
    janus := { s.janus with
      mMessage_success_callback := s.janus.mMessage_success_callback.insert tran func }
    log := s.log ++ [.registered .success tran func] }

def AddMessageAckCallback (s : Client) (tran : String) (func : Continuation) : Client :=
  { s with
    janus := { s.janus with
      mMessage_ack_callback := s.janus.mMessage_ack_callback.insert tran func }
    log := s.log ++ [.registered .ack tran func] }

end JanusVideoRoomManager

namespace JanusPeerConnection

/-! ## Requests to attach -/

section Requests
variable (env : Env) (s : Client) (this : Ptr)

/-- Ask for a handle of `plugin`, set the room, and wait for the reply. -/
def requestAttach (plugin : Plugin) (setRoom : JanusPeerConnection → JanusPeerConnection)
    (reply : PeerMember) : Client :=
  s.withPeer this fun peer =>
    let transaction := env.random s.draws
    let s := s.drawn
    let s := JanusWebSocket.SendMessage s (some this)
      { transaction, session_id := some (castDouble peer.mSessionID), request := .attach plugin }
    let s := s.setPeer this (setRoom peer)
    JanusVideoRoomManager.AddMessageSuccessCallback s transaction (.peer this reply)

def AttachVideoRoom (roomId : UInt32) : Client :=
  requestAttach env s this .videoroom ({ · with mVideoRoomId := roomId }) .onAttachVideoRoomJoin

def AttachTextRoom (roomId : UInt32) : Client :=
  requestAttach env s this .textroom ({ · with mTextRoomId := roomId }) .onAttachTextRoomJoin

def CreateVideoRoom (roomId : Int32) : Client :=
  requestAttach env s this .videoroom ({ · with mVideoRoomId := roomId.toUInt32 })
    .onAttachVideoRoomCreate

-- the source binds the continuation of video rooms here too
def CreateTextRoom (roomId : Int32) : Client :=
  requestAttach env s this .textroom ({ · with mTextRoomId := roomId.toUInt32 })
    .onAttachVideoRoomCreate

def DestoryVideoRoom (roomId : Int32) : Client :=
  requestAttach env s this .videoroom ({ · with mVideoRoomId := roomId.toUInt32 })
    .onAttachVideoRoomDestory

def DestoryTextRoom (roomId : Int32) : Client :=
  requestAttach env s this .textroom ({ · with mTextRoomId := roomId.toUInt32 })
    .onAttachTextRoomDestory

end Requests

def SetVideoRoomDisplayName (s : Client) (this : Ptr) (name : String) : Client :=
  s.withPeer this fun peer => s.setPeer this { peer with mVideoRoomDisplayName := name }

def SetSubscribe (s : Client) (this : Ptr) (id : Int) : Client :=
  s.withPeer this fun peer => s.setPeer this { peer with mSubscribeId := id }

def SetPrivateId (s : Client) (this : Ptr) (id : Int) : Client :=
  s.withPeer this fun peer => s.setPeer this { peer with mPrivateId := id }

/-! ## Messages on a handle -/

section Messages
variable (env : Env) (s : Client) (this : Ptr)

/-- Send a `message` on the handle that `handle` reads. -/
def sendOnHandle (handle : JanusPeerConnection → Int) (body : JanusPeerConnection → Body)
    (jsep : Option Jsep) : Client :=
  s.withPeer this fun peer =>
    let transaction := env.random s.draws
    let s := s.drawn
    JanusWebSocket.SendMessage s (some this)
      { transaction, session_id := some (castDouble peer.mSessionID)
        request := .message (castDouble (handle peer)) (body peer) jsep }

/-- The body of `joinVideoRoom`. -/
def joinBody (peer : JanusPeerConnection) : Body :=
  if peer.mSubscribeId = 0 then .join peer.mVideoRoomId (.publisher peer.mVideoRoomDisplayName)
  else .join peer.mVideoRoomId
    (.subscriber (castDouble peer.mSubscribeId) (castDouble peer.mPrivateId))

def joinVideoRoom : Client := sendOnHandle env s this (·.mVideoRoomHandleID) joinBody none

def joinTextRoom : Client := sendOnHandle env s this (·.mTextRoomHandleID) (fun _ => .setup) none

/-- Send an administrative request and wait for its outcome. -/
def requestRoom (handle : JanusPeerConnection → Int) (body : JanusPeerConnection → Body)
    (outcome : PeerMember) : Client :=
  s.withPeer this fun peer =>
    let transaction := env.random s.draws
    let s := s.drawn
    let s := JanusWebSocket.SendMessage s (some this)
      { transaction, session_id := some (castDouble peer.mSessionID)
        request := .message (castDouble (handle peer)) (body peer) none }
    JanusVideoRoomManager.AddMessageSuccessCallback s transaction (.peer this outcome)

def createVideoRoom : Client :=
  requestRoom env s this (·.mVideoRoomHandleID) (fun peer => .create peer.mVideoRoomId)
    .onCreateVideoRoom

def createTextRoom : Client :=
  requestRoom env s this (·.mTextRoomHandleID) (fun peer => .create peer.mTextRoomId)
    .onCreateTextRoom

def destoryVideoRoom : Client :=
  requestRoom env s this (·.mVideoRoomHandleID) (fun peer => .destroy peer.mVideoRoomId)
    .onDestoryVideoRoom

def destoryTextRoom : Client :=
  requestRoom env s this (·.mTextRoomHandleID) (fun peer => .destroy peer.mTextRoomId)
    .onDestoryTextRoom

/-- The body of `SendSDP`. -/
def sdpBody (peer : JanusPeerConnection) : Body :=
  if peer.mSubscribeId = 0 then .configure true true else .start peer.mVideoRoomId

def SendSDP (sdp type : String) : Client :=
  sendOnHandle env s this (·.mVideoRoomHandleID) sdpBody (some { type, sdp })

def SendSDPText (sdp type : String) : Client :=
  sendOnHandle env s this (·.mTextRoomHandleID) (fun _ => .ack) (some { type, sdp })

def SendCandidate (c : iceCandidate) : Client :=
  s.withPeer this fun peer =>
    let transaction := env.random s.draws
    let s := s.drawn
    JanusWebSocket.SendMessage s (some this)
      { transaction, session_id := some (castDouble peer.mSessionID)
        request := .trickle (castDouble peer.mVideoRoomHandleID)
          (if c.sdp_mid = "end" then .completed
          else .candidate c.sdp c.sdp_mid c.sdp_mline_index) }

end Messages

/-! ## Replies -/

/-- The id a reply carries: `data.id`. -/
def replyId (recvMsg : Json) : Int := JsonValueToLongLong (recvMsg.member "data") "id"

section Replies
variable (env : Env) (s : Client) (this : Ptr) (recvMsg : Json)

def onAttachVideoRoomJoin : Client :=
  s.withPeer this fun peer =>
    joinVideoRoom env (s.setPeer this { peer with mVideoRoomHandleID := replyId recvMsg }) this

def onAttachVideoRoomCreate : Client :=
  s.withPeer this fun peer =>
    createVideoRoom env (s.setPeer this { peer with mVideoRoomHandleID := replyId recvMsg }) this

def onAttachTextRoomJoin : Client :=
  s.withPeer this fun peer =>
    joinTextRoom env (s.setPeer this { peer with mTextRoomHandleID := replyId recvMsg }) this

def onAttachTextRoomCreate : Client :=
  s.withPeer this fun peer =>
    createTextRoom env (s.setPeer this { peer with mTextRoomHandleID := replyId recvMsg }) this

def onAttachVideoRoomDestory : Client :=
  s.withPeer this fun peer =>
    destoryVideoRoom env (s.setPeer this { peer with mVideoRoomHandleID := replyId recvMsg }) this

def onAttachTextRoomDestory : Client :=
  s.withPeer this fun peer =>
    destoryTextRoom env (s.setPeer this { peer with mTextRoomHandleID := replyId recvMsg }) this

/-- Call a `CREATEROOM_CALLBACK`; calling an empty one throws. -/
def callRoomCallback (callback : Option RoomCallback) (roomId : UInt32) : Client :=
  match callback with
  | some callback => s.emit (.roomCallback callback roomId)
  | none => s.emit .badFunctionCall

/-- Read the outcome of an administrative request: the `key` member of the plugin
data is compared with the two tags, and the callback that was tested is called. On
success `tested` is the callback tested and `called` the one called. -/
def roomOutcome (key failureTag successTag : String) (requested : JanusPeerConnection → UInt32)
    (failed tested called : JanusPeerConnection → Option RoomCallback) : Client :=
  s.withPeer this fun peer =>
    let data := (recvMsg.member "plugindata").member "data"
    let status := data.text key
    let CreatedRoomId := requested peer
    if status = failureTag then
      if (failed peer).isSome then callRoomCallback s (failed peer) CreatedRoomId else s
    else if status = successTag then
      let CreatedRoomId := (GetUIntFromJsonObject data "room" CreatedRoomId).2
      if (tested peer).isSome then callRoomCallback s (called peer) CreatedRoomId else s
    else s

def onCreateVideoRoom : Client :=
  roomOutcome s this recvMsg "videoroom" "event" "created" (·.mVideoRoomId)
    (·.onCreateVideoRoomFailedCallback) (·.onCreateVideoRoomSuccessedCallback)
    (·.onCreateVideoRoomSuccessedCallback)

def onCreateTextRoom : Client :=
  roomOutcome s this recvMsg "textroom" "error" "created" (·.mTextRoomId)
    (·.onCreateTextRoomFailedCallback) (·.onCreateTextRoomSuccessedCallback)
    (·.onCreateTextRoomSuccessedCallback)

-- the source tests one callback and calls another here
def onDestoryVideoRoom : Client :=
  roomOutcome s this recvMsg "videoroom" "event" "destroyed" (·.mVideoRoomId)
    (·.onDestroyVideoRoomFailedCallback) (·.onDestroyVideoRoomSuccessedCallback)
    (·.onCreateVideoRoomSuccessedCallback)

def onDestoryTextRoom : Client :=
  roomOutcome s this recvMsg "textroom" "error" "destroyed" (·.mTextRoomId)
    (·.onDestroyTextRoomFailedCallback) (·.onDestroyTextRoomSuccessedCallback)
    (·.onDestroyTextRoomSuccessedCallback)

/-- Run the member function a continuation is bound to. -/
def callMember : PeerMember → Client
  | .onAttachVideoRoomJoin => onAttachVideoRoomJoin env s this recvMsg
  | .onAttachVideoRoomCreate => onAttachVideoRoomCreate env s this recvMsg
  | .onAttachTextRoomJoin => onAttachTextRoomJoin env s this recvMsg
  | .onAttachTextRoomCreate => onAttachTextRoomCreate env s this recvMsg
  | .onAttachVideoRoomDestory => onAttachVideoRoomDestory env s this recvMsg
  | .onAttachTextRoomDestory => onAttachTextRoomDestory env s this recvMsg
  | .onCreateVideoRoom => onCreateVideoRoom s this recvMsg
  | .onCreateTextRoom => onCreateTextRoom s this recvMsg
  | .onDestoryVideoRoom => onDestoryVideoRoom s this recvMsg
  | .onDestoryTextRoom => onDestoryTextRoom s this recvMsg

end Replies

end JanusPeerConnection

end WebrtcDemo
