import WebrtcDemo.Client.Conference

/-!
# JanusVideoRoomManager.cpp

The user's requests and the handlers of what the socket reports. A received text
is what `Json::Reader` makes of it: `none` where it does not parse.
-/

namespace WebrtcDemo

namespace JanusVideoRoomManager

section
variable (env : Env) (s : Client)

/-! ## Peers -/

/-- `new JanusPeerConnection(this, pWebSocket, mSessionId)`: what it points to. -/
def newPeer : JanusPeerConnection :=
  { mSessionID := s.janus.mSessionId
    mVideoRoomHandleID := (env.junk s.constructed).mVideoRoomHandleID
    mTextRoomHandleID := (env.junk s.constructed).mTextRoomHandleID
    mVideoRoomId := (env.junk s.constructed).mVideoRoomId
    mTextRoomId := (env.junk s.constructed).mTextRoomId }

/-- The state with a new peer, which is `s.constructed`. -/
def construct (peer : JanusPeerConnection) : Client :=
  { s with
    peers := Function.update s.peers s.constructed (some peer)
    constructed := s.constructed + 1 }

/-- `delete` on each peer of a list in turn. -/
def deletePeers (s : Client) : List Ptr → Client
  | [] => s
  | p :: more =>
    match s.peers p with
    | some _ => deletePeers { s with peers := Function.update s.peers p none } more
    | none => { s with fault := some (.deadPeer p) }

/-- All eight callbacks, as the administrative peers are given them. -/
def registerRoomCallbacks (peer : JanusPeerConnection) : JanusPeerConnection :=
  { peer with
    onCreateTextRoomFailedCallback := some .onCreateTextRoomFailed
    onCreateVideoRoomFailedCallback := some .onCreateVideoRoomFailed
    onCreateTextRoomSuccessedCallback := some .onCreateTextRoomSuccessed
    onCreateVideoRoomSuccessedCallback := some .onCreateVideoRoomSuccessed
    onDestroyTextRoomFailedCallback := some .onDestroyTextRoomFailed
    onDestroyVideoRoomFailedCallback := some .onDestroyVideoRoomFailed
    onDestroyTextRoomSuccessedCallback := some .onDestroyTextRoomSuccessed
    onDestroyVideoRoomSuccessedCallback := some .onDestroyVideoRoomSuccessed }

/-- Make the administrative peer for video rooms unless there is one. -/
def withCreateVideoRoomPeer (request : Client → Ptr → Client) : Client :=
  match s.janus.pCreateVideoRoomPeer with
  | some peer => request s peer
  | none =>
    let peer := s.constructed
    let s := construct s (registerRoomCallbacks (newPeer env s))
    request { s with janus := { s.janus with pCreateVideoRoomPeer := some peer } } peer

/-- The same for text rooms. -/
def withCreateTextRoomPeer (request : Client → Ptr → Client) : Client :=
  match s.janus.pCreateTextRoomPeer with
  | some peer => request s peer
  | none =>
    let peer := s.constructed
    let s := construct s (registerRoomCallbacks (newPeer env s))
    request { s with janus := { s.janus with pCreateTextRoomPeer := some peer } } peer

def CreateVideoRoom (roomId : Int32) : Client :=
  withCreateVideoRoomPeer env s fun s peer => JanusPeerConnection.CreateVideoRoom env s peer roomId

def CreateTextRoom (roomId : Int32) : Client :=
  withCreateTextRoomPeer env s fun s peer => JanusPeerConnection.CreateTextRoom env s peer roomId

def DestoryVideoRoom (roomId : Int32) : Client :=
  withCreateVideoRoomPeer env s fun s peer => JanusPeerConnection.DestoryVideoRoom env s peer roomId

def DestoryTextRoom (roomId : Int32) : Client :=
  withCreateTextRoomPeer env s fun s peer => JanusPeerConnection.DestoryTextRoom env s peer roomId

def JoinVideoRoom (roomId : Int32) (videoRoomDisplayName : String) : Client :=
  let s := { s with janus := { s.janus with mVideoRoomID := roomId } }
  let peer := s.constructed
  let s := construct s (newPeer env s)
  let s := JanusPeerConnection.SetVideoRoomDisplayName s peer videoRoomDisplayName
  let s := { s with
    janus := { s.janus with mVideoRoomPeerList := s.janus.mVideoRoomPeerList ++ [peer] } }
  JanusPeerConnection.AttachVideoRoom env s peer roomId.toUInt32

def JoinTextRoom (roomId : Int32) : Client :=
  let peer := s.constructed
  let s := construct s (newPeer env s)
  let s := { s with
    janus := { s.janus with mTextRoomPeerList := s.janus.mTextRoomPeerList ++ [peer] } }
  JanusPeerConnection.AttachTextRoom env s peer roomId.toUInt32

def LeaveVideoRoom : Client :=
  let s := deletePeers s s.janus.mVideoRoomPeerList
  { s with janus := { s.janus with mVideoRoomPeerList := [] } }

def LeaveTextRoom : Client :=
  let s := deletePeers s s.janus.mTextRoomPeerList
  { s with janus := { s.janus with mTextRoomPeerList := [] } }

/-! ## The session -/

def createSessionId : Client :=
  let transaction := env.random s.draws
  let s := s.drawn
  let s := JanusWebSocket.SendMessage s none { transaction, session_id := none, request := .create }
  AddMessageSuccessCallback s transaction .onCreateSessionId

def onSocketConnected : Client := createSessionId env s

def onWebSocketHeartBeatMessage : Client :=
  let transaction := env.random s.draws
  let s := s.drawn
  let s := JanusWebSocket.SendMessage s none
    { transaction, session_id := some (castDouble s.janus.mSessionId), request := .keepalive }
  AddMessageAckCallback s transaction .onHeartBeat

def onCreateSessionId (recvmsg : Json) : Client :=
  { s with janus := { s.janus with mSessionId := JanusPeerConnection.replyId recvmsg } }

/-- `onHeartBeat`, which resets the timer whatever the message holds. -/
def onHeartBeat : Client := s.emit .resetTimer

/-! ## Replies -/

/-- Run a continuation. -/
def callContinuation (func : Continuation) (object : Json) : Client :=
  match func with
  | .onCreateSessionId => onCreateSessionId s object
  | .onHeartBeat => onHeartBeat s
  | .peer this member => JanusPeerConnection.callMember env s this object member

/-- Take the entry of `tran` out of the success map before its continuation runs. -/
def takeSuccess (tran : String) (func : Continuation) (object : Json) : Client :=
  { s with
    janus := { s.janus with
      mMessage_success_callback := s.janus.mMessage_success_callback.erase tran }
    log := s.log ++ [.invoked .success tran func object] }

def takeAck (tran : String) (func : Continuation) (object : Json) : Client :=
  { s with
    janus := { s.janus with
      mMessage_ack_callback := s.janus.mMessage_ack_callback.erase tran }
    log := s.log ++ [.invoked .ack tran func object] }

def onMessageSuccess (transaction : String) (object : Json) : Client :=
  match s.janus.mMessage_success_callback.lookup transaction with
  | some callback => callContinuation env (takeSuccess s transaction callback object) callback object
  | none => s

def onMessageAck (transaction : String) (object : Json) : Client :=
  match s.janus.mMessage_ack_callback.lookup transaction with
  | some callback => callContinuation env (takeAck s transaction callback object) callback object
  | none => s

end

/-! ## Events -/

/-- The callbacks that `ConferenceManager` registers, as they are called. -/
def OnConnectToPeer (s : Client) (id : Int) (show_ isConnect isLocal : Bool) : Client :=
  ConferenceManager.ConnectToPeer_VideoAudio
    (s.emit (.onConnectToPeer id show_ isConnect isLocal)) id show_ isConnect isLocal

def OnRemoteSdp (s : Client) (id : Int) (type sdp : String) (isTextRoom : Bool) : Client :=
  ConferenceManager.onRetmoeSDP (s.emit (.onRemoteSdp id type sdp isTextRoom)) id type sdp
    isTextRoom

def OnRemoteStreamRemove (s : Client) (id : Int) : Client :=
  ConferenceManager.onRemoteStreamRemove (s.emit (.onRemoteStreamRemove id)) id

/-- `plugindata.data` of a message. -/
def dataObj (recvData : Json) : Json := (recvData.member "plugindata").member "data"

/-- The ids in the `publishers` array of an event. -/
def publisherIds (recvData : Json) : List Int :=
  (JsonArrayToValueVector ((dataObj recvData).member "publishers")).map
    (JsonValueToLongLong · "id")

section
variable (env : Env) (s : Client)

/-- One round of the loop over the publishers. -/
def subscribe (id : Int) : Client :=
  if 0 < id then
    let peer := s.constructed
    let s := construct s (newPeer env s)
    let s := { s with
      janus := { s.janus with mVideoRoomPeerList := s.janus.mVideoRoomPeerList ++ [peer] } }
    let s := JanusPeerConnection.SetSubscribe s peer id
    let s := JanusPeerConnection.SetPrivateId s peer s.janus.mPrivatedId
    JanusPeerConnection.AttachVideoRoom env s peer s.janus.mVideoRoomID.toUInt32
  else s

def onVideoRoomEventPublisher (recvData : Json) : Client :=
  let s := { s with
    janus := { s.janus with mPrivatedId := JsonValueToLongLong recvData "private_id" } }
  (publisherIds recvData).foldl (subscribe env) s

def onVideoRoomEventJoin (recvData : Json) : Client :=
  let s := onVideoRoomEventPublisher env s recvData
  let sender := JsonValueToLongLong recvData "sender"
  match findPeer s s.janus.mVideoRoomPeerList (·.mVideoRoomHandleID) sender with
  | some _ => OnConnectToPeer s sender false true false
  | none => s

end

def onVideoRoomEventSdp (s : Client) (recvData : Json) (isTextRoom : Bool) : Client :=
  let sender := JsonValueToLongLong recvData "sender"
  let jsepObj := recvData.member "jsep"
  let type := jsepObj.text "type"
  let sdp := jsepObj.text "sdp"
  if sdp ≠ "" then OnRemoteSdp s sender type sdp isTextRoom else s

def onVideoRoomEventAttached (s : Client) (recvData : Json) : Client :=
  onVideoRoomEventSdp s recvData false

/-- Unlist the first peer subscribed to the feed, after its stream is removed. -/
def onVideoRoomEventUnpublish (s : Client) (recvData : Json) : Client :=
  let unpublishId := JsonValueToLongLong (dataObj recvData) "unpublished"
  if unpublishId ≠ 0 then
    match findPeer s s.janus.mVideoRoomPeerList (·.mSubscribeId) unpublishId with
    | some peer =>
      let s := OnRemoteStreamRemove s ((s.peers peer).elim 0 (·.mVideoRoomHandleID))
      { s with
        janus := { s.janus with
          mVideoRoomPeerList := s.janus.mVideoRoomPeerList.eraseP fun p =>
            (s.peers p).any fun peer => peer.mSubscribeId == unpublishId } }
    | none => s
  else s

section
variable (env : Env) (s : Client)

def onVideoRoomEventEvent (recvData : Json) : Client :=
  let s := onVideoRoomEventSdp s recvData false
  let s := onVideoRoomEventPublisher env s recvData
  onVideoRoomEventUnpublish s recvData

def onTextRoomEventEvent (recvData : Json) : Client := onVideoRoomEventSdp s recvData true

/-- The handlers that the constructor puts in `mMessage_event_videoRoom`. -/
def onVideoRoomEvent (event : String) (object : Json) : Client :=
  if event = "joined" then onVideoRoomEventJoin env s object
  else if event = "attached" then onVideoRoomEventAttached s object
  else if event = "event" then onVideoRoomEventEvent env s object
  else s

/-- The one handler in `mMessage_event_textRoom`. -/
def onTextRoomEvent (event : String) (object : Json) : Client :=
  if event = "eventevent" then onTextRoomEventEvent s object else s

def onWebSocketReceivedMessage (message : Option Json) : Client :=
  match message with
  | none => s
  | some object =>
    let janus := object.text "janus"
    let transaction := object.text "transaction"
    if janus = "success" then onMessageSuccess env s transaction object
    else if janus = "ack" then onMessageAck env s transaction object
    else if janus = "event" then
      match GetStringFromJsonObject (dataObj object) "videoroom" with
      | some janusEvent => onVideoRoomEvent env s janusEvent object
      | none =>
        match GetStringFromJsonObject (dataObj object) "textroom" with
        | some _ => onTextRoomEvent s "eventevent" object
        | none => s
    else s

end

end JanusVideoRoomManager

end WebrtcDemo
