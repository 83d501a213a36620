import WebrtcDemo.Client.Peer

/-!
# ConferenceManager.cpp

The stream tables, the windows and the data-channel stream, with the two
dispatchers of JanusVideoRoomManager.cpp that send local descriptions and
candidates. The WebRTC library is outside: what it is asked to do is logged, and
what it reports comes back as an event of its own.
-/

namespace WebrtcDemo

namespace JanusVideoRoomManager

/-- The first peer of a list whose field `handle` holds `id`. -/
def findPeer (s : Client) (list : List Ptr) (handle : JanusPeerConnection → Int) (id : Int) :
    Option Ptr :=
  list.find? fun p => (s.peers p).any fun peer => handle peer == id

def SendSDP (env : Env) (s : Client) (id : Int) (sdp type : String) : Client :=
  let s :=
    match findPeer s s.janus.mVideoRoomPeerList (·.mVideoRoomHandleID) id with
    | some peer => JanusPeerConnection.SendSDP env s peer sdp type
    | none => s
  match findPeer s s.janus.mTextRoomPeerList (·.mTextRoomHandleID) id with
  | some peer => JanusPeerConnection.SendSDPText env s peer sdp type
  | none => s

def SendCandidate (env : Env) (s : Client) (id : Int) (c : iceCandidate) : Client :=
  match findPeer s s.janus.mVideoRoomPeerList (·.mVideoRoomHandleID) id with
  | some peer => JanusPeerConnection.SendCandidate env s peer c
  | none => s

end JanusVideoRoomManager

namespace Client

/-- How many entries of a stream table hold the stream `p`. -/
def owners (table : StreamTable) (p : Ptr) : Nat := (table.entries.map (·.2.stream)).count p

/-- `GetHandleID`; the destructor of a stream leaves -1. -/
def videoHandle (s : Client) (p : Ptr) : Int := (s.videoHeap p).elim (-1) (·.mHandleID)
def dataHandle (s : Client) (p : Ptr) : Int := (s.dataHeap p).elim (-1) (·.mHandleID)

/-- Write the fields of a stream. -/
def modifyVideo (s : Client) (p : Ptr) (f : WebrtcStreamVideoAudio → WebrtcStreamVideoAudio) :
    Client :=
  { s with videoHeap := Function.update s.videoHeap p ((s.videoHeap p).map f) }

def modifyData (s : Client) (p : Ptr) (f : WebrtcStreamDataChannels → WebrtcStreamDataChannels) :
    Client :=
  { s with dataHeap := Function.update s.dataHeap p ((s.dataHeap p).map f) }

def destroyVideo (s : Client) (p : Ptr) (explicit : Bool) : Client :=
  { s with
    videoHeap := Function.update s.videoHeap p none
    log := s.log ++ [.streamDestroyed false p explicit] }

def destroyData (s : Client) (p : Ptr) (explicit : Bool) : Client :=
  { s with
    dataHeap := Function.update s.dataHeap p none
    log := s.log ++ [.streamDestroyed true p explicit] }

/-- A counted reference to a video stream was given up. -/
def releaseVideo (s : Client) (p : Ptr) : Client :=
  if owners s.conference.mRemoteStreamInfos_VideoAudio p = 0 then s.destroyVideo p false else s

/-- A counted reference to a data-channel stream was given up. -/
def releaseData (s : Client) (p : Ptr) : Client :=
  if owners s.conference.mRemoteStreamInfos_DataChannels p = 0 ∧
      s.conference.LocalStream_DataChannels ≠ some p then
    s.destroyData p false
  else s

end Client

namespace ConferenceManager

def SetVideoWindows (s : Client) (remote : List WindowId) : Client :=
  { s with conference := { s.conference with mRemoteWinds := remote.map fun wind => (wind, 0) } }

def SetTextRoomIDAndDisplayName (s : Client) (inTextRoomID : Int32) (inDisplayName : String) :
    Client :=
  { s with
    conference := { s.conference with
      mTextRoomID := inTextRoomID
      mTextRoomDisplayName := inDisplayName } }

/-- Delete the streams of the entries by name. -/
def deleteStreams (s : Client) : List (Sigma fun _ : Int => RemoteStreamInfo) → Client
  | [] => s
  | entry :: more => deleteStreams (s.destroyVideo entry.2.stream true) more

def LeaveVideoRoom (s : Client) : Client :=
  let s := { s with
    conference := { s.conference with
      mRemoteWinds := s.conference.mRemoteWinds.map fun wind => (wind.1, 0) } }
  let s := deleteStreams s s.conference.mRemoteStreamInfos_VideoAudio.entries
  { s with conference := { s.conference with mRemoteStreamInfos_VideoAudio := ∅ } }

/-- A table entry for a stream just made. -/
def newInfo (stream : Ptr) : RemoteStreamInfo :=
  { stream, canSendSDP := true, canSendCandidate := true }

def addStreamInfo_VideoAudio (s : Client) (remoteStream : Ptr) : Client :=
  let peerId := s.videoHandle remoteStream
  let replaced := s.conference.mRemoteStreamInfos_VideoAudio.lookup peerId
  let s := { s with
    conference := { s.conference with
      mRemoteStreamInfos_VideoAudio :=
        s.conference.mRemoteStreamInfos_VideoAudio.insert peerId (newInfo remoteStream) } }
  match replaced with
  | some info => s.releaseVideo info.stream
  | none => s

def addStreamInfo_DataChannels (s : Client) (remoteStream : Ptr) : Client :=
  let peerId := s.dataHandle remoteStream
  let replaced := s.conference.mRemoteStreamInfos_DataChannels.lookup peerId
  let s := { s with
    conference := { s.conference with
      mRemoteStreamInfos_DataChannels :=
        s.conference.mRemoteStreamInfos_DataChannels.insert peerId (newInfo remoteStream) } }
  match replaced with
  | some info => s.releaseData info.stream
  | none => s

/-- The loop of `sendICEs`: each candidate in turn; the list it is given ends empty. -/
def sendICEs (env : Env) (s : Client) (id : Int) : List iceCandidate → Client
  | [] => s
  | candidate :: more => sendICEs env (JanusVideoRoomManager.SendCandidate env s id candidate) id more

/-- Give the first free window to `peerId`: the windows after, and the window given. -/
def occupyWindow (peerId : Int) : List (WindowId × Int) → List (WindowId × Int) × Option WindowId
  | [] => ([], none)
  | (wind, occupant) :: more =>
    if occupant = 0 then ((wind, peerId) :: more, some wind)
    else
      let (more, given) := occupyWindow peerId more
      ((wind, occupant) :: more, given)

/-- Free the first window that `streamId` occupies. -/
def freeWindow (streamId : Int) : List (WindowId × Int) → List (WindowId × Int)
  | [] => []
  | (wind, occupant) :: more =>
    if occupant = streamId then (wind, 0) :: more
    else (wind, occupant) :: freeWindow streamId more

/-- The `show` branch: a free window, if there is one, and `SetWindowID`. -/
def showStream (s : Client) (stream : Ptr) (peerId : Int) : Client :=
  match occupyWindow peerId s.conference.mRemoteWinds with
  | (winds, some given) =>
    let s := s.modifyVideo stream ({ · with mWindowID := some given })
    { s with conference := { s.conference with mRemoteWinds := winds } }
  | (_, none) => s

def ConnectToPeer_VideoAudio (s : Client) (peerId : Int) (show_ isConnect isLocal : Bool) :
    Client :=
  let remoteStream := s.videoStreams
  let s := { s with
    videoHeap := Function.update s.videoHeap remoteStream
      (some { mHandleID := peerId, mIsLocal := isLocal })
    videoStreams := remoteStream + 1 }
  let s := addStreamInfo_VideoAudio s remoteStream
  let s := if show_ then showStream s remoteStream peerId else s
  if isConnect then s.emit (.connectToPeer remoteStream) else s

def ConnectToPeer_DataChannels (s : Client) (peerId : Int) : Client :=
  let remoteStream := s.dataStreams
  let s := { s with
    dataHeap := Function.update s.dataHeap remoteStream (some { mHandleID := peerId })
    dataStreams := remoteStream + 1 }
  let previous := s.conference.LocalStream_DataChannels
  let s := { s with
    conference := { s.conference with LocalStream_DataChannels := some remoteStream } }
  let s :=
    match previous with
    | some stream => s.releaseData stream
    | none => s
  let s := s.modifyData remoteStream ({ · with OnSendLocalInfoWhenOpenDataChannel := true })
  addStreamInfo_DataChannels s remoteStream

/-- `SetPeerSDP` of a data-channel stream; the first description makes its channel. -/
def setPeerSDP_DataChannels (s : Client) (stream : Ptr) (type sdp : String) : Client :=
  (s.modifyData stream ({ · with mDataChannel := true })).emit (.setPeerSDP true stream type sdp)

def onRetmoeSDP (s : Client) (id : Int) (type sdp : String) (isTextRoom : Bool) : Client :=
  if isTextRoom then
    let s :=
      if (s.conference.mRemoteStreamInfos_DataChannels.lookup id).isNone then
        ConnectToPeer_DataChannels s id
      else s
    match s.conference.mRemoteStreamInfos_DataChannels.lookup id with
    | some info => setPeerSDP_DataChannels s info.stream type sdp
    | none => s
  else
    let s :=
      if (s.conference.mRemoteStreamInfos_VideoAudio.lookup id).isNone then
        ConnectToPeer_VideoAudio s id true false false
      else s
    match s.conference.mRemoteStreamInfos_VideoAudio.lookup id with
    | some info => s.emit (.setPeerSDP false info.stream type sdp)
    | none => s

/-- The local description goes into the entry of `id`, if there is one, and out. -/
def onLocalSDP (env : Env) (s : Client) (id : Int) (sdp type : String) : Client :=
  let s :=
    match s.conference.mRemoteStreamInfos_VideoAudio.lookup id with
    | none => s
    | some info =>
      let s := { s with
        conference := { s.conference with
          mRemoteStreamInfos_VideoAudio := s.conference.mRemoteStreamInfos_VideoAudio.insert id
            { info with sdp := sdp, sdpType := type } } }
      if info.canSendSDP then JanusVideoRoomManager.SendSDP env s id sdp type else s
  match s.conference.mRemoteStreamInfos_DataChannels.lookup id with
  | none => s
  | some info =>
    let s := { s with
      conference := { s.conference with
        mRemoteStreamInfos_DataChannels := s.conference.mRemoteStreamInfos_DataChannels.insert id
          { info with sdp := sdp, sdpType := type } } }
    if info.canSendSDP then JanusVideoRoomManager.SendSDP env s id sdp type else s

/-- A local candidate joins the list of the entry of `id`, which is then sent off. -/
def onLocalIceCandidate (env : Env) (s : Client) (id : Int) (c : iceCandidate) : Client :=
  let s :=
    match s.conference.mRemoteStreamInfos_VideoAudio.lookup id with
    | none => s
    | some info =>
      let waiting := info.iceCandidateList ++ [c]
      let s := { s with
        conference := { s.conference with
          mRemoteStreamInfos_VideoAudio := s.conference.mRemoteStreamInfos_VideoAudio.insert id
            { info with iceCandidateList := if info.canSendCandidate then [] else waiting } } }
      if info.canSendCandidate then sendICEs env s (s.videoHandle info.stream) waiting else s
  match s.conference.mRemoteStreamInfos_DataChannels.lookup id with
  | none => s
  | some info =>
    let waiting := info.iceCandidateList ++ [c]
    let s := { s with
      conference := { s.conference with
        mRemoteStreamInfos_DataChannels := s.conference.mRemoteStreamInfos_DataChannels.insert id
          { info with iceCandidateList := if info.canSendCandidate then [] else waiting } } }
    if info.canSendCandidate then sendICEs env s (s.dataHandle info.stream) waiting else s

def onIceGatheringComplete (env : Env) (s : Client) (id : Int) : Client :=
  onLocalIceCandidate env s id { sdp_mid := "end", sdp_mline_index := -1, sdp := "end" }

/-- Take the entry of `streamId` out of both tables and free its window.
`DeletePeerConnection` sets the handle of the stream to -1 first. -/
def onRemoteStreamRemove (s : Client) (streamId : Int) : Client :=
  let s :=
    match s.conference.mRemoteStreamInfos_VideoAudio.lookup streamId with
    | none => s
    | some info =>
      let s := s.modifyVideo info.stream ({ · with mHandleID := -1 })
      let s := { s with
        conference := { s.conference with
          mRemoteStreamInfos_VideoAudio :=
            s.conference.mRemoteStreamInfos_VideoAudio.erase streamId } }
      s.releaseVideo info.stream
  let s := { s with
    conference := { s.conference with
      mRemoteWinds := freeWindow streamId s.conference.mRemoteWinds } }
  match s.conference.mRemoteStreamInfos_DataChannels.lookup streamId with
  | none => s
  | some info =>
    let s := s.modifyData info.stream ({ · with mHandleID := -1 })
    let s := { s with
      conference := { s.conference with
        mRemoteStreamInfos_DataChannels :=
          s.conference.mRemoteStreamInfos_DataChannels.erase streamId } }
    s.releaseData info.stream

/-- The join message of a data channel; its transaction and its user name are random. -/
def onSendLocalInfoWhenOpenDataChannel (env : Env) (s : Client) : DataMessage :=
  .join (env.random s.draws) s.conference.mTextRoomID (env.random (s.draws + 1))
    s.conference.mTextRoomDisplayName

end ConferenceManager

namespace WebrtcStreamDataChannels

/-- `SendDataViaDataChannel`: nothing is sent before the channel exists. -/
def SendDataViaDataChannel (s : Client) (stream : Ptr) (m : DataMessage) : Client :=
  match s.dataHeap stream with
  | some x => if x.mDataChannel then s.emit (.dataSent stream m) else s
  | none => { s with fault := some (.deadStream stream) }

/-- `OnStateChange` when the channel reports `kOpen`: the join message goes out once. -/
def OnStateChange (env : Env) (s : Client) (stream : Ptr) : Client :=
  match s.dataHeap stream with
  | none => { s with fault := some (.deadStream stream) }
  | some x =>
    if x.mDataChannel ∧ x.OnSendLocalInfoWhenOpenDataChannel then
      let sendMessage := ConferenceManager.onSendLocalInfoWhenOpenDataChannel env s
      let s := s.drawn.drawn
      let s := SendDataViaDataChannel s stream sendMessage
      s.modifyData stream ({ · with OnSendLocalInfoWhenOpenDataChannel := false })
    else s

end WebrtcStreamDataChannels

end WebrtcDemo
