import WebrtcDemo.Run.Operations

/-!
# Handlers in halves

The handlers of the conference manager look an id up in the video table and then in
the table of the data channels, and `SendSDP` does the same with the two lists of
peers. Each half is a function of its own here, so that what is said of a handler is
put together from what is said of its halves.
-/

namespace WebrtcDemo

open JanusVideoRoomManager (findPeer)

namespace Client

/-- One lookup of `SendSDP`: the member function `send` of the peer found, if any. -/
def sendTo (s : Client) (room : RoomKind) (h : Int) (send : Client → Ptr → Client) : Client :=
  match findPeer s (s.listed room) room.handle h with
  | some peer => send s peer
  | none => s

/-- A new video table. -/
def withVideo (s : Client) (table : StreamTable) : Client :=
  { s with conference := { s.conference with mRemoteStreamInfos_VideoAudio := table } }

/-- A new table of data channels. -/
def withData (s : Client) (table : StreamTable) : Client :=
  { s with conference := { s.conference with mRemoteStreamInfos_DataChannels := table } }

/-- The windows changed. -/
def withWinds (s : Client) (winds : List (WindowId × Int)) : Client :=
  { s with conference := { s.conference with mRemoteWinds := winds } }

end Client

namespace ConferenceManager

section
variable (env : Env) (s : Client) (id : Int)

def tellVideo (type sdp : String) : Client :=
  match s.conference.mRemoteStreamInfos_VideoAudio.lookup id with
  | some info => s.emit (.setPeerSDP false info.stream type sdp)
  | none => s

def tellData (type sdp : String) : Client :=
  match s.conference.mRemoteStreamInfos_DataChannels.lookup id with
  | some info => setPeerSDP_DataChannels s info.stream type sdp
  | none => s

def localVideo (sdp type : String) : Client :=
  match s.conference.mRemoteStreamInfos_VideoAudio.lookup id with
  | none => s
  | some info =>
    let s := s.withVideo (s.conference.mRemoteStreamInfos_VideoAudio.insert id
      { info with sdp := sdp, sdpType := type })
    if info.canSendSDP then JanusVideoRoomManager.SendSDP env s id sdp type else s

def localData (sdp type : String) : Client :=
  match s.conference.mRemoteStreamInfos_DataChannels.lookup id with
  | none => s
  | some info =>
    let s := s.withData (s.conference.mRemoteStreamInfos_DataChannels.insert id
      { info with sdp := sdp, sdpType := type })
    if info.canSendSDP then JanusVideoRoomManager.SendSDP env s id sdp type else s

def candidateVideo (c : iceCandidate) : Client :=
  match s.conference.mRemoteStreamInfos_VideoAudio.lookup id with
  | none => s
  | some info =>
    let waiting := info.iceCandidateList ++ [c]
    let s := s.withVideo (s.conference.mRemoteStreamInfos_VideoAudio.insert id
      { info with iceCandidateList := if info.canSendCandidate then [] else waiting })
    if info.canSendCandidate then sendICEs env s (s.videoHandle info.stream) waiting else s

def candidateData (c : iceCandidate) : Client :=
  match s.conference.mRemoteStreamInfos_DataChannels.lookup id with
  | none => s
  | some info =>
    let waiting := info.iceCandidateList ++ [c]
    let s := s.withData (s.conference.mRemoteStreamInfos_DataChannels.insert id
      { info with iceCandidateList := if info.canSendCandidate then [] else waiting })
    if info.canSendCandidate then sendICEs env s (s.dataHandle info.stream) waiting else s

def removeVideo : Client :=
  match s.conference.mRemoteStreamInfos_VideoAudio.lookup id with
  | none => s
  | some info =>
    let s := s.modifyVideo info.stream ({ · with mHandleID := -1 })
    let s := s.withVideo (s.conference.mRemoteStreamInfos_VideoAudio.erase id)
    s.releaseVideo info.stream

def removeData : Client :=
  match s.conference.mRemoteStreamInfos_DataChannels.lookup id with
  | none => s
  | some info =>
    let s := s.modifyData info.stream ({ · with mHandleID := -1 })
    let s := s.withData (s.conference.mRemoteStreamInfos_DataChannels.erase id)
    s.releaseData info.stream

/-- The window of a stream is free again. -/
def unoccupy : Client := s.withWinds (freeWindow id s.conference.mRemoteWinds)

end

/-! ## The handlers -/

section
variable (env : Env) (s : Client) (id : Int)

theorem onRetmoeSDP_video (type sdp : String) :
    onRetmoeSDP s id type sdp false =
      tellVideo (if (s.conference.mRemoteStreamInfos_VideoAudio.lookup id).isNone then
        ConnectToPeer_VideoAudio s id true false false else s) id type sdp := rfl

theorem onRetmoeSDP_text (type sdp : String) :
    onRetmoeSDP s id type sdp true =
      tellData (if (s.conference.mRemoteStreamInfos_DataChannels.lookup id).isNone then
        ConnectToPeer_DataChannels s id else s) id type sdp := rfl

theorem onLocalSDP_eq (sdp type : String) :
    onLocalSDP env s id sdp type =
      localData env (localVideo env s id sdp type) id sdp type := rfl

theorem onLocalIceCandidate_eq (c : iceCandidate) :
    onLocalIceCandidate env s id c = candidateData env (candidateVideo env s id c) id c := rfl

theorem onRemoteStreamRemove_eq :
    onRemoteStreamRemove s id = removeData (unoccupy (removeVideo s id) id) id := rfl

end

end ConferenceManager

section
variable {s : Client} {p : Ptr}

@[simp] theorem releaseVideo_conference : (s.releaseVideo p).conference = s.conference := by
  rw [Client.releaseVideo]
  split_ifs <;> rfl

@[simp] theorem releaseData_conference : (s.releaseData p).conference = s.conference := by
  rw [Client.releaseData]
  split_ifs <;> rfl

end

theorem SendSDP_eq (env : Env) (s : Client) (h : Int) (sdp type : String) :
    JanusVideoRoomManager.SendSDP env s h sdp type =
      (s.sendTo .video h (JanusPeerConnection.SendSDP env · · sdp type)).sendTo .text h
        (JanusPeerConnection.SendSDPText env · · sdp type) := rfl

theorem SendCandidate_eq (env : Env) (s : Client) (h : Int) (c : iceCandidate) :
    JanusVideoRoomManager.SendCandidate env s h c =
      s.sendTo .video h (JanusPeerConnection.SendCandidate env · · c) := rfl

end WebrtcDemo
