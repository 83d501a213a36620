import WebrtcDemo.Client.Interface
import WebrtcDemo.Lib.Mailbox
import WebrtcDemo.Stream.Connection

/-!
# The client and the connections of its streams

The handlers that reach a stream once more, now with the streams themselves: what they
call on a stream happens to its connection. A stream signals from a thread of the
library, so the slot runs later, when the thread of the client takes the signal from its
mailbox. What the library answers comes with the event that asks it.
-/

namespace WebrtcDemo

/-- The signals of a stream. -/
inductive Signal where
  | LocalSDP (id : Int) (sdp type : String)
  | LocalIceCandidate (id : Int) (candidate : iceCandidate)
  | IceGatheringComplete (id : Int)
  deriving DecidableEq

/-- The slot connected to a signal. -/
def Signal.slot : Signal → Input
  | .LocalSDP id sdp type => .localSDP id sdp type
  | .LocalIceCandidate id candidate => .localIceCandidate id candidate
  | .IceGatheringComplete id => .iceGatheringComplete id

/-- What the destructors leave. -/
def PeerStream.destroyed (s : PeerStream) : PeerStream :=
  { s.DeletePeerConnection with mDataChannel := false }

/-- Whether a stream is still there. -/
def Client.lives (s : Client) : StreamClass → Ptr → Bool
  | .VideoAudio, p => (s.videoHeap p).isSome
  | .DataChannels, p => (s.dataHeap p).isSome

/-- The client, the streams of each class in the order of construction, and the signals. -/
structure Conference where
  client : Client
  streams : StreamClass → List PeerStream := fun _ => []
  signals : Mailbox Signal := {}

namespace Conference

/-- The library's parser. -/
abbrev CreateSessionDescription := (type sdp : String) → Option SdpType

section
variable (c : Conference)

/-- The client changed; the destructors ran of the streams that it let go of. So they do here
even of a stream that is the observer of a `CreateOffer` or `CreateAnswer` still under way,
which the library's own counted reference would keep until it answers. -/
def become (s : Client) : Conference :=
  { c with
    client := s
    streams := fun streamClass => (c.streams streamClass).mapIdx fun p x =>
      if s.lives streamClass p then x else x.destroyed }

def construct (streamClass : StreamClass) (inHandleID : Int) : Conference :=
  { c with
    streams := Function.update c.streams streamClass
      (c.streams streamClass ++ [.constructed streamClass inHandleID]) }

/-- A member function of a stream. -/
def call (streamClass : StreamClass) (p : Ptr) (member : PeerStream → PeerStream) : Conference :=
  { c with
    streams := Function.update c.streams streamClass ((c.streams streamClass).modify p member) }

/-- `Q_EMIT` on a thread of the library. -/
def emit (signal : Signal) : Conference := { c with signals := c.signals.post signal }

end

/-! ## ConferenceManager.cpp -/

section
variable (parse : CreateSessionDescription) (factory : Factory) (c : Conference)

def ConnectToPeer_VideoAudio (peerId : Int) (show_ isConnect isLocal : Bool) : Conference :=
  let remoteStream := c.client.videoStreams
  let c := (c.construct .VideoAudio peerId).become
    (ConferenceManager.ConnectToPeer_VideoAudio c.client peerId show_ isConnect isLocal)
  if isConnect then c.call .VideoAudio remoteStream (·.ConnectToPeer factory) else c

def ConnectToPeer_DataChannels (peerId : Int) : Conference :=
  (c.construct .DataChannels peerId).become
    (ConferenceManager.ConnectToPeer_DataChannels c.client peerId)

def onRetmoeSDP (id : Int) (type sdp : String) (isTextRoom : Bool) : Conference :=
  if isTextRoom then
    let c :=
      if (c.client.conference.mRemoteStreamInfos_DataChannels.lookup id).isNone then
        c.ConnectToPeer_DataChannels id
      else c
    match c.client.conference.mRemoteStreamInfos_DataChannels.lookup id with
    | some info =>
      (c.become (ConferenceManager.setPeerSDP_DataChannels c.client info.stream type sdp)).call
        .DataChannels info.stream fun x => (x.SetPeerSDP factory (parse type sdp)).1
    | none => c
  else
    let c :=
      if (c.client.conference.mRemoteStreamInfos_VideoAudio.lookup id).isNone then
        c.ConnectToPeer_VideoAudio factory id true false false
      else c
    match c.client.conference.mRemoteStreamInfos_VideoAudio.lookup id with
    | some info =>
      (c.become (c.client.emit (.setPeerSDP false info.stream type sdp))).call
        .VideoAudio info.stream fun x => (x.SetPeerSDP factory (parse type sdp)).1
    | none => c

/-- `DeletePeerConnection` on the streams of the entries, before these are erased. -/
def onRemoteStreamRemove (streamId : Int) : Conference :=
  let c :=
    match c.client.conference.mRemoteStreamInfos_VideoAudio.lookup streamId with
    | some info => c.call .VideoAudio info.stream (·.DeletePeerConnection)
    | none => c
  let c :=
    match c.client.conference.mRemoteStreamInfos_DataChannels.lookup streamId with
    | some info => c.call .DataChannels info.stream (·.DeletePeerConnection)
    | none => c
  c.become (ConferenceManager.onRemoteStreamRemove c.client streamId)

/-! ## JanusVideoRoomManager.cpp -/

def OnConnectToPeer (id : Int) (show_ isConnect isLocal : Bool) : Conference :=
  (c.become (c.client.emit (.onConnectToPeer id show_ isConnect isLocal))).ConnectToPeer_VideoAudio
    factory id show_ isConnect isLocal

def OnRemoteSdp (id : Int) (type sdp : String) (isTextRoom : Bool) : Conference :=
  (c.become (c.client.emit (.onRemoteSdp id type sdp isTextRoom))).onRetmoeSDP parse factory id type
    sdp isTextRoom

def OnRemoteStreamRemove (id : Int) : Conference :=
  (c.become (c.client.emit (.onRemoteStreamRemove id))).onRemoteStreamRemove id

def onVideoRoomEventSdp (recvData : Json) (isTextRoom : Bool) : Conference :=
  let sender := JsonValueToLongLong recvData "sender"
  let jsepObj := recvData.member "jsep"
  let type := jsepObj.text "type"
  let sdp := jsepObj.text "sdp"
  if sdp ≠ "" then c.OnRemoteSdp parse factory sender type sdp isTextRoom else c

def onVideoRoomEventUnpublish (recvData : Json) : Conference :=
  let unpublishId := JsonValueToLongLong (JanusVideoRoomManager.dataObj recvData) "unpublished"
  if unpublishId ≠ 0 then
    match JanusVideoRoomManager.findPeer c.client c.client.janus.mVideoRoomPeerList
        (·.mSubscribeId) unpublishId with
    | some peer =>
      let c := c.OnRemoteStreamRemove ((c.client.peers peer).elim 0 (·.mVideoRoomHandleID))
      c.become { c.client with
        janus := { c.client.janus with
          mVideoRoomPeerList := c.client.janus.mVideoRoomPeerList.eraseP fun p =>
            (c.client.peers p).any fun peer => peer.mSubscribeId == unpublishId } }
    | none => c
  else c

variable (env : Env)

def onVideoRoomEventJoin (recvData : Json) : Conference :=
  let c := c.become (JanusVideoRoomManager.onVideoRoomEventPublisher env c.client recvData)
  let sender := JsonValueToLongLong recvData "sender"
  match JanusVideoRoomManager.findPeer c.client c.client.janus.mVideoRoomPeerList
      (·.mVideoRoomHandleID) sender with
  | some _ => c.OnConnectToPeer factory sender false true false
  | none => c

def onVideoRoomEventEvent (recvData : Json) : Conference :=
  let c := c.onVideoRoomEventSdp parse factory recvData false
  let c := c.become (JanusVideoRoomManager.onVideoRoomEventPublisher env c.client recvData)
  c.onVideoRoomEventUnpublish recvData

def onVideoRoomEvent (event : String) (object : Json) : Conference :=
  if event = "joined" then c.onVideoRoomEventJoin factory env object
  else if event = "attached" then c.onVideoRoomEventSdp parse factory object false
  else if event = "event" then c.onVideoRoomEventEvent parse factory env object
  else c

def onWebSocketReceivedMessage (message : Option Json) : Conference :=
  match message with
  | none => c
  | some object =>
    let janus := object.text "janus"
    let transaction := object.text "transaction"
    if janus = "success" then
      c.become (JanusVideoRoomManager.onMessageSuccess env c.client transaction object)
    else if janus = "ack" then
      c.become (JanusVideoRoomManager.onMessageAck env c.client transaction object)
    else if janus = "event" then
      match GetStringFromJsonObject (JanusVideoRoomManager.dataObj object) "videoroom" with
      | some janusEvent => c.onVideoRoomEvent parse factory env janusEvent object
      | none =>
        match GetStringFromJsonObject (JanusVideoRoomManager.dataObj object) "textroom" with
        | some _ => c.onVideoRoomEventSdp parse factory object true
        | none => c
    else c

end

end Conference

/-! ## Events -/

/-- The slots of the client, which only signals run. -/
def Input.isSlot : Input → Bool
  | .localSDP _ _ _ | .localIceCandidate _ _ | .iceGatheringComplete _ => true
  | _ => false

/-- What can happen: something else than a slot, with the factory as it is then; the next
signal is taken; the library reports to a stream. -/
inductive ConferenceInput where
  | happened (i : Input) (other : i.isSlot = false) (factory : Factory)
  | delivered
  | OnSuccess (streamClass : StreamClass) (stream : Ptr) (desc : Jsep)
  | OnFailure (streamClass : StreamClass) (stream : Ptr)
  | OnIceCandidate (streamClass : StreamClass) (stream : Ptr) (candidate : iceCandidate)
  | OnIceGatheringComplete (streamClass : StreamClass) (stream : Ptr)

namespace Conference

/-- A client just constructed. -/
def initial (env : Env) : Conference := { client := Client.initial env }

section
variable (env : Env) (parse : CreateSessionDescription) (c : Conference)

/-- Only a connection that is there reports candidates, to its stream. -/
def report (streamClass : StreamClass) (stream : Ptr) (signal : Int → Signal) : Conference :=
  match (c.streams streamClass)[stream]? with
  | some x => if x.mPeerConnection then c.emit (signal x.mHandleID) else c
  | none => c

/-- A description that was asked for is made, set and signalled. -/
def OnSuccess (streamClass : StreamClass) (stream : Ptr) (desc : Jsep) : Conference :=
  match (c.streams streamClass)[stream]? with
  | some x =>
    if x.descriptions = 0 then c
    else (c.call streamClass stream (·.step (.OnSuccess desc))).emit
      (.LocalSDP x.mHandleID desc.sdp desc.type)
  | none => c

/-- Only the events of the socket reach streams, but for the end of a video conference. -/
def happened (i : Input) (factory : Factory) : Conference :=
  match i with
  | .receivedMessage message => c.onWebSocketReceivedMessage parse factory env message
  | i => c.become (WebrtcDemo.step env c.client i)

/-- Handle one event. -/
def step : ConferenceInput → Conference
  | .happened i _ factory => c.happened env parse i factory
  | .delivered =>
    match c.signals.take with
    | some (signal, signals) =>
      Conference.become { c with signals } (WebrtcDemo.step env c.client signal.slot)
    | none => c
  | .OnSuccess streamClass stream desc => c.OnSuccess streamClass stream desc
  | .OnFailure streamClass stream => c.call streamClass stream (·.step .OnFailure)
  | .OnIceCandidate streamClass stream candidate =>
    c.report streamClass stream (.LocalIceCandidate · candidate)
  | .OnIceGatheringComplete streamClass stream =>
    c.report streamClass stream .IceGatheringComplete

end

end Conference

end WebrtcDemo
