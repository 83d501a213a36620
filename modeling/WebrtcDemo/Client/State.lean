import Mathlib.Data.List.AList
import WebrtcDemo.Json.JsonTools

/-!
# The client's objects

One `ConferenceManager` with its `JanusVideoRoomManager`, the
`JanusPeerConnection` and stream objects they own, and what the client does to
the outside, as a log. Objects live in heaps indexed by the order of their
construction; a deleted object is gone from its heap, so that a call on it is
seen. Machine `int` and `unsigned int` are `Int32` and `UInt32`; a `long long` is
an integer, on which the client only compares and converts.
-/

namespace WebrtcDemo

/-- An object, by its place in the order of construction. -/
abbrev Ptr := Nat

/-- `WINDOWID`, an `unsigned long`. -/
abbrev WindowId := UInt64

/-! ## Messages to the server -/

/-- The `plugin` of an attach request. -/
inductive Plugin where
  | videoroom
  | textroom
  deriving DecidableEq

/-- Who joins a video room: the `ptype` of a `join` and the fields that go with it. -/
inductive Ptype where
  | publisher (display : String)
  | subscriber (feed private_id : Int)
  deriving DecidableEq

/-- The `body` of a message, by its `request`. -/
inductive Body where
  | join (room : UInt32) (ptype : Ptype)
  | setup
  | create (room : UInt32)
  | destroy (room : UInt32)
  | configure (audio video : Bool)
  | start (room : UInt32)
  | ack
  deriving DecidableEq

/-- The `jsep` of a message. -/
structure Jsep where
  type : String
  sdp : String
  deriving DecidableEq

/-- The `candidate` of a trickle message. -/
inductive Candidate where
  | completed
  | candidate (candidate sdpMid : String) (sdpMLineIndex : Int32)
  deriving DecidableEq

/-- A request, by its `janus` field. Numbers that the client casts to `double` are
the integers those doubles stand for. -/
inductive Request where
  | create
  | keepalive
  | attach (plugin : Plugin)
  | message (handle_id : Int) (body : Body) (jsep : Option Jsep)
  | trickle (handle_id : Int) (candidate : Candidate)
  deriving DecidableEq

/-- One text sent on the web socket. -/
structure Message where
  transaction : String
  session_id : Option Int
  request : Request
  deriving DecidableEq

/-- The `handle_id` of a message, if it has one. -/
def Message.handle_id? (m : Message) : Option Int :=
  match m.request with
  | .message handle_id _ _ => some handle_id
  | .trickle handle_id _ => some handle_id
  | _ => none

/-- The `body` of a message, if it has one. -/
def Message.body? (m : Message) : Option Body :=
  match m.request with
  | .message _ body _ => some body
  | _ => none

/-- What is sent on a data channel. -/
inductive DataMessage where
  | join (transaction : String) (room : Int32) (username display : String)
  | message (transaction : String) (room : Int32) (text : String)
  deriving DecidableEq

/-! ## Callbacks -/

/-- The member functions of a peer that are bound as reply continuations. -/
inductive PeerMember where
  | onAttachVideoRoomJoin
  | onAttachVideoRoomCreate
  | onAttachTextRoomJoin
  | onAttachTextRoomCreate
  | onAttachVideoRoomDestory
  | onAttachTextRoomDestory
  | onCreateVideoRoom
  | onCreateTextRoom
  | onDestoryVideoRoom
  | onDestoryTextRoom
  deriving DecidableEq

/-- A `janus_event_listener`: a member function bound to the manager or to a peer. -/
inductive Continuation where
  | onCreateSessionId
  | onHeartBeat
  | peer (this : Ptr) (member : PeerMember)
  deriving DecidableEq

/-- The manager's functions that a peer may be given as `CREATEROOM_CALLBACK`. -/
inductive RoomCallback where
  | onCreateVideoRoomSuccessed
  | onCreateVideoRoomFailed
  | onCreateTextRoomSuccessed
  | onCreateTextRoomFailed
  | onDestroyVideoRoomSuccessed
  | onDestroyVideoRoomFailed
  | onDestroyTextRoomSuccessed
  | onDestroyTextRoomFailed
  deriving DecidableEq

/-- The eight optional callbacks of a peer. -/
structure RoomCallbacks where
  onCreateVideoRoomSuccessedCallback : Option RoomCallback := none
  onCreateVideoRoomFailedCallback : Option RoomCallback := none
  onCreateTextRoomSuccessedCallback : Option RoomCallback := none
  onCreateTextRoomFailedCallback : Option RoomCallback := none
  onDestroyVideoRoomSuccessedCallback : Option RoomCallback := none
  onDestroyVideoRoomFailedCallback : Option RoomCallback := none
  onDestroyTextRoomSuccessedCallback : Option RoomCallback := none
  onDestroyTextRoomFailedCallback : Option RoomCallback := none

/-! ## Objects -/

structure JanusPeerConnection extends RoomCallbacks where
  mSessionID : Int
  mVideoRoomHandleID : Int
  mTextRoomHandleID : Int
  mPrivateId : Int := 0
  mSubscribeId : Int := 0
  mVideoRoomId : UInt32
  mTextRoomId : UInt32
  mVideoRoomDisplayName : String := "cc"

structure JanusVideoRoomManager where
  mVideoRoomID : Int32 := 1234
  mSessionId : Int := 0
  mPrivatedId : Int := 0
  mMessage_success_callback : AList (fun _ : String => Continuation) := ∅
  mMessage_ack_callback : AList (fun _ : String => Continuation) := ∅
  mVideoRoomPeerList : List Ptr := []
  mTextRoomPeerList : List Ptr := []
  pCreateVideoRoomPeer : Option Ptr := none
  pCreateTextRoomPeer : Option Ptr := none

/-- A stream that shows video; no window is set before `SetWindowID`. -/
structure WebrtcStreamVideoAudio where
  mHandleID : Int
  mIsLocal : Bool := false
  mWindowID : Option WindowId := none

/-- A data-channel stream: whether its channel exists, and whether it still holds
the function that supplies the join message. -/
structure WebrtcStreamDataChannels where
  mHandleID : Int
  mDataChannel : Bool := false
  OnSendLocalInfoWhenOpenDataChannel : Bool := false

structure iceCandidate where
  sdp_mid : String
  sdp_mline_index : Int32
  sdp : String
  deriving DecidableEq

/-- `RemoteStreamInfo_VideoAudio` and `RemoteStreamInfo_DataChannels`, which differ
in the class of the stream only. -/
structure RemoteStreamInfo where
  stream : Ptr
  sdp : String := ""
  sdpType : String := ""
  iceCandidateList : List iceCandidate := []
  canSendSDP : Bool
  canSendCandidate : Bool

/-- A stream table, keyed by handle id. -/
abbrev StreamTable := AList (fun _ : Int => RemoteStreamInfo)

structure ConferenceManager where
  mRemoteStreamInfos_VideoAudio : StreamTable := ∅
  mRemoteStreamInfos_DataChannels : StreamTable := ∅
  mRemoteWinds : List (WindowId × Int) := []
  LocalStream_DataChannels : Option Ptr := none
  mTextRoomID : Int32
  mTextRoomDisplayName : String := ""

/-! ## Effects -/

/-- The two kinds of replies that continuations wait for. -/
inductive ReplyKind where
  | success
  | ack
  deriving DecidableEq

/-- What the log records. A message sent by a peer's member function names the peer;
`registered` and `invoked` record the life of a continuation; a destroyed stream
says whether it was deleted by name or lost its last reference. -/
inductive Effect where
  | sent (sender : Option Ptr) (m : Message)
  | registered (kind : ReplyKind) (transaction : String) (func : Continuation)
  | invoked (kind : ReplyKind) (transaction : String) (func : Continuation) (object : Json)
  | roomCallback (callback : RoomCallback) (roomId : UInt32)
  | badFunctionCall
  | onConnectToPeer (id : Int) (show_ isConnect isLocal : Bool)
  | onRemoteSdp (id : Int) (type sdp : String) (isTextRoom : Bool)
  | onRemoteStreamRemove (id : Int)
  | resetTimer
  | connectToPeer (stream : Ptr)
  | setPeerSDP (isTextRoom : Bool) (stream : Ptr) (type sdp : String)
  | streamDestroyed (isTextRoom : Bool) (stream : Ptr) (explicit : Bool)
  | dataSent (stream : Ptr) (m : DataMessage)

/-- Behaviour the language does not define: a call on an object that is gone, or
through a null pointer. -/
inductive Fault where
  | deadPeer (this : Ptr)
  | deadStream (this : Ptr)
  | nullPointer
  deriving DecidableEq

/-! ## The whole client -/

/-- What the constructor of a peer leaves in the fields it does not set. -/
structure Junk where
  mVideoRoomHandleID : Int
  mTextRoomHandleID : Int
  mVideoRoomId : UInt32
  mTextRoomId : UInt32

/-- What the program takes from outside without asking: the numbers of `qrand`, and
the contents of memory that no constructor sets. -/
structure Env where
  qrand : Nat → Nat
  junk : Ptr → Junk
  junkTextRoomID : Int32

/-- Surroundings for concrete runs: the numbers count up, unset fields are zero. -/
def Env.sample : Env := { qrand := id, junk := fun _ => ⟨0, 0, 0, 0⟩, junkTextRoomID := 0 }

def charSet : List Char :=
  "ABCDEFGHIJKLMNOPQRSTUVWXYZabcdefghijklmnopqrstuvwxyz0123456789".toList

/-- `GetRandomString(len)`, the `call`-th call of it: `len` draws of `qrand`. -/
def GetRandomString (qrand : Nat → Nat) (len call : Nat) : String :=
  String.ofList ((List.range len).map fun j =>
    charSet.getD (qrand (call * len + j) % charSet.length) 'A')

/-- The `call`-th random string; the client only ever asks for 12 characters. -/
def Env.random (env : Env) (call : Nat) : String := GetRandomString env.qrand 12 call

/-- The client between two events. `constructed`, `videoStreams` and `dataStreams`
count the objects made so far, `draws` the random strings drawn. After a `fault`
what the program does is not defined; the model only records that it came to it. -/
structure Client where
  janus : JanusVideoRoomManager := {}
  conference : ConferenceManager
  peers : Ptr → Option JanusPeerConnection := fun _ => none
  constructed : Nat := 0
  videoHeap : Ptr → Option WebrtcStreamVideoAudio := fun _ => none
  videoStreams : Nat := 0
  dataHeap : Ptr → Option WebrtcStreamDataChannels := fun _ => none
  dataStreams : Nat := 0
  draws : Nat := 0
  log : List Effect := []
  fault : Option Fault := none

/-- A client just constructed. -/
def Client.initial (env : Env) : Client :=
  { conference := { mTextRoomID := env.junkTextRoomID } }

/-- The random strings the client has drawn so far are pairwise distinct. -/
def Client.Distinct (env : Env) (s : Client) : Prop :=
  Set.InjOn env.random (Set.Iio s.draws)

end WebrtcDemo
