import WebrtcDemo.Client.State

/-!
# WebrtcStreamBase.cpp

A stream at the grain of its peer connection, with the initialisers of its two
classes. What the library answers comes with each event: whether the factory makes
a connection, what the new connection says, how a description parses. Every call on
the connection is recorded with whether there was one; a description that was asked
for comes later, by `OnSuccess`, or fails.
-/

namespace WebrtcDemo

/-- The classes of streams. -/
inductive StreamClass where
  | VideoAudio
  | DataChannels
  deriving DecidableEq

/-- The operations invoked on `mPeerConnection`. -/
inductive ConnectionCall where
  | SetBitrate
  | GetSenders
  | AddTrack
  | CreateDataChannel
  | CreateOffer
  | SetRemoteDescription
  | CreateAnswer
  | SetLocalDescription
  deriving DecidableEq

/-- `SessionDescriptionInterface::type` of what was parsed. -/
inductive SdpType where
  | kOffer
  | kPrAnswer
  | kAnswer
  deriving DecidableEq

/-- The answers to one attempt to make a connection: whether there is one, whether it
already has senders, whether it makes a data channel. -/
structure Factory where
  connection : Bool
  senders : Bool := false
  channel : Bool := true
  deriving DecidableEq

/-- A stream by whether its pointers are null. `descriptions` counts the offers and answers
asked for and not yet made, `calls` records the operations invoked on `mPeerConnection` with
whether it was there, and `LocalSDP` what was signalled. -/
structure PeerStream where
  streamClass : StreamClass
  mHandleID : Int
  mPeerConnection : Bool := false
  mDataChannel : Bool := false
  descriptions : Nat := 0
  calls : List (ConnectionCall × Bool) := []
  LocalSDP : List (Int × Jsep) := []

/-- What can happen to the connection of a stream. -/
inductive ConnectionEvent where
  | ConnectToPeer (factory : Factory)
  | SetPeerSDP (factory : Factory) (session_description : Option SdpType)
  | DeletePeerConnection
  | OnSuccess (desc : Jsep)
  | OnFailure
  deriving DecidableEq

namespace PeerStream

/-- A stream just constructed. -/
def constructed (streamClass : StreamClass) (inHandleID : Int) : PeerStream :=
  { streamClass, mHandleID := inHandleID }

section
variable (s : PeerStream)

/-- Invoke an operation on `mPeerConnection`. -/
def invoke (call : ConnectionCall) : PeerStream :=
  { s with calls := s.calls ++ [(call, s.mPeerConnection)] }

/-- `createPeerConnection`: the bit rate is set before the result is looked at. -/
def createPeerConnection (factory : Factory) : PeerStream × Bool :=
  let s := { s with mPeerConnection := factory.connection }
  let s := s.invoke .SetBitrate
  (s, s.mPeerConnection)

def DeletePeerConnection : PeerStream := { s with mPeerConnection := false, mHandleID := -1 }

def addTracks (factory : Factory) : PeerStream :=
  let s := s.invoke .GetSenders
  if factory.senders then s else (s.invoke .AddTrack).invoke .AddTrack

def CreateDataChannel (factory : Factory) : PeerStream :=
  { s.invoke .CreateDataChannel with mDataChannel := factory.channel }

/-- `initializePeerConnection` of the two classes: what follows the creation is done whether
or not it failed. -/
def initializePeerConnection (factory : Factory) : PeerStream × Bool :=
  let (s, created) := s.createPeerConnection factory
  let s := if created then s else s.DeletePeerConnection
  let s :=
    match s.streamClass with
    | .VideoAudio => s.addTracks factory
    | .DataChannels => s.CreateDataChannel factory
  (s, s.mPeerConnection)

/-- Ask for an offer or an answer, which comes later. -/
def askDescription (call : ConnectionCall) : PeerStream :=
  { s.invoke call with descriptions := s.descriptions + 1 }

def ConnectToPeer (factory : Factory) : PeerStream :=
  if s.mPeerConnection then s
  else
    let (s, initialized) := s.initializePeerConnection factory
    if initialized then s.askDescription .CreateOffer else s

/-- The head of `SetPeerSDP`: a connection is made unless there is one. -/
def ensurePeerConnection (factory : Factory) : PeerStream × Bool :=
  if s.mPeerConnection then (s, true) else s.initializePeerConnection factory

/-- `SetPeerSDP`, which the two classes write alike. -/
def SetPeerSDP (factory : Factory) (session_description : Option SdpType) : PeerStream × Bool :=
  let (s, initialized) := s.ensurePeerConnection factory
  if initialized then
    match session_description with
    | none => (s, false)
    | some type =>
      let s := s.invoke .SetRemoteDescription
      if type = .kOffer then (s.askDescription .CreateAnswer, true) else (s, true)
  else (s, false)

def OnSuccess (desc : Jsep) : PeerStream :=
  let s := s.invoke .SetLocalDescription
  { s with LocalSDP := s.LocalSDP ++ [(s.mHandleID, desc)] }

/-- Handle one event. Only streams that show video connect to a peer, and only a description
that was asked for is made. -/
def step : ConnectionEvent → PeerStream
  | .ConnectToPeer factory =>
    match s.streamClass with
    | .VideoAudio => s.ConnectToPeer factory
    | .DataChannels => s
  | .SetPeerSDP factory session_description => (s.SetPeerSDP factory session_description).1
  | .DeletePeerConnection => s.DeletePeerConnection
  | .OnSuccess desc =>
    match s.descriptions with
    | 0 => s
    | asked + 1 => OnSuccess { s with descriptions := asked } desc
  | .OnFailure => { s with descriptions := s.descriptions - 1 }

end

end PeerStream

end WebrtcDemo
