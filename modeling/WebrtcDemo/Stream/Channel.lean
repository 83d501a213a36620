import WebrtcDemo.Client.State

/-!
# The channel of WebrtcStreamDataChannels.cpp

A data-channel stream at the grain of its channel: the state the channel reports,
the buffers it accepts and what `SendDataViaDataChannel` returns. A channel accepts
a buffer exactly while it is open. Its states change by themselves, and it tells of
a change later, by `OnStateChange`.
-/

namespace WebrtcDemo

/-- `DataChannelInterface::DataState`. -/
inductive DataState where
  | kConnecting
  | kOpen
  | kClosing
  | kClosed
  deriving DecidableEq

/-- A stream with its channel, if it has one, by the state of the channel. `supplied` is
what the supplier of the join message gave, `returned` the messages of the application for
which `SendDataViaDataChannel` returned true. -/
structure Channel where
  mDataChannel : Option DataState
  OnSendLocalInfoWhenOpenDataChannel : Bool := true
  accepted : List DataMessage := []
  supplied : Option DataMessage := none
  returned : List DataMessage := []

/-- What can happen to the channel. A notification comes with what the supplier would give
if it were asked then. -/
inductive ChannelEvent where
  | CreateDataChannel (made : Bool)
  | CloseDataChannel
  | stateChanged (state : DataState)
  | OnStateChange (sendMessage : DataMessage)
  | SendDataViaDataChannel (data : DataMessage)
  deriving DecidableEq

namespace Channel

/-- A stream whose supplier is registered, before it has a channel or with one. -/
def registered (mDataChannel : Option DataState) : Channel := { mDataChannel }

section
variable (c : Channel)

/-- `DataChannelInterface::Send`; its result is not used. -/
def Send (buffer : DataMessage) : Channel :=
  if c.mDataChannel = some .kOpen then { c with accepted := c.accepted ++ [buffer] } else c

/-- The state after, and the result. -/
def SendDataViaDataChannel (data : DataMessage) : Channel × Bool :=
  match c.mDataChannel with
  | none => (c, false)
  | some _ => (c.Send data, true)

def OnStateChange (sendMessage : DataMessage) : Channel :=
  match c.mDataChannel with
  | some state =>
    if state = .kOpen then
      if c.OnSendLocalInfoWhenOpenDataChannel then
        let c := { c with supplied := some sendMessage }
        let c := (c.SendDataViaDataChannel sendMessage).1
        { c with OnSendLocalInfoWhenOpenDataChannel := false }
      else c
    else c
  | none => c

/-- Handle one event. -/
def step : ChannelEvent → Channel
  | .CreateDataChannel made => { c with mDataChannel := if made then some .kConnecting else none }
  | .CloseDataChannel => { c with mDataChannel := none }
  | .stateChanged state => { c with mDataChannel := c.mDataChannel.map fun _ => state }
  | .OnStateChange sendMessage => c.OnStateChange sendMessage
  | .SendDataViaDataChannel data =>
    let (c, sent) := c.SendDataViaDataChannel data
    if sent then { c with returned := c.returned ++ [data] } else c

end

end Channel

end WebrtcDemo
