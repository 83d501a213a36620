import WebrtcDemo.Client.State

/-!
# The view of WebrtcStreamVideoAudio.cpp

How a stream shows the video of the other side: the track it shows, the render
object that paints it, and the window. The constructor sets neither `mRender`
nor `mWindowID`. Render objects are numbered in the order of `new`; the sinks
registered on the tracks and the calls of `delete` are recorded.
-/

namespace WebrtcDemo

/-- What a `WebrtcVideoFrame *` holds: nothing, the address of a render object of this
stream, or any other address. -/
inductive RenderPointer where
  | null
  | render (number : Nat)
  | stray
  deriving DecidableEq

/-- `MediaStreamTrackInterface::kind`. -/
inductive MediaKind where
  | audio
  | video
  deriving DecidableEq

/-- The track of a receiver. -/
structure Track where
  track : Nat
  kind : MediaKind
  deriving DecidableEq

/-- A stream with what it has done to tracks and to the heap. `renders` lists the windows
of the render objects made so far, `sinks` which of them are registered on which track. -/
structure View where
  mIsLocal : Bool := false
  mVideoTrack : Option Nat := none
  mRender : RenderPointer
  mWindowID : WindowId
  renders : List WindowId := []
  sinks : List (Nat × RenderPointer) := []
  deleted : List RenderPointer := []
  destroyed : Bool := false

/-- What can happen to a stream that shows video. -/
inductive ViewEvent where
  | SetIsLocal (inIsLocal : Bool)
  | SetWindowID (iWindowID : WindowId)
  | OnAddTrack (receiver : Track)
  | OnRemoveTrack (receiver : Track)
  | StopView
  | destructor
  deriving DecidableEq

namespace View

/-- A stream just constructed, with whatever the two unset fields hold. -/
def constructed (mRender : RenderPointer) (mWindowID : WindowId) : View := { mRender, mWindowID }

section
variable (v : View)

/-- `VideoTrackInterface::AddOrUpdateSink`: a sink is registered once. -/
def AddOrUpdateSink (track : Nat) (sink : RenderPointer) : View :=
  if (track, sink) ∈ v.sinks then v else { v with sinks := v.sinks ++ [(track, sink)] }

/-- `VideoTrackInterface::RemoveSink`. -/
def RemoveSink (track : Nat) (sink : RenderPointer) : View :=
  { v with sinks := v.sinks.filter (· ≠ (track, sink)) }

/-- `WebrtcVideoFrame::SetWindowID`. -/
def setRenderWindow (sink : RenderPointer) (iWindowID : WindowId) : View :=
  match sink with
  | .render number => { v with renders := v.renders.set number iWindowID }
  | _ => v

def StartView : View :=
  match v.mVideoTrack with
  | some track =>
    let render := RenderPointer.render v.renders.length
    let v := { v with mRender := render, renders := v.renders ++ [v.mWindowID] }
    v.AddOrUpdateSink track render
  | none => v

def StopView : View :=
  match v.mVideoTrack with
  | some track =>
    let v := v.RemoveSink track v.mRender
    let v := { v with mVideoTrack := none }
    v.setRenderWindow v.mRender (-1)
  | none => v

def OnAddTrack (receiver : Track) : View :=
  if receiver.kind = .video then
    if v.mIsLocal then v else StartView { v with mVideoTrack := some receiver.track }
  else v

def OnRemoveTrack (receiver : Track) : View :=
  if v.mIsLocal then v
  else if receiver.kind = .video then v.StopView
  else v

/-- `~WebrtcStreamVideoAudio`. -/
def destructor : View :=
  let v := v.StopView
  let v := { v with mVideoTrack := none }
  let v := if v.mRender ≠ .null then { v with deleted := v.deleted ++ [v.mRender] } else v
  { v with mRender := .null, mWindowID := -1, destroyed := true }

/-- Handle one event. -/
def handle : ViewEvent → View
  | .SetIsLocal inIsLocal => { v with mIsLocal := inIsLocal }
  | .SetWindowID iWindowID => { v with mWindowID := iWindowID }
  | .OnAddTrack receiver => v.OnAddTrack receiver
  | .OnRemoveTrack receiver => v.OnRemoveTrack receiver
  | .StopView => v.StopView
  | .destructor => v.destructor

/-- Nothing happens to a stream that is gone. -/
def step (e : ViewEvent) : View := if v.destroyed then v else v.handle e

end

end View

end WebrtcDemo
