import WebrtcDemo.Video.Capture

/-!
# The callbacks on their threads

`OnFrame` runs on the thread that the frame comes on, and between two of its calls of the
widget anything may happen on another thread: the widget is painted or deleted, another
callback calls it. Here each of these calls is a step of its own.
-/

namespace WebrtcDemo

/-! ## A callback -/

/-- The threads that frames come on: that of the camera, and those of the streams. -/
inductive FrameThread where
  | camera
  | stream (stream : Ptr)
  deriving DecidableEq

/-- What `OnFrame` does to its widget. Where the sizes of the packing overflow, what it does is
not defined. -/
inductive WidgetCall where
  | SetVideoSize (width height : Nat)
  | SetYUVData (yuvBuffer : Block UInt8)
  | SetViewStated (flag : Bool)
  | overflow

def VideoRender.call (v : VideoRender) : WidgetCall → VideoRender
  | .SetVideoSize width height => v.SetVideoSize width height
  | .SetYUVData yuvBuffer => v.SetYUVData yuvBuffer
  | .SetViewStated flag => v.SetViewStated flag
  | .overflow => { v with fault := some .overflow }

/-- Pack a buffer; the calls to make of the widget then. -/
def publishCalls (memory : Nat → UInt8) (buffer : I420Buffer) : List WidgetCall :=
  match pack memory buffer with
  | none => [.overflow]
  | some yuvBuffer =>
    [.SetVideoSize buffer.width buffer.height, .SetYUVData yuvBuffer, .SetViewStated true]

/-- A callback under way: the widget that it found, by its window, the calls that it has still
to make, and its frame. -/
structure FrameCallback where
  paintWidget : WindowId
  calls : List WidgetCall
  frame : VideoFrame I420Buffer

/-! ## The threads -/

/-- The camera with the widgets on the screen, and the callbacks that are under way. -/
structure Threads (σ : Type*) where
  camera : Camera σ
  callbacks : FrameThread → Option FrameCallback := fun _ => none

/-- A frame comes on its thread, a callback goes on, or something happens to the windows. -/
inductive ThreadEvent where
  | captured (memory : Nat → UInt8) (frame : VideoFrame I420Buffer)
  | received (stream : Ptr) (memory : Nat → UInt8) (mWindowID : WindowId)
    (frame : VideoFrame I420Buffer)
  | next (thread : FrameThread)
  | SetWindowID (inWindowID : WindowId)
  | opened (window : WindowId) (memory : Nat → UInt8)
  | closed (window : WindowId)
  | paintGL (window : WindowId)

namespace Threads

section
variable {σ : Type*} (lib : FrameLibrary I420Buffer) (adapter : VideoAdapter σ) (s : Threads σ)

/-- `OnFrame` up to its first call: without a widget it returns. A thread in a callback comes to
no other. -/
def enter (thread : FrameThread) (memory : Nat → UInt8) (mWindowID : WindowId)
    (frame : VideoFrame I420Buffer) : Threads σ :=
  match s.callbacks thread, s.camera.screen mWindowID with
  | none, some _ =>
    let callback : FrameCallback :=
      { paintWidget := mWindowID, calls := publishCalls memory (lib.upright frame), frame }
    { s with callbacks := Function.update s.callbacks thread (some callback) }
  | _, _ => s

/-- `SendFrame`, up to the first call of the widget of the preview. -/
def SendFrame (memory : Nat → UInt8) (now : Int64) (source : I420Buffer) (frame_id : UInt16) :
    Threads σ :=
  let buffer := lib.Copy source
  let timestamp_us := now * 1000
  let s := { s with
    camera := { s.camera with
      capturer := { s.camera.capturer with
        overflow := s.camera.capturer.overflow || mulOverflows now 1000 } } }
  s.enter lib .camera memory s.camera.capturer.mWindowID
    { video_frame_buffer := buffer
      rotation := .kVideoRotation_0
      timestamp_us := timestamp_us
      id := frame_id }

/-- The end of `OnFrame`: that of the capturer goes on to `VideoCapture::OnFrame`. -/
def finish (thread : FrameThread) (frame : VideoFrame I420Buffer) : Threads σ :=
  let s := { s with callbacks := Function.update s.callbacks thread none }
  match thread with
  | .camera =>
    { s with
      camera := { s.camera with
        capturer := { s.camera.capturer with
          toVideoCapture := s.camera.capturer.toVideoCapture.OnFrame lib adapter frame } } }
  | .stream _ => s

/-- A call of the widget, before the calls that are left. -/
def call (thread : FrameThread) (callback : FrameCallback) (call : WidgetCall)
    (calls : List WidgetCall) : Threads σ where
  camera :=
    { s.camera with
      screen := Function.update s.camera.screen callback.paintWidget
        ((s.camera.screen callback.paintWidget).map (·.call call)) }
  callbacks := Function.update s.callbacks thread (some { callback with calls })

/-- One call of the widget, or the end. -/
def next (thread : FrameThread) : Threads σ :=
  match s.callbacks thread with
  | none => s
  | some callback =>
    match callback.calls with
    | [] => s.finish lib adapter thread callback.frame
    | call :: calls => s.call thread callback call calls

def step : ThreadEvent → Threads σ
  | .captured memory frame =>
    s.enter lib .camera memory s.camera.capturer.mWindowID frame
  | .received stream memory mWindowID frame => s.enter lib (.stream stream) memory mWindowID frame
  | .next thread => s.next lib adapter thread
  | .SetWindowID inWindowID =>
    { s with camera := s.camera.step lib adapter (.SetWindowID inWindowID) }
  | .opened window memory => { s with camera := s.camera.step lib adapter (.opened window memory) }
  | .closed window => { s with camera := s.camera.step lib adapter (.closed window) }
  | .paintGL window => { s with camera := s.camera.step lib adapter (.paintGL window) }

end

end Threads

end WebrtcDemo
