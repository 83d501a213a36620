import WebrtcDemo.Video.Render

/-!
# VcmCapture.cpp and VideoCapture.cpp

A captured frame is shown in the preview and then adapted and broadcast. The clock, the
adapter and what libwebrtc does to pictures are outside: the adapter is a machine of its
own that answers each request with the sizes to crop and to scale to, or drops the frame.
Widgets come and go, are painted, and show the frames of other streams as well.
-/

namespace WebrtcDemo

/-- An accepted result of `AdaptFrameResolution`. -/
structure Adapted where
  cropped_width : Nat
  cropped_height : Nat
  out_width : Nat
  out_height : Nat

/-- `cricket::VideoAdapter::AdaptFrameResolution`. -/
abbrev VideoAdapter (σ : Type*) :=
  σ → (in_width in_height : Nat) → (in_timestamp_ns : Int64) → σ × Option Adapted

/-- The product of two `int64_t`s has no meaning. -/
def mulOverflows (a b : Int64) : Bool :=
  decide (a.toInt * b.toInt < Int64.minValue.toInt ∨ Int64.maxValue.toInt < a.toInt * b.toInt)

/-- The capturer: the state of its adapter, the frames that came to it, the time stamps it
gave to the adapter and the frames it broadcast, and whether a product has overflowed. -/
structure VideoCapture (σ I : Type*) where
  video_adapter_ : σ
  received : List (VideoFrame I) := []
  adapted : List Int64 := []
  broadcaster_ : List (VideoFrame I) := []
  overflow : Bool := false

namespace VideoCapture

section
variable {σ I : Type*} [Picture I] (lib : FrameLibrary I) (adapter : VideoAdapter σ)
  (c : VideoCapture σ I) (frame : VideoFrame I)

/-- The frame that is broadcast when the adapter accepts. The source makes a rotated buffer
too and does not use it. -/
def output (accepted : Adapted) : VideoFrame I :=
  if accepted.out_height ≠ frame.height ∨ accepted.out_width ≠ frame.width then
    { video_frame_buffer :=
        lib.ScaleFrom accepted.out_width accepted.out_height frame.video_frame_buffer
      rotation := .kVideoRotation_0
      timestamp_us := frame.timestamp_us
      id := frame.id }
  else frame

def OnFrame : VideoCapture σ I :=
  let in_timestamp_ns := frame.timestamp_us * 1000
  let c := { c with
    received := c.received ++ [frame]
    adapted := c.adapted ++ [in_timestamp_ns]
    overflow := c.overflow || mulOverflows frame.timestamp_us 1000 }
  let (video_adapter_, accepted?) := adapter c.video_adapter_ frame.width frame.height in_timestamp_ns
  let c := { c with video_adapter_ := video_adapter_ }
  match accepted? with
  | none => c
  | some accepted => { c with broadcaster_ := c.broadcaster_ ++ [output lib frame accepted] }

end

end VideoCapture

/-- The capturer of the camera, and the window of its preview. -/
structure VcmCapture (σ : Type*) extends VideoCapture σ I420Buffer where
  mWindowID : WindowId

/-- The camera with the widgets on the screen. -/
structure Camera (σ : Type*) where
  capturer : VcmCapture σ
  screen : Screen

namespace VcmCapture

section
variable {σ : Type*} (lib : FrameLibrary I420Buffer) (adapter : VideoAdapter σ)
  (memory : Nat → UInt8) (s : Camera σ)

/-- The preview comes first, and without a widget the callback returns. -/
def OnFrame (frame : VideoFrame I420Buffer) : Camera σ :=
  match showFrame lib memory s.screen s.capturer.mWindowID frame with
  | none => s
  | some screen =>
    { capturer := { s.capturer with
        toVideoCapture := s.capturer.toVideoCapture.OnFrame lib adapter frame }
      screen := screen }

/-- A picture of the camera, when `rtc::TimeMicros` reads `now`. -/
def SendFrame (now : Int64) (source : I420Buffer) (frame_id : UInt16) : Camera σ :=
  let buffer := lib.Copy source
  let timestamp_us := now * 1000
  let s := { s with
    capturer := { s.capturer with overflow := s.capturer.overflow || mulOverflows now 1000 } }
  OnFrame lib adapter memory s
    { video_frame_buffer := buffer
      rotation := .kVideoRotation_0
      timestamp_us := timestamp_us
      id := frame_id }

end

end VcmCapture

/-! ## The program around it -/

/-- What happens to the camera and to the widgets. The callbacks are given what their
allocations happen to hold. -/
inductive ScreenEvent where
  | captured (memory : Nat → UInt8) (frame : VideoFrame I420Buffer)
  | received (memory : Nat → UInt8) (mWindowID : WindowId) (frame : VideoFrame I420Buffer)
  | SetWindowID (inWindowID : WindowId)
  | opened (window : WindowId) (memory : Nat → UInt8)
  | closed (window : WindowId)
  | paintGL (window : WindowId)

namespace Camera

section
variable {σ : Type*} (lib : FrameLibrary I420Buffer) (adapter : VideoAdapter σ) (s : Camera σ)

def SetWindowID (inWindowID : WindowId) : Camera σ :=
  { s with capturer := { s.capturer with mWindowID := inWindowID } }

/-- A callback is one step here, as if nothing else came at the screen before it returns. -/
def step : ScreenEvent → Camera σ
  | .captured memory frame => VcmCapture.OnFrame lib adapter memory s frame
  | .received memory mWindowID frame =>
    { s with screen := WebrtcVideoFrame.OnFrame lib memory s.screen mWindowID frame }
  | .SetWindowID inWindowID => s.SetWindowID inWindowID
  | .opened window memory =>
    { s with screen := Function.update s.screen window (some { pBufYuv420p := memory }) }
  | .closed window => { s with screen := Function.update s.screen window none }
  | .paintGL window =>
    { s with screen := Function.update s.screen window ((s.screen window).map (·.paintGL)) }

end

end Camera

end WebrtcDemo
